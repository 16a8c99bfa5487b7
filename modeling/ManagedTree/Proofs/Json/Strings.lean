import ManagedTree.Node.Printer
import ManagedTree.Node.Reader
import Mathlib.Tactic.SplitIfs

/-!
# Texts in JSON strings

The JSON string of a text is read back as that text, whatever characters it has.
-/

namespace ManagedTree
namespace Json

/-- The hexadecimal digits that strings are written with have their values. -/
theorem hexDigit?_digitChar :
    ∀ value < 16, hexDigit? (.char (Nat.digitChar value)) = some value := by
  decide

/-- A digit takes one byte. -/
theorem utf8Size_digitChar :
    ∀ value < 16, (Nat.digitChar value).utf8Size = 1 := by
  decide

/-- Four digits of which the first two are zero denote the code unit of the other two. -/
theorem readUnit_digits
    {unit : Nat}
    (small : unit < 0x20)
    (rest : List Glyph) :
    readUnit (.char '0' :: .char '0' :: .char (Nat.digitChar (unit / 16)) ::
      .char (Nat.digitChar (unit % 16)) :: rest) = .ok (unit, rest) := by
  have high : unit / 16 < 16 := by omega
  have low : unit % 16 < 16 := by omega
  have whole : byteLength [.char '0', .char '0', .char (Nat.digitChar (unit / 16)),
      .char (Nat.digitChar (unit % 16))] = 4 := by
    have narrow : '0'.utf8Size = 1 := rfl
    simp [byteLength, Glyph.width, narrow, utf8Size_digitChar _ high, utf8Size_digitChar _ low]
  have zero : hexDigit? (.char '0') = some 0 := rfl
  have value : unit / 16 * 16 + unit % 16 = unit := by omega
  rw [readUnit, List.take_succ_cons, List.take_succ_cons, List.take_succ_cons,
    List.take_succ_cons, List.take_zero, whole, if_neg (Nat.lt_irrefl 4)]
  rw [zero, hexDigit?_digitChar _ high, hexDigit?_digitChar _ low]
  simp [value]

/-- What is read after a character, with that character before it. -/
def after (character : Char) (read : Except JsonFlaw (Front (List Char))) :
    Except JsonFlaw (Front (List Char)) :=
  read.map fun front => (character :: front.1, front.2)

theorem bind_eq_after
    (character : Char)
    (read : Except JsonFlaw (Front (List Char))) :
    (read >>= fun front => .ok (character :: front.1, front.2)) = after character read := by
  cases read <;> rfl

/-- A character that has no escape stands for itself. -/
theorem readCharacters_plain
    {character : Char}
    (quote : character ≠ '"')
    (backslash : character ≠ '\\')
    (visible : ¬ character.toNat < 0x20)
    (budget : Nat)
    (rest : List Glyph) :
    readCharacters (budget + 1) true (.char character :: rest) =
      after character (readCharacters budget true rest) := by
  rw [readCharacters]
  · rw [if_neg visible]
    exact bind_eq_after character _
  · exact quote
  · exact backslash

/-- An escape stands for its character. -/
theorem readCharacters_escaped
    {character : Char}
    {spelled : List Char}
    {rest : List Glyph}
    (escape : readEscape (Glyph.ofText spelled ++ rest) = .ok (character, rest))
    (budget : Nat) :
    readCharacters (budget + 1) true (Glyph.ofText ('\\' :: spelled) ++ rest) =
      after character (readCharacters budget true rest) := by
  rw [Glyph.ofText_cons, List.cons_append, readCharacters, escape]
  exact bind_eq_after character _

/-- The escape of a control character is read back as that character. -/
theorem readEscape_control
    {character : Char}
    (control : character.toNat < 0x20)
    (rest : List Glyph) :
    readEscape (Glyph.ofText ['u', '0', '0', Nat.digitChar (character.toNat / 16),
      Nat.digitChar (character.toNat % 16)] ++ rest) = .ok (character, rest) := by
  have unit := readUnit_digits control rest
  have early : ¬ (0xdc00 ≤ character.toNat ∧ character.toNat ≤ 0xdfff) := by omega
  have single : character.toNat < 0xd800 ∨ 0xdbff < character.toNat := by omega
  calc
    _ = readPoint (.char '0' :: .char '0' :: .char (Nat.digitChar (character.toNat / 16)) ::
          .char (Nat.digitChar (character.toNat % 16)) :: rest) := rfl
    _ = .ok (Char.ofNat character.toNat, rest) := by
      rw [readPoint, unit]
      exact (if_neg early).trans (if_pos single)
    _ = .ok (character, rest) := by rw [Char.ofNat_toNat]

/-- The spelling of a character is read back as that character. -/
theorem readCharacters_escape
    (character : Char)
    (budget : Nat)
    (rest : List Glyph) :
    readCharacters (budget + 1) true (Glyph.ofText (Node.escape character) ++ rest) =
      after character (readCharacters budget true rest) := by
  unfold Node.escape
  split_ifs with quote backslash backspace formFeed lineFeed carriageReturn tab control
  · subst quote
    exact readCharacters_escaped rfl budget
  · subst backslash
    exact readCharacters_escaped rfl budget
  · subst backspace
    exact readCharacters_escaped rfl budget
  · subst formFeed
    exact readCharacters_escaped rfl budget
  · subst lineFeed
    exact readCharacters_escaped rfl budget
  · subst carriageReturn
    exact readCharacters_escaped rfl budget
  · subst tab
    exact readCharacters_escaped rfl budget
  · exact readCharacters_escaped (readEscape_control control rest) budget
  · exact readCharacters_plain quote backslash control budget rest

/-- The spellings of characters are read back as those characters, up to the closing quote. -/
theorem readCharacters_flatMap_escape
    {budget : Nat}
    (characters : List Char)
    (enough : characters.length < budget)
    (rest : List Glyph) :
    readCharacters budget true
      (Glyph.ofText (characters.flatMap Node.escape) ++ .char '"' :: rest) =
        .ok (characters, rest) := by
  induction characters generalizing budget with
  | nil =>
      obtain ⟨budget, rfl⟩ := Nat.exists_eq_succ_of_ne_zero (Nat.ne_of_gt enough)
      rfl
  | cons character characters inductionHypothesis =>
      have positive := Nat.zero_lt_of_lt enough
      obtain ⟨budget, rfl⟩ := Nat.exists_eq_succ_of_ne_zero (Nat.ne_of_gt positive)
      rw [List.flatMap_cons, Glyph.ofText_append, List.append_assoc, readCharacters_escape,
        inductionHypothesis (Nat.lt_of_succ_lt_succ enough)]
      rfl

theorem length_le_length_flatMap_escape (characters : List Char) :
    characters.length ≤ (characters.flatMap Node.escape).length := by
  induction characters with
  | nil => exact Nat.le_refl _
  | cons character characters inductionHypothesis =>
      have spelled : 0 < (Node.escape character).length := by
        unfold Node.escape
        split_ifs <;> exact Nat.succ_pos _
      rw [List.flatMap_cons, List.length_append, List.length_cons]
      omega

/-- The JSON string of a text, after its opening quote, is read back as that text. -/
theorem readString_escape
    (text : String)
    (rest : List Glyph) :
    readString (Glyph.ofText (text.toList.flatMap Node.escape) ++ .char '"' :: rest) =
      .ok (text, rest) := by
  have enough : text.toList.length <
      (Glyph.ofText (text.toList.flatMap Node.escape) ++ .char '"' :: rest).length + 1 := by
    have shorter := length_le_length_flatMap_escape text.toList
    simp only [List.length_append, Glyph.length_ofText, List.length_cons]
    omega
  rw [readString, readCharacters_flatMap_escape _ enough]
  exact congrArg (fun read => Except.ok (read, rest)) String.ofList_toList

end Json
end ManagedTree
