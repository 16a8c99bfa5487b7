import Mathlib.Tactic.SplitIfs

/-!
# The bytes of texts

Texts are ordered character by character.  Their bytes in UTF-8 are in the same order, byte by byte:
no character's bytes go on with those of another one, and the first byte that differs is less for
the lesser character.
-/

namespace ManagedTree
namespace Text

/-- The bytes of a text in UTF-8. -/
def bytes (text : String) : List UInt8 :=
  text.toUTF8.data.toList

theorem bytes_eq (text : String) : bytes text = text.toList.flatMap String.utf8EncodeChar := by
  have characters : text.toUTF8 = (String.ofList text.toList).toByteArray := by
    rw [String.ofList_toList]
    rfl
  rw [bytes, characters, String.toByteArray_ofList, List.utf8Encode, List.data_toByteArray]

/-- Where the first bytes are not the other way round, what follows equal ones decides. -/
theorem ofNat_cons_lt
    {left right : Nat}
    {lefts rights : List UInt8}
    (byte : right < 256)
    (before : left ≤ right)
    (rest : left = right → lefts < rights) :
    UInt8.ofNat left :: lefts < UInt8.ofNat right :: rights := by
  rw [List.cons_lt_cons_iff]
  rcases Nat.lt_or_eq_of_le before with less | same
  · refine Or.inl (UInt8.lt_iff_toNat_lt.2 ?_)
    rw [UInt8.toNat_ofNat_of_lt' (Nat.lt_of_le_of_lt before byte), UInt8.toNat_ofNat_of_lt' byte]
    exact less
  · exact Or.inr ⟨congrArg UInt8.ofNat same, rest same⟩

theorem ofNat_cons_lt_of_lt
    {left right : Nat}
    (byte : right < 256)
    (before : left < right)
    (lefts rights : List UInt8) :
    UInt8.ofNat left :: lefts < UInt8.ofNat right :: rights :=
  ofNat_cons_lt byte (Nat.le_of_lt before) fun same => absurd same (Nat.ne_of_lt before)

/-- The bytes of a character come before those of a later one, whatever follows them. -/
theorem utf8EncodeChar_append_lt
    {left right : Char}
    (before : left < right)
    (lefts rights : List UInt8) :
    String.utf8EncodeChar left ++ lefts < String.utf8EncodeChar right ++ rights := by
  have less : left.val.toNat < right.val.toNat := before
  have scalar : right.val.toNat < 1114112 := by
    have valid := right.valid
    unfold UInt32.isValidChar Nat.isValidChar at valid
    omega
  unfold String.utf8EncodeChar
  dsimp only
  generalize left.val.toNat = low at less
  generalize right.val.toNat = high at less scalar
  split_ifs
  -- A later character is not narrower, and the first byte of a wider one is greater.
  all_goals try omega
  all_goals try exact ofNat_cons_lt_of_lt (by omega) (by omega) _ _
  -- Of two characters with as many bytes, two, three or four, the first byte that differs decides.
  · refine ofNat_cons_lt (by omega) (by omega) fun _ => ?_
    exact ofNat_cons_lt_of_lt (by omega) (by omega) _ _
  · refine ofNat_cons_lt (by omega) (by omega) fun _ => ?_
    refine ofNat_cons_lt (by omega) (by omega) fun _ => ?_
    exact ofNat_cons_lt_of_lt (by omega) (by omega) _ _
  · refine ofNat_cons_lt (by omega) (by omega) fun _ => ?_
    refine ofNat_cons_lt (by omega) (by omega) fun _ => ?_
    refine ofNat_cons_lt (by omega) (by omega) fun _ => ?_
    exact ofNat_cons_lt_of_lt (by omega) (by omega) _ _

/-- The bytes of a text come before those of a later one. -/
theorem flatMap_utf8EncodeChar_lt
    {lefts rights : List Char}
    (before : lefts < rights) :
    lefts.flatMap String.utf8EncodeChar < rights.flatMap String.utf8EncodeChar := by
  induction before with
  | @nil right rights =>
      rw [List.flatMap_nil, List.flatMap_cons]
      cases bytes : String.utf8EncodeChar right with
      | nil => exact absurd bytes String.utf8EncodeChar_ne_nil
      | cons byte others => exact .nil
  | rel less =>
      rw [List.flatMap_cons, List.flatMap_cons]
      exact utf8EncodeChar_append_lt less _ _
  | cons _ inductionHypothesis =>
      rw [List.flatMap_cons, List.flatMap_cons]
      exact List.append_left_lt inductionHypothesis

theorem bytes_lt_of_lt
    {left right : String}
    (before : left < right) :
    bytes left < bytes right := by
  rw [bytes_eq, bytes_eq]
  exact flatMap_utf8EncodeChar_lt (String.lt_iff.1 before)

end Text
end ManagedTree
