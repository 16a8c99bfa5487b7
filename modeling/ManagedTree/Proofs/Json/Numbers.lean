import ManagedTree.Node.Printer
import ManagedTree.Node.Reader

/-!
# Integers in JSON texts

The decimal text of an integer that 64 bits hold is read back as that integer, wherever
it stands: only the glyph after it must not go on with a number.
-/

namespace ManagedTree
namespace Json

-- Powers are the core library's in every importing context.
attribute [local instance (high)] instPowNat

/-! ## Digits -/

/-- The value of a digit. -/
def digitValue (character : Char) : Nat :=
  character.toNat - '0'.toNat

theorem digit?_of_isDigit
    {character : Char}
    (digit : character.isDigit = true) :
    digit? (.char character) = some (digitValue character) :=
  if_pos digit

/-- Digits are taken up to the first glyph that is none. -/
theorem takeDigits_append
    {digits : List Char}
    (all : ∀ character ∈ digits, character.isDigit = true)
    {rest : List Glyph}
    (stops : ∀ glyph ∈ rest.head?, digit? glyph = none) :
    takeDigits (Glyph.ofText digits ++ rest) = (digits.map digitValue, rest) := by
  induction digits with
  | nil =>
      cases rest with
      | nil => rfl
      | cons glyph rest =>
          have none : digit? glyph = none := stops glyph rfl
          simp [takeDigits, none]
  | cons character digits inductionHypothesis =>
      obtain ⟨digit, others⟩ := List.forall_mem_cons.1 all
      simp [takeDigits, digit?_of_isDigit digit, inductionHypothesis others]

/-- More digits denote no smaller number. -/
theorem le_ofDigitChars
    (digits : List Char)
    (significand : Nat) :
    significand ≤ Nat.ofDigitChars 10 digits significand := by
  induction digits generalizing significand with
  | nil => exact Nat.le_refl _
  | cons character digits inductionHypothesis =>
      rw [Nat.ofDigitChars_cons]
      have grows := inductionHypothesis (10 * significand + (character.toNat - '0'.toNat))
      omega

/-- All digits of a number of 64 bits are gathered. -/
theorem gather_of_lt
    {digits : List Char}
    {significand : Nat}
    (fits : Nat.ofDigitChars 10 digits significand < 2 ^ (64 : Nat)) :
    gather significand (digits.map digitValue) =
      (Nat.ofDigitChars 10 digits significand, []) := by
  induction digits generalizing significand with
  | nil => rfl
  | cons character digits inductionHypothesis =>
      rw [Nat.ofDigitChars_cons, Nat.mul_comm] at fits ⊢
      have next : significand * 10 + digitValue character < 2 ^ (64 : Nat) :=
        Nat.lt_of_le_of_lt (le_ofDigitChars digits _) fits
      rw [List.map_cons, gather, if_pos next]
      exact inductionHypothesis fits

/-- The decimal text of a positive number starts with a digit other than zero. -/
theorem toDigits_head
    {number : Nat}
    (positive : 0 < number) :
    ∃ first others, Nat.toDigits 10 number = first :: others ∧ digitValue first ≠ 0 := by
  induction number using Nat.strongRecOn with
  | ind number inductionHypothesis =>
      rcases Nat.lt_or_ge number 10 with small | large
      · refine ⟨Nat.digitChar number, [], Nat.toDigits_of_lt_base small, ?_⟩
        have value : digitValue (Nat.digitChar number) = number :=
          Nat.toNat_digitChar_sub_48_of_lt_ten small
        omega
      · obtain ⟨first, others, front, nonzero⟩ :=
          inductionHypothesis (number / 10) (by omega) (by omega)
        refine ⟨first, others ++ [Nat.digitChar (number % 10)], ?_, nonzero⟩
        rw [Nat.toDigits_of_base_le (by decide) large, front, List.cons_append]

/-- The decimal text of a number starts with a digit. -/
theorem toDigits_start (number : Nat) :
    ∃ first others, Nat.toDigits 10 number = first :: others ∧ first.isDigit = true := by
  obtain ⟨first, others, digits⟩ :=
    List.exists_cons_of_ne_nil (Nat.toDigits_ne_nil : Nat.toDigits 10 number ≠ [])
  refine ⟨first, others, digits, ?_⟩
  exact Nat.isDigit_of_mem_toDigits (by decide) (by decide) (digits ▸ List.mem_cons_self)

/-! ## Numbers -/

/-- Glyphs whose first one does not go on with a number. -/
def EndsNumber (rest : List Glyph) : Prop :=
  ∀ glyph ∈ rest.head?,
    digit? glyph = none ∧ glyph ≠ .char '.' ∧ glyph ≠ .char 'e' ∧ glyph ≠ .char 'E'

/-- Digits of a number of 64 bits without fraction and exponent denote that number. -/
theorem finishNumber_of_lt
    (negative : Bool)
    {digits : List Char}
    (fits : Nat.ofDigitChars 10 digits 0 < 2 ^ (64 : Nat))
    {rest : List Glyph}
    (ends : EndsNumber rest) :
    finishNumber negative (digits.map digitValue) rest =
      (whole negative (Nat.ofDigitChars 10 digits 0) []).map fun number => (number, rest) := by
  rw [finishNumber, gather_of_lt fits]
  dsimp only
  split
  · exact absurd rfl (ends _ rfl).2.1
  · exact absurd rfl (ends _ rfl).2.2.1
  · exact absurd rfl (ends _ rfl).2.2.2
  · rfl

/-- The decimal text of a number of 64 bits denotes that number. -/
theorem readNumber_toDigits
    (negative : Bool)
    {number : Nat}
    (fits : number < 2 ^ (64 : Nat))
    {rest : List Glyph}
    (ends : EndsNumber rest) :
    readNumber negative (Glyph.ofText (Nat.toDigits 10 number) ++ rest) =
      (whole negative number []).map fun value => (value, rest) := by
  have digital : ∀ character ∈ Nat.toDigits 10 number, character.isDigit = true :=
    fun _ present => Nat.isDigit_of_mem_toDigits (by decide) (by decide) present
  have taken := takeDigits_append digital fun glyph present => (ends glyph present).1
  have value : Nat.ofDigitChars 10 (Nat.toDigits 10 number) 0 = number :=
    Nat.ofDigitChars_ten_toDigits
  have finished := finishNumber_of_lt negative (value.symm ▸ fits) ends
  rw [value] at finished
  rw [readNumber, taken]
  rcases Nat.eq_zero_or_pos number with rfl | positive
  · exact finished
  · obtain ⟨first, others, digits, nonzero⟩ := toDigits_head positive
    rw [digits, List.map_cons] at finished ⊢
    split
    next none => cases none
    next none => cases none
    next zero => exact absurd (List.cons.inj (Prod.mk.inj zero).1).1 nonzero
    next same =>
      cases same
      exact finished

end Json
end ManagedTree
