/-!
# Blank characters and trimming

The blank characters are those with the Unicode property White_Space.  Trimming
removes them from both ends of a text.
-/

namespace ManagedTree
namespace Text

/-- The characters with the Unicode property White_Space. -/
def isBlank (character : Char) : Bool :=
  let point := character.toNat
  (9 ≤ point && point ≤ 13) || point == 0x20 || point == 0x85 || point == 0xa0 ||
    point == 0x1680 || (0x2000 ≤ point && point ≤ 0x200a) || point == 0x2028 ||
    point == 0x2029 || point == 0x202f || point == 0x205f || point == 0x3000

/-- A text without its leading blanks. -/
def trimStart (text : List Char) : List Char :=
  text.dropWhile isBlank

/-- A text without its trailing blanks. -/
def trimEnd (text : List Char) : List Char :=
  (text.reverse.dropWhile isBlank).reverse

/-- A text without leading and trailing blanks. -/
def trim (text : List Char) : List Char :=
  trimEnd (trimStart text)

@[simp] theorem trim_nil : trim [] = [] := rfl

/-- A text that starts and ends with characters that are not blank is left as it is. -/
theorem trimStart_cons
    {first : Char}
    (visible : isBlank first = false)
    (rest : List Char) :
    trimStart (first :: rest) = first :: rest := by
  simp [trimStart, visible]

theorem trimEnd_concat
    {last : Char}
    (visible : isBlank last = false)
    (front : List Char) :
    trimEnd (front ++ [last]) = front ++ [last] := by
  simp [trimEnd, visible]

/-- A text that neither starts nor ends with a blank is left as it is. -/
theorem trim_eq_self
    {text : List Char}
    (starts : ∀ first ∈ text.head?, isBlank first = false)
    (ends : ∀ last ∈ text.getLast?, isBlank last = false) :
    trim text = text := by
  cases text with
  | nil => rfl
  | cons first rest =>
    rw [trim, trimStart_cons (starts first rfl)]
    obtain ⟨front, last, whole⟩ := List.eq_nil_or_concat (first :: rest) |>.resolve_left nofun
    rw [whole, List.concat_eq_append] at ends ⊢
    exact trimEnd_concat (ends last (by simp)) front

/-- A trimmed text does not end with a blank. -/
theorem isBlank_of_mem_getLast?_trim
    {text : List Char}
    {last : Char}
    (ending : last ∈ (trim text).getLast?) :
    isBlank last = false := by
  rw [trim, trimEnd, List.getLast?_reverse, Option.mem_def] at ending
  have visible := List.head?_dropWhile_not isBlank (trimStart text).reverse
  rw [ending] at visible
  exact visible

end Text
end ManagedTree
