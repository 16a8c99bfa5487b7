/-!
# Pieces of a text

Cutting a text at every occurrence of a separator, or at its first one.
-/

namespace ManagedTree
namespace Text

/-- The piece before the first separator, and the pieces after it. -/
def pieces (separator : Char) : List Char → List Char × List (List Char)
  | [] => ([], [])
  | character :: rest =>
    let (first, others) := pieces separator rest
    if character = separator then ([], first :: others) else (character :: first, others)

/-- The texts before and after the first occurrence of a separator. -/
def cut (separator : Char) : List Char → Option (List Char × List Char)
  | [] => none
  | character :: rest =>
    if character = separator then
      some ([], rest)
    else
      (cut separator rest).map fun (before, after) => (character :: before, after)

/-- The inverse of cutting everywhere: pieces with a separator between them. -/
def join (separator : Char) : List Char × List (List Char) → List Char
  | (first, others) => first ++ others.flatMap (separator :: ·)

theorem join_pieces (separator : Char) (text : List Char) :
    join separator (pieces separator text) = text := by
  induction text with
  | nil => rfl
  | cons character rest inductionHypothesis =>
    by_cases same : character = separator
    · subst same
      simpa [pieces, join] using inductionHypothesis
    · simpa [pieces, join, same] using inductionHypothesis

/-- A text without a separator only lengthens the first piece. -/
theorem pieces_append
    {separator : Char}
    {front : List Char}
    (absent : separator ∉ front)
    (text : List Char) :
    pieces separator (front ++ text) =
      (front ++ (pieces separator text).1, (pieces separator text).2) := by
  induction front with
  | nil => rfl
  | cons character front inductionHypothesis =>
    obtain ⟨different, absent⟩ := not_or.1 (mt List.mem_cons.2 absent)
    rw [List.cons_append, pieces, inductionHypothesis absent]
    exact if_neg (Ne.symm different)

/-- Pieces without a separator are found again. -/
theorem pieces_join
    {separator : Char}
    {first : List Char}
    {others : List (List Char)}
    (absent : ∀ piece ∈ first :: others, separator ∉ piece) :
    pieces separator (join separator (first, others)) = (first, others) := by
  induction others generalizing first with
  | nil =>
    have only := pieces_append (absent first List.mem_cons_self) []
    simpa [join, pieces] using only
  | cons second others inductionHypothesis =>
    have rest := inductionHypothesis fun piece present =>
      absent piece (List.mem_cons_of_mem _ present)
    have joined : join separator (first, second :: others) =
        first ++ separator :: join separator (second, others) := by
      simp [join]
    rw [joined, pieces_append (absent first List.mem_cons_self), pieces, rest]
    simp

/-- No piece has a separator. -/
theorem not_mem_of_pieces
    {separator : Char}
    {text first piece : List Char}
    {others : List (List Char)}
    (found : pieces separator text = (first, others))
    (present : piece ∈ first :: others) :
    separator ∉ piece := by
  induction text generalizing first others piece with
  | nil =>
    cases found
    rw [List.mem_singleton.1 present]
    exact List.not_mem_nil
  | cons character rest inductionHypothesis =>
    rcases both : pieces separator rest with ⟨second, more⟩
    rw [pieces, both] at found
    dsimp only at found
    by_cases same : character = separator
    · rw [if_pos same] at found
      cases found
      rcases List.mem_cons.1 present with rfl | present
      · exact List.not_mem_nil
      · exact inductionHypothesis both present
    · rw [if_neg same] at found
      cases found
      rcases List.mem_cons.1 present with rfl | present
      · have absent := inductionHypothesis both List.mem_cons_self
        exact fun among => (List.mem_cons.1 among).elim (fun equal => same equal.symm) absent
      · exact inductionHypothesis both (List.mem_cons_of_mem _ present)

/-- Pieces are those of a text when they make up the text and have no separator. -/
theorem pieces_eq_iff
    {separator : Char}
    {text first : List Char}
    {others : List (List Char)} :
    pieces separator text = (first, others) ↔
      join separator (first, others) = text ∧ ∀ piece ∈ first :: others, separator ∉ piece := by
  constructor
  · intro found
    exact ⟨found ▸ join_pieces separator text, fun _ => not_mem_of_pieces found⟩
  · rintro ⟨rfl, absent⟩
    exact pieces_join absent

/-- Only an empty text, and one that ends in a separator, has an empty last piece. -/
theorem getLast?_of_pieces
    {separator : Char}
    {text : List Char}
    (empty : ((pieces separator text).1 :: (pieces separator text).2).getLast? = some []) :
    text = [] ∨ text.getLast? = some separator := by
  obtain ⟨front, whole⟩ := List.getLast?_eq_some_iff.1 empty
  have joined := join_pieces separator text
  rcases both : pieces separator text with ⟨first, others⟩
  rw [both] at whole joined
  cases front with
  | nil =>
    obtain ⟨rfl, rfl⟩ := List.cons.inj whole
    exact Or.inl joined.symm
  | cons piece front =>
    obtain ⟨rfl, rfl⟩ := List.cons.inj whole
    right
    rw [← joined]
    simp [join]

/-- A text is cut at the first separator in it. -/
theorem cut_append
    {separator : Char}
    {before : List Char}
    (absent : separator ∉ before)
    (after : List Char) :
    cut separator (before ++ separator :: after) = some (before, after) := by
  induction before with
  | nil => exact if_pos rfl
  | cons character before inductionHypothesis =>
    obtain ⟨different, absent⟩ := not_or.1 (mt List.mem_cons.2 absent)
    rw [List.cons_append, cut, if_neg (Ne.symm different), inductionHypothesis absent]
    rfl

theorem cut_eq_some
    {separator : Char}
    {text before after : List Char}
    (found : cut separator text = some (before, after)) :
    text = before ++ separator :: after ∧ separator ∉ before := by
  induction text generalizing before with
  | nil => simp [cut] at found
  | cons character rest inductionHypothesis =>
    by_cases same : character = separator
    · subst same
      simp [cut] at found
      obtain ⟨rfl, rfl⟩ := found
      simp
    · simp only [cut, same, if_false, Option.map_eq_some_iff] at found
      obtain ⟨⟨front, back⟩, inner, equal⟩ := found
      simp only [Prod.mk.injEq] at equal
      obtain ⟨rfl, rfl⟩ := equal
      obtain ⟨rfl, absent⟩ := inductionHypothesis inner
      simp [absent, Ne.symm same]

end Text
end ManagedTree
