import ManagedTree.Address.Pattern
import Mathlib.Data.List.Forall2

/-!
# Which pattern is more specific

Patterns are compared at the first place where exactly one of them has a wildcard.
The comparison is transitive, but it does not tell all patterns apart: `a=b` and
`c=d` are level.  Patterns that match a common address are told apart, since they
have the same keys, and the same values wherever both are exact.
-/

namespace ManagedTree

/-- Whether an element of a pattern matches an element of an address: the keys are equal,
and so are the values unless the pattern has the wildcard. -/
def Element.Matches (pattern element : Element) : Prop :=
  pattern.key = element.key ∧
    (pattern.value = Element.wildcardValue ∨ pattern.value = element.value)

/-- Elements with equal keys and values are equal. -/
theorem Element.eq_of_parts
    {left right : Element}
    (keys : left.key = right.key)
    (values : left.value = right.value) :
    left = right := by
  cases left
  cases right
  cases keys
  cases values
  rfl

theorem Element.isWildcard_iff
    {element : Element} :
    element.isWildcard = true ↔ element.value = Element.wildcardValue :=
  beq_iff_eq

theorem Element.covers_iff
    {pattern element : Element} :
    pattern.covers element = true ↔ pattern.Matches element := by
  simp [covers, Matches, isWildcard]

/-- Two elements that match a common one are equal when both are exact or none is. -/
theorem Element.Matches.eq_of_isWildcard_eq
    {left right element : Element}
    (leftMatches : left.Matches element)
    (rightMatches : right.Matches element)
    (level : left.isWildcard = right.isWildcard) :
    left = right := by
  obtain ⟨leftKey, leftValue⟩ := leftMatches
  obtain ⟨rightKey, rightValue⟩ := rightMatches
  refine eq_of_parts (leftKey.trans rightKey.symm) ?_
  have both : left.value = wildcardValue ↔ right.value = wildcardValue := by
    rw [← isWildcard_iff, ← isWildcard_iff, level]
  rcases leftValue with wild | exact
  · exact wild.trans (both.1 wild).symm
  · rcases rightValue with wild | exact'
    · exact (both.2 wild).trans wild.symm
    · exact exact.trans exact'.symm

namespace Address

/-- Whether a pattern matches an address: they have the same length, and each element of
the pattern matches the element of the address at its place. -/
def Matches (pattern address : Address) : Prop :=
  List.Forall₂ Element.Matches pattern.elements address.elements

/-- Whether a pattern is more specific than another one: there is a place where it is
exact and the other one has a wildcard, and at no earlier place has exactly one of them
a wildcard. -/
def MoreSpecific (left right : Address) : Prop :=
  ∃ (place : Nat) (exact wild : Element),
    left.elements[place]? = some exact ∧ right.elements[place]? = some wild ∧
      exact.isWildcard = false ∧ wild.isWildcard = true ∧
      ∀ earlier < place, ∀ first second : Element,
        left.elements[earlier]? = some first → right.elements[earlier]? = some second →
          first.isWildcard = second.isWildcard

theorem coversElements_iff
    {patterns elements : List Element} :
    coversElements patterns elements = true ↔ List.Forall₂ Element.Matches patterns elements := by
  induction patterns generalizing elements with
  | nil => cases elements <;> simp [coversElements]
  | cons pattern patterns inductionHypothesis =>
      cases elements with
      | nil => simp [coversElements]
      | cons element elements =>
          simp [coversElements, Element.covers_iff, inductionHypothesis]

/-- Matching is decided place by place. -/
theorem covers_iff
    {pattern address : Address} :
    pattern.covers address = true ↔ pattern.Matches address :=
  coversElements_iff

/-- Comparing lists of elements whose first elements are told apart, or not. -/
theorem outranksElements_cons
    (left right : Element)
    (lefts rights : List Element) :
    outranksElements (left :: lefts) (right :: rights) = true ↔
      left.isWildcard = false ∧ right.isWildcard = true ∨
        left.isWildcard = right.isWildcard ∧ outranksElements lefts rights = true := by
  rw [outranksElements]
  cases left.isWildcard <;> cases right.isWildcard <;> simp

/-- The comparison looks for the first place where the patterns differ in wildcards. -/
theorem outranksElements_iff
    {lefts rights : List Element} :
    outranksElements lefts rights = true ↔ MoreSpecific ⟨lefts⟩ ⟨rights⟩ := by
  induction lefts generalizing rights with
  | nil => simp [outranksElements, MoreSpecific]
  | cons left lefts inductionHypothesis =>
      cases rights with
      | nil => simp [outranksElements, MoreSpecific]
      | cons right rights =>
          rw [outranksElements_cons, inductionHypothesis]
          constructor
          · rintro (⟨exact, wild⟩ | ⟨level, place, first, second, foundLeft, foundRight, rest⟩)
            · exact ⟨0, left, right, rfl, rfl, exact, wild, nofun⟩
            · obtain ⟨exact, wild, before⟩ := rest
              refine ⟨place + 1, first, second, foundLeft, foundRight, exact, wild, ?_⟩
              intro earlier isEarlier first second foundLeft foundRight
              cases earlier with
              | zero =>
                  cases foundLeft
                  cases foundRight
                  exact level
              | succ earlier =>
                  exact before earlier (Nat.lt_of_succ_lt_succ isEarlier) first second
                    foundLeft foundRight
          · rintro ⟨place, first, second, foundLeft, foundRight, exact, wild, before⟩
            cases place with
            | zero =>
                cases foundLeft
                cases foundRight
                exact Or.inl ⟨exact, wild⟩
            | succ place =>
                refine Or.inr ⟨before 0 place.succ_pos left right rfl rfl, ?_⟩
                refine ⟨place, first, second, foundLeft, foundRight, exact, wild, ?_⟩
                intro earlier isEarlier
                exact before (earlier + 1) (Nat.succ_lt_succ isEarlier)

theorem outranks_iff
    {left right : Address} :
    left.outranks right = true ↔ left.MoreSpecific right :=
  outranksElements_iff

theorem outranksElements_trans
    {lefts middles rights : List Element}
    (first : outranksElements lefts middles = true)
    (second : outranksElements middles rights = true) :
    outranksElements lefts rights = true := by
  induction lefts generalizing middles rights with
  | nil => simp [outranksElements] at first
  | cons left lefts inductionHypothesis =>
      cases middles with
      | nil => simp [outranksElements] at first
      | cons middle middles =>
          cases rights with
          | nil => simp [outranksElements] at second
          | cons right rights =>
              rw [outranksElements_cons] at first second ⊢
              rcases first with ⟨exact, wild⟩ | ⟨level, first⟩
              · refine Or.inl ⟨exact, ?_⟩
                rcases second with ⟨exactMiddle, _⟩ | ⟨level, _⟩
                · rw [wild] at exactMiddle
                  cases exactMiddle
                · exact level ▸ wild
              · rcases second with ⟨exact, wild⟩ | ⟨levelRight, second⟩
                · exact Or.inl ⟨level.trans exact, wild⟩
                · exact Or.inr ⟨level.trans levelRight, inductionHypothesis first second⟩

/-- Patterns of elements that match the same elements are equal or told apart. -/
theorem outranksElements_total
    {lefts rights elements : List Element}
    (leftMatches : List.Forall₂ Element.Matches lefts elements)
    (rightMatches : List.Forall₂ Element.Matches rights elements) :
    lefts = rights ∨ outranksElements lefts rights = true ∨
      outranksElements rights lefts = true := by
  induction leftMatches generalizing rights with
  | nil =>
      cases rightMatches
      exact Or.inl rfl
  | cons leftMatch _ inductionHypothesis =>
      cases rightMatches with
      | cons rightMatch rightMatches =>
          rename_i left element lefts elements _ right rights
          rw [outranksElements_cons, outranksElements_cons]
          by_cases level : left.isWildcard = right.isWildcard
          · obtain rfl := leftMatch.eq_of_isWildcard_eq rightMatch level
            rcases inductionHypothesis rightMatches with rfl | higher | lower
            · exact Or.inl rfl
            · exact Or.inr (Or.inl (Or.inr ⟨rfl, higher⟩))
            · exact Or.inr (Or.inr (Or.inr ⟨rfl, lower⟩))
          · refine Or.inr ?_
            cases exact : left.isWildcard <;> cases wild : right.isWildcard <;> simp_all

/-- A pattern is not more specific than what it matches. -/
theorem not_outranksElements_of_matches
    {patterns elements : List Element}
    (matched : List.Forall₂ Element.Matches patterns elements) :
    outranksElements patterns elements = false := by
  rw [← Bool.not_eq_true]
  induction matched with
  | nil => simp [outranksElements]
  | cons headMatches _ inductionHypothesis =>
      rename_i pattern element patterns elements _
      rw [outranksElements_cons]
      rintro (⟨exact, wild⟩ | ⟨_, higher⟩)
      · rcases headMatches.2 with wildPattern | same
        · simp [Element.isWildcard, wildPattern] at exact
        · simp only [Element.isWildcard, same] at exact wild
          rw [wild] at exact
          cases exact
      · exact inductionHypothesis higher

/-- Every address, read as a pattern, matches itself. -/
theorem Matches.refl (address : Address) : address.Matches address :=
  List.forall₂_same.2 fun _ _ => ⟨rfl, Or.inr rfl⟩

theorem MoreSpecific.trans
    {left middle right : Address}
    (first : left.MoreSpecific middle)
    (second : middle.MoreSpecific right) :
    left.MoreSpecific right :=
  outranks_iff.1 (outranksElements_trans (outranks_iff.2 first) (outranks_iff.2 second))

/-- Of two patterns that match a common address one is more specific, unless they are equal. -/
theorem Matches.total
    {left right address : Address}
    (leftMatches : left.Matches address)
    (rightMatches : right.Matches address) :
    left = right ∨ left.MoreSpecific right ∨ right.MoreSpecific left := by
  have cases := outranksElements_total leftMatches rightMatches
  rw [outranksElements_iff, outranksElements_iff] at cases
  exact cases.imp_left (congrArg Address.mk)

/-- A pattern is at most as specific as an address that it matches. -/
theorem Matches.not_moreSpecific
    {pattern address : Address}
    (matched : pattern.Matches address) :
    ¬ pattern.MoreSpecific address := by
  rw [← outranks_iff, outranks, not_outranksElements_of_matches matched]
  exact Bool.false_ne_true

/-- Of two patterns at most one is more specific than the other. -/
theorem MoreSpecific.asymm
    {left right : Address}
    (higher : left.MoreSpecific right) :
    ¬ right.MoreSpecific left := fun lower =>
  (Matches.refl left).not_moreSpecific (higher.trans lower)

end Address
end ManagedTree
