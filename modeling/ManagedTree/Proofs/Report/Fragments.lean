import ManagedTree.Blocking
import ManagedTree.Proofs.Node.Writing

/-!
# Fragments of a result

A result is put together from fragments, each at its place.  A fragment that no later one meets is
read at its place, and fragments that do not meet at all may come in any order.
-/

namespace ManagedTree

/-- A part of a result and its place in it. -/
structure Fragment where
  /-- The place in the result. -/
  place : List String
  /-- The part of the result. -/
  value : Node

namespace Fragment

/-- The report that brings a fragment. -/
def report (fragment : Fragment) : Report :=
  .fragment fragment.place fragment.value

/-- The result with a fragment in its place. -/
def putInto (node : Node) (fragment : Fragment) : Node :=
  Node.set fragment.place fragment.value node

/-- The places of two fragments do not meet. -/
def Apart (first second : Fragment) : Prop :=
  Node.Apart first.place second.place

/-- What is gathered from the reports of fragments. -/
def gathered (fragments : List Fragment) : Node :=
  (Gathering.ofReports (fragments.map report)).result

/-- Fragments are gathered by putting one after another in its place, and end nothing. -/
theorem foldl_receive_report
    (node : Node)
    (fragments : List Fragment) :
    (fragments.map report).foldl Gathering.receive ⟨node, none⟩ =
      ⟨fragments.foldl putInto node, none⟩ := by
  induction fragments generalizing node with
  | nil => rfl
  | cons fragment fragments inductionHypothesis =>
      exact inductionHypothesis (putInto node fragment)

theorem ofReports_report (fragments : List Fragment) :
    Gathering.ofReports (fragments.map report) = ⟨fragments.foldl putInto .null, none⟩ :=
  foldl_receive_report .null fragments

theorem gathered_eq_foldl (fragments : List Fragment) :
    gathered fragments = fragments.foldl putInto .null := by
  rw [gathered, ofReports_report]

/-- When the operation completes after fragments, the caller who waits receives what was gathered
from them. -/
theorem answer?_of_complete
    (fragments : List Fragment)
    (undo : Node) :
    (Gathering.ofReports (fragments.map report ++ [.complete undo])).answer? =
      some (.ok (gathered fragments)) := by
  rw [Gathering.ofReports, List.foldl_append, Gathering.start, foldl_receive_report,
    gathered_eq_foldl]
  rfl

/-! ## What is read -/

/-- What is read at a place stays when fragments apart from it are put in their places. -/
theorem get?_foldl_of_apart
    {place : List String}
    {fragments : List Fragment}
    (apart : ∀ fragment ∈ fragments, Node.Apart place fragment.place)
    (node : Node) :
    Node.get? place (fragments.foldl putInto node) = Node.get? place node := by
  induction fragments generalizing node with
  | nil => rfl
  | cons fragment fragments inductionHypothesis =>
      obtain ⟨first, others⟩ := List.forall_mem_cons.1 apart
      rw [List.foldl_cons, inductionHypothesis others]
      exact Node.get?_set_of_apart first fragment.value node

/-! ## The order of fragments -/

/-- No value has a composite node with two members of one name. -/
def Unambiguous (fragments : List Fragment) : Prop :=
  ∀ fragment ∈ fragments, fragment.value.Unambiguous

theorem alike_foldl
    {fragments : List Fragment}
    (unambiguous : Unambiguous fragments)
    {left right : Node}
    (leftUnambiguous : left.Unambiguous)
    (rightUnambiguous : right.Unambiguous)
    (alike : left.Alike right) :
    (fragments.foldl putInto left).Alike (fragments.foldl putInto right) := by
  induction fragments generalizing left right with
  | nil => exact alike
  | cons fragment fragments inductionHypothesis =>
      obtain ⟨first, others⟩ := List.forall_mem_cons.1 unambiguous
      exact inductionHypothesis others (first.set fragment.place leftUnambiguous)
        (first.set fragment.place rightUnambiguous)
        (alike.set first fragment.place leftUnambiguous rightUnambiguous)

/-- Fragments that do not meet may be put in their places in any order. -/
theorem alike_foldl_of_perm
    {fragments others : List Fragment}
    (permuted : fragments.Perm others)
    (unambiguous : Unambiguous fragments)
    (apart : fragments.Pairwise Apart)
    {node : Node}
    (nodeUnambiguous : node.Unambiguous) :
    (fragments.foldl putInto node).Alike (others.foldl putInto node) := by
  induction permuted generalizing node with
  | nil => exact nodeUnambiguous.alike_self
  | cons fragment _ inductionHypothesis =>
      obtain ⟨first, rest⟩ := List.forall_mem_cons.1 unambiguous
      exact inductionHypothesis rest (List.pairwise_cons.1 apart).2
        (first.set fragment.place nodeUnambiguous)
  | swap first second fragments =>
      obtain ⟨secondUnambiguous, unambiguous⟩ := List.forall_mem_cons.1 unambiguous
      obtain ⟨firstUnambiguous, unambiguous⟩ := List.forall_mem_cons.1 unambiguous
      have meet : Apart second first := (List.pairwise_cons.1 apart).1 first List.mem_cons_self
      exact alike_foldl unambiguous
        (firstUnambiguous.set _ (secondUnambiguous.set _ nodeUnambiguous))
        (secondUnambiguous.set _ (firstUnambiguous.set _ nodeUnambiguous))
        (Node.alike_set_comm meet secondUnambiguous firstUnambiguous nodeUnambiguous)
  | trans firstPermuted _ firstHypothesis secondHypothesis =>
      have middle := fun fragment present =>
        unambiguous fragment (firstPermuted.mem_iff.2 present)
      have symmetric : ∀ {first second : Fragment}, Apart first second → Apart second first :=
        Node.Apart.symm
      exact (firstHypothesis unambiguous apart nodeUnambiguous).trans
        (secondHypothesis middle (apart.perm firstPermuted symmetric) nodeUnambiguous)

/-- What a waiting caller receives of fragments is put together from null, each fragment in its
place.  At the place of a fragment its value is read, unless a later fragment's place leads to that
place or from it.  Fragments whose places do not lead to each other give results that are equal but
for the order of members, in whatever order they come. -/
theorem gathered_fragments (fragments : List Fragment) :
    (∀ undo, (Gathering.ofReports (fragments.map report ++ [.complete undo])).answer? =
        some (.ok (gathered fragments))) ∧
      gathered fragments = fragments.foldl putInto .null ∧
      (∀ earlier fragment later, fragments = earlier ++ fragment :: later →
        (∀ other ∈ later, Apart fragment other) →
          Node.get? fragment.place (gathered fragments) = some fragment.value) ∧
      ((∀ fragment ∈ fragments, fragment.value.Unambiguous) → fragments.Pairwise Apart →
        ∀ others, fragments.Perm others → (gathered fragments).Alike (gathered others)) := by
  refine ⟨answer?_of_complete fragments, gathered_eq_foldl fragments, ?_, ?_⟩
  · rintro earlier fragment later rfl apart
    rw [gathered_eq_foldl, List.foldl_append, List.foldl_cons, get?_foldl_of_apart apart]
    exact Node.get?_set_self fragment.place fragment.value _
  · intro unambiguous apart others permuted
    rw [gathered_eq_foldl, gathered_eq_foldl]
    exact alike_foldl_of_perm permuted unambiguous apart trivial

/-- Three fragments under two members, and the same three in the opposite order. -/
theorem gathered_fragments_reversed :
    let first : Fragment := ⟨["a", "x"], Node.integer 1⟩
    let second : Fragment := ⟨["b"], .list [.null]⟩
    let third : Fragment := ⟨["a", "y"], .object [("c", .bool true), ("d", .null)]⟩
    [first, second, third].Pairwise Apart ∧
      Node.get? first.place (gathered [first, second, third]) = some first.value ∧
      (gathered [first, second, third]).Alike (gathered [third, second, first]) := by
  intro first second third
  have apart : [first, second, third].Pairwise Apart := by
    simp [first, second, third, Apart, Node.Apart]
  have unambiguous : ∀ fragment ∈ [first, second, third], fragment.value.Unambiguous := by
    simp [first, second, third, Node.integer, Node.Unambiguous, Node.UnambiguousItems,
      Node.UnambiguousMembers, Keyed.Distinct, Keyed.keys]
  obtain ⟨-, -, reads, orders⟩ := gathered_fragments [first, second, third]
  exact ⟨apart, reads [] first [second, third] rfl (List.pairwise_cons.1 apart).1,
    orders unambiguous apart _ (List.reverse_perm _).symm⟩

end Fragment
end ManagedTree
