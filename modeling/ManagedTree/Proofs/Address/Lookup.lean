import ManagedTree.Address.Resolve
import ManagedTree.Proofs.Node.Walking
import ManagedTree.Proofs.Outcome

/-!
# Finding the node at an address

The node at an address is found where it would be edited, and both fail alike: at the first name
that the node on the way lacks.
-/

namespace ManagedTree
namespace Address

open Outcome

theorem edit_eq
    (address : Address)
    (create : Bool)
    (change : Node → Node)
    (tree : Node) :
    address.edit create change tree =
      ((Node.reach create change address.segments tree).1.mapError address.blocked,
        (Node.reach create change address.segments tree).2) := rfl

theorem find_eq_ok_iff
    {address : Address}
    {tree node : Node} :
    address.find tree = .ok node ↔ Node.get? address.segments tree = some node := by
  rw [find, mapError_eq_ok_iff, Node.follow_eq_ok_iff]

theorem find_eq_error_iff
    {address : Address}
    {tree : Node}
    {error : TreeError} :
    address.find tree = .error error ↔
      ∃ before segment after node, address.segments = before ++ segment :: after ∧
        Node.get? before tree = some node ∧ node.member? segment = none ∧
        error = if node.isComposite then .notFound address.text segment
          else .notComposite address.text segment := by
  rw [find, mapError_eq_error_iff]
  constructor
  · rintro ⟨obstacle, stopped, rfl⟩
    obtain ⟨before, segment, after, node, whole, leads, lacks, rfl⟩ :=
      Node.follow_eq_error_iff.1 stopped
    exact ⟨before, segment, after, node, whole, leads, lacks, apply_ite address.blocked _ _ _⟩
  · rintro ⟨before, segment, after, node, whole, leads, lacks, rfl⟩
    exact ⟨_, Node.follow_eq_error_iff.2 ⟨before, segment, after, node, whole, leads, lacks, rfl⟩,
      apply_ite address.blocked _ _ _⟩

/-- The names of an address go on from those of the elements that come first. -/
theorem segments_append
    (first others : List Element) :
    segments ⟨first ++ others⟩ = segments ⟨first⟩ ++ segments ⟨others⟩ :=
  List.flatMap_append

/-- An edit that creates nothing changes the node that is found, or fails as finding it does. -/
theorem edit_false
    (address : Address)
    (change : Node → Node)
    (tree : Node) :
    address.edit false change tree =
      match address.find tree with
      | .ok node => (.ok (change node), Node.set address.segments (change node) tree)
      | .error error => (.error error, tree) := by
  rw [edit_eq, Node.reach_false, find]
  cases Node.follow address.segments tree <;> rfl

/-- What leads to a node is composite wherever it goes on. -/
theorem exists_members_of_find
    {address : Address}
    {tree node : Node}
    (found : address.find tree = .ok node)
    {before after : List String}
    {segment : String}
    (whole : address.segments = before ++ segment :: after) :
    ∃ members, Node.get? before tree = some (.object members) := by
  rw [find_eq_ok_iff, whole, Node.get?_append] at found
  obtain ⟨reached, leads, below⟩ := Option.bind_eq_some_iff.1 found
  cases reached with
  | object members => exact ⟨members, leads⟩
  | _ => cases below

/-- Every address on the way to a node resolves to a composite node. -/
theorem find_ancestor
    {address : Address}
    {tree node : Node}
    (found : address.find tree = .ok node)
    {ancestor others : List Element}
    {element : Element}
    (whole : address.elements = ancestor ++ element :: others) :
    ∃ members, Address.find ⟨ancestor⟩ tree = .ok (.object members) := by
  have names : address.segments =
      segments ⟨ancestor⟩ ++ element.key :: element.value :: segments ⟨others⟩ := by
    rw [segments, whole]
    exact segments_append ancestor (element :: others)
  obtain ⟨members, leads⟩ := exists_members_of_find found names
  exact ⟨members, find_eq_ok_iff.2 leads⟩

/-- Finding the node at an address and editing it without creating anything agree: the edit changes
the node that is found, in its place, and fails with the same error and an unchanged tree where none
is found.  The node that is found is the one to which the names of the address lead, each a member
of the node before.  Otherwise the error names the first segment that the node on the way does not
have: it is not found in a composite node, and other nodes are not composite.  Every address on
the way to a node that is found, and every name on the way, leads to a composite node. -/
theorem edit_agrees_with_find
    (address : Address)
    (tree : Node) :
    address.edit false id tree = (address.find tree, tree) ∧
      (∀ change, address.edit false change tree =
        match address.find tree with
        | .ok node => (.ok (change node), Node.set address.segments (change node) tree)
        | .error error => (.error error, tree)) ∧
      (∀ node, address.find tree = .ok node ↔ Node.get? address.segments tree = some node) ∧
      (∀ error, address.find tree = .error error ↔
        ∃ before segment after node, address.segments = before ++ segment :: after ∧
          Node.get? before tree = some node ∧ node.member? segment = none ∧
          error = if node.isComposite then .notFound address.text segment
            else .notComposite address.text segment) ∧
      ∀ node, address.find tree = .ok node →
        (∀ before segment after, address.segments = before ++ segment :: after →
          ∃ members, Node.get? before tree = some (.object members)) ∧
        ∀ ancestor element others, address.elements = ancestor ++ element :: others →
          ∃ members, Address.find ⟨ancestor⟩ tree = .ok (.object members) := by
  refine ⟨?_, fun change => edit_false address change tree, fun _ => find_eq_ok_iff,
    fun _ => find_eq_error_iff, fun node found =>
      ⟨fun _ _ _ => exists_members_of_find found, fun _ _ _ => find_ancestor found⟩⟩
  rw [edit_false]
  cases found : address.find tree with
  | error error => rfl
  | ok node => exact congrArg (Prod.mk _) (Node.set_of_get? (find_eq_ok_iff.1 found))

end Address
end ManagedTree
