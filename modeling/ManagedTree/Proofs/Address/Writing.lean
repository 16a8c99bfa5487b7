import ManagedTree.Proofs.Address.Lookup

/-!
# What a value leaves behind where it is written

A value that is written at a place is found there.  Nodes on the way are composite then and keep
their other members, everything apart from the place is as it was, and nothing is left of what was
written further down before.
-/

namespace ManagedTree
namespace Node

/-- What there is after a value was written at a place of a tree. -/
structure Written (place : List String) (value tree after : Node) : Prop where
  /-- The value is at the place. -/
  here : get? place after = some value
  /-- At places that neither lead to the place nor go on from it there is what there was. -/
  elsewhere : ∀ other, Apart other place → get? other after = get? other tree
  /-- A composite node on the way has its members in the same order, but for the next one on the
  way, which comes last if it is new. -/
  composite : ∀ before name rest old, place = before ++ name :: rest →
    get? before tree = some (.object old) →
      ∃ members, get? before after = some (.object members) ∧ Keyed.Renewed name old members
  /-- Where no composite node was on the way, there is one that holds the rest of the way and
  nothing else. -/
  replaced : ∀ before name rest, place = before ++ name :: rest →
    (∀ members, get? before tree ≠ some (.object members)) →
      get? before after = some (.object [(name, only rest value)])
  /-- The tree is the same one if another value was written at the place or further down before. -/
  overwrites : ∀ rest other, set place value (set (place ++ rest) other tree) = after
  /-- The value is found at an address whose names are the place. -/
  found : ∀ address : Address, address.segments = place → address.find after = .ok value

/-- Writing a value at a place puts it there and changes nothing apart from the place. -/
theorem set_written
    (place : List String)
    (value tree : Node) :
    Written place value tree (set place value tree) where
  here := get?_set_self place value tree
  elsewhere _ apart := get?_set_of_apart apart value tree
  composite before name rest old whole leads := by
    obtain ⟨members, composite, renewed⟩ := exists_members_set whole value tree
    exact ⟨members, composite, renewed old leads⟩
  replaced _ _ _ whole leaves := get?_set_of_not_composite whole leaves value
  overwrites rest other := set_set_append place rest value other tree
  found address same := by
    rw [Address.find_eq_ok_iff, same]
    exact get?_set_self place value tree

/-- A leaf on the way gives way, and the members beside it keep their places. -/
example :
    set ["a", "b", "c"] (.bool true) (.object [("u", .null), ("a", integer 5), ("v", .null)]) =
      .object [("u", .null), ("a", .object [("b", .object [("c", .bool true)])]), ("v", .null)] :=
  rfl

end Node
end ManagedTree
