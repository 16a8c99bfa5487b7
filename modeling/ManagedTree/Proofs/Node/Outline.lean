import ManagedTree.Proofs.Node.Walking

/-!
# Outlines

The outline of a tree tells what is at each place, without its members.  Trees of one outline are
equal but for the order of members.  A creation changes the outline on the way to its place only,
and what stands there once it was created does not depend on other creations before it.
-/

namespace ManagedTree
namespace Node

/-- A node without its members. -/
def bare : Node → Node
  | .object _ => empty
  | node => node

/-- The node at a place, without its members. -/
def outline (place : List String) (node : Node) : Option Node :=
  (get? place node).map bare

/-! ## Nodes without their members -/

theorem bare_opened (node : Node) : bare (opened true node) = opened true (bare node) := by
  cases node <;> rfl

@[simp] theorem opened_opened (node : Node) :
    opened true (opened true node) = opened true node := by
  cases node <;> rfl

theorem solid_bare_iff
    {node : Node} :
    (bare node).Solid ↔ node.Solid := by
  cases node <;> exact Iff.rfl

theorem bare_of_not_solid
    {node : Node}
    (passes : ¬ node.Solid) :
    bare (opened true node) = empty := by
  obtain ⟨members, opens, -⟩ := exists_opened_of_not_solid passes
  rw [opens]
  rfl

theorem eq_of_bare_eq
    {left right : Node}
    (same : bare left = bare right)
    (simple : left.isComposite = false) :
    left = right := by
  cases left with
  | object members => cases simple
  | _ => cases right <;> first | exact same | cases same

/-! ## Trees of one outline -/

theorem outline_cons
    (name : String)
    (place : List String)
    (node : Node) :
    outline (name :: place) node = (node.member? name).bind (outline place) := by
  rw [outline, get?, Option.map_bind]
  rfl

/-- Members of one outline are both absent, or alike if such nodes are. -/
theorem rel_of_outline_eq
    {left right : Option Node}
    (same : ∀ place, left.bind (outline place) = right.bind (outline place))
    (alike : ∀ child other, left = some child → right = some other →
      (∀ place, outline place child = outline place other) → child.Alike other) :
    Option.Rel Alike left right := by
  cases left with
  | none =>
      cases right with
      | none => exact .none
      | some other => cases same []
  | some child =>
      cases right with
      | none => cases same []
      | some other => exact .some (alike child other rfl rfl same)

/-- Trees of one outline are alike. -/
theorem alike_of_outline_eq
    {left right : Node}
    (leftUnambiguous : left.Unambiguous)
    (rightUnambiguous : right.Unambiguous)
    (same : ∀ place, outline place left = outline place right) :
    left.Alike right := by
  have roots : bare left = bare right := Option.some.inj (same [])
  induction left using childInduction generalizing right with
  | object members inductionHypothesis =>
      cases right with
      | object others =>
          refine (alike_object_iff leftUnambiguous.1 rightUnambiguous.1).2 fun name => ?_
          refine rel_of_outline_eq (fun place => ?_) fun child other found foundOther below => ?_
          · have sameBelow := same (name :: place)
            rw [outline_cons, outline_cons] at sameBelow
            exact sameBelow
          · exact inductionHypothesis (name, child) (Keyed.mem_of_get? found)
              (leftUnambiguous.member found) (rightUnambiguous.member foundOther) below
              (Option.some.inj (below []))
      | _ => cases roots
  | _ =>
      obtain rfl := eq_of_bare_eq roots rfl
      exact leftUnambiguous.alike_self

/-! ## Creations and outlines -/

/-- What stands at a place once it was created is a matter of the outline. -/
theorem bare_ground
    (place : List String)
    (node : Node) :
    bare (ground place node) = opened true ((outline place node).getD .null) := by
  rw [ground, outline, bare_opened]
  cases get? place node <;> rfl

/-- A solid node stands where it was before. -/
theorem solid_ground_iff
    {place : List String}
    {node : Node} :
    (ground place node).Solid ↔ ∃ reached, get? place node = some reached ∧ reached.Solid := by
  cases leads : get? place node with
  | none =>
      rw [ground_of_absent leads]
      exact ⟨fun solid => Bool.noConfusion solid.2, nofun⟩
  | some reached =>
      rw [ground_of_get? leads]
      cases reached <;> simp [opened, Solid, isNull, isComposite, empty]

/-- On the way to a place that was created there is what stands there. -/
theorem outline_set_ground_of_prefix
    {place target : List String}
    {node : Node}
    (passable : Passable target node)
    (onTheWay : place <+: target) :
    outline place (set target (ground target node) node) = some (bare (ground place node)) := by
  obtain ⟨rest, rfl⟩ := onTheWay
  rw [outline, get?_set_append, Option.map_some, Option.some.injEq]
  cases rest with
  | nil => rw [set_nil, List.append_nil]
  | cons name rest =>
      cases leads : get? place node with
      | none =>
          rw [ground_of_absent leads]
          rfl
      | some reached =>
          rw [ground_of_get? leads, bare_of_not_solid (passable place name rest rfl reached leads)]
          rfl

theorem outline_set_ground_of_not_prefix
    {place target : List String}
    (elsewhere : ¬ place <+: target)
    (node : Node) :
    outline place (set target (ground target node) node) = outline place node := by
  rw [outline, get?_set_ground_of_not_prefix elsewhere, outline]

/-- What stands at a place once it was created does not depend on what was created before. -/
theorem bare_ground_set_ground
    {target : List String}
    {node : Node}
    (passable : Passable target node)
    (place : List String) :
    bare (ground place (set target (ground target node) node)) = bare (ground place node) := by
  by_cases onTheWay : place <+: target
  · rw [bare_ground, outline_set_ground_of_prefix passable onTheWay, Option.getD_some, bare_ground,
      opened_opened]
  · rw [bare_ground, outline_set_ground_of_not_prefix onTheWay, bare_ground]

theorem Unambiguous.ground
    {node : Node}
    (unambiguous : node.Unambiguous)
    (place : List String) :
    (ground place node).Unambiguous := by
  cases leads : Node.get? place node with
  | none =>
      rw [ground_of_absent leads]
      exact ⟨List.nodup_nil, trivial⟩
  | some reached =>
      rw [ground_of_get? leads]
      cases reached with
      | null => exact ⟨List.nodup_nil, trivial⟩
      | _ => exact unambiguous.get? leads

end Node
end ManagedTree
