import ManagedTree.Proofs.Node.Writing

/-!
# Walks to places

A walk that creates nothing stops where a name cannot be followed, and otherwise edits the node at
the place.  A walk that may create stops only at solid nodes, which are neither composite nor
undefined.  It has written nothing then; otherwise it writes at the place, and nowhere else.
-/

namespace ManagedTree
namespace Node

/-! ## Walks that create nothing -/

/-- A longer place is followed on from the node to which its first part leads. -/
theorem follow_append
    (place rest : List String)
    (node : Node) :
    follow (place ++ rest) node = (follow place node).bind (follow rest) := by
  induction place generalizing node with
  | nil => rfl
  | cons name place inductionHypothesis =>
      cases node with
      | object members =>
          rw [List.cons_append, follow, follow]
          cases Keyed.get? name members with
          | none => rfl
          | some child => exact inductionHypothesis child
      | _ => rfl

theorem follow_of_lacks
    {node : Node}
    {name : String}
    (lacks : node.member? name = none)
    (after : List String) :
    follow (name :: after) node =
      .error (if node.isComposite then .missing name else .notComposite name) := by
  cases node with
  | object members =>
      rw [member?, members_object] at lacks
      rw [follow, lacks]
      rfl
  | _ => rfl

theorem get?_eq_none_of_follow
    {place : List String}
    {node : Node}
    {obstacle : Obstacle}
    (stopped : follow place node = .error obstacle) :
    get? place node = none := by
  refine Option.eq_none_iff_forall_ne_some.2 fun target leads => ?_
  rw [follow_eq_ok_iff.2 leads] at stopped
  cases stopped

/-- On the way to a place where nothing is, some node lacks the next name. -/
theorem exists_lacks_of_get?_eq_none
    {place : List String}
    {node : Node}
    (absent : get? place node = none) :
    ∃ before name after reached, place = before ++ name :: after ∧
      get? before node = some reached ∧ reached.member? name = none := by
  induction place generalizing node with
  | nil => cases absent
  | cons name place inductionHypothesis =>
      cases member : node.member? name with
      | none => exact ⟨[], name, place, node, rfl, rfl, member⟩
      | some child =>
          rw [get?, member] at absent
          obtain ⟨before, next, after, reached, rfl, leads, lacks⟩ := inductionHypothesis absent
          exact ⟨name :: before, next, after, reached, rfl,
            Option.bind_eq_some_iff.2 ⟨child, member, leads⟩, lacks⟩

/-- A place cannot be followed from the first node on the way that lacks the next name. -/
theorem follow_eq_error_iff
    {place : List String}
    {node : Node}
    {obstacle : Obstacle} :
    follow place node = .error obstacle ↔
      ∃ before name after reached, place = before ++ name :: after ∧
        get? before node = some reached ∧ reached.member? name = none ∧
        obstacle = if reached.isComposite then .missing name else .notComposite name := by
  constructor
  · intro stopped
    obtain ⟨before, name, after, reached, rfl, leads, lacks⟩ :=
      exists_lacks_of_get?_eq_none (get?_eq_none_of_follow stopped)
    rw [follow_append, follow_eq_ok_iff.2 leads] at stopped
    have why := (follow_of_lacks lacks after).symm.trans stopped
    exact ⟨before, name, after, reached, rfl, leads, lacks, (Except.error.inj why).symm⟩
  · rintro ⟨before, name, after, reached, rfl, leads, lacks, rfl⟩
    rw [follow_append, follow_eq_ok_iff.2 leads]
    exact follow_of_lacks lacks after

/-- A walk that creates nothing follows the place, edits the node there, and stops at the same
obstacles with the tree as it was. -/
theorem reach_false
    (edit : Node → Node)
    (place : List String)
    (node : Node) :
    reach false edit place node =
      match follow place node with
      | .ok target => (.ok (edit target), set place (edit target) node)
      | .error obstacle => (.error obstacle, node) := by
  induction place generalizing node with
  | nil => rfl
  | cons name place inductionHypothesis =>
      cases node with
      | object members =>
          cases found : Keyed.get? name members with
          | none => simp [reach, follow, opened, found]
          | some child =>
              simp only [reach, opened, follow, found, Bool.false_and, Bool.false_eq_true,
                if_false, inductionHypothesis]
              cases follow place child with
              | ok target => simp [set, member?, found]
              | error obstacle => simp [Keyed.put_of_get? found]
      | _ => rfl

/-! ## Walks that may create -/

/-- A solid node is neither composite nor undefined, and nothing can be created below it. -/
def Solid (node : Node) : Prop :=
  node.isNull = false ∧ node.isComposite = false

/-- No node on the way to a place is solid. -/
def Passable (place : List String) (node : Node) : Prop :=
  ∀ before name after, place = before ++ name :: after →
    ∀ reached, get? before node = some reached → ¬ reached.Solid

/-- The node that stands at a place once it was created. -/
def ground (place : List String) (node : Node) : Node :=
  opened true ((get? place node).getD .null)

theorem opened_of_solid
    {node : Node}
    (solid : node.Solid) :
    opened true node = node := by
  rw [opened, solid.1]
  rfl

theorem exists_opened_of_not_solid
    {node : Node}
    (passes : ¬ node.Solid) :
    ∃ members, opened true node = .object members ∧ node.members = members := by
  cases node with
  | null => exact ⟨[], rfl, rfl⟩
  | object members => exact ⟨members, rfl, rfl⟩
  | _ => exact absurd ⟨rfl, rfl⟩ passes

theorem passable_cons_iff
    {name : String}
    {place : List String}
    {node : Node} :
    Passable (name :: place) node ↔
      ¬ node.Solid ∧ ∀ child, node.member? name = some child → Passable place child := by
  constructor
  · intro passable
    refine ⟨passable [] name place rfl node rfl, ?_⟩
    rintro child member before next after rfl reached leads
    exact passable (name :: before) next after rfl reached
      (Option.bind_eq_some_iff.2 ⟨child, member, leads⟩)
  · rintro ⟨passes, below⟩ before next after whole reached leads
    cases before with
    | nil =>
        obtain rfl : node = reached := Option.some.inj leads
        exact passes
    | cons first before =>
        obtain ⟨rfl, rfl⟩ := List.cons.inj whole
        obtain ⟨child, member, leads⟩ := Option.bind_eq_some_iff.1 leads
        exact below child member before next after rfl reached leads

theorem passable_nil (node : Node) : Passable [] node :=
  fun _ _ _ whole => absurd whole (by simp)

/-- The way to a place that was written is passable. -/
theorem passable_set
    (place : List String)
    (value node : Node) :
    Passable place (set place value node) := by
  intro before name after whole reached leads solid
  obtain ⟨members, composite, -⟩ := exists_members_set whole value node
  obtain rfl : reached = .object members := Option.some.inj (leads.symm.trans composite)
  cases solid.2

/-- Nothing is in the way below an empty node. -/
theorem passable_empty (place : List String) : Passable place empty := by
  cases place with
  | nil => exact passable_nil empty
  | cons name place =>
      refine passable_cons_iff.2 ⟨fun solid => ?_, nofun⟩
      cases solid.2

theorem ground_empty (place : List String) : ground place empty = empty := by
  cases place <;> rfl

theorem ground_of_get?
    {place : List String}
    {node reached : Node}
    (leads : get? place node = some reached) :
    ground place node = opened true reached := by
  rw [ground, leads, Option.getD_some]

theorem ground_of_absent
    {place : List String}
    {node : Node}
    (absent : get? place node = none) :
    ground place node = empty := by
  rw [ground, absent]
  rfl

theorem ground_of_defined
    {place : List String}
    {node reached : Node}
    (leads : get? place node = some reached)
    (defined : reached ≠ .null) :
    ground place node = reached := by
  rw [ground_of_get? leads]
  cases reached with
  | null => exact absurd rfl defined
  | _ => rfl

theorem ground_ne_null (place : List String) (node : Node) : ground place node ≠ .null := by
  rw [ground]
  cases (get? place node).getD .null <;> nofun

/-- Writing below an empty node is writing below an undefined one. -/
theorem set_empty
    (place : List String)
    (value : Node) :
    set place value empty = set place value .null := by
  cases place <;> rfl

/-- A walk that may create and meets no solid node edits what stands at the place then, and writes
it there. -/
theorem reach_of_passable
    (edit : Node → Node)
    {place : List String}
    {node : Node}
    (passable : Passable place node) :
    reach true edit place node =
      (.ok (edit (ground place node)), set place (edit (ground place node)) node) := by
  induction place generalizing node with
  | nil => rfl
  | cons name place inductionHypothesis =>
      obtain ⟨passes, below⟩ := passable_cons_iff.1 passable
      obtain ⟨members, opens, same⟩ := exists_opened_of_not_solid passes
      rw [reach, opens, set, same]
      dsimp only
      cases found : Keyed.get? name members with
      | some child =>
          have member : node.member? name = some child := by rw [member?, same, found]
          have stands : ground (name :: place) node = ground place child := by
            rw [ground, ground, get?, member, Option.bind_some]
          dsimp only
          rw [stands, member, Option.getD_some, inductionHypothesis (below child member)]
      | none =>
          have member : node.member? name = none := by rw [member?, same, found]
          have stands : ground (name :: place) node = ground place empty := by
            rw [ground_empty, ground, get?, member]
            rfl
          -- The walk goes on below a new empty node, where nothing can be in the way.
          dsimp only
          rw [stands, member, Option.getD_none, ← set_empty, if_pos rfl,
            inductionHypothesis (passable_empty place)]

/-- A walk that may create stops at a solid node and has written nothing. -/
theorem reach_of_solid
    (edit : Node → Node)
    {before after : List String}
    {name : String}
    {node reached : Node}
    (leads : get? before node = some reached)
    (solid : reached.Solid) :
    reach true edit (before ++ name :: after) node = (.error (.notComposite name), node) := by
  induction before generalizing node with
  | nil =>
      obtain rfl : node = reached := Option.some.inj leads
      rw [List.nil_append, reach, opened_of_solid solid]
      cases node with
      | object members => cases solid.2
      | _ => rfl
  | cons first before inductionHypothesis =>
      obtain ⟨child, member, below⟩ := Option.bind_eq_some_iff.1 leads
      cases node with
      | object members =>
          have found : Keyed.get? first members = some child := member
          simp only [List.cons_append, reach, opened, isNull, found, Bool.and_false,
            Bool.false_eq_true, if_false, inductionHypothesis below, Keyed.put_of_get? found]
      | _ => cases member

/-- Either a place is passable, or there is a solid node on the way. -/
theorem passable_or_solid
    (place : List String)
    (node : Node) :
    Passable place node ∨
      ∃ before name after reached, place = before ++ name :: after ∧
        get? before node = some reached ∧ reached.Solid := by
  by_cases solid : ∃ before name after reached, place = before ++ name :: after ∧
      get? before node = some reached ∧ reached.Solid
  · exact Or.inr solid
  · refine Or.inl fun before name after whole reached leads isSolid => ?_
    exact solid ⟨before, name, after, reached, whole, leads, isSolid⟩

/-! ## What is read after a creation -/

/-- Below what stands at a place once it was created there is what was there before. -/
theorem get?_ground
    (place rest : List String)
    (name : String)
    (node : Node) :
    get? (name :: rest) (ground place node) = get? (place ++ name :: rest) node := by
  rw [get?_append]
  cases leads : get? place node with
  | none =>
      rw [ground_of_absent leads]
      rfl
  | some reached =>
      rw [ground_of_get? leads]
      cases reached <;> rfl

/-- A creation does not change what is read elsewhere than on the way to the place. -/
theorem get?_set_ground_of_not_prefix
    {place target : List String}
    (elsewhere : ¬ place <+: target)
    (node : Node) :
    get? place (set target (ground target node) node) = get? place node := by
  by_cases below : target <+: place
  · obtain ⟨rest, rfl⟩ := below
    cases rest with
    | nil =>
        rw [List.append_nil] at elsewhere
        exact absurd List.prefix_rfl elsewhere
    | cons name rest =>
        rw [get?_append target, get?_set_self, Option.bind_some, get?_ground]
  · exact get?_set_of_apart ⟨elsewhere, below⟩ _ node

end Node
end ManagedTree
