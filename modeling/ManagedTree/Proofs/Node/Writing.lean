import ManagedTree.Proofs.Node.Alike

/-!
# Writing at places

A value that is written at a place leaves every place apart from it as it is.  Values that are
written at places apart from each other may be written in any order, but for the order of members.
-/

namespace ManagedTree
namespace Node

/-- Neither of two places leads to the other. -/
def Apart (left right : List String) : Prop :=
  ¬ left <+: right ∧ ¬ right <+: left

theorem Apart.symm
    {left right : List String}
    (apart : Apart left right) :
    Apart right left :=
  ⟨apart.2, apart.1⟩

theorem not_apart_nil (place : List String) : ¬ Apart [] place :=
  fun apart => apart.1 List.nil_prefix

theorem apart_cons_iff
    {name other : String}
    {left right : List String} :
    Apart (name :: left) (other :: right) ↔ (name = other → Apart left right) := by
  rw [Apart, Apart, List.cons_prefix_cons, List.cons_prefix_cons]
  by_cases same : name = other <;> simp [same, eq_comm (a := other)]

/-! ## Members after writing -/

section Members

variable (name : String) (place : List String) (value node : Node)

theorem member?_set_self :
    (set (name :: place) value node).member? name =
      some (set place value ((node.member? name).getD .null)) :=
  Keyed.get?_put_self name _ _

variable {name}

theorem member?_set_of_ne
    {other : String}
    (different : other ≠ name) :
    (set (name :: place) value node).member? other = node.member? other :=
  Keyed.get?_put_of_ne different _ _

end Members

theorem Unambiguous.set
    {value node : Node}
    (valueUnambiguous : value.Unambiguous)
    (place : List String)
    (nodeUnambiguous : node.Unambiguous) :
    (set place value node).Unambiguous := by
  induction place generalizing node with
  | nil => exact valueUnambiguous
  | cons name place inductionHypothesis =>
      have distinct := nodeUnambiguous.distinct
      refine ⟨distinct.put name _, unambiguousMembers_iff.2 fun member present => ?_⟩
      rcases Keyed.mem_put present with rfl | present
      · exact inductionHypothesis (nodeUnambiguous.getD_null name)
      · exact nodeUnambiguous.member ((Keyed.get?_eq_some_iff distinct).2 present)

/-! ## What is read after writing -/

/-- Writing at a place does not change what is read at a place apart from it. -/
theorem get?_set_of_apart
    {place other : List String}
    (apart : Apart place other)
    (value node : Node) :
    get? place (set other value node) = get? place node := by
  induction place generalizing other node with
  | nil => exact absurd apart (not_apart_nil other)
  | cons name place inductionHypothesis =>
      cases other with
      | nil => exact absurd apart.symm (not_apart_nil _)
      | cons first others =>
          rw [get?, get?]
          by_cases same : name = first
          · subst same
            have inner := apart_cons_iff.1 apart rfl
            rw [member?_set_self, Option.bind_some, inductionHypothesis inner]
            cases found : node.member? name with
            | some child => rfl
            | none =>
                cases place with
                | nil => exact absurd inner (not_apart_nil others)
                | cons next place => rfl
          · rw [member?_set_of_ne _ _ _ same]

/-- Where a place leads on, what is read is what was written further down. -/
theorem get?_set_append
    (place rest : List String)
    (value node : Node) :
    get? place (set (place ++ rest) value node) =
      some (set rest value ((get? place node).getD .null)) := by
  induction place generalizing node with
  | nil => rfl
  | cons name place inductionHypothesis =>
      rw [List.cons_append, get?, member?_set_self, Option.bind_some, inductionHypothesis, get?]
      cases node.member? name with
      | some child => rfl
      | none =>
          cases place with
          | nil => rfl
          | cons next place => rfl

/-- A node on the way to a place that is written is composite then.  One that was composite before
has the same members, but for the next one on the way. -/
theorem exists_members_set
    {place before after : List String}
    {name : String}
    (whole : place = before ++ name :: after)
    (value node : Node) :
    ∃ members, get? before (set place value node) = some (.object members) ∧
      ∀ old, get? before node = some (.object old) → Keyed.Renewed name old members := by
  rw [whole, get?_set_append]
  refine ⟨_, rfl, fun old leads => ?_⟩
  rw [leads, Option.getD_some]
  exact Keyed.renewed_put name _ old

/-- Writing what is there changes nothing. -/
theorem set_of_get?
    {place : List String}
    {value node : Node}
    (found : get? place node = some value) :
    set place value node = node := by
  induction place generalizing node with
  | nil => exact (Option.some.inj found).symm
  | cons name place inductionHypothesis =>
      obtain ⟨child, member, below⟩ := Option.bind_eq_some_iff.1 found
      cases node with
      | object members =>
          rw [set, member, Option.getD_some, inductionHypothesis below]
          exact congrArg Node.object (Keyed.put_of_get? member)
      | _ => cases member

/-- A value under the names of a place, each of them the only member. -/
def only : List String → Node → Node
  | [], value => value
  | name :: place, value => .object [(name, only place value)]

/-- Nothing stands beside a value that is written below a node without members. -/
theorem set_of_members_eq_nil
    {node : Node}
    (bare : node.members = [])
    (place : List String)
    (value : Node) :
    set place value node = only place value := by
  induction place generalizing node with
  | nil => rfl
  | cons name place inductionHypothesis =>
      have absent : node.member? name = none := by rw [member?, bare, Keyed.get?_nil]
      rw [set, absent, Option.getD_none, inductionHypothesis rfl, bare]
      rfl

/-- Where the way to a place leaves the composite nodes, it has no members but the next ones on the
way once the place is written. -/
theorem get?_set_of_not_composite
    {place before rest : List String}
    {node : Node}
    (whole : place = before ++ rest)
    (leaves : ∀ members, get? before node ≠ some (.object members))
    (value : Node) :
    get? before (set place value node) = some (only rest value) := by
  rw [whole, get?_set_append]
  refine congrArg some (set_of_members_eq_nil ?_ rest value)
  cases reached : get? before node with
  | none => rfl
  | some node =>
      cases node with
      | object members => exact absurd reached (leaves members)
      | _ => rfl

/-- What was written further down is gone when the place itself is written. -/
theorem set_set_append
    (place rest : List String)
    (value other node : Node) :
    set place value (set (place ++ rest) other node) = set place value node := by
  induction place generalizing node with
  | nil => rfl
  | cons name place inductionHypothesis =>
      rw [List.cons_append, set, member?_set_self, Option.getD_some, inductionHypothesis, set, set,
        members_object, Keyed.put_put]

/-! ## The order of writing -/

/-- Composite nodes that are written with alike values are alike. -/
theorem alike_set_cons_iff
    {name other : String}
    {place otherPlace : List String}
    {value otherValue left right : Node}
    (leftUnambiguous : (set (name :: place) value left).Unambiguous)
    (rightUnambiguous : (set (other :: otherPlace) otherValue right).Unambiguous) :
    (set (name :: place) value left).Alike (set (other :: otherPlace) otherValue right) ↔
      ∀ next, Option.Rel Alike ((set (name :: place) value left).member? next)
        ((set (other :: otherPlace) otherValue right).member? next) :=
  alike_object_iff leftUnambiguous.1 rightUnambiguous.1

/-- Writing the same value into alike nodes gives alike nodes. -/
theorem Alike.set
    {value left right : Node}
    (valueUnambiguous : value.Unambiguous)
    (place : List String)
    (leftUnambiguous : left.Unambiguous)
    (rightUnambiguous : right.Unambiguous)
    (alike : left.Alike right) :
    (set place value left).Alike (set place value right) := by
  induction place generalizing left right with
  | nil => exact valueUnambiguous.alike_self
  | cons name place inductionHypothesis =>
      refine (alike_set_cons_iff (valueUnambiguous.set _ leftUnambiguous)
        (valueUnambiguous.set _ rightUnambiguous)).2 fun next => ?_
      have members := alike.member? leftUnambiguous rightUnambiguous
      by_cases same : next = name
      · rw [same, member?_set_self, member?_set_self]
        exact .some (inductionHypothesis (leftUnambiguous.getD_null name)
          (rightUnambiguous.getD_null name) (alike_getD_null (members name)))
      · rw [member?_set_of_ne _ _ _ same, member?_set_of_ne _ _ _ same]
        exact members next

/-- Values that are written at places apart from each other may be written in either order. -/
theorem alike_set_comm
    {first second : List String}
    {value other node : Node}
    (apart : Apart first second)
    (valueUnambiguous : value.Unambiguous)
    (otherUnambiguous : other.Unambiguous)
    (nodeUnambiguous : node.Unambiguous) :
    (set second other (set first value node)).Alike (set first value (set second other node)) := by
  induction first generalizing second node with
  | nil => exact absurd apart (not_apart_nil second)
  | cons name first inductionHypothesis =>
      cases second with
      | nil => exact absurd apart.symm (not_apart_nil _)
      | cons otherName second =>
          have firstUnambiguous := valueUnambiguous.set (name :: first) nodeUnambiguous
          have secondUnambiguous := otherUnambiguous.set (otherName :: second) nodeUnambiguous
          refine (alike_set_cons_iff (otherUnambiguous.set _ firstUnambiguous)
            (valueUnambiguous.set _ secondUnambiguous)).2 fun next => ?_
          by_cases same : name = otherName
          · subst same
            by_cases here : next = name
            · subst here
              rw [member?_set_self, member?_set_self, member?_set_self, member?_set_self]
              exact .some (inductionHypothesis (apart_cons_iff.1 apart rfl)
                (nodeUnambiguous.getD_null next))
            · simp only [member?_set_of_ne _ _ _ here]
              exact nodeUnambiguous.alike_member? next
          · by_cases here : next = name
            · subst here
              rw [member?_set_of_ne _ _ _ same, member?_set_self, member?_set_self,
                member?_set_of_ne _ _ _ same]
              exact .some (valueUnambiguous.set first (nodeUnambiguous.getD_null next)).alike_self
            · by_cases there : next = otherName
              · subst there
                rw [member?_set_of_ne _ _ _ here, member?_set_self, member?_set_self,
                  member?_set_of_ne _ _ _ here]
                exact .some
                  (otherUnambiguous.set second (nodeUnambiguous.getD_null next)).alike_self
              · rw [member?_set_of_ne _ _ _ there, member?_set_of_ne _ _ _ here,
                  member?_set_of_ne _ _ _ here, member?_set_of_ne _ _ _ there]
                exact nodeUnambiguous.alike_member? next

end Node
end ManagedTree
