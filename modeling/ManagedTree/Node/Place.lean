import ManagedTree.Node.Basic

/-!
# Places in a tree

A place is a list of member names that leads from a node downwards.  Reading
follows it; writing makes composite nodes on the way; reaching may create what
is absent, and tells which name could not be followed.
-/

namespace ManagedTree
namespace Node

/-- The node at a place, when every name on the way is a member. -/
def get? : List String → Node → Option Node
  | [], node => some node
  | name :: place, node => (node.member? name).bind (get? place)

/-- The tree with a value at a place.  Nodes on the way that are not composite give
way to composite ones. -/
def set : List String → Node → Node → Node
  | [], value, _ => value
  | name :: place, value, node =>
    let child := (node.member? name).getD .null
    .object (Keyed.put name (set place value child) node.members)

/-- The tree without the member at a place, if there is one; the root stays. -/
def remove : List String → Node → Node
  | [], node => node
  | [name], .object members => .object (Keyed.erase name members)
  | name :: place, .object members =>
    match Keyed.get? name members with
    | some child => .object (Keyed.put name (remove place child) members)
    | none => .object members
  | _ :: _, node => node

/-- Why a place cannot be followed. -/
inductive Obstacle where
  /-- A composite node has no member of this name. -/
  | missing (name : String)
  /-- A node that is not composite would have to have a member of this name. -/
  | notComposite (name : String)
deriving DecidableEq, Repr

/-- The node at a place, or the first name that cannot be followed. -/
def follow : List String → Node → Except Obstacle Node
  | [], node => .ok node
  | name :: place, .object members =>
    match Keyed.get? name members with
    | some child => follow place child
    | none => .error (.missing name)
  | name :: _, _ => .error (.notComposite name)

/-- A node as a walk that may create finds it: an undefined one becomes composite. -/
def opened (create : Bool) (node : Node) : Node :=
  if create && node.isNull then empty else node

/-- Walk to a place and edit the node there.  The result is the edited node, or the
first name that cannot be followed, and the tree as the walk leaves it.  A walk that
may create turns undefined nodes into composite ones and adds absent members. -/
def reach (create : Bool) (edit : Node → Node) :
    List String → Node → Except Obstacle Node × Node
  | [], node =>
    let target := edit (opened create node)
    (.ok target, target)
  | name :: place, node =>
    match opened create node with
    | .object members =>
      match Keyed.get? name members with
      | some child =>
        let (outcome, child) := reach create edit place child
        (outcome, .object (Keyed.put name child members))
      | none =>
        if create then
          let (outcome, child) := reach create edit place empty
          (outcome, .object (Keyed.put name child members))
        else
          (.error (.missing name), .object members)
    | other => (.error (.notComposite name), other)

@[simp] theorem get?_nil (node : Node) : get? [] node = some node := rfl

@[simp] theorem set_nil (value node : Node) : set [] value node = value := rfl

/-- What is read at a place further down is read from the node at the place. -/
theorem get?_append
    (place rest : List String)
    (node : Node) :
    get? (place ++ rest) node = (get? place node).bind (get? rest) := by
  induction place generalizing node with
  | nil => rfl
  | cons name place inductionHypothesis =>
    rw [List.cons_append, get?, get?, Option.bind_assoc]
    exact Option.bind_congr fun child _ => inductionHypothesis child

/-- What is written at a place is read there. -/
@[simp] theorem get?_set_self
    (place : List String)
    (value node : Node) :
    get? place (set place value node) = some value := by
  induction place generalizing node with
  | nil => rfl
  | cons name place inductionHypothesis =>
    simp [get?, set, member?, inductionHypothesis]

/-- Following a place succeeds exactly with the node that is read there. -/
theorem follow_eq_ok_iff
    {place : List String}
    {node target : Node} :
    follow place node = .ok target ↔ get? place node = some target := by
  induction place generalizing node with
  | nil => simp [follow]
  | cons name place inductionHypothesis =>
    cases node with
    | object members =>
      cases found : Keyed.get? name members with
      | none => simp [follow, get?, member?, found]
      | some child => simp [follow, get?, member?, found, inductionHypothesis]
    | _ => simp [follow, get?, member?, members]

end Node
end ManagedTree
