import ManagedTree.Decimal.Binary64
import ManagedTree.Keyed

/-!
# Nodes

A node of the configuration tree is undefined, a leaf, a list, or a composite
node whose members keep their order of insertion.
-/

namespace ManagedTree

/-- A number: an integer or a binary floating-point number. -/
inductive Number where
  /-- An integer. -/
  | integer (value : Int)
  /-- A floating-point number. -/
  | floating (value : Binary64)
deriving DecidableEq, Repr

/-- Whether two numbers of one kind have equal values. -/
def Number.same : Number → Number → Bool
  | .integer left, .integer right => left == right
  | .floating left, .floating right => left.same right
  | _, _ => false

/-- A node of the configuration tree. -/
inductive Node where
  /-- The undefined node. -/
  | null
  /-- A truth value. -/
  | bool (value : Bool)
  /-- A number. -/
  | number (value : Number)
  /-- A text. -/
  | text (value : String)
  /-- A list of nodes. -/
  | list (items : List Node)
  /-- A composite node with named members. -/
  | object (members : List (String × Node))
deriving Repr, Inhabited

namespace Node

/-- The composite node without members. -/
def empty : Node :=
  .object []

/-- The node for an integer. -/
def integer (value : Int) : Node :=
  .number (.integer value)

/-- Whether a node is undefined. -/
def isNull : Node → Bool
  | .null => true
  | _ => false

/-- Whether a node can hold named members. -/
def isComposite : Node → Bool
  | .object _ => true
  | _ => false

/-- The members of a composite node; other nodes have none. -/
def members : Node → List (String × Node)
  | .object members => members
  | _ => []

/-- The only composite node without members is the empty one. -/
theorem eq_empty_iff {node : Node} :
    node = empty ↔ node.isComposite = true ∧ node.members = [] := by
  cases node <;> simp [empty, isComposite, members]

/-- The member of a node under a name. -/
def member? (name : String) (node : Node) : Option Node :=
  Keyed.get? name node.members

@[simp] theorem members_object (members : List (String × Node)) :
    (Node.object members).members = members := rfl

mutual

/-- Whether two nodes are equal when the order of members does not count. -/
def alike : Node → Node → Bool
  | .null, .null => true
  | .bool left, .bool right => left == right
  | .number left, .number right => left.same right
  | .text left, .text right => left == right
  | .list left, .list right => alikeItems left right
  | .object left, .object right =>
    left.length == right.length && alikeMembers left right
  | _, _ => false

/-- Whether two lists have the same length and nodes that are alike in every place. -/
def alikeItems : List Node → List Node → Bool
  | [], [] => true
  | left :: lefts, right :: rights => alike left right && alikeItems lefts rights
  | _, _ => false

/-- Whether every member on the left has a member alike under its name on the right. -/
def alikeMembers : List (String × Node) → List (String × Node) → Bool
  | [], _ => true
  | (name, left) :: rest, rights =>
    (match Keyed.get? name rights with
      | some right => alike left right
      | none => false) && alikeMembers rest rights

end

end Node
end ManagedTree
