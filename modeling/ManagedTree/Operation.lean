import ManagedTree.Address.Form
import ManagedTree.Address.Resolve

/-!
# Operations

An operation is a request to the node at an address: a name and named
parameters.  As a node it is an object whose members `operation` and `address`
hold the name and the address, and whose other members are the parameters.
-/

namespace ManagedTree

/-- A request to the node at an address. -/
structure Operation where
  /-- What is to be done. -/
  name : String
  /-- The address of the node it is done to. -/
  address : Address
  /-- The parameters, in order. -/
  params : List (String × Node)
deriving Repr

namespace Operation

/-- The member that holds the name. -/
def nameField : String := "operation"

/-- The member that holds the address. -/
def addressField : String := "address"

/-- The name of the operation that creates its address, unless settings say otherwise. -/
def add : String := "add"

/-- The operation without parameters. -/
def new (name : String) (address : Address) : Operation :=
  ⟨name, address, []⟩

/-- The operation with a parameter. -/
def withParam (operation : Operation) (name : String) (value : Node) : Operation :=
  { operation with params := Keyed.put name value operation.params }

/-- The value of a parameter. -/
def param? (operation : Operation) (name : String) : Option Node :=
  Keyed.get? name operation.params

/-- The operation's name among the members of its node. -/
def nameOf (fields : List (String × Node)) : Except TreeError String :=
  match Keyed.get? nameField fields with
  | none => .error .missingName
  | some .null => .error .missingName
  | some (.text name) =>
    if name = "" then .error (.malformedOperation (.badName (.text name))) else .ok name
  | some node => .error (.malformedOperation (.badName node))

/-- Whether a member of an operation's node is a parameter. -/
def isParam (field : String × Node) : Bool :=
  field.1 != nameField && field.1 != addressField

/-- The operation that a node denotes.  The name is read before the address. -/
def ofNode : Node → Except TreeError Operation
  | .object fields => do
    let name ← nameOf fields
    let address ← Address.ofNode ((Keyed.get? addressField fields).getD .null)
    .ok ⟨name, address, fields.filter isParam⟩
  | node => .error (.malformedOperation (.notComposite node))

/-- The node of an operation.  A parameter named like the name or the address takes
that member's place. -/
def toNode (operation : Operation) : Node :=
  let fields := [(nameField, .text operation.name), (addressField, operation.address.toNode)]
  .object (operation.params.foldl (fun fields (name, value) => Keyed.put name value fields) fields)

/-- A short description: the address and the name. -/
def describe (operation : Operation) : String :=
  s!"{operation.address.text}:{operation.name}"

/-- Whether two operations are equal; the order of parameters does not count. -/
def alike (left right : Operation) : Bool :=
  left.name == right.name && left.address == right.address &&
    (Node.object left.params).alike (.object right.params)

end Operation
end ManagedTree
