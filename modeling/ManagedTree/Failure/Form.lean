import ManagedTree.Failure.Basic
import ManagedTree.Node.Printer
import ManagedTree.Text.Quoted

/-!
# Reading failures from nodes

A record of two fields is an object that has both as members, or a list of the two
values in order.  Members of other names do not count.  A failure is a record of
a flag that has to be false and a list of causes, each a record of two texts.
-/

namespace ManagedTree

/-- What a node is expected to be. -/
inductive Expected where
  /-- A truth value. -/
  | bool
  /-- A text. -/
  | text
  /-- A list. -/
  | sequence
  /-- A record of a name. -/
  | record (name : String)
deriving DecidableEq, Repr

/-- Why a node is no failure. -/
inductive FormFlaw where
  /-- A record lacks a field. -/
  | missingField (name : String)
  /-- A node of one type stands where another one is expected. -/
  | wrongType (found : Node) (expected : Expected)
  /-- A list has too few values for a record. -/
  | tooShort (length : Nat) (record : String)
  /-- A list has too many values for a record. -/
  | tooLong (length : Nat)
  /-- A failure says that it is a success. -/
  | successful
deriving Repr

/-- The wording of what was expected. -/
def Expected.message : Expected → String
  | .bool => "a boolean"
  | .text => "a string"
  | .sequence => "a sequence"
  | .record name => s!"struct {name}"

/-- The wording of what a node is. -/
def Node.typeMessage : Node → String
  | .null => "null"
  | .bool true => "boolean `true`"
  | .bool false => "boolean `false`"
  | .number (.integer value) => s!"integer `{String.ofList (integerText value)}`"
  | .number (.floating value) => s!"floating point `{String.ofList (value.text jsonLayout)}`"
  | .text value => "string " ++ Text.quoted value
  | .list _ => "sequence"
  | .object _ => "map"

/-- The wording of a flaw. -/
def FormFlaw.message : FormFlaw → String
  | .missingField name => s!"missing field `{name}`"
  | .wrongType found expected => s!"invalid type: {found.typeMessage}, expected {expected.message}"
  | .tooShort length record => s!"invalid length {length}, expected struct {record} with 2 elements"
  | .tooLong length => s!"invalid length {length}, expected fewer elements in array"
  | .successful => "failure description is marked successful"

namespace Failure

variable {α β : Type}

/-- Read the members of a record: the value of each field that is there.  The members
are read in their order, and the first flaw counts. -/
def readFields
    (first second : String)
    (readFirst : Node → Except FormFlaw α) (readSecond : Node → Except FormFlaw β) :
    List (String × Node) → Except FormFlaw (Option α × Option β)
  | [] => .ok (none, none)
  | (name, node) :: members =>
    if name = first then do
      let value ← readFirst node
      let found ← readFields first second readFirst readSecond members
      .ok (some value, found.2)
    else if name = second then do
      let value ← readSecond node
      let found ← readFields first second readFirst readSecond members
      .ok (found.1, some value)
    else
      readFields first second readFirst readSecond members

/-- Read a record of two fields. -/
def readRecord
    (record first second : String)
    (readFirst : Node → Except FormFlaw α) (readSecond : Node → Except FormFlaw β) :
    Node → Except FormFlaw (α × β)
  | .object members => do
    match ← readFields first second readFirst readSecond members with
    | (some left, some right) => .ok (left, right)
    | (none, _) => .error (.missingField first)
    | (some _, none) => .error (.missingField second)
  | .list [] => .error (.tooShort 0 record)
  | .list [node] => do
    let _ ← readFirst node
    .error (.tooShort 1 record)
  | .list (left :: right :: rest) => do
    let left ← readFirst left
    let right ← readSecond right
    if rest.isEmpty then .ok (left, right) else .error (.tooLong (rest.length + 2))
  | node => .error (.wrongType node (.record record))

/-- Read a truth value. -/
def readBool : Node → Except FormFlaw Bool
  | .bool value => .ok value
  | node => .error (.wrongType node .bool)

/-- Read a text. -/
def readText : Node → Except FormFlaw String
  | .text value => .ok value
  | node => .error (.wrongType node .text)

/-- Read a cause. -/
def readCause (node : Node) : Except FormFlaw Cause := do
  let (kind, message) ← readRecord "FailureCause" "kind" "message" readText readText node
  .ok ⟨kind, message⟩

/-- Read causes one after another. -/
def readEach : List Node → Except FormFlaw (List Cause)
  | [] => .ok []
  | node :: nodes => do
    let cause ← readCause node
    let causes ← readEach nodes
    .ok (cause :: causes)

/-- Read a list of causes. -/
def readCauses : Node → Except FormFlaw (List Cause)
  | .list items => readEach items
  | node => .error (.wrongType node .sequence)

/-- The failure that a node denotes. -/
def ofNode (node : Node) : Except FormFlaw Failure := do
  let (success, causes) ← readRecord "FailureWire" "success" "cause" readBool readCauses node
  if success then .error .successful else .ok ⟨causes⟩

end Failure
end ManagedTree
