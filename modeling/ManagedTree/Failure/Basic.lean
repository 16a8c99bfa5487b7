import ManagedTree.Node.Basic

/-!
# Failures

A failure tells why an operation failed: a list of causes, the outermost first.
-/

namespace ManagedTree

/-- One cause of a failure. -/
structure Cause where
  /-- What kind of error it is. -/
  kind : String
  /-- The wording of the error. -/
  message : String
deriving DecidableEq, Repr

/-- Why an operation failed. -/
structure Failure where
  /-- The causes, outermost first. -/
  causes : List Cause
deriving DecidableEq, Repr

namespace Failure

/-- The kind of failures that come from panics. -/
def panicKind : String := "panic"

/-- The failure with a single cause. -/
def single (kind message : String) : Failure :=
  ⟨[⟨kind, message⟩]⟩

/-- Whether the failure is a success, which it never is. -/
def success (_ : Failure) : Bool :=
  false

/-- The text of one cause. -/
def causeText (cause : Cause) : String :=
  s!"{cause.kind}: {cause.message}"

/-- The text of a failure. -/
def text (failure : Failure) : String :=
  "; caused by ".intercalate (failure.causes.map causeText)

/-- The node of one cause. -/
def causeNode (cause : Cause) : Node :=
  .object [("kind", .text cause.kind), ("message", .text cause.message)]

/-- The node of a failure. -/
def toNode (failure : Failure) : Node :=
  .object [("success", .bool false), ("cause", .list (failure.causes.map causeNode))]

end Failure
end ManagedTree
