import ManagedTree.Failure.Basic
import ManagedTree.Node.Place

/-!
# Reports

What an operation reports: fragments of its result, and how it ends.  Only the
first end counts, and nothing counts after it.
-/

namespace ManagedTree

/-- What an operation reports. -/
inductive Report where
  /-- A part of the result and its place in it. -/
  | fragment (place : List String) (value : Node)
  /-- The operation is complete; the node describes how to undo it. -/
  | complete (undo : Node)
  /-- The operation failed. -/
  | failed (failure : Failure)
  /-- The operation was cancelled. -/
  | cancelled
deriving Repr

namespace Report

/-- Whether a report ends the operation. -/
def isTerminal : Report → Bool
  | .fragment _ _ => false
  | _ => true

/-- Whether a report says that the operation is complete. -/
def isComplete : Report → Bool
  | .complete _ => true
  | _ => false

end Report

/-- A flag that is set once and stays set. -/
structure Latch where
  /-- Whether the flag is set. -/
  isSet : Bool
deriving DecidableEq, Repr

namespace Latch

/-- The flag before it is set. -/
def fresh : Latch := ⟨false⟩

/-- Set the flag: whether this was the first time, and the flag. -/
def trip (latch : Latch) : Bool × Latch :=
  (!latch.isSet, ⟨true⟩)

@[simp] theorem trip_fst (latch : Latch) : latch.trip.1 = !latch.isSet := rfl

@[simp] theorem isSet_trip (latch : Latch) : latch.trip.2.isSet = true := rfl

end Latch

/-- How an operation ended, for a caller who waits for that. -/
inductive Outcome where
  /-- The operation is complete. -/
  | complete
  /-- The operation failed. -/
  | failed (failure : Failure)
  /-- The operation was cancelled. -/
  | cancelled
deriving DecidableEq, Repr

/-- The outcome that a report brings, if it ends the operation. -/
def Report.outcome? : Report → Option Outcome
  | .fragment _ _ => none
  | .complete _ => some .complete
  | .failed failure => some (.failed failure)
  | .cancelled => some .cancelled

/-- What a waiting caller has gathered. -/
structure Gathering where
  /-- The fragments put together. -/
  result : Node
  /-- How the operation ended, once it has. -/
  outcome : Option Outcome
deriving Repr

namespace Gathering

/-- Nothing is gathered yet. -/
def start : Gathering := ⟨.null, none⟩

/-- Gather one more report, unless the operation has ended. -/
def receive (gathering : Gathering) (report : Report) : Gathering :=
  match gathering.outcome, report with
  | some _, _ => gathering
  | none, .fragment place value => { gathering with result := Node.set place value gathering.result }
  | none, report => { gathering with outcome := report.outcome? }

/-- Gather reports one after another. -/
def ofReports (reports : List Report) : Gathering :=
  reports.foldl receive start

/-- After the end nothing changes. -/
theorem receive_of_ended
    {gathering : Gathering}
    {outcome : Outcome}
    (ended : gathering.outcome = some outcome)
    (report : Report) :
    gathering.receive report = gathering := by
  simp [receive, ended]

end Gathering
end ManagedTree
