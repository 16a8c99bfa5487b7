import ManagedTree.Controller.Basic

/-!
# Reporting

Reports reach the caller until one ends the execution.  When an execution is
complete the tree is stored, but never while the thread holds the tree.
-/

namespace ManagedTree
namespace Controller

/-- Ask the keeper to store the tree.  That it cannot is no concern of the caller's. -/
def store (stream : Option Nat) : Work Unit := do
  let controller ← get
  note (.stored stream controller.tree controller.holdsTree)
  let (response, custody) := controller.keeper.store controller.tree controller.custody
  modify fun controller => { controller with custody }
  match response with
  | .kept | .refused _ => pure ()
  | .panicked panic => throw (.panic panic)

/-- Run an errand. -/
def run : Errand → Work Unit
  | .store stream => store (some stream)

/-- Run a closure of the tree. -/
def closure {α : Type} (access : Access) (body : Work α) : Work α :=
  Run.within run Ending.unwinds home access body

/-- Give a report to the caller of a stream, who may panic. -/
def deliver (number : Nat) (react : Reaction) (report : Report) : Work Unit := do
  let controller ← get
  note (.delivered number report)
  match react (controller.delivered number) report with
  | none => pure ()
  | some panic => throw (.panic panic)

/-- Take a report on a stream.  After the end of the execution reports are dropped. -/
def report (number : Nat) (report : Report) : Work Unit := do
  let controller ← get
  match controller.streams[number]? with
  | none => pure ()
  | some stream =>
    if stream.ended.isSet then
      pure ()
    else do
      if report.isTerminal then modify (ending number)
      deliver number stream.react report
      if report.isComplete then Run.unlocked run home (.store number)

/-- Make a report on a stream.  Whoever makes it notes that first, whatever becomes of it. -/
def makeReport (number : Nat) (made : Report) : Work Unit := do
  let controller ← get
  if number < controller.streams.length then note (.reported number made)
  report number made

end Controller
end ManagedTree
