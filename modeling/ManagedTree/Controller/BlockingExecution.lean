import ManagedTree.Blocking
import ManagedTree.Controller.Calls

/-!
# Blocking execution

A blocking execution waits for the reports on its stream while the workers go on.
-/

namespace ManagedTree
namespace Controller

/-- The waiting for the end of a stream, of which cancellation is asked through a
handle. -/
def waiting (stream : Nat) (handle : Handle) : Waiting Ending Controller where
  gathered controller := Gathering.ofReports (controller.delivered stream)
  takeInterrupt controller :=
    let (flag, interrupt) := controller.interrupt.take
    (flag, { controller with interrupt })
  setInterrupt controller := { controller with interrupt := controller.interrupt.set }
  cancel := do
    let _ ← cancel handle
  wait := round

/-- Execute a request and wait for its end: there is no answer when it never ends. -/
def executeBlocking (request : Node) : Work (Option (Except BlockingError Node)) := do
  let stream ← openStream true Reaction.calm
  let handle ← executeOn nestingLimit request stream
  modify fun controller => { controller with interrupt := controller.interrupt.register () }
  let answer ← ((waiting stream handle).run roundLimit).outcome
  modify fun controller => { controller with interrupt := controller.interrupt.release }
  Run.ending answer

end Controller
end ManagedTree
