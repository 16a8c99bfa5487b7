import ManagedTree.Controller.Execution

/-!
# Calls

A call goes on after its execution has returned: a deferred one when it is
continued, a threaded one on its worker, which may wait for its cancellation or
its release.  A worker reports how its script ended.
-/

namespace ManagedTree

/-- What continuing a call comes to. -/
inductive Continuation where
  /-- A script has run. -/
  | done
  /-- A script has raised an error. -/
  | failed (failure : Failure)
  /-- A script has panicked. -/
  | panicked (panic : Panic)
  /-- There is no script left. -/
  | exhausted
  /-- A worker has been released. -/
  | released
  /-- The worker does not wait for its release. -/
  | notWaiting
deriving Repr

/-- How far a worker has come with a script that stopped or ended early, and its report
on that. -/
def Progress.after : Except Ending Stop → Progress × Option Report
  | .ok .finished => (.over, some (.complete .null))
  | .ok (.completed undo) => (.over, some (.complete undo))
  | .ok .withdrawn => (.over, some .cancelled)
  | .ok (.awaitingCancel rest) => (.awaitingCancel rest, none)
  | .ok (.awaitingRelease rest) => (.awaitingRelease rest, none)
  | .error (.fault fault) => (.over, some (.failed (Failure.ofFault fault)))
  | .error (.panic panic) =>
    (.over, some (.failed (Failure.single Failure.panicKind panic.message)))

namespace Controller

/-- The controller on a new thread of a name, which is in no closure. -/
def onNewThread (name : Option String) (controller : Controller) : Controller :=
  { controller with
    ledger := controller.ledger.withScopes []
    thread := controller.ledger.trace.length + 1
    threadName := name }

/-- The controller back on the thread on which it was before. -/
def backOn (before controller : Controller) : Controller :=
  { controller with
    ledger := controller.ledger.withScopes before.ledger.scopes
    thread := before.thread
    threadName := before.threadName }

/-- Run a computation on a thread of its own. -/
def onThread {α : Type} (name : Option String) (work : Work α) : Work (Except Ending α) := do
  let before ← get
  modify (onNewThread name)
  let result ← work.outcome
  modify (backOn before)
  pure result

/-- Run the script of a worker, and report how it ended. -/
def runWorker (number : Nat) (job : Job) (name : String) (script : Script) : Work Unit := do
  let result ← (runScript executeCalmly job script).outcome
  let (progress, ended) := Progress.after result
  setCall number (.threaded job name progress)
  match ended with
  | some made => makeReport job.stream made
  | none => pure ()

/-- The script that a call's worker can go on with. -/
def readyScript? (controller : Controller) : Call → Option (Job × String × Script)
  | .threaded job name (.ready script) => some (job, name, script)
  | .threaded job name (.awaitingCancel script) =>
    if job.token.any (isCancelled controller.tokens) then some (job, name, script) else none
  | _ => none

/-- Let the worker of a call go on: whether it could.  What it raises while it reports
ends its thread only. -/
def goOn (number : Nat) : Work Bool := do
  let controller ← get
  match controller.calls[number]?.bind controller.readyScript? with
  | none => pure false
  | some (job, name, script) => do
    let _ ← onThread (some (threadNameOf name)) (runWorker number job name script)
    pure true

/-- Let the workers of calls go on, one after another: whether one could. -/
def goOnAll : List Nat → Work Bool
  | [] => pure false
  | number :: numbers => do
    let first ← goOn number
    let others ← goOnAll numbers
    pure (first || others)

/-- Let every worker go on once: whether one could. -/
def round : Work Bool := do
  let controller ← get
  goOnAll (List.range controller.calls.length)

/-- Let the workers go on until each waits or has come to its end, for as many rounds as
a budget allows. -/
def settle : Nat → Work Unit
  | 0 => pure ()
  | budget + 1 => do
    if ← round then settle budget

/-- The most rounds of workers. -/
def roundLimit : Nat := 10000

/-- Continue a call: run its next script, or release its worker. -/
def continueCall (number : Nat) (elsewhere : Bool) : Work Continuation := do
  let controller ← get
  match controller.calls[number]? with
  | some (.deferred job (script :: later) onCancel requested) => do
    setCall number (.deferred job later onCancel requested)
    let work := runScript executeCalmly job script
    let result ← if elsewhere then onThread none work else work.outcome
    match result with
    | .ok _ => pure .done
    | .error (.fault fault) => pure (.failed (Failure.ofFault fault))
    | .error (.panic panic) => pure (.panicked panic)
  | some (.threaded job name (.awaitingRelease script)) => do
    setCall number (.threaded job name (.ready script))
    pure .released
  | some (.threaded _ _ _) => pure .notWaiting
  | _ => pure .exhausted

/-- Ask for the cancellation of a deferred call: whether this was the first request, which
runs the script for it. -/
def cancelCall (number : Nat) : Work Bool := do
  let controller ← get
  match controller.calls[number]? with
  | some (.deferred job later onCancel requested) => do
    let (first, requested) := requested.trip
    setCall number (.deferred job later onCancel requested)
    note (.cancelRequest first)
    if first then
      match ← (runScript executeCalmly job onCancel).outcome with
      | .ok _ => pure ()
      | .error (.fault _) => note .cancelFailed
      | .error (.panic panic) => throw (.panic panic)
    pure first
  | _ => pure false

/-- Ask for cancellation through a handle: whether this was the first request. -/
def cancel : Handle → Work Bool
  | .call number => cancelCall number
  | handle => do
    let controller ← get
    let (first, tokens) := handle.request controller.tokens
    modify fun controller => { controller with tokens }
    pure first

end Controller
end ManagedTree
