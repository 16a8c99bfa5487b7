import ManagedTree.Controller.Reporting
import ManagedTree.Diagnostics

/-!
# Running scripts

A script acts for a job: it reports on the job's stream and works on the node at
the job's address, which it looks for anew every time.
-/

namespace ManagedTree

/-- How a script stops when it does not end early. -/
inductive Stop where
  /-- It has no more actions. -/
  | finished
  /-- It says that the operation is complete. -/
  | completed (undo : Node)
  /-- It says that the operation is cancelled. -/
  | withdrawn
  /-- A worker goes on with the rest once it is cancelled. -/
  | awaitingCancel (rest : Script)
  /-- A worker goes on with the rest once it is released. -/
  | awaitingRelease (rest : Script)

namespace Controller

/-- A value, unless there is an error about the tree. -/
def found : Except TreeError Node → Work Node
  | .ok node => pure node
  | .error error => throw (.fault (.tree error))

/-- The node of a job. -/
def findNode (job : Job) : Work Node := do
  let controller ← get
  found (job.context.address.find controller.tree)

/-- Edit the node of a job. -/
def editNode (job : Job) (change : Node → Node) : Work Unit := do
  let controller ← get
  let (result, tree) := job.context.address.edit false change controller.tree
  modify (withTree tree)
  let _ ← found result

/-- Write at a place of the node of a job: within the closure that holds the tree, or
else in a closure of its own. -/
def write (job : Job) (place : List String) (value : Node) : Work Unit := do
  let controller ← get
  let edit := editNode job (Node.set place value)
  if controller.holdsTree then edit else closure .write edit

/-- Report a fragment. -/
def emit (job : Job) (place : List String) (value : Node) : Work Unit :=
  makeReport job.stream (.fragment place value)

/-- The node of a text that may be absent. -/
def textNode : Option String → Node
  | some text => .text text
  | none => .null

/-- Whether the worker of a job is cancelled, null when there is no worker. -/
def cancelledNode (controller : Controller) (job : Job) : Node :=
  match job.token with
  | some token => .bool (isCancelled controller.tokens token)
  | none => .null

/-- The parameter of a job's operation, null when it is absent. -/
def parameter (job : Job) (name : String) : Node :=
  (job.operation.param? name).getD .null

section

variable (execute : Node → Work Unit) (job : Job)

mutual

/-- Do an action of a script.  Executing another operation is left to a given
computation, and waiting and stopping to whoever runs the script. -/
def perform : Action → Work Unit
  | .report made => makeReport job.stream made
  | .completeUndo name =>
    makeReport job.stream (.complete (Operation.new name job.context.address).toNode)
  | .set place value => write job place value
  | .setParam place name => write job place (parameter job name)
  | .emit place => do
    let node ← closure .read (findNode job)
    emit job place node
  | .emitMember place name => do
    let node ← closure .read (findNode job)
    emit job place ((node.member? name).getD .null)
  | .emitParam place name => emit job place (parameter job name)
  | .emitOperation place => emit job place job.operation.toNode
  | .emitAddress place => emit job place (.text job.context.address.text)
  | .emitAttachment place => emit job place (textNode job.context.attachment)
  | .emitThread place => do
    let controller ← get
    emit job place (textNode controller.threadName)
  | .emitCancelled place => do
    let controller ← get
    emit job place (controller.cancelledNode job)
  | .emitContext place => emit job place (.text (Diagnostics.context job.context))
  | .remove place =>
    closure .write (modify fun controller =>
      controller.withTree (Node.remove place controller.tree))
  | .execute request => execute request
  | .locked => do
    let controller ← get
    note (.locked controller.holdsTree)
  | .update actions =>
    closure .write do
      editNode job id
      performAll actions
  | .read actions =>
    closure .read do
      let _ ← findNode job
      performAll actions
  | .interrupt =>
    modify fun controller => { controller with interrupt := controller.interrupt.raise.2 }
  | .raise fault => throw (.fault fault)
  | .panic panic => throw (.panic panic)
  | .awaitCancel | .awaitRelease | .finish _ | .withdraw => pure ()

/-- Do actions one after another. -/
def performAll : List Action → Work Unit
  | [] => pure ()
  | action :: actions => do
    perform action
    performAll actions

end

/-- Run a script until it stops.  Only a worker waits. -/
def runScript : Script → Work Stop
  | [] => pure .finished
  | .finish undo :: _ => pure (.completed undo)
  | .withdraw :: _ => pure .withdrawn
  | .awaitCancel :: rest =>
    if job.token.isSome then pure (.awaitingCancel rest) else runScript rest
  | .awaitRelease :: rest =>
    if job.token.isSome then pure (.awaitingRelease rest) else runScript rest
  | action :: rest => do
    perform execute job action
    runScript rest

end

end Controller
end ManagedTree
