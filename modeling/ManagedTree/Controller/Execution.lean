import ManagedTree.Controller.Scripts

/-!
# Execution

Executing an operation finds its handler, makes its context and runs the handler.
Only the creation operation creates the node at its address, and only once a
handler is found.  Whatever goes wrong is reported as one failure.
-/

namespace ManagedTree
namespace Controller

/-- Find the handler for a request, and make its address resolve: the operation and its
handler or the error, and the tree afterwards. -/
def prepare (controller : Controller) (request : Node) :
    Except DispatchError (Operation × Handler) × Node :=
  let tree := controller.tree
  match Operation.ofNode request with
  | .error error => (.error (.tree error), tree)
  | .ok operation =>
    let address := operation.address
    let creates := operation.name = controller.settings.creationOperation
    match (if creates then .ok tree else address.find tree) with
    | .error error => (.error (.tree error), tree)
    | .ok _ =>
      match controller.registry.lookup address operation.name with
      | none => (.error (.noHandler address.text operation.name), tree)
      | some handler =>
        if creates then
          match address.create tree with
          | (.error error, tree) => (.error (.tree error), tree)
          | (.ok _, tree) => (.ok (operation, handler), tree)
        else
          (.ok (operation, handler), tree)

/-- A computation whose error is an error of dispatch.  Its panic goes on. -/
def guarded {α : Type} (blame : Fault → DispatchError) (work : Work α) :
    Work (Except DispatchError α) := do
  match ← work.outcome with
  | .ok value => pure (.ok value)
  | .error (.fault fault) => pure (.error (blame fault))
  | .error (.panic panic) => throw (.panic panic)

/-- The name of the worker thread of a handler. -/
def threadNameOf (handler : String) : String :=
  "steward-op-" ++ handler

/-- The panic that a thread's name leads to: a null character would cut it short. -/
def namePanic? (name : String) : Option Panic :=
  let bytes := name.toUTF8.toList
  if bytes.contains 0 then
    let shown := ", ".intercalate (bytes.map fun byte => toString byte.toNat)
    some (.text s!"thread name may not contain interior null bytes: NulError({bytes.idxOf 0}, [{shown}])")
  else
    none

section

variable (execute : Node → Work Unit)

/-- Run a handler for a job: the handle it returns.  A worker that cannot start is over. -/
def handle (job : Job) (handler : Handler) : Work Handle :=
  match handler.kind with
  | .inline script withToken => do
    let _ ← runScript execute job script
    if withToken then do
      let token ← newToken
      pure (.token token)
    else
      pure .null
  | .deferred script later onCancel => do
    let _ ← runScript execute job script
    let number ← newCall (.deferred job later onCancel Latch.fresh)
    pure (.call number)
  | .threaded script => do
    let token ← newToken
    let panic? := namePanic? (threadNameOf handler.id)
    let progress := if panic?.isSome then .over else .ready script
    let _ ← newCall (.threaded { job with token := some token } handler.id progress)
    match panic? with
    | some panic => throw (.panic panic)
    | none => pure (.token token)

/-- Take the steps of an invoker: the handle of the last run of the handler, or else a
given one. -/
def follow (job : Job) (handler : Handler) : List InvokerStep → Handle → Work Handle
  | [], held => pure held
  | .announce :: steps, held => do
    note (.invoke job.operation.describe)
    follow job handler steps held
  | .run :: steps, _ => do
    let held ← handle execute job handler
    follow job handler steps held
  | .confirm :: steps, held => do
    note .invoked
    follow job handler steps held
  | .act action :: steps, held => do
    perform execute job action
    follow job handler steps held

/-- Run a handler through the invoker. -/
def invoke (job : Job) (handler : Handler) : Work Handle := do
  let controller ← get
  Run.mark (.noted (.invoking job.stream job.operation handler))
  follow execute job handler (controller.invoker job.operation) .null

/-- Have the context of an operation made for its handler. -/
def consult (operation : Operation) (handler : Handler) : Work Context := do
  let controller ← get
  let (made, tree) := controller.factory operation handler controller.tree
  modify (withTree tree)
  Run.ending made

/-- Go on with what was found for a request: have its context made and its handler run. -/
def pursue (stream : Nat) :
    Except DispatchError (Operation × Handler) → Work (Except DispatchError Handle)
  | .error error => do
    Run.mark (.noted (.givingUp stream))
    pure (.error error)
  | .ok (operation, handler) => do
    Run.mark (.noted (.consulting stream operation handler))
    match ← guarded .context (consult operation handler) with
    | .error error => pure (.error error)
    | .ok context => guarded .handler (invoke execute ⟨operation, context, stream, none⟩ handler)

/-- Dispatch a request to its handler. -/
def dispatch (request : Node) (stream : Nat) : Work (Except DispatchError Handle) := do
  let controller ← get
  let (prepared, tree) := controller.prepare request
  modify (withTree tree)
  pursue execute stream prepared

end

/-- Report why a request could not be dispatched. -/
def refuse (stream : Nat) (error : DispatchError) : Work Handle := do
  makeReport stream (.failed error.failure)
  pure .null

/-- What a dispatch comes to when its panic is caught. -/
def caught : Except Ending (Except DispatchError Handle) → Except DispatchError Handle
  | .ok result => result
  | .error (.fault fault) => .error (.handler fault)
  | .error (.panic panic) => .error (.panic panic.message)

/-- Come to the end of a dispatch.  Only here a panic of a handler is caught. -/
def conclude (stream : Nat) (dispatched : Work (Except DispatchError Handle)) : Work Handle := do
  match caught (← dispatched.outcome) with
  | .ok handle => pure handle
  | .error error => refuse stream error

/-- Execute a request from within a script, on a stream of its own. -/
def nested (execute : Node → Nat → Work Handle) (request : Node) : Work Unit := do
  let stream ← openStream false Reaction.calm
  let handle ← execute request stream
  keepHandle stream handle

/-- Execute a request that reports on a stream.  The budget bounds the executions
within one another. -/
def executeOn : Nat → Node → Nat → Work Handle
  | 0, _, stream => refuse stream (.panic "too many executions within one another")
  | budget + 1, request, stream =>
    conclude stream (dispatch (nested (executeOn budget)) request stream)

/-- The most executions within one another. -/
def nestingLimit : Nat := 1000

/-- Execute a request for a caller: the number of its stream. -/
def execute (react : Reaction) (request : Node) : Work Nat := do
  let stream ← openStream false react
  let handle ← executeOn nestingLimit request stream
  keepHandle stream handle
  pure stream

/-- Execute a request from within a script. -/
def executeCalmly (request : Node) : Work Unit := do
  let _ ← execute Reaction.calm request

end Controller
end ManagedTree
