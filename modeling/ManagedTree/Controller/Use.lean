import ManagedTree.Controller.Start

/-!
# Using a controller

A program of uses is what goes on around a controller: executions, the calls and
workers that they leave behind, handlers that are registered, and whoever else edits
the tree or holds it.
-/

namespace ManagedTree

/-- A use of a controller. -/
inductive Use where
  /-- Execute a request for a caller who reacts to the reports. -/
  | execute (react : Reaction) (request : Node)
  /-- Execute a request and wait for its end. -/
  | executeBlocking (request : Node)
  /-- Continue a call, perhaps on a thread of its own. -/
  | continueCall (number : Nat) (elsewhere : Bool)
  /-- Ask for cancellation through a handle. -/
  | cancel (handle : Handle)
  /-- Let the workers go on. -/
  | settle (rounds : Nat)
  /-- Register a handler. -/
  | register (pattern : Address) (name : String) (handler : Handler)
  /-- Edit the tree. -/
  | edit (change : Node → Node)
  /-- Interrupt the thread that makes blocking calls. -/
  | interrupt
  /-- Panic. -/
  | panic (panic : Panic)
  /-- Go on within a closure of the tree. -/
  | within (access : Access) (uses : List Use)
  /-- Go on on a thread of its own. -/
  | elsewhere (name : Option String) (uses : List Use)
  /-- Go on and catch what ends this early. -/
  | attempt (uses : List Use)

namespace Controller

/-- The controller after an attempt to register a handler. -/
def registering
    (pattern : Address) (name : String) (handler : Handler) (controller : Controller) :
    Controller :=
  match controller.register pattern name handler with
  | .ok (_, controller) => controller
  | .error _ => controller

mutual

/-- Make use of the controller. -/
def serve : Use → Work Unit
  | .execute react request => do
    let _ ← execute react request
  | .executeBlocking request => do
    let _ ← executeBlocking request
  | .continueCall number elsewhere => do
    let _ ← continueCall number elsewhere
  | .cancel handle => do
    let _ ← cancel handle
  | .settle rounds => settle rounds
  | .register pattern name handler => modify (registering pattern name handler)
  | .edit change => modify fun controller => controller.withTree (change controller.tree)
  | .interrupt =>
    modify fun controller => { controller with interrupt := controller.interrupt.raise.2 }
  | .panic panic => throw (.panic panic)
  | .within access uses => closure access (serveAll uses)
  | .elsewhere name uses => do
    let _ ← onThread name (serveAll uses)
  | .attempt uses => do
    let _ ← (serveAll uses).outcome

/-- Make one use of the controller after another. -/
def serveAll : List Use → Work Unit
  | [] => pure ()
  | use :: uses => do
    serve use
    serveAll uses

end

/-- The controller after uses of it. -/
def after (uses : List Use) (controller : Controller) : Controller :=
  ((serveAll uses).on controller).2

end Controller
end ManagedTree
