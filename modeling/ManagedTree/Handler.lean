import ManagedTree.Fault.Links
import ManagedTree.Operation
import ManagedTree.Report
import ManagedTree.Run

/-!
# Handlers

A handler is what is registered for an operation.  Its behaviour is a script of
actions: reports to the caller, accesses to the node at the operation's address,
further operations, and ways to end early.
-/

namespace ManagedTree

/-- An action of a script. -/
inductive Action where
  /-- Report to the caller. -/
  | report (report : Report)
  /-- Report completion, to be undone by an operation of a name at the same address. -/
  | completeUndo (name : String)
  /-- Write at a place of the node. -/
  | set (place : List String) (value : Node)
  /-- Write a parameter at a place of the node, null when it is absent. -/
  | setParam (place : List String) (name : String)
  /-- Report the node. -/
  | emit (place : List String)
  /-- Report a member of the node, null when it is absent. -/
  | emitMember (place : List String) (name : String)
  /-- Report a parameter, null when it is absent. -/
  | emitParam (place : List String) (name : String)
  /-- Report the operation. -/
  | emitOperation (place : List String)
  /-- Report the text of the address. -/
  | emitAddress (place : List String)
  /-- Report the attachment, null when there is none. -/
  | emitAttachment (place : List String)
  /-- Report the name of the thread, null when it has none. -/
  | emitThread (place : List String)
  /-- Report whether the worker is cancelled, null when this is no worker. -/
  | emitCancelled (place : List String)
  /-- Report the diagnostic text of the context. -/
  | emitContext (place : List String)
  /-- Remove a place of the whole tree. -/
  | remove (place : List String)
  /-- Execute another operation. -/
  | execute (request : Node)
  /-- Note whether the tree is held. -/
  | locked
  /-- Act within a closure that may edit the node. -/
  | update (actions : List Action)
  /-- Act within a closure that may look at the node. -/
  | read (actions : List Action)
  /-- Interrupt the thread of the caller who waits. -/
  | interrupt
  /-- Wait until the worker is cancelled. -/
  | awaitCancel
  /-- Wait until the worker is released. -/
  | awaitRelease
  /-- Raise an error. -/
  | raise (fault : Fault)
  /-- Panic. -/
  | panic (panic : Panic)
  /-- End the script; a worker reports completion. -/
  | finish (undo : Node)
  /-- End the script; a worker reports cancellation. -/
  | withdraw
deriving Repr, Inhabited

/-- A script. -/
abbrev Script := List Action

/-- How a handler carries out an operation. -/
inductive HandlerKind where
  /-- At once, and with a cancellation token for the caller if there is to be one. -/
  | inline (script : Script) (withToken : Bool)
  /-- At once, and then in later scripts, each run when the call is continued; the first
  request for cancellation runs a script of its own. -/
  | deferred (script : Script) (later : List Script) (onCancel : Script)
  /-- On a worker thread. -/
  | threaded (script : Script)

/-- A handler. -/
structure Handler where
  /-- The name by which the handler is known. -/
  id : String
  /-- How it carries out an operation. -/
  kind : HandlerKind

/-- How a script ends early. -/
inductive Ending where
  /-- By an error. -/
  | fault (fault : Fault)
  /-- By a panic. -/
  | panic (panic : Panic)
deriving Repr

/-- Whether closures unwind when they end this way. -/
def Ending.unwinds : Ending → Bool
  | .fault _ => false
  | .panic _ => true

/-- What a handler gets to see besides the operation. -/
structure Context where
  /-- The address of the node. -/
  address : Address
  /-- What the context factory attached. -/
  attachment : Option String
deriving DecidableEq, Repr

/-- What makes the context of an operation for its handler.  It sees the tree and may
edit it, and it may fail or panic. -/
abbrev ContextFactory := Operation → Handler → Node → Except Ending Context × Node

/-- The factory that attaches nothing. -/
def ContextFactory.basic : ContextFactory :=
  fun operation _ tree => (.ok ⟨operation.address, none⟩, tree)

/-- The factory that attaches texts, the last of which counts.  An operation with a
parameter `deny` fails, and one with a text `factory-panic` panics with it. -/
def ContextFactory.attaching (texts : List String) (denial : Fault) : ContextFactory :=
  fun operation _ tree =>
    if (operation.param? "deny").isSome then
      (.error (.fault denial), tree)
    else
      match operation.param? "factory-panic" with
      | some (.text message) => (.error (.panic (.text message)), tree)
      | _ => (.ok ⟨operation.address, texts.getLast?⟩, tree)

/-- A step of what runs the handler that was found. -/
inductive InvokerStep where
  /-- Note that the handler is about to run. -/
  | announce
  /-- Run the handler. -/
  | run
  /-- Note that the handler has returned. -/
  | confirm
  /-- Act in the handler's place. -/
  | act (action : Action)
deriving Repr

/-- What runs the handler that was found for an operation: the steps it takes.  The
handle of the last run counts. -/
abbrev Invoker := Operation → List InvokerStep

namespace Invoker

/-- The invoker that just runs the handler. -/
def direct : Invoker :=
  fun _ => [.run]

/-- The invoker that notes invocations, and fails when there is a parameter `veto`. -/
def auditing (veto : Fault) : Invoker :=
  fun operation =>
    if (operation.param? "veto").isSome then
      [.announce, .act (.raise veto)]
    else
      [.announce, .run, .confirm]

end Invoker
end ManagedTree
