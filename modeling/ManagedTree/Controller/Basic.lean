import ManagedTree.Handle
import ManagedTree.Handler
import ManagedTree.Interrupt
import ManagedTree.Keeper
import ManagedTree.Registry
import ManagedTree.Scope
import ManagedTree.Settings

/-!
# Controllers

A controller executes operations on one tree.  Every execution has a stream, on
which its reports reach the caller, and the journal tells in order what happened.
-/

namespace ManagedTree

/-- How a caller reacts to a report after earlier ones: it may panic. -/
abbrev Reaction := List Report → Report → Option Panic

/-- The reaction of a caller that just takes reports. -/
def Reaction.calm : Reaction :=
  fun _ _ => none

/-- The reports of one execution on their way to the caller. -/
structure Stream where
  /-- The number of the execution; one that blocks its caller has none. -/
  number : Option Nat
  /-- How the caller reacts. -/
  react : Reaction
  /-- Set when a report has ended the execution. -/
  ended : Latch
  /-- The handle that the execution returned. -/
  handle : Handle

/-- What a script works on. -/
structure Job where
  /-- The operation. -/
  operation : Operation
  /-- Its context. -/
  context : Context
  /-- The number of the stream for its reports. -/
  stream : Nat
  /-- The number of the worker's cancellation token, if a worker runs the script. -/
  token : Option Nat
deriving Repr

/-- How far a worker has come. -/
inductive Progress where
  /-- It can go on with a script. -/
  | ready (script : Script)
  /-- It goes on with a script once it is cancelled. -/
  | awaitingCancel (script : Script)
  /-- It goes on with a script once it is released. -/
  | awaitingRelease (script : Script)
  /-- It has come to its end. -/
  | over

/-- A call of a handler that goes on after the execution has returned. -/
inductive Call where
  /-- Scripts that run when the call is continued, one that the first request for
  cancellation runs, and whether there was such a request. -/
  | deferred (job : Job) (later : List Script) (onCancel : Script) (requested : Latch)
  /-- The worker of a handler known by a name. -/
  | threaded (job : Job) (name : String) (progress : Progress)

/-- What happened in a controller. -/
inductive Event where
  /-- A handler or the controller reported on a stream. -/
  | reported (stream : Nat) (report : Report)
  /-- A caller got a report. -/
  | delivered (stream : Nat) (report : Report)
  /-- The keeper was asked to store the tree, because a stream's execution was complete if
  there is one; the thread may have held the tree. -/
  | stored (stream : Option Nat) (tree : Node) (held : Bool)
  /-- A handler is about to run. -/
  | invoke (description : String)
  /-- A handler has returned. -/
  | invoked
  /-- A handler looked whether the thread holds the tree. -/
  | locked (value : Bool)
  /-- Cancellation of a deferred call was asked for. -/
  | cancelRequest (first : Bool)
  /-- The script for that raised an error. -/
  | cancelFailed
deriving Repr

/-- What is put off until the tree is no longer held. -/
inductive Errand where
  /-- Store the tree because a stream's execution is complete. -/
  | store (stream : Nat)
deriving DecidableEq, Repr

/-- What the trace of a controller notes. -/
inductive Occurrence where
  /-- An event. -/
  | event (event : Event)
  /-- Dispatch of a stream's request gives up before the context is made. -/
  | givingUp (stream : Nat)
  /-- The context factory gets a stream's operation and the handler for it. -/
  | consulting (stream : Nat) (operation : Operation) (handler : Handler)
  /-- The invoker gets a stream's operation and the handler for it. -/
  | invoking (stream : Nat) (operation : Operation) (handler : Handler)

/-- A controller. -/
structure Controller where
  /-- The tree. -/
  tree : Node
  /-- The closures of the tree that the running thread is in, and what happened. -/
  ledger : Ledger Errand Occurrence
  /-- The number of the running thread. -/
  thread : Nat
  /-- The name of the running thread. -/
  threadName : Option String
  /-- The interrupt state of the thread that makes blocking calls. -/
  interrupt : Interrupt Unit
  /-- The settings. -/
  settings : Settings
  /-- The handlers. -/
  registry : Registry Handler
  /-- What makes contexts. -/
  factory : ContextFactory
  /-- What runs handlers. -/
  invoker : Invoker
  /-- What keeps the tree. -/
  keeper : Keeper
  /-- What the keeper finds when it is asked to store the tree. -/
  custody : Custody
  /-- The executions so far. -/
  streams : List Stream
  /-- The cancellation tokens so far. -/
  tokens : List Latch
  /-- The calls so far. -/
  calls : List Call

namespace Controller

instance : HasLedger Controller Errand Occurrence where
  ledger := Controller.ledger
  withLedger ledger controller := { controller with ledger }
  thread := Controller.thread
  trees controller := [controller.tree]
  ledger_withLedger _ _ := rfl
  thread_withLedger _ _ := rfl
  trees_withLedger _ _ := rfl

/-- The events of a trace, in order. -/
def eventsOf (trace : Trace Errand Occurrence) : List Event :=
  trace.notes.filterMap fun
    | .event event => some event
    | _ => none

/-- The events so far, in order. -/
def journal (controller : Controller) : List Event :=
  eventsOf controller.ledger.trace

/-- A computation on a controller. -/
abbrev Work := Run Ending Controller

/-- The number of the controller's only tree. -/
def home : Nat := 0

/-- Whether the running thread holds the tree. -/
def holdsTree (controller : Controller) : Bool :=
  Scope.holds home controller.ledger.scopes

/-- The files around the controller. -/
def files (controller : Controller) : Files :=
  controller.custody.files

/-- The controller with another tree. -/
def withTree (tree : Node) (controller : Controller) : Controller :=
  { controller with tree }

/-- The controller after a stream has ended. -/
def ending (number : Nat) (controller : Controller) : Controller :=
  { controller with
    streams := controller.streams.modify number fun stream =>
      { stream with ended := stream.ended.trip.2 } }

/-- The reports that reached the caller of a stream, in order. -/
def deliveredIn (number : Nat) (events : List Event) : List Report :=
  events.filterMap fun
    | .delivered stream report => if stream = number then some report else none
    | _ => none

/-- The reports that were made on a stream, in order. -/
def reportedIn (number : Nat) (events : List Event) : List Report :=
  events.filterMap fun
    | .reported stream report => if stream = number then some report else none
    | _ => none

/-- The reports that have reached the caller of a stream so far. -/
def delivered (number : Nat) (controller : Controller) : List Report :=
  deliveredIn number controller.journal

/-- The reports that have been made on a stream so far. -/
def reported (number : Nat) (controller : Controller) : List Report :=
  reportedIn number controller.journal

/-- The trees that the keeper was asked to store, in order. -/
def storedIn (events : List Event) : List Node :=
  events.filterMap fun
    | .stored _ tree _ => some tree
    | _ => none

/-- The trees that the keeper has been asked to store so far. -/
def stored (controller : Controller) : List Node :=
  storedIn controller.journal

/-- Note an event. -/
def note (event : Event) : Work Unit :=
  Run.mark (.noted (.event event))

/-- The number of the next execution that does not block. -/
def nextNumber (controller : Controller) : Nat :=
  controller.streams.countP fun stream => stream.number.isSome

/-- Open a stream for an execution. -/
def openStream (blocks : Bool) (react : Reaction) : Work Nat := do
  let controller ← get
  let number := if blocks then none else some controller.nextNumber
  let stream : Stream := ⟨number, react, Latch.fresh, .null⟩
  modify fun controller => { controller with streams := controller.streams ++ [stream] }
  pure controller.streams.length

/-- Keep the handle that an execution returned. -/
def keepHandle (number : Nat) (handle : Handle) : Work Unit :=
  modify fun controller =>
    { controller with
      streams := controller.streams.modify number fun stream => { stream with handle } }

/-- Make a cancellation token: its number. -/
def newToken : Work Nat := do
  let controller ← get
  modify fun controller => { controller with tokens := controller.tokens ++ [Latch.fresh] }
  pure controller.tokens.length

/-- Add a call: its number. -/
def newCall (call : Call) : Work Nat := do
  let controller ← get
  modify fun controller => { controller with calls := controller.calls ++ [call] }
  pure controller.calls.length

/-- Put a call in the place of an earlier one. -/
def setCall (number : Nat) (call : Call) : Work Unit :=
  modify fun controller => { controller with calls := controller.calls.set number call }

end Controller
end ManagedTree
