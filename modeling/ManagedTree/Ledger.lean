import ManagedTree.Node.Basic
import ManagedTree.Run

/-!
# Ledgers

While a thread reads or writes a tree within a closure, a scope for the tree is
open.  A ledger holds the open scopes of the running thread and a trace of what
happened so far: closures entered and left, actions handed over and run, and
notes.  A closure and an action are known by the place of their first record in
the trace.
-/

namespace ManagedTree

/-- What a closure may do with its tree. -/
inductive Access where
  /-- Look at the tree. -/
  | read
  /-- Look at the tree and edit it. -/
  | write
deriving DecidableEq, Repr

/-- An open closure of a tree. -/
structure Scope (α : Type) where
  /-- The number of the closure. -/
  number : Nat
  /-- The number of the tree. -/
  tree : Nat
  /-- What the closure may do. -/
  access : Access
  /-- The actions that run when the closure is left, in order, with their numbers. -/
  deferred : List (Nat × α)
deriving Repr

/-- Something that happens on a thread. -/
inductive Moment (α ν : Type) where
  /-- A closure of a tree is entered. -/
  | entered (closure tree : Nat)
  /-- The body of a closure is over; it may have unwound. -/
  | left (closure : Nat) (unwound : Bool)
  /-- The call that ran a closure returns. -/
  | returned (closure : Nat)
  /-- An action that must not run within a closure of a tree is handed over. -/
  | handed (number tree : Nat) (action : α)
  /-- Such an action starts. -/
  | started (number tree : Nat) (action : α)
  /-- It ends; it may have failed to return. -/
  | ended (number : Nat) (failed : Bool)
  /-- Something else happens. -/
  | noted (note : ν)
deriving Repr

/-- The number of the closure or action that a moment is about. -/
def Moment.number? {α ν : Type} : Moment α ν → Option Nat
  | .entered closure _ => some closure
  | .left closure _ => some closure
  | .returned closure => some closure
  | .handed number _ _ => some number
  | .started number _ _ => some number
  | .ended number _ => some number
  | .noted _ => none

/-- The record of a moment. -/
structure Record (α ν : Type) where
  /-- What happened. -/
  moment : Moment α ν
  /-- The thread on which it happened. -/
  thread : Nat
  /-- The trees of the open scopes of the thread then, outermost first. -/
  stack : List Nat
  /-- All trees as they were then. -/
  trees : List Node
deriving Repr

/-- What happened, in order. -/
abbrev Trace (α ν : Type) := List (Record α ν)

/-- The open scopes of the running thread and what happened so far. -/
structure Ledger (α ν : Type) where
  /-- The open scopes, innermost first. -/
  scopes : List (Scope α)
  /-- What happened so far. -/
  trace : Trace α ν
deriving Repr

namespace Ledger

variable {α ν : Type}

/-- Nothing is open and nothing has happened. -/
def empty : Ledger α ν := ⟨[], []⟩

/-- The trees of the open scopes, outermost first. -/
def stack (ledger : Ledger α ν) : List Nat :=
  (ledger.scopes.map Scope.tree).reverse

/-- The ledger with one more record. -/
def add (record : Record α ν) (ledger : Ledger α ν) : Ledger α ν :=
  { ledger with trace := ledger.trace ++ [record] }

/-- The ledger with other scopes. -/
def withScopes (scopes : List (Scope α)) (ledger : Ledger α ν) : Ledger α ν :=
  { ledger with scopes }

end Ledger

/-- The notes of a trace, in order. -/
def Trace.notes {α ν : Type} (trace : Trace α ν) : List ν :=
  trace.filterMap fun record =>
    match record.moment with
    | .noted note => some note
    | _ => none

/-- States that have a ledger. -/
class HasLedger (σ : Type) (α ν : outParam Type) where
  /-- The ledger. -/
  ledger : σ → Ledger α ν
  /-- The state with another ledger. -/
  withLedger : Ledger α ν → σ → σ
  /-- The number of the running thread. -/
  thread : σ → Nat
  /-- All trees. -/
  trees : σ → List Node
  /-- The other ledger is the ledger then. -/
  ledger_withLedger : ∀ other state, ledger (withLedger other state) = other
  /-- The running thread stays the same. -/
  thread_withLedger : ∀ other state, thread (withLedger other state) = thread state
  /-- The trees stay the same. -/
  trees_withLedger : ∀ other state, trees (withLedger other state) = trees state

namespace HasLedger

variable {σ α ν : Type} [HasLedger σ α ν]

/-- The open scopes of the running thread, innermost first. -/
def scopes (state : σ) : List (Scope α) :=
  (ledger state).scopes

/-- What happened so far. -/
def trace (state : σ) : Trace α ν :=
  (ledger state).trace

/-- The record of a moment that comes next. -/
def recordOf (state : σ) (moment : Moment α ν) : Record α ν :=
  ⟨moment, thread state, (ledger state).stack, trees state⟩

/-- The state after a moment is recorded. -/
def recorded (moment : Moment α ν) (state : σ) : σ :=
  withLedger ((ledger state).add (recordOf state moment)) state

/-- The state with other scopes. -/
def reopened (scopes : List (Scope α)) (state : σ) : σ :=
  withLedger ((ledger state).withScopes scopes) state

@[simp] theorem trace_recorded (moment : Moment α ν) (state : σ) :
    trace (recorded moment state) = trace state ++ [recordOf state moment] := by
  simp [trace, recorded, ledger_withLedger, Ledger.add]

@[simp] theorem scopes_recorded (moment : Moment α ν) (state : σ) :
    scopes (recorded moment state) = scopes state := by
  simp [scopes, recorded, ledger_withLedger, Ledger.add]

@[simp] theorem thread_recorded (moment : Moment α ν) (state : σ) :
    thread (recorded moment state) = thread state := by
  simp [recorded, thread_withLedger]

@[simp] theorem trees_recorded (moment : Moment α ν) (state : σ) :
    trees (recorded moment state) = trees state := by
  simp [recorded, trees_withLedger]

@[simp] theorem trace_reopened (others : List (Scope α)) (state : σ) :
    trace (reopened others state) = trace state := by
  simp [trace, reopened, ledger_withLedger, Ledger.withScopes]

@[simp] theorem scopes_reopened (others : List (Scope α)) (state : σ) :
    scopes (reopened others state) = others := by
  simp [scopes, reopened, ledger_withLedger, Ledger.withScopes]

@[simp] theorem thread_reopened (others : List (Scope α)) (state : σ) :
    thread (reopened others state) = thread state := by
  simp [reopened, thread_withLedger]

@[simp] theorem trees_reopened (others : List (Scope α)) (state : σ) :
    trees (reopened others state) = trees state := by
  simp [reopened, trees_withLedger]

@[simp] theorem moment_recordOf (state : σ) (moment : Moment α ν) :
    (recordOf state moment).moment = moment := rfl

@[simp] theorem thread_recordOf (state : σ) (moment : Moment α ν) :
    (recordOf state moment).thread = thread state := rfl

@[simp] theorem trees_recordOf (state : σ) (moment : Moment α ν) :
    (recordOf state moment).trees = trees state := rfl

theorem stack_recordOf (state : σ) (moment : Moment α ν) :
    (recordOf state moment).stack = ((scopes state).map Scope.tree).reverse := rfl

end HasLedger
end ManagedTree
