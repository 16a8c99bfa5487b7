import ManagedTree.Report

/-!
# Handles

A caller holds a handle on an operation to ask for its cancellation.
-/

namespace ManagedTree

/-- What a caller holds on an operation. -/
inductive Handle where
  /-- The shared handle of operations that have nothing to cancel. -/
  | null
  /-- A handle of its own that has nothing to cancel. -/
  | inert
  /-- A cancellation token, by its number. -/
  | token (number : Nat)
  /-- A call that waits to be continued, by its number. -/
  | call (number : Nat)
deriving DecidableEq, Repr

namespace Handle

/-- Whether a handle is the shared one. -/
def isNull (handle : Handle) : Bool :=
  handle == .null

end Handle

/-- Whether a token is cancelled. -/
def isCancelled (tokens : List Latch) (number : Nat) : Bool :=
  (tokens[number]?).any Latch.isSet

/-- Cancel a token: whether this was the first time, and the tokens. -/
def cancelToken (tokens : List Latch) (number : Nat) : Bool × List Latch :=
  match tokens[number]? with
  | some token => (token.trip.1, tokens.set number token.trip.2)
  | none => (false, tokens)

/-- Ask for cancellation through a handle that is no call: whether this was the first
request, and the tokens. -/
def Handle.request (tokens : List Latch) : Handle → Bool × List Latch
  | .token number => cancelToken tokens number
  | _ => (false, tokens)

end ManagedTree
