import ManagedTree.Ledger

/-!
# Scopes

Actions that must not run within a closure of a tree are attached to the outermost
open scope of the tree, and run when its closure is left.
-/

namespace ManagedTree
namespace Scope

variable {α : Type}

/-- Whether a scope of a tree is open. -/
def holds (tree : Nat) (scopes : List (Scope α)) : Bool :=
  scopes.any fun scope => scope.tree == tree

/-- Attach an action to the outermost open scope of a tree, if one is open.  The
innermost scope comes first. -/
def attach? (tree : Nat) (action : Nat × α) : List (Scope α) → Option (List (Scope α))
  | [] => none
  | scope :: outer =>
    match attach? tree action outer with
    | some outer => some (scope :: outer)
    | none =>
      if scope.tree = tree then
        some ({ scope with deferred := scope.deferred ++ [action] } :: outer)
      else
        none

/-- An action finds a scope exactly when the tree is held. -/
theorem isSome_attach?
    (tree : Nat)
    (action : Nat × α)
    (scopes : List (Scope α)) :
    (attach? tree action scopes).isSome = holds tree scopes := by
  induction scopes with
  | nil => rfl
  | cons scope outer inductionHypothesis =>
    cases found : attach? tree action outer with
    | some attached => simp_all [attach?, holds]
    | none =>
      by_cases same : scope.tree = tree <;> simp_all [attach?, holds]

end Scope

namespace Run

variable {ε σ α ν β : Type} [HasLedger σ α ν]

/-- Record a moment. -/
def mark (moment : Moment α ν) : Run ε σ Unit :=
  modify (HasLedger.recorded moment)

/-- Have other scopes open. -/
def reopen (scopes : List (Scope α)) : Run ε σ Unit :=
  modify (HasLedger.reopened scopes)

/-- Open a scope: the number of its closure. -/
def enter (tree : Nat) (access : Access) : Run ε σ Nat := do
  let state ← get
  let number := (HasLedger.trace state).length
  mark (.entered number tree)
  reopen (⟨number, tree, access, []⟩ :: HasLedger.scopes state)
  pure number

/-- Close the innermost scope: the actions attached to it. -/
def leave (number : Nat) (unwound : Bool) : Run ε σ (List (Nat × α)) := do
  mark (.left number unwound)
  let state ← get
  match HasLedger.scopes state with
  | [] => pure []
  | scope :: outer => do
    reopen outer
    pure scope.deferred

/-- Whether a tree is held. -/
def holds (tree : Nat) : Run ε σ Bool := do
  let state ← get
  pure (Scope.holds tree (HasLedger.scopes state))

/-- Whether a closure that ends this way unwinds. -/
def unwound (unwinds : ε → Bool) : Except ε β → Bool
  | .ok _ => false
  | .error early => unwinds early

section

variable (perform : α → Run ε σ Unit)

/-- Run an action that was handed over. -/
def carryOut (tree : Nat) (action : Nat × α) : Run ε σ Unit := do
  mark (.started action.1 tree action.2)
  let result ← (perform action.2).outcome
  mark (.ended action.1 (!result.isOk))
  ending result

/-- Run a closure of a tree.  When it is left, the actions attached to its scope run in
order; when it unwinds, they are dropped. -/
def within
    (unwinds : ε → Bool) (tree : Nat) (access : Access) (body : Run ε σ β) :
    Run ε σ β := do
  let number ← enter tree access
  let result ← body.outcome
  let actions ← leave number (unwound unwinds result)
  if unwound unwinds result then
    ending result
  else do
    each (carryOut perform tree) actions
    mark (.returned number)
    ending result

/-- Run an action now, or when the outermost open closure of a tree is left. -/
def unlocked (tree : Nat) (action : α) : Run ε σ Unit := do
  let state ← get
  let number := (HasLedger.trace state).length
  mark (.handed number tree action)
  match Scope.attach? tree (number, action) (HasLedger.scopes state) with
  | some scopes => reopen scopes
  | none => carryOut perform tree (number, action)

end

end Run
end ManagedTree
