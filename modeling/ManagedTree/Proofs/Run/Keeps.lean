import ManagedTree.Run
import Mathlib.Order.Defs.Unbundled

/-!
# Computations that keep a relation

A computation keeps a relation when the state in which it ends is always related
to the state from which it started, whether it ends with a value or early.  For a
preorder the computations that keep it are closed under sequencing.
-/

namespace ManagedTree
namespace Run

variable {ε σ α β : Type}

@[simp] theorem on_ending (state : σ) (result : Except ε α) :
    (ending result).on state = (result, state) := by
  cases result <;> rfl

@[simp] theorem on_get_bind (state : σ) (next : σ → Run ε σ β) :
    ((get : Run ε σ σ) >>= next).on state = (next state).on state := by
  rw [on_bind, on_get]

@[simp] theorem on_modify_bind (state : σ) (change : σ → σ) (next : PUnit → Run ε σ β) :
    ((modify change : Run ε σ PUnit) >>= next).on state = (next ⟨⟩).on (change state) := by
  rw [on_bind, on_modify]

@[simp] theorem on_outcome_bind
    (state : σ)
    (run : Run ε σ α)
    (next : Except ε α → Run ε σ β) :
    (run.outcome >>= next).on state = (next (run.on state).1).on (run.on state).2 := by
  rw [on_bind, on_outcome]

/-- What a computation brings about holds in the end when what follows the computation leaves it
so. -/
theorem holds_bind
    {P : σ → Prop}
    {run : Run ε σ α}
    {next : α → Run ε σ β}
    {state : σ}
    (holds : P (run.on state).2)
    (leaves : ∀ value after, P after → P ((next value).on after).2) :
    P ((run >>= next).on state).2 := by
  rw [on_bind]
  rcases both : run.on state with ⟨early | value, after⟩
  · rw [both] at holds
    exact holds
  · rw [both] at holds
    exact leaves value after holds

/-- The state in which a computation ends is related to the one it started from. -/
def Keeps (R : σ → σ → Prop) (run : Run ε σ α) : Prop :=
  ∀ state, R state (run.on state).2

namespace Keeps

variable {R : σ → σ → Prop}

theorem modify
    {change : σ → σ}
    (related : ∀ state, R state (change state)) :
    Keeps R (modify change : Run ε σ PUnit) :=
  related

theorem outcome
    {run : Run ε σ α}
    (keeps : Keeps R run) :
    Keeps R run.outcome :=
  keeps

/-- What follows a look at the state may rely on it. -/
theorem get_bind
    {next : σ → Run ε σ β}
    (related : ∀ state, R state ((next state).on state).2) :
    Keeps R ((get : Run ε σ σ) >>= next) := by
  intro state
  rw [on_get_bind]
  exact related state

section

variable [Std.Refl R]

theorem ofPure (value : α) : Keeps R (pure value : Run ε σ α) :=
  fun state => refl_of R state

theorem ofThrow (early : ε) : Keeps R (throw early : Run ε σ α) :=
  fun state => refl_of R state

theorem ending (result : Except ε α) : Keeps R (ending result : Run ε σ α) := by
  intro state
  rw [on_ending]
  exact refl_of R state

end

section

variable [IsTrans σ R]

/-- Computations that keep a preorder may follow one another. -/
theorem bind
    {run : Run ε σ α}
    {next : α → Run ε σ β}
    (first : Keeps R run)
    (second : ∀ value, Keeps R (next value)) :
    Keeps R (run >>= next) := by
  intro state
  have before := first state
  rw [on_bind]
  rcases both : run.on state with ⟨result, after⟩
  rw [both] at before
  cases result with
  | ok value => exact trans_of R before (second value after)
  | error early => exact before

/-- Doing something for every item keeps what doing it for one item keeps. -/
theorem each
    [Std.Refl R]
    {act : α → Run ε σ Unit}
    {items : List α}
    (keeps : ∀ item ∈ items, Keeps R (act item)) :
    Keeps R (each act items) := by
  induction items with
  | nil => exact ofPure ()
  | cons item items inductionHypothesis =>
      have rest : Keeps R (Run.each act items) :=
        inductionHypothesis fun other present => keeps other (by simp [present])
      exact bind (keeps item (by simp)) fun _ => rest

end

end Keeps
end Run
end ManagedTree
