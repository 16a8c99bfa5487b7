/-!
# Computations

A computation works on a state and ends with a value or early; the state is what
it is when the computation ends, either way.
-/

namespace ManagedTree

/-- What a panic carries. -/
inductive Panic where
  /-- A text. -/
  | text (message : String)
  /-- Something that is no text. -/
  | other
deriving DecidableEq, Repr, Inhabited

/-- The wording of a panic. -/
def Panic.message : Panic → String
  | .text message => message
  | .other => "panic with a non-string payload"

/-- A computation on a state that ends with a value or early. -/
abbrev Run (ε σ : Type) :=
  ExceptT ε (StateM σ)

namespace Run

variable {ε σ α β : Type}

/-- The end of a computation from a state, and the state at that point. -/
def on (state : σ) (run : Run ε σ α) : Except ε α × σ :=
  (ExceptT.run run).run state

/-- The computation of a function from a state to an end and a state. -/
def of (step : σ → Except ε α × σ) : Run ε σ α :=
  ExceptT.mk step

/-- How a computation ends, as a value. -/
def outcome (run : Run ε σ α) : Run ε σ (Except ε α) :=
  of fun state =>
    let (result, state) := run.on state
    (.ok result, state)

/-- The computation that ends in a given way. -/
def ending : Except ε α → Run ε σ α
  | .ok value => pure value
  | .error early => throw early

/-- Do something for every item of a list, in order. -/
def each (act : α → Run ε σ Unit) : List α → Run ε σ Unit
  | [] => pure ()
  | item :: items => do
    act item
    each act items

@[simp] theorem on_of (state : σ) (step : σ → Except ε α × σ) :
    (of step).on state = step state := rfl

@[simp] theorem on_pure (state : σ) (value : α) :
    (pure value : Run ε σ α).on state = (.ok value, state) := rfl

@[simp] theorem on_throw (state : σ) (early : ε) :
    (throw early : Run ε σ α).on state = (.error early, state) := rfl

@[simp] theorem on_modify (state : σ) (change : σ → σ) :
    (modify change : Run ε σ PUnit).on state = (.ok ⟨⟩, change state) := rfl

@[simp] theorem on_get (state : σ) :
    (get : Run ε σ σ).on state = (.ok state, state) := rfl

@[simp] theorem on_outcome (state : σ) (run : Run ε σ α) :
    run.outcome.on state = (.ok (run.on state).1, (run.on state).2) := rfl

/-- What follows a computation runs from its value and state, unless it ended early. -/
theorem on_bind
    (state : σ)
    (run : Run ε σ α)
    (next : α → Run ε σ β) :
    (run >>= next).on state =
      match run.on state with
      | (.ok value, state) => (next value).on state
      | (.error early, state) => (.error early, state) := by
  rcases both : run.on state with ⟨result, after⟩
  have unfolded : (run >>= next).on state =
      (ExceptT.bindCont next (run.on state).1 : StateM σ (Except ε β)).run (run.on state).2 := rfl
  rw [unfolded, both]
  cases result <;> rfl

end Run
end ManagedTree
