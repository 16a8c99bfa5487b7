/-!
# Outcomes

How a value comes out of one step after another, and how errors get other names.
-/

namespace ManagedTree
namespace Outcome

variable {ε δ α β : Type}

/-- What follows a step has a value only if the step has one. -/
theorem bind_eq_ok_iff
    {step : Except ε α}
    {next : α → Except ε β}
    {value : β} :
    (step >>= next) = .ok value ↔ ∃ middle, step = .ok middle ∧ next middle = .ok value := by
  cases step with
  | error early => simp [bind, Except.bind]
  | ok middle => simp [bind, Except.bind]

theorem mapError_eq_ok_iff
    {outcome : Except ε α}
    {name : ε → δ}
    {value : α} :
    outcome.mapError name = .ok value ↔ outcome = .ok value := by
  cases outcome with
  | error cause => exact ⟨nofun, nofun⟩
  | ok result =>
      constructor
      · rintro ⟨⟩
        rfl
      · rintro ⟨⟩
        rfl

theorem mapError_eq_error_iff
    {outcome : Except ε α}
    {name : ε → δ}
    {error : δ} :
    outcome.mapError name = .error error ↔
      ∃ cause, outcome = .error cause ∧ name cause = error := by
  cases outcome with
  | error cause =>
      constructor
      · rintro ⟨⟩
        exact ⟨cause, rfl, rfl⟩
      · rintro ⟨_, ⟨⟩, rfl⟩
        rfl
  | ok result =>
      constructor
      · rintro ⟨⟩
      · rintro ⟨_, ⟨⟩, _⟩

end Outcome
end ManagedTree
