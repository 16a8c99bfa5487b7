import ManagedTree.Proofs.Blocking.Verdict
import ManagedTree.Proofs.Controller.Kept

/-!
# What a blocking execution gives

A blocking execution gives what the reports say that have reached its caller, and
nothing before one of them ends it.
-/

namespace ManagedTree

/-- What follows a computation ends with a value only if the computation did so before. -/
theorem Run.on_bind_eq_ok
    {ε σ α β : Type}
    {run : Run ε σ α}
    {next : α → Run ε σ β}
    {state after : σ}
    {value : β}
    (ends : (run >>= next).on state = (.ok value, after)) :
    ∃ middle between,
      run.on state = (.ok middle, between) ∧ (next middle).on between = (.ok value, after) := by
  rw [on_bind] at ends
  rcases both : run.on state with ⟨result, between⟩
  rw [both] at ends
  cases result with
  | ok middle => exact ⟨middle, between, rfl, ends⟩
  | error early => cases ends

/-- When the loop of a blocking call ends with an answer, it is the answer to what has been
gathered. -/
theorem Waiting.answer?_of_loop
    {ε σ : Type}
    (waiting : Waiting ε σ)
    {budget : Nat}
    {taken found : Bool}
    {state after : σ}
    {answer : Except BlockingError Node}
    (ends : (waiting.loop budget taken).on state = (.ok (some answer, found), after)) :
    (waiting.gathered after).answer? = some answer := by
  induction budget generalizing taken state with
  | zero => cases ends
  | succ budget inductionHypothesis =>
      rw [loop, Run.on_get_bind] at ends
      cases answered : (waiting.gathered state).answer? with
      | some given =>
          rw [answered] at ends
          cases ends
          exact answered
      | none =>
          rw [answered] at ends
          dsimp only at ends
          rw [Run.on_modify_bind] at ends
          split at ends
          · obtain ⟨_, _, _, rest⟩ := Run.on_bind_eq_ok ends
            exact inductionHypothesis rest
          · obtain ⟨more, _, _, rest⟩ := Run.on_bind_eq_ok ends
            cases more with
            | true => exact inductionHypothesis rest
            | false => cases rest

/-- A blocking call gives the answer to what has been gathered. -/
theorem Waiting.answer?_of_run
    {ε σ : Type}
    (waiting : Waiting ε σ)
    (restores : ∀ state, waiting.gathered (waiting.setInterrupt state) = waiting.gathered state)
    {budget : Nat}
    {state after : σ}
    {answer : Except BlockingError Node}
    (ends : (waiting.run budget).on state = (.ok (some answer), after)) :
    (waiting.gathered after).answer? = some answer := by
  obtain ⟨⟨outcome, found⟩, left, loops, rest⟩ := Run.on_bind_eq_ok ends
  cases found with
  | true =>
      cases rest
      rw [restores]
      exact waiting.answer?_of_loop loops
  | false =>
      cases rest
      exact waiting.answer?_of_loop loops

namespace Controller

/-- When a blocking execution gives an answer, it is what the reports say that have reached the
caller of its stream. -/
theorem executeBlocking_verdict
    {request : Node}
    {controller later : Controller}
    {answer : Except BlockingError Node}
    (ends : (executeBlocking request).on controller = (.ok (some answer), later)) :
    Report.verdict (later.delivered controller.streams.length) = some answer := by
  unfold executeBlocking at ends
  rw [on_openStream_bind] at ends
  obtain ⟨handle, executed, -, ends⟩ := Run.on_bind_eq_ok ends
  rw [Run.on_modify_bind, Run.on_outcome_bind, Run.on_modify_bind, Run.on_ending] at ends
  obtain ⟨outcome, released⟩ := Prod.mk.inj ends
  have gathered := (waiting controller.streams.length handle).answer?_of_run (fun _ => rfl)
    (Prod.ext outcome rfl)
  rw [← Gathering.answer?_ofReports, ← gathered, ← released]
  rfl

end Controller
end ManagedTree
