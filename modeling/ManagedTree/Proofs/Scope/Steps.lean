import ManagedTree.Proofs.Run.Keeps
import ManagedTree.Scope

/-!
# Relations that closures keep

A closure keeps what entering and leaving it, the actions that run when it is left and its body
keep.  Handing over an action keeps what attaching it to a scope and carrying it out keep.
-/

namespace ManagedTree

/-- Whether a thread enters or leaves a closure. -/
def Moment.isPassage {α ν : Type} : Moment α ν → Bool
  | .entered _ _ | .left _ _ | .returned _ => true
  | _ => false

namespace Run

open HasLedger

variable
  {ε σ α ν β : Type} [HasLedger σ α ν] {R : σ → σ → Prop} [Std.Refl R] [IsTrans σ R]
  {perform : α → Run ε σ Unit} {tree : Nat}

omit [Std.Refl R] in
theorem unlocked_keeps
    {action : α}
    (hands : ∀ number, Keeps R (mark (.handed number tree action) : Run ε σ Unit))
    (reopens : ∀ others : List (Scope α), Keeps R (reopen others : Run ε σ Unit))
    (carries : ∀ number, Keeps R (carryOut perform tree (number, action))) :
    Keeps R (unlocked perform tree action) := by
  unfold unlocked
  refine Keeps.get_bind fun state => ?_
  refine Keeps.bind (hands _) (fun _ => ?_) state
  split
  · exact reopens _
  · exact carries _

theorem within_keeps
    {body : Run ε σ β}
    (passes : ∀ moment : Moment α ν, moment.isPassage = true →
      Keeps R (mark moment : Run ε σ Unit))
    (reopens : ∀ others : List (Scope α), Keeps R (reopen others : Run ε σ Unit))
    (carries : ∀ action, Keeps R (carryOut perform tree action))
    (unwinds : ε → Bool)
    (access : Access)
    (keeps : Keeps R body) :
    Keeps R (within perform unwinds tree access body) := by
  unfold within enter leave
  refine Keeps.bind (Keeps.get_bind fun state => ?_) fun closure => ?_
  · exact Keeps.bind (passes _ rfl) (fun _ => Keeps.bind (reopens _) fun _ => Keeps.ofPure _) state
  refine Keeps.bind (Keeps.outcome keeps) fun result => ?_
  refine Keeps.bind ?_ fun actions => ?_
  · refine Keeps.bind (passes _ rfl) fun _ => Keeps.get_bind fun state => ?_
    cases scopes state with
    | nil => exact Keeps.ofPure _ state
    | cons scope outer => exact Keeps.bind (reopens outer) (fun _ => Keeps.ofPure _) state
  · split
    · exact Keeps.ending result
    · refine Keeps.bind (Keeps.each fun action _ => carries action) fun _ => ?_
      exact Keeps.bind (passes _ rfl) fun _ => Keeps.ending result

end Run
end ManagedTree
