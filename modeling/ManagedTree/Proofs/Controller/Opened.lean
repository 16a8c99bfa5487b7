import ManagedTree.Proofs.Controller.Moves
import ManagedTree.Proofs.Controller.Uses

/-!
# Calls and the streams they report on

However a controller has been used since it was started, every call that goes on reports on a
stream that has been opened.
-/

namespace ManagedTree
namespace Controller

open HasLedger Run

/-- All calls report on streams that have been opened. -/
def Opened (controller : Controller) : Prop :=
  ∀ call ∈ controller.calls, call.job.stream < controller.streams.length

/-- No stream goes away, and calls report on opened streams as before, if a stream that is worked
on has been opened. -/
structure StaysOpened (stream? : Option Nat) (before later : Controller) : Prop where
  /-- No stream goes away. -/
  length_le : before.streams.length ≤ later.streams.length
  /-- Calls report on opened streams as before. -/
  opened : (∀ stream, stream? = some stream → stream < before.streams.length) →
    Opened before → Opened later

variable {stream? : Option Nat} {before later : Controller}

instance (stream? : Option Nat) : Std.Refl (StaysOpened stream?) where
  refl _ := ⟨Nat.le_refl _, fun _ opened => opened⟩

instance (stream? : Option Nat) : IsTrans Controller (StaysOpened stream?) where
  trans _ _ _ first second := by
    refine ⟨Nat.le_trans first.length_le second.length_le, fun worked opened => ?_⟩
    refine second.opened (fun stream same => ?_) (first.opened worked opened)
    exact Nat.lt_of_lt_of_le (worked stream same) first.length_le

/-- The calls are the same, and no stream goes away. -/
theorem StaysOpened.of_calls_eq
    (calls : later.calls = before.calls)
    (length_le : before.streams.length ≤ later.streams.length) :
    StaysOpened stream? before later := by
  refine ⟨length_le, fun _ opened call present => ?_⟩
  rw [calls] at present
  exact Nat.lt_of_lt_of_le (opened call present) length_le

theorem mark_opened (moment : Moment Errand Occurrence) :
    Keeps (StaysOpened stream?) (mark moment : Work Unit) :=
  fun _ => .of_calls_eq rfl (Nat.le_refl _)

theorem reopen_opened (others : List (Scope Errand)) :
    Keeps (StaysOpened stream?) (reopen others : Work Unit) :=
  fun _ => .of_calls_eq rfl (Nat.le_refl _)

theorem storing_opened
    {number : Option Nat}
    (controller : Controller) :
    StaysOpened stream? controller (storing number controller) :=
  .of_calls_eq rfl (Nat.le_refl _)

/-- A call is changed, and works on the same. -/
theorem setCall_opened
    (number : Nat)
    (call : Call) :
    Keeps (StaysOpened (some call.job.stream)) (setCall number call) := by
  intro controller
  refine ⟨Nat.le_refl _, fun worked opened other present => ?_⟩
  rcases List.mem_or_eq_of_mem_set present with old | rfl
  · exact opened other old
  · exact worked _ rfl

/-- A call of a controller is about a stream that has been opened. -/
theorem StaysOpened.of_call
    {number : Nat}
    {call : Call}
    (found : before.calls[number]? = some call)
    (stays : StaysOpened (some call.job.stream) before later) :
    StaysOpened none before later := by
  refine ⟨stays.length_le, fun _ opened => stays.opened ?_ opened⟩
  intro stream same
  obtain rfl := Option.some.inj same
  exact opened call (List.mem_of_getElem? found)

/-- Everything that is done with a controller leaves its calls with streams that have been
opened. -/
theorem opened_kept : Kept 0 StaysOpened where
  any stays := ⟨stays.length_le, fun _ => stays.opened nofun⟩
  aside same calls := .of_calls_eq calls (Nat.le_of_eq (by rw [same.streams_eq]))
  notes _ := mark_opened _
  dispatches _ _ := mark_opened _
  opens blocks react stays controller := by
    have longer : (opening blocks react controller).streams.length =
        controller.streams.length + 1 := by
      simp [opening]
    have opens : StaysOpened none controller (opening blocks react controller) :=
      .of_calls_eq rfl (by omega)
    have next := stays controller.streams.length (Nat.zero_le _)
      (opening blocks react controller)
    refine trans_of (StaysOpened none) opens ⟨next.length_le, fun _ => next.opened ?_⟩
    rintro stream ⟨⟩
    omega
  handles number handle controller := .of_calls_eq rfl (by simp [keepHandle])
  reports number made := by
    have ends : Keeps (StaysOpened (some number)) (modify (ending number) : Work PUnit) :=
      fun controller => .of_calls_eq rfl (by simp [ending])
    refine makeReport_keeps (mark_opened _) ends (mark_opened _) ?_
    exact unlocked_keeps (fun moment _ => mark_opened moment) reopen_opened storing_opened
  closes := within_keeps (fun moment _ => mark_opened moment) reopen_opened
    (fun ⟨_, .store _⟩ => carryOut_keeps (fun moment _ => mark_opened moment) storing_opened)
    Ending.unwinds
  threads := onThread_keeps fun _ _ _ _ => .of_calls_eq rfl (Nat.le_refl _)
  adds call controller := by
    refine ⟨Nat.le_refl _, fun worked opened other present => ?_⟩
    rcases List.mem_append.1 present with old | new
    · exact opened other old
    · rw [List.mem_singleton.1 new]
      exact worked _ rfl
  goesOn found stays := by
    rcases call_of_ready found with ready | waiting
    · exact .of_call ready (stays fun progress => setCall_opened _ (.threaded _ _ progress))
    · exact .of_call waiting (stays fun progress => setCall_opened _ (.threaded _ _ progress))
  turns found _ stays := .of_call found (stays fun other same => same ▸ setCall_opened _ other)

/-- Calls report on streams that have been opened, however a controller has been used since it was
started. -/
theorem opened_after
    (settings : Settings)
    (tree : Node)
    (keeper : Keeper)
    (factory : ContextFactory)
    (invoker : Invoker)
    (files : Files)
    (uses : List Use) :
    Opened ((start settings tree keeper factory invoker files).after uses) :=
  (after_related opened_kept uses _).opened nofun nofun

end Controller
end ManagedTree
