import ManagedTree.Proofs.Controller.Moves
import ManagedTree.Proofs.Controller.Uses
import ManagedTree.Proofs.Trace.Fate

/-!
# Everything a controller does is in order

Whatever is done with a controller, on whichever threads, its trace is orderly.
-/

namespace ManagedTree
namespace Controller

open HasLedger Run Trace

theorem recorded_proceeds
    (occurrence : Occurrence)
    (controller : Controller) :
    Proceeds controller (recorded (.noted occurrence) controller) :=
  note_proceeds (ε := Ending) occurrence controller

/-- An errand proceeds. -/
theorem run_proceeds (errand : Errand) : Keeps Proceeds (Controller.run errand) := by
  obtain ⟨number⟩ := errand
  intro controller
  have asks : Proceeds (recorded (.noted (.event
      (.stored (some number) controller.tree controller.holdsTree))) controller)
      (storing (some number) controller) :=
    .of_ledger_eq rfl rfl
  dsimp only [Controller.run]
  rw [on_store]
  exact trans_of Proceeds (recorded_proceeds _ controller) asks

theorem delivering_proceeds
    (number : Nat)
    (made : Report)
    (controller : Controller) :
    Proceeds controller (delivering number made controller) := by
  have passes : Proceeds (reporting number made controller)
      (passing number made controller) := by
    unfold passing
    split
    · exact .of_ledger_eq rfl rfl
    · exact refl_of Proceeds _
  have reports := recorded_proceeds (.event (.reported number made)) controller
  exact trans_of Proceeds (trans_of Proceeds reports passes) (recorded_proceeds _ _)

/-- A report on a stream proceeds. -/
theorem makeReport_proceeds
    (number : Nat)
    (made : Report) :
    Keeps Proceeds (makeReport number made) := by
  intro controller
  have delivers := delivering_proceeds number made controller
  cases found : controller.streams[number]? with
  | none =>
      rw [on_makeReport_of_none made found]
      exact refl_of Proceeds controller
  | some stream =>
      cases ended : stream.ended.isSet with
      | true =>
          rw [on_makeReport_of_ended made found ended]
          exact recorded_proceeds _ controller
      | false =>
          rw [on_makeReport_of_open made found ended]
          split
          · exact delivers
          · split
            · exact trans_of Proceeds delivers (unlocked_proceeds run_proceeds home _ _)
            · exact delivers

/-- What a thread of its own does is in order. -/
theorem onThread_proceeds
    {α : Type}
    {work : Work α}
    (name : Option String)
    (proceeds : Keeps Proceeds work) :
    Keeps Proceeds (onThread name work) := by
  intro before stands
  have same : (onThread name work).on before =
      (.ok (work.on (onNewThread name before)).1,
        backOn before (work.on (onNewThread name before)).2) := rfl
  obtain ⟨segment, continues⟩ := proceeds (onNewThread name before) (Standing.newThread stands)
  set after := work.on (onNewThread name before) with afterDef
  have grown : trace (backOn before after.2) = trace before ++ segment := continues.trace_eq
  have elsewhere : ∀ record ∈ segment, (trace before).length < record.thread := by
    intro record present
    rcases continues.threads record present with here | later
    · rw [here]
      exact Nat.lt_succ_self _
    · exact later
  rw [same]
  refine ⟨segment, rfl, grown, ?_, continues.orderly, fun record present =>
    Or.inr (elsewhere record present)⟩
  have later := continues.stands
  unfold Stands at later ⊢
  rw [continues.trace_eq] at later
  rw [grown]
  exact Standing.elsewhere stands later continues.orderly elsewhere

theorem opening_proceeds
    (blocks : Bool)
    (react : Reaction)
    (controller : Controller) :
    Proceeds controller (opening blocks react controller) :=
  .of_ledger_eq rfl rfl

/-- Everything that is done with a controller proceeds. -/
theorem proceeds_kept : Kept 0 fun _ => Proceeds where
  any proceeds := proceeds
  aside same _ := .of_ledger_eq same.ledger_eq same.thread_eq
  notes _ controller := recorded_proceeds _ controller
  dispatches _ _ controller := recorded_proceeds _ controller
  opens blocks react proceeds controller :=
    trans_of Proceeds (opening_proceeds blocks react controller)
      (proceeds controller.streams.length (Nat.zero_le _) (opening blocks react controller))
  handles _ _ _ := .of_ledger_eq rfl rfl
  reports := makeReport_proceeds
  closes access proceeds := within_proceeds run_proceeds proceeds Ending.unwinds home access
  threads := onThread_proceeds
  adds _ _ := .of_ledger_eq rfl rfl
  goesOn _ proceeds := proceeds fun _ _ => .of_ledger_eq rfl rfl
  turns _ _ proceeds := proceeds fun _ _ _ => .of_ledger_eq rfl rfl

end Controller
end ManagedTree
