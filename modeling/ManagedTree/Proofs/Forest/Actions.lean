import ManagedTree.Proofs.Forest.Kept
import ManagedTree.Proofs.Scope.Steps
import ManagedTree.Proofs.Scope.Within

/-!
# Actions that start run

Whenever the trace of a program says that an action starts, the action runs there: the next
thing that it notes is its label, with the root of its tree as it is then, and it ends after all
that it does.
-/

namespace ManagedTree

/-- The root of a tree when something was recorded. -/
def Record.root {α ν : Type} (record : Record α ν) (tree : Nat) : Node :=
  (record.trees[tree]?).getD Node.empty

namespace Step

open Trace HasLedger Run

/-- What is recorded of an action is borne out: it is handed over for its own tree, and when it
starts, it runs and ends. -/
structure Performed (record : Record Deferred Note) (future : Trace Deferred Note) : Prop where
  /-- An action is handed over for its own tree. -/
  handed : ∀ number tree action, record.moment = .handed number tree action → action.tree = tree
  /-- An action that starts is noted next, with the root of its tree, and ends later. -/
  started : ∀ number tree action, record.moment = .started number tree action →
    ∃ middle stop rest failed,
      future = record.beside (.noted (.ran action.label (record.root action.tree))) ::
        (middle ++ stop :: rest) ∧
      stop.moment = .ended number failed

/-- What is recorded of actions stays borne out as more is recorded. -/
theorem Performed.append
    {record : Record Deferred Note}
    {future : Trace Deferred Note}
    (performed : Performed record future)
    (more : Trace Deferred Note) :
    Performed record (future ++ more) := by
  refine ⟨performed.handed, fun number tree action started => ?_⟩
  obtain ⟨middle, stop, rest, failed, rfl, ended⟩ := performed.started number tree action started
  exact ⟨middle, stop, rest ++ more, failed, by simp, ended⟩

/-- A record that neither hands over nor starts an action. -/
theorem Performed.of_quiet
    {record : Record Deferred Note}
    (future : Trace Deferred Note)
    (unhanded : ∀ number tree action, record.moment ≠ .handed number tree action)
    (unstarted : ∀ number tree action, record.moment ≠ .started number tree action) :
    Performed record future :=
  ⟨fun _ _ _ handed => absurd handed (unhanded _ _ _),
    fun _ _ _ started => absurd started (unstarted _ _ _)⟩

/-- Segments that bear out what they say of actions may follow one another. -/
theorem performed_append
    {past segment more : Trace Deferred Note}
    (first : Throughout (fun _ => Performed) past segment)
    (second : Throughout (fun _ => Performed) (past ++ segment) more) :
    Throughout (fun _ => Performed) past (segment ++ more) :=
  Throughout.append (fun _ _ _ more performed => performed.append more) first second

/-- What is recorded from one forest to another bears out what it says of actions. -/
def Performing (before after : Forest) : Prop :=
  ∃ segment, trace after = trace before ++ segment ∧
    Throughout (fun _ => Performed) (trace before) segment

instance : Std.Refl Performing where
  refl _ := ⟨[], (List.append_nil _).symm, trivial⟩

instance : IsTrans Forest Performing where
  trans _ _ _ := by
    rintro ⟨segment, grown, performed⟩ ⟨more, grownMore, performedMore⟩
    rw [grown] at grownMore performedMore
    exact ⟨segment ++ more, grownMore.trans (List.append_assoc _ _ _),
      performed_append performed performedMore⟩

/-- A way to perform actions starts each by the note of its label and of the root of its tree. -/
def Notes (perform : Deferred → Work Unit) : Prop :=
  ∀ action forest,
    Performing (recorded (.noted (.ran action.label (forest.tree action.tree))) forest)
      ((perform action).on forest).2

theorem mark_performing
    {moment : Moment Deferred Note}
    (handed : ∀ number tree action, moment = .handed number tree action → action.tree = tree)
    (unstarted : ∀ number tree action, moment ≠ .started number tree action) :
    Keeps Performing (mark moment : Work Unit) := by
  intro forest
  refine ⟨[recordOf forest moment], trace_recorded moment forest, .single ⟨handed, ?_⟩⟩
  exact fun number tree action started => absurd started (unstarted number tree action)

theorem reopen_performing (others : List (Scope Deferred)) :
    Keeps Performing (reopen others : Work Unit) :=
  fun _ => ⟨[], (List.append_nil _).symm, trivial⟩

variable {perform : Deferred → Work Unit}

/-- An action that is carried out starts, is noted, and ends. -/
theorem carryOut_performing
    (notes : Notes perform)
    (tree : Nat)
    (action : Nat × Deferred) :
    Keeps Performing (carryOut perform tree action) := by
  obtain ⟨number, action⟩ := action
  intro forest
  rw [on_carryOut]
  dsimp only
  set started := recorded (.started number tree action) forest with startedDef
  set performed := (perform action).on started with performedDef
  obtain ⟨segment, grown, borneOut⟩ := notes action started
  set start := recordOf forest (.started number tree action) with startDef
  set noting := start.beside (.noted (.ran action.label (start.root action.tree))) with notingDef
  set stop := recordOf performed.2 (.ended number (!performed.1.isOk)) with stopDef
  have noted : trace (recorded (.noted (.ran action.label (started.tree action.tree))) started) =
      trace forest ++ [start, noting] := by
    rw [trace_recorded, startedDef, trace_recorded, List.append_assoc]
    rfl
  rw [noted] at grown borneOut
  refine ⟨start :: noting :: (segment ++ [stop]), ?_, ?_, ?_, ?_⟩
  · rw [trace_recorded, grown, stopDef]
    simp
  · refine ⟨nofun, ?_⟩
    rintro _ _ _ ⟨⟩
    exact ⟨segment, stop, [], _, rfl, rfl⟩
  · exact .of_quiet _ nofun nofun
  · rw [List.append_assoc, List.singleton_append]
    exact performed_append borneOut (.single (.of_quiet [] nofun nofun))

/-- Programs bear out what is recorded of actions when each is noted as it runs. -/
theorem performing_kept (notes : Notes perform) : Kept Performing perform where
  edits same := ⟨[], (congrArg Ledger.trace same).trans (List.append_nil _).symm, trivial⟩
  notes _ := mark_performing nofun nofun
  closes number access := within_keeps
    (fun moment passage => mark_performing
      (by rintro _ _ _ rfl; cases passage) (by rintro _ _ _ rfl; cases passage))
    reopen_performing (carryOut_performing notes number) _ access
  defers number label steps := unlocked_keeps
    (fun place => mark_performing
      (fun _ _ _ handed => by obtain ⟨-, rfl, rfl⟩ := Moment.handed.inj handed; rfl)
      (fun _ _ _ started => by cases started))
    reopen_performing fun place => carryOut_performing notes number (place, _)

/-- Deferred actions are noted as they run. -/
theorem perform_notes (budget : Nat) : Notes (Step.perform budget) := by
  induction budget with
  | zero => exact fun _ _ => refl_of Performing _
  | succ budget inductionHypothesis =>
      intro action forest
      exact runAll_kept (performing_kept inductionHypothesis) action.steps _

end Step
end ManagedTree
