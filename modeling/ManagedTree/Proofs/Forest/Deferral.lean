import ManagedTree.Proofs.Forest.Actions
import ManagedTree.Proofs.Trace.Fate

/-!
# Deferred actions of programs

Whatever a program on a forest does, its trace is orderly, and bears out what it says of
actions.  An action that it defers therefore runs at once, or when the outermost closure of its
tree is left.
-/

namespace ManagedTree
namespace Step

open Trace HasLedger Run

/-- Programs proceed when the deferred actions do. -/
theorem proceeds_kept
    {perform : Deferred → Work Unit}
    (performs : ∀ action, Keeps Proceeds (perform action)) :
    Kept Proceeds perform where
  edits same := .of_ledger_eq same rfl
  notes noted := note_proceeds noted
  closes number access proceeds := within_proceeds performs proceeds _ number access
  defers number _ _ := unlocked_proceeds performs number _

theorem runAll_proceeds
    {perform : Deferred → Work Unit}
    (performs : ∀ action, Keeps Proceeds (perform action))
    (steps : List Step) :
    Keeps Proceeds (runAll perform steps) :=
  runAll_kept (proceeds_kept performs) steps

/-- A deferred action proceeds. -/
theorem perform_proceeds (budget : Nat) : ∀ action, Keeps Proceeds (perform budget action) := by
  induction budget with
  | zero =>
      intro action
      exact Keeps.bind (root_kept action.tree) fun _ => note_proceeds _
  | succ budget inductionHypothesis =>
      intro action
      refine Keeps.bind (root_kept action.tree) fun _ => ?_
      exact Keeps.bind (note_proceeds _) fun _ => runAll_proceeds inductionHypothesis action.steps

/-- What happens when a program runs on trees that nothing is open on. -/
def traceOf (budget : Nat) (steps : List Step) (trees : List Node) : Trace Deferred Note :=
  trace ((runAll (perform budget) steps).on (Forest.ofTrees trees)).2

/-- What happens in a program is in order. -/
theorem traceOf_orderly
    (budget : Nat)
    (steps : List Step)
    (trees : List Node) :
    Orderly 0 [] (traceOf budget steps trees) := by
  have proceeds := runAll_proceeds (perform_proceeds budget) steps (Forest.ofTrees trees)
  obtain ⟨segment, continues⟩ := proceeds Standing.start
  have whole : traceOf budget steps trees = segment := continues.trace_eq
  rw [whole]
  exact continues.orderly

/-- The actions whose start a program records run and end. -/
theorem traceOf_performed
    (budget : Nat)
    (steps : List Step)
    (trees : List Node) :
    Throughout (fun _ => Performed) [] (traceOf budget steps trees) := by
  obtain ⟨segment, grown, performed⟩ :=
    runAll_kept (performing_kept (perform_notes budget)) steps (Forest.ofTrees trees)
  have whole : traceOf budget steps trees = segment := grown
  rw [whole]
  exact performed

end Step
end ManagedTree
