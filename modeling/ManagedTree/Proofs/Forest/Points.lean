import ManagedTree.Proofs.Forest.Deferral
import ManagedTree.Proofs.Scope.Gains

/-!
# Open closures

At every point in the run of a program, also within deferred actions, the scopes that are open are
those of the closures that the point is within.  A step that is over, whether it ended normally or
panicked, leaves these scopes open, and has only added to them the actions that were handed over
for them.
-/

namespace ManagedTree
namespace Step

open Trace HasLedger Run

/-- A point in the run of a program, where a step is about to run. -/
structure Point where
  /-- The levels to which actions that are handed over here may defer actions. -/
  budget : Nat
  /-- The trees of the closures that the step is within, outermost first. -/
  held : List Nat
  /-- The step. -/
  step : Step
  /-- The forest on which it runs. -/
  forest : Forest

/-- The forest on which the steps of an action run, once the action is started and noted. -/
def begun (tree : Nat) (action : Nat × Deferred) (forest : Forest) : Forest :=
  recorded (.noted (.ran action.2.label (forest.tree action.2.tree)))
    (recorded (.started action.1 tree action.2) forest)

/-- The forest after the innermost closure is left normally, with some scopes still open. -/
def leaving (number : Nat) (outer : List (Scope Deferred)) (forest : Forest) : Forest :=
  reopened outer (recorded (.left number false) forest)

/-- When steps run on a forest, within closures of some trees, a point is reached. -/
inductive Reaches : Nat → List Nat → List Step → Forest → Point → Prop
  /-- The first step is about to run. -/
  | here {budget : Nat} {held : List Nat} {step : Step} {steps : List Step} {forest : Forest} :
      Reaches budget held (step :: steps) forest ⟨budget, held, step, forest⟩
  /-- The first step ends normally, and the point is reached by those after it. -/
  | next
      {budget : Nat} {held : List Nat} {step : Step} {steps : List Step} {forest after : Forest}
      {answer : Answer} {point : Point} :
      (run (perform budget) step).on forest = (.ok answer, after) →
      Reaches budget held steps after point →
      Reaches budget held (step :: steps) forest point
  /-- The point is reached within a closure. -/
  | within
      {budget tree : Nat} {held : List Nat} {access : Access} {inner steps : List Step}
      {forest : Forest} {point : Point} :
      Reaches budget (held ++ [tree]) inner (entering tree access forest) point →
      Reaches budget held (.scope tree access inner :: steps) forest point
  /-- The point is reached by steps whose panic is caught. -/
  | attempted
      {budget : Nat} {held : List Nat} {inner steps : List Step} {forest : Forest}
      {point : Point} :
      Reaches budget held inner forest point →
      Reaches budget held (.attempt inner :: steps) forest point
  /-- An action runs at once, because its tree is not held, and reaches the point. -/
  | atOnce
      {budget tree : Nat} {held : List Nat} {label : String} {inner steps : List Step}
      {forest : Forest} {point : Point} :
      Scope.attach? tree ((trace forest).length, ⟨tree, label, inner⟩) (scopes forest) = none →
      Reaches budget held inner
        (begun tree ((trace forest).length, ⟨tree, label, inner⟩)
          (recorded (.handed (trace forest).length tree ⟨tree, label, inner⟩) forest)) point →
      Reaches (budget + 1) held (.defer tree label inner :: steps) forest point
  /-- The body of a closure ends normally, and so do the actions that run first when the closure
  is left; the action after them reaches the point. -/
  | deferred
      {budget tree : Nat} {held : List Nat} {access : Access} {inner steps : List Step}
      {forest done after : Forest} {scope : Scope Deferred} {outer : List (Scope Deferred)}
      {earlier later : List (Nat × Deferred)} {action : Nat × Deferred} {point : Point} :
      (runAll (perform (budget + 1)) inner).on (entering tree access forest) = (.ok (), done) →
      scopes done = scope :: outer →
      scope.deferred = earlier ++ action :: later →
      (each (carryOut (perform (budget + 1)) tree) earlier).on
        (leaving (trace forest).length outer done) = (.ok (), after) →
      Reaches budget held action.2.steps (begun tree action after) point →
      Reaches (budget + 1) held (.scope tree access inner :: steps) forest point

/-- The scopes that are open stand for closures of the given trees, outermost first. -/
structure Mirrors (held : List Nat) (forest : Forest) : Prop where
  /-- The scopes stand for the closures that the trace says the thread is in. -/
  stands : Stands forest
  /-- They are of the trees. -/
  stack_eq : forest.ledger.stack = held

namespace Mirrors

variable {held : List Nat} {forest after : Forest} {segment : Trace Deferred Note}

/-- Nothing is open at first. -/
theorem start (trees : List Node) : Mirrors [] (Forest.ofTrees trees) :=
  ⟨Standing.start, rfl⟩

theorem inside_eq (mirrors : Mirrors held forest) :
    (inside 0 (trace forest)).map Prod.snd = held :=
  mirrors.stands.stack_eq.symm.trans mirrors.stack_eq

/-- The scopes are of the same trees as long as the thread is in the same closures. -/
theorem of_inside_eq
    (mirrors : Mirrors held forest)
    (stands : Stands after)
    (same : inside 0 (trace after) = inside 0 (trace forest)) :
    Mirrors held after := by
  refine ⟨stands, stands.stack_eq.trans ?_⟩
  change (inside 0 (trace after)).map Prod.snd = held
  rw [same, mirrors.inside_eq]

theorem entering
    (mirrors : Mirrors held forest)
    (tree : Nat)
    (access : Access) :
    Mirrors (held ++ [tree]) (entering tree access forest) := by
  refine ⟨enter_stands mirrors.stands tree access, ?_⟩
  change ((scopes (Run.entering tree access forest)).map Scope.tree).reverse = _
  rw [scopes_entering, List.map_cons, List.reverse_cons, ← mirrors.stack_eq]
  rfl

/-- The forest after the innermost closure is left is within the others. -/
theorem leaving
    {tree : Nat}
    {scope : Scope Deferred}
    {outer : List (Scope Deferred)}
    (mirrors : Mirrors (held ++ [tree]) forest)
    (innermost : scopes forest = scope :: outer) :
    Mirrors held (leaving scope.number outer forest) := by
  refine ⟨leave_stands mirrors.stands innermost false, ?_⟩
  have stack_eq : ((scopes forest).map Scope.tree).reverse = held ++ [tree] := mirrors.stack_eq
  rw [innermost, List.map_cons, List.reverse_cons] at stack_eq
  exact List.append_inj_left' stack_eq rfl

/-- An action that may start begins within the same closures. -/
theorem begun
    {tree : Nat}
    {action : Nat × Deferred}
    (mirrors : Mirrors held forest)
    (admits : AdmitsStart (trace forest) (thread forest) action.1 tree action.2) :
    Mirrors held (begun tree action forest) :=
  ⟨(started_stands mirrors.stands admits).quiet rfl nofun, mirrors.stack_eq⟩

/-- A step leaves the same closures open, however it ends. -/
theorem run
    (mirrors : Mirrors held forest)
    (budget : Nat)
    (step : Step) :
    ∃ segment, Continues (trace forest).length forest
        ((Step.run (perform budget) step).on forest).2 segment ∧
      Mirrors held ((Step.run (perform budget) step).on forest).2 := by
  have proceeds := run_kept (proceeds_kept (perform_proceeds budget)) step
  obtain ⟨segment, continues⟩ := proceeds forest mirrors.stands
  exact ⟨segment, continues,
    mirrors.of_inside_eq continues.stands
      (continues.inside_eq mirrors.stands (Nat.le_refl _) 0)⟩

end Mirrors

/-- Actions that run when a closure is left leave the same closures open, and the one after them
may start. -/
theorem admits_after_each
    {budget tree : Nat}
    {held : List Nat}
    {forest after : Forest}
    {earlier later : List (Nat × Deferred)}
    {action : Nat × Deferred}
    (mirrors : Mirrors held forest)
    (admits : ∀ other ∈ earlier ++ action :: later,
      AdmitsStart (trace forest) (thread forest) other.1 tree other.2)
    (distinct : ((earlier ++ action :: later).map Prod.fst).Nodup)
    (ends : (each (carryOut (perform budget) tree) earlier).on forest = (.ok (), after)) :
    Mirrors held after ∧ AdmitsStart (trace after) (thread after) action.1 tree action.2 := by
  induction earlier generalizing forest with
  | nil =>
      obtain rfl : forest = after := (Prod.mk.inj ends).2
      exact ⟨mirrors, admits action (by simp)⟩
  | cons first earlier inductionHypothesis =>
      rw [List.cons_append] at admits distinct
      obtain ⟨apart, distinctRest⟩ := List.nodup_cons.1 (List.map_cons ▸ distinct)
      have performs := perform_proceeds budget
      have admitsFirst := admits first (by simp)
      obtain ⟨middle, stop, continues, -, -, -, stays⟩ :=
        carryOut_continues performs mirrors.stands admitsFirst (Nat.zero_le _)
      rw [each, on_bind] at ends
      rcases both : (carryOut (perform budget) tree first).on forest with ⟨result, next⟩
      rw [both] at continues ends stays
      cases result with
      | error early => cases ends
      | ok value =>
          have still : ∀ other ∈ earlier ++ action :: later,
              AdmitsStart (trace next) (thread next) other.1 tree other.2 := by
            intro other present
            have differs : first.1 ≠ other.1 := by
              intro same
              exact apart (same ▸ List.mem_map_of_mem present)
            have admitsOther := admits_after_carryOut performs mirrors.stands admitsFirst
              (admits other (List.mem_cons_of_mem _ present)) differs
            rw [both] at admitsOther
            exact admitsOther
          exact inductionHypothesis (mirrors.of_inside_eq continues.stands (stays 0)) still
            distinctRest ends

/-- At a point that is reached, the scopes that are open are those of the closures that it is
within. -/
theorem Reaches.mirrors
    {budget : Nat}
    {held : List Nat}
    {steps : List Step}
    {forest : Forest}
    {point : Point}
    (reaches : Reaches budget held steps forest point)
    (mirrors : Mirrors held forest) :
    Mirrors point.held point.forest := by
  induction reaches with
  | here => exact mirrors
  | @next budget held step steps forest after answer point ends _ inductionHypothesis =>
      obtain ⟨segment, -, later⟩ := mirrors.run budget step
      rw [ends] at later
      exact inductionHypothesis later
  | within _ inductionHypothesis => exact inductionHypothesis (mirrors.entering _ _)
  | attempted _ inductionHypothesis => exact inductionHypothesis mirrors
  | @atOnce budget tree held label inner steps forest point alone _ inductionHypothesis =>
      have outside := mirrors.stands.outermost?_eq_none (Scope.attach?_eq_none alone)
      have handed : Mirrors held
          (recorded (.handed (trace forest).length tree ⟨tree, label, inner⟩) forest) :=
        ⟨handed_stands mirrors.stands outside _, mirrors.stack_eq⟩
      exact inductionHypothesis (handed.begun (handed_admits mirrors.stands outside _))
  | @deferred budget tree held access inner steps forest done after scope outer earlier later
      action point ends innermost split runs _ inductionHypothesis =>
      have entered := mirrors.entering tree access
      have proceeds := runAll_proceeds (perform_proceeds (budget + 1)) inner
      obtain ⟨segment, running⟩ := proceeds (entering tree access forest) entered.stands
      have doneMirrors := entered.of_inside_eq running.stands
        (running.inside_eq entered.stands (Nat.le_refl _) 0)
      obtain ⟨opened, others, same, number, treeEq⟩ := innermost_after entered.stands running
        (scopes_entering tree access forest)
      rw [ends] at running doneMirrors same
      obtain ⟨rfl, rfl⟩ := List.cons_eq_cons.1 (innermost.symm.trans same)
      have admits := leave_admits running.stands innermost
      have distinct : (scope.deferred.map Prod.fst).Nodup := by
        rw [running.stands.deferred scope (by simp [innermost])]
        exact running.stands.admitted.attached_nodup scope.number
      rw [split] at admits distinct
      rw [← number] at runs
      rw [treeEq] at admits
      obtain ⟨afterMirrors, start⟩ :=
        admits_after_each (doneMirrors.leaving innermost) admits distinct runs
      exact inductionHypothesis (afterMirrors.begun start)

/-- A tree is held when a scope of it is open. -/
theorem on_holds
    {held : List Nat}
    {forest : Forest}
    (mirrors : Mirrors held forest)
    (tree : Nat) :
    (holds tree : Work Bool).on forest = (.ok (decide (tree ∈ held)), forest) := by
  have looked : (holds tree : Work Bool).on forest =
      (.ok (Scope.holds tree (scopes forest)), forest) := rfl
  have found : Scope.holds tree (scopes forest) = true ↔ tree ∈ held := by
    rw [← mirrors.stack_eq, Ledger.stack, List.mem_reverse, Scope.holds, List.any_eq_true]
    simp only [beq_iff_eq, List.mem_map]
    rfl
  rw [looked, Bool.eq_iff_iff.2 (found.trans decide_eq_true_iff.symm)]

/-- Programs have the open scopes gain actions when the deferred actions do. -/
theorem gains_kept
    {perform : Deferred → Work Unit}
    (performs : ∀ action, Keeps (Gaining fun _ => True) (perform action)) :
    Kept (Gaining fun _ => True) perform where
  edits same := .of_ledger_eq same
  notes _ := mark_gains _
  closes number access gains := within_gains (fun action _ => performs action) gains _ number access
  defers number _ _ := unlocked_gains (performs _) number trivial

/-- A deferred action has the open scopes gain actions. -/
theorem perform_gains (budget : Nat) :
    ∀ action, Keeps (Gaining fun _ => True) (perform budget action) := by
  induction budget with
  | zero =>
      intro action
      exact Keeps.bind (root_kept action.tree) fun _ => mark_gains _
  | succ budget inductionHypothesis =>
      intro action
      refine Keeps.bind (root_kept action.tree) fun _ => ?_
      refine Keeps.bind (mark_gains _) fun _ => ?_
      exact runAll_kept (gains_kept inductionHypothesis) action.steps

/-- A step collects for the scopes that are open what it hands over for them. -/
theorem run_collects
    {held : List Nat}
    {forest : Forest}
    {segment : Trace Deferred Note}
    (mirrors : Mirrors held forest)
    (budget : Nat)
    (step : Step)
    (continues : Continues (trace forest).length forest
      ((run (perform budget) step).on forest).2 segment) :
    List.Forall₂ (Scope.Collects (trace forest) segment) (scopes forest)
      (scopes ((run (perform budget) step).on forest).2) := by
  have gaining := run_kept (gains_kept (perform_gains budget)) step forest
  exact gaining.collects mirrors.stands continues

end Step
end ManagedTree
