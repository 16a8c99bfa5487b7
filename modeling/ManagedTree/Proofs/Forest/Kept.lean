import ManagedTree.Forest
import ManagedTree.Proofs.Run.Keeps

/-!
# Relations that programs on a forest keep

A relation between a forest and what becomes of it is kept by every program once the
few steps of which programs are made keep it.
-/

namespace ManagedTree
namespace Step

open Run

/-- The steps of which programs are made keep a relation. -/
structure Kept (R : Forest → Forest → Prop) (perform : Deferred → Work Unit) : Prop where
  /-- Trees are edited. -/
  edits : ∀ {before later : Forest}, later.ledger = before.ledger → R before later
  /-- Something is noted. -/
  notes : ∀ noted, Keeps R (note noted)
  /-- A closure of a tree. -/
  closes : ∀ {α : Type} {body : Work α} (number access),
    Keeps R body → Keeps R (closure perform number access body)
  /-- An action is handed over. -/
  defers : ∀ number label steps, Keeps R (unlocked perform number ⟨number, label, steps⟩)

variable {R : Forest → Forest → Prop} {perform : Deferred → Work Unit}

theorem root_kept
    [Std.Refl R]
    (number : Nat) :
    Keeps R (root number) :=
  Keeps.get_bind fun state => Keeps.ofPure _ state

theorem setInnermost_kept
    (kept : Kept R perform)
    (place : List String)
    (value : Node) :
    Keeps R (setInnermost place value) := by
  refine Keeps.modify fun forest => kept.edits ?_
  split <;> rfl

variable [Std.Refl R] [IsTrans Forest R]

theorem editAt_kept
    (kept : Kept R perform)
    (number : Nat)
    (address : Address)
    (create : Bool)
    (change : Node → Node) :
    Keeps R (editAt number address create change) := by
  refine Keeps.bind (root_kept number) fun tree => ?_
  exact Keeps.bind (Keeps.modify fun _ => kept.edits rfl) fun _ => Keeps.ofPure _

mutual

/-- A step. -/
theorem run_kept
    (kept : Kept R perform) :
    ∀ step, Keeps R (run perform step)
  | .resolve number address true => by
      rw [run]
      refine Keeps.bind ?_ fun _ => Keeps.ofPure _
      exact kept.closes number .write (editAt_kept kept number address true id)
  | .resolve number address false => by
      rw [run]
      refine Keeps.bind ?_ fun _ => Keeps.ofPure _
      exact kept.closes number .read (Keeps.bind (root_kept number) fun _ => Keeps.ofPure _)
  | .look number address => by
      rw [run]
      refine Keeps.bind ?_ fun _ => Keeps.ofPure _
      exact kept.closes number .read (Keeps.bind (root_kept number) fun _ => Keeps.ofPure _)
  | .lookAt number address name => by
      rw [run]
      refine Keeps.bind ?_ fun _ => Keeps.ofPure _
      exact kept.closes number .read (Keeps.bind (root_kept number) fun _ => Keeps.ofPure _)
  | .write number address place value => by
      rw [run]
      refine Keeps.bind ?_ fun _ => Keeps.ofPure _
      exact kept.closes number .write (editAt_kept kept number address false _)
  | .snapshot number => by
      rw [run]
      exact Keeps.bind (root_kept number) fun _ => Keeps.ofPure _
  | .locked number => by
      rw [run]
      refine Keeps.bind (Keeps.get_bind fun state => Keeps.ofPure _ state) fun value => ?_
      exact Keeps.bind (kept.notes _) fun _ => Keeps.ofPure _
  | .defer number label steps => by
      rw [run]
      refine Keeps.bind (kept.defers number label steps) fun _ => ?_
      exact Keeps.bind (kept.notes _) fun _ => Keeps.ofPure _
  | .scope number access steps => by
      rw [run]
      refine Keeps.bind (kept.closes number access (runAll_kept kept steps)) fun _ => ?_
      exact Keeps.bind (kept.notes _) fun _ => Keeps.ofPure _
  | .set place value => by
      rw [run]
      exact Keeps.bind (setInnermost_kept kept place value) fun _ => Keeps.ofPure _
  | .panic message => by
      rw [run]
      exact Keeps.ofThrow _
  | .attempt steps => by
      rw [run]
      refine Keeps.bind (Keeps.outcome (runAll_kept kept steps)) fun result => ?_
      cases result with
      | ok value => exact Keeps.ofPure _
      | error caught => exact Keeps.bind (kept.notes _) fun _ => Keeps.ofPure _

/-- Steps, one after another. -/
theorem runAll_kept
    (kept : Kept R perform) :
    ∀ steps, Keeps R (runAll perform steps)
  | [] => Keeps.ofPure ()
  | step :: steps => by
      rw [runAll]
      exact Keeps.bind (run_kept kept step) fun _ => runAll_kept kept steps

end

end Step
end ManagedTree
