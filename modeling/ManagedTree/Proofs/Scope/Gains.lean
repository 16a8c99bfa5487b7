import ManagedTree.Proofs.Scope.Within
import Mathlib.Data.List.Forall2

/-!
# Actions that are handed over within a closure

While a computation runs, the scopes that were open before it stay open and only gain
actions.  The actions that run when a closure is left are therefore those that its own
body handed over.
-/

namespace ManagedTree

open Trace HasLedger

variable {ε σ α ν β : Type} [HasLedger σ α ν]

/-- A scope of the same closure holds more actions, all of a kind. -/
structure Scope.Gains (kind : α → Prop) (before after : Scope α) : Prop where
  /-- The closure is the same. -/
  number_eq : after.number = before.number
  /-- The tree is the same. -/
  tree_eq : after.tree = before.tree
  /-- The closure may do the same. -/
  access_eq : after.access = before.access
  /-- The actions are those before and some of the kind. -/
  gained : ∃ more, after.deferred = before.deferred ++ more ∧ ∀ action ∈ more, kind action.2

namespace Scope

variable {kind : α → Prop}

instance : Std.Refl (Gains kind) where
  refl scope := ⟨rfl, rfl, rfl, [], (List.append_nil _).symm, by simp⟩

theorem Gains.trans
    {first second third : Scope α}
    (earlier : Gains kind first second)
    (later : Gains kind second third) :
    Gains kind first third := by
  obtain ⟨some, split, kinds⟩ := earlier.gained
  obtain ⟨more, splitLater, kindsLater⟩ := later.gained
  refine ⟨later.number_eq.trans earlier.number_eq, later.tree_eq.trans earlier.tree_eq,
    later.access_eq.trans earlier.access_eq, some ++ more, ?_, ?_⟩
  · rw [splitLater, split, List.append_assoc]
  · intro action present
    exact (List.mem_append.1 present).elim (kinds action) (kindsLater action)

theorem forall₂_gains_trans
    {first second third : List (Scope α)}
    (earlier : List.Forall₂ (Gains kind) first second)
    (later : List.Forall₂ (Gains kind) second third) :
    List.Forall₂ (Gains kind) first third := by
  induction earlier generalizing third with
  | nil => exact later
  | cons head tail inductionHypothesis =>
      obtain ⟨last, rest, headLater, tailLater, rfl⟩ := List.forall₂_cons_left_iff.1 later
      exact .cons (head.trans headLater) (inductionHypothesis tailLater)

/-- The scope to which an action is attached gains it. -/
theorem attach?_gains
    {tree : Nat}
    {action : Nat × α}
    {scopes others : List (Scope α)}
    (attaches : attach? tree action scopes = some others)
    (allowed : kind action.2) :
    List.Forall₂ (Gains kind) scopes others := by
  obtain ⟨inner, scope, outer, rfl, -, -, rfl⟩ := attach?_eq_some attaches
  refine List.rel_append (List.forall₂_refl inner) (.cons ⟨rfl, rfl, rfl, [action], rfl, ?_⟩ ?_)
  · simpa using allowed
  · exact List.forall₂_refl outer

end Scope

/-- The scopes of a state are still open and have only gained actions of a kind. -/
def Gaining (kind : α → Prop) (state after : σ) : Prop :=
  List.Forall₂ (Scope.Gains kind) (scopes state) (scopes after)

variable {kind : α → Prop}

instance : Std.Refl (Gaining (σ := σ) kind) where
  refl state := List.forall₂_refl (scopes state)

instance : IsTrans σ (Gaining kind) where
  trans _ _ _ earlier later := Scope.forall₂_gains_trans earlier later

/-- A change of anything but the ledger. -/
theorem Gaining.of_ledger_eq
    {state after : σ}
    (same : ledger after = ledger state) :
    Gaining kind state after := by
  unfold Gaining scopes
  rw [same]
  exact List.forall₂_refl _

/-! ## What a scope gains -/

/-- A scope of the same closure holds the actions that it held, and then those that were handed
over since while its closure was the outermost one of its tree. -/
structure Scope.Collects (past segment : Trace α ν) (before after : Scope α) : Prop where
  /-- The closure is the same. -/
  number_eq : after.number = before.number
  /-- The tree is the same. -/
  tree_eq : after.tree = before.tree
  /-- The closure may do the same. -/
  access_eq : after.access = before.access
  /-- The actions are those before and those attached to the closure since. -/
  collected : ∃ more, after.deferred = before.deferred ++ more ∧
    more.map Prod.fst = attachedFrom before.number past segment ∧
    ∀ action ∈ more, ∃ record ∈ segment, record.moment = .handed action.1 before.tree action.2

/-- A scope that gains actions collects those attached to its closure. -/
theorem Scope.Gains.collects
    {floor : Nat}
    {state after : σ}
    {segment : Trace α ν}
    {scope later : Scope α}
    (stands : Stands state)
    (continues : Continues floor state after segment)
    (present : scope ∈ scopes state)
    (stays : later ∈ scopes after)
    (gains : Scope.Gains kind scope later) :
    Scope.Collects (trace state) segment scope later := by
  obtain ⟨more, split, -⟩ := gains.gained
  have attachedSince : more.map Prod.fst = attachedFrom scope.number (trace state) segment := by
    have attachedLater := continues.stands.deferred later stays
    rw [gains.number_eq, split, List.map_append, stands.deferred scope present,
      continues.trace_eq] at attachedLater
    refine List.append_cancel_left (attachedLater.trans ?_)
    rw [attached, attached, attachedFrom_append, List.nil_append]
  refine ⟨gains.number_eq, gains.tree_eq, gains.access_eq, more, split, attachedSince, ?_⟩
  intro action among
  have attachedHere : action.1 ∈ attachedFrom scope.number (trace state) segment := by
    rw [← attachedSince]
    exact List.mem_map_of_mem among
  obtain ⟨before, record, rest, tree, act, rfl, handed, -⟩ := mem_attachedFrom.1 attachedHere
  have held : action ∈ later.deferred := by
    rw [split]
    exact List.mem_append_right _ among
  obtain ⟨⟨other, member, handedAgain, -⟩, -⟩ :=
    continues.stands.waiting later stays action held
  obtain ⟨others, future, whole⟩ := List.append_of_mem member
  have happened : (trace state ++ before) ++ record :: rest = others ++ other :: future := by
    rw [← whole, continues.trace_eq, List.append_assoc]
  have admitted : Admitted [] ((trace state ++ before) ++ record :: rest) := by
    rw [happened, ← whole]
    exact continues.stands.admitted
  obtain ⟨-, rfl, -⟩ := admitted.handed_unique happened handed handedAgain
  rw [gains.tree_eq] at handedAgain
  exact ⟨record, by simp, handedAgain⟩

/-- The open scopes collect the actions attached to their closures. -/
theorem Gaining.collects
    {floor : Nat}
    {state after : σ}
    {segment : Trace α ν}
    (stands : Stands state)
    (continues : Continues floor state after segment)
    (gaining : Gaining kind state after) :
    List.Forall₂ (Scope.Collects (trace state) segment) (scopes state) (scopes after) := by
  rw [Gaining, List.forall₂_iff_zip] at gaining
  rw [List.forall₂_iff_zip]
  refine ⟨gaining.1, fun {scope later} paired => ?_⟩
  obtain ⟨present, stays⟩ := List.of_mem_zip paired
  exact (gaining.2 paired).collects stands continues present stays

namespace Run

variable {perform : α → Run ε σ Unit}

theorem mark_gains (moment : Moment α ν) :
    Keeps (Gaining kind) (mark moment : Run ε σ Unit) := by
  intro state
  rw [on_mark, Gaining, scopes_recorded]
  exact List.forall₂_refl _

theorem carryOut_gains
    {tree : Nat}
    {action : Nat × α}
    (performs : Keeps (Gaining kind) (perform action.2)) :
    Keeps (Gaining kind) (carryOut perform tree action) := by
  refine Keeps.bind (mark_gains _) fun _ => ?_
  refine Keeps.bind (Keeps.outcome performs) fun result => ?_
  exact Keeps.bind (mark_gains _) fun _ => Keeps.ending result

/-- Handing over an action of the kind. -/
theorem unlocked_gains
    {action : α}
    (performs : Keeps (Gaining kind) (perform action))
    (tree : Nat)
    (allowed : kind action) :
    Keeps (Gaining kind) (unlocked perform tree action) := by
  intro state
  set handed := recorded (.handed (trace state).length tree action) state
  have handing : Gaining kind state handed := mark_gains (ε := ε) _ state
  unfold unlocked mark
  simp only [on_get_bind, on_modify_bind]
  cases attaches : Scope.attach? tree ((trace state).length, action) (scopes state) with
  | none => exact trans_of (Gaining kind) handing (carryOut_gains performs handed)
  | some others =>
      have attached := Scope.attach?_gains attaches allowed
      rw [← scopes_reopened others handed] at attached
      exact attached

/-- The innermost scope after what happens within a closure holds only actions of the kind. -/
theorem innermost_of_gaining
    {tree : Nat}
    {access : Access}
    {state after : σ}
    (gaining : Gaining kind (entering tree access state) after) :
    ∃ scope outer, scopes after = scope :: outer ∧
      (∀ action ∈ scope.deferred, kind action.2) ∧
      List.Forall₂ (Scope.Gains kind) (scopes state) outer := by
  rw [Gaining, scopes_entering] at gaining
  obtain ⟨scope, outer, head, tail, innermost⟩ := List.forall₂_cons_left_iff.1 gaining
  refine ⟨scope, outer, innermost, ?_, tail⟩
  obtain ⟨more, split, kinds⟩ := head.gained
  rw [split]
  exact kinds

/-- A closure gains what its body and the actions handed over in it do. -/
theorem within_gains
    {body : Run ε σ β}
    (performs : ∀ action, kind action → Keeps (Gaining kind) (perform action))
    (gains : Keeps (Gaining kind) body)
    (unwinds : ε → Bool)
    (tree : Nat)
    (access : Access) :
    Keeps (Gaining kind) (within perform unwinds tree access body) := by
  intro state
  obtain ⟨scope, outer, innermost, kinds, tail⟩ :=
    innermost_of_gaining (gains (entering tree access state))
  rw [on_within unwinds innermost]
  dsimp only
  set done := body.on (entering tree access state)
  set left := reopened outer
    (recorded (.left (trace state).length (unwound unwinds done.1)) done.2)
  have leaving : Gaining kind state left := by
    rw [Gaining, scopes_reopened]
    exact tail
  have carries : ∀ action ∈ scope.deferred, Keeps (Gaining kind) (carryOut perform tree action) :=
    fun action present => carryOut_gains (performs action.2 (kinds action present))
  exact trans_of (Gaining kind) leaving (rest_keeps carries (mark_gains _) unwinds done.1 left)

end Run
end ManagedTree
