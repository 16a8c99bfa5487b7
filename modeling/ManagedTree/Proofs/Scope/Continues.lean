import ManagedTree.Proofs.Run.Keeps
import ManagedTree.Proofs.Scope.Standing

/-!
# Computations that continue a trace in order

A state continues another when it is on the same thread and its trace goes on with
an orderly segment.  Closures and deferred actions keep this relation when their
bodies do.
-/

namespace ManagedTree

open Trace HasLedger

variable {ε σ α ν β : Type} [HasLedger σ α ν]

namespace HasLedger

/-- The open scopes of a state stand for the closures that its thread is in. -/
abbrev Stands (state : σ) : Prop :=
  Standing (thread state) (scopes state) (trace state)

theorem belongs_recordOf (state : σ) (moment : Moment α ν) :
    Belongs (thread state) (scopes state) (recordOf state moment) :=
  ⟨rfl, stack_recordOf state moment⟩

/-- The open scopes are of the trees of the closures that the thread is in. -/
theorem Stands.stack_eq
    {state : σ}
    (stands : Stands state) :
    (ledger state).stack = (inside (thread state) (trace state)).map Prod.snd := by
  rw [stands.stacked, List.map_reverse, List.map_map]
  rfl

end HasLedger

/-- A state comes after another on the same thread, and what happened in between was in
order. -/
structure Continues (floor : Nat) (state after : σ) (segment : Trace α ν) : Prop where
  /-- The thread is the same. -/
  thread_eq : thread after = thread state
  /-- The segment is what happened in between. -/
  trace_eq : trace after = trace state ++ segment
  /-- The scopes stand for the closures. -/
  stands : Stands after
  /-- The segment is in order. -/
  orderly : Orderly floor (trace state) segment
  /-- It happened on the same thread or on threads that started in between. -/
  threads : ∀ record ∈ segment,
    record.thread = thread state ∨ (trace state).length < record.thread

namespace Continues

variable {floor : Nat} {state middle after : σ} {segment more : Trace α ν}

theorem refl (floor : Nat) (stands : Stands state) : Continues floor state state [] where
  thread_eq := rfl
  trace_eq := (List.append_nil _).symm
  stands := stands
  orderly := trivial
  threads := by simp

theorem trans
    (first : Continues floor state middle segment)
    (second : Continues floor middle after more) :
    Continues floor state after (segment ++ more) where
  thread_eq := second.thread_eq.trans first.thread_eq
  trace_eq := by rw [second.trace_eq, first.trace_eq, List.append_assoc]
  stands := second.stands
  orderly := by
    apply first.orderly.append
    rw [← first.trace_eq]
    exact second.orderly
  threads := by
    intro record present
    rcases List.mem_append.1 present with old | new
    · exact first.threads record old
    · have later := second.threads record new
      rw [first.thread_eq, first.trace_eq, List.length_append] at later
      exact later.imp_right fun lt => by omega

theorem lower
    {lower : Nat}
    (continues : Continues floor state after segment)
    (le : lower ≤ floor) :
    Continues lower state after segment :=
  { continues with orderly := continues.orderly.lower le }

/-- A record comes first. -/
theorem cons
    {moment : Moment α ν}
    (stands : Stands state)
    (admitted : AdmitsMoment (trace state) (thread state) moment)
    (recent : ∀ number, moment.number? = some number → floor ≤ number)
    (thread_eq : thread middle = thread state)
    (trace_eq : trace middle = trace state ++ [recordOf state moment])
    (continues : Continues floor middle after segment)
    (follows : Follows (trace state) (recordOf state moment) segment) :
    Continues floor state after (recordOf state moment :: segment) where
  thread_eq := continues.thread_eq.trans thread_eq
  trace_eq := by rw [continues.trace_eq, trace_eq, List.append_assoc, List.singleton_append]
  stands := continues.stands
  orderly := by
    refine ⟨⟨stands.admits (belongs_recordOf state moment) admitted, recent, follows⟩, ?_⟩
    rw [← trace_eq]
    exact continues.orderly
  threads := by
    intro record present
    rcases List.mem_cons.1 present with rfl | later
    · exact Or.inl rfl
    · have among := continues.threads record later
      rw [thread_eq, trace_eq, List.length_append] at among
      exact among.imp_right fun lt => by omega

/-- A record that only adds to the trace. -/
theorem single
    {moment : Moment α ν}
    (stands : Stands state)
    (admitted : AdmitsMoment (trace state) (thread state) moment)
    (recent : ∀ number, moment.number? = some number → floor ≤ number)
    (follows : Follows (trace state) (recordOf state moment) [])
    (after : Stands (recorded moment state)) :
    Continues floor state (recorded moment state) [recordOf state moment] :=
  cons stands admitted recent (thread_recorded moment state) (trace_recorded moment state)
    (refl floor after) follows

/-- New closures that were entered in between have been left. -/
theorem inside_eq
    (continues : Continues floor state after segment)
    (stands : Stands state)
    (new : (trace state).length ≤ floor)
    (thread : Nat) :
    inside thread (trace after) = inside thread (trace state) := by
  rw [continues.trace_eq]
  apply inside_append_of_closed thread
  · intro record present closure tree entered
    exact stands.entered_lt present entered
  · intro record present closure unwound left
    exact Nat.le_trans new (continues.orderly.recent present (by rw [left]; rfl))
  · intro record present closure tree entered
    exact continues.orderly.closed present entered

/-- The open scopes are of the same closures as before. -/
theorem closures_eq
    (continues : Continues floor state after segment)
    (stands : Stands state)
    (new : (trace state).length ≤ floor) :
    (scopes after).map Scope.closure = (scopes state).map Scope.closure := by
  have stays := continues.inside_eq stands new (thread state)
  have later := continues.stands.stacked
  rw [continues.thread_eq, stays, stands.stacked] at later
  exact (List.reverse_injective later).symm

end Continues

/-- A state whose scopes stand for its closures is continued. -/
def Proceeds (state after : σ) : Prop :=
  Stands state → ∃ segment, Continues (trace state).length state after segment

/-- A state with the same ledger on the same thread. -/
theorem Proceeds.of_ledger_eq
    {state after : σ}
    (ledger_eq : ledger after = ledger state)
    (thread_eq : thread after = thread state) :
    Proceeds state after := by
  intro stands
  have scopes_eq : scopes after = scopes state := by
    rw [scopes, scopes, ledger_eq]
  have trace_eq : trace after = trace state := by
    rw [trace, trace, ledger_eq]
  refine ⟨[], thread_eq, by rw [trace_eq, List.append_nil], ?_, trivial, by simp⟩
  unfold Stands
  rw [thread_eq, scopes_eq, trace_eq]
  exact stands

instance : Std.Refl (Proceeds (σ := σ)) where
  refl _ stands := ⟨[], Continues.refl _ stands⟩

instance : IsTrans σ Proceeds where
  trans _ _ _ first second stands := by
    obtain ⟨segment, continues⟩ := first stands
    obtain ⟨more, continuesMore⟩ := second continues.stands
    have longer := continues.trace_eq
    refine ⟨segment ++ more, continues.trans (continuesMore.lower ?_)⟩
    rw [longer, List.length_append]
    omega

end ManagedTree
