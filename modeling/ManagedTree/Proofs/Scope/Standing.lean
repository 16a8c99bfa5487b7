import ManagedTree.Proofs.Trace.Order
import ManagedTree.Scope
import Mathlib.Data.List.Pairwise
import Mathlib.Data.List.Nodup

/-!
# Scopes that stand for closures

The open scopes of a thread stand for the closures that the trace says it is in:
they lie in the same order, and the actions they hold are those attached to the
closures.  The module follows this through every kind of record.
-/

namespace ManagedTree

open Trace

variable {α ν : Type}

namespace Scope

/-- The closure of a scope with its tree. -/
def closure (scope : Scope α) : Nat × Nat :=
  (scope.number, scope.tree)

/-- An action is attached to the outermost scope of its tree. -/
theorem attach?_eq_some
    {tree : Nat}
    {action : Nat × α}
    {scopes others : List (Scope α)}
    (attaches : attach? tree action scopes = some others) :
    ∃ inner scope outer, scopes = inner ++ scope :: outer ∧ scope.tree = tree ∧
      (∀ other ∈ outer, other.tree ≠ tree) ∧
      others = inner ++ { scope with deferred := scope.deferred ++ [action] } :: outer := by
  induction scopes generalizing others with
  | nil => simp [attach?] at attaches
  | cons first rest inductionHypothesis =>
      cases found : attach? tree action rest with
      | some attached =>
          simp only [attach?, found, Option.some.injEq] at attaches
          obtain ⟨inner, scope, outer, rfl, same, different, rfl⟩ := inductionHypothesis found
          exact ⟨first :: inner, scope, outer, rfl, same, different, attaches.symm⟩
      | none =>
          have unheld : holds tree rest = false := by
            rw [← isSome_attach? tree action rest, found]
            rfl
          by_cases same : first.tree = tree
          · simp only [attach?, found, same, if_true, Option.some.injEq] at attaches
            refine ⟨[], first, rest, rfl, same, ?_, by rw [← attaches, ← same]; rfl⟩
            simpa [holds] using unheld
          · simp [attach?, found, same] at attaches

/-- An action finds no scope when none is of its tree. -/
theorem attach?_eq_none
    {tree : Nat}
    {action : Nat × α}
    {scopes : List (Scope α)}
    (attaches : attach? tree action scopes = none) :
    ∀ scope ∈ scopes, scope.tree ≠ tree := by
  have unheld : holds tree scopes = false := by
    rw [← isSome_attach? tree action scopes, attaches]
    rfl
  simpa [holds] using unheld

end Scope

/-- The open scopes of a thread stand for the closures that it is in. -/
structure Standing (thread : Nat) (scopes : List (Scope α)) (trace : Trace α ν) : Prop where
  /-- Every record was admitted. -/
  admitted : Admitted [] trace
  /-- Closures and actions are numbered by places in the trace. -/
  numbered : ∀ record ∈ trace, ∀ number,
    record.moment.number? = some number → number < trace.length
  /-- Threads are numbered by places in the trace. -/
  threads : ∀ record ∈ trace, record.thread ≤ trace.length
  /-- So is the running thread. -/
  running : thread ≤ trace.length + 1
  /-- The scopes are those of the closures that the thread is in. -/
  stacked : inside thread trace = (scopes.map Scope.closure).reverse
  /-- No two scopes are of one closure. -/
  distinct : (scopes.map Scope.number).Nodup
  /-- The scopes hold the actions attached to their closures. -/
  deferred : ∀ scope ∈ scopes, scope.deferred.map Prod.fst = attached scope.number trace
  /-- These actions were handed over on the thread and have not started. -/
  waiting : ∀ scope ∈ scopes, ∀ action ∈ scope.deferred,
    (∃ earlier ∈ trace,
      earlier.moment = .handed action.1 scope.tree action.2 ∧ earlier.thread = thread) ∧
      ∀ earlier ∈ trace, ∀ tree act, earlier.moment ≠ .started action.1 tree act
  /-- Only the outermost scope of a tree holds actions. -/
  outermost : scopes.Pairwise fun scope outer => scope.deferred ≠ [] → outer.tree ≠ scope.tree

/-- A record comes from a thread with some open scopes. -/
structure Belongs (thread : Nat) (scopes : List (Scope α)) (record : Record α ν) : Prop where
  /-- It comes from the thread. -/
  thread_eq : record.thread = thread
  /-- It names the trees of the scopes. -/
  stack_eq : record.stack = (scopes.map Scope.tree).reverse

/-- Nothing is open at the start. -/
theorem Standing.start : Standing 0 [] ([] : Trace α ν) where
  admitted := trivial
  numbered := by simp
  threads := by simp
  running := Nat.zero_le _
  stacked := rfl
  distinct := List.nodup_nil
  deferred := by simp
  waiting := by simp
  outermost := List.Pairwise.nil

namespace Standing

variable
  {thread : Nat} {scopes : List (Scope α)} {trace : Trace α ν} {record : Record α ν}

theorem admits
    (standing : Standing thread scopes trace)
    (belongs : Belongs thread scopes record)
    (admitted : AdmitsMoment trace thread record.moment) :
    Admits trace record := by
  refine ⟨?_, by rwa [belongs.thread_eq]⟩
  rw [belongs.stack_eq, belongs.thread_eq, standing.stacked, List.map_reverse, List.map_map]
  rfl

theorem closure_mem
    (standing : Standing thread scopes trace)
    {scope : Scope α}
    (present : scope ∈ scopes) :
    scope.closure ∈ inside thread trace := by
  rw [standing.stacked, List.mem_reverse]
  exact List.mem_map_of_mem present

/-- The closure of an open scope has not been left. -/
theorem not_left
    (standing : Standing thread scopes trace)
    {scope : Scope α}
    (present : scope ∈ scopes) :
    ∀ earlier ∈ trace, ∀ unwound, earlier.moment ≠ .left scope.number unwound :=
  (mem_inside.1 (standing.closure_mem present)).2

theorem entered_lt
    (standing : Standing thread scopes trace)
    {closure tree : Nat}
    (present : record ∈ trace)
    (entered : record.moment = .entered closure tree) :
    closure < trace.length :=
  standing.numbered record present closure (by rw [entered]; rfl)

theorem number_lt
    (standing : Standing thread scopes trace)
    {scope : Scope α}
    (present : scope ∈ scopes) :
    scope.number < trace.length := by
  obtain ⟨earlier, member, entered, _⟩ := (mem_inside.1 (standing.closure_mem present)).1
  exact standing.entered_lt member entered

/-- Nothing is attached to a closure that has not been entered. -/
theorem attached_eq_nil
    (standing : Standing thread scopes trace)
    {closure : Nat}
    (fresh : trace.length ≤ closure) :
    attached closure trace = [] := by
  rw [List.eq_nil_iff_forall_not_mem]
  intro number present
  obtain ⟨before, handing, after, tree, action, split, _, outermost⟩ := mem_attached.1 present
  obtain ⟨earlier, member, entered, _⟩ := (mem_inside.1 (outermost?_mem outermost)).1
  have old := standing.entered_lt (by rw [split]; exact List.mem_append_left _ member) entered
  omega

theorem numbered_concat
    (standing : Standing thread scopes trace)
    (recent : ∀ number, record.moment.number? = some number → number ≤ trace.length) :
    ∀ other ∈ trace ++ [record], ∀ number,
      other.moment.number? = some number → number < (trace ++ [record]).length := by
  intro other present number about
  rw [List.length_append, List.length_singleton]
  rcases List.mem_append.1 present with old | new
  · have := standing.numbered other old number about
    omega
  · rw [List.mem_singleton.1 new] at about
    have := recent number about
    omega

theorem threads_concat
    (standing : Standing thread scopes trace)
    (belongs : Belongs thread scopes record) :
    ∀ other ∈ trace ++ [record], other.thread ≤ (trace ++ [record]).length := by
  intro other present
  rw [List.length_append, List.length_singleton]
  rcases List.mem_append.1 present with old | new
  · have := standing.threads other old
    omega
  · rw [List.mem_singleton.1 new, belongs.thread_eq]
    exact standing.running

theorem running_concat (standing : Standing thread scopes trace) :
    thread ≤ (trace ++ [record]).length + 1 := by
  have := standing.running
  rw [List.length_append]
  omega

theorem waiting_concat
    (standing : Standing thread scopes trace)
    (starts : ∀ scope ∈ scopes, ∀ action ∈ scope.deferred, ∀ tree act,
      record.moment ≠ .started action.1 tree act) :
    ∀ scope ∈ scopes, ∀ action ∈ scope.deferred,
      (∃ earlier ∈ trace ++ [record],
        earlier.moment = .handed action.1 scope.tree action.2 ∧ earlier.thread = thread) ∧
        ∀ earlier ∈ trace ++ [record], ∀ tree act,
          earlier.moment ≠ .started action.1 tree act := by
  intro scope present action held
  obtain ⟨⟨earlier, member, handed⟩, unstarted⟩ := standing.waiting scope present action held
  refine ⟨⟨earlier, List.mem_append_left _ member, handed⟩, ?_⟩
  intro other among tree act
  rcases List.mem_append.1 among with old | new
  · exact unstarted other old tree act
  · rw [List.mem_singleton.1 new]
    exact starts scope present action held tree act

/-- A record that neither opens nor closes a scope, and attaches and starts nothing that
the scopes hold. -/
theorem concat
    (standing : Standing thread scopes trace)
    (belongs : Belongs thread scopes record)
    (admitted : AdmitsMoment trace thread record.moment)
    (recent : ∀ number, record.moment.number? = some number → number ≤ trace.length)
    (enters : ∀ closure tree, record.moment ≠ .entered closure tree)
    (leaves : ∀ closure unwound, record.moment ≠ .left closure unwound)
    (attaches : ∀ scope ∈ scopes, attaches? scope.number trace record = none)
    (starts : ∀ scope ∈ scopes, ∀ action ∈ scope.deferred, ∀ tree act,
      record.moment ≠ .started action.1 tree act) :
    Standing thread scopes (trace ++ [record]) where
  admitted := standing.admitted.append ⟨standing.admits belongs admitted, trivial⟩
  numbered := standing.numbered_concat recent
  threads := standing.threads_concat belongs
  running := standing.running_concat
  stacked := by
    rw [inside_concat_of_quiet, standing.stacked]
    · rw [Option.eq_none_iff_forall_ne_some]
      intro closure entering
      exact enters _ _ (Record.entering?_eq_some.1 entering).1
    · intro closure
      rw [Bool.eq_false_iff]
      intro leaving
      obtain ⟨unwound, left⟩ := Record.leaves_eq_true.1 leaving
      exact leaves closure unwound left
  distinct := standing.distinct
  deferred := by
    intro scope present
    rw [attached_concat, attaches scope present, standing.deferred scope present]
    simp
  waiting := standing.waiting_concat starts
  outermost := standing.outermost

/-- A closure is entered and its scope opened. -/
theorem enter
    (standing : Standing thread scopes trace)
    (belongs : Belongs thread scopes record)
    (tree : Nat)
    (access : Access)
    (entered : record.moment = .entered trace.length tree) :
    Standing thread (⟨trace.length, tree, access, []⟩ :: scopes) (trace ++ [record]) where
  admitted := by
    refine standing.admitted.append ⟨standing.admits belongs ?_, trivial⟩
    rw [entered]
    rfl
  numbered := by
    apply standing.numbered_concat
    intro number about
    rw [entered] at about
    simp only [Moment.number?, Option.some.injEq] at about
    exact Nat.le_of_eq about.symm
  threads := standing.threads_concat belongs
  running := standing.running_concat
  stacked := by
    have fresh : ∀ earlier ∈ trace, ∀ unwound, earlier.moment ≠ .left trace.length unwound := by
      intro earlier present unwound left
      have old := standing.numbered earlier present trace.length (by rw [left]; rfl)
      omega
    have opened := inside_concat_of_entered entered fresh
    rw [belongs.thread_eq] at opened
    rw [opened, standing.stacked, List.map_cons, List.reverse_cons]
    rfl
  distinct := by
    rw [List.map_cons, List.nodup_cons]
    refine ⟨?_, standing.distinct⟩
    intro present
    obtain ⟨scope, member, same⟩ := List.mem_map.1 present
    have old : scope.number < trace.length := standing.number_lt member
    have new : scope.number = trace.length := same
    omega
  deferred := by
    intro scope present
    have none : attaches? scope.number trace record = none := by
      simp [attaches?, entered]
    rw [attached_concat, none, Option.toList_none, List.append_nil]
    rcases List.mem_cons.1 present with rfl | old
    · rw [standing.attached_eq_nil (Nat.le_refl _)]
      rfl
    · exact standing.deferred scope old
  waiting := by
    intro scope present
    rcases List.mem_cons.1 present with rfl | old
    · simp
    · exact standing.waiting_concat (by simp [entered]) scope old
  outermost := List.pairwise_cons.2 ⟨by simp, standing.outermost⟩

/-- The innermost closure is left and its scope closed. -/
theorem leave
    {scope : Scope α}
    {outer : List (Scope α)}
    {unwound : Bool}
    (standing : Standing thread (scope :: outer) trace)
    (belongs : Belongs thread (scope :: outer) record)
    (left : record.moment = .left scope.number unwound) :
    Standing thread outer (trace ++ [record]) where
  admitted := by
    refine standing.admitted.append ⟨standing.admits belongs ?_, trivial⟩
    rw [left]
    exact ⟨scope.tree, standing.closure_mem (by simp)⟩
  numbered := by
    apply standing.numbered_concat
    intro number about
    rw [left] at about
    simp only [Moment.number?, Option.some.injEq] at about
    rw [← about]
    exact Nat.le_of_lt (standing.number_lt (by simp))
  threads := standing.threads_concat belongs
  running := standing.running_concat
  stacked := by
    have others : ∀ other ∈ outer, other.number ≠ scope.number := by
      intro other present same
      have distinct := standing.distinct
      rw [List.map_cons, List.nodup_cons] at distinct
      exact distinct.1 (same ▸ List.mem_map_of_mem present)
    rw [inside_concat_of_left thread trace left, standing.stacked, List.map_cons,
      List.reverse_cons, List.filter_append]
    have kept : ((outer.map Scope.closure).reverse.filter
        fun other => other.1 ≠ scope.number) = (outer.map Scope.closure).reverse := by
      rw [List.filter_eq_self]
      intro closure present
      obtain ⟨other, member, rfl⟩ := List.mem_map.1 (List.mem_reverse.1 present)
      exact decide_eq_true (others other member)
    rw [kept]
    simp [Scope.closure]
  distinct := by
    have distinct := standing.distinct
    rw [List.map_cons, List.nodup_cons] at distinct
    exact distinct.2
  deferred := by
    intro other present
    have none : attaches? other.number trace record = none := by
      simp [attaches?, left]
    rw [attached_concat, none, Option.toList_none, List.append_nil]
    exact standing.deferred other (by simp [present])
  waiting := by
    intro other present
    exact standing.waiting_concat (by simp [left]) other (by simp [present])
  outermost := (List.pairwise_cons.1 standing.outermost).2

/-- The outermost closure of a tree is that of the outermost scope of the tree. -/
theorem outermost?_eq_some
    {inner outer : List (Scope α)}
    {scope : Scope α}
    (standing : Standing thread (inner ++ scope :: outer) trace)
    (different : ∀ other ∈ outer, other.tree ≠ scope.tree) :
    outermost? thread scope.tree trace = some scope.number := by
  have passed : ((outer.map Scope.closure).reverse.find?
      fun closure => closure.2 == scope.tree) = none := by
    rw [List.find?_eq_none]
    intro closure present
    obtain ⟨other, member, rfl⟩ := List.mem_map.1 (List.mem_reverse.1 present)
    simpa [Scope.closure] using different other member
  rw [outermost?, standing.stacked, List.map_append, List.map_cons, List.reverse_append,
    List.reverse_cons, List.append_assoc, List.find?_append, passed]
  simp [Scope.closure]

/-- A thread without scopes of a tree is in no closure of it. -/
theorem outermost?_eq_none
    {tree : Nat}
    (standing : Standing thread scopes trace)
    (different : ∀ scope ∈ scopes, scope.tree ≠ tree) :
    outermost? thread tree trace = none := by
  rw [outermost?, standing.stacked, Option.map_eq_none_iff, List.find?_eq_none]
  intro closure present
  obtain ⟨scope, member, rfl⟩ := List.mem_map.1 (List.mem_reverse.1 present)
  simpa [Scope.closure] using different scope member

/-- An action that finds a scope of its tree is attached to the closure of that scope and
to no other. -/
theorem attaches?_eq
    {inner outer : List (Scope α)}
    {scope : Scope α}
    {number : Nat}
    {action : α}
    (standing : Standing thread (inner ++ scope :: outer) trace)
    (belongs : Belongs thread (inner ++ scope :: outer) record)
    (different : ∀ other ∈ outer, other.tree ≠ scope.tree)
    (handed : record.moment = .handed number scope.tree action)
    (closure : Nat) :
    attaches? closure trace record = if closure = scope.number then some number else none := by
  simp only [attaches?, handed, belongs.thread_eq, standing.outermost?_eq_some different,
    Option.some.injEq, eq_comm]

/-- An action that is handed over within a closure of its tree is attached to a scope. -/
theorem hand
    {tree : Nat}
    {action : α}
    {others : List (Scope α)}
    (standing : Standing thread scopes trace)
    (belongs : Belongs thread scopes record)
    (handed : record.moment = .handed trace.length tree action)
    (attaches : Scope.attach? tree (trace.length, action) scopes = some others) :
    Standing thread others (trace ++ [record]) := by
  obtain ⟨inner, scope, outer, rfl, rfl, different, rfl⟩ := Scope.attach?_eq_some attaches
  have attaching := standing.attaches?_eq belongs different handed
  have apart : ∀ other, other ∈ inner ∨ other ∈ outer → other.number ≠ scope.number := by
    intro other among same
    have distinct := standing.distinct
    rw [List.map_append, List.map_cons, List.nodup_middle, List.nodup_cons] at distinct
    apply distinct.1
    rw [← same, List.mem_append]
    exact among.imp List.mem_map_of_mem List.mem_map_of_mem
  have same : (inner ++ { scope with deferred := scope.deferred ++ [(trace.length, action)] }
      :: outer).map Scope.closure = (inner ++ scope :: outer).map Scope.closure := by
    simp [Scope.closure]
  refine
    { admitted := standing.admitted.append ⟨standing.admits belongs ?_, trivial⟩
      numbered := standing.numbered_concat ?_
      threads := standing.threads_concat belongs
      running := standing.running_concat
      stacked := ?_
      distinct := ?_
      deferred := ?_
      waiting := ?_
      outermost := ?_ }
  · rw [handed]
    rfl
  · intro number about
    rw [handed] at about
    exact Nat.le_of_eq (Option.some.inj about).symm
  · rw [same, inside_concat_of_quiet, standing.stacked]
    · simp [Record.entering?, handed]
    · simp [Record.leaves, handed]
  · simpa using standing.distinct
  · intro other present
    rw [attached_concat, attaching]
    simp only [List.mem_append, List.mem_cons] at present
    have untouched : other ∈ inner ∨ other ∈ outer → other.deferred.map Prod.fst =
        attached other.number trace ++
          (if other.number = scope.number then some trace.length else none).toList := by
      intro among
      have member : other ∈ inner ++ scope :: outer := by
        rw [List.mem_append, List.mem_cons]
        exact among.imp_right Or.inr
      rw [if_neg (apart other among), standing.deferred other member]
      simp
    rcases present with old | rfl | old
    · exact untouched (Or.inl old)
    · rw [if_pos rfl, List.map_append, standing.deferred scope (by simp)]
      rfl
    · exact untouched (Or.inr old)
  · intro other present held act
    have starts : ∀ number home act, record.moment ≠ .started number home act := by
      simp [handed]
    have earlier := standing.waiting_concat fun _ _ action _ => starts action.1
    simp only [List.mem_append, List.mem_cons] at present
    rcases present with old | rfl | old
    · exact earlier other (by simp [old]) held act
    · rcases List.mem_append.1 act with old | new
      · exact earlier scope (by simp) held old
      · rw [List.mem_singleton.1 new]
        refine ⟨⟨record, by simp, handed, belongs.thread_eq⟩, ?_⟩
        intro other among tree act started
        rcases List.mem_append.1 among with old | last
        · have := standing.numbered other old trace.length (by rw [started]; rfl)
          omega
        · rw [List.mem_singleton.1 last, handed] at started
          cases started
    · exact earlier other (by simp [old]) held act
  · have outermost := standing.outermost
    rw [List.pairwise_append, List.pairwise_cons] at outermost ⊢
    obtain ⟨inside, ⟨_, outside⟩, across⟩ := outermost
    refine ⟨inside, ⟨fun other among _ => different other among, outside⟩, ?_⟩
    intro first member other among holding
    rcases List.mem_cons.1 among with rfl | old
    · exact across first member scope (by simp) holding
    · exact across first member other (by simp [old]) holding

/-- A new thread is in no closure. -/
theorem newThread (standing : Standing thread scopes trace) :
    Standing (trace.length + 1) ([] : List (Scope α)) trace where
  admitted := standing.admitted
  numbered := standing.numbered
  threads := standing.threads
  running := Nat.le_refl _
  stacked := by
    rw [List.map_nil, List.reverse_nil, List.eq_nil_iff_forall_not_mem]
    intro closure present
    obtain ⟨record, member, _, same⟩ := (mem_inside.1 present).1
    have := standing.threads record member
    omega
  distinct := List.nodup_nil
  deferred := by simp
  waiting := by simp
  outermost := List.Pairwise.nil

/-- Nothing is attached from other threads to the closures that a thread is in. -/
theorem attachedFrom_elsewhere
    {segment : Trace α ν}
    {scope : Scope α}
    (standing : Standing thread scopes trace)
    (orderly : Orderly trace.length trace segment)
    (elsewhere : ∀ record ∈ segment, trace.length < record.thread)
    (present : scope ∈ scopes) :
    attachedFrom scope.number trace segment = [] := by
  rw [List.eq_nil_iff_forall_not_mem]
  intro number among
  obtain ⟨before, handing, rest, tree, action, rfl, _, outermost⟩ := mem_attachedFrom.1 among
  obtain ⟨entering, member, entered, same⟩ := (mem_inside.1 (outermost?_mem outermost)).1
  have old := standing.number_lt present
  have new := elsewhere handing (by simp)
  rcases List.mem_append.1 member with early | late
  · have := standing.threads entering early
    omega
  · have := orderly.recent (List.mem_append_left _ late) (by rw [entered]; rfl)
    simp only at this
    omega

/-- What happens on other threads leaves a thread where it was. -/
theorem elsewhere
    {other : Nat}
    {others : List (Scope α)}
    {segment : Trace α ν}
    (standing : Standing thread scopes trace)
    (later : Standing other others (trace ++ segment))
    (orderly : Orderly trace.length trace segment)
    (elsewhere : ∀ record ∈ segment, trace.length < record.thread) :
    Standing thread scopes (trace ++ segment) where
  admitted := later.admitted
  numbered := later.numbered
  threads := later.threads
  running := by
    have := standing.running
    rw [List.length_append]
    omega
  stacked := by
    rw [← standing.stacked]
    apply inside_append_of_closed thread
    · intro record present closure tree entered
      exact standing.entered_lt present entered
    · intro record present closure unwound left
      exact orderly.recent present (by rw [left]; rfl)
    · intro record present closure tree entered
      exact orderly.closed present entered
  distinct := standing.distinct
  deferred := by
    intro scope present
    rw [attached, attachedFrom_append, List.nil_append,
      standing.attachedFrom_elsewhere orderly elsewhere present, List.append_nil]
    exact standing.deferred scope present
  waiting := by
    intro scope present action held
    obtain ⟨⟨earlier, member, handed, here⟩, unstarted⟩ :=
      standing.waiting scope present action held
    have old := standing.numbered earlier member action.1 (by rw [handed]; rfl)
    refine ⟨⟨earlier, List.mem_append_left _ member, handed, here⟩, ?_⟩
    intro record among tree act started
    rcases List.mem_append.1 among with early | late
    · exact unstarted record early tree act started
    · have := orderly.recent late (by rw [started]; rfl)
      omega
  outermost := standing.outermost

end Standing
end ManagedTree
