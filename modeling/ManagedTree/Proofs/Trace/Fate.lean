import ManagedTree.Proofs.Trace.Order

/-!
# The fate of an action

In an orderly trace an action that is handed over outside the closures of its tree
runs at once.  Otherwise it runs once after the outermost closure of its tree is
left normally and before the call of that closure returns, and never when that
closure unwinds.
-/

namespace ManagedTree

variable {α ν : Type}

namespace Record

/-- Whether an action starts. -/
def starts (number : Nat) (record : Record α ν) : Bool :=
  match record.moment with
  | .started other _ _ => other == number
  | _ => false

theorem starts_eq_true
    {number : Nat}
    {record : Record α ν} :
    record.starts number = true ↔
      ∃ tree action, record.moment = .started number tree action := by
  unfold starts
  cases record.moment <;> simp

/-- Whether an action fails to return. -/
def fails (record : Record α ν) : Bool :=
  match record.moment with
  | .ended _ failed => failed
  | _ => false

theorem fails_eq_true
    {record : Record α ν} :
    record.fails = true ↔ ∃ number, record.moment = .ended number true := by
  unfold fails
  cases record.moment <;> simp

end Record

namespace Trace

/-- How often an action starts. -/
def starts (number : Nat) (trace : Trace α ν) : Nat :=
  trace.countP (Record.starts number)

/-- All actions that ended did so by returning. -/
def Returning (trace : Trace α ν) : Prop :=
  ∀ record ∈ trace, ∀ number, record.moment ≠ .ended number true

theorem returning_iff
    {trace : Trace α ν} :
    Returning trace ↔ trace.any Record.fails = false := by
  simp only [Returning, List.any_eq_false, Record.fails_eq_true, not_exists, ne_eq]

instance (trace : Trace α ν) : Decidable (Returning trace) :=
  decidable_of_iff _ returning_iff.symm

/-- What becomes of an action that a record hands over, by the closure that it is attached
to and by what happens afterwards. -/
inductive Fate
    (number tree : Nat) (action : α) (past : Trace α ν) (record : Record α ν) :
    Option Nat → Trace α ν → Prop
  /-- It starts next, from the trees as they are, and never again. -/
  | atOnce {start : Record α ν} {rest : Trace α ν} :
      start.moment = .started number tree action →
      start.trees = record.trees →
      starts number rest = 0 →
      Fate number tree action past record none (start :: rest)
  /-- The closure unwinds, and the action never starts. -/
  | dropped {closure : Nat} {leaving : Record α ν} {inner rest : Trace α ν} :
      leaving.moment = .left closure true →
      starts number inner = 0 →
      starts number rest = 0 →
      Fate number tree action past record (some closure) (inner ++ leaving :: rest)
  /-- The closure is left normally, and the action starts once, in its turn among those that
  were attached to the closure, from the trees as the closure and those before it left them,
  and before the call of the closure returns. -/
  | deferred {closure : Nat} {leaving back : Record α ν} {inner block rest : Trace α ν} :
      leaving.moment = .left closure false →
      starts number inner = 0 →
      number ∈ attached closure (past ++ record :: inner) →
      InTurn leaving.trees (attached closure (past ++ record :: inner)) block →
      starts number block = 1 →
      back.moment = .returned closure →
      starts number rest = 0 →
      Fate number tree action past record (some closure)
        (inner ++ leaving :: (block ++ back :: rest))

/-! ## Counting starts -/

theorem starts_eq_zero
    {number : Nat}
    {trace : Trace α ν} :
    starts number trace = 0 ↔
      ∀ before record after, trace = before ++ record :: after →
        ∀ tree action, record.moment ≠ .started number tree action := by
  rw [starts, List.countP_eq_zero]
  constructor
  · rintro none before record after rfl tree action started
    exact none record (by simp) (Record.starts_eq_true.2 ⟨tree, action, started⟩)
  · intro none record present starting
    obtain ⟨before, after, split⟩ := List.append_of_mem present
    obtain ⟨tree, action, started⟩ := Record.starts_eq_true.1 starting
    exact none before record after split tree action started

theorem starts_append
    (number : Nat)
    (trace more : Trace α ν) :
    starts number (trace ++ more) = starts number trace + starts number more :=
  List.countP_append

theorem starts_le_cons
    (number : Nat)
    (record : Record α ν)
    (rest : Trace α ν) :
    starts number rest ≤ starts number (record :: rest) := by
  rw [starts, starts, List.countP_cons]
  omega

theorem starts_cons_of_started
    {number tree : Nat}
    {action : α}
    {record : Record α ν}
    (rest : Trace α ν)
    (started : record.moment = .started number tree action) :
    starts number (record :: rest) = starts number rest + 1 :=
  List.countP_cons_of_pos (Record.starts_eq_true.2 ⟨tree, action, started⟩)

theorem starts_cons_of_not_starts
    {number : Nat}
    {record : Record α ν}
    (rest : Trace α ν)
    (different : record.starts number = false) :
    starts number (record :: rest) = starts number rest :=
  List.countP_cons_of_neg (by simp [different])

/-- Actions that run in turn start. -/
theorem InTurn.starts_pos
    {number : Nat}
    {numbers : List Nat}
    {trees : List Node}
    {block : Trace α ν}
    (turns : InTurn trees numbers block)
    (present : number ∈ numbers) :
    0 < starts number block := by
  induction turns with
  | nil => cases present
  | @cons first tree numbers action start stop middle rest started _ _ inductionHypothesis =>
      rcases List.mem_cons.1 present with rfl | later
      · rw [starts_cons_of_started _ started]
        omega
      · have positive := inductionHypothesis later
        have first := starts_le_cons number start (middle ++ stop :: rest)
        have last := starts_le_cons number stop rest
        rw [starts_append] at first
        omega

namespace Admitted

variable {before after trace : Trace α ν} {record : Record α ν} {number : Nat}

/-- An action starts after it was handed over. -/
theorem lt_of_started
    {tree : Nat}
    {action : α}
    (admitted : Admitted [] (before ++ record :: after))
    (started : record.moment = .started number tree action) :
    number < before.length := by
  have admits := (Throughout.at_split admitted).2
  rw [started, List.nil_append] at admits
  obtain ⟨earlier, member, handed, _⟩ := admits.handed
  obtain ⟨first, second, rfl⟩ := List.append_of_mem member
  have whole : Admitted [] (first ++ earlier :: (second ++ record :: after)) := by
    simpa using admitted
  have place : number = first.length := whole.handed_at handed
  rw [place, List.length_append, List.length_cons]
  omega

/-- An action does not start before it is handed over. -/
theorem starts_before_handed
    {tree : Nat}
    {action : α}
    (admitted : Admitted [] (before ++ record :: after))
    (handed : record.moment = .handed number tree action) :
    starts number before = 0 := by
  rw [starts_eq_zero]
  rintro first start second rfl home act started
  have whole : Admitted [] (first ++ start :: (second ++ record :: after)) := by
    simpa using admitted
  have earlier := whole.lt_of_started started
  have place : number = (first ++ start :: second).length := admitted.handed_at handed
  rw [place, List.length_append] at earlier
  omega

/-- An action starts once at most. -/
theorem starts_le_one
    (number : Nat)
    (admitted : Admitted [] trace) :
    starts number trace ≤ 1 := by
  induction trace using List.reverseRecOn with
  | nil => exact Nat.zero_le _
  | append_singleton trace record inductionHypothesis =>
      have earlier : Admitted [] trace := Throughout.left admitted fun _ _ _ _ holds => holds
      have bound := inductionHypothesis earlier
      rw [starts_append]
      by_cases starting : record.starts number = true
      · obtain ⟨tree, action, started⟩ := Record.starts_eq_true.1 starting
        have admits := (Throughout.at_split admitted).2
        rw [started, List.nil_append] at admits
        have none : starts number trace = 0 := by
          rw [starts_eq_zero]
          rintro first start second rfl home act again
          exact admits.unstarted start (by simp) home act again
        rw [none, starts_cons_of_started [] started]
        exact Nat.le_refl _
      · have none : starts number [record] = 0 := by
          rw [starts, List.countP_eq_zero]
          simpa using starting
        omega

/-- An action starts at one place only. -/
theorem started_unique
    {other : Record α ν}
    {tree home : Nat}
    {action act : α}
    (admitted : Admitted [] trace)
    (present : record ∈ trace)
    (among : other ∈ trace)
    (started : record.moment = .started number tree action)
    (startedAgain : other.moment = .started number home act) :
    record = other := by
  have once := admitted.starts_le_one number
  have starting : record.starts number = true := Record.starts_eq_true.2 ⟨tree, action, started⟩
  have startingAgain : other.starts number = true :=
    Record.starts_eq_true.2 ⟨home, act, startedAgain⟩
  obtain ⟨first, second, rfl⟩ := List.append_of_mem present
  rw [starts, List.countP_append, List.countP_cons_of_pos starting] at once
  have absent : ∀ part : Trace α ν, part.countP (Record.starts number) = 0 → other ∉ part :=
    fun part none member => List.countP_eq_zero.1 none other member startingAgain
  rcases List.mem_append.1 among with early | late
  · exact absurd early (absent first (by omega))
  · rcases List.mem_cons.1 late with same | later
    · exact same.symm
    · exact absurd later (absent second (by omega))

/-- A closure has not been left before it is left. -/
theorem not_left_before
    {closure : Nat}
    {unwound : Bool}
    (admitted : Admitted [] (before ++ record :: after))
    (left : record.moment = .left closure unwound) :
    ∀ earlier ∈ before, ∀ other, earlier.moment ≠ .left closure other := by
  have admits := (Throughout.at_split admitted).2
  rw [left, List.nil_append] at admits
  obtain ⟨tree, inside⟩ := admits
  exact (mem_inside.1 inside).2

/-- A closure is not left again. -/
theorem not_left_after
    {closure : Nat}
    {unwound : Bool}
    (admitted : Admitted [] (before ++ record :: after))
    (left : record.moment = .left closure unwound) :
    ∀ later ∈ after, ∀ other, later.moment ≠ .left closure other := by
  intro later present other leftAgain
  obtain ⟨first, second, rfl⟩ := List.append_of_mem present
  have whole : Admitted [] ((before ++ record :: first) ++ later :: second) := by
    simpa using admitted
  exact whole.not_left_before leftAgain record (by simp) unwound left

end Admitted
namespace Orderly

variable
  {before after trace : Trace α ν} {record : Record α ν} {number tree closure : Nat} {action : α}

/-- An action that starts was handed over on the same thread. -/
theorem handed_of_started
    (orderly : Orderly 0 [] (before ++ record :: after))
    (started : record.moment = .started number tree action) :
    ∃ earlier ∈ before, earlier.moment = .handed number tree action ∧
      earlier.thread = record.thread := by
  have admits := (Throughout.at_split orderly).admitted.2
  rw [started, List.nil_append] at admits
  exact admits.handed

/-- What starts is what was handed over. -/
theorem same_of_started
    {home : Nat}
    {act : α}
    {start : Record α ν}
    {past future : Trace α ν}
    (orderly : Orderly 0 [] trace)
    (happened : trace = before ++ record :: after)
    (handed : record.moment = .handed number tree action)
    (starting : trace = past ++ start :: future)
    (started : start.moment = .started number home act) :
    home = tree ∧ act = action := by
  have whole := orderly
  rw [starting] at whole
  obtain ⟨earlier, member, again, _⟩ := whole.handed_of_started started
  obtain ⟨first, second, rfl⟩ := List.append_of_mem member
  have place : before ++ record :: after = first ++ earlier :: (second ++ start :: future) := by
    rw [← happened, starting]
    simp
  rw [happened] at orderly
  obtain ⟨-, rfl, -⟩ := orderly.admitted.handed_unique place handed again
  obtain ⟨-, rfl, rfl⟩ := Moment.handed.inj (handed.symm.trans again)
  exact ⟨rfl, rfl⟩

/-- When an action starts, its thread is in no closure of its tree. -/
theorem outside_of_started
    (orderly : Orderly 0 [] (before ++ record :: after))
    (started : record.moment = .started number tree action) :
    outermost? record.thread tree before = none := by
  have admits := (Throughout.at_split orderly).admitted.2
  rw [started, List.nil_append] at admits
  exact admits.outside

/-- An action that is attached to a closure starts after the closure is left normally. -/
theorem left_before_started
    (orderly : Orderly 0 [] (before ++ record :: after))
    (started : record.moment = .started number tree action)
    (present : number ∈ attached closure before) :
    ∃ earlier ∈ before, earlier.moment = .left closure false := by
  have admits := (Throughout.at_split orderly).admitted.2
  rw [started, List.nil_append] at admits
  exact admits.left closure present

/-- The closure that an action is attached to is left afterwards. -/
theorem left_after_handed
    (orderly : Orderly 0 [] (before ++ record :: after))
    (handed : record.moment = .handed number tree action)
    (outermost : outermost? record.thread tree before = some closure) :
    ∃ inner leaving rest unwound, after = inner ++ leaving :: rest ∧
      leaving.moment = .left closure unwound := by
  obtain ⟨⟨entering, member, entered, _⟩, unleft⟩ :=
    mem_inside.1 (outermost?_mem outermost)
  obtain ⟨first, second, rfl⟩ := List.append_of_mem member
  have whole : Orderly 0 [] (first ++ entering :: (second ++ record :: after)) := by
    simpa using orderly
  have follows := (Throughout.at_split whole).follows
  simp only [Follows, entered] at follows
  obtain ⟨leaving, among, unwound, left⟩ := follows
  rcases List.mem_append.1 among with early | late
  · exact absurd left (unleft leaving (by simp [early]) unwound)
  · rcases List.mem_cons.1 late with rfl | later
    · rw [handed] at left
      cases left
    · obtain ⟨inner, rest, rfl⟩ := List.append_of_mem later
      exact ⟨inner, leaving, rest, unwound, rfl, left⟩

/-- An action that is handed over runs at once, or waits for a closure and is dropped or
runs when the closure is left. -/
theorem fate
    (orderly : Orderly 0 [] (before ++ record :: after))
    (returning : Returning (before ++ record :: after))
    (handed : record.moment = .handed number tree action) :
    Fate number tree action before record (outermost? record.thread tree before) after := by
  have once := orderly.admitted.starts_le_one number
  cases outermost : outermost? record.thread tree before with
  | none =>
      have follows := (Throughout.at_split orderly).follows
      simp only [Follows, handed, List.nil_append] at follows
      obtain ⟨start, rest, rfl, started, treesThen⟩ := follows outermost
      refine .atOnce started treesThen ?_
      have passed := starts_le_cons number record (start :: rest)
      rw [starts_append] at once
      rw [starts_cons_of_started rest started] at passed
      omega
  | some closure =>
      obtain ⟨inner, leaving, rest, unwound, rfl, left⟩ :=
        orderly.left_after_handed handed outermost
      have attachedHere : ∀ more, number ∈ attached closure (before ++ record :: more) :=
        fun more => mem_attached.2 ⟨before, record, more, tree, action, rfl, handed, outermost⟩
      have split : before ++ record :: (inner ++ leaving :: rest) =
          (before ++ record :: inner) ++ leaving :: rest := by
        simp
      rw [split] at orderly returning
      have unstarted : starts number inner = 0 := by
        rw [starts_eq_zero]
        rintro first start second rfl home act started
        have whole : Orderly 0 []
            ((before ++ record :: first) ++ start :: (second ++ leaving :: rest)) := by
          simpa using orderly
        obtain ⟨earlier, member, leftBefore⟩ :=
          whole.left_before_started started (attachedHere first)
        refine orderly.admitted.not_left_before left earlier ?_ false leftBefore
        rw [List.append_cons, ← List.append_assoc, ← List.append_cons]
        exact List.mem_append_left _ member
      cases unwound with
      | true =>
          refine .dropped left unstarted ?_
          rw [starts_eq_zero]
          rintro first start second rfl home act started
          have whole : Orderly 0 []
              ((before ++ record :: (inner ++ leaving :: first)) ++ start :: second) := by
            simpa using orderly
          obtain ⟨earlier, member, leftBefore⟩ :=
            whole.left_before_started started (attachedHere _)
          rw [← List.cons_append, ← List.append_assoc] at member
          rcases List.mem_append.1 member with early | late
          · exact orderly.admitted.not_left_before left earlier early false leftBefore
          · rcases List.mem_cons.1 late with rfl | later
            · rw [left] at leftBefore
              cases leftBefore
            · exact orderly.admitted.not_left_after left earlier (by simp [later]) false
                leftBefore
      | false =>
          have follows := (Throughout.at_split orderly).follows
          simp only [Follows, left, List.nil_append] at follows
          rcases follows with ⟨block, back, last, rfl, returned, turns⟩ |
            ⟨other, _, later, member, failed⟩
          · have positive := turns.starts_pos (attachedHere inner)
            have passed := starts_le_cons number leaving (block ++ back :: last)
            have passedBack := starts_le_cons number back last
            rw [split, starts_append] at once
            rw [starts_append] at passed
            exact .deferred left unstarted (attachedHere inner) turns (by omega) returned
              (by omega)
          · exact absurd failed (returning later (by simp [member]) other)

end Orderly

end Trace
end ManagedTree
