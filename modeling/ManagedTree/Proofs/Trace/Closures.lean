import ManagedTree.Ledger

/-!
# Closures in a trace

The closures that a thread is in are those that it has entered and not left.  An
action that is handed over is attached to the outermost closure of its tree that
the thread is in.  Both are read off the trace alone.
-/

namespace ManagedTree

variable {α ν : Type}

namespace Record

/-- The closure that a thread enters, with its tree. -/
def entering? (thread : Nat) (record : Record α ν) : Option (Nat × Nat) :=
  match record.moment with
  | .entered closure tree => if record.thread = thread then some (closure, tree) else none
  | _ => none

/-- Whether a closure is left. -/
def leaves (closure : Nat) (record : Record α ν) : Bool :=
  match record.moment with
  | .left other _ => other == closure
  | _ => false

theorem entering?_eq_some
    {thread : Nat}
    {record : Record α ν}
    {closure : Nat × Nat} :
    record.entering? thread = some closure ↔
      record.moment = .entered closure.1 closure.2 ∧ record.thread = thread := by
  obtain ⟨number, tree⟩ := closure
  unfold entering?
  cases record.moment <;> simp
  exact and_comm

theorem leaves_eq_true
    {closure : Nat}
    {record : Record α ν} :
    record.leaves closure = true ↔ ∃ unwound, record.moment = .left closure unwound := by
  unfold leaves
  cases record.moment <;> simp

end Record

namespace Trace

/-- The closures that a thread has entered and not left, with their trees, outermost
first. -/
def inside (thread : Nat) (trace : Trace α ν) : List (Nat × Nat) :=
  (trace.filterMap (Record.entering? thread)).filter fun closure =>
    !trace.any (Record.leaves closure.1)

/-- The outermost closure of a tree that a thread is in. -/
def outermost? (thread tree : Nat) (trace : Trace α ν) : Option Nat :=
  ((inside thread trace).find? fun closure => closure.2 == tree).map Prod.fst

/-- The number of the action that a record attaches to a closure, given what happened
before. -/
def attaches? (closure : Nat) (past : Trace α ν) (record : Record α ν) : Option Nat :=
  match record.moment with
  | .handed number tree _ =>
    if outermost? record.thread tree past = some closure then some number else none
  | _ => none

/-- The actions that records attach to a closure, given what happened before them. -/
def attachedFrom (closure : Nat) : Trace α ν → Trace α ν → List Nat
  | _, [] => []
  | past, record :: future =>
    (attaches? closure past record).toList ++ attachedFrom closure (past ++ [record]) future

/-- The actions that were handed over while a closure was the outermost one of their
tree, in order. -/
def attached (closure : Nat) (trace : Trace α ν) : List Nat :=
  attachedFrom closure [] trace

/-! ## The closures that a thread is in -/

theorem mem_inside
    {thread : Nat}
    {trace : Trace α ν}
    {closure : Nat × Nat} :
    closure ∈ inside thread trace ↔
      (∃ record ∈ trace,
        record.moment = .entered closure.1 closure.2 ∧ record.thread = thread) ∧
      ∀ record ∈ trace, ∀ unwound, record.moment ≠ .left closure.1 unwound := by
  simp only [inside, List.mem_filter, List.mem_filterMap, Record.entering?_eq_some,
    Bool.not_eq_true', List.any_eq_false, Record.leaves_eq_true, not_exists]

@[simp] theorem inside_nil (thread : Nat) : inside thread ([] : Trace α ν) = [] := rfl

/-- Records that enter and leave nothing do not matter. -/
theorem inside_concat_of_quiet
    {thread : Nat}
    {record : Record α ν}
    (trace : Trace α ν)
    (enters : record.entering? thread = none)
    (leaves : ∀ closure, record.leaves closure = false) :
    inside thread (trace ++ [record]) = inside thread trace := by
  simp [inside, List.filterMap_append, enters, leaves]

/-- A closure that is entered is the innermost one. -/
theorem inside_concat_of_entered
    {trace : Trace α ν}
    {record : Record α ν}
    {closure tree : Nat}
    (entered : record.moment = .entered closure tree)
    (fresh : ∀ earlier ∈ trace, ∀ unwound, earlier.moment ≠ .left closure unwound) :
    inside record.thread (trace ++ [record]) =
      inside record.thread trace ++ [(closure, tree)] := by
  have leaves : ∀ other, record.leaves other = false := by
    intro other
    simp [Record.leaves, entered]
  have enters : record.entering? record.thread = some (closure, tree) :=
    Record.entering?_eq_some.2 ⟨entered, rfl⟩
  have absent : trace.any (Record.leaves closure) = false := by
    simp only [List.any_eq_false, Record.leaves_eq_true, not_exists]
    exact fresh
  simp [inside, List.filterMap_append, List.filter_append, enters, leaves, absent]

/-- A closure that is left is no longer there, and the others stay. -/
theorem inside_concat_of_left
    {record : Record α ν}
    {closure : Nat}
    {unwound : Bool}
    (thread : Nat)
    (trace : Trace α ν)
    (left : record.moment = .left closure unwound) :
    inside thread (trace ++ [record]) =
      (inside thread trace).filter fun other => other.1 ≠ closure := by
  have enters : record.entering? thread = none := by
    simp [Record.entering?, left]
  have leaves : ∀ other, record.leaves other = (closure == other) := by
    intro other
    simp [Record.leaves, left]
  simp only [inside, List.filterMap_append, List.filterMap_cons, List.filterMap_nil, enters,
    List.append_nil, List.any_append, List.any_cons, List.any_nil, leaves, Bool.or_false,
    List.filter_filter]
  apply List.filter_congr
  intro other _
  by_cases same : closure = other.1
  · simp [same]
  · simp [same, Ne.symm same]

/-- A segment in which new closures are entered and left again does not matter. -/
theorem inside_append_of_closed
    {trace segment : Trace α ν}
    (thread : Nat)
    (older : ∀ record ∈ trace, ∀ closure tree,
      record.moment = .entered closure tree → closure < trace.length)
    (newer : ∀ record ∈ segment, ∀ closure unwound,
      record.moment = .left closure unwound → trace.length ≤ closure)
    (closed : ∀ record ∈ segment, ∀ closure tree,
      record.moment = .entered closure tree →
        ∃ later ∈ segment, ∃ unwound, later.moment = .left closure unwound) :
    inside thread (trace ++ segment) = inside thread trace := by
  have stays : (segment.filterMap (Record.entering? thread)).filter
      (fun closure => !(trace ++ segment).any (Record.leaves closure.1)) = [] := by
    rw [List.filter_eq_nil_iff]
    intro closure present
    obtain ⟨record, member, enters⟩ := List.mem_filterMap.1 present
    obtain ⟨later, present, unwound, left⟩ :=
      closed record member closure.1 closure.2 (Record.entering?_eq_some.1 enters).1
    have leaves : later.leaves closure.1 = true := Record.leaves_eq_true.2 ⟨unwound, left⟩
    simp only [Bool.not_eq_true', Bool.not_eq_false, List.any_append, Bool.or_eq_true]
    exact Or.inr (List.any_eq_true.2 ⟨later, present, leaves⟩)
  rw [inside, List.filterMap_append, List.filter_append, stays, List.append_nil]
  apply List.filter_congr
  intro closure present
  obtain ⟨record, member, enters⟩ := List.mem_filterMap.1 present
  have old : closure.1 < trace.length :=
    older record member closure.1 closure.2 (Record.entering?_eq_some.1 enters).1
  have kept : segment.any (Record.leaves closure.1) = false := by
    simp only [List.any_eq_false, Record.leaves_eq_true, not_exists]
    intro later present unwound left
    have new := newer later present closure.1 unwound left
    omega
  rw [List.any_append, kept, Bool.or_false]

theorem outermost?_mem
    {thread tree closure : Nat}
    {trace : Trace α ν}
    (found : outermost? thread tree trace = some closure) :
    (closure, tree) ∈ inside thread trace := by
  obtain ⟨⟨number, other⟩, first, rfl⟩ := Option.map_eq_some_iff.1 found
  have same : other = tree := by simpa using List.find?_some first
  subst same
  exact List.mem_of_find?_eq_some first

/-- A thread that is in no closure of a tree has no scope of it open. -/
theorem not_mem_of_outermost?_eq_none
    {thread tree : Nat}
    {trace : Trace α ν}
    (outside : outermost? thread tree trace = none) :
    tree ∉ (inside thread trace).map Prod.snd := by
  rw [outermost?, Option.map_eq_none_iff, List.find?_eq_none] at outside
  intro present
  obtain ⟨closure, member, same⟩ := List.mem_map.1 present
  exact outside closure member (beq_iff_eq.2 same)

/-! ## The actions attached to a closure -/

theorem attachedFrom_append
    (closure : Nat)
    (past segment future : Trace α ν) :
    attachedFrom closure past (segment ++ future) =
      attachedFrom closure past segment ++ attachedFrom closure (past ++ segment) future := by
  induction segment generalizing past with
  | nil => simp [attachedFrom]
  | cons record segment inductionHypothesis =>
      simp [attachedFrom, inductionHypothesis, List.append_assoc]

@[simp] theorem attached_nil (closure : Nat) : attached closure ([] : Trace α ν) = [] := rfl

theorem attached_concat
    (closure : Nat)
    (trace : Trace α ν)
    (record : Record α ν) :
    attached closure (trace ++ [record]) =
      attached closure trace ++ (attaches? closure trace record).toList := by
  simp [attached, attachedFrom_append, attachedFrom]

theorem attaches?_eq_some
    {closure number : Nat}
    {past : Trace α ν}
    {record : Record α ν} :
    attaches? closure past record = some number ↔
      ∃ tree action, record.moment = .handed number tree action ∧
        outermost? record.thread tree past = some closure := by
  unfold attaches?
  cases record.moment with
  | handed other tree action =>
      simp only [Option.ite_none_right_eq_some, Option.some.injEq, Moment.handed.injEq]
      constructor
      · rintro ⟨outermost, rfl⟩
        exact ⟨tree, action, ⟨rfl, rfl, rfl⟩, outermost⟩
      · rintro ⟨_, _, ⟨rfl, rfl, rfl⟩, outermost⟩
        exact ⟨outermost, rfl⟩
  | _ => simp

theorem mem_attachedFrom
    {closure number : Nat}
    {past future : Trace α ν} :
    number ∈ attachedFrom closure past future ↔
      ∃ before record after tree action, future = before ++ record :: after ∧
        record.moment = .handed number tree action ∧
        outermost? record.thread tree (past ++ before) = some closure := by
  induction future generalizing past with
  | nil => simp [attachedFrom]
  | cons head future inductionHypothesis =>
      simp only [attachedFrom, List.mem_append, Option.mem_toList, attaches?_eq_some,
        inductionHypothesis]
      constructor
      · rintro (⟨tree, action, handed, outermost⟩ |
          ⟨before, record, after, tree, action, rfl, handed, outermost⟩)
        · exact ⟨[], head, future, tree, action, rfl, handed, by simpa using outermost⟩
        · exact ⟨head :: before, record, after, tree, action, rfl, handed,
            by simpa using outermost⟩
      · rintro ⟨before, record, after, tree, action, split, handed, outermost⟩
        cases before with
        | nil =>
            obtain ⟨rfl, rfl⟩ := List.cons_eq_cons.1 split
            exact Or.inl ⟨tree, action, handed, by simpa using outermost⟩
        | cons first before =>
            obtain ⟨rfl, rfl⟩ := List.cons_eq_cons.1 split
            exact Or.inr ⟨before, record, after, tree, action, rfl, handed,
              by simpa using outermost⟩

/-- What is attached to a closure was handed over while the closure was the outermost
one of its tree. -/
theorem mem_attached
    {closure number : Nat}
    {trace : Trace α ν} :
    number ∈ attached closure trace ↔
      ∃ before record after tree action, trace = before ++ record :: after ∧
        record.moment = .handed number tree action ∧
        outermost? record.thread tree before = some closure := by
  rw [attached, mem_attachedFrom]
  simp only [List.nil_append]

end Trace
end ManagedTree
