import ManagedTree.Proofs.Trace.Closures
import Mathlib.Data.List.Induction

/-!
# Orderly traces

In an orderly trace every record is admitted by those before it, and followed by
what it calls for: a closure that is entered is left, the actions attached to a
closure that is left normally run in turn before its call returns, and an action
that is handed over outside the closures of its tree starts at once.
-/

namespace ManagedTree

variable {α ν : Type}

/-- The record of another moment at which the thread stands where it does. -/
def Record.beside (record : Record α ν) (moment : Moment α ν) : Record α ν :=
  { record with moment }

namespace Trace

/-- An action starts only once and only on the thread that handed it over before, while that
thread is in no closure of its tree; when it is attached to a closure, that closure was left
normally. -/
structure AdmitsStart
    (past : Trace α ν) (thread number tree : Nat) (action : α) : Prop where
  /-- The action was handed over on the same thread. -/
  handed : ∃ earlier ∈ past, earlier.moment = .handed number tree action ∧ earlier.thread = thread
  /-- It has not started. -/
  unstarted : ∀ earlier ∈ past, ∀ other act, earlier.moment ≠ .started number other act
  /-- The thread is in no closure of the tree. -/
  outside : outermost? thread tree past = none
  /-- The closure that it is attached to was left normally. -/
  left : ∀ closure, number ∈ attached closure past →
    ∃ earlier ∈ past, earlier.moment = .left closure false

/-- Whether a moment may come next on a thread. -/
def AdmitsMoment (past : Trace α ν) (thread : Nat) : Moment α ν → Prop
  | .entered closure _ => closure = past.length
  | .left closure _ => ∃ tree, (closure, tree) ∈ inside thread past
  | .handed number _ _ => number = past.length
  | .started number tree action => AdmitsStart past thread number tree action
  | _ => True

/-- Whether a record may come next: the open scopes are those of the closures that the
thread is in. -/
def Admits (past : Trace α ν) (record : Record α ν) : Prop :=
  record.stack = (inside record.thread past).map Prod.snd ∧
    AdmitsMoment past record.thread record.moment

/-- Actions run one after another, each from the trees that the one before it left, and
all of them return. -/
inductive InTurn : List Node → List Nat → Trace α ν → Prop
  | nil {trees : List Node} : InTurn trees [] []
  | cons
      {number tree : Nat} {numbers : List Nat} {action : α}
      {start stop : Record α ν} {middle rest : Trace α ν} :
      start.moment = .started number tree action →
      stop.moment = .ended number false →
      InTurn stop.trees numbers rest →
      InTurn start.trees (number :: numbers) (start :: (middle ++ stop :: rest))

/-- What follows when a closure is left normally: the actions attached to it run in turn
and its call returns, unless one of them fails to return. -/
def Answers (closure : Nat) (past : Trace α ν) (trees : List Node) (future : Trace α ν) : Prop :=
  (∃ block back rest, future = block ++ back :: rest ∧
    back.moment = .returned closure ∧ InTurn trees (attached closure past) block) ∨
  ∃ number ∈ attached closure past, ∃ later ∈ future, later.moment = .ended number true

/-- What a record calls for comes after it. -/
def Follows (past : Trace α ν) (record : Record α ν) (future : Trace α ν) : Prop :=
  match record.moment with
  | .entered closure _ => ∃ later ∈ future, ∃ unwound, later.moment = .left closure unwound
  | .left closure false => Answers closure past record.trees future
  | .handed number tree action =>
    outermost? record.thread tree past = none →
      ∃ next rest, future = next :: rest ∧ next.moment = .started number tree action ∧
        next.trees = record.trees
  | _ => True

/-- Every record of a segment stands in a relation to what is before and after it. -/
def Throughout (P : Trace α ν → Record α ν → Trace α ν → Prop) : Trace α ν → Trace α ν → Prop
  | _, [] => True
  | past, record :: future => P past record future ∧ Throughout P (past ++ [record]) future

/-- Every record of a segment is admitted. -/
abbrev Admitted (past segment : Trace α ν) : Prop :=
  Throughout (fun past record _ => Admits past record) past segment

/-- A record is admitted by those before it, is about no closure or action older than a
floor, and is followed by what it calls for. -/
structure InOrder
    (floor : Nat) (past : Trace α ν) (record : Record α ν) (future : Trace α ν) : Prop where
  /-- The record is admitted. -/
  admitted : Admits past record
  /-- What it is about is not older than the floor. -/
  recent : ∀ number, record.moment.number? = some number → floor ≤ number
  /-- What it calls for comes. -/
  follows : Follows past record future

/-- The records of a segment are in order. -/
abbrev Orderly (floor : Nat) (past segment : Trace α ν) : Prop :=
  Throughout (InOrder floor) past segment

/-! ## What follows stays there -/

theorem Answers.append
    {closure : Nat}
    {past future : Trace α ν}
    {trees : List Node}
    (answers : Answers closure past trees future)
    (more : Trace α ν) :
    Answers closure past trees (future ++ more) := by
  rcases answers with ⟨block, back, rest, rfl, returned, turns⟩ |
    ⟨number, present, later, member, failed⟩
  · exact Or.inl ⟨block, back, rest ++ more, by simp, returned, turns⟩
  · exact Or.inr ⟨number, present, later, List.mem_append_left _ member, failed⟩

theorem Follows.append
    {past future : Trace α ν}
    {record : Record α ν}
    (follows : Follows past record future)
    (more : Trace α ν) :
    Follows past record (future ++ more) := by
  unfold Follows at follows ⊢
  cases moment : record.moment with
  | entered closure tree =>
      simp only [moment] at follows ⊢
      obtain ⟨later, member, left⟩ := follows
      exact ⟨later, List.mem_append_left _ member, left⟩
  | left closure unwound =>
      cases unwound with
      | false =>
          simp only [moment] at follows ⊢
          exact follows.append more
      | true => trivial
  | handed number tree action =>
      simp only [moment] at follows ⊢
      intro outside
      obtain ⟨next, rest, rfl, started⟩ := follows outside
      exact ⟨next, rest ++ more, rfl, started⟩
  | _ => trivial

namespace Throughout

variable {P Q : Trace α ν → Record α ν → Trace α ν → Prop} {past segment more : Trace α ν}

/-- Segments may follow one another when what is true of a record stays true as more
follows it. -/
theorem append
    (stays : ∀ past record future more,
      P past record future → P past record (future ++ more))
    (first : Throughout P past segment)
    (second : Throughout P (past ++ segment) more) :
    Throughout P past (segment ++ more) := by
  induction segment generalizing past with
  | nil => simpa using second
  | cons record segment inductionHypothesis =>
      obtain ⟨holds, rest⟩ := first
      refine ⟨stays _ _ _ more holds, inductionHypothesis rest ?_⟩
      simpa using second

theorem mono
    (throughout : Throughout P past segment)
    (weaker : ∀ past record future, P past record future → Q past record future) :
    Throughout Q past segment := by
  induction segment generalizing past with
  | nil => trivial
  | cons record segment inductionHypothesis =>
      exact ⟨weaker _ _ _ throughout.1, inductionHypothesis throughout.2⟩

theorem single
    {record : Record α ν}
    (holds : P past record []) :
    Throughout P past [record] :=
  ⟨holds, trivial⟩

/-- What is true of the records of a segment is true of those of its beginning when it
does not hang on what follows them. -/
theorem left
    (throughout : Throughout P past (segment ++ more))
    (early : ∀ past record future more,
      P past record (future ++ more) → P past record future) :
    Throughout P past segment := by
  induction segment generalizing past with
  | nil => trivial
  | cons record segment inductionHypothesis =>
      exact ⟨early _ _ _ more throughout.1, inductionHypothesis throughout.2⟩

theorem at_split
    {before after : Trace α ν}
    {record : Record α ν}
    (throughout : Throughout P past (before ++ record :: after)) :
    P (past ++ before) record after := by
  induction before generalizing past with
  | nil => simpa using throughout.1
  | cons head before inductionHypothesis =>
      simpa using inductionHypothesis throughout.2

end Throughout

namespace Admitted

variable {trace : Trace α ν}

/-- An admitted segment may follow another. -/
theorem append
    {past segment more : Trace α ν}
    (first : Admitted past segment)
    (second : Admitted (past ++ segment) more) :
    Admitted past (segment ++ more) :=
  Throughout.append (fun _ _ _ _ holds => holds) first second

/-- Actions are numbered by the places at which they were handed over. -/
theorem handed_at
    {before after : Trace α ν}
    {record : Record α ν}
    {number tree : Nat}
    {action : α}
    (admitted : Admitted [] (before ++ record :: after))
    (handed : record.moment = .handed number tree action) :
    number = before.length := by
  have admits := (Throughout.at_split admitted).2
  rw [handed] at admits
  simpa [AdmitsMoment] using admits

/-- Closures are numbered by the places at which they were entered. -/
theorem entered_at
    {before after : Trace α ν}
    {record : Record α ν}
    {closure tree : Nat}
    (admitted : Admitted [] (before ++ record :: after))
    (entered : record.moment = .entered closure tree) :
    closure = before.length := by
  have admits := (Throughout.at_split admitted).2
  rw [entered] at admits
  simpa [AdmitsMoment] using admits

/-- A number is that of one record that hands over an action. -/
theorem handed_unique
    {before after others rest : Trace α ν}
    {record other : Record α ν}
    {number tree : Nat}
    {action act : α}
    {home : Nat}
    (admitted : Admitted [] (before ++ record :: after))
    (split : before ++ record :: after = others ++ other :: rest)
    (handed : record.moment = .handed number tree action)
    (again : other.moment = .handed number home act) :
    before = others ∧ record = other ∧ after = rest := by
  have first := handed_at admitted handed
  have second := handed_at (split ▸ admitted) again
  obtain ⟨same, tails⟩ := List.append_inj split (first.symm.trans second)
  exact ⟨same, List.cons_eq_cons.1 tails⟩

/-- An action is attached to one closure at most. -/
theorem attached_unique
    {number closure other : Nat}
    (admitted : Admitted [] trace)
    (first : number ∈ attached closure trace)
    (second : number ∈ attached other trace) :
    closure = other := by
  obtain ⟨before, record, after, tree, action, rfl, handed, outermost⟩ := mem_attached.1 first
  obtain ⟨others, again, rest, home, act, split, handedAgain, outermostAgain⟩ :=
    mem_attached.1 second
  obtain ⟨rfl, rfl, rfl⟩ := handed_unique admitted split handed handedAgain
  rw [handed] at handedAgain
  obtain ⟨-, rfl, rfl⟩ := Moment.handed.inj handedAgain
  exact Option.some.inj (outermost.symm.trans outermostAgain)

theorem attached_lt
    {number closure : Nat}
    (admitted : Admitted [] trace)
    (present : number ∈ attached closure trace) :
    number < trace.length := by
  obtain ⟨before, record, after, tree, action, rfl, handed, _⟩ := mem_attached.1 present
  rw [handed_at admitted handed, List.length_append, List.length_cons]
  omega

/-- What is attached to a closure is newer than the closure. -/
theorem lt_of_attached
    {number closure : Nat}
    (admitted : Admitted [] trace)
    (present : number ∈ attached closure trace) :
    closure < number := by
  obtain ⟨before, record, after, tree, action, rfl, handed, outermost⟩ :=
    mem_attached.1 present
  obtain ⟨entering, member, entered, _⟩ := (mem_inside.1 (outermost?_mem outermost)).1
  obtain ⟨earlier, later, rfl⟩ := List.append_of_mem member
  have whole : Admitted [] (earlier ++ entering :: (later ++ record :: after)) := by
    simpa using admitted
  have place : closure = earlier.length := entered_at whole entered
  rw [handed_at admitted handed, place, List.length_append, List.length_cons]
  omega

/-- No action is attached twice. -/
theorem attached_nodup
    (closure : Nat)
    (admitted : Admitted [] trace) :
    (attached closure trace).Nodup := by
  induction trace using List.reverseRecOn with
  | nil => exact List.nodup_nil
  | append_singleton trace record inductionHypothesis =>
      have earlier : Admitted [] trace := Throughout.left admitted fun _ _ _ _ holds => holds
      rw [attached_concat, List.nodup_append]
      refine ⟨inductionHypothesis earlier, by cases attaches? closure trace record <;> simp, ?_⟩
      intro number present other attaching same
      subst same
      obtain ⟨tree, action, handed, _⟩ := attaches?_eq_some.1 (Option.mem_toList.1 attaching)
      have place : number = trace.length := handed_at admitted handed
      have old := attached_lt earlier present
      omega

end Admitted

namespace AdmitsStart

variable {past : Trace α ν} {thread number tree : Nat} {action : α}

theorem number_lt
    (admits : AdmitsStart past thread number tree action)
    (numbered : ∀ record ∈ past, ∀ number,
      record.moment.number? = some number → number < past.length) :
    number < past.length := by
  obtain ⟨earlier, member, handed, _⟩ := admits.handed
  exact numbered earlier member number (by rw [handed]; rfl)

/-- An action may still start after a segment that is about others and leaves the thread
where it was. -/
theorem append
    {segment : Trace α ν}
    (admits : AdmitsStart past thread number tree action)
    (others : ∀ record ∈ segment, record.moment.number? ≠ some number)
    (stays : inside thread (past ++ segment) = inside thread past) :
    AdmitsStart (past ++ segment) thread number tree action where
  handed := by
    obtain ⟨earlier, member, handed⟩ := admits.handed
    exact ⟨earlier, List.mem_append_left _ member, handed⟩
  unstarted := by
    intro record present other act started
    rcases List.mem_append.1 present with old | new
    · exact admits.unstarted record old other act started
    · exact others record new (by rw [started]; rfl)
  outside := by
    rw [outermost?, stays]
    exact admits.outside
  left := by
    intro closure present
    have attachedBefore : number ∈ attached closure past := by
      rw [attached, attachedFrom_append, List.mem_append] at present
      refine present.resolve_right fun late => ?_
      obtain ⟨before, record, after, home, act, split, handed, _⟩ := mem_attachedFrom.1 late
      exact others record (by rw [split]; simp) (by rw [handed]; rfl)
    obtain ⟨earlier, member, left⟩ := admits.left closure attachedBefore
    exact ⟨earlier, List.mem_append_left _ member, left⟩

end AdmitsStart

namespace Orderly

variable {floor : Nat} {past segment more : Trace α ν}

/-- An orderly segment may follow another. -/
theorem append
    (first : Orderly floor past segment)
    (second : Orderly floor (past ++ segment) more) :
    Orderly floor past (segment ++ more) :=
  Throughout.append
    (fun _ _ _ more inOrder =>
      ⟨inOrder.admitted, inOrder.recent, inOrder.follows.append more⟩)
    first second

/-- A lower floor is no restriction. -/
theorem lower
    {lower : Nat}
    (orderly : Orderly floor past segment)
    (le : lower ≤ floor) :
    Orderly lower past segment :=
  Throughout.mono orderly fun _ _ _ inOrder =>
    ⟨inOrder.admitted, fun number about => Nat.le_trans le (inOrder.recent number about),
      inOrder.follows⟩

theorem admitted (orderly : Orderly floor past segment) : Admitted past segment :=
  Throughout.mono orderly fun _ _ _ inOrder => inOrder.admitted

theorem recent
    {record : Record α ν}
    {number : Nat}
    (orderly : Orderly floor past segment)
    (present : record ∈ segment)
    (about : record.moment.number? = some number) :
    floor ≤ number := by
  obtain ⟨before, after, rfl⟩ := List.append_of_mem present
  exact (Throughout.at_split orderly).recent number about

/-- What an orderly segment enters it leaves. -/
theorem closed
    {record : Record α ν}
    {closure tree : Nat}
    (orderly : Orderly floor past segment)
    (present : record ∈ segment)
    (entered : record.moment = .entered closure tree) :
    ∃ later ∈ segment, ∃ unwound, later.moment = .left closure unwound := by
  obtain ⟨before, after, rfl⟩ := List.append_of_mem present
  have follows := (Throughout.at_split orderly).follows
  simp only [Follows, entered] at follows
  obtain ⟨later, member, left⟩ := follows
  exact ⟨later, by simp [member], left⟩

end Orderly
end Trace
end ManagedTree
