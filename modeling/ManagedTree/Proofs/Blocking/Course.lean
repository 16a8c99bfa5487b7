import ManagedTree.Proofs.Blocking.Verdict
import ManagedTree.Proofs.Run.Keeps
import Mathlib.Tactic.Set

/-!
# The course of a blocking call

Whatever happens to a blocking call, and whenever it does, the first report that ends
the operation decides what the call gives.  Until then the call asks for cancellation
each time it finds its thread interrupted, and it leaves the thread interrupted if it
was so before or has been since.
-/

namespace ManagedTree
namespace Scene

/-! ## What a course tells -/

/-- What happened in one phase, in order. -/
def during (phase : Phase) (course : List Incident) : List Happening :=
  course.filterMap fun
    | .happened other happening => if other = phase then some happening else none
    | _ => none

/-- Everything that happened, in order. -/
def happenings (course : List Incident) : List Happening :=
  course.filterMap fun
    | .happened _ happening => some happening
    | _ => none

/-- The reports among what happened, in order. -/
def reports (course : List Incident) : List Report :=
  course.filterMap fun
    | .happened _ (.report report) => some report
    | _ => none

/-- The number of requests for cancellation. -/
def requests (course : List Incident) : Nat :=
  course.countP fun
    | .requested => true
    | _ => false

/-- The number of times that the call waited: it had found its thread uninterrupted. -/
def waits (course : List Incident) : Nat :=
  course.countP fun
    | .looked false => true
    | _ => false

/-- The interrupt flag after an incident. -/
def flagAfter (flag : Bool) : Incident → Bool
  | .happened _ .interrupt => true
  | .happened _ .cleared => false
  | .looked _ => false
  | _ => flag

/-- The interrupt flag after incidents. -/
def flagAfterAll (flag : Bool) (course : List Incident) : Bool :=
  course.foldl flagAfter flag

theorem during_append (phase : Phase) (before after : List Incident) :
    during phase (before ++ after) = during phase before ++ during phase after :=
  List.filterMap_append

theorem reports_append (before after : List Incident) :
    reports (before ++ after) = reports before ++ reports after :=
  List.filterMap_append

theorem requests_append (before after : List Incident) :
    requests (before ++ after) = requests before + requests after :=
  List.countP_append

theorem waits_append (before after : List Incident) :
    waits (before ++ after) = waits before + waits after :=
  List.countP_append

theorem flagAfterAll_append (flag : Bool) (before after : List Incident) :
    flagAfterAll flag (before ++ after) = flagAfterAll (flagAfterAll flag before) after :=
  List.foldl_append

/-- What is reported in a phase is reported. -/
theorem mem_reports_of_during
    {phase : Phase}
    {report : Report}
    {course : List Incident}
    (present : .report report ∈ during phase course) :
    report ∈ reports course := by
  obtain ⟨incident, among, same⟩ := List.mem_filterMap.1 present
  refine List.mem_filterMap.2 ⟨incident, among, ?_⟩
  cases incident with
  | happened other happening =>
      obtain ⟨-, made⟩ := Option.ite_none_right_eq_some.1 same
      cases made
      rfl
  | _ => cases same

/-- Happenings of one phase, as incidents. -/
def incidents (phase : Phase) (batch : List Happening) : List Incident :=
  batch.map (.happened phase)

theorem during_incidents (phase other : Phase) (batch : List Happening) :
    during phase (incidents other batch) = if other = phase then batch else [] := by
  rw [during, incidents, List.filterMap_map]
  by_cases same : other = phase
  · rw [if_pos same]
    refine Eq.trans (congrArg (List.filterMap · batch) ?_) List.filterMap_some
    exact funext fun _ => if_pos same
  · rw [if_neg same]
    exact List.filterMap_eq_nil_iff.2 fun _ _ => if_neg same

theorem requests_incidents (phase : Phase) (batch : List Happening) :
    requests (incidents phase batch) = 0 := by
  simp [requests, incidents, List.countP_map, Function.comp_def]

theorem waits_incidents (phase : Phase) (batch : List Happening) :
    waits (incidents phase batch) = 0 := by
  simp [waits, incidents, List.countP_map, Function.comp_def]

@[simp] theorem requests_looked (flag : Bool) (course : List Incident) :
    requests (.looked flag :: course) = requests course :=
  List.countP_cons_of_neg nofun

@[simp] theorem requests_requested (course : List Incident) :
    requests (.requested :: course) = requests course + 1 :=
  List.countP_cons_of_pos rfl

@[simp] theorem waits_looked (flag : Bool) (course : List Incident) :
    waits (.looked flag :: course) = waits course + if flag then 0 else 1 := by
  cases flag with
  | false => exact List.countP_cons_of_pos rfl
  | true => exact List.countP_cons_of_neg nofun

@[simp] theorem waits_requested (course : List Incident) :
    waits (.requested :: course) = waits course :=
  List.countP_cons_of_neg nofun

/-! ## What a scene comes to by incidents -/

/-- A scene comes to another one by incidents: they are noted, their reports are gathered,
and the flag is what they make of it. -/
structure Comes (scene : Scene) (segment : List Incident) (after : Scene) : Prop where
  /-- The incidents are noted. -/
  trace : after.trace = scene.trace ++ segment
  /-- Their reports are gathered. -/
  gathering : after.gathering = (reports segment).foldl Gathering.receive scene.gathering
  /-- The flag is what they make of it. -/
  flag : after.interrupt.flag = flagAfterAll scene.interrupt.flag segment

theorem Comes.refl (scene : Scene) : Comes scene [] scene :=
  ⟨(List.append_nil _).symm, rfl, rfl⟩

theorem Comes.trans
    {first second third : Scene}
    {before after : List Incident}
    (left : Comes first before second)
    (right : Comes second after third) :
    Comes first (before ++ after) third := by
  refine ⟨?_, ?_, ?_⟩
  · rw [right.trace, left.trace, List.append_assoc]
  · rw [right.gathering, left.gathering, reports_append, List.foldl_append]
  · rw [right.flag, left.flag, flagAfterAll_append]

theorem happen_comes
    (phase : Phase)
    (scene : Scene)
    (happening : Happening) :
    Comes scene [.happened phase happening] (scene.happen phase happening) := by
  cases happening <;> exact ⟨rfl, rfl, rfl⟩

/-- What happens leaves what is still to happen. -/
theorem happen_rest
    (phase : Phase)
    (scene : Scene)
    (happening : Happening) :
    (scene.happen phase happening).onCancel = scene.onCancel ∧
      (scene.happen phase happening).later = scene.later := by
  cases happening <;> exact ⟨rfl, rfl⟩

theorem foldl_happen_comes
    (phase : Phase)
    (scene : Scene)
    (batch : List Happening) :
    Comes scene (incidents phase batch) (batch.foldl (happen phase) scene) := by
  induction batch generalizing scene with
  | nil => exact Comes.refl scene
  | cons happening batch inductionHypothesis =>
      exact (happen_comes phase scene happening).trans (inductionHypothesis _)

theorem foldl_happen_rest
    (phase : Phase)
    (scene : Scene)
    (batch : List Happening) :
    (batch.foldl (happen phase) scene).onCancel = scene.onCancel ∧
      (batch.foldl (happen phase) scene).later = scene.later := by
  induction batch generalizing scene with
  | nil => exact ⟨rfl, rfl⟩
  | cons happening batch inductionHypothesis =>
      obtain ⟨onCancel, later⟩ := happen_rest phase scene happening
      rw [List.foldl_cons, ← onCancel, ← later]
      exact inductionHypothesis _

theorem look_comes (scene : Scene) :
    Comes scene [.looked scene.interrupt.flag] scene.look.2 :=
  ⟨rfl, rfl, rfl⟩

/-- A request for cancellation takes what happens during it. -/
theorem cancel_comes (scene : Scene) :
    Comes scene (.requested :: incidents .request (scene.onCancel.headD [])) scene.cancel ∧
      scene.cancel.onCancel = scene.onCancel.tail ∧ scene.cancel.later = scene.later := by
  have asks : Comes scene [.requested] (scene.noted .requested) := ⟨rfl, rfl, rfl⟩
  unfold cancel
  dsimp only
  split
  next none =>
    have empty : scene.onCancel = [] := none
    rw [empty]
    exact ⟨asks, empty, rfl⟩
  next batch onCancel some =>
    have full : scene.onCancel = batch :: onCancel := some
    rw [full]
    have asked : Comes scene [.requested] { scene.noted .requested with onCancel } :=
      ⟨rfl, rfl, rfl⟩
    exact ⟨asked.trans (foldl_happen_comes .request _ batch), foldl_happen_rest .request _ batch⟩

/-- Waiting takes what happens meanwhile, if anything is left. -/
theorem wait_comes (scene : Scene) :
    Comes scene (incidents .wait (scene.later.headD [])) scene.wait.2 ∧
      scene.wait.2.onCancel = scene.onCancel ∧ scene.wait.2.later = scene.later.tail ∧
      scene.wait.1 = !scene.later.isEmpty := by
  unfold wait
  split
  next empty =>
    rw [empty]
    exact ⟨Comes.refl scene, rfl, rfl, rfl⟩
  next batch later full =>
    rw [full]
    have taken : Comes scene [] { scene with later } := ⟨(List.append_nil _).symm, rfl, rfl⟩
    obtain ⟨onCancel, rest⟩ := foldl_happen_rest .wait { scene with later } batch
    exact ⟨taken.trans (foldl_happen_comes .wait _ batch), onCancel, rest, rfl⟩

/-! ## Looks and requests -/

/-- The looks of a call at the flag of its thread, which was set before or not, and its
requests for cancellation.  Places are positions in the course. -/
structure Prompted (interrupted : Bool) (course : List Incident) : Prop where
  /-- A look finds the flag as it is, and no report before it ends the operation. -/
  looks : ∀ place flag, course[place]? = some (.looked flag) →
    flag = flagAfterAll interrupted (course.take place) ∧
      ∀ report ∈ reports (course.take place), report.isTerminal = false
  /-- The first thing is no request. -/
  unprompted : course[0]? ≠ some .requested
  /-- The requests are what comes next after the looks that find the flag set. -/
  prompted : ∀ place, course[place]? = some (.looked true) ↔ course[place + 1]? = some .requested

theorem getElem?_incidents
    (phase : Phase)
    (batch : List Happening)
    (place : Nat) :
    (incidents phase batch)[place]? ≠ some .requested ∧
      ∀ flag, (incidents phase batch)[place]? ≠ some (.looked flag) := by
  rw [incidents, List.getElem?_map]
  cases batch[place]? <;> simp

/-- While a call is started it neither looks nor asks. -/
theorem Prompted.start
    (interrupted : Bool)
    (batch : List Happening) :
    Prompted interrupted (incidents .start batch) := by
  have quiet := getElem?_incidents .start batch
  refine ⟨fun place flag looked => ?_, (quiet 0).1, fun place => ⟨fun looked => ?_, ?_⟩⟩
  · exact absurd looked ((quiet place).2 flag)
  · exact absurd looked ((quiet place).2 true)
  · exact fun requested => absurd requested (quiet (place + 1)).1

/-- A call may look when nothing has ended the operation.  What follows the look has no
other look in it, and a request only as its first incident and only if the flag was set. -/
theorem Prompted.turn
    {interrupted : Bool}
    {course rest : List Incident}
    (prompted : Prompted interrupted course)
    (unended : ∀ report ∈ reports course, report.isTerminal = false)
    (asks : rest[0]? = some .requested ↔ flagAfterAll interrupted course = true)
    (others : ∀ place, rest[place + 1]? ≠ some .requested)
    (unseen : ∀ (place : Nat) (flag : Bool), rest[place]? ≠ some (.looked flag)) :
    Prompted interrupted (course ++ .looked (flagAfterAll interrupted course) :: rest) := by
  set found := flagAfterAll interrupted course
  have old : ∀ {place}, place < course.length →
      (course ++ .looked found :: rest)[place]? = course[place]? := fun inside =>
    List.getElem?_append_left inside
  have new : ∀ place, (course ++ .looked found :: rest)[course.length + place]? =
      (Incident.looked found :: rest)[place]? := fun place => by
    rw [List.getElem?_append_right (Nat.le_add_right _ _), Nat.add_sub_cancel_left]
  refine ⟨fun place flag looked => ?_, ?_, fun place => ?_⟩
  · rcases Nat.lt_or_ge place course.length with inside | beyond
    · rw [old inside] at looked
      rw [List.take_append_of_le_length (Nat.le_of_lt inside)]
      exact prompted.looks place flag looked
    · obtain ⟨place, rfl⟩ := Nat.exists_eq_add_of_le beyond
      rw [new] at looked
      cases place with
      | zero =>
          rw [Nat.add_zero, List.take_left]
          cases looked
          exact ⟨rfl, unended⟩
      | succ place => exact absurd looked (unseen place flag)
  · cases course with
    | nil => nofun
    | cons first course => exact prompted.unprompted
  · rcases Nat.lt_trichotomy (place + 1) course.length with inside | last | beyond
    · rw [old inside, old (Nat.lt_of_succ_lt inside)]
      exact prompted.prompted place
    · have inside : place < course.length := last ▸ Nat.lt_succ_self place
      have next := new 0
      rw [Nat.add_zero, ← last] at next
      rw [old inside, prompted.prompted, next, last, List.getElem?_eq_none (Nat.le_refl _)]
      simp
    · obtain ⟨place, rfl⟩ := Nat.exists_eq_add_of_le (Nat.le_of_lt_succ beyond)
      rw [Nat.add_assoc, new, new]
      cases place with
      | zero => simpa using asks.symm
      | succ place =>
          exact ⟨fun looked => absurd looked (unseen place true),
            fun requested => absurd requested (others place)⟩

/-- Unless something else clears the flag, it was found set or is set exactly when it was
set before or there has been an interrupt. -/
theorem Prompted.interrupted_iff
    {interrupted : Bool}
    {course : List Incident}
    (prompted : Prompted interrupted course)
    (uncleared : Happening.cleared ∉ happenings course) :
    (.looked true ∈ course ∨ flagAfterAll interrupted course = true) ↔
      interrupted = true ∨ .interrupt ∈ happenings course := by
  have looks := fun place flag looked => (prompted.looks place flag looked).1
  clear prompted
  induction course generalizing interrupted with
  | nil => simp [flagAfterAll, happenings]
  | cons incident course inductionHypothesis =>
      have split : happenings (incident :: course) = happenings [incident] ++ happenings course :=
        List.filterMap_append (l := [incident])
      rw [split, List.mem_append, not_or] at uncleared
      have later := @inductionHypothesis (flagAfter interrupted incident)
        uncleared.2 fun place flag looked => looks (place + 1) flag looked
      have step : flagAfterAll interrupted (incident :: course) =
          flagAfterAll (flagAfter interrupted incident) course := rfl
      rw [step, split, List.mem_cons, or_assoc, propext later, List.mem_append]
      cases incident with
      | happened phase happening =>
          cases happening with
          | cleared => exact absurd (List.mem_singleton.2 rfl) uncleared.1
          | _ => simp [flagAfter, happenings]
      | looked flag =>
          have found : flag = interrupted := looks 0 flag rfl
          simp [flagAfter, happenings, found]
      | requested => simp [flagAfter, happenings]

/-! ## Turns -/

/-- What was given for a phase, batch by batch, has happened for as many batches as were
taken, and the rest is left. -/
def Served
    (phase : Phase) (given : List (List Happening)) (taken : Nat)
    (left : List (List Happening)) (course : List Incident) : Prop :=
  during phase course = (given.take taken).flatten ∧ left = given.drop taken

namespace Served

variable {phase : Phase} {given left : List (List Happening)} {taken : Nat}
  {course segment : List Incident}

/-- One more batch is taken, or none when none is left. -/
theorem next
    (served : Served phase given taken left course)
    (happened : during phase segment = left.headD []) :
    Served phase given (taken + 1) left.tail (course ++ segment) := by
  obtain ⟨before, rfl⟩ := served
  refine ⟨?_, List.tail_drop⟩
  rw [during_append, before, happened, List.take_add_one, List.flatten_append,
    List.headD_eq_head?_getD, List.head?_drop]
  cases given[taken]? <;> simp

/-- No batch is taken. -/
theorem same
    (served : Served phase given taken left course)
    (happened : during phase segment = []) :
    Served phase given taken left (course ++ segment) := by
  refine ⟨?_, served.2⟩
  rw [during_append, happened, List.append_nil, served.1]

end Served

/-- A blocking call on its way: what it has seen is what was given, it has gathered the
reports, and it has looked and asked as it should. -/
structure OnItsWay
    (interrupted : Bool) (started : List Happening) (onCancel later : List (List Happening))
    (scene : Scene) : Prop where
  /-- The reports are gathered. -/
  gathering : scene.gathering = Gathering.ofReports (reports scene.trace)
  /-- The flag is what the incidents make of it. -/
  flag : scene.interrupt.flag = flagAfterAll interrupted scene.trace
  /-- The looks and requests are in order. -/
  prompted : Prompted interrupted scene.trace
  /-- All that was given for the start has happened. -/
  started : during .start scene.trace = started
  /-- What was given for the requests so far has happened. -/
  requested : Served .request onCancel (requests scene.trace) scene.onCancel scene.trace
  /-- What was given for the times that the call has waited has happened. -/
  waited : Served .wait later (waits scene.trace) scene.later scene.trace

namespace OnItsWay

variable {interrupted : Bool} {started : List Happening} {onCancel later : List (List Happening)}
  {scene : Scene}

/-- A turn without an answer: a look at the flag, and what follows it. -/
theorem turn
    (way : OnItsWay interrupted started onCancel later scene)
    (unanswered : scene.gathering.answer? = none)
    {rest : List Incident}
    {after : Scene}
    (comes : Comes scene ([.looked scene.interrupt.flag] ++ rest) after)
    (asks : rest[0]? = some .requested ↔ scene.interrupt.flag = true)
    (others : ∀ place, rest[place + 1]? ≠ some .requested)
    (unseen : ∀ (place : Nat) (flag : Bool), rest[place]? ≠ some (.looked flag)) :
    after.gathering = Gathering.ofReports (reports after.trace) ∧
      after.interrupt.flag = flagAfterAll interrupted after.trace ∧
      Prompted interrupted after.trace := by
  have unended : ∀ report ∈ reports scene.trace, report.isTerminal = false := by
    rw [way.gathering, Gathering.answer?_ofReports] at unanswered
    exact Report.verdict_eq_none_iff.1 unanswered
  refine ⟨?_, ?_, ?_⟩
  · rw [comes.gathering, way.gathering, comes.trace, reports_append scene.trace,
      Gathering.ofReports, Gathering.ofReports, List.foldl_append]
  · rw [comes.flag, comes.trace, flagAfterAll_append interrupted scene.trace, way.flag]
  · rw [comes.trace, way.flag]
    rw [way.flag] at asks
    exact way.prompted.turn unended asks others unseen

/-- A turn in which the flag is set: the call asks for cancellation. -/
theorem cancels
    (way : OnItsWay interrupted started onCancel later scene)
    (unanswered : scene.gathering.answer? = none)
    (isSet : scene.interrupt.flag = true) :
    OnItsWay interrupted started onCancel later scene.look.2.cancel := by
  obtain ⟨asks, rest, same⟩ := cancel_comes scene.look.2
  have comes := (look_comes scene).trans asks
  have quiet := getElem?_incidents .request (scene.look.2.onCancel.headD [])
  have happened : ∀ phase, during phase
      ([.looked scene.interrupt.flag] ++
        .requested :: incidents .request (scene.look.2.onCancel.headD [])) =
      if .request = phase then scene.onCancel.headD [] else [] := fun phase => by
    rw [← during_incidents]
    rfl
  have asked : requests scene.look.2.cancel.trace = requests scene.trace + 1 := by
    rw [comes.trace, requests_append, List.singleton_append, requests_looked, requests_requested,
      requests_incidents]
  have waited : waits scene.look.2.cancel.trace = waits scene.trace := by
    rw [comes.trace, waits_append, List.singleton_append, isSet, waits_looked, waits_requested,
      waits_incidents]
    rfl
  obtain ⟨gathering, flag, prompted⟩ := way.turn unanswered comes
    (by simp [isSet]) (fun place => (quiet place).1) fun place flag => by
      cases place with
      | zero => nofun
      | succ place => exact (quiet place).2 flag
  refine ⟨gathering, flag, prompted, ?_, ?_, ?_⟩
  · rw [comes.trace, during_append, happened, way.started]
    exact List.append_nil _
  · rw [asked, rest, comes.trace]
    exact way.requested.next (happened .request)
  · rw [waited, same, comes.trace]
    exact way.waited.same (happened .wait)

/-- A turn in which the flag is not set: the call waits. -/
theorem waits
    (way : OnItsWay interrupted started onCancel later scene)
    (unanswered : scene.gathering.answer? = none)
    (unset : scene.interrupt.flag = false) :
    OnItsWay interrupted started onCancel later scene.look.2.wait.2 := by
  obtain ⟨meanwhile, same, rest, -⟩ := wait_comes scene.look.2
  have comes := (look_comes scene).trans meanwhile
  have quiet := getElem?_incidents .wait (scene.look.2.later.headD [])
  have happened : ∀ phase, during phase
      ([.looked scene.interrupt.flag] ++ incidents .wait (scene.look.2.later.headD [])) =
      if .wait = phase then scene.later.headD [] else [] := fun phase => by
    rw [← during_incidents]
    rfl
  have asked : requests scene.look.2.wait.2.trace = requests scene.trace := by
    rw [comes.trace, requests_append, List.singleton_append, requests_looked, requests_incidents]
    rfl
  have waited : Scene.waits scene.look.2.wait.2.trace = Scene.waits scene.trace + 1 := by
    rw [comes.trace, waits_append, List.singleton_append, unset, waits_looked, waits_incidents]
    rfl
  obtain ⟨gathering, flag, prompted⟩ := way.turn unanswered comes
    ⟨fun asks => absurd asks (quiet 0).1, fun isSet => by rw [unset] at isSet; cases isSet⟩
    (fun place => (quiet (place + 1)).1) fun place => (quiet place).2
  refine ⟨gathering, flag, prompted, ?_, ?_, ?_⟩
  · rw [comes.trace, during_append, happened, way.started]
    exact List.append_nil _
  · rw [asked, same, comes.trace]
    exact way.requested.same (happened .request)
  · rw [waited, rest, comes.trace]
    exact way.waited.next (happened .wait)

end OnItsWay

/-! ## The loop -/

/-- A turn of the loop in a scene. -/
theorem on_loop_succ
    (budget : Nat)
    (taken : Bool)
    (scene : Scene) :
    (waiting.loop (budget + 1) taken).on scene =
      match scene.gathering.answer? with
      | some answer => (.ok (some answer, taken), scene)
      | none =>
        if scene.interrupt.flag then
          (waiting.loop budget true).on scene.look.2.cancel
        else if scene.look.2.wait.1 then
          (waiting.loop budget taken).on scene.look.2.wait.2
        else
          (.ok (none, taken), scene.look.2.wait.2) := by
  rw [Waiting.loop, Run.on_get_bind]
  have gathered : waiting.gathered scene = scene.gathering := rfl
  rw [gathered]
  cases scene.gathering.answer? with
  | some answer => rfl
  | none =>
      dsimp only
      rw [Run.on_modify_bind]
      change Run.on scene.look.2
        (if scene.interrupt.flag = true then do
          waiting.cancel
          waiting.loop budget true
        else do
          if ← waiting.wait then waiting.loop budget taken else pure (none, taken)) = _
      cases scene.interrupt.flag with
      | true => rfl
      | false =>
          have waited : waiting.wait.on scene.look.2 =
              (.ok scene.look.2.wait.1, scene.look.2.wait.2) := rfl
          rw [if_neg Bool.false_ne_true, if_neg Bool.false_ne_true, Run.on_bind, waited]
          cases scene.look.2.wait.1 <;> rfl

/-- The turns that the loop may still take: two for every batch that comes while the call
waits, one for every batch that comes with a request, and one if the flag is set. -/
def turnsLeft (scene : Scene) : Nat :=
  2 * scene.later.length + scene.onCancel.length + if scene.interrupt.flag then 1 else 0

/-- Asking for cancellation uses up a turn. -/
theorem turnsLeft_cancel
    {scene : Scene}
    (isSet : scene.interrupt.flag = true) :
    turnsLeft scene.look.2.cancel < turnsLeft scene := by
  obtain ⟨comes, onCancel, later⟩ := cancel_comes scene.look.2
  have flag : scene.look.2.interrupt.flag = false := rfl
  have sameOnCancel : scene.look.2.onCancel = scene.onCancel := rfl
  have sameLater : scene.look.2.later = scene.later := rfl
  rw [turnsLeft, turnsLeft, onCancel, later, comes.flag, isSet, flag, sameOnCancel, sameLater]
  cases scene.onCancel with
  | nil => simp [incidents, flagAfterAll, flagAfter]
  | cons batch onCancel =>
      rw [List.tail_cons, List.length_cons, if_pos (rfl : true = true)]
      split <;> omega

/-- Waiting uses up a turn as long as something is still to happen. -/
theorem turnsLeft_wait
    {scene : Scene}
    (more : scene.look.2.wait.1 = true) :
    turnsLeft scene.look.2.wait.2 < turnsLeft scene := by
  obtain ⟨-, onCancel, later, goesOn⟩ := wait_comes scene.look.2
  have sameOnCancel : scene.look.2.onCancel = scene.onCancel := rfl
  have sameLater : scene.look.2.later = scene.later := rfl
  rw [more, sameLater] at goesOn
  rw [turnsLeft, turnsLeft, onCancel, later, sameOnCancel, sameLater]
  cases left : scene.later with
  | nil =>
      rw [left] at goesOn
      cases goesOn
  | cons batch rest =>
      rw [List.tail_cons, List.length_cons]
      split <;> split <;> omega

section

variable {interrupted : Bool} {started : List Happening} {onCancel later : List (List Happening)}

/-- The loop ends with the answer to what it has seen, or without one when nothing is left
to happen.  It knows whether it has found the flag set. -/
theorem loop_ends
    {budget : Nat}
    {taken : Bool}
    {scene : Scene}
    (way : OnItsWay interrupted started onCancel later scene)
    (enough : turnsLeft scene < budget)
    (knows : taken = true ↔ .looked true ∈ scene.trace) :
    ∃ answer found after,
      (waiting.loop budget taken).on scene = (.ok (answer, found), after) ∧
        OnItsWay interrupted started onCancel later after ∧
        answer = after.gathering.answer? ∧
        (answer = none → after.later = []) ∧
        (found = true ↔ .looked true ∈ after.trace) := by
  induction budget generalizing taken scene with
  | zero => exact absurd enough (Nat.not_lt_zero _)
  | succ budget inductionHypothesis =>
      rw [on_loop_succ]
      cases answered : scene.gathering.answer? with
      | some answer => exact ⟨_, _, _, rfl, way, answered.symm, nofun, knows⟩
      | none =>
          dsimp only
          cases flag : scene.interrupt.flag with
          | true =>
              rw [if_pos rfl]
              have fewer := turnsLeft_cancel flag
              refine inductionHypothesis (way.cancels answered flag) (by omega) ?_
              obtain ⟨asks, -, -⟩ := cancel_comes scene.look.2
              have comes := (look_comes scene).trans asks
              rw [comes.trace, flag]
              simp
          | false =>
              rw [if_neg Bool.false_ne_true]
              obtain ⟨meanwhile, -, rest, goesOn⟩ := wait_comes scene.look.2
              have comes := (look_comes scene).trans meanwhile
              have stillKnows : taken = true ↔ .looked true ∈ scene.look.2.wait.2.trace := by
                rw [knows, comes.trace, flag]
                simp [incidents]
              have onward := way.waits answered flag
              cases more : scene.look.2.wait.1 with
              | true =>
                  rw [if_pos rfl]
                  have fewer := turnsLeft_wait more
                  exact inductionHypothesis onward (by omega) stillKnows
              | false =>
                  rw [if_neg Bool.false_ne_true]
                  have empty : scene.look.2.later = [] := by
                    rw [more] at goesOn
                    simpa using goesOn
                  rw [empty] at comes rest
                  have unanswered : scene.look.2.wait.2.gathering.answer? = none := by
                    rw [comes.gathering]
                    exact answered
                  exact ⟨none, taken, _, rfl, onward, unanswered.symm, fun _ => rest, stillKnows⟩

/-- A call that has been started is on its way. -/
theorem onItsWay_start (onCancel later : List (List Happening)) :
    OnItsWay interrupted started onCancel later
      (started.foldl (happen .start)
        ⟨Gathering.start, ⟨interrupted, none⟩, [], onCancel, later⟩) := by
  set opening : Scene := ⟨Gathering.start, ⟨interrupted, none⟩, [], onCancel, later⟩
  have comes := foldl_happen_comes .start opening started
  obtain ⟨sameOnCancel, sameLater⟩ := foldl_happen_rest .start opening started
  have course : (started.foldl (happen .start) opening).trace = incidents .start started :=
    comes.trace
  refine ⟨?_, ?_, ?_, ?_, ?_, ?_⟩
  · rw [comes.gathering, course]
    rfl
  · rw [comes.flag, course]
  · rw [course]
    exact Prompted.start interrupted started
  · rw [course, during_incidents, if_pos rfl]
  · rw [course, requests_incidents, sameOnCancel]
    exact ⟨by rw [during_incidents, if_neg nofun]; rfl, rfl⟩
  · rw [course, waits_incidents, sameLater]
    exact ⟨by rw [during_incidents, if_neg nofun]; rfl, rfl⟩

end

/-- A blocking call waits in the loop, and then restores the interrupt that it has found. -/
theorem on_run
    (budget : Nat)
    {scene after : Scene}
    {answer : Option (Except BlockingError Node)}
    {found : Bool}
    (ends : (waiting.loop budget false).on scene = (.ok (answer, found), after)) :
    (waiting.run budget).on scene =
      (.ok answer, if found then { after with interrupt := after.interrupt.set } else after) := by
  rw [Waiting.run, Run.on_bind, ends]
  cases found <;> rfl

/-- The course of a blocking call, whatever happens in it and whenever.  What is given for the
start, for each request and for each time of waiting happens then.  The call gives what the
reports say up to the first that ends the operation, and as long as there is none it waits for
whatever is still to come.  It looks at the flag of its thread only until then, and asks for
cancellation right after each look that finds the flag set and at no other time.  If nothing
else clears the flag, it is set after the call exactly when it was set before or there has been
an interrupt. -/
theorem block_course
    (interrupted : Bool)
    (started : List Happening)
    (onCancel later : List (List Happening)) :
    let answer := (block interrupted started onCancel later).1
    let scene := (block interrupted started onCancel later).2
    (during .start scene.trace = started ∧
      during .request scene.trace = (onCancel.take (requests scene.trace)).flatten ∧
      during .wait scene.trace = (later.take (waits scene.trace)).flatten) ∧
    answer = Report.verdict (reports scene.trace) ∧
    ((∃ report, .report report ∈ started ++ later.flatten ∧ report.isTerminal = true) →
      answer ≠ none) ∧
    (∀ place flag, scene.trace[place]? = some (.looked flag) →
      flag = flagAfterAll interrupted (scene.trace.take place) ∧
        Report.verdict (reports (scene.trace.take place)) = none) ∧
    (scene.trace[0]? ≠ some .requested ∧
      ∀ place, scene.trace[place]? = some (.looked true) ↔
        scene.trace[place + 1]? = some .requested) ∧
    (answer ≠ none → .cleared ∉ happenings scene.trace →
      (scene.interrupt.flag = true ↔
        interrupted = true ∨ .interrupt ∈ happenings scene.trace)) := by
  intro answer scene
  set begun := started.foldl (happen .start)
    ⟨Gathering.start, ⟨interrupted, none⟩, [], onCancel, later⟩ with begunDef
  have start : OnItsWay interrupted started onCancel later begun := onItsWay_start onCancel later
  set waitingScene : Scene := { begun with interrupt := begun.interrupt.register () }
    with waitingSceneDef
  have way : OnItsWay interrupted started onCancel later waitingScene :=
    ⟨start.gathering, start.flag, start.prompted, start.started, start.requested, start.waited⟩
  have enough : turnsLeft waitingScene < waitingScene.turns := by
    unfold turnsLeft turns
    split <;> omega
  have unseen : false = true ↔ .looked true ∈ waitingScene.trace := by
    have course : waitingScene.trace = incidents .start started :=
      (foldl_happen_comes .start _ started).trace
    rw [course]
    simp [incidents]
  obtain ⟨outcome, found, after, ends, onward, answers, exhausted, knows⟩ :=
    loop_ends way enough unseen
  have result : block interrupted started onCancel later =
      (outcome, { after with
        interrupt := (if found then after.interrupt.set else after.interrupt).release }) := by
    rw [block, ← begunDef, ← waitingSceneDef, on_run _ ends]
    cases found <;> rfl
  have answerIs : answer = outcome := congrArg Prod.fst result
  have courseIs : scene.trace = after.trace := congrArg (fun pair => pair.2.trace) result
  have flagIs : scene.interrupt.flag = (found || after.interrupt.flag) := by
    have flag := congrArg (fun pair => pair.2.interrupt.flag) result
    cases found <;> exact flag
  have verdict : outcome = Report.verdict (reports after.trace) := by
    rw [answers, onward.gathering, Gathering.answer?_ofReports]
  rw [answerIs, courseIs, flagIs]
  refine ⟨⟨onward.started, onward.requested.1, onward.waited.1⟩, verdict, ?_, ?_,
    ⟨onward.prompted.unprompted, onward.prompted.prompted⟩, ?_⟩
  · rintro ⟨report, given, terminal⟩ unanswered
    have nothingLeft : later.drop (Scene.waits after.trace) = [] := by
      rw [← onward.waited.2]
      exact exhausted unanswered
    have everything : during .wait after.trace = later.flatten := by
      rw [onward.waited.1, List.take_of_length_le (List.drop_eq_nil_iff.1 nothingLeft)]
    have reported : report ∈ reports after.trace := by
      rcases List.mem_append.1 given with early | late
      · rw [← onward.started] at early
        exact mem_reports_of_during early
      · rw [← everything] at late
        exact mem_reports_of_during late
    rw [verdict, Report.verdict_eq_none_iff] at unanswered
    rw [unanswered report reported] at terminal
    cases terminal
  · intro place flag looked
    obtain ⟨finds, unended⟩ := onward.prompted.looks place flag looked
    exact ⟨finds, Report.verdict_eq_none_iff.2 unended⟩
  · intro _ uncleared
    rw [Bool.or_eq_true, knows, onward.flag]
    exact onward.prompted.interrupted_iff uncleared

/-- A thread that is interrupted while it waits, and again while it asks for cancellation, asks
twice.  The second request is answered, and the thread is still interrupted afterwards. -/
theorem block_course_interrupted_twice :
    let ended := block false [.report (.fragment [] (.bool true))]
      [[.interrupt], [.report .cancelled, .report (.complete .null)]] [[.interrupt]]
    ended.1 = some (.error .cancelled) ∧ requests ended.2.trace = 2 ∧
      ended.2.interrupt.flag = true := by
  intro ended
  obtain ⟨-, answer, -, -, -, flag⟩ := block_course false [.report (.fragment [] (.bool true))]
    [[.interrupt], [.report .cancelled, .report (.complete .null)]] [[.interrupt]]
  have happened : happenings ended.2.trace =
      [.report (.fragment [] (.bool true)), .interrupt, .interrupt, .report .cancelled,
        .report (.complete .null)] := rfl
  have gives : ended.1 = some (.error .cancelled) := answer.trans rfl
  refine ⟨gives, rfl, (flag ?_ ?_).2 (Or.inr ?_)⟩
  · exact fun nothing => Option.some_ne_none _ (gives.symm.trans nothing)
  · rw [happened]
    simp
  · rw [happened]
    simp

end Scene
end ManagedTree
