import ManagedTree.Proofs.Controller.Spared
import Mathlib.Data.List.TakeWhile

/-!
# The body of a worker

The body of a worker makes reports on the stream of its request and returns.  What reaches the
caller are its reports up to the first that ends the execution; when it made none that does, the
way in which it returned ends the execution.
-/

namespace ManagedTree

/-- How the body of a worker returns. -/
inductive Return where
  /-- The operation is complete; the node describes how to undo it. -/
  | completed (undo : Node)
  /-- The operation was cancelled. -/
  | withdrawn
  /-- The operation failed with an error. -/
  | failed (fault : Fault)
  /-- The body panicked. -/
  | panicked (panic : Panic)

/-- The action with which a script returns. -/
def Return.action : Return → Action
  | .completed undo => .finish undo
  | .withdrawn => .withdraw
  | .failed fault => .raise fault
  | .panicked panic => .panic panic

/-- What the way in which a body returned says about the operation. -/
def Return.report : Return → Report
  | .completed undo => .complete undo
  | .withdrawn => .cancelled
  | .failed fault => .failed (Failure.ofFault fault)
  | .panicked panic => .failed (Failure.single Failure.panicKind panic.message)

/-- The body of a worker: it makes reports and returns. -/
structure Body where
  /-- The reports that it makes, in order. -/
  reports : List Report
  /-- How it returns. -/
  returns : Return

namespace Body

/-- The script of a worker with this body. -/
def script (body : Body) : Script :=
  body.reports.map .report ++ [body.returns.action]

/-- The report that ends the execution: the first that the body made, or else what the way in
which it returned says. -/
def verdict (body : Body) : Report :=
  (body.reports.find? Report.isTerminal).getD body.returns.report

/-- The reports that the body made before any that ends the execution. -/
def before (body : Body) : List Report :=
  body.reports.takeWhile fun report => !report.isTerminal

theorem isTerminal_report (returns : Return) : returns.report.isTerminal = true := by
  cases returns <;> rfl

theorem isTerminal_verdict (body : Body) : body.verdict.isTerminal = true := by
  unfold verdict
  cases found : body.reports.find? Report.isTerminal with
  | none => exact isTerminal_report body.returns
  | some report => exact List.find?_some found

/-- The reports up to the end are those before the verdict, and the verdict. -/
theorem untilEnd_reports (body : Body) :
    Report.untilEnd (body.reports ++ [body.returns.report]) = body.before ++ [body.verdict] := by
  obtain ⟨reports, returns⟩ := body
  have terminal := isTerminal_report returns
  unfold before verdict
  induction reports with
  | nil => rw [List.nil_append, Report.untilEnd_cons, if_pos terminal]; rfl
  | cons report reports inductionHypothesis =>
      rw [List.cons_append, Report.untilEnd_cons, inductionHypothesis]
      cases ends : report.isTerminal <;> simp [ends]

/-- Only the verdict ends the execution. -/
theorem countP_isTerminal (body : Body) :
    (body.before ++ [body.verdict]).countP Report.isTerminal = 1 := by
  have none : body.before.countP Report.isTerminal = 0 := by
    rw [List.countP_eq_zero]
    intro report present
    simpa using List.mem_takeWhile_imp present
  rw [List.countP_append, none, List.countP_singleton, if_pos body.isTerminal_verdict]

/-- Only the verdict can be of completion. -/
theorem countP_isComplete (body : Body) :
    (body.before ++ [body.verdict]).countP Report.isComplete =
      if body.verdict.isComplete then 1 else 0 := by
  have none : body.before.countP Report.isComplete = 0 := by
    rw [List.countP_eq_zero]
    intro report present
    have unended := List.mem_takeWhile_imp present
    cases report <;> simp_all [Report.isTerminal, Report.isComplete]
  rw [List.countP_append, none, List.countP_singleton, Nat.zero_add]

end Body

namespace Controller

open HasLedger Run

/-! ## What reaches the caller and the keeper -/

/-- A thread that holds no tree has the tree stored as soon as that is handed over. -/
theorem on_unlocked_outside
    {controller : Controller}
    (outside : scopes controller = [])
    (number : Nat) :
    (unlocked Controller.run home (.store number)).on controller =
      (controller.response.ending,
        carrying (trace controller).length home number (handing number controller)) := by
  unfold unlocked mark
  simp only [on_get_bind, on_modify_bind, outside, Scope.attach?]
  exact on_carryOut_store (trace controller).length home number (handing number controller)

/-- A delivery leaves the scopes and the calls alone. -/
theorem scopes_delivering
    (number : Nat)
    (made : Report)
    (controller : Controller) :
    scopes (delivering number made controller) = scopes controller ∧
      (delivering number made controller).calls = controller.calls := by
  unfold delivering passing reporting
  split <;> exact ⟨rfl, rfl⟩

/-- A caller who takes every report gets one that is made before the end, and a thread that holds
no tree has the tree stored at once when the report is of completion. -/
theorem on_makeReport_outside
    {number : Nat}
    {stream : Stream}
    {controller : Controller}
    (made : Report)
    (found : controller.streams[number]? = some stream)
    (unended : stream.ended.isSet = false)
    (calm : ∀ past report, stream.react past report = none)
    (outside : scopes controller = []) :
    (made.isComplete = false ∧
        (makeReport number made).on controller = (.ok (), delivering number made controller)) ∨
      made.isComplete = true ∧ ∃ result action,
        (makeReport number made).on controller =
          (result, carrying action home number
            (handing number (delivering number made controller))) := by
  have still := (scopes_delivering number made controller).1.trans outside
  rw [on_makeReport_of_open made found unended, calm]
  cases complete : made.isComplete with
  | false => exact Or.inl ⟨rfl, rfl⟩
  | true =>
      exact Or.inr ⟨rfl, _, _, on_unlocked_outside still number⟩

/-- What has become of the reports that were made on a stream since an earlier controller: the
caller, who takes them all, has got them up to the end, and the keeper was asked to store the tree
if the end is completion. -/
structure Told
    (number : Nat) (earlier : Controller) (made : List Report) (controller : Controller) :
    Prop where
  /-- The trace goes on. -/
  longer : (trace earlier).length ≤ (trace controller).length
  /-- The caller has got the reports up to the end. -/
  delivers : deliveredIn number (since earlier controller) = Report.untilEnd made
  /-- The keeper was asked when completion reached the caller. -/
  asks : asked number ((trace controller).drop (trace earlier).length) =
    (Report.untilEnd made).countP Report.isComplete
  /-- The stream has ended when a report ended it, and its caller takes every report. -/
  opened : ∃ stream, controller.streams[number]? = some stream ∧
    stream.ended.isSet = made.any Report.isTerminal ∧
    ∀ past report, stream.react past report = none

namespace Told

variable
  {number : Nat} {earlier controller later : Controller} {made more : List Report}
  {segment : Trace Errand Occurrence}

/-- The trace goes on with a segment that brings the caller and the keeper what more reports lead
to. -/
theorem goesOn
    (told : Told number earlier made controller)
    (grown : trace later = trace controller ++ segment)
    (delivers : Report.untilEnd made ++ deliveredIn number (eventsOf segment) =
      Report.untilEnd (made ++ more))
    (asks : (Report.untilEnd made).countP Report.isComplete + asked number segment =
      (Report.untilEnd (made ++ more)).countP Report.isComplete)
    (opened : ∃ stream, later.streams[number]? = some stream ∧
      stream.ended.isSet = (made ++ more).any Report.isTerminal ∧
      ∀ past report, stream.react past report = none) :
    Told number earlier (made ++ more) later := by
  refine ⟨?_, ?_, ?_, opened⟩
  · rw [grown, List.length_append]
    exact Nat.le_add_right_of_le told.longer
  · rw [since_append told.longer grown, deliveredIn_append, told.delivers, delivers]
  · rw [grown, List.drop_append_of_le_length told.longer, asked_append, told.asks, asks]

/-- What has become of the reports only depends on the trace and on the streams. -/
theorem of_eq
    (told : Told number earlier made controller)
    (same : trace later = trace controller)
    (streams : later.streams = controller.streams) :
    Told number earlier made later := by
  refine ⟨?_, ?_, ?_, ?_⟩
  · rw [same]
    exact told.longer
  · rw [since, same]
    exact told.delivers
  · rw [same]
    exact told.asks
  · rw [streams]
    exact told.opened

/-- Nothing that leaves the stream alone changes what has become of its reports. -/
theorem quiet
    (told : Told number earlier made controller)
    (quiet : Quiet number controller later) :
    Told number earlier made later := by
  obtain ⟨segment, grown, silent⟩ := quiet.silent
  obtain ⟨stream, found, ended, calm⟩ := told.opened
  obtain ⟨other, stays, react, same⟩ := quiet.stays stream found
  rw [← List.append_nil made]
  refine told.goesOn grown ?_ ?_ ⟨other, stays, ?_, ?_⟩
  · rw [deliveredIn_of_silent silent, List.append_nil, List.append_nil]
  · rw [asked_of_silent silent, Nat.add_zero, List.append_nil]
  · rw [same, ended, List.append_nil]
  · rw [react]
    exact calm

section

variable {stream : Stream} {next : Report}

/-- A report after the end is dropped. -/
theorem dropped
    (told : Told number earlier made controller)
    (found : controller.streams[number]? = some stream)
    (ended : stream.ended.isSet = true) :
    Told number earlier (made ++ [next]) (reporting number next controller) := by
  obtain ⟨same, there, ends, calm⟩ := told.opened
  obtain rfl : stream = same := Option.some.inj (found.symm.trans there)
  have closed : made.any Report.isTerminal = true := ends.symm.trans ended
  refine told.goesOn (trace_recorded _ controller) ?_ ?_ ⟨stream, found, ?_, calm⟩
  · rw [Report.untilEnd_of_ended closed]
    exact List.append_nil _
  · rw [Report.untilEnd_of_ended closed]
    rfl
  · rw [List.any_append, closed, ended]
    rfl

/-- A report before the end, and what is recorded of it and right after it, when that brings the
caller the report and asks the keeper if the report is of completion. -/
theorem passed
    (told : Told number earlier made controller)
    (found : controller.streams[number]? = some stream)
    (unended : stream.ended.isSet = false)
    (grown : trace later = trace controller ++ segment)
    (streams : later.streams = (delivering number next controller).streams)
    (delivers : deliveredIn number (eventsOf segment) = [next])
    (asks : asked number segment = if next.isComplete then 1 else 0) :
    Told number earlier (made ++ [next]) later := by
  obtain ⟨same, there, ended, calm⟩ := told.opened
  obtain rfl : stream = same := Option.some.inj (found.symm.trans there)
  have opened : made.any Report.isTerminal = false := ended.symm.trans unended
  have passes := Report.untilEnd_concat_of_open opened next
  refine told.goesOn grown ?_ ?_ ?_
  · rw [passes, delivers]
  · rw [passes, asks, List.countP_append, List.countP_singleton]
  · rw [streams, streams_delivering, List.any_append, opened]
    cases terminal : next.isTerminal with
    | false => exact ⟨stream, by simpa using found, by simp [unended, terminal], calm⟩
    | true =>
        refine ⟨{ stream with ended := ⟨true⟩ }, ?_, by simp [terminal], calm⟩
        rw [if_pos rfl, List.getElem?_modify_eq, found]
        rfl

/-- The caller gets a report that is not of completion. -/
theorem delivered
    (told : Told number earlier made controller)
    (found : controller.streams[number]? = some stream)
    (unended : stream.ended.isSet = false)
    (incomplete : next.isComplete = false) :
    Told number earlier (made ++ [next]) (delivering number next controller) := by
  refine told.passed found unended (trace_delivering number next controller) rfl ?_ ?_
  · simp [eventsOf, Trace.notes, deliveredIn]
  · simp [asked, Record.stores, incomplete]

/-- The caller gets a completion, and the errand to store the tree is carried out at once. -/
theorem completed
    (told : Told number earlier made controller)
    (found : controller.streams[number]? = some stream)
    (unended : stream.ended.isSet = false)
    (complete : next.isComplete = true)
    (action tree : Nat) :
    Told number earlier (made ++ [next])
      (carrying action tree number (handing number (delivering number next controller))) := by
  have grown := trace_carrying action tree number
    (handing number (delivering number next controller))
  rw [trace_handing, List.append_assoc] at grown
  refine told.passed found unended grown rfl ?_ ?_
  · simp [eventsOf, Trace.notes, deliveredIn]
  · simp [asked, Record.stores, complete]

end

end Told

/-! ## Running the body -/

/-- A worker has made reports on its stream: it is in no closure, and has changed no call. -/
structure Working
    (number : Nat) (earlier : Controller) (made : List Report) (calls : List Call)
    (controller : Controller) : Prop where
  /-- What has become of the reports. -/
  told : Told number earlier made controller
  /-- The worker is in no closure. -/
  outside : scopes controller = []
  /-- The calls are the same. -/
  calls_eq : controller.calls = calls

section

variable
  {number : Nat} {earlier controller : Controller} {made : List Report} {calls : List Call}

/-- A worker makes a report.  When that does not return, the report is of completion: it is the
keeper that panics. -/
theorem Working.report
    (working : Working number earlier made calls controller)
    (next : Report) :
    Working number earlier (made ++ [next]) calls
        ((Controller.makeReport number next).on controller).2 ∧
      (((Controller.makeReport number next).on controller).1 = .ok () ∨ next.isComplete = true) := by
  obtain ⟨told, outside, calls_eq⟩ := working
  obtain ⟨stream, found, -, calm⟩ := told.opened
  obtain ⟨still, same⟩ := scopes_delivering number next controller
  cases ended : stream.ended.isSet with
  | true =>
      rw [on_makeReport_of_ended next found ended]
      exact ⟨⟨told.dropped found ended, outside, calls_eq⟩, Or.inl rfl⟩
  | false =>
      rcases on_makeReport_outside next found ended calm outside with
        ⟨incomplete, reports⟩ | ⟨complete, result, action, reports⟩
      · rw [reports]
        exact ⟨⟨told.delivered found ended incomplete, still.trans outside, same.trans calls_eq⟩,
          Or.inl rfl⟩
      · rw [reports]
        exact ⟨⟨told.completed found ended complete action home,
          still.trans outside, same.trans calls_eq⟩, Or.inr complete⟩

/-- The last action of a body ends its worker, which is to report how the body returned. -/
theorem runScript_returns
    (execute : Node → Work Unit)
    (job : Job)
    (returns : Return)
    (controller : Controller) :
    Progress.after ((runScript execute job [returns.action]).on controller).1 =
        (.over, some returns.report) ∧
      ((runScript execute job [returns.action]).on controller).2 = controller := by
  cases returns <;> exact ⟨rfl, rfl⟩

/-- The script of a body makes its reports until it returns, or until the keeper panics when it is
asked to store the tree; then the end has reached the caller before. -/
theorem runScript_body
    (execute : Node → Work Unit)
    (job : Job)
    (body : Body)
    (working : Working job.stream earlier made calls controller) :
    ∃ all last,
      Progress.after ((runScript execute job body.script).on controller).1 = (.over, some last) ∧
      Working job.stream earlier all calls ((runScript execute job body.script).on controller).2 ∧
      Report.untilEnd (all ++ [last]) =
        Report.untilEnd (made ++ (body.reports ++ [body.returns.report])) := by
  obtain ⟨reports, returns⟩ := body
  induction reports generalizing made controller with
  | nil =>
      have script : Body.script ⟨[], returns⟩ = [returns.action] := rfl
      obtain ⟨progress, same⟩ := runScript_returns execute job returns controller
      refine ⟨made, returns.report, progress, ?_, rfl⟩
      rw [script, same]
      exact working
  | cons next reports inductionHypothesis =>
      obtain ⟨working, returned⟩ := working.report next
      have goesOn : (runScript execute job (Body.script ⟨next :: reports, returns⟩)).on controller =
          (Controller.makeReport job.stream next >>= fun _ =>
            runScript execute job (Body.script ⟨reports, returns⟩)).on controller := rfl
      rw [goesOn, on_bind]
      rcases both : (Controller.makeReport job.stream next).on controller with ⟨early | ⟨⟩, after⟩
      · rw [both] at working returned
        -- Only storing the tree can fail to return, and by then the end has reached the caller.
        have ended : (made ++ [next]).any Report.isTerminal = true := by
          have complete : next.isComplete = true := by simpa using returned
          rw [List.any_append]
          cases next <;> simp_all [Report.isTerminal, Report.isComplete]
        have panicked : ∃ last, Progress.after (.error early) = (.over, some last) := by
          cases early <;> exact ⟨_, rfl⟩
        obtain ⟨last, stops⟩ := panicked
        refine ⟨made ++ [next], last, stops, working, ?_⟩
        rw [Report.untilEnd_of_ended ended, List.cons_append,
          List.append_cons made next (reports ++ [returns.report]),
          Report.untilEnd_of_ended ended]
      · rw [both] at working
        obtain ⟨all, last, stops, working, same⟩ := inductionHypothesis working
        refine ⟨all, last, stops, working, ?_⟩
        simpa using same

/-- A worker runs its body, and is over when it has reported how that ended. -/
theorem runWorker_body
    (number : Nat)
    (job : Job)
    (name : String)
    (body : Body)
    (working : Working job.stream earlier made calls controller) :
    ∃ all,
      Working job.stream earlier all (calls.set number (.threaded job name .over))
          ((runWorker number job name body.script).on controller).2 ∧
      Report.untilEnd all =
        Report.untilEnd (made ++ (body.reports ++ [body.returns.report])) := by
  obtain ⟨all, last, stops, working, same⟩ := runScript_body executeCalmly job body working
  set ran := (runScript executeCalmly job body.script).on controller with ranDef
  set changed := ran.2.calls.set number (.threaded job name .over) with changedDef
  have runs : (runWorker number job name body.script).on controller =
      (makeReport job.stream last).on { ran.2 with calls := changed } := by
    unfold runWorker
    rw [on_outcome_bind, stops]
    rfl
  have marked : Working job.stream earlier all (calls.set number (.threaded job name .over))
      { ran.2 with calls := changed } := by
    refine ⟨working.told.of_eq rfl rfl, working.outside, ?_⟩
    rw [← working.calls_eq]
  rw [runs]
  exact ⟨all ++ [last], (marked.report last).1, same⟩

end

end Controller
end ManagedTree
