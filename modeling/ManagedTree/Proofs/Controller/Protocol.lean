import ManagedTree.Proofs.Controller.Moves
import ManagedTree.Proofs.Controller.Uses

/-!
# The reports of an execution

The caller of an execution gets the reports that are made on its stream in order, up to
the first that ends it, and nothing after that.
-/

namespace ManagedTree

namespace Report

/-- The reports up to the first that ends the operation. -/
def untilEnd (reports : List Report) : List Report :=
  reports.takeWhile (fun report => !report.isTerminal) ++ (reports.find? isTerminal).toList

@[simp] theorem untilEnd_nil : untilEnd [] = [] := rfl

theorem untilEnd_cons
    (report : Report)
    (reports : List Report) :
    untilEnd (report :: reports) =
      if report.isTerminal then [report] else report :: untilEnd reports := by
  unfold untilEnd
  cases terminal : report.isTerminal <;> simp [terminal]

/-- Reports after the end do not count. -/
theorem untilEnd_append
    (reports more : List Report) :
    untilEnd (reports ++ more) =
      if reports.any isTerminal then untilEnd reports else reports ++ untilEnd more := by
  induction reports with
  | nil => rfl
  | cons report reports inductionHypothesis =>
      rw [List.cons_append, untilEnd_cons, untilEnd_cons, inductionHypothesis]
      cases terminal : report.isTerminal <;> cases ended : reports.any isTerminal <;>
        simp [terminal, ended]

theorem untilEnd_of_ended
    {reports : List Report}
    (ended : reports.any isTerminal = true)
    (more : List Report) :
    untilEnd (reports ++ more) = untilEnd reports := by
  rw [untilEnd_append, if_pos ended]

theorem untilEnd_of_open
    {reports : List Report}
    (unended : reports.any isTerminal = false) :
    untilEnd reports = reports := by
  have whole := untilEnd_append reports []
  rw [unended, if_neg (by simp)] at whole
  simpa using whole

theorem untilEnd_concat_of_open
    {reports : List Report}
    (unended : reports.any isTerminal = false)
    (last : Report) :
    untilEnd (reports ++ [last]) = untilEnd reports ++ [last] := by
  rw [untilEnd_append, unended, untilEnd_of_open unended, untilEnd_cons]
  simp

/-- The end of reports is the first that ends the operation, if there is one. -/
theorem filter_untilEnd (reports : List Report) :
    (untilEnd reports).filter isTerminal = (reports.find? isTerminal).toList := by
  induction reports with
  | nil => rfl
  | cons report reports inductionHypothesis =>
      rw [untilEnd_cons]
      cases terminal : report.isTerminal <;> simp [terminal, inductionHypothesis]

/-- Nothing comes after a report that ends the operation. -/
theorem eq_nil_of_untilEnd
    {reports first rest : List Report}
    {report : Report}
    (split : untilEnd reports = first ++ report :: rest)
    (terminal : report.isTerminal = true) :
    rest = [] := by
  induction reports generalizing first with
  | nil => simp at split
  | cons head reports inductionHypothesis =>
      rw [untilEnd_cons] at split
      cases first with
      | nil =>
          split_ifs at split with ends
          · exact (List.cons_eq_cons.1 split).2.symm
          · obtain ⟨rfl, -⟩ := List.cons_eq_cons.1 split
            exact absurd terminal ends
      | cons other first =>
          split_ifs at split with ends
          · simp at split
          · exact inductionHypothesis (List.cons_eq_cons.1 split).2

end Report

namespace Controller

open HasLedger Run

/-- What has happened since an earlier controller. -/
def since (earlier later : Controller) : List Event :=
  eventsOf ((trace later).drop (trace earlier).length)

theorem eventsOf_append (before later : Trace Errand Occurrence) :
    eventsOf (before ++ later) = eventsOf before ++ eventsOf later := by
  simp [eventsOf, Trace.notes, List.filterMap_append]

theorem eventsOf_passage
    {moment : Moment Errand Occurrence}
    (controller : Controller)
    (passage : moment.isPassage = true) :
    eventsOf [recordOf controller moment] = [] := by
  cases moment with
  | noted occurrence => cases passage
  | _ => rfl

theorem reportedIn_append
    (number : Nat)
    (events more : List Event) :
    reportedIn number (events ++ more) = reportedIn number events ++ reportedIn number more :=
  List.filterMap_append

theorem deliveredIn_append
    (number : Nat)
    (events more : List Event) :
    deliveredIn number (events ++ more) = deliveredIn number events ++ deliveredIn number more :=
  List.filterMap_append

/-- Whether a stream has been opened and has ended. -/
def endedOf (number : Nat) (controller : Controller) : Bool :=
  controller.streams[number]?.any fun stream => stream.ended.isSet

theorem endedOf_of_found
    {number : Nat}
    {controller : Controller}
    {stream : Stream}
    (found : controller.streams[number]? = some stream) :
    endedOf number controller = stream.ended.isSet := by
  rw [endedOf, found]
  rfl

/-- A stream that is opened has not ended. -/
theorem endedOf_opening
    (number : Nat)
    (blocks : Bool)
    (react : Reaction)
    (controller : Controller) :
    endedOf number (opening blocks react controller) = endedOf number controller := by
  unfold endedOf opening
  rw [List.getElem?_append]
  split
  · rfl
  · rename_i beyond
    rw [List.getElem?_eq_none_iff.2 (Nat.le_of_not_lt beyond)]
    cases number - controller.streams.length <;> rfl

theorem endedOf_keeping
    (number other : Nat)
    (handle : Handle)
    (controller : Controller) :
    endedOf number
        { controller with
          streams := controller.streams.modify other fun stream => { stream with handle } } =
      endedOf number controller := by
  unfold endedOf
  rw [List.getElem?_modify]
  cases controller.streams[number]? with
  | none => rfl
  | some stream =>
      dsimp only [Option.map_some, Option.any_some]
      split <;> rfl

/-- The caller of a stream has got the reports since an earlier controller up to the end, and
the stream has ended when one of them ended it. -/
structure Faithful (number : Nat) (earlier later : Controller) : Prop where
  /-- The trace goes on. -/
  longer : (trace earlier).length ≤ (trace later).length
  /-- The stream has ended when a report ended it. -/
  ends : endedOf number later = (reportedIn number (since earlier later)).any Report.isTerminal
  /-- The caller has got the reports up to the end. -/
  delivers : deliveredIn number (since earlier later) =
    Report.untilEnd (reportedIn number (since earlier later))

/-- What has happened goes on with what happens next. -/
theorem since_append
    {earlier before later : Controller}
    {segment : Trace Errand Occurrence}
    (longer : (trace earlier).length ≤ (trace before).length)
    (trace_eq : trace later = trace before ++ segment) :
    since earlier later = since earlier before ++ eventsOf segment := by
  rw [since, since, trace_eq, List.drop_append_of_le_length longer, eventsOf_append]

/-- Moves without reports and deliveries. -/
theorem Faithful.silent
    {number : Nat}
    {earlier before later : Controller}
    {segment : Trace Errand Occurrence}
    (faithful : Faithful number earlier before)
    (trace_eq : trace later = trace before ++ segment)
    (ends : endedOf number later = endedOf number before)
    (unreported : reportedIn number (eventsOf segment) = [])
    (undelivered : deliveredIn number (eventsOf segment) = []) :
    Faithful number earlier later := by
  have goesOn := since_append faithful.longer trace_eq
  refine ⟨?_, ?_, ?_⟩
  · have := faithful.longer
    rw [trace_eq, List.length_append]
    omega
  · rw [goesOn, reportedIn_append, unreported, List.append_nil, ends, faithful.ends]
  · rw [goesOn, reportedIn_append, deliveredIn_append, unreported, undelivered, List.append_nil,
      List.append_nil]
    exact faithful.delivers

/-! ## Every move keeps the protocol -/

theorem streams_delivering
    (number : Nat)
    (report : Report)
    (controller : Controller) :
    (delivering number report controller).streams =
      if report.isTerminal then
        controller.streams.modify number fun stream => { stream with ended := ⟨true⟩ }
      else
        controller.streams := by
  unfold delivering passing
  split <;> rfl

namespace Faithful

variable {number other : Nat} {earlier controller : Controller} {stream : Stream}

/-- A report after the end of its stream. -/
theorem dropped
    (faithful : Faithful number earlier controller)
    (report : Report)
    (found : controller.streams[other]? = some stream)
    (ended : stream.ended.isSet = true) :
    Faithful number earlier (reporting other report controller) := by
  have grown : trace (reporting other report controller) = trace controller ++
      [recordOf controller (.noted (.event (.reported other report)))] :=
    trace_recorded _ _
  by_cases same : other = number
  · subst same
    have goesOn := since_append faithful.longer grown
    have endedThere := faithful.ends
    rw [endedOf_of_found found, ended] at endedThere
    have reports : reportedIn other (since earlier (reporting other report controller)) =
        reportedIn other (since earlier controller) ++ [report] := by
      rw [goesOn, reportedIn_append]
      simp [eventsOf, Trace.notes, reportedIn]
    refine ⟨?_, ?_, ?_⟩
    · have := faithful.longer
      rw [grown, List.length_append]
      omega
    · rw [reports, List.any_append, ← endedThere]
      exact (endedOf_of_found found).trans ended
    · rw [reports, Report.untilEnd_append, ← endedThere, if_pos rfl, ← faithful.delivers, goesOn,
        deliveredIn_append]
      simp [eventsOf, Trace.notes, deliveredIn]
  · apply faithful.silent grown rfl
    · simp [eventsOf, Trace.notes, reportedIn, same]
    · simp [eventsOf, Trace.notes, deliveredIn]

/-- A report before the end of its stream. -/
theorem passed
    (faithful : Faithful number earlier controller)
    (report : Report)
    (found : controller.streams[other]? = some stream)
    (unended : stream.ended.isSet = false) :
    Faithful number earlier (delivering other report controller) := by
  have grown := trace_delivering other report controller
  have streams := streams_delivering other report controller
  by_cases same : other = number
  · subst same
    have goesOn := since_append faithful.longer grown
    have endedThere := faithful.ends
    rw [endedOf_of_found found, unended] at endedThere
    have reports : reportedIn other (since earlier (delivering other report controller)) =
        reportedIn other (since earlier controller) ++ [report] := by
      rw [goesOn, reportedIn_append]
      simp [eventsOf, Trace.notes, reportedIn]
    have deliveries : deliveredIn other (since earlier (delivering other report controller)) =
        deliveredIn other (since earlier controller) ++ [report] := by
      rw [goesOn, deliveredIn_append]
      simp [eventsOf, Trace.notes, deliveredIn]
    have ends : endedOf other (delivering other report controller) = report.isTerminal := by
      rw [endedOf, streams]
      cases terminal : report.isTerminal with
      | true =>
          rw [if_pos rfl, List.getElem?_modify_eq, found]
          rfl
      | false =>
          rw [if_neg (by simp), found]
          exact unended
    refine ⟨?_, ?_, ?_⟩
    · have := faithful.longer
      rw [grown, List.length_append]
      omega
    · rw [reports, List.any_append, ← endedThere, ends]
      simp
    · rw [reports, deliveries, Report.untilEnd_append, ← endedThere, if_neg (by simp),
        faithful.delivers, Report.untilEnd_of_open endedThere.symm, Report.untilEnd_cons]
      simp
  · apply faithful.silent grown
    · rw [endedOf, streams]
      split
      · rw [List.getElem?_modify_ne _ _ same]
        rfl
      · rfl
    · simp [eventsOf, Trace.notes, reportedIn, same]
    · simp [eventsOf, Trace.notes, deliveredIn, same]

/-- Every move keeps the protocol. -/
theorem move
    {floor : Nat}
    {later : Controller}
    (faithful : Faithful number earlier controller)
    (move : Move floor controller later) :
    Faithful number earlier later := by
  cases move with
  | aside same =>
      refine faithful.silent same.trace_eq ?_ rfl rfl
      rw [endedOf, same.streams_eq]
      rfl
  | turns scopes thread threadName =>
      exact faithful.silent (List.append_nil _).symm rfl rfl rfl
  | passes passage =>
      refine faithful.silent (trace_recorded _ _) rfl ?_ ?_ <;>
        rw [eventsOf_passage controller passage] <;> rfl
  | notes plain =>
      rename_i event
      refine faithful.silent (trace_recorded _ _) rfl ?_ ?_ <;>
        cases event <;> first | rfl | cases plain
  | dispatches dispatching bound =>
      rename_i occurrence _
      refine faithful.silent (trace_recorded _ _) rfl ?_ ?_ <;>
        cases occurrence <;> first | rfl | cases dispatching
  | opens blocks react =>
      exact faithful.silent (List.append_nil _).symm (endedOf_opening _ _ _ _) rfl rfl
  | keeps kept handle =>
      exact faithful.silent (List.append_nil _).symm (endedOf_keeping _ _ _ _) rfl rfl
  | drops report found ended => exact faithful.dropped report found ended
  | delivers found unended panics => exact faithful.passed _ found unended
  | completes found unended complete =>
      exact (faithful.passed _ found unended).silent (trace_recorded _ _) rfl rfl rfl
  | stores action tree stored =>
      exact faithful.silent (trace_carrying _ _ _ _) rfl rfl rfl

theorem goes
    {floor : Nat}
    {later : Controller}
    (faithful : Faithful number earlier controller)
    (moves : Relation.ReflTransGen (Move floor) controller later) :
    Faithful number earlier later := by
  induction moves with
  | refl => exact faithful
  | tail _ move inductionHypothesis => exact inductionHypothesis.move move

end Faithful

/-- A stream that has not been opened. -/
theorem faithful_of_unopened
    {number : Nat}
    {controller : Controller}
    (unopened : controller.streams[number]? = none) :
    Faithful number controller controller := by
  have nothing : since controller controller = [] := by
    rw [since, List.drop_length]
    rfl
  refine ⟨Nat.le_refl _, ?_, ?_⟩
  · rw [endedOf, unopened, nothing]
    rfl
  · rw [nothing]
    rfl

/-- What has happened since a controller was started. -/
theorem since_of_trace_eq_nil
    {earlier : Controller}
    (later : Controller)
    (fresh : trace earlier = []) :
    since earlier later = eventsOf (trace later) := by
  rw [since, fresh]
  rfl

/-! ## Executions -/

/-- The events of a report on a stream that has been opened. -/
theorem makeReport_faithful
    {number : Nat}
    {earlier controller : Controller}
    {stream : Stream}
    (faithful : Faithful number earlier controller)
    (made : Report)
    (found : controller.streams[number]? = some stream)
    (calm : stream.react = Reaction.calm)
    (incomplete : made.isComplete = false) :
    ∃ later, (makeReport number made).on controller = (.ok (), later) ∧
      Faithful number earlier later ∧
      reportedIn number (since earlier later) =
        reportedIn number (since earlier controller) ++ [made] := by
  cases ended : stream.ended.isSet with
  | true =>
      have grown : trace (reporting number made controller) = trace controller ++
          [recordOf controller (.noted (.event (.reported number made)))] :=
        trace_recorded _ _
      refine ⟨_, on_makeReport_of_ended made found ended, faithful.dropped made found ended, ?_⟩
      rw [since_append faithful.longer grown, reportedIn_append]
      simp [eventsOf, Trace.notes, reportedIn]
  | false =>
      refine ⟨delivering number made controller, ?_, faithful.passed made found ended, ?_⟩
      · rw [on_makeReport_of_open made found ended, calm, incomplete]
        rfl
      · rw [since_append faithful.longer (trace_delivering _ _ _), reportedIn_append]
        simp [eventsOf, Trace.notes, reportedIn]

/-- What dispatching a request comes to when a caller who just takes reports has it
executed. -/
def dispatched (request : Node) (controller : Controller) :
    Except Ending (Except DispatchError Handle) × Controller :=
  (dispatch (nested (executeOn (nestingLimit - 1))) request controller.streams.length).on
    (opening false Reaction.calm controller)

/-- What dispatching a request comes to when a caller who reacts in some way has it
executed. -/
def attempted (react : Reaction) (request : Node) (controller : Controller) :
    Except Ending (Except DispatchError Handle) × Controller :=
  (dispatch (nested (executeOn (nestingLimit - 1))) request controller.streams.length).on
    (opening false react controller)

theorem attempted_goes
    (react : Reaction)
    (request : Node)
    (controller : Controller) :
    Relation.ReflTransGen (Move 0) (opening false react controller)
      (attempted react request controller).2 := by
  have kept := goes_kept 0
  have executes := nested_kept kept (executeOn_kept kept (nestingLimit - 1))
  exact dispatch_kept kept executes request (Nat.zero_le _) _ (Nat.zero_le _)

theorem dispatched_goes
    (request : Node)
    (controller : Controller) :
    Relation.ReflTransGen (Move 0) (opening false Reaction.calm controller)
      (dispatched request controller).2 :=
  attempted_goes Reaction.calm request controller

/-- The controller with the handle that an execution returned. -/
def keeping (number : Nat) (handle : Handle) (controller : Controller) : Controller :=
  { controller with
    streams := controller.streams.modify number fun stream => { stream with handle } }

/-- The end of an execution. -/
theorem on_execute_attempted
    (react : Reaction)
    (request : Node)
    (controller : Controller) :
    (execute react request).on controller =
      match caught (attempted react request controller).1 with
      | .ok handle =>
        (.ok controller.streams.length,
          keeping controller.streams.length handle (attempted react request controller).2)
      | .error error =>
        match (refuse controller.streams.length error).on
            (attempted react request controller).2 with
        | (.ok handle, later) =>
          (.ok controller.streams.length, keeping controller.streams.length handle later)
        | (.error early, later) => (.error early, later) := by
  unfold execute
  rw [on_openStream_bind, executeOn_limit, on_bind, on_conclude]
  unfold attempted
  cases caught (Run.on _ _).1 with
  | ok handle => rfl
  | error error =>
      dsimp only
      rcases (refuse controller.streams.length error).on _ with ⟨_ | handle, later⟩ <;> rfl

/-- The end of an execution for a caller who just takes reports. -/
theorem on_execute
    (request : Node)
    (controller : Controller) :
    (execute Reaction.calm request).on controller =
      match caught (dispatched request controller).1 with
      | .ok handle =>
        (.ok controller.streams.length,
          keeping controller.streams.length handle (dispatched request controller).2)
      | .error error =>
        match (refuse controller.streams.length error).on (dispatched request controller).2 with
        | (.ok handle, later) =>
          (.ok controller.streams.length, keeping controller.streams.length handle later)
        | (.error early, later) => (.error early, later) :=
  on_execute_attempted Reaction.calm request controller

theorem Faithful.keeping
    {number : Nat}
    {earlier controller : Controller}
    (faithful : Faithful number earlier controller)
    (handle : Handle) :
    Faithful number earlier (keeping number handle controller) :=
  faithful.move (Move.keeps number handle : Move 0 _ _)

/-- A controller with a handler that completes after a fragment, reports on and then fails. -/
def relapsing : Controller :=
  (withKeeper .memory Files.empty).after
    [.register Address.root "work"
      ⟨"relapse", .inline
        [.report (.fragment ["half"] (.bool true)), .report (.complete .null),
          .report (.fragment ["rest"] .null), .raise (.plain "late")] false⟩]

end Controller
end ManagedTree
