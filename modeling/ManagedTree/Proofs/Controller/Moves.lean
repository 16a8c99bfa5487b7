import ManagedTree.Proofs.Controller.Kept
import ManagedTree.Proofs.Keeper
import ManagedTree.Proofs.Scope.Steps
import ManagedTree.Proofs.Scope.Within
import Mathlib.Logic.Relation

/-!
# What a controller can do

Whatever a controller does is a sequence of moves.  A move records nothing, a single
moment, or moments that always come together: a report that is made and reaches the
caller, and an errand that starts, stores the tree and ends.
-/

namespace ManagedTree

namespace Controller

open HasLedger Run

/-- The controller after a report is made. -/
def reporting (number : Nat) (report : Report) (controller : Controller) : Controller :=
  recorded (.noted (.event (.reported number report))) controller

/-- The controller after a report is made that its stream passes on. -/
def passing (number : Nat) (report : Report) (controller : Controller) : Controller :=
  if report.isTerminal then ending number (reporting number report controller)
  else reporting number report controller

/-- The controller after a report is made and reaches its caller. -/
def delivering (number : Nat) (report : Report) (controller : Controller) : Controller :=
  recorded (.noted (.event (.delivered number report))) (passing number report controller)

/-- The controller after storing its tree is handed over as an errand. -/
def handing (number : Nat) (controller : Controller) : Controller :=
  recorded (.handed (trace controller).length home (.store number)) controller

/-- How the keeper responds when it is asked to store the tree. -/
def response (controller : Controller) : Response :=
  (controller.keeper.store controller.tree controller.custody).1

/-- The controller after the keeper is asked to store its tree. -/
def storing (stream : Option Nat) (controller : Controller) : Controller :=
  { recorded (.noted (.event (.stored stream controller.tree controller.holdsTree))) controller with
    custody := (controller.keeper.store controller.tree controller.custody).2 }

/-- The controller after an errand to store its tree, which fails to return when the keeper
panics. -/
def carrying (action tree number : Nat) (controller : Controller) : Controller :=
  recorded (.ended action controller.response.isPanic)
    (storing (some number) (recorded (.started action tree (.store number)) controller))

/-- A controller moves.  Only requests on streams from a floor on are dispatched. -/
inductive Move (floor : Nat) (controller : Controller) : Controller → Prop
  /-- Something changes that nobody keeps an account of. -/
  | aside {later : Controller} :
      Aside controller later →
      Move floor controller later
  /-- Other scopes are open, or another thread runs. -/
  | turns (scopes : List (Scope Errand)) (thread : Nat) (threadName : Option String) :
      Move floor controller
        { controller with
          ledger := controller.ledger.withScopes scopes
          thread
          threadName }
  /-- A closure is entered or left. -/
  | passes {moment : Moment Errand Occurrence} :
      moment.isPassage = true →
      Move floor controller (recorded moment controller)
  /-- A plain event is noted. -/
  | notes {event : Event} :
      event.isPlain = true →
      Move floor controller (recorded (.noted (.event event)) controller)
  /-- A request is being dispatched. -/
  | dispatches {occurrence : Occurrence} {stream : Nat} :
      occurrence.dispatching? = some stream →
      floor ≤ stream →
      Move floor controller (recorded (.noted occurrence) controller)
  /-- A stream is opened. -/
  | opens (blocks : Bool) (react : Reaction) :
      Move floor controller (opening blocks react controller)
  /-- A stream's handle is kept. -/
  | keeps (number : Nat) (handle : Handle) :
      Move floor controller
        { controller with
          streams := controller.streams.modify number fun stream => { stream with handle } }
  /-- A report is made after the end of its stream. -/
  | drops {number : Nat} {stream : Stream} (report : Report) :
      controller.streams[number]? = some stream →
      stream.ended.isSet = true →
      Move floor controller (reporting number report controller)
  /-- A report is made and reaches its caller, and either it is not of completion or the
  caller panics. -/
  | delivers {number : Nat} {stream : Stream} {report : Report} :
      controller.streams[number]? = some stream →
      stream.ended.isSet = false →
      (report.isComplete = true → ∃ past, (stream.react past report).isSome = true) →
      Move floor controller (delivering number report controller)
  /-- A report of completion reaches its caller, and storing the tree is handed over. -/
  | completes {number : Nat} {stream : Stream} {report : Report} :
      controller.streams[number]? = some stream →
      stream.ended.isSet = false →
      report.isComplete = true →
      Move floor controller (handing number (delivering number report controller))
  /-- An errand asks the keeper to store the tree. -/
  | stores (action tree number : Nat) :
      Move floor controller (carrying action tree number controller)

/-- The controller moves on, as long as the floor is no higher than the number of streams. -/
def Goes (floor : Nat) (before later : Controller) : Prop :=
  floor ≤ before.streams.length → Relation.ReflTransGen (Move floor) before later

/-! ## What moves record -/

theorem trace_passing
    (number : Nat)
    (report : Report)
    (controller : Controller) :
    trace (passing number report controller) =
      trace controller ++ [recordOf controller (.noted (.event (.reported number report)))] := by
  unfold passing
  split <;> rfl

/-- A stream that passes a report on leaves the running thread where it was. -/
theorem recordOf_passing
    (number : Nat)
    (report : Report)
    (controller : Controller) :
    recordOf (passing number report controller) = recordOf controller := by
  unfold passing
  split <;> rfl

theorem trace_delivering
    (number : Nat)
    (report : Report)
    (controller : Controller) :
    trace (delivering number report controller) =
      trace controller ++
        [recordOf controller (.noted (.event (.reported number report))),
          recordOf controller (.noted (.event (.delivered number report)))] := by
  rw [delivering, trace_recorded, trace_passing, List.append_assoc, recordOf_passing]
  rfl

theorem trace_handing
    (number : Nat)
    (report : Report)
    (controller : Controller) :
    trace (handing number (delivering number report controller)) =
      trace controller ++
        [recordOf controller (.noted (.event (.reported number report))),
          recordOf controller (.noted (.event (.delivered number report))),
          recordOf controller
            (.handed (trace (delivering number report controller)).length home
              (.store number))] := by
  have same : recordOf (delivering number report controller) = recordOf controller :=
    recordOf_passing number report controller
  rw [handing, trace_recorded, same, trace_delivering, List.append_assoc]
  rfl

theorem trace_carrying
    (action tree number : Nat)
    (controller : Controller) :
    trace (carrying action tree number controller) =
      trace controller ++
        [recordOf controller (.started action tree (.store number)),
          recordOf controller
            (.noted (.event (.stored (some number) controller.tree controller.holdsTree))),
          recordOf controller (.ended action controller.response.isPanic)] := by
  have stores : trace (carrying action tree number controller) =
      trace controller ++ [_] ++ [_] ++ [_] := rfl
  rw [stores, List.append_assoc, List.append_assoc]
  rfl

theorem Aside.trace_eq
    {before later : Controller}
    (same : Aside before later) :
    trace later = trace before ++ [] := by
  rw [List.append_nil]
  exact congrArg Ledger.trace same.ledger_eq

/-! ## Streams are never taken back -/

/-- The streams of a controller are still there, with the same callers. -/
structure Grows (before later : List Stream) : Prop where
  /-- No stream goes away. -/
  length_le : before.length ≤ later.length
  /-- A stream keeps its caller. -/
  stays : ∀ (number : Nat) (stream : Stream), before[number]? = some stream →
    ∃ other : Stream, later[number]? = some other ∧ other.react = stream.react

theorem Grows.refl (streams : List Stream) : Grows streams streams :=
  ⟨Nat.le_refl _, fun _ stream found => ⟨stream, found, rfl⟩⟩

theorem Grows.trans
    {first second third : List Stream}
    (earlier : Grows first second)
    (later : Grows second third) :
    Grows first third := by
  refine ⟨Nat.le_trans earlier.length_le later.length_le, ?_⟩
  intro number stream found
  obtain ⟨middle, there, same⟩ := earlier.stays number stream found
  obtain ⟨last, stillThere, sameLast⟩ := later.stays number middle there
  exact ⟨last, stillThere, sameLast.trans same⟩

/-- Changing streams but not their callers. -/
theorem Grows.modify
    (streams : List Stream)
    (number : Nat)
    (change : Stream → Stream)
    (keeps : ∀ stream, (change stream).react = stream.react) :
    Grows streams (streams.modify number change) := by
  refine ⟨by simp, ?_⟩
  intro other stream found
  rw [List.getElem?_modify, found]
  refine ⟨_, rfl, ?_⟩
  dsimp only
  split
  · exact keeps stream
  · rfl

theorem grows_delivering
    (number : Nat)
    (report : Report)
    (controller : Controller) :
    Grows controller.streams (delivering number report controller).streams := by
  unfold delivering passing reporting
  split
  · exact Grows.modify _ _ _ fun _ => rfl
  · exact Grows.refl _

theorem Move.grows
    {floor : Nat}
    {before later : Controller}
    (move : Move floor before later) :
    Grows before.streams later.streams := by
  cases move with
  | aside same =>
      rw [same.streams_eq]
      exact Grows.refl _
  | opens blocks react =>
      refine ⟨by simp [opening], fun other stream found => ⟨stream, ?_, rfl⟩⟩
      exact List.getElem?_append_left (List.getElem?_eq_some_iff.1 found).1 ▸ found
  | keeps number handle => exact Grows.modify _ _ _ fun _ => rfl
  | delivers found unended panics => exact grows_delivering _ _ _
  | completes found unended complete => exact grows_delivering _ _ _
  | _ => exact Grows.refl _

theorem grows_of_moves
    {floor : Nat}
    {before later : Controller}
    (moves : Relation.ReflTransGen (Move floor) before later) :
    Grows before.streams later.streams := by
  induction moves with
  | refl => exact Grows.refl _
  | tail _ move inductionHypothesis => exact inductionHypothesis.trans move.grows

instance (floor : Nat) : Std.Refl (Goes floor) where
  refl _ _ := .refl

instance (floor : Nat) : IsTrans Controller (Goes floor) where
  trans _ _ _ first second bound := by
    have moves := first bound
    exact moves.trans (second (Nat.le_trans bound (grows_of_moves moves).length_le))

theorem Goes.of_move
    {floor : Nat}
    {before later : Controller}
    (move : Move floor before later) :
    Goes floor before later :=
  fun _ => .single move

/-! ## Reports and closures -/

/-- Storing asks the keeper once, which gets the tree as it is, and ends as its response says. -/
theorem on_store (stream : Option Nat) (controller : Controller) :
    (store stream).on controller = (controller.response.ending, storing stream controller) := by
  unfold store note mark
  simp only [on_get_bind, on_modify_bind]
  unfold response storing
  cases (controller.keeper.store controller.tree controller.custody).1 <;> rfl

/-- An errand starts, asks the keeper, and ends. -/
theorem on_carryOut_store
    (action tree number : Nat)
    (controller : Controller) :
    (carryOut Controller.run tree (action, .store number)).on controller =
      (controller.response.ending, carrying action tree number controller) := by
  rw [on_carryOut]
  dsimp only [Controller.run]
  rw [on_store]
  dsimp only
  rw [Response.not_isOk_ending]
  rfl

/-- An errand is carried out in one move. -/
theorem carryOut_goes
    (floor tree : Nat)
    (errand : Nat × Errand) :
    Keeps (Goes floor) (carryOut Controller.run tree errand) := by
  obtain ⟨action, ⟨number⟩⟩ := errand
  intro controller
  rw [on_carryOut_store]
  exact .of_move (.stores action tree number)

/-- Once storing the tree is handed over, it happens now or is attached to a scope. -/
theorem handing_goes
    (floor number : Nat)
    (controller : Controller) :
    Goes floor (handing number controller)
      ((unlocked Controller.run home (.store number)).on controller).2 := by
  unfold unlocked mark
  simp only [on_get_bind, on_modify_bind]
  cases Scope.attach? home ((trace controller).length, Errand.store number)
    (scopes controller) with
  | some others => exact .of_move (.turns others controller.thread controller.threadName)
  | none => exact carryOut_goes floor home _ (handing number controller)

theorem on_makeReport_of_none
    {number : Nat}
    {controller : Controller}
    (made : Report)
    (found : controller.streams[number]? = none) :
    (makeReport number made).on controller = (.ok (), controller) := by
  have absent : ¬number < controller.streams.length :=
    Nat.not_lt.2 (List.getElem?_eq_none_iff.1 found)
  unfold makeReport report
  simp only [on_get_bind, absent, if_false, found, on_pure]

@[simp] theorem reporting_streams
    (number : Nat)
    (made : Report)
    (controller : Controller) :
    (reporting number made controller).streams = controller.streams := rfl

/-- A report on a stream that has been opened is noted before the stream takes it. -/
theorem on_makeReport
    {number : Nat}
    {stream : Stream}
    {controller : Controller}
    (made : Report)
    (found : controller.streams[number]? = some stream) :
    (makeReport number made).on controller =
      (report number made).on (reporting number made controller) := by
  have present : number < controller.streams.length := (List.getElem?_eq_some_iff.1 found).1
  unfold makeReport
  rw [on_get_bind, if_pos present]
  rfl

/-- After its end a stream drops reports. -/
theorem on_makeReport_of_ended
    {number : Nat}
    {stream : Stream}
    {controller : Controller}
    (made : Report)
    (found : controller.streams[number]? = some stream)
    (ended : stream.ended.isSet = true) :
    (makeReport number made).on controller = (.ok (), reporting number made controller) := by
  rw [on_makeReport made found]
  unfold report
  simp only [on_get_bind, reporting_streams, found, ended, if_true, on_pure]

/-- Before its end a stream passes reports on to its caller, who may panic. -/
theorem on_makeReport_of_open
    {number : Nat}
    {stream : Stream}
    {controller : Controller}
    (made : Report)
    (found : controller.streams[number]? = some stream)
    (unended : stream.ended.isSet = false) :
    (makeReport number made).on controller =
      match stream.react ((passing number made controller).delivered number) made with
      | some panic => (.error (.panic panic), delivering number made controller)
      | none =>
        if made.isComplete then
          (unlocked Controller.run home (.store number)).on (delivering number made controller)
        else
          (.ok (), delivering number made controller) := by
  have delivers : (makeReport number made).on controller =
      (do
        deliver number stream.react made
        if made.isComplete then unlocked Controller.run home (.store number)
        : Work Unit).on (passing number made controller) := by
    rw [on_makeReport made found]
    unfold report passing
    simp only [on_get_bind, reporting_streams, found, unended, Bool.false_eq_true, if_false]
    split
    · simp only [on_modify_bind]
    · rfl
  rw [delivers, on_bind]
  unfold deliver note mark
  simp only [on_get_bind, on_modify_bind]
  cases stream.react ((passing number made controller).delivered number) made with
  | some panic => rfl
  | none => cases made.isComplete <;> rfl

/-- A report is dropped, or it reaches its caller, and completion has the tree stored. -/
theorem makeReport_goes
    (floor number : Nat)
    (made : Report) :
    Keeps (Goes floor) (makeReport number made) := by
  intro controller
  cases found : controller.streams[number]? with
  | none =>
      rw [on_makeReport_of_none made found]
      exact refl_of (Goes floor) controller
  | some stream =>
      cases ended : stream.ended.isSet with
      | true =>
          rw [on_makeReport_of_ended made found ended]
          exact .of_move (.drops made found ended)
      | false =>
          rw [on_makeReport_of_open made found ended]
          cases reacts : stream.react ((passing number made controller).delivered number) made with
          | some panic =>
              exact .of_move (.delivers found ended fun _ => ⟨_, by rw [reacts]; rfl⟩)
          | none =>
              dsimp only
              cases complete : made.isComplete with
              | true =>
                  have handed : Goes floor controller
                      (handing number (delivering number made controller)) :=
                    .of_move (.completes found ended complete)
                  rw [if_pos rfl]
                  exact trans_of (Goes floor) handed (handing_goes floor number _)
              | false =>
                  rw [if_neg (by simp)]
                  refine .of_move (.delivers found ended fun isComplete => ?_)
                  rw [complete] at isComplete
                  cases isComplete

section

variable
  {R : Controller → Controller → Prop} [Std.Refl R] [IsTrans Controller R]
  {α : Type} {body : Work α}

omit [Std.Refl R] in
/-- Carrying an errand out keeps what its start, its end and storing the tree keep. -/
theorem carryOut_keeps
    {action tree number : Nat}
    (marks : ∀ moment : Moment Errand Occurrence, (∀ occurrence, moment ≠ .noted occurrence) →
      Keeps R (mark moment : Work Unit))
    (stores : ∀ controller : Controller, R controller (storing (some number) controller)) :
    Keeps R (carryOut Controller.run tree (action, .store number)) := by
  intro controller
  rw [on_carryOut_store]
  have starts := marks (.started action tree (.store number)) (by simp) controller
  exact trans_of R (trans_of R starts (stores _)) (marks (.ended action _) (by simp) _)

omit [Std.Refl R] in
/-- Handing over an errand keeps what attaching it to a scope and carrying it out keep. -/
theorem unlocked_keeps
    {number : Nat}
    (marks : ∀ moment : Moment Errand Occurrence, (∀ occurrence, moment ≠ .noted occurrence) →
      Keeps R (mark moment : Work Unit))
    (reopens : ∀ others : List (Scope Errand), Keeps R (reopen others : Work Unit))
    (stores : ∀ controller : Controller, R controller (storing (some number) controller)) :
    Keeps R (unlocked Controller.run home (.store number)) :=
  Run.unlocked_keeps (fun _ => marks _ (by simp)) reopens fun _ => carryOut_keeps marks stores

/-- A report keeps what its steps keep. -/
theorem makeReport_keeps
    {number : Nat}
    {made : Report}
    (reports : Keeps R (note (.reported number made)))
    (ends : Keeps R (modify (ending number) : Work PUnit))
    (delivers : Keeps R (note (.delivered number made)))
    (hands : Keeps R (unlocked Controller.run home (.store number))) :
    Keeps R (makeReport number made) := by
  have delivering : ∀ react, Keeps R (deliver number react made) := by
    intro react
    refine Keeps.get_bind fun controller => ?_
    refine Keeps.bind delivers (fun _ => ?_) controller
    split
    · exact Keeps.ofPure ()
    · exact Keeps.ofThrow _
  have rest : ∀ react, Keeps R (do
      deliver number react made
      if made.isComplete then unlocked Controller.run home (.store number) : Work Unit) := by
    intro react
    refine Keeps.bind (delivering react) fun _ => ?_
    split
    · exact hands
    · exact Keeps.ofPure ()
  have takes : Keeps R (report number made) := by
    unfold report
    refine Keeps.get_bind fun controller => ?_
    dsimp only
    split
    · exact Keeps.ofPure () controller
    · split
      · exact Keeps.ofPure () controller
      · split
        · exact Keeps.bind ends (fun _ => rest _) controller
        · exact rest _ controller
  unfold makeReport
  refine Keeps.get_bind fun controller => ?_
  dsimp only
  split
  · exact Keeps.bind reports (fun _ => takes) controller
  · exact takes controller

/-- A computation on another thread keeps what turning to it and back and the computation
keep. -/
theorem onThread_keeps
    (turns : ∀ (controller : Controller) scopes thread threadName,
      R controller
        { controller with
          ledger := controller.ledger.withScopes scopes
          thread
          threadName })
    (name : Option String)
    (keeps : Keeps R body) :
    Keeps R (onThread name body) := by
  unfold onThread
  refine Keeps.get_bind fun before => ?_
  refine Keeps.bind (Keeps.modify fun controller => turns controller _ _ _) (fun _ => ?_) before
  refine Keeps.bind (Keeps.outcome keeps) fun result => ?_
  exact Keeps.bind (Keeps.modify fun controller => turns controller _ _ _) fun _ =>
    Keeps.ofPure _

end

/-- Everything that is done with a controller goes on by moves. -/
theorem goes_kept (floor : Nat) : Kept floor fun _ => Goes floor where
  any goes := goes
  aside same _ := .of_move (.aside same)
  notes plain _ := .of_move (.notes plain)
  dispatches dispatching bound _ := .of_move (.dispatches dispatching bound)
  opens blocks react goes controller bound :=
    trans_of (Goes floor) (.of_move (.opens blocks react))
      (goes controller.streams.length bound (opening blocks react controller)) bound
  handles number handle _ := .of_move (.keeps number handle)
  reports := makeReport_goes floor
  closes := within_keeps (fun _ passage _ => .of_move (.passes passage))
    (fun others controller => .of_move (.turns others controller.thread controller.threadName))
    (carryOut_goes floor home) Ending.unwinds
  threads := onThread_keeps fun _ scopes thread threadName =>
    .of_move (.turns scopes thread threadName)
  adds _ _ := .of_move (.aside ⟨rfl, rfl, rfl, rfl, rfl⟩)
  goesOn _ goes := goes fun _ _ => .of_move (.aside ⟨rfl, rfl, rfl, rfl, rfl⟩)
  turns _ _ goes := goes fun _ _ _ => .of_move (.aside ⟨rfl, rfl, rfl, rfl, rfl⟩)

end Controller
end ManagedTree
