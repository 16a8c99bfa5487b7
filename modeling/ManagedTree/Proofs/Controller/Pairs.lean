import ManagedTree.Proofs.Controller.Moves
import ManagedTree.Proofs.Trace.Fate

/-!
# Records that come together

On the way from a completion to the keeper some records always stand side by side in
the trace of a controller: a completion that a caller takes and the errand that is
handed over for it, and the start of an errand, the keeper's turn and the end.
-/

namespace ManagedTree

open Controller

namespace Record

/-- Whether a caller gets the completion of a stream. -/
def completes (number : Nat) (record : Record Errand Occurrence) : Bool :=
  match record.moment with
  | .noted (.event (.delivered stream report)) => stream == number && report.isComplete
  | _ => false

/-- Whether the keeper is asked to store the tree for a stream. -/
def stores (number : Nat) (record : Record Errand Occurrence) : Bool :=
  match record.moment with
  | .noted (.event (.stored stream _ _)) => stream == some number
  | _ => false

variable {number : Nat} {record : Record Errand Occurrence}

theorem completes_eq_true :
    record.completes number = true ↔
      ∃ report, record.moment = .noted (.event (.delivered number report)) ∧
        report.isComplete = true := by
  unfold completes
  split
  · rename_i moment
    simp [moment]
  · rename_i different
    simp only [Bool.false_eq_true, false_iff, not_exists, not_and]
    intro report moment
    exact absurd moment (different number report)

theorem stores_eq_true :
    record.stores number = true ↔
      ∃ root held, record.moment = .noted (.event (.stored (some number) root held)) := by
  unfold stores
  split
  · rename_i moment
    simp [moment]
  · rename_i different
    simp only [Bool.false_eq_true, false_iff, not_exists]
    intro root held moment
    exact different _ root held moment

end Record

/-- Whether a moment is neither a completion nor about an errand or the keeper. -/
def Moment.isIdle : Moment Errand Occurrence → Bool
  | .entered _ _ | .left _ _ | .returned _ => true
  | .handed _ _ _ | .started _ _ _ | .ended _ _ => false
  | .noted (.event (.delivered _ report)) => !report.isComplete
  | .noted (.event (.stored _ _ _)) => false
  | .noted _ => true

theorem Moment.isIdle_of_isPassage
    {moment : Moment Errand Occurrence}
    (passage : moment.isPassage = true) :
    moment.isIdle = true := by
  cases moment <;> first | rfl | cases passage

theorem Moment.isIdle_of_isPlain
    {event : Event}
    (plain : event.isPlain = true) :
    isIdle (.noted (.event event)) = true := by
  cases event <;> first | rfl | cases plain

theorem Moment.isIdle_of_dispatching
    {occurrence : Occurrence}
    {stream : Nat}
    (dispatching : occurrence.dispatching? = some stream) :
    isIdle (.noted occurrence) = true := by
  cases occurrence <;> first | rfl | cases dispatching

namespace Controller

open HasLedger Trace

/-- A record comes together with those beside it, when no caller of some streams panics and
the keeper does not. -/
structure Paired
    (calm : Nat → Prop) (past : Trace Errand Occurrence) (record : Record Errand Occurrence)
    (future : Trace Errand Occurrence) : Prop where
  /-- A completion that a caller takes is handed over to be stored. -/
  completed : ∀ number, record.completes number = true → calm number →
    ∃ action rest, future = record.beside (.handed action home (.store number)) :: rest
  /-- Nothing but a completion is handed over. -/
  handed : ∀ action tree number, record.moment = .handed action tree (.store number) →
    tree = home ∧ ∃ earlier completing, past = earlier ++ [completing] ∧
      completing.completes number = true ∧ completing.thread = record.thread
  /-- When an errand starts, the keeper is asked next, and the errand ends. -/
  started : ∀ action tree number, record.moment = .started action tree (.store number) →
    ∃ root rest, record.trees = [root] ∧
      future = record.beside
          (.noted (.event (.stored (some number) root (record.stack.contains home)))) ::
        record.beside (.ended action false) :: rest
  /-- The keeper is only asked when an errand starts. -/
  stored : ∀ number root held,
    record.moment = .noted (.event (.stored (some number) root held)) →
      ∃ earlier action tree,
        past = earlier ++ [record.beside (.started action tree (.store number))]
  /-- An errand ends by returning, after the keeper was asked. -/
  ended : ∀ action failed, record.moment = .ended action failed →
    failed = false ∧ ∃ earlier asking tree number,
      past = earlier ++ [record.beside (.started action tree (.store number)), asking]

namespace Paired

variable
  {calm : Nat → Prop} {past future : Trace Errand Occurrence} {record : Record Errand Occurrence}

/-- What comes later separates no records. -/
theorem append
    (paired : Paired calm past record future)
    (more : Trace Errand Occurrence) :
    Paired calm past record (future ++ more) where
  completed number completes callerCalm := by
    obtain ⟨action, rest, rfl⟩ := paired.completed number completes callerCalm
    exact ⟨action, rest ++ more, rfl⟩
  handed := paired.handed
  started action tree number moment := by
    obtain ⟨root, rest, trees, rfl⟩ := paired.started action tree number moment
    exact ⟨root, rest ++ more, trees, rfl⟩
  stored := paired.stored
  ended := paired.ended

/-- An idle record stands alone. -/
theorem of_idle
    (calm : Nat → Prop)
    (past future : Trace Errand Occurrence)
    (idle : record.moment.isIdle = true) :
    Paired calm past record future := by
  refine ⟨?_, ?_, ?_, ?_, ?_⟩
  · intro number completes
    obtain ⟨report, moment, complete⟩ := Record.completes_eq_true.1 completes
    rw [moment, Moment.isIdle, complete] at idle
    cases idle
  all_goals
    intros
    rename_i moment
    rw [moment] at idle
    cases idle

end Paired

/-- The callers of some streams never panic. -/
def Calm (calm : Nat → Prop) (streams : List Stream) : Prop :=
  ∀ (number : Nat) (stream : Stream), streams[number]? = some stream → calm number →
    ∀ past report, stream.react past report = none

theorem Calm.of_grows
    {calm : Nat → Prop}
    {before later : List Stream}
    (callers : Calm calm later)
    (grows : Grows before later) :
    Calm calm before := by
  intro number stream found callerCalm past report
  obtain ⟨other, there, same⟩ := grows.stays number stream found
  rw [← same]
  exact callers number other there callerCalm past report

theorem holdsTree_eq
    (controller : Controller)
    (moment : Moment Errand Occurrence) :
    controller.holdsTree = (recordOf controller moment).stack.contains home := by
  have same : controller.ledger.scopes = scopes controller := rfl
  rw [stack_recordOf, List.contains_reverse, holdsTree, Scope.holds, same, Bool.eq_iff_iff]
  simp

variable {floor : Nat} {calm : Nat → Prop} {before later : Controller}

theorem paired_recorded
    {moment : Moment Errand Occurrence}
    (idle : moment.isIdle = true) :
    ∃ segment, trace (recorded moment before) = trace before ++ segment ∧
      Throughout (Paired calm) (trace before) segment :=
  ⟨_, trace_recorded moment before, .single (.of_idle calm _ _ idle)⟩

/-- The records of a move come together. -/
theorem Move.paired
    (move : Move floor before later)
    (returns : before.keeper.Returns)
    (callers : Calm calm later.streams) :
    ∃ segment, trace later = trace before ++ segment ∧
      Throughout (Paired calm) (trace before) segment := by
  cases move with
  | aside same => exact ⟨[], same.trace_eq, trivial⟩
  | turns | opens | keeps => exact ⟨[], (List.append_nil _).symm, trivial⟩
  | passes passage => exact paired_recorded (Moment.isIdle_of_isPassage passage)
  | notes plain => exact paired_recorded (Moment.isIdle_of_isPlain plain)
  | dispatches dispatching => exact paired_recorded (Moment.isIdle_of_dispatching dispatching)
  | drops => exact paired_recorded rfl
  | delivers found unended panics =>
      rename_i number stream report
      refine ⟨_, trace_delivering _ _ _, .of_idle calm _ _ rfl, ?_⟩
      refine ⟨⟨?_, by simp, by simp, by simp, by simp⟩, trivial⟩
      intro other completes callerCalm
      obtain ⟨made, moment, complete⟩ := Record.completes_eq_true.1 completes
      obtain ⟨rfl, rfl⟩ : number = other ∧ report = made := by simpa using moment
      obtain ⟨past, panicking⟩ := panics complete
      have returning := callers.of_grows (grows_delivering number report before)
        number stream found callerCalm past report
      rw [returning] at panicking
      cases panicking
  | completes found unended complete =>
      rename_i number stream report
      refine ⟨_, trace_handing _ _ _, .of_idle calm _ _ rfl, ?_⟩
      refine ⟨⟨?_, by simp, by simp, by simp, by simp⟩, ?_, trivial⟩
      · intro other completes callerCalm
        obtain ⟨made, moment, _⟩ := Record.completes_eq_true.1 completes
        obtain ⟨rfl, rfl⟩ : number = other ∧ report = made := by simpa using moment
        exact ⟨_, [], rfl⟩
      · refine ⟨by simp [Record.completes], ?_, by simp, by simp, by simp⟩
        intro action tree other moment
        obtain ⟨-, rfl, rfl⟩ : _ ∧ home = tree ∧ number = other := by simpa using moment
        refine ⟨rfl, _, _, rfl, ?_, rfl⟩
        exact Record.completes_eq_true.2 ⟨report, rfl, complete⟩
  | stores action tree number =>
      have grown := trace_carrying action tree number before
      have answers : before.response.isPanic = false := returns.isPanic_store_eq _ _
      rw [answers] at grown
      refine ⟨_, grown, ?_, ?_, ?_, trivial⟩
      · refine ⟨by simp [Record.completes], by simp, ?_, by simp, by simp⟩
        intro other home stream moment
        obtain ⟨rfl, rfl, rfl⟩ : action = other ∧ tree = home ∧ number = stream := by
          simpa using moment
        refine ⟨before.tree, [], rfl, ?_⟩
        rw [← holdsTree_eq]
        rfl
      · refine ⟨by simp [Record.completes], by simp, by simp, ?_, by simp⟩
        intro stream root held moment
        obtain ⟨rfl, -, -⟩ : number = stream ∧ _ := by simpa using moment
        exact ⟨_, action, tree, rfl⟩
      · refine ⟨by simp [Record.completes], by simp, by simp, by simp, ?_⟩
        intro other failed moment
        obtain ⟨rfl, rfl⟩ : action = other ∧ false = failed := by simpa using moment
        exact ⟨rfl, trace before, _, tree, number, List.append_assoc _ [_] [_]⟩

theorem Move.keeper_eq
    (move : Move floor before later) :
    later.keeper = before.keeper := by
  have passes : ∀ number report,
      (delivering number report before).keeper = before.keeper := by
    intro number report
    unfold delivering passing
    split <;> rfl
  cases move with
  | aside same => exact same.keeper_eq
  | delivers => exact passes _ _
  | completes => exact passes _ _
  | _ => rfl

theorem keeper_of_moves
    (moves : Relation.ReflTransGen (Move floor) before later) :
    later.keeper = before.keeper := by
  induction moves with
  | refl => rfl
  | tail _ move inductionHypothesis => exact move.keeper_eq.trans inductionHypothesis

/-- Whatever a controller does, its records come together. -/
theorem paired_of_moves
    (moves : Relation.ReflTransGen (Move floor) before later)
    (returns : before.keeper.Returns)
    (callers : Calm calm later.streams) :
    ∃ segment, trace later = trace before ++ segment ∧
      Throughout (Paired calm) (trace before) segment := by
  induction moves with
  | refl => exact ⟨[], (List.append_nil _).symm, trivial⟩
  | @tail middle later moves move inductionHypothesis =>
      obtain ⟨segment, grown, paired⟩ := inductionHypothesis (callers.of_grows move.grows)
      have stillReturns : middle.keeper.Returns := by
        rw [keeper_of_moves moves]
        exact returns
      obtain ⟨more, grownMore, pairedMore⟩ := move.paired stillReturns callers
      refine ⟨segment ++ more, ?_, Throughout.append ?_ paired ?_⟩
      · rw [grownMore, grown, List.append_assoc]
      · intro past record future rest together
        exact together.append rest
      · rw [← grown]
        exact pairedMore

/-- No errand fails to return. -/
theorem returning_of_paired
    {trace : Trace Errand Occurrence}
    (paired : Throughout (Paired calm) [] trace) :
    Returning trace := by
  intro record present action ended
  obtain ⟨past, future, rfl⟩ := List.append_of_mem present
  have returned := ((Throughout.at_split paired).ended action true ended).1
  cases returned

end Controller
end ManagedTree
