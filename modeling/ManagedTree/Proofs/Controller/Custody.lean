import ManagedTree.Proofs.Controller.Pairs
import ManagedTree.Proofs.Controller.Protocol

/-!
# What the keeper of a controller is asked

Whenever a trace notes that the keeper of a controller was asked to store a tree, that was the
controller's tree, the keeper gets it, and it never gets another.  An archive stores it in its
file, and any other keeper responds to all the trees that it has got by then: when it panics, the
errand fails.
-/

namespace ManagedTree

open Controller

/-- What a keeper has done while a segment of a trace was recorded, by what it found before and
what it finds later. -/
structure Keeper.Served
    (keeper : Keeper) (before : Custody) (segment : Trace Errand Occurrence) (later : Custody) :
    Prop where
  /-- It has got the trees that the segment notes, in order, and no others. -/
  received : later.received = before.received ++ storedIn (eventsOf segment)
  /-- Each was the tree of the controller when the keeper was asked. -/
  whole : ∀ asking ∈ segment, ∀ stream root held,
    asking.moment = .noted (.event (.stored stream root held)) → asking.trees = [root]
  /-- An archive has stored them in its file, one after another. -/
  archived : ∀ file, keeper = .archive file →
    later.files = file.storeAll (storedIn (eventsOf segment)) before.files
  /-- Any other keeper has left the files alone. -/
  spared : (∀ file, keeper ≠ .archive file) → later.files = before.files
  /-- After each tree its errand ends, and fails to return when the keeper responds to the trees up
  to that one by a panic. -/
  answered : ∀ past asking future stream root held, segment = past ++ asking :: future →
    asking.moment = .noted (.event (.stored stream root held)) →
      ∃ action failed rest, future = asking.beside (.ended action failed) :: rest ∧
        (failed = true ↔ ∃ respond panic, keeper = .custom respond ∧
          respond (before.received ++ storedIn (eventsOf past) ++ [root]) = .panicked panic)

namespace Controller

open HasLedger

theorem storedIn_append (events more : List Event) :
    storedIn (events ++ more) = storedIn events ++ storedIn more :=
  List.filterMap_append

/-- The events of a trace are those that it notes. -/
theorem exists_noted_of_mem_eventsOf
    {event : Event}
    {segment : Trace Errand Occurrence}
    (present : event ∈ eventsOf segment) :
    ∃ record ∈ segment, record.moment = .noted (.event event) := by
  obtain ⟨occurrence, noted, about⟩ := List.mem_filterMap.1 present
  obtain ⟨record, among, moment⟩ := List.mem_filterMap.1 noted
  refine ⟨record, among, ?_⟩
  split at moment <;> split at about <;> simp_all

end Controller

/-- Whether the keeper is asked to store a tree. -/
def Record.asks (record : Record Errand Occurrence) : Bool :=
  match record.moment with
  | .noted (.event (.stored _ _ _)) => true
  | _ => false

theorem Record.asks_of_isIdle
    {record : Record Errand Occurrence}
    (idle : record.moment.isIdle = true) :
    record.asks = false := by
  unfold asks
  split
  · rename_i asking
    rw [asking] at idle
    cases idle
  · rfl

/-- A record of a segment that is followed by another is a record of one of them. -/
theorem split_append
    {α : Type}
    {first second past future : List α}
    {item : α}
    (same : first ++ second = past ++ item :: future) :
    (∃ rest, first = past ++ item :: rest ∧ future = rest ++ second) ∨
      ∃ more, past = first ++ more ∧ second = more ++ item :: future := by
  rcases List.append_eq_append_iff.1 same with ⟨more, rfl, tail⟩ | ⟨between, rfl, tail⟩
  · exact Or.inr ⟨more, rfl, tail⟩
  · cases between with
    | nil => exact Or.inr ⟨[], by simp, tail.symm⟩
    | cons head between =>
        obtain ⟨rfl, rfl⟩ := List.cons_eq_cons.1 tail
        exact Or.inl ⟨between, rfl, rfl⟩

namespace Keeper.Served

variable
  {keeper : Keeper} {before middle later : Custody} {segment more : Trace Errand Occurrence}

/-- A keeper that is not asked finds the same later. -/
theorem of_silent
    (silent : ∀ record ∈ segment, record.asks = false)
    (same : later = before) :
    keeper.Served before segment later := by
  have unasked : ∀ record ∈ segment, ∀ stream root held,
      record.moment ≠ .noted (.event (.stored stream root held)) := by
    intro record among stream root held moment
    have asks := silent record among
    rw [Record.asks, moment] at asks
    cases asks
  have nothing : storedIn (eventsOf segment) = [] := by
    rw [storedIn, List.filterMap_eq_nil_iff]
    intro event present
    obtain ⟨record, among, moment⟩ := exists_noted_of_mem_eventsOf present
    cases event with
    | stored stream root held => exact absurd moment (unasked record among stream root held)
    | _ => rfl
  subst same
  refine ⟨?_, ?_, fun file _ => ?_, fun _ => rfl, ?_⟩
  · rw [nothing, List.append_nil]
  · intro asking present stream root held moment
    exact absurd moment (unasked asking present stream root held)
  · rw [nothing]
    rfl
  · rintro past asking future stream root held rfl moment
    exact absurd moment (unasked asking (by simp) stream root held)

/-- What a keeper does over two segments. -/
theorem append
    (first : keeper.Served before segment middle)
    (second : keeper.Served middle more later) :
    keeper.Served before (segment ++ more) later := by
  have trees : storedIn (eventsOf (segment ++ more)) =
      storedIn (eventsOf segment) ++ storedIn (eventsOf more) := by
    rw [eventsOf_append, storedIn_append]
  refine ⟨?_, ?_, fun file same => ?_, fun other => ?_, ?_⟩
  · rw [second.received, first.received, trees, List.append_assoc]
  · intro asking present
    exact (List.mem_append.1 present).elim (first.whole asking) (second.whole asking)
  · rw [second.archived file same, first.archived file same, trees, Archive.storeAll_append]
  · rw [second.spared other, first.spared other]
  · intro past asking future stream root held split moment
    rcases split_append split with ⟨rest, early, rfl⟩ | ⟨past, rfl, late⟩
    · obtain ⟨action, failed, rest, rfl, panics⟩ :=
        first.answered past asking rest stream root held early moment
      exact ⟨action, failed, rest ++ more, rfl, panics⟩
    · obtain ⟨action, failed, rest, ends, panics⟩ :=
        second.answered past asking future stream root held late moment
      refine ⟨action, failed, rest, ends, ?_⟩
      rw [panics, first.received, eventsOf_append, storedIn_append, List.append_assoc
        before.received]

/-- A keeper is asked to store a tree, and the errand for that ends. -/
theorem asked
    (custody : Custody)
    (action : Nat)
    {asking : Record Errand Occurrence}
    {stream : Option Nat}
    {root : Node}
    {held : Bool}
    (moment : asking.moment = .noted (.event (.stored stream root held)))
    (whole : asking.trees = [root]) :
    keeper.Served custody
      [asking, asking.beside (.ended action (keeper.store root custody).1.isPanic)]
      (keeper.store root custody).2 := by
  set ending := asking.beside (.ended action (keeper.store root custody).1.isPanic) with endingDef
  have trees : storedIn (eventsOf [asking, ending]) = [root] := by
    simp [eventsOf, Trace.notes, moment, endingDef, Record.beside, storedIn]
  refine ⟨?_, ?_, ?_, ?_, ?_⟩
  · rw [trees, received_store]
  · intro record present other tree heldThen momentThen
    rcases List.mem_pair.1 present with rfl | rfl
    · obtain ⟨-, rfl, -⟩ : stream = other ∧ root = tree ∧ held = heldThen := by
        simpa [moment] using momentThen
      exact whole
    · cases momentThen
  · rintro file rfl
    rw [trees, files_store_archive]
  · exact files_store_of_ne_archive root custody
  · intro past record future other tree heldThen split momentThen
    cases past with
    | nil =>
        obtain ⟨rfl, rfl⟩ := List.cons_eq_cons.1 split
        obtain ⟨-, rfl, -⟩ : stream = other ∧ root = tree ∧ held = heldThen := by
          simpa [moment] using momentThen
        have before : custody.received ++ storedIn (eventsOf []) = custody.received :=
          List.append_nil _
        refine ⟨action, _, [], rfl, ?_⟩
        rw [before]
        exact isPanic_store root custody
    | cons first past =>
        have present : record ∈ [ending] := by
          rw [(List.cons_eq_cons.1 split).2]
          simp
        rw [List.mem_singleton.1 present, endingDef] at momentThen
        cases momentThen

end Keeper.Served

namespace Controller

open HasLedger

variable {floor : Nat} {before later : Controller}

theorem custody_delivering
    (number : Nat)
    (made : Report)
    (controller : Controller) :
    (delivering number made controller).custody = controller.custody := by
  unfold delivering passing
  split <;> rfl

/-- The keeper does nothing when something idle is recorded. -/
theorem served_recorded
    {moment : Moment Errand Occurrence}
    (idle : moment.isIdle = true) :
    ∃ segment, trace (recorded moment before) = trace before ++ segment ∧
      before.keeper.Served before.custody segment (recorded moment before).custody := by
  refine ⟨_, trace_recorded moment before, .of_silent ?_ rfl⟩
  exact List.forall_mem_singleton.2 (Record.asks_of_isIdle idle)

/-- What the keeper does in a move. -/
theorem Move.served (move : Move floor before later) :
    ∃ segment, trace later = trace before ++ segment ∧
      before.keeper.Served before.custody segment later.custody := by
  cases move with
  | aside same => exact ⟨[], same.trace_eq, .of_silent (by simp) same.custody_eq⟩
  | turns | opens | keeps => exact ⟨[], (List.append_nil _).symm, .of_silent (by simp) rfl⟩
  | passes passage => exact served_recorded (Moment.isIdle_of_isPassage passage)
  | notes plain => exact served_recorded (Moment.isIdle_of_isPlain plain)
  | dispatches dispatching => exact served_recorded (Moment.isIdle_of_dispatching dispatching)
  | drops => exact served_recorded rfl
  | delivers =>
      exact ⟨_, trace_delivering _ _ _,
        .of_silent (by simp [Record.asks]) (custody_delivering _ _ _)⟩
  | completes =>
      exact ⟨_, trace_handing _ _ _, .of_silent (by simp [Record.asks]) (custody_delivering _ _ _)⟩
  | stores action tree number =>
      have starts : before.keeper.Served before.custody
          [recordOf before (.started action tree (.store number))] before.custody :=
        .of_silent (by simp [Record.asks]) rfl
      exact ⟨_, trace_carrying action tree number before,
        starts.append (.asked before.custody action rfl rfl)⟩

/-- What the keeper does as a controller moves on. -/
theorem served_of_moves (moves : Relation.ReflTransGen (Move floor) before later) :
    ∃ segment, trace later = trace before ++ segment ∧
      before.keeper.Served before.custody segment later.custody := by
  induction moves with
  | refl => exact ⟨[], (List.append_nil _).symm, .of_silent (by simp) rfl⟩
  | tail moves move inductionHypothesis =>
      obtain ⟨segment, grown, served⟩ := inductionHypothesis
      obtain ⟨more, grownMore, servedMore⟩ := move.served
      rw [keeper_of_moves moves] at servedMore
      exact ⟨segment ++ more, by rw [grownMore, grown, List.append_assoc],
        served.append servedMore⟩

/-- What the keeper has done since an earlier controller. -/
theorem served_since (moves : Relation.ReflTransGen (Move floor) before later) :
    before.keeper.Served before.custody ((trace later).drop (trace before).length)
      later.custody := by
  obtain ⟨segment, grown, served⟩ := served_of_moves moves
  rw [grown, List.drop_left]
  exact served

end Controller
end ManagedTree
