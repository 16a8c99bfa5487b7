import ManagedTree.Proofs.Controller.Storage
import ManagedTree.Proofs.Scope.Gains

/-!
# Work that leaves a stream alone

A report on one stream, and every other step that a controller takes, leaves all other streams
alone: nothing reaches their callers, and the keeper is not asked for them, neither then nor when
a closure is left.
-/

namespace ManagedTree

/-- Whether a report reaches the caller of a stream, or the keeper is asked for it. -/
def Record.concerns (number : Nat) (record : Record Errand Occurrence) : Bool :=
  match record.moment with
  | .noted (.event (.delivered stream _)) => stream == number
  | .noted (.event (.stored stream _ _)) => stream == some number
  | _ => false

namespace Controller

open HasLedger Run

/-- A stream is left alone, and all calls as well. -/
structure Quiet (number : Nat) (before later : Controller) : Prop where
  /-- Nothing concerns the stream. -/
  silent : ∃ segment, trace later = trace before ++ segment ∧
    ∀ record ∈ segment, record.concerns number = false
  /-- The stream stays open, with the same caller. -/
  stays : ∀ stream, before.streams[number]? = some stream →
    ∃ other, later.streams[number]? = some other ∧
      other.react = stream.react ∧ other.ended = stream.ended
  /-- The calls are the same. -/
  calls_eq : later.calls = before.calls

/-- What does not concern a stream reaches neither its caller nor the keeper. -/
theorem deliveredIn_of_silent
    {number : Nat}
    {segment : Trace Errand Occurrence}
    (silent : ∀ record ∈ segment, record.concerns number = false) :
    deliveredIn number (eventsOf segment) = [] := by
  rw [deliveredIn, List.filterMap_eq_nil_iff]
  intro event present
  obtain ⟨record, among, moment⟩ := exists_noted_of_mem_eventsOf present
  have concerns := silent record among
  rw [Record.concerns, moment] at concerns
  cases event <;> simp_all

theorem asked_of_silent
    {number : Nat}
    {segment : Trace Errand Occurrence}
    (silent : ∀ record ∈ segment, record.concerns number = false) :
    asked number segment = 0 := by
  rw [asked, List.countP_eq_zero]
  intro record present stores
  obtain ⟨root, held, moment⟩ := Record.stores_eq_true.1 stores
  have concerns := silent record present
  rw [Record.concerns, moment] at concerns
  simp at concerns

/-- A stream is left alone, and the open scopes have gained no errand for it. -/
structure Spares (number : Nat) (before later : Controller) : Prop where
  /-- The stream is left alone. -/
  quiet : Quiet number before later
  /-- The scopes have gained no errand for it. -/
  gains : Gaining (· ≠ Errand.store number) before later

variable {number : Nat} {before later : Controller}

/-- Nothing happens but what does not concern a stream. -/
theorem Quiet.of_segment
    {segment : Trace Errand Occurrence}
    (grown : trace later = trace before ++ segment)
    (silent : ∀ record ∈ segment, record.concerns number = false)
    (streams : later.streams = before.streams)
    (calls : later.calls = before.calls) :
    Quiet number before later := by
  refine ⟨⟨segment, grown, silent⟩, fun stream found => ?_, calls⟩
  rw [streams]
  exact ⟨stream, found, rfl, rfl⟩

/-- Nothing happens. -/
theorem Quiet.of_eq
    (ledger : trace later = trace before)
    (streams : later.streams = before.streams)
    (calls : later.calls = before.calls) :
    Quiet number before later :=
  .of_segment (ledger.trans (List.append_nil _).symm) (by simp) streams calls

instance (number : Nat) : Std.Refl (Quiet number) where
  refl _ := .of_eq rfl rfl rfl

instance (number : Nat) : IsTrans Controller (Quiet number) where
  trans _ _ _ first second := by
    obtain ⟨segment, grown, silent⟩ := first.silent
    obtain ⟨more, grownMore, silentMore⟩ := second.silent
    refine ⟨⟨segment ++ more, ?_, ?_⟩, fun stream found => ?_,
      second.calls_eq.trans first.calls_eq⟩
    · rw [grownMore, grown, List.append_assoc]
    · intro record present
      exact (List.mem_append.1 present).elim (silent record) (silentMore record)
    · obtain ⟨middle, there, react, ended⟩ := first.stays stream found
      obtain ⟨last, stillThere, reactLast, endedLast⟩ := second.stays middle there
      exact ⟨last, stillThere, reactLast.trans react, endedLast.trans ended⟩

instance (number : Nat) : Std.Refl (Spares number) where
  refl controller := ⟨refl_of (Quiet number) controller, refl_of (Gaining _) controller⟩

instance (number : Nat) : IsTrans Controller (Spares number) where
  trans _ _ _ first second :=
    ⟨trans_of (Quiet number) first.quiet second.quiet,
      trans_of (Gaining _) first.gains second.gains⟩

/-! ## Single steps -/

/-- Something is recorded that does not concern a stream. -/
theorem mark_quiet
    {moment : Moment Errand Occurrence}
    (silent : ∀ controller : Controller, (recordOf controller moment).concerns number = false) :
    Keeps (Quiet number) (mark moment : Work Unit) := by
  intro controller
  refine .of_segment (trace_recorded moment controller) ?_ rfl rfl
  simpa using silent controller

theorem mark_spares
    {moment : Moment Errand Occurrence}
    (silent : ∀ controller : Controller, (recordOf controller moment).concerns number = false) :
    Keeps (Spares number) (mark moment : Work Unit) :=
  fun controller => ⟨mark_quiet silent controller, mark_gains moment controller⟩

/-- A moment that is not noted concerns no stream. -/
theorem mark_spares_of_unnoted
    (moment : Moment Errand Occurrence)
    (unnoted : ∀ occurrence, moment ≠ .noted occurrence) :
    Keeps (Spares number) (mark moment : Work Unit) := by
  refine mark_spares fun _ => ?_
  cases moment with
  | noted occurrence => exact absurd rfl (unnoted occurrence)
  | _ => rfl

theorem note_spares
    {event : Event}
    (plain : event.isPlain = true) :
    Keeps (Spares number) (note event) := by
  refine mark_spares fun _ => ?_
  cases event <;> first | rfl | cases plain

theorem dispatches_spares
    {occurrence : Occurrence}
    {stream : Nat}
    (dispatching : occurrence.dispatching? = some stream) :
    Keeps (Spares number) (mark (.noted occurrence) : Work Unit) := by
  refine mark_spares fun _ => ?_
  cases occurrence <;> first | rfl | cases dispatching

/-- Changing streams but neither their callers nor whether they have ended, where it concerns a
stream. -/
theorem Spares.of_streams
    {streams : List Stream}
    (stays : ∀ stream, before.streams[number]? = some stream →
      ∃ other, streams[number]? = some other ∧
        other.react = stream.react ∧ other.ended = stream.ended) :
    Spares number before { before with streams } :=
  ⟨⟨⟨[], (List.append_nil _).symm, by simp⟩, stays, rfl⟩, .of_ledger_eq rfl⟩

theorem opening_spares
    (blocks : Bool)
    (react : Reaction)
    (controller : Controller) :
    Spares number controller (opening blocks react controller) := by
  refine .of_streams fun stream found => ⟨stream, ?_, rfl, rfl⟩
  exact List.getElem?_append_left (List.getElem?_eq_some_iff.1 found).1 ▸ found

theorem keepHandle_spares
    (other : Nat)
    (handle : Handle) :
    Keeps (Spares number) (keepHandle other handle) := by
  intro controller
  refine .of_streams fun stream found => ?_
  rw [List.getElem?_modify, found]
  refine ⟨_, rfl, ?_⟩
  dsimp only
  split <;> exact ⟨rfl, rfl⟩

/-! ## Other streams -/

section

variable {other : Nat}

theorem ending_spares
    (different : other ≠ number) :
    Keeps (Spares number) (modify (ending other) : Work PUnit) := by
  refine fun _ => .of_streams fun stream found => ⟨stream, ?_, rfl, rfl⟩
  rw [List.getElem?_modify_ne _ _ different]
  exact found

/-- The keeper is asked for another stream. -/
theorem storing_spares
    (different : other ≠ number)
    (controller : Controller) :
    Spares number controller (storing (some other) controller) := by
  have notes : Spares number controller (recorded (.noted (.event
      (.stored (some other) controller.tree controller.holdsTree))) controller) :=
    mark_spares (fun _ => by simp [Record.concerns, different]) controller
  exact ⟨⟨notes.quiet.silent, notes.quiet.stays, rfl⟩, notes.gains⟩

/-- The errand of another stream. -/
theorem carryOut_spares
    (different : other ≠ number)
    (action tree : Nat) :
    Keeps (Spares number) (carryOut Controller.run tree (action, .store other)) :=
  carryOut_keeps mark_spares_of_unnoted (storing_spares different)

/-- Storing the tree is handed over for another stream. -/
theorem unlocked_spares
    (different : other ≠ number) :
    Keeps (Spares number) (unlocked Controller.run home (.store other)) := by
  intro controller
  refine ⟨?_, ?_⟩
  · refine unlocked_keeps (fun moment unnoted controller =>
      (mark_spares_of_unnoted moment unnoted controller).quiet)
      (fun _ _ => .of_eq rfl rfl rfl)
      (fun controller => (storing_spares different controller).quiet) controller
  · refine unlocked_gains (fun controller => ?_) home (by simpa using different) controller
    dsimp only [Controller.run]
    rw [on_store]
    exact (storing_spares different controller).gains

/-- A report on another stream. -/
theorem makeReport_spares
    (different : other ≠ number)
    (made : Report) :
    Keeps (Spares number) (makeReport other made) := by
  have delivers : Keeps (Spares number) (note (.delivered other made)) :=
    mark_spares fun _ => by simp [Record.concerns, different]
  exact makeReport_keeps (mark_spares fun _ => rfl) (ending_spares different) delivers
    (unlocked_spares different)

end

end Controller
end ManagedTree
