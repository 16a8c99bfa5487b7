import ManagedTree.Proofs.Controller.Body

/-!
# The duty of a worker

However a controller is used, a worker that has not begun stays ready to run its body until it gets
its turn, a worker that has run its body stays over, and nobody else reports on its stream.
-/

namespace ManagedTree
namespace Controller

open HasLedger Run

/-- What a worker has to do: it runs a body for a job that it got from an execution. -/
structure Duty where
  /-- The controller that was to execute the request. -/
  earlier : Controller
  /-- The number of the worker's call. -/
  call : Nat
  /-- The job. -/
  job : Job
  /-- The name of the handler. -/
  name : String
  /-- The body. -/
  body : Body

namespace Duty

/-- The worker has come so far with its duty, reports were made on its stream, and no other call
reports there. -/
structure At
    (duty : Duty) (progress : Progress) (made : List Report) (controller : Controller) :
    Prop where
  /-- The call of the worker. -/
  found : controller.calls[duty.call]? = some (.threaded duty.job duty.name progress)
  /-- What has become of the reports. -/
  told : Told duty.job.stream duty.earlier made controller
  /-- Other calls report on other streams. -/
  alone : ∀ number call, number ≠ duty.call → controller.calls[number]? = some call →
    call.job.stream ≠ duty.job.stream

/-- The worker has not begun. -/
def Pending (duty : Duty) (controller : Controller) : Prop :=
  duty.At (.ready duty.body.script) [] controller

/-- The worker is over, and what was reported up to the end are the reports of its body before the
verdict, and the verdict. -/
def Done (duty : Duty) (controller : Controller) : Prop :=
  ∃ made, duty.At .over made controller ∧
    Report.untilEnd made = duty.body.before ++ [duty.body.verdict]

/-- The worker has not begun or is over. -/
def Sound (duty : Duty) (controller : Controller) : Prop :=
  duty.Pending controller ∨ duty.Done controller

/-- A duty is carried on: a worker that is over stays so, and no open scope gains an errand for
its stream. -/
structure Carries (duty : Duty) (before later : Controller) : Prop where
  /-- The worker has not begun or is over. -/
  sound : duty.Sound later
  /-- A worker that is over stays so. -/
  done : duty.Done before → duty.Done later
  /-- The scopes have gained no errand for the stream. -/
  gains : Gaining (· ≠ Errand.store duty.job.stream) before later

/-- Work on other streams than the worker's carries the duty on. -/
def Stays (duty : Duty) (stream? : Option Nat) (before later : Controller) : Prop :=
  stream? ≠ some duty.job.stream → duty.Sound before → duty.Carries before later

variable {duty : Duty} {stream? : Option Nat} {before later controller : Controller}

instance (duty : Duty) (stream? : Option Nat) : Std.Refl (duty.Stays stream?) where
  refl controller _ sound := ⟨sound, id, refl_of (Gaining _) controller⟩

instance (duty : Duty) (stream? : Option Nat) : IsTrans Controller (duty.Stays stream?) where
  trans _ _ _ first second different sound := by
    have early := first different sound
    have late := second different early.sound
    exact ⟨late.sound, late.done ∘ early.done, trans_of (Gaining _) early.gains late.gains⟩

/-- What keeps how far the worker has come, in all its forms, keeps the duty. -/
theorem Stays.of_at
    (keeps : stream? ≠ some duty.job.stream → ∀ progress made,
      duty.At progress made before → duty.At progress made later)
    (gains : stream? ≠ some duty.job.stream →
      Gaining (· ≠ Errand.store duty.job.stream) before later) :
    duty.Stays stream? before later := by
  intro different sound
  have done : duty.Done before → duty.Done later :=
    fun ⟨made, stands, ends⟩ => ⟨made, keeps different _ _ stands, ends⟩
  exact ⟨sound.imp (keeps different _ _) done, done, gains different⟩

theorem At.quiet
    {progress : Progress}
    {made : List Report}
    (stands : duty.At progress made before)
    (quiet : Quiet duty.job.stream before later) :
    duty.At progress made later := by
  refine ⟨?_, stands.told.quiet quiet, ?_⟩
  · rw [quiet.calls_eq]
    exact stands.found
  · rw [quiet.calls_eq]
    exact stands.alone

theorem Done.quiet
    (done : duty.Done before)
    (quiet : Quiet duty.job.stream before later) :
    duty.Done later :=
  let ⟨made, stands, ends⟩ := done
  ⟨made, stands.quiet quiet, ends⟩

theorem Sound.quiet
    (sound : duty.Sound before)
    (quiet : Quiet duty.job.stream before later) :
    duty.Sound later :=
  sound.imp (fun pending => At.quiet pending quiet) (fun done => done.quiet quiet)

/-- The worker has come so far with its duty that it can go on or is over. -/
theorem Sound.exists_at (sound : duty.Sound controller) :
    ∃ progress made, duty.At progress made controller ∧
      (Call.threaded duty.job duty.name progress).isAtWork = true := by
  rcases sound with pending | ⟨made, finished, -⟩
  · exact ⟨_, _, pending, rfl⟩
  · exact ⟨_, _, finished, rfl⟩

theorem Stays.of_spares
    (spares : Spares duty.job.stream before later) :
    duty.Stays stream? before later :=
  .of_at (fun _ _ _ stands => stands.quiet spares.quiet) fun _ => spares.gains

/-! ## Calls -/

theorem At.of_calls
    {progress : Progress}
    {made : List Report}
    {calls : List Call}
    (stands : duty.At progress made before)
    (found : calls[duty.call]? = some (.threaded duty.job duty.name progress))
    (others : ∀ (number : Nat) (call : Call), number ≠ duty.call → calls[number]? = some call →
      before.calls[number]? = some call ∨ call.job.stream ≠ duty.job.stream) :
    duty.At progress made { before with calls } := by
  refine ⟨found, stands.told.of_eq rfl rfl, ?_⟩
  intro number call different present
  exact (others number call different present).elim (stands.alone number call different) id

/-- A call is added that reports on another stream. -/
theorem newCall_stays (call : Call) : Keeps (duty.Stays (some call.job.stream)) (newCall call) := by
  intro controller
  refine .of_at (fun different progress made stands => ?_) fun _ => .of_ledger_eq rfl
  have there := (List.getElem?_eq_some_iff.1 stands.found).1
  refine stands.of_calls ?_ fun number other _ present => ?_
  · rw [List.getElem?_append_left there]
    exact stands.found
  · rw [List.getElem?_append] at present
    split at present
    · exact Or.inl present
    · obtain rfl : other = call := by simpa using List.mem_of_getElem? present
      exact Or.inr fun same => different (congrArg some same)

/-- Another call changes, and reports where it did. -/
theorem setCall_stays
    {number : Nat}
    (distinct : number ≠ duty.call)
    (call : Call) :
    Keeps (duty.Stays (some call.job.stream)) (setCall number call) := by
  intro controller
  refine .of_at (fun different progress made stands => ?_) fun _ => .of_ledger_eq rfl
  refine stands.of_calls ?_ fun next other _ present => ?_
  · rw [List.getElem?_set_ne distinct]
    exact stands.found
  · rw [List.getElem?_set] at present
    split_ifs at present with same within
    · obtain rfl : call = other := Option.some.inj present
      exact Or.inr fun same => different (congrArg some same)
    · exact Or.inl present

/-- A call that is not the worker's is dealt with on its own stream. -/
theorem Stays.of_other
    {number : Nat}
    {call : Call}
    (found : before.calls[number]? = some call)
    (distinct : number ≠ duty.call)
    (stays : duty.Stays (some call.job.stream) before later) :
    duty.Stays none before later := by
  intro _ sound
  obtain ⟨progress, made, stands, -⟩ := sound.exists_at
  have different := stands.alone number call distinct found
  exact stays (fun same => different (Option.some.inj same)) sound

/-! ## Closures and threads -/

section

variable {α : Type} {work : Work α}

/-- A closure in which the duty is carried on gains no errand for the worker's stream, and carries
out none. -/
theorem closure_stays
    (access : Access)
    (stays : Keeps (duty.Stays stream?) work) :
    Keeps (duty.Stays stream?) (closure access work) := by
  intro controller different sound
  have entered : Quiet duty.job.stream controller (entering home access controller) :=
    .of_segment (trace_entering home access controller) (by simp [Record.concerns]) rfl rfl
  obtain ⟨within, done, gaining⟩ := stays _ different (sound.quiet entered)
  -- What the closure carries out when it is left was handed over by its body.
  obtain ⟨scope, outer, innermost, kinds, tail⟩ := innermost_of_gaining gaining
  unfold closure
  rw [on_within Ending.unwinds innermost]
  dsimp only
  set ran := work.on (entering home access controller)
  set left := reopened outer
    (recorded (.left (trace controller).length (unwound Ending.unwinds ran.1)) ran.2) with leftDef
  have leaves : Quiet duty.job.stream ran.2 left :=
    .of_segment (trace_recorded _ ran.2) (by simp [Record.concerns]) rfl rfl
  have gained : Gaining (· ≠ Errand.store duty.job.stream) controller left := by
    rw [Gaining, leftDef, scopes_reopened]
    exact tail
  have errands : ∀ action ∈ scope.deferred,
      Keeps (Spares duty.job.stream) (carryOut Controller.run home action) := by
    rintro ⟨action, ⟨number⟩⟩ present
    exact carryOut_spares (fun same => kinds _ present (congrArg Errand.store same)) action home
  have returns : Keeps (Spares duty.job.stream)
      (mark (.returned (trace controller).length) : Work Unit) :=
    mark_spares fun _ => rfl
  have rest := rest_keeps errands returns Ending.unwinds ran.1 left
  have after := trans_of (Quiet duty.job.stream) leaves rest.quiet
  exact ⟨within.quiet after, fun was => (done (was.quiet entered)).quiet after,
    trans_of (Gaining _) gained rest.gains⟩

/-- A thread that carries the duty on leaves the scopes of the others alone. -/
theorem onThread_stays
    (name : Option String)
    (stays : Keeps (duty.Stays stream?) work) :
    Keeps (duty.Stays stream?) (onThread name work) := by
  intro controller different sound
  have turns : Quiet duty.job.stream controller (onNewThread name controller) := .of_eq rfl rfl rfl
  obtain ⟨within, done, -⟩ := stays _ different (sound.quiet turns)
  have back : Quiet duty.job.stream (work.on (onNewThread name controller)).2
      (backOn controller (work.on (onNewThread name controller)).2) := .of_eq rfl rfl rfl
  have gained : Gaining (· ≠ Errand.store duty.job.stream) controller
      (backOn controller (work.on (onNewThread name controller)).2) :=
    refl_of (Gaining (σ := Controller) _) controller
  exact ⟨within.quiet back, fun was => (done (was.quiet turns)).quiet back, gained⟩

end

/-! ## The worker runs -/

/-- When the worker goes on, its body makes its reports and returns, and the worker is over. -/
theorem Pending.runs
    (pending : duty.Pending controller) :
    duty.Done
      (workerRun duty.call duty.job duty.name duty.body.script controller).2 := by
  set begun := onNewThread (some (threadNameOf duty.name)) controller with begunDef
  have turns : Quiet duty.job.stream controller begun := .of_eq rfl rfl rfl
  have ready : Working duty.job.stream duty.earlier [] controller.calls begun :=
    ⟨pending.told.quiet turns, rfl, rfl⟩
  obtain ⟨all, working, same⟩ := runWorker_body duty.call duty.job duty.name duty.body ready
  set ran := ((runWorker duty.call duty.job duty.name duty.body.script).on begun).2 with ranDef
  have back : (workerRun duty.call duty.job duty.name duty.body.script controller).2 =
      backOn controller ran := rfl
  have comes : Quiet duty.job.stream ran (backOn controller ran) := .of_eq rfl rfl rfl
  have changed : (backOn controller ran).calls =
      controller.calls.set duty.call (.threaded duty.job duty.name .over) :=
    comes.calls_eq.trans working.calls_eq
  rw [back]
  refine ⟨all, ⟨?_, working.told.quiet comes, ?_⟩, ?_⟩
  · rw [changed]
    exact List.getElem?_set_self (List.getElem?_eq_some_iff.1 pending.found).1
  · intro number call different present
    rw [changed, List.getElem?_set_ne (Ne.symm different)] at present
    exact pending.alone number call different present
  · rw [same, List.nil_append, Body.untilEnd_reports]

theorem Sound.stream_lt (sound : duty.Sound controller) :
    duty.job.stream < controller.streams.length := by
  obtain ⟨progress, made, stands, -⟩ := sound.exists_at
  obtain ⟨stream, found, -⟩ := stands.told.opened
  exact (List.getElem?_eq_some_iff.1 found).1

/-- When it can go on, the worker has not begun. -/
theorem Sound.pending_of_ready
    {job : Job}
    {name : String}
    {script : Script}
    (sound : duty.Sound controller)
    (found : controller.calls[duty.call]?.bind controller.readyScript? =
      some (job, name, script)) :
    duty.Pending controller ∧ job = duty.job ∧ name = duty.name ∧ script = duty.body.script := by
  rcases sound with pending | ⟨made, finished, -⟩
  · rw [pending.found] at found
    cases found
    exact ⟨pending, rfl, rfl, rfl⟩
  · rw [finished.found] at found
    cases found

/-- Whatever worker goes on, the duty is carried on. -/
theorem goesOn_stays
    {number : Nat}
    {job : Job}
    {name : String}
    {script : Script}
    (found : controller.calls[number]?.bind controller.readyScript? = some (job, name, script))
    (stays : (∀ progress, Keeps (duty.Stays (some job.stream))
        (setCall number (.threaded job name progress))) →
      duty.Stays (some job.stream) controller (workerRun number job name script controller).2) :
    duty.Stays none controller (workerRun number job name script controller).2 := by
  -- Only the worker's own turn changes how far it has come.
  by_cases own : number = duty.call
  · subst own
    intro _ sound
    obtain ⟨pending, rfl, rfl, rfl⟩ := sound.pending_of_ready found
    have done := pending.runs
    exact ⟨Or.inr done, fun _ => done, refl_of (Gaining (σ := Controller) _) controller⟩
  · have others : ∀ progress, Keeps (duty.Stays (some job.stream))
        (setCall number (.threaded job name progress)) :=
      fun progress => setCall_stays own (.threaded job name progress)
    rcases call_of_ready found with ready | waiting
    · exact Stays.of_other ready own (stays others)
    · exact Stays.of_other waiting own (stays others)

/-- A call that takes its turn without being at work is not the worker's. -/
theorem turns_stays
    {number : Nat}
    {call : Call}
    (found : before.calls[number]? = some call)
    (waits : call.isAtWork = false)
    (stays : (∀ other : Call, other.job = call.job →
        Keeps (duty.Stays (some call.job.stream)) (setCall number other)) →
      duty.Stays (some call.job.stream) before later) :
    duty.Stays none before later := by
  intro nothing sound
  have distinct : number ≠ duty.call := by
    rintro rfl
    obtain ⟨progress, made, stands, atWork⟩ := sound.exists_at
    obtain rfl := Option.some.inj (stands.found.symm.trans found)
    rw [atWork] at waits
    cases waits
  refine Stays.of_other found distinct (stays fun other same => ?_) nothing sound
  rw [← same]
  exact setCall_stays distinct other

/-- Everything that is done with a controller once the worker's stream is open carries the duty
on. -/
theorem kept (duty : Duty) : Kept (duty.job.stream + 1) duty.Stays where
  any stays _ := stays nofun
  aside same calls := .of_spares
    ⟨.of_eq (congrArg Ledger.trace same.ledger_eq) same.streams_eq calls,
      .of_ledger_eq same.ledger_eq⟩
  notes plain controller := .of_spares (note_spares plain controller)
  dispatches dispatching _ controller := .of_spares (dispatches_spares dispatching controller)
  opens blocks react stays controller nothing sound := by
    have opens : duty.Stays none controller (opening blocks react controller) :=
      .of_spares (opening_spares blocks react controller)
    have bound := sound.stream_lt
    have different : some controller.streams.length ≠ some duty.job.stream := by
      simp only [ne_eq, Option.some.injEq]
      omega
    exact trans_of (duty.Stays none) opens
      (fun _ => stays controller.streams.length bound (opening blocks react controller) different)
      nothing sound
  handles number handle controller := .of_spares (keepHandle_spares number handle controller)
  reports number made controller different :=
    Stays.of_spares (makeReport_spares (fun same => different (congrArg some same)) made controller)
      different
  closes := closure_stays
  threads := onThread_stays
  adds := newCall_stays
  goesOn := goesOn_stays
  turns := turns_stays

/-! ## The worker gets its turn -/

/-- Letting the worker of a call go on ends it. -/
theorem Sound.goOn (sound : duty.Sound controller) :
    duty.Done ((Controller.goOn duty.call).on controller).2 := by
  rcases sound with pending | done
  · have ready : controller.calls[duty.call]?.bind controller.readyScript? =
        some (duty.job, duty.name, duty.body.script) := by
      rw [pending.found]
      rfl
    rw [on_goOn, ready]
    exact pending.runs
  · exact (goOn_kept duty.kept duty.call controller nofun (Or.inr done)).done done

end Duty

/-- One worker goes on after another. -/
theorem on_goOnAll_cons
    (number : Nat)
    (numbers : List Nat)
    (controller : Controller) :
    ((goOnAll (number :: numbers)).on controller).2 =
      ((goOnAll numbers).on ((goOn number).on controller).2).2 := by
  have returns : ∃ first, ((goOn number).on controller).1 = .ok first := by
    rw [on_goOn]
    split <;> exact ⟨_, rfl⟩
  obtain ⟨first, returned⟩ := returns
  rcases both : (goOn number).on controller with ⟨result, after⟩
  rw [both] at returned
  obtain rfl : result = .ok first := returned
  rw [goOnAll, on_bind, both]
  dsimp only
  rw [on_bind]
  rcases (goOnAll numbers).on after with ⟨_ | _, _⟩ <;> rfl

namespace Duty

variable {duty : Duty} {controller : Controller}

theorem Sound.goOnAll
    {numbers : List Nat}
    (sound : duty.Sound controller)
    (present : duty.call ∈ numbers) :
    duty.Done ((Controller.goOnAll numbers).on controller).2 := by
  induction numbers generalizing controller with
  | nil => cases present
  | cons number numbers inductionHypothesis =>
      rw [on_goOnAll_cons]
      rcases List.mem_cons.1 present with rfl | later
      · have done := sound.goOn
        exact (goOnAll_kept duty.kept numbers _ nofun (Or.inr done)).done done
      · exact inductionHypothesis (goOn_kept duty.kept number controller nofun sound).sound later

/-- Once the workers have had a turn, this one is over. -/
theorem Sound.settle
    (sound : duty.Sound controller)
    (rounds : Nat) :
    duty.Done ((Controller.settle (rounds + 1)).on controller).2 := by
  have there : duty.call ∈ List.range controller.calls.length := by
    obtain ⟨progress, made, stands, -⟩ := sound.exists_at
    exact List.mem_range.2 (List.getElem?_eq_some_iff.1 stands.found).1
  refine holds_bind (sound.goOnAll there) fun more after done => ?_
  cases more with
  | false => exact done
  | true => exact (settle_kept duty.kept rounds after nofun (Or.inr done)).done done

theorem Sound.after
    (sound : duty.Sound controller)
    (uses : List Use) :
    duty.Sound (controller.after uses) :=
  (after_related duty.kept uses controller nofun sound).sound

theorem Sound.after_settle
    (sound : duty.Sound controller)
    (rounds : Nat) :
    duty.Done (controller.after [.settle (rounds + 1)]) :=
  holds_bind (sound.settle rounds) fun _ _ done => done

end Duty

end Controller
end ManagedTree
