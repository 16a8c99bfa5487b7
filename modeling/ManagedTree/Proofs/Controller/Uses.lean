import ManagedTree.Proofs.Controller.Kept

/-!
# What every use of a controller keeps

Executions, calls, workers and all other uses of a controller keep what its steps keep.
-/

namespace ManagedTree
namespace Controller

open HasLedger Run

variable {floor : Nat} {R : Option Nat → Controller → Controller → Prop}

theorem newToken_kept (kept : Kept floor R) : Keeps (R none) newToken :=
  fun _ => kept.aside ⟨rfl, rfl, rfl, rfl, rfl⟩ rfl

variable [∀ stream?, Std.Refl (R stream?)] [∀ stream?, IsTrans Controller (R stream?)]

/-! ## Executions -/

section

variable {execute : Node → Work Unit}

/-- A handler that carries out an operation. -/
theorem handle_kept
    (kept : Kept floor R)
    (executes : ∀ request, Keeps (R none) (execute request))
    (job : Job)
    (handler : Handler) :
    Keeps (R (some job.stream)) (handle execute job handler) := by
  unfold handle
  cases handler.kind with
  | inline script withToken =>
      refine Keeps.bind (runScript_kept kept executes job script) fun _ => ?_
      split
      · exact Keeps.bind (kept.lift _ (newToken_kept kept)) fun _ => Keeps.ofPure _
      · exact Keeps.ofPure _
  | deferred script later onCancel =>
      refine Keeps.bind (runScript_kept kept executes job script) fun _ => ?_
      exact Keeps.bind (kept.adds (.deferred job later onCancel _)) fun _ => Keeps.ofPure _
  | threaded script =>
      refine Keeps.bind (kept.lift _ (newToken_kept kept)) fun token => ?_
      refine Keeps.bind (kept.adds (.threaded { job with token := some token } _ _)) fun _ => ?_
      split
      · exact Keeps.ofThrow _
      · exact Keeps.ofPure _

/-- The steps of an invoker. -/
theorem follow_kept
    (kept : Kept floor R)
    (executes : ∀ request, Keeps (R none) (execute request))
    (job : Job)
    (handler : Handler)
    (steps : List InvokerStep)
    (held : Handle) :
    Keeps (R (some job.stream)) (follow execute job handler steps held) := by
  induction steps generalizing held with
  | nil => exact Keeps.ofPure held
  | cons step steps inductionHypothesis =>
      cases step with
      | announce =>
          exact Keeps.bind (kept.lift _ (kept.notes rfl)) fun _ => inductionHypothesis held
      | run => exact Keeps.bind (handle_kept kept executes job handler) inductionHypothesis
      | confirm =>
          exact Keeps.bind (kept.lift _ (kept.notes rfl)) fun _ => inductionHypothesis held
      | act action =>
          exact Keeps.bind (perform_kept kept executes job action) fun _ =>
            inductionHypothesis held

theorem invoke_kept
    (kept : Kept floor R)
    (executes : ∀ request, Keeps (R none) (execute request))
    (job : Job)
    (bound : floor ≤ job.stream)
    (handler : Handler) :
    Keeps (R (some job.stream)) (invoke execute job handler) := by
  refine Keeps.get_bind fun controller => ?_
  exact Keeps.bind (kept.lift _ (kept.dispatches rfl bound))
    (fun _ => follow_kept kept executes job handler _ _) controller

theorem consult_kept
    (kept : Kept floor R)
    (operation : Operation)
    (handler : Handler) :
    Keeps (R none) (consult operation handler) := by
  refine Keeps.get_bind fun controller => ?_
  exact Keeps.bind (withTree_kept kept _) (fun _ => Keeps.ending _) controller

theorem guarded_kept
    {α : Type}
    {work : Work α}
    {stream? : Option Nat}
    (blame : Fault → DispatchError)
    (keeps : Keeps (R stream?) work) :
    Keeps (R stream?) (guarded blame work) := by
  refine Keeps.bind (Keeps.outcome keeps) fun result => ?_
  rcases result with (fault | panic) | value
  · exact Keeps.ofPure _
  · exact Keeps.ofThrow _
  · exact Keeps.ofPure _

theorem pursue_kept
    (kept : Kept floor R)
    (executes : ∀ request, Keeps (R none) (execute request))
    {stream : Nat}
    (bound : floor ≤ stream)
    (prepared : Except DispatchError (Operation × Handler)) :
    Keeps (R (some stream)) (pursue execute stream prepared) := by
  rcases prepared with error | ⟨operation, handler⟩
  · exact Keeps.bind (kept.lift _ (kept.dispatches rfl bound)) fun _ => Keeps.ofPure _
  refine Keeps.bind (kept.lift _ (kept.dispatches rfl bound)) fun _ => ?_
  have consults := kept.lift (some stream) (consult_kept kept operation handler)
  refine Keeps.bind (guarded_kept .context consults) fun context => ?_
  cases context with
  | error error => exact Keeps.ofPure _
  | ok context =>
      have invokes := invoke_kept kept executes ⟨operation, context, stream, none⟩ bound handler
      exact guarded_kept .handler invokes

/-- A dispatch of a request that reports on a stream. -/
theorem dispatch_kept
    (kept : Kept floor R)
    (executes : ∀ request, Keeps (R none) (execute request))
    (request : Node)
    {stream : Nat}
    (bound : floor ≤ stream) :
    Keeps (R (some stream)) (dispatch execute request stream) := by
  refine Keeps.get_bind fun controller => ?_
  exact Keeps.bind (kept.lift _ (withTree_kept kept _))
    (fun _ => pursue_kept kept executes bound _) controller

end

theorem refuse_kept
    (kept : Kept floor R)
    (stream : Nat)
    (error : DispatchError) :
    Keeps (R (some stream)) (refuse stream error) :=
  Keeps.bind (kept.reports _ _) fun _ => Keeps.ofPure _

theorem conclude_kept
    (kept : Kept floor R)
    {dispatched : Work (Except DispatchError Handle)}
    (stream : Nat)
    (keeps : Keeps (R (some stream)) dispatched) :
    Keeps (R (some stream)) (conclude stream dispatched) := by
  refine Keeps.bind (Keeps.outcome keeps) fun result => ?_
  cases caught result with
  | ok handle => exact Keeps.ofPure handle
  | error error => exact refuse_kept kept stream error

omit [∀ stream?, Std.Refl (R stream?)] in
theorem nested_kept
    {execute : Node → Nat → Work Handle}
    (kept : Kept floor R)
    (executes : ∀ request stream, floor ≤ stream →
      Keeps (R (some stream)) (execute request stream))
    (request : Node) :
    Keeps (R none) (nested execute request) := by
  refine kept.opens false Reaction.calm fun stream bound => ?_
  exact Keeps.bind (executes request stream bound) fun handle =>
    kept.lift _ (kept.handles stream handle)

theorem on_conclude
    (stream : Nat)
    (work : Work (Except DispatchError Handle))
    (controller : Controller) :
    (conclude stream work).on controller =
      match caught (work.on controller).1 with
      | .ok handle => (.ok handle, (work.on controller).2)
      | .error error => (refuse stream error).on (work.on controller).2 := by
  unfold conclude
  rw [on_outcome_bind]
  cases caught (work.on controller).1 <;> rfl

theorem executeOn_limit
    (request : Node)
    (stream : Nat) :
    executeOn nestingLimit request stream =
      conclude stream (dispatch (nested (executeOn (nestingLimit - 1))) request stream) := rfl

/-- An execution that reports on a stream. -/
theorem executeOn_kept
    (kept : Kept floor R)
    (budget : Nat) :
    ∀ request stream, floor ≤ stream →
      Keeps (R (some stream)) (executeOn budget request stream) := by
  induction budget with
  | zero => exact fun _ stream _ => refuse_kept kept stream _
  | succ budget inductionHypothesis =>
      intro request stream bound
      have executes := nested_kept kept inductionHypothesis
      exact conclude_kept kept stream (dispatch_kept kept executes request bound)

theorem execute_kept
    (kept : Kept floor R)
    (react : Reaction)
    (request : Node) :
    Keeps (R none) (Controller.execute react request) := by
  refine kept.opens false react fun stream bound => ?_
  refine Keeps.bind (executeOn_kept kept _ request stream bound) fun handle => ?_
  exact Keeps.bind (kept.lift _ (kept.handles stream handle)) fun _ => Keeps.ofPure _

theorem executeCalmly_kept
    (kept : Kept floor R)
    (request : Node) :
    Keeps (R none) (executeCalmly request) :=
  Keeps.bind (execute_kept kept Reaction.calm request) fun _ => Keeps.ofPure _

/-! ## Calls and workers -/

theorem runWorker_kept
    (kept : Kept floor R)
    (number : Nat)
    (job : Job)
    (name : String)
    (script : Script)
    (sets : ∀ progress,
      Keeps (R (some job.stream)) (setCall number (.threaded job name progress))) :
    Keeps (R (some job.stream)) (runWorker number job name script) := by
  have runs := runScript_kept kept (executeCalmly_kept kept) job script
  refine Keeps.bind (Keeps.outcome runs) fun result => ?_
  refine Keeps.bind (sets _) fun _ => ?_
  split
  · exact kept.reports _ _
  · exact Keeps.ofPure _

theorem on_goOn
    (number : Nat)
    (controller : Controller) :
    (goOn number).on controller =
      match controller.calls[number]?.bind controller.readyScript? with
      | none => (.ok false, controller)
      | some (job, name, script) =>
        (.ok true, (workerRun number job name script controller).2) := by
  unfold goOn
  rw [on_get_bind]
  cases controller.calls[number]?.bind controller.readyScript? <;> rfl

theorem goOn_kept
    (kept : Kept floor R)
    (number : Nat) :
    Keeps (R none) (goOn number) := by
  intro controller
  rw [on_goOn]
  cases found : controller.calls[number]?.bind controller.readyScript? with
  | none => exact refl_of (R none) controller
  | some ready =>
      obtain ⟨job, name, script⟩ := ready
      exact kept.goesOn found fun sets =>
        kept.threads _ (runWorker_kept kept number job name script sets) controller

theorem goOnAll_kept
    (kept : Kept floor R)
    (numbers : List Nat) :
    Keeps (R none) (goOnAll numbers) := by
  induction numbers with
  | nil => exact Keeps.ofPure _
  | cons number numbers inductionHypothesis =>
      refine Keeps.bind (goOn_kept kept number) fun _ => ?_
      exact Keeps.bind inductionHypothesis fun _ => Keeps.ofPure _

theorem round_kept (kept : Kept floor R) : Keeps (R none) round :=
  Keeps.get_bind fun controller => goOnAll_kept kept _ controller

theorem settle_kept
    (kept : Kept floor R)
    (rounds : Nat) :
    Keeps (R none) (settle rounds) := by
  induction rounds with
  | zero => exact Keeps.ofPure _
  | succ rounds inductionHypothesis =>
      refine Keeps.bind (round_kept kept) fun more => ?_
      split
      · exact inductionHypothesis
      · exact Keeps.ofPure _

/-- A call that is continued. -/
theorem continueCall_kept
    (kept : Kept floor R)
    (number : Nat)
    (elsewhere : Bool) :
    Keeps (R none) (continueCall number elsewhere) := by
  refine Keeps.get_bind fun controller => ?_
  dsimp only
  split
  · rename_i job script later onCancel requested found
    refine kept.turns found rfl fun sets => ?_
    have runs := runScript_kept kept (executeCalmly_kept kept) job script
    refine Keeps.bind (sets (.deferred job later onCancel requested) rfl) (fun _ => ?_) controller
    split
    · refine Keeps.bind (kept.threads none runs) fun result => ?_
      rcases result with (fault | panic) | value <;> exact Keeps.ofPure _
    · refine Keeps.bind (Keeps.outcome runs) fun result => ?_
      rcases result with (fault | panic) | value <;> exact Keeps.ofPure _
  · rename_i job name script found
    refine kept.turns found rfl fun sets => ?_
    exact Keeps.bind (sets (.threaded job name (.ready script)) rfl) (fun _ => Keeps.ofPure _)
      controller
  · exact Keeps.ofPure _ controller
  · exact Keeps.ofPure _ controller

/-- A request for cancellation. -/
theorem cancelCall_kept
    (kept : Kept floor R)
    (number : Nat) :
    Keeps (R none) (cancelCall number) := by
  refine Keeps.get_bind fun controller => ?_
  dsimp only
  split
  · rename_i job later onCancel requested found
    refine kept.turns found rfl fun sets => ?_
    have runs := runScript_kept kept (executeCalmly_kept kept) job onCancel
    refine Keeps.bind (sets (.deferred job later onCancel requested.trip.2) rfl) (fun _ => ?_)
      controller
    refine Keeps.bind (kept.lift _ (kept.notes rfl)) fun _ => ?_
    split
    · refine Keeps.bind (Keeps.outcome runs) fun result => ?_
      rcases result with (fault | panic) | value
      · exact Keeps.bind (kept.lift _ (kept.notes rfl)) fun _ => Keeps.ofPure _
      · exact Keeps.ofThrow _
      · exact Keeps.ofPure _
    · exact Keeps.ofPure _
  · exact Keeps.ofPure _ controller

theorem cancel_kept
    (kept : Kept floor R)
    (handle : Handle) :
    Keeps (R none) (cancel handle) := by
  cases handle with
  | call number => exact cancelCall_kept kept number
  | null => exact fun _ => kept.aside ⟨rfl, rfl, rfl, rfl, rfl⟩ rfl
  | inert => exact fun _ => kept.aside ⟨rfl, rfl, rfl, rfl, rfl⟩ rfl
  | token number => exact fun _ => kept.aside ⟨rfl, rfl, rfl, rfl, rfl⟩ rfl

/-! ## Blocking executions -/

/-- The turns of a caller who waits. -/
theorem loop_kept
    (kept : Kept floor R)
    (stream : Nat)
    (handle : Handle)
    (budget : Nat)
    (taken : Bool) :
    Keeps (R none) ((waiting stream handle).loop budget taken) := by
  induction budget generalizing taken with
  | zero => exact Keeps.ofPure _
  | succ budget inductionHypothesis =>
      refine Keeps.get_bind fun controller => ?_
      split
      · exact Keeps.ofPure _ controller
      · have rest : Keeps (R none)
            (if controller.interrupt.take.1 then do
              (waiting stream handle).cancel
              (waiting stream handle).loop budget true
            else do
              if ← (waiting stream handle).wait then (waiting stream handle).loop budget taken
              else pure (none, taken)) := by
          have cancels : Keeps (R none) (waiting stream handle).cancel :=
            Keeps.bind (cancel_kept kept handle) fun _ => Keeps.ofPure _
          split
          · exact Keeps.bind cancels fun _ => inductionHypothesis true
          · refine Keeps.bind (round_kept kept) fun more => ?_
            split
            · exact inductionHypothesis taken
            · exact Keeps.ofPure _
        have took : R none controller
            { controller with interrupt := controller.interrupt.take.2 } :=
          kept.aside ⟨rfl, rfl, rfl, rfl, rfl⟩ rfl
        exact trans_of (R none) took (rest _)

/-- An execution whose caller waits. -/
theorem executeBlocking_kept
    (kept : Kept floor R)
    (request : Node) :
    Keeps (R none) (executeBlocking request) := by
  refine kept.opens true Reaction.calm fun stream bound => ?_
  refine Keeps.bind (executeOn_kept kept _ request stream bound) fun handle => ?_
  have registers : Keeps (R none) (modify fun controller : Controller =>
      { controller with interrupt := controller.interrupt.register () } : Work PUnit) :=
    fun _ => kept.aside ⟨rfl, rfl, rfl, rfl, rfl⟩ rfl
  have releases : Keeps (R none) (modify fun controller : Controller =>
      { controller with interrupt := controller.interrupt.release } : Work PUnit) :=
    fun _ => kept.aside ⟨rfl, rfl, rfl, rfl, rfl⟩ rfl
  have restores : Keeps (R none) (modify (waiting stream handle).setInterrupt : Work PUnit) :=
    fun _ => kept.aside ⟨rfl, rfl, rfl, rfl, rfl⟩ rfl
  have waits : Keeps (R none) ((waiting stream handle).run roundLimit) := by
    refine Keeps.bind (loop_kept kept stream handle roundLimit false) fun answer => ?_
    rcases answer with ⟨answer, _ | _⟩
    · exact Keeps.ofPure _
    · exact Keeps.bind restores fun _ => Keeps.ofPure _
  refine kept.lift _ (Keeps.bind registers fun _ => ?_)
  refine Keeps.bind (Keeps.outcome waits) fun answer => ?_
  exact Keeps.bind releases fun _ => Keeps.ending answer

/-! ## Uses -/

/-- Registering a handler changes only the registry. -/
theorem registering_aside
    (pattern : Address)
    (name : String)
    (handler : Handler)
    (controller : Controller) :
    Aside controller (registering pattern name handler controller) ∧
      (registering pattern name handler controller).calls = controller.calls := by
  unfold registering register
  cases controller.registry.register pattern name handler with
  | error error => exact ⟨⟨rfl, rfl, rfl, rfl, rfl⟩, rfl⟩
  | ok made => exact ⟨⟨rfl, rfl, rfl, rfl, rfl⟩, rfl⟩

mutual

/-- A use of a controller keeps what its steps keep. -/
theorem serve_kept
    (kept : Kept floor R) :
    ∀ use, Keeps (R none) (serve use)
  | .execute react request => by
      rw [serve]
      exact Keeps.bind (execute_kept kept react request) fun _ => Keeps.ofPure _
  | .executeBlocking request => by
      rw [serve]
      exact Keeps.bind (executeBlocking_kept kept request) fun _ => Keeps.ofPure _
  | .continueCall number elsewhere => by
      rw [serve]
      exact Keeps.bind (continueCall_kept kept number elsewhere) fun _ => Keeps.ofPure _
  | .cancel handle => by
      rw [serve]
      exact Keeps.bind (cancel_kept kept handle) fun _ => Keeps.ofPure _
  | .settle rounds => by
      rw [serve]
      exact settle_kept kept rounds
  | .register pattern name handler => by
      rw [serve]
      intro controller
      obtain ⟨aside, calls⟩ := registering_aside pattern name handler controller
      exact kept.aside aside calls
  | .edit change => by
      rw [serve]
      exact fun _ => kept.aside ⟨rfl, rfl, rfl, rfl, rfl⟩ rfl
  | .interrupt => by
      rw [serve]
      exact fun _ => kept.aside ⟨rfl, rfl, rfl, rfl, rfl⟩ rfl
  | .panic panic => by
      rw [serve]
      exact Keeps.ofThrow _
  | .within access uses => by
      rw [serve]
      exact kept.closes access (serveAll_kept kept uses)
  | .elsewhere name uses => by
      rw [serve]
      exact Keeps.bind (kept.threads name (serveAll_kept kept uses)) fun _ => Keeps.ofPure _
  | .attempt uses => by
      rw [serve]
      exact Keeps.bind (Keeps.outcome (serveAll_kept kept uses)) fun _ => Keeps.ofPure _

/-- Uses of a controller keep what its steps keep. -/
theorem serveAll_kept
    (kept : Kept floor R) :
    ∀ uses, Keeps (R none) (serveAll uses)
  | [] => Keeps.ofPure ()
  | use :: uses => by
      rw [serveAll]
      exact Keeps.bind (serve_kept kept use) fun _ => serveAll_kept kept uses

end

/-- What becomes of a controller by its uses is related to it. -/
theorem after_related
    (kept : Kept floor R)
    (uses : List Use)
    (controller : Controller) :
    R none controller (controller.after uses) :=
  serveAll_kept kept uses controller

end Controller
end ManagedTree
