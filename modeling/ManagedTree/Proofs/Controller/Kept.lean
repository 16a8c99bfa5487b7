import ManagedTree.Controller.Use
import ManagedTree.Proofs.Run.Keeps

/-!
# Relations that a controller keeps

A relation between a controller and what becomes of it is kept by everything that is
done with the controller, once the few steps of which all of that is made keep it.
-/

namespace ManagedTree

/-- Whether an event is about no report and no storing. -/
def Event.isPlain : Event → Bool
  | .reported _ _ | .delivered _ _ | .stored _ _ _ => false
  | _ => true

/-- The stream whose request is being dispatched when something is noted. -/
def Occurrence.dispatching? : Occurrence → Option Nat
  | .event _ => none
  | .givingUp stream => some stream
  | .consulting stream _ _ => some stream
  | .invoking stream _ _ => some stream

/-- What the scripts of a call work on. -/
def Call.job : Call → Job
  | .deferred job _ _ _ => job
  | .threaded job _ _ => job

/-- Whether a call is that of a worker that can go on or has come to its end. -/
def Call.isAtWork : Call → Bool
  | .threaded _ _ (.ready _) | .threaded _ _ .over => true
  | _ => false

namespace Controller

open HasLedger Run

/-- Two controllers that differ in neither their ledgers, nor their threads, nor their streams,
nor their keepers and what these find. -/
structure Aside (before later : Controller) : Prop where
  /-- The ledger is the same. -/
  ledger_eq : later.ledger = before.ledger
  /-- The thread is the same. -/
  thread_eq : later.thread = before.thread
  /-- The streams are the same. -/
  streams_eq : later.streams = before.streams
  /-- The keeper is the same. -/
  keeper_eq : later.keeper = before.keeper
  /-- The keeper finds the same. -/
  custody_eq : later.custody = before.custody

/-- The worker of a call that can go on is ready, or has waited for its cancellation. -/
theorem call_of_ready
    {controller : Controller}
    {number : Nat}
    {job : Job}
    {name : String}
    {script : Script}
    (found : controller.calls[number]?.bind controller.readyScript? = some (job, name, script)) :
    controller.calls[number]? = some (.threaded job name (.ready script)) ∨
      controller.calls[number]? = some (.threaded job name (.awaitingCancel script)) := by
  obtain ⟨call, there, ready⟩ := Option.bind_eq_some_iff.1 found
  rw [there]
  unfold readyScript? at ready
  split at ready
  · simp_all
  · split at ready
    · simp_all
    · cases ready
  · cases ready

/-- The controller with one more stream. -/
def opening (blocks : Bool) (react : Reaction) (controller : Controller) : Controller :=
  { controller with
    streams := controller.streams ++
      [⟨if blocks then none else some controller.nextNumber, react, Latch.fresh, .null⟩] }

theorem on_openStream_bind
    {α : Type}
    (blocks : Bool)
    (react : Reaction)
    (next : Nat → Work α)
    (controller : Controller) :
    (openStream blocks react >>= next).on controller =
      (next controller.streams.length).on (opening blocks react controller) := rfl

/-- What the worker of a call comes to when it goes on. -/
def workerRun
    (number : Nat) (job : Job) (name : String) (script : Script) (controller : Controller) :
    Except Ending (Except Ending Unit) × Controller :=
  (onThread (some (threadNameOf name)) (runWorker number job name script)).on controller

/-- The steps of which everything is made keep relations: one that work on a stream keeps, for
every stream, and one that all other work keeps.  Only requests on streams from a floor on are
dispatched. -/
structure Kept (floor : Nat) (R : Option Nat → Controller → Controller → Prop) : Prop where
  /-- What all other work keeps, work on a stream keeps as well. -/
  any : ∀ {stream? before later}, R none before later → R stream? before later
  /-- Something changes that nobody keeps an account of. -/
  aside : ∀ {before later}, Aside before later → later.calls = before.calls → R none before later
  /-- A plain event is noted. -/
  notes : ∀ {event}, event.isPlain = true → Keeps (R none) (note event)
  /-- A request is being dispatched. -/
  dispatches : ∀ {occurrence stream}, occurrence.dispatching? = some stream → floor ≤ stream →
    Keeps (R none) (mark (.noted occurrence) : Work Unit)
  /-- A stream is opened for an execution. -/
  opens : ∀ {α : Type} {next : Nat → Work α} (blocks react),
    (∀ number, floor ≤ number → Keeps (R (some number)) (next number)) →
      Keeps (R none) (openStream blocks react >>= next)
  /-- A stream's handle is kept. -/
  handles : ∀ number handle, Keeps (R none) (keepHandle number handle)
  /-- A report is made on a stream. -/
  reports : ∀ number made, Keeps (R (some number)) (makeReport number made)
  /-- A closure of the tree. -/
  closes : ∀ {stream?} {α : Type} {body : Work α} (access),
    Keeps (R stream?) body → Keeps (R stream?) (closure access body)
  /-- Another thread runs. -/
  threads : ∀ {stream?} {α : Type} {work : Work α} (name),
    Keeps (R stream?) work → Keeps (R stream?) (onThread name work)
  /-- A call is added for a stream. -/
  adds : ∀ call, Keeps (R (some call.job.stream)) (newCall call)
  /-- The worker of a call goes on. -/
  goesOn : ∀ {controller number job name script},
    controller.calls[number]?.bind controller.readyScript? = some (job, name, script) →
    ((∀ progress, Keeps (R (some job.stream)) (setCall number (.threaded job name progress))) →
      R (some job.stream) controller (workerRun number job name script controller).2) →
    R none controller (workerRun number job name script controller).2
  /-- A call that is not at work takes a turn. -/
  turns : ∀ {controller later : Controller} {number call},
    controller.calls[number]? = some call → call.isAtWork = false →
    ((∀ other : Call, other.job = call.job →
        Keeps (R (some call.job.stream)) (setCall number other)) →
      R (some call.job.stream) controller later) →
    R none controller later

/-! ## Scripts -/

section

variable {R : Controller → Controller → Prop}

theorem found_kept
    [Std.Refl R]
    (result : Except TreeError Node) :
    Keeps R (found result) := by
  cases result with
  | ok node => exact Keeps.ofPure node
  | error error => exact Keeps.ofThrow _

theorem findNode_kept
    [Std.Refl R]
    (job : Job) :
    Keeps R (findNode job) :=
  Keeps.get_bind fun controller => found_kept _ controller

end

section

variable {floor : Nat} {R : Option Nat → Controller → Controller → Prop}

theorem Kept.lift
    {α : Type}
    {work : Work α}
    (kept : Kept floor R)
    (stream? : Option Nat)
    (keeps : Keeps (R none) work) :
    Keeps (R stream?) work :=
  fun controller => kept.any (keeps controller)

theorem withTree_kept
    (kept : Kept floor R)
    (tree : Node) :
    Keeps (R none) (modify (withTree tree) : Work PUnit) :=
  fun _ => kept.aside ⟨rfl, rfl, rfl, rfl, rfl⟩ rfl

theorem emit_kept
    (kept : Kept floor R)
    (job : Job)
    (place : List String)
    (value : Node) :
    Keeps (R (some job.stream)) (emit job place value) :=
  kept.reports _ _

variable [∀ stream?, Std.Refl (R stream?)] [∀ stream?, IsTrans Controller (R stream?)]

theorem editNode_kept
    (kept : Kept floor R)
    (job : Job)
    (change : Node → Node) :
    Keeps (R none) (editNode job change) := by
  refine Keeps.get_bind fun controller => ?_
  refine Keeps.bind (withTree_kept kept _) (fun _ => ?_) controller
  exact Keeps.bind (found_kept _) fun _ => Keeps.ofPure _

theorem write_kept
    (kept : Kept floor R)
    (job : Job)
    (place : List String)
    (value : Node) :
    Keeps (R none) (write job place value) := by
  refine Keeps.get_bind fun controller => ?_
  dsimp only
  split
  · exact editNode_kept kept job _ controller
  · exact kept.closes .write (editNode_kept kept job _) controller

section

variable {execute : Node → Work Unit}

mutual

/-- An action of a script. -/
theorem perform_kept
    (kept : Kept floor R)
    (executes : ∀ request, Keeps (R none) (execute request))
    (job : Job) :
    ∀ action, Keeps (R (some job.stream)) (perform execute job action)
  | .report made => by
      rw [perform]
      exact kept.reports _ _
  | .completeUndo name => by
      rw [perform]
      exact kept.reports _ _
  | .set place value => by
      rw [perform]
      exact kept.lift _ (write_kept kept job place value)
  | .setParam place name => by
      rw [perform]
      exact kept.lift _ (write_kept kept job place _)
  | .emit place => by
      rw [perform]
      exact Keeps.bind (kept.closes .read (findNode_kept job)) fun _ => emit_kept kept job _ _
  | .emitMember place name => by
      rw [perform]
      exact Keeps.bind (kept.closes .read (findNode_kept job)) fun _ => emit_kept kept job _ _
  | .emitParam place name => by
      rw [perform]
      exact emit_kept kept job _ _
  | .emitOperation place => by
      rw [perform]
      exact emit_kept kept job _ _
  | .emitAddress place => by
      rw [perform]
      exact emit_kept kept job _ _
  | .emitAttachment place => by
      rw [perform]
      exact emit_kept kept job _ _
  | .emitThread place => by
      rw [perform]
      exact Keeps.get_bind fun controller => emit_kept kept job _ _ controller
  | .emitCancelled place => by
      rw [perform]
      exact Keeps.get_bind fun controller => emit_kept kept job _ _ controller
  | .emitContext place => by
      rw [perform]
      exact emit_kept kept job _ _
  | .remove place => by
      rw [perform]
      exact kept.closes .write fun _ => kept.any (kept.aside ⟨rfl, rfl, rfl, rfl, rfl⟩ rfl)
  | .execute request => by
      rw [perform]
      exact kept.lift _ (executes request)
  | .locked => by
      rw [perform]
      exact kept.lift _ (Keeps.get_bind fun controller => kept.notes rfl controller)
  | .update actions => by
      rw [perform]
      apply kept.closes .write
      exact Keeps.bind (kept.lift _ (editNode_kept kept job id)) fun _ =>
        performAll_kept kept executes job actions
  | .read actions => by
      rw [perform]
      apply kept.closes .read
      exact Keeps.bind (findNode_kept job) fun _ => performAll_kept kept executes job actions
  | .interrupt => by
      rw [perform]
      exact fun _ => kept.any (kept.aside ⟨rfl, rfl, rfl, rfl, rfl⟩ rfl)
  | .raise fault => by
      rw [perform]
      exact Keeps.ofThrow _
  | .panic panic => by
      rw [perform]
      exact Keeps.ofThrow _
  | .awaitCancel => by
      rw [perform]
      exact Keeps.ofPure _
  | .awaitRelease => by
      rw [perform]
      exact Keeps.ofPure _
  | .finish undo => by
      rw [perform]
      exact Keeps.ofPure _
  | .withdraw => by
      rw [perform]
      exact Keeps.ofPure _

/-- Actions of a script. -/
theorem performAll_kept
    (kept : Kept floor R)
    (executes : ∀ request, Keeps (R none) (execute request))
    (job : Job) :
    ∀ actions, Keeps (R (some job.stream)) (performAll execute job actions)
  | [] => Keeps.ofPure ()
  | action :: actions => by
      rw [performAll]
      exact Keeps.bind (perform_kept kept executes job action) fun _ =>
        performAll_kept kept executes job actions

end

/-- A script, up to its stop. -/
theorem runScript_kept
    (kept : Kept floor R)
    (executes : ∀ request, Keeps (R none) (execute request))
    (job : Job)
    (script : Script) :
    Keeps (R (some job.stream)) (runScript execute job script) := by
  fun_induction runScript execute job script with
  | case1 => exact Keeps.ofPure _
  | case2 => exact Keeps.ofPure _
  | case3 => exact Keeps.ofPure _
  | case4 => exact Keeps.ofPure _
  | case5 _ _ inductionHypothesis => exact inductionHypothesis
  | case6 => exact Keeps.ofPure _
  | case7 _ _ inductionHypothesis => exact inductionHypothesis
  | case8 action rest _ _ _ _ inductionHypothesis =>
      exact Keeps.bind (perform_kept kept executes job action) fun _ => inductionHypothesis

end

end

end Controller
end ManagedTree
