import ManagedTree.Proofs.Controller.Dispatch
import ManagedTree.Proofs.Controller.Duty
import ManagedTree.Proofs.Controller.Opened

/-!
# The end of a worker's execution

An execution whose handler has a worker ends once: the caller gets what the worker's body reports
up to the first report that ends the execution, or else how the body returned, however the
controller is used in between.
-/

namespace ManagedTree
namespace Controller

open HasLedger Run

/-! ## The start of a worker -/

section

variable
  {controller : Controller} {request : Node} {operation : Operation} {handler : Handler}
  {context : Context} {body : Body}

/-- A request gets to a handler whose worker starts: the handler is found, its context is made,
its thread can have its name, and the invoker runs it once and otherwise only notes that. -/
structure Engages
    (controller : Controller) (request : Node) (operation : Operation) (handler : Handler)
    (context : Context) (body : Body) : Prop where
  /-- The handler is found. -/
  finds : (controller.prepare request).1 = .ok (operation, handler)
  /-- The context is made. -/
  consults : (controller.factory operation handler (controller.prepare request).2).1 = .ok context
  /-- The handler has a worker with the body. -/
  works : handler.kind = .threaded body.script
  /-- The thread of the worker can have its name. -/
  names : namePanic? (threadNameOf handler.id) = none
  /-- The invoker runs the handler once. -/
  invokes : ∃ first last, controller.invoker operation = first ++ .run :: last ∧
    ∀ step ∈ first ++ last, step = .announce ∨ step = .confirm

section

variable (execute : Node → Work Unit) (job : Job)

/-- Once the context is made, dispatch takes the steps of the invoker. -/
theorem on_pursue_of_context
    (stream : Nat)
    (made : (controller.factory operation handler controller.tree).1 = .ok context) :
    ∃ invoking, (∀ number, Quiet number controller invoking) ∧
      (pursue execute stream (.ok (operation, handler))).on controller =
        (let followed := (follow execute ⟨operation, context, stream, none⟩ handler
            (controller.invoker operation) .null).on invoking
         (blamed .handler followed.1, followed.2)) := by
  set asked := recorded (.noted (.consulting stream operation handler)) controller with askedDef
  have asks : ∀ number, Quiet number controller asked := fun _ =>
    mark_quiet (fun _ => rfl) controller
  have consults : ∀ number, Quiet number asked (consulting operation handler asked) := fun _ =>
    .of_eq rfl rfl rfl
  have invokes : ∀ number, Quiet number (consulting operation handler asked)
      (recorded (.noted (.invoking stream operation handler))
        (consulting operation handler asked)) :=
    fun _ => mark_quiet (fun _ => rfl) _
  refine ⟨_, fun number => trans_of (Quiet number)
    (trans_of (Quiet number) (asks number) (consults number)) (invokes number), ?_⟩
  have same : asked.factory operation handler asked.tree =
      controller.factory operation handler controller.tree := rfl
  rw [pursue]
  unfold mark
  rw [on_modify_bind, ← askedDef, on_bind, on_guarded, on_consult, same, made]
  dsimp only [blamed]
  rw [on_guarded, on_invoke]
  rfl

/-- The invoker only notes something. -/
theorem on_follow_notes
    {first : List InvokerStep}
    (notes : ∀ step ∈ first, step = .announce ∨ step = .confirm)
    (rest : List InvokerStep)
    (held : Handle)
    (controller : Controller) :
    ∃ later, (∀ number, Quiet number controller later) ∧
      (follow execute job handler (first ++ rest) held).on controller =
        (follow execute job handler rest held).on later := by
  induction first generalizing controller with
  | nil => exact ⟨controller, fun number => refl_of (Quiet number) controller, rfl⟩
  | cons step first inductionHypothesis =>
      obtain ⟨noted, others⟩ := List.forall_mem_cons.1 notes
      have goesOn : ∃ event, event.isPlain = true ∧
          (follow execute job handler (step :: first ++ rest) held).on controller =
            (follow execute job handler (first ++ rest) held).on
              (recorded (.noted (.event event)) controller) := by
        rcases noted with rfl | rfl
        · exact ⟨_, rfl, rfl⟩
        · exact ⟨_, rfl, rfl⟩
      obtain ⟨event, plain, goesOn⟩ := goesOn
      obtain ⟨later, quiet, follows⟩ :=
        inductionHypothesis others (recorded (.noted (.event event)) controller)
      refine ⟨later, fun number => ?_, goesOn.trans follows⟩
      exact trans_of (Quiet number) (note_spares plain controller).quiet (quiet number)

/-- The controller after a worker was started for a job. -/
def starting (handler : Handler) (script : Script) (controller : Controller) : Controller :=
  { controller with
    tokens := controller.tokens ++ [Latch.fresh]
    calls := controller.calls ++
      [.threaded { job with token := some controller.tokens.length } handler.id (.ready script)] }

/-- An invoker that runs the handler once, and otherwise only notes that, starts its worker. -/
theorem on_follow_of_works
    {first last : List InvokerStep}
    (works : handler.kind = .threaded body.script)
    (names : namePanic? (threadNameOf handler.id) = none)
    (notes : ∀ step ∈ first ++ last, step = .announce ∨ step = .confirm)
    (held : Handle)
    (controller : Controller) :
    ∃ running later, (∀ number, Quiet number controller running) ∧
      (∀ number, Quiet number (starting job handler body.script running) later) ∧
      (follow execute job handler (first ++ .run :: last) held).on controller =
        (.ok (.token running.tokens.length), later) := by
  have early : ∀ step ∈ first, step = .announce ∨ step = .confirm :=
    fun step among => notes step (List.mem_append_left _ among)
  have late : ∀ step ∈ last, step = .announce ∨ step = .confirm :=
    fun step among => notes step (List.mem_append_right _ among)
  obtain ⟨running, quiet, comes⟩ := on_follow_notes execute job early (.run :: last) held controller
  obtain ⟨later, still, ends⟩ := on_follow_notes execute job late [] (.token running.tokens.length)
    (starting job handler body.script running)
  rw [List.append_nil] at ends
  have handles : (handle execute job handler).on running =
      (.ok (.token running.tokens.length), starting job handler body.script running) := by
    unfold handle
    rw [works, names]
    rfl
  refine ⟨running, later, quiet, still, ?_⟩
  rw [comes, follow, on_bind, handles]
  exact ends

end

/-- Nothing has become of a stream that has just been opened for a caller who takes every
report. -/
theorem told_opening
    {react : Reaction}
    (calm : ∀ past report, react past report = none)
    (controller : Controller) :
    Told controller.streams.length controller [] (opening false react controller) := by
  have nothing : (trace (opening false react controller)).drop (trace controller).length = [] :=
    List.drop_length
  refine ⟨Nat.le_refl _, ?_, ?_, _, List.getElem?_concat_length, rfl, calm⟩
  · rw [since, nothing]
    rfl
  · rw [nothing]
    rfl

/-- A worker that starts is ready to do its duty. -/
theorem pending_starting
    {earlier running : Controller}
    {stream : Nat}
    (told : Told stream earlier [] running)
    (alone : ∀ call ∈ running.calls, call.job.stream ≠ stream) :
    Duty.Pending
      ⟨earlier, running.calls.length,
        ⟨operation, context, stream, some running.tokens.length⟩, handler.id, body⟩
      (starting ⟨operation, context, stream, none⟩ handler body.script running) := by
  refine ⟨List.getElem?_concat_length, told.of_eq rfl rfl, ?_⟩
  intro number call different present
  have within : number < running.calls.length := by
    have bound := (List.getElem?_eq_some_iff.1 present).1
    simp only [starting, List.length_append, List.length_singleton] at bound
    exact Nat.lt_of_le_of_ne (Nat.le_of_lt_succ bound) different
  have old : running.calls[number]? = some call := by
    rw [← present]
    exact (List.getElem?_append_left within).symm
  exact alone call (List.mem_of_getElem? old)

/-- An execution that engages a worker returns with the worker's duty pending. -/
theorem Engages.execute
    {react : Reaction}
    (engages : Engages controller request operation handler context body)
    (opened : Opened controller)
    (calm : ∀ past report, react past report = none) :
    ∃ served token,
      (execute react request).on controller = (.ok controller.streams.length, served) ∧
      Duty.Pending
        ⟨controller, controller.calls.length,
          ⟨operation, context, controller.streams.length, some token⟩, handler.id, body⟩
        served := by
  set number := controller.streams.length with numberDef
  set begun := opening false react controller with begunDef
  set prepared := withTree (controller.prepare request).2 begun with preparedDef
  have consults : (prepared.factory operation handler prepared.tree).1 = .ok context :=
    engages.consults
  obtain ⟨first, last, steps, notes⟩ := engages.invokes
  obtain ⟨invoking, invokes, pursues⟩ :=
    on_pursue_of_context (nested (executeOn (nestingLimit - 1))) number consults
  obtain ⟨running, later, runs, still, follows⟩ := on_follow_of_works
    (nested (executeOn (nestingLimit - 1))) ⟨operation, context, number, none⟩ engages.works
    engages.names notes .null invoking
  have attempts : attempted react request controller =
      (.ok (.ok (.token running.tokens.length)), later) := by
    have pursued : attempted react request controller =
        (pursue (nested (executeOn (nestingLimit - 1))) number (controller.prepare request).1).on
          prepared := rfl
    rw [pursued, engages.finds, pursues]
    have same : prepared.invoker = controller.invoker := rfl
    rw [same, steps, follows]
    rfl
  have comes : Quiet number begun running :=
    trans_of (Quiet number) (.of_eq rfl rfl rfl : Quiet number begun prepared)
      (trans_of (Quiet number) (invokes number) (runs number))
  have told : Told number controller [] running := (told_opening calm controller).quiet comes
  have calls : running.calls = controller.calls := comes.calls_eq
  have alone : ∀ call ∈ running.calls, call.job.stream ≠ number := by
    intro call present
    rw [calls] at present
    exact Nat.ne_of_lt (opened call present)
  have keeps : Quiet number later (keeping number (.token running.tokens.length) later) :=
    (keepHandle_spares number (.token running.tokens.length) later).quiet
  rw [on_execute_attempted, attempts]
  refine ⟨_, running.tokens.length, rfl, ?_⟩
  rw [← calls]
  exact Duty.At.quiet (pending_starting told alone)
    (trans_of (Quiet number) (still number) keeps)

end

/-! ## The end of an execution -/

/-- Nothing has become of an execution yet, and its worker is ready with the script of its
body. -/
structure Unbegun (number call : Nat) (body : Body) (earlier later : Controller) : Prop where
  /-- The caller has got nothing. -/
  delivers : deliveredIn number (since earlier later) = []
  /-- The keeper was not asked for the execution. -/
  asks : asked number ((trace later).drop (trace earlier).length) = 0
  /-- The keeper has got the trees that it was asked to store for others. -/
  served : earlier.keeper.Served earlier.custody ((trace later).drop (trace earlier).length)
    later.custody
  /-- The worker can go on with its body. -/
  ready : ∃ job name, job.stream = number ∧
    later.calls[call]? = some (.threaded job name (.ready body.script))

/-- An execution has ended once, as the body of its worker decides. -/
structure EndedOnce (number : Nat) (body : Body) (earlier later : Controller) : Prop where
  /-- The caller has got the reports that the body made before the verdict, and the verdict. -/
  delivers : deliveredIn number (since earlier later) = body.before ++ [body.verdict]
  /-- One of them ended the execution. -/
  ends : (deliveredIn number (since earlier later)).countP Report.isTerminal = 1
  /-- The keeper was asked to store the tree once if the verdict is of completion, and else not at
  all. -/
  asks : asked number ((trace later).drop (trace earlier).length) =
    if body.verdict.isComplete then 1 else 0
  /-- The keeper has got the trees that it was asked to store, for this execution and for others. -/
  served : earlier.keeper.Served earlier.custody ((trace later).drop (trace earlier).length)
    later.custody

theorem Duty.Pending.unbegun
    {duty : Duty}
    {later : Controller}
    (pending : duty.Pending later)
    (goes : Goes 0 duty.earlier later) :
    Unbegun duty.job.stream duty.call duty.body duty.earlier later :=
  ⟨pending.told.delivers, pending.told.asks, served_since (goes (Nat.zero_le _)), duty.job,
    duty.name, rfl, pending.found⟩

theorem Duty.Done.endedOnce
    {duty : Duty}
    {later : Controller}
    (done : duty.Done later)
    (goes : Goes 0 duty.earlier later) :
    EndedOnce duty.job.stream duty.body duty.earlier later := by
  obtain ⟨made, finished, same⟩ := done
  have delivers : deliveredIn duty.job.stream (since duty.earlier later) =
      duty.body.before ++ [duty.body.verdict] := finished.told.delivers.trans same
  refine ⟨delivers, ?_, ?_, served_since (goes (Nat.zero_le _))⟩
  · rw [delivers, Body.countP_isTerminal]
  · rw [finished.told.asks, same, Body.countP_isComplete]

/-- An execution whose handler has a worker ends once, whatever the body of the worker reports and
however it returns, and however the controller has been used since it was started and is used
afterwards.  As long as the worker has not begun, the caller has got nothing and the keeper was not
asked for it.  Once the workers have had a turn, the caller has got the reports that the body made
before any that ends the execution, then the first that does, or else what the way in which the body
returned says, and nothing more; and the keeper was asked to store the tree once if that was a
completion, and not at all otherwise.  Whenever it was asked, it got the tree as it was then: an
archive has stored it in its file, and any other keeper has responded to it. -/
theorem worker_ends_once
    {settings : Settings}
    {tree : Node}
    {keeper : Keeper}
    {factory : ContextFactory}
    {invoker : Invoker}
    {files : Files}
    {earlier : List Use}
    {react : Reaction}
    {request : Node}
    {operation : Operation}
    {handler : Handler}
    {context : Context}
    {body : Body}
    (calm : ∀ past report, react past report = none)
    (engages : Engages ((start settings tree keeper factory invoker files).after earlier) request
      operation handler context body) :
    let controller := (start settings tree keeper factory invoker files).after earlier
    let number := controller.streams.length
    ∃ served, (execute react request).on controller = (.ok number, served) ∧
      ∀ uses,
        (Unbegun number controller.calls.length body controller (served.after uses) ∨
            EndedOnce number body controller (served.after uses)) ∧
          ∀ rounds more,
            EndedOnce number body controller
              (((served.after uses).after [.settle (rounds + 1)]).after more) := by
  intro controller number
  obtain ⟨served, token, executes, pending⟩ :=
    engages.execute (opened_after settings tree keeper factory invoker files earlier) calm
  refine ⟨served, executes, fun uses => ?_⟩
  have sound := Duty.Sound.after (Or.inl pending) uses
  have goes : Goes 0 controller (served.after uses) := by
    have returns := execute_kept (goes_kept 0) react request controller
    rw [executes] at returns
    exact trans_of (Goes 0) returns (after_related (goes_kept 0) uses served)
  refine ⟨sound.imp (Duty.Pending.unbegun · goes) (Duty.Done.endedOnce · goes),
    fun rounds more => ?_⟩
  have done := sound.after_settle rounds
  have settles := after_related (goes_kept 0) [.settle (rounds + 1)] (served.after uses)
  refine Duty.Done.endedOnce
    ((after_related (Duty.kept _) more _ nofun (Or.inr done)).done done) ?_
  exact trans_of (Goes 0) (trans_of (Goes 0) goes settles) (after_related (goes_kept 0) more _)

/-- A body that completes, reports more and panics. -/
def overeager : Body :=
  ⟨[.fragment ["half"] (.bool true), .complete .null, .cancelled], .panicked (.text "late")⟩

/-- A controller with a file for its tree and a handler that has a worker with this body. -/
def employing : Controller :=
  (withKeeper (.archive ⟨"model.json", false⟩) Files.empty).after
    [.register Address.root "work" ⟨"worker", .threaded overeager.script⟩]

/-- The caller gets the completion and nothing after it, and the tree is stored once: the file has
its document then. -/
theorem worker_ends_once_overeager :
    ∃ served,
      (execute Reaction.calm (.object [("operation", .text "work")])).on employing =
        (.ok 0, served) ∧
      deliveredIn 0 (since employing (served.after [.settle 1])) =
        [.fragment ["half"] (.bool true), .complete .null] ∧
      asked 0 ((trace (served.after [.settle 1])).drop (trace employing).length) = 1 ∧
      (served.after [.settle 1]).custody.received = [Node.empty] ∧
      (served.after [.settle 1]).files.read "model.json" =
        .ok (Glyph.ofText (Archive.document ⟨"model.json", false⟩ Node.empty)) := by
  have engages : Engages employing (.object [("operation", .text "work")])
      ⟨"work", Address.root, []⟩ ⟨"worker", .threaded overeager.script⟩ ⟨Address.root, none⟩
      overeager :=
    ⟨rfl, rfl, rfl, if_neg (by decide +kernel), [], [], rfl, by simp⟩
  obtain ⟨served, executes, ends⟩ := worker_ends_once (fun _ _ => rfl) engages
  have ended := (ends []).2 0 []
  have stored : storedIn (since employing (served.after [.settle 1])) = [Node.empty] := by
    have bare : (storedIn (since employing (served.after [.settle 1]))).map
        (fun tree => (tree.isComposite, tree.members.length)) = [(true, 0)] := by
      obtain rfl : _ = served := congrArg Prod.snd executes
      decide +kernel
    obtain ⟨tree, stored, bare⟩ := List.map_eq_singleton_iff.1 bare
    obtain ⟨composite, memberless⟩ := Prod.mk.inj bare
    rw [stored, Node.eq_empty_iff.2 ⟨composite, List.length_eq_zero_iff.1 memberless⟩]
  have files : (served.after [.settle 1]).files =
      Archive.storeAll ⟨"model.json", false⟩ [Node.empty] Files.empty :=
    stored ▸ ended.served.archived _ rfl
  refine ⟨served, executes, ended.delivers, ended.asks, stored ▸ ended.served.received, ?_⟩
  rw [files]
  rfl

end Controller
end ManagedTree
