import ManagedTree.Proofs.Address.Creation
import ManagedTree.Proofs.Controller.Moves
import ManagedTree.Proofs.Controller.Uses

/-!
# What dispatch does to the tree

Before it has a context made, dispatch changes the tree only where it creates the
address of an operation that has a handler.  It gets to a handler at most once.
-/

namespace ManagedTree
namespace Controller

open HasLedger Run

/-- Nothing may become of a request before its context is made: it describes no operation,
or one that does not create its address, has no handler, or has an address that cannot be
created. -/
inductive Fruitless (controller : Controller) (request : Node) : Prop
  | malformed {error : TreeError} :
      Operation.ofNode request = .error error →
      Fruitless controller request
  | plain {operation : Operation} :
      Operation.ofNode request = .ok operation →
      operation.name ≠ controller.settings.creationOperation →
      Fruitless controller request
  | unhandled {operation : Operation} :
      Operation.ofNode request = .ok operation →
      controller.registry.lookup operation.address operation.name = none →
      Fruitless controller request
  | blocked {operation : Operation} {error : TreeError} :
      Operation.ofNode request = .ok operation →
      (operation.address.create controller.tree).1 = .error error →
      Fruitless controller request

/-- An operation and its handler are ready in a tree: the request describes the operation,
its address resolves, and the handler is the one for it. -/
structure Ready
    (controller : Controller) (request : Node) (operation : Operation) (handler : Handler)
    (root : Node) : Prop where
  /-- The request describes the operation. -/
  describes : Operation.ofNode request = .ok operation
  /-- The address resolves. -/
  resolves : ∃ node, operation.address.find root = .ok node
  /-- The handler is the one for the operation at its address. -/
  handles : controller.registry.lookup operation.address operation.name = some handler
  /-- The creation operation has created its address, and has done nothing else. -/
  creates : operation.name = controller.settings.creationOperation →
    root = (operation.address.create controller.tree).2

/-- A creation operation that is ready because its address was created is not fruitless. -/
theorem Ready.not_fruitless
    {controller : Controller}
    {request root node : Node}
    {operation : Operation}
    {handler : Handler}
    (ready : Ready controller request operation handler root)
    (creates : operation.name = controller.settings.creationOperation)
    (made : (operation.address.create controller.tree).1 = .ok node) :
    ¬ Fruitless controller request := by
  intro fruitless
  cases fruitless with
  | malformed described =>
      rw [ready.describes] at described
      cases described
  | plain described differs =>
      rw [ready.describes] at described
      cases described
      exact differs creates
  | unhandled described absent =>
      rw [ready.describes] at described
      cases described
      rw [ready.handles] at absent
      cases absent
  | blocked described failed =>
      rw [ready.describes] at described
      cases described
      rw [made] at failed
      cases failed

/-- Looking for the handler and making the address resolve either fails and leaves the tree
alone, or makes an operation and its handler ready; then the tree is left alone as well when
nothing may become of the request. -/
theorem prepare_cases
    (controller : Controller)
    (request : Node) :
    (∃ error, controller.prepare request = (.error error, controller.tree)) ∨
      ∃ operation handler root,
        controller.prepare request = (.ok (operation, handler), root) ∧
        Ready controller request operation handler root ∧
        (Fruitless controller request → root = controller.tree) := by
  unfold prepare
  cases described : Operation.ofNode request with
  | error error => exact Or.inl ⟨_, rfl⟩
  | ok operation =>
      dsimp only
      by_cases creates : operation.name = controller.settings.creationOperation
      · rw [if_pos creates]
        dsimp only
        cases found : controller.registry.lookup operation.address operation.name with
        | none => exact Or.inl ⟨_, rfl⟩
        | some handler =>
            dsimp only
            rw [if_pos creates]
            rcases made : operation.address.create controller.tree with ⟨error | node, tree⟩
            · have unchanged := Address.create_of_error (congrArg Prod.fst made)
              rw [made] at unchanged
              dsimp only at unchanged ⊢
              rw [unchanged]
              exact Or.inl ⟨_, rfl⟩
            · have resolves := Address.find_create (congrArg Prod.fst made)
              rw [made] at resolves
              have ready : Ready controller request operation handler tree :=
                ⟨described, ⟨node, resolves⟩, found, fun _ => by rw [made]⟩
              refine Or.inr ⟨operation, handler, tree, rfl, ready, fun fruitless => ?_⟩
              exact absurd fruitless (ready.not_fruitless creates (congrArg Prod.fst made))
      · rw [if_neg creates]
        cases resolves : operation.address.find controller.tree with
        | error error => exact Or.inl ⟨_, rfl⟩
        | ok node =>
            dsimp only
            cases found : controller.registry.lookup operation.address operation.name with
            | none => exact Or.inl ⟨_, rfl⟩
            | some handler =>
                dsimp only
                rw [if_neg creates]
                exact Or.inr ⟨operation, handler, controller.tree, rfl,
                  ⟨described, ⟨node, resolves⟩, found, fun same => absurd same creates⟩,
                  fun _ => rfl⟩

theorem prepare_of_error
    {controller : Controller}
    {request : Node}
    {error : DispatchError}
    (failed : (controller.prepare request).1 = .error error) :
    (controller.prepare request).2 = controller.tree := by
  rcases prepare_cases controller request with ⟨_, same⟩ | ⟨_, _, _, same, _⟩
  · rw [same]
  · rw [same] at failed
    cases failed

theorem prepare_of_ok
    {controller : Controller}
    {request : Node}
    {operation : Operation}
    {handler : Handler}
    (found : (controller.prepare request).1 = .ok (operation, handler)) :
    Ready controller request operation handler (controller.prepare request).2 ∧
      (Fruitless controller request → (controller.prepare request).2 = controller.tree) := by
  rcases prepare_cases controller request with ⟨_, same⟩ | ⟨_, _, _, same, ready, fruitless⟩
  · rw [same] at found
    cases found
  · rw [same] at found ⊢
    cases found
    exact ⟨ready, fruitless⟩

/-! ## Requests that are dispatched in between -/

/-- Nothing is noted about the dispatch of a stream's request. -/
def Undispatched (stream : Nat) (segment : Trace Errand Occurrence) : Prop :=
  ∀ record ∈ segment, ∀ occurrence, record.moment = .noted occurrence →
    occurrence.dispatching? ≠ some stream

theorem Undispatched.nil (stream : Nat) : Undispatched stream [] := by
  simp [Undispatched]

theorem Undispatched.append
    {stream : Nat}
    {segment more : Trace Errand Occurrence}
    (first : Undispatched stream segment)
    (second : Undispatched stream more) :
    Undispatched stream (segment ++ more) := by
  intro record present
  rcases List.mem_append.1 present with early | late
  · exact first record early
  · exact second record late

/-- A record that is about no dispatch of a stream's request. -/
theorem Undispatched.cons
    {stream : Nat}
    {record : Record Errand Occurrence}
    {rest : Trace Errand Occurrence}
    (first : ∀ occurrence, record.moment = .noted occurrence →
      occurrence.dispatching? ≠ some stream)
    (others : Undispatched stream rest) :
    Undispatched stream (record :: rest) := by
  intro other present
  rcases List.mem_cons.1 present with rfl | later
  · exact first
  · exact others other later

/-- An event is about no dispatch. -/
theorem Undispatched.event
    {stream : Nat}
    {rest : Trace Errand Occurrence}
    (event : Event)
    (controller : Controller)
    (others : Undispatched stream rest) :
    Undispatched stream (recordOf controller (.noted (.event event)) :: rest) := by
  refine others.cons fun occurrence noted => ?_
  obtain rfl : .event event = occurrence := Moment.noted.inj noted
  exact nofun

/-- A move is about no dispatch below its floor. -/
theorem Move.undispatched
    {floor stream : Nat}
    {before later : Controller}
    (move : Move floor before later)
    (below : stream < floor) :
    ∃ segment, trace later = trace before ++ segment ∧ Undispatched stream segment := by
  have nil := Undispatched.nil stream
  cases move with
  | aside same => exact ⟨[], same.trace_eq, nil⟩
  | turns => exact ⟨[], (List.append_nil _).symm, nil⟩
  | opens => exact ⟨[], (List.append_nil _).symm, nil⟩
  | keeps => exact ⟨[], (List.append_nil _).symm, nil⟩
  | passes passage =>
      refine ⟨_, trace_recorded _ _, nil.cons fun occurrence noted => ?_⟩
      rw [moment_recordOf] at noted
      subst noted
      cases passage
  | notes plain => exact ⟨_, trace_recorded _ _, nil.event _ _⟩
  | dispatches dispatching bound =>
      refine ⟨_, trace_recorded _ _, nil.cons fun occurrence noted about => ?_⟩
      obtain rfl := Moment.noted.inj noted
      rw [dispatching] at about
      obtain rfl := Option.some.inj about
      omega
  | drops => exact ⟨_, trace_recorded _ _, nil.event _ _⟩
  | delivers => exact ⟨_, trace_delivering _ _ _, (nil.event _ _).event _ _⟩
  | completes => exact ⟨_, trace_handing _ _ _, ((nil.cons (by simp)).event _ _).event _ _⟩
  | stores => exact ⟨_, trace_carrying _ _ _ _, ((nil.cons (by simp)).event _ _).cons (by simp)⟩

theorem undispatched_of_moves
    {floor stream : Nat}
    {before later : Controller}
    (moves : Relation.ReflTransGen (Move floor) before later)
    (below : stream < floor) :
    ∃ segment, trace later = trace before ++ segment ∧ Undispatched stream segment := by
  induction moves with
  | refl => exact ⟨[], (List.append_nil _).symm, .nil stream⟩
  | tail _ move inductionHypothesis =>
      obtain ⟨segment, grown, undispatched⟩ := inductionHypothesis
      obtain ⟨more, grownMore, undispatchedMore⟩ := move.undispatched below
      refine ⟨segment ++ more, ?_, undispatched.append undispatchedMore⟩
      rw [grownMore, grown, List.append_assoc]

/-! ## From the context to the handler -/

/-- What the end of a computation is to dispatch. -/
def blamed {α : Type} (blame : Fault → DispatchError) :
    Except Ending α → Except Ending (Except DispatchError α)
  | .ok value => .ok (.ok value)
  | .error (.fault fault) => .ok (.error (blame fault))
  | .error (.panic panic) => .error (.panic panic)

theorem on_guarded
    {α : Type}
    (blame : Fault → DispatchError)
    (work : Work α)
    (controller : Controller) :
    (guarded blame work).on controller =
      (blamed blame (work.on controller).1, (work.on controller).2) := by
  unfold guarded
  rw [on_outcome_bind]
  rcases (work.on controller).1 with (fault | panic) | value <;> rfl

/-- The controller after a context is made. -/
def consulting
    (operation : Operation) (handler : Handler) (controller : Controller) : Controller :=
  withTree (controller.factory operation handler controller.tree).2 controller

theorem on_consult
    (operation : Operation)
    (handler : Handler)
    (controller : Controller) :
    (consult operation handler).on controller =
      ((controller.factory operation handler controller.tree).1,
        consulting operation handler controller) := by
  unfold consult
  rw [on_get_bind]
  dsimp only
  rw [on_modify_bind, on_ending]
  rfl

theorem on_invoke
    (execute : Node → Work Unit)
    (job : Job)
    (handler : Handler)
    (controller : Controller) :
    (invoke execute job handler).on controller =
      (follow execute job handler (controller.invoker job.operation) .null).on
        (recorded (.noted (.invoking job.stream job.operation handler)) controller) := rfl

/-- Dispatch gives up, or has the context of the operation made for its handler, and then the
invoker gets the handler if there is a context; nothing else is dispatched for the stream. -/
theorem pursue_records
    {execute : Node → Work Unit}
    {stream : Nat}
    (executes : ∀ request, Keeps (Goes (stream + 1)) (execute request))
    (prepared : Except DispatchError (Operation × Handler))
    {controller : Controller}
    (opened : stream < controller.streams.length) :
    ∃ occurrence rest,
      trace ((pursue execute stream prepared).on controller).2 =
        trace controller ++ recordOf controller (.noted occurrence) :: rest ∧
      ((∃ error, prepared = .error error ∧ occurrence = .givingUp stream ∧ rest = []) ∨
        ∃ operation handler, prepared = .ok (operation, handler) ∧
          occurrence = .consulting stream operation handler ∧
          (Undispatched stream rest ∨
            ∃ context record segment, rest = record :: segment ∧
              (controller.factory operation handler controller.tree).1 = .ok context ∧
              record.moment = .noted (.invoking stream operation handler) ∧
              Undispatched stream segment)) := by
  rcases prepared with error | ⟨operation, handler⟩
  · exact ⟨.givingUp stream, [], trace_recorded _ _, Or.inl ⟨error, rfl, rfl, rfl⟩⟩
  set asked := recorded (.noted (.consulting stream operation handler)) controller with askedDef
  have asks : trace (consulting operation handler asked) =
      trace controller ++
        [recordOf controller (.noted (.consulting stream operation handler))] := by
    change trace asked = _
    rw [askedDef, trace_recorded]
  refine ⟨.consulting stream operation handler, ?_⟩
  rw [pursue]
  unfold mark
  rw [on_modify_bind, ← askedDef, on_bind, on_guarded, on_consult]
  have same : asked.factory operation handler asked.tree =
      controller.factory operation handler controller.tree := rfl
  rw [same]
  rcases made : (controller.factory operation handler controller.tree).1 with
    (fault | panic) | context
  · exact ⟨[], asks, Or.inr ⟨operation, handler, rfl, rfl, Or.inl (.nil stream)⟩⟩
  · exact ⟨[], asks, Or.inr ⟨operation, handler, rfl, rfl, Or.inl (.nil stream)⟩⟩
  · dsimp only [blamed]
    rw [on_guarded, on_invoke]
    dsimp only
    have follows := follow_kept (goes_kept (stream + 1)) executes
      ⟨operation, context, stream, none⟩ handler
      ((consulting operation handler asked).invoker operation) .null
      (recorded (.noted (.invoking stream operation handler))
        (consulting operation handler asked)) opened
    obtain ⟨segment, grown, undispatched⟩ :=
      undispatched_of_moves follows (Nat.lt_succ_self stream)
    refine ⟨recordOf (consulting operation handler asked)
      (.noted (.invoking stream operation handler)) :: segment, ?_, Or.inr
        ⟨operation, handler, rfl, rfl, Or.inr ⟨context, _, segment, rfl, made, rfl, undispatched⟩⟩⟩
    rw [grown, trace_recorded, asks]
    simp

/-! ## Executions -/

/-- After a dispatch its execution only reports the end of the stream and keeps the handle. -/
theorem execute_goes_after_dispatch
    (floor : Nat)
    (react : Reaction)
    (request : Node)
    (controller : Controller) :
    Goes floor
      ((dispatch (nested (executeOn (nestingLimit - 1))) request controller.streams.length).on
        (opening false react controller)).2
      ((execute react request).on controller).2 := by
  have kept := goes_kept floor
  unfold execute
  rw [on_openStream_bind, executeOn_limit, on_bind, on_conclude]
  set tried := (dispatch (nested (executeOn (nestingLimit - 1))) request
    controller.streams.length).on (opening false react controller)
  cases caught tried.1 with
  | ok handle => exact kept.handles controller.streams.length handle tried.2
  | error error =>
      have refuses := refuse_kept kept controller.streams.length error tried.2
      dsimp only
      rcases both : (refuse controller.streams.length error).on tried.2 with ⟨early | handle, later⟩
      · rw [both] at refuses
        exact refuses
      · rw [both] at refuses
        exact trans_of (Goes floor) refuses (kept.handles controller.streams.length handle later)

/-- Whether a record tells that the invoker gets a handler for a stream. -/
def invokes (stream : Nat) (record : Record Errand Occurrence) : Bool :=
  match record.moment with
  | .noted (.invoking other _ _) => other == stream
  | _ => false

theorem Undispatched.countP_invokes
    {stream : Nat}
    {segment : Trace Errand Occurrence}
    (undispatched : Undispatched stream segment) :
    segment.countP (invokes stream) = 0 := by
  rw [List.countP_eq_zero]
  intro record present invoking
  unfold invokes at invoking
  split at invoking
  · rename_i other operation handler noted
    have same : other = stream := by simpa using invoking
    subst same
    exact undispatched record present _ noted rfl
  · cases invoking

/-- What dispatch does to the tree of a controller in any state, and whatever happens
afterwards.  When dispatch has the context made or gives up before that, a request of which
nothing may become has left the tree alone.  When the context is made, the address resolves,
and the creation operation has done nothing but create it.  The invoker gets a handler for
the request at most once: the one for which the context was made. -/
theorem execute_dispatch
    (controller : Controller)
    (react : Reaction)
    (request : Node)
    (uses : List Use) :
    ∃ record root rest,
      trace (((execute react request).on controller).2.after uses) =
        trace controller ++ record :: rest ∧
      record.trees = [root] ∧
      (Fruitless controller request → root = controller.tree) ∧
      (record.moment = .noted (.givingUp controller.streams.length) ∧ root = controller.tree ∨
        ∃ operation handler,
          record.moment =
            .noted (.consulting controller.streams.length operation handler) ∧
          Ready controller request operation handler root) ∧
      rest.countP (invokes controller.streams.length) ≤ 1 ∧
      ∀ later ∈ rest, ∀ operation handler,
        later.moment = .noted (.invoking controller.streams.length operation handler) →
          record.moment = .noted (.consulting controller.streams.length operation handler) ∧
          Ready controller request operation handler root ∧
          ∃ context, (controller.factory operation handler root).1 = .ok context := by
  set stream := controller.streams.length with streamDef
  set opened := opening false react controller with openedDef
  have executes : ∀ floor, ∀ request,
      Keeps (Goes floor) (nested (executeOn (nestingLimit - 1)) request) :=
    fun floor => nested_kept (goes_kept floor) (executeOn_kept (goes_kept floor) _)
  set prepared := withTree (controller.prepare request).2 opened with preparedDef
  have isOpen : stream < prepared.streams.length := by
    simp [preparedDef, openedDef, withTree, opening, streamDef]
  set tried := (pursue (nested (executeOn (nestingLimit - 1))) stream
    (controller.prepare request).1).on prepared with triedDef
  have stillOpen : stream < tried.2.streams.length := by
    have pursues := pursue_kept (goes_kept 0) (executes 0) (Nat.zero_le stream)
      (controller.prepare request).1 prepared (Nat.zero_le _)
    exact Nat.lt_of_lt_of_le isOpen (grows_of_moves pursues).length_le
  have ends : Goes (stream + 1) tried.2 (((execute react request).on controller).2.after uses) :=
    trans_of (Goes (stream + 1))
      (execute_goes_after_dispatch (stream + 1) react request controller)
      (after_related (goes_kept (stream + 1)) uses _)
  obtain ⟨last, grown, silentLast⟩ :=
    undispatched_of_moves (ends stillOpen) (Nat.lt_succ_self stream)
  obtain ⟨occurrence, rest, pursued, cases⟩ :=
    pursue_records (executes (stream + 1)) (controller.prepare request).1 isOpen
  have whole : trace (((execute react request).on controller).2.after uses) =
      trace controller ++ recordOf prepared (.noted occurrence) :: (rest ++ last) := by
    rw [grown, triedDef, pursued, List.append_assoc, List.cons_append]
    rfl
  refine ⟨_, (controller.prepare request).2, _, whole, rfl, ?_⟩
  rcases cases with ⟨error, failed, rfl, rfl⟩ | ⟨operation, handler, found, rfl, goesOn⟩
  · have unchanged := prepare_of_error failed
    refine ⟨fun _ => unchanged, Or.inl ⟨rfl, unchanged⟩, ?_, ?_⟩
    · rw [List.nil_append, silentLast.countP_invokes]
      exact Nat.zero_le _
    · intro later present operation handler noted
      exact absurd rfl (silentLast later present _ noted)
  · obtain ⟨ready, fruitless⟩ := prepare_of_ok found
    refine ⟨fruitless, Or.inr ⟨operation, handler, rfl, ready⟩, ?_⟩
    rcases goesOn with silent | ⟨context, record, segment, rfl, made, invoking, silent⟩
    · have silentAll := silent.append silentLast
      refine ⟨?_, fun later present other act noted => ?_⟩
      · rw [silentAll.countP_invokes]
        exact Nat.zero_le _
      · exact absurd rfl (silentAll later present _ noted)
    · have silentAll := silent.append silentLast
      refine ⟨?_, fun later present other act noted => ?_⟩
      · rw [List.cons_append, List.countP_cons, silentAll.countP_invokes]
        split <;> omega
      · rcases List.mem_cons.1 present with rfl | among
        · rw [invoking] at noted
          obtain ⟨-, rfl, rfl⟩ := Occurrence.invoking.inj (Moment.noted.inj noted)
          exact ⟨rfl, ready, context, made⟩
        · exact absurd rfl (silentAll later among _ noted)

end Controller
end ManagedTree
