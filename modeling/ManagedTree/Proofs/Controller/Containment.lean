import ManagedTree.Proofs.Controller.Protocol

/-!
# Panics in an execution

Whoever panics while a request is dispatched, be it the factory, the invoker, the handler,
the keeper or the caller, the panic ends the dispatch and is reported as a failure.  That
report is the one thing after the dispatch in which somebody may panic again.
-/

namespace ManagedTree
namespace Controller

open HasLedger Run

/-- A report that is made but not delivered yet is not among what has reached the caller. -/
theorem delivered_passing
    (number : Nat)
    (made : Report)
    (controller : Controller) :
    (passing number made controller).delivered number = controller.delivered number := by
  have grown : (passing number made controller).journal =
      eventsOf (trace controller ++
        [recordOf controller (.noted (.event (.reported number made)))]) :=
    congrArg eventsOf (trace_passing number made controller)
  rw [delivered, grown, eventsOf_append, deliveredIn_append]
  exact List.append_nil _

/-- A refusal is dropped after the end of its stream. -/
theorem on_refuse_of_ended
    {number : Nat}
    {stream : Stream}
    {controller : Controller}
    (error : DispatchError)
    (found : controller.streams[number]? = some stream)
    (ended : stream.ended.isSet = true) :
    (refuse number error).on controller =
      (.ok .null, reporting number (.failed error.failure) controller) := by
  rw [refuse, on_bind, on_makeReport_of_ended _ found ended]
  rfl

/-- Before the end of its stream a refusal reaches the caller, who may panic. -/
theorem on_refuse_of_open
    {number : Nat}
    {stream : Stream}
    {controller : Controller}
    (error : DispatchError)
    (found : controller.streams[number]? = some stream)
    (unended : stream.ended.isSet = false) :
    (refuse number error).on controller =
      (match stream.react (controller.delivered number) (.failed error.failure) with
        | some panic => .error (.panic panic)
        | none => .ok .null, delivering number (.failed error.failure) controller) := by
  rw [refuse, on_bind, on_makeReport_of_open _ found unended, delivered_passing]
  cases stream.react (controller.delivered number) (.failed error.failure) <;> rfl

/-- The handle that an execution returned is kept with its stream. -/
theorem handle_keeping
    {number : Nat}
    {stream : Stream}
    {controller : Controller}
    (found : controller.streams[number]? = some stream)
    (handle : Handle) :
    (keeping number handle controller).streams[number]?.map Stream.handle = some handle := by
  rw [keeping, List.getElem?_modify_eq, found]
  rfl

/-- An execution and the panics in it, for every caller and in every state of a controller.  When
the dispatch gives a handle, the execution returns it.  When the dispatch fails or somebody
panics in it, the execution returns no handle, unless the caller panics at the report of that:
this panic leaves the execution.  Hence no panic does if the caller takes such reports. -/
theorem execute_contained
    (controller : Controller)
    (react : Reaction)
    (request : Node) :
    let number := controller.streams.length
    let tried := attempted react request controller
    (∀ handle, caught tried.1 = .ok handle →
      ∃ served, (execute react request).on controller = (.ok number, served) ∧
        served.streams[number]?.map Stream.handle = some handle) ∧
    (∀ error, caught tried.1 = .error error →
      endedOf number tried.2 = true ∨
        react (tried.2.delivered number) (.failed error.failure) = none →
      ∃ served, (execute react request).on controller = (.ok number, served) ∧
        served.streams[number]?.map Stream.handle = some .null) ∧
    (∀ error panic, caught tried.1 = .error error → endedOf number tried.2 = false →
      react (tried.2.delivered number) (.failed error.failure) = some panic →
      ∃ left, (execute react request).on controller = (.error (.panic panic), left)) ∧
    ((∀ reports failure, react reports (.failed failure) = none) →
      ∃ served handle, (execute react request).on controller = (.ok number, served) ∧
        served.streams[number]?.map Stream.handle = some handle) := by
  intro number tried
  obtain ⟨stream, found, caller⟩ : ∃ stream, tried.2.streams[number]? = some stream ∧
      stream.react = react :=
    (grows_of_moves (attempted_goes react request controller)).stays number
      ⟨some controller.nextNumber, react, Latch.fresh, .null⟩ List.getElem?_concat_length
  have result := on_execute_attempted react request controller
  have same : attempted react request controller = tried := rfl
  rw [same] at result
  have returns : ∀ handle, caught tried.1 = .ok handle →
      ∃ served, (execute react request).on controller = (.ok number, served) ∧
        served.streams[number]?.map Stream.handle = some handle := by
    intro handle dispatched
    rw [dispatched] at result
    exact ⟨_, result, handle_keeping found handle⟩
  have refuses : ∀ error, caught tried.1 = .error error →
      endedOf number tried.2 = true ∨
        react (tried.2.delivered number) (.failed error.failure) = none →
      ∃ served, (execute react request).on controller = (.ok number, served) ∧
        served.streams[number]?.map Stream.handle = some .null := by
    intro error failed taken
    rw [failed] at result
    dsimp only at result
    cases ended : stream.ended.isSet with
    | true =>
        rw [on_refuse_of_ended error found ended] at result
        exact ⟨_, result, handle_keeping found .null⟩
    | false =>
        have takes : react (tried.2.delivered number) (.failed error.failure) = none := by
          rw [endedOf_of_found found, ended] at taken
          exact taken.resolve_left Bool.false_ne_true
        obtain ⟨after, foundAfter, -⟩ :=
          (grows_delivering number (.failed error.failure) tried.2).stays number stream found
        rw [on_refuse_of_open error found ended, caller, takes] at result
        exact ⟨_, result, handle_keeping foundAfter .null⟩
  refine ⟨returns, refuses, ?_, ?_⟩
  · intro error panic failed unended panics
    rw [endedOf_of_found found] at unended
    rw [failed] at result
    dsimp only at result
    rw [on_refuse_of_open error found unended, caller, panics] at result
    exact ⟨_, result⟩
  · intro takes
    cases outcome : caught tried.1 with
    | ok handle =>
        obtain ⟨served, executes, kept⟩ := returns handle outcome
        exact ⟨served, handle, executes, kept⟩
    | error error =>
        obtain ⟨served, executes, kept⟩ := refuses error outcome (Or.inr (takes _ _))
        exact ⟨served, .null, executes, kept⟩

/-- A caller who panics at failures gets his panic back when a request describes no operation. -/
theorem execute_uncontained :
    ∃ left, (execute
        (fun | _, .failed _ => some (.text "boom") | _, _ => none) .null).on
          (withKeeper .memory Files.empty) = (.error (.panic (.text "boom")), left) :=
  ⟨_, rfl⟩

end Controller
end ManagedTree
