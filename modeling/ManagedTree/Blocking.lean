import ManagedTree.Fault.Basic
import ManagedTree.Interrupt
import ManagedTree.Report
import ManagedTree.Run

/-!
# Blocking calls

A blocking call waits until its operation has ended.  An interrupt of the waiting
thread asks for cancellation and the wait goes on; the interrupt is restored when
the call returns.
-/

namespace ManagedTree

/-- What a gathering gives to a caller who waits, once the operation has ended. -/
def Gathering.answer? (gathering : Gathering) : Option (Except BlockingError Node) :=
  match gathering.outcome with
  | none => none
  | some .complete => some (.ok gathering.result)
  | some (.failed failure) => some (.error (.failed failure))
  | some .cancelled => some (.error .cancelled)

/-- What a blocking call sees and does while it waits. -/
structure Waiting (ε σ : Type) where
  /-- What has been gathered so far. -/
  gathered : σ → Gathering
  /-- Look at the interrupt flag of the waiting thread and clear it. -/
  takeInterrupt : σ → Bool × σ
  /-- Set the interrupt flag of the waiting thread. -/
  setInterrupt : σ → σ
  /-- Ask for cancellation. -/
  cancel : Run ε σ Unit
  /-- Wait until something happens, if anything still can. -/
  wait : Run ε σ Bool

namespace Waiting

variable {ε σ : Type}

/-- Wait for the end: what the call gives, and whether an interrupt was taken.  There is
no answer when nothing can happen any more, or when the budget of turns is used up. -/
def loop (waiting : Waiting ε σ) :
    Nat → Bool → Run ε σ (Option (Except BlockingError Node) × Bool)
  | 0, taken => pure (none, taken)
  | budget + 1, taken => do
    let state ← get
    match (waiting.gathered state).answer? with
    | some answer => pure (some answer, taken)
    | none =>
      let (flag, state) := waiting.takeInterrupt state
      modify fun _ => state
      if flag then do
        waiting.cancel
        loop waiting budget true
      else do
        if ← waiting.wait then
          loop waiting budget taken
        else
          pure (none, taken)

/-- Wait for the end and restore the interrupt that was taken. -/
def run (waiting : Waiting ε σ) (budget : Nat) : Run ε σ (Option (Except BlockingError Node)) := do
  let (answer, taken) ← waiting.loop budget false
  if taken then
    modify waiting.setInterrupt
  pure answer

end Waiting

/-! ## Given happenings -/

/-- What may happen to a thread that waits. -/
inductive Happening where
  /-- The operation reports. -/
  | report (report : Report)
  /-- The thread is interrupted. -/
  | interrupt
  /-- Something other than the blocking call clears the thread's flag. -/
  | cleared
deriving Repr

/-- When something happens in the course of a blocking call. -/
inductive Phase where
  /-- While the operation is started. -/
  | start
  /-- During a request for cancellation. -/
  | request
  /-- While the thread waits. -/
  | wait
deriving DecidableEq, Repr

/-- What is noted in the course of a blocking call. -/
inductive Incident where
  /-- Something happens. -/
  | happened (phase : Phase) (happening : Happening)
  /-- The call looks at the interrupt flag and clears it. -/
  | looked (flag : Bool)
  /-- The call asks for cancellation. -/
  | requested
deriving Repr

/-- A blocking call to which given things happen. -/
structure Scene where
  /-- What has been gathered. -/
  gathering : Gathering
  /-- The interrupt state of the waiting thread. -/
  interrupt : Interrupt Unit
  /-- What has been noted, in order. -/
  trace : List Incident
  /-- What happens during each request for cancellation. -/
  onCancel : List (List Happening)
  /-- What happens each time the thread waits. -/
  later : List (List Happening)
deriving Repr

namespace Scene

/-- The scene with one more incident noted. -/
def noted (incident : Incident) (scene : Scene) : Scene :=
  { scene with trace := scene.trace ++ [incident] }

/-- Something happens. -/
def happen (phase : Phase) (scene : Scene) (happening : Happening) : Scene :=
  let scene := scene.noted (.happened phase happening)
  match happening with
  | .report report => { scene with gathering := scene.gathering.receive report }
  | .interrupt => { scene with interrupt := scene.interrupt.raise.2 }
  | .cleared => { scene with interrupt := scene.interrupt.take.2 }

/-- Look at the interrupt flag and clear it. -/
def look (scene : Scene) : Bool × Scene :=
  let (flag, interrupt) := scene.interrupt.take
  (flag, { scene with interrupt }.noted (.looked flag))

/-- Ask for cancellation. -/
def cancel (scene : Scene) : Scene :=
  let scene := scene.noted .requested
  match scene.onCancel with
  | [] => scene
  | happenings :: onCancel => happenings.foldl (happen .request) { scene with onCancel }

/-- Wait until something happens, if anything will. -/
def wait (scene : Scene) : Bool × Scene :=
  match scene.later with
  | [] => (false, scene)
  | happenings :: later => (true, happenings.foldl (happen .wait) { scene with later })

/-- The waiting in a scene, which nothing ends early. -/
def waiting : Waiting Empty Scene where
  gathered := Scene.gathering
  takeInterrupt := look
  setInterrupt scene := { scene with interrupt := scene.interrupt.set }
  cancel := modify cancel
  wait := Run.of fun scene =>
    let (more, scene) := scene.wait
    (.ok more, scene)

/-- A bound on the turns that a blocking call takes: two for every time it waits, one for
every request during which something happens, one for an interrupt that is there before,
and one to see the end. -/
def turns (scene : Scene) : Nat :=
  2 * scene.later.length + scene.onCancel.length + 2

/-- Run a blocking call.  The thread's flag may be set before, and things happen while
the operation is started, during each request for cancellation, and each time the thread
waits. -/
def block
    (interrupted : Bool) (started : List Happening) (onCancel later : List (List Happening)) :
    Option (Except BlockingError Node) × Scene :=
  let scene : Scene := ⟨Gathering.start, ⟨interrupted, none⟩, [], onCancel, later⟩
  let scene := started.foldl (happen .start) scene
  let scene := { scene with interrupt := scene.interrupt.register () }
  match (waiting.run scene.turns).on scene with
  | (.ok answer, scene) => (answer, { scene with interrupt := scene.interrupt.release })
  | (.error impossible, _) => nomatch impossible

end Scene
end ManagedTree
