/-!
# Interrupts

Every thread has a flag that another thread may set to interrupt it.  A thread
that waits installs a waker, which an interrupt runs.
-/

namespace ManagedTree

/-- The interrupt state of a thread, with wakers of some type. -/
structure Interrupt (ω : Type) where
  /-- Whether the thread is interrupted. -/
  flag : Bool
  /-- The waker that an interrupt runs, if one is installed. -/
  waker : Option ω
deriving DecidableEq, Repr

namespace Interrupt

variable {ω : Type}

/-- The state of a thread that nobody has interrupted. -/
def fresh : Interrupt ω := ⟨false, none⟩

/-- Set the flag. -/
def set (interrupt : Interrupt ω) : Interrupt ω :=
  { interrupt with flag := true }

/-- Interrupt the thread: the waker to run, if there is one, and the state. -/
def raise (interrupt : Interrupt ω) : Option ω × Interrupt ω :=
  (interrupt.waker, interrupt.set)

/-- Look at the flag and clear it. -/
def take (interrupt : Interrupt ω) : Bool × Interrupt ω :=
  (interrupt.flag, { interrupt with flag := false })

/-- Install a waker in place of the one that is installed. -/
def register (waker : ω) (interrupt : Interrupt ω) : Interrupt ω :=
  { interrupt with waker := some waker }

/-- End a registration: no waker is installed afterwards. -/
def release (interrupt : Interrupt ω) : Interrupt ω :=
  { interrupt with waker := none }

@[simp] theorem flag_set (interrupt : Interrupt ω) : interrupt.set.flag = true := rfl

@[simp] theorem flag_take (interrupt : Interrupt ω) : interrupt.take.2.flag = false := rfl

end Interrupt
end ManagedTree
