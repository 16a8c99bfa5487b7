import ManagedTree.Interrupt
import Mathlib.Data.List.Induction

/-!
# Waits within waits

A thread that waits registers its waker for as long as it waits, and it may begin another wait and
end that before its first one is over.  A registration puts its waker in the place of the one that
is installed, and the end of any registration leaves none there.  So an interrupt wakes a wait until
the first wait within it ends.
-/

namespace ManagedTree

/-- What happens to the interrupt flag of a thread. -/
inductive Signal where
  /-- The thread is interrupted. -/
  | interrupt
  /-- The thread looks at its flag and clears it. -/
  | look
  /-- The thread sets its flag. -/
  | restore
deriving DecidableEq, Repr

/-- What happens to the interrupt state of a thread. -/
inductive Turn (ω : Type) where
  /-- A waker is registered. -/
  | registered (waker : ω)
  /-- The latest registration that is alive is dropped. -/
  | dropped
  /-- Something happens to the flag. -/
  | signalled (signal : Signal)
deriving DecidableEq, Repr

/-- A stretch of what a thread does. -/
inductive Spell (ω : Type) where
  /-- Something happens to the flag. -/
  | signalled (signal : Signal)
  /-- A wait with a waker, and what happens in the course of it. -/
  | wait (waker : ω) (spells : List (Spell ω))
deriving Repr

namespace Spell

variable {ω : Type}

mutual

/-- What happens to the interrupt state in a stretch. -/
def turns : Spell ω → List (Turn ω)
  | .signalled signal => [.signalled signal]
  | .wait waker spells => .registered waker :: (turnsAll spells ++ [.dropped])

/-- What happens in stretches, one after another. -/
def turnsAll : List (Spell ω) → List (Turn ω)
  | [] => []
  | spell :: spells => turns spell ++ turnsAll spells

end

/-- Whether a stretch is a wait. -/
def isWait : Spell ω → Bool
  | .wait _ _ => true
  | .signalled _ => false

end Spell

namespace Interrupt

variable {ω : Type}

/-- The interrupt state after something happens to it. -/
def turned (interrupt : Interrupt ω) : Turn ω → Interrupt ω
  | .registered waker => interrupt.register waker
  | .dropped => interrupt.release
  | .signalled .interrupt => interrupt.raise.2
  | .signalled .look => interrupt.take.2
  | .signalled .restore => interrupt.set

/-- The interrupt state of a thread to which all this has happened. -/
def after (turns : List (Turn ω)) : Interrupt ω :=
  turns.foldl turned fresh

/-- The wakers of registrations after something happens to them, innermost first. -/
def turnedAlive (wakers : List ω) : Turn ω → List ω
  | .registered waker => waker :: wakers
  | .dropped => wakers.tail
  | .signalled _ => wakers

/-- The wakers of the registrations that are alive, innermost first. -/
def alive (turns : List (Turn ω)) : List ω :=
  turns.foldl turnedAlive []

/-- Whether registrations are dropped only while one is alive, beside some number of them that
were made before. -/
def isNested : Nat → List (Turn ω) → Bool
  | _, [] => true
  | count, .registered _ :: turns => isNested (count + 1) turns
  | 0, .dropped :: _ => false
  | count + 1, .dropped :: turns => isNested count turns
  | count, .signalled _ :: turns => isNested count turns

/-- A registration was dropped, and none has been made since. -/
def Lapsed (turns : List (Turn ω)) : Prop :=
  ∃ (before : List (Turn ω)) (signals : List Signal),
    turns = before ++ .dropped :: signals.map Turn.signalled

/-! ## One turn -/

theorem after_concat
    (turns : List (Turn ω))
    (turn : Turn ω) :
    after (turns ++ [turn]) = (after turns).turned turn := by
  simp [after]

theorem alive_concat
    (turns : List (Turn ω))
    (turn : Turn ω) :
    alive (turns ++ [turn]) = turnedAlive (alive turns) turn := by
  simp [alive]

theorem waker_turned_signalled
    (interrupt : Interrupt ω)
    (signal : Signal) :
    (interrupt.turned (.signalled signal)).waker = interrupt.waker := by
  cases signal <;> rfl

theorem not_lapsed_concat_registered
    (turns : List (Turn ω))
    (waker : ω) :
    ¬ Lapsed (turns ++ [.registered waker]) := by
  rintro ⟨before, signals, split⟩
  cases signals using List.reverseRecOn with
  | nil => cases List.append_inj_right' split rfl
  | append_singleton signals signal =>
      rw [List.map_append, ← List.cons_append, ← List.append_assoc] at split
      cases List.append_inj_right' split rfl

theorem lapsed_concat_dropped (turns : List (Turn ω)) : Lapsed (turns ++ [.dropped]) :=
  ⟨turns, [], rfl⟩

theorem lapsed_concat_signalled_iff
    {turns : List (Turn ω)}
    {signal : Signal} :
    Lapsed (turns ++ [.signalled signal]) ↔ Lapsed turns := by
  constructor
  · rintro ⟨before, signals, split⟩
    cases signals using List.reverseRecOn with
    | nil => simpa using List.append_inj_right' split rfl
    | append_singleton signals other =>
        rw [List.map_append, ← List.cons_append, ← List.append_assoc] at split
        exact ⟨before, signals, List.append_inj_left' split rfl⟩
  · rintro ⟨before, signals, rfl⟩
    exact ⟨before, signals ++ [signal], by simp⟩

/-! ## The waker that is installed -/

/-- No waker is installed after a registration was dropped, and the innermost one until then. -/
theorem waker_after (turns : List (Turn ω)) :
    (Lapsed turns → (after turns).waker = none) ∧
      (¬ Lapsed turns → (after turns).waker = (alive turns).head?) := by
  induction turns using List.reverseRecOn with
  | nil => exact ⟨fun _ => rfl, fun _ => rfl⟩
  | append_singleton turns turn inductionHypothesis =>
      rw [after_concat, alive_concat]
      cases turn with
      | registered waker =>
          exact ⟨fun lapsed => absurd lapsed (not_lapsed_concat_registered turns waker),
            fun _ => rfl⟩
      | dropped => exact ⟨fun _ => rfl, absurd (lapsed_concat_dropped turns)⟩
      | signalled signal =>
          rw [waker_turned_signalled, lapsed_concat_signalled_iff]
          exact inductionHypothesis

/-! ## Waits that are over -/

mutual

/-- A stretch that is over leaves the registrations as they were. -/
theorem foldl_turnedAlive_turns (wakers : List ω) :
    ∀ spell : Spell ω, spell.turns.foldl turnedAlive wakers = wakers
  | .signalled _ => rfl
  | .wait waker spells => by
      rw [Spell.turns, List.foldl_cons, List.foldl_append,
        foldl_turnedAlive_turnsAll (turnedAlive wakers (.registered waker)) spells]
      rfl

/-- So do stretches, one after another. -/
theorem foldl_turnedAlive_turnsAll (wakers : List ω) :
    ∀ spells : List (Spell ω), (Spell.turnsAll spells).foldl turnedAlive wakers = wakers
  | [] => rfl
  | spell :: spells => by
      rw [Spell.turnsAll, List.foldl_append, foldl_turnedAlive_turns wakers spell,
        foldl_turnedAlive_turnsAll wakers spells]

end

mutual

/-- In a stretch registrations are dropped only while they are alive. -/
theorem isNested_turns_append
    (count : Nat)
    (rest : List (Turn ω)) :
    ∀ spell : Spell ω, isNested count (spell.turns ++ rest) = isNested count rest
  | .signalled _ => by
      cases count <;> rfl
  | .wait waker spells => by
      rw [Spell.turns, List.cons_append, isNested, List.append_assoc, List.singleton_append,
        isNested_turnsAll_append (count + 1) (.dropped :: rest) spells, isNested]

/-- So they are in stretches, one after another. -/
theorem isNested_turnsAll_append
    (count : Nat)
    (rest : List (Turn ω)) :
    ∀ spells : List (Spell ω),
      isNested count (Spell.turnsAll spells ++ rest) = isNested count rest
  | [] => rfl
  | spell :: spells => by
      rw [Spell.turnsAll, List.append_assoc,
        isNested_turns_append count (Spell.turnsAll spells ++ rest) spell,
        isNested_turnsAll_append count rest spells]

end

theorem turnsAll_concat
    (spells : List (Spell ω))
    (spell : Spell ω) :
    Spell.turnsAll (spells ++ [spell]) = Spell.turnsAll spells ++ spell.turns := by
  induction spells with
  | nil => simp [Spell.turnsAll]
  | cons first spells inductionHypothesis =>
      rw [List.cons_append, Spell.turnsAll, inductionHypothesis, Spell.turnsAll,
        List.append_assoc]

/-- Once registrations are alive, they bound the ones that may be dropped. -/
theorem isNested_append
    (turns rest : List (Turn ω))
    (wakers : List ω) :
    isNested wakers.length (turns ++ rest) =
      (isNested wakers.length turns &&
        isNested (turns.foldl turnedAlive wakers).length rest) := by
  induction turns generalizing wakers with
  | nil => simp [isNested]
  | cons turn turns inductionHypothesis =>
      cases turn with
      | registered waker => exact inductionHypothesis (waker :: wakers)
      | dropped =>
          cases wakers with
          | nil => rfl
          | cons _ wakers => exact inductionHypothesis wakers
      | signalled signal =>
          simp only [List.cons_append, isNested, List.foldl_cons, turnedAlive]
          exact inductionHypothesis wakers

/-- What has happened to a thread that waits, after what had happened to it before, while nothing
in the course of the wait is going on. -/
def during (turns : List (Turn ω)) (waker : ω) (spells : List (Spell ω)) : List (Turn ω) :=
  turns ++ .registered waker :: Spell.turnsAll spells

theorem alive_during
    (turns : List (Turn ω))
    (waker : ω)
    (spells : List (Spell ω)) :
    alive (during turns waker spells) = waker :: alive turns := by
  rw [alive, during, List.foldl_append, List.foldl_cons, foldl_turnedAlive_turnsAll]
  rfl

theorem isNested_during
    (turns : List (Turn ω))
    (waker : ω)
    (spells : List (Spell ω)) :
    isNested 0 (during turns waker spells) = isNested 0 turns := by
  have inside :
      isNested (alive turns).length (.registered waker :: Spell.turnsAll spells) = true := by
    rw [isNested, ← List.append_nil (Spell.turnsAll spells), isNested_turnsAll_append, isNested]
  have split := isNested_append turns (.registered waker :: Spell.turnsAll spells) []
  rw [← alive, inside, Bool.and_true] at split
  exact split

/-- A wait has lapsed once a wait within it is over. -/
theorem lapsed_during_iff
    (turns : List (Turn ω))
    (waker : ω)
    (spells : List (Spell ω)) :
    Lapsed (during turns waker spells) ↔ spells.any Spell.isWait = true := by
  induction spells using List.reverseRecOn with
  | nil => simpa [during, Spell.turnsAll] using not_lapsed_concat_registered turns waker
  | append_singleton spells spell inductionHypothesis =>
      rw [during, turnsAll_concat, ← List.cons_append, ← List.append_assoc, ← during,
        List.any_append]
      cases spell with
      | signalled signal =>
          rw [Spell.turns, lapsed_concat_signalled_iff, inductionHypothesis]
          simp [Spell.isWait]
      | wait other others =>
          rw [Spell.turns, ← List.cons_append, ← List.append_assoc]
          exact iff_of_true (lapsed_concat_dropped _) (by simp [Spell.isWait])

/-- The waker that an interrupt runs while a thread waits. -/
theorem raise_after_during
    (turns : List (Turn ω))
    (waker : ω)
    (spells : List (Spell ω)) :
    (after (during turns waker spells)).raise.1 =
      if spells.any Spell.isWait then none else some waker := by
  obtain ⟨lapsed, standing⟩ := waker_after (during turns waker spells)
  rw [lapsed_during_iff] at lapsed standing
  rw [alive_during] at standing
  split
  next waited => exact lapsed waited
  next unwaited => exact standing unwaited

/-- The waker that is installed, whatever has happened to the interrupt state of a thread, is that
of the innermost registration alive until a registration is dropped, and then there is none before
the next registration.  So it is the one of the innermost registration unless a drop has left
others alive.  In particular an interrupt wakes a wait, whenever it began and whatever happens in
the course of it, exactly as long as no wait within it is over. -/
theorem installed_waker (turns : List (Turn ω)) :
    (Lapsed turns → (after turns).waker = none) ∧
      (¬ Lapsed turns → (after turns).waker = (alive turns).head?) ∧
      ((after turns).waker = (alive turns).head? ↔ (Lapsed turns → alive turns = [])) ∧
      ∀ (waker : ω) (spells : List (Spell ω)),
        isNested 0 (during turns waker spells) = isNested 0 turns ∧
          alive (during turns waker spells) = waker :: alive turns ∧
          (after (during turns waker spells)).raise.1 =
            if spells.any Spell.isWait then none else some waker := by
  obtain ⟨lapsed, standing⟩ := waker_after turns
  refine ⟨lapsed, standing, ?_, fun waker spells =>
    ⟨isNested_during turns waker spells, alive_during turns waker spells,
      raise_after_during turns waker spells⟩⟩
  constructor
  · intro installed gone
    rw [lapsed gone] at installed
    exact List.head?_eq_none_iff.mp installed.symm
  · intro alone
    by_cases gone : Lapsed turns
    · rw [lapsed gone, alone gone, List.head?_nil]
    · exact standing gone

/-- A wait within a wait takes its waker from it: once it is over, the registration of the outer
one is alive, no waker is installed, and an interrupt wakes nobody. -/
theorem installed_waker_lost :
    isNested 0 [.registered 0, .registered 1, .dropped] = true ∧
      alive [.registered 0, .registered 1, .dropped] = [0] ∧
      (after [.registered 0, .registered 1, .dropped]).waker = none ∧
      (after [.registered 0, .registered 1, .dropped]).raise.1 = none ∧
      during [] 0 [.wait 1 []] = [.registered 0, .registered 1, .dropped] := by
  decide

end Interrupt
end ManagedTree
