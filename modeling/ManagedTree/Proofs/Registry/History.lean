import ManagedTree.Registry

/-!
# Histories of a registry

A registry comes about by registering and unregistering handlers, one after another,
from the empty registry.  Whatever the history, no name and no pattern under a name
is there twice.
-/

namespace ManagedTree
namespace Registry

variable {H : Type}

/-- A change of a registry. -/
inductive Change (H : Type) where
  /-- Register a handler for a pattern and a name. -/
  | register (pattern : Address) (name : String) (handler : H)
  /-- Remove the handler of a pattern and a name. -/
  | unregister (pattern : Address) (name : String)

/-- The registry after a change.  A registration that is refused changes nothing. -/
def apply (registry : Registry H) : Change H → Registry H
  | .register pattern name handler =>
    match registry.register pattern name handler with
    | .ok (_, changed) => changed
    | .error _ => registry
  | .unregister pattern name => (registry.unregister pattern name).2

/-- The registry that changes of the empty one lead to. -/
def ofChanges (policy : DuplicatePolicy) (changes : List (Change H)) : Registry H :=
  changes.foldl apply (empty policy)

/-- No name is in a registry twice, and no pattern is under a name twice. -/
structure Sound (registry : Registry H) : Prop where
  /-- No name is there twice. -/
  names : Keyed.Distinct registry.byName
  /-- No pattern is under a name twice. -/
  patterns : ∀ entry ∈ registry.byName, Keyed.Distinct entry.2

/-- A registration that is not refused puts its handler under its name and pattern. -/
theorem register_eq_ok
    {registry changed : Registry H}
    {pattern : Address}
    {name : String}
    {handler : H}
    {displaced : Option H}
    (done : registry.register pattern name handler = .ok (displaced, changed)) :
    changed =
      { registry with
        byName :=
          Keyed.put name (Keyed.put pattern handler (registry.bucket name)) registry.byName } := by
  unfold register at done
  dsimp only at done
  split at done
  · cases done
    rfl
  · cases done
  · cases done
    rfl

namespace Sound

theorem empty (policy : DuplicatePolicy) : Sound (Registry.empty policy : Registry H) :=
  ⟨List.nodup_nil, nofun⟩

variable {registry : Registry H}

theorem bucket
    (sound : registry.Sound)
    (name : String) :
    Keyed.Distinct (registry.bucket name) := by
  cases found : Keyed.get? name registry.byName with
  | none =>
      rw [Registry.bucket, found]
      exact List.nodup_nil
  | some bucket =>
      rw [Registry.bucket, found]
      exact sound.patterns (name, bucket) ((Keyed.get?_eq_some_iff sound.names).1 found)

/-- Other registrations under one name. -/
theorem put
    (sound : registry.Sound)
    (name : String)
    {bucket : List (Address × H)}
    (distinct : Keyed.Distinct bucket) :
    Sound { registry with byName := Keyed.put name bucket registry.byName } := by
  refine ⟨sound.names.put name bucket, fun entry present => ?_⟩
  rcases Keyed.mem_put present with rfl | present
  · exact distinct
  · exact sound.patterns entry present

/-- No registrations under one name. -/
theorem erase
    (sound : registry.Sound)
    (name : String) :
    Sound { registry with byName := Keyed.erase name registry.byName } :=
  ⟨sound.names.erase name, fun entry present =>
    sound.patterns entry ((Keyed.erase_sublist name registry.byName).subset present)⟩

theorem apply
    (sound : registry.Sound)
    (change : Change H) :
    (registry.apply change).Sound := by
  cases change with
  | register pattern name handler =>
      rw [Registry.apply]
      split
      next displaced changed done =>
        rw [register_eq_ok done]
        exact sound.put name ((sound.bucket name).put pattern handler)
      next => exact sound
  | unregister pattern name =>
      rw [Registry.apply, unregister]
      split
      next => exact sound
      next =>
        split
        next => exact sound.erase name
        next others =>
          have distinct := (sound.bucket name).erase pattern
          exact sound.put name distinct

theorem foldl_apply
    (sound : registry.Sound)
    (changes : List (Change H)) :
    (changes.foldl Registry.apply registry).Sound := by
  induction changes generalizing registry with
  | nil => exact sound
  | cons change changes inductionHypothesis => exact inductionHypothesis (sound.apply change)

end Sound

theorem sound_ofChanges
    (policy : DuplicatePolicy)
    (changes : List (Change H)) :
    (ofChanges policy changes).Sound :=
  (Sound.empty policy).foldl_apply changes

/-- What is registered is what is under the name. -/
theorem Sound.get?_eq_some_iff
    {registry : Registry H}
    (sound : registry.Sound)
    {pattern : Address}
    {name : String}
    {handler : H} :
    registry.get? pattern name = some handler ↔ (pattern, handler) ∈ registry.bucket name :=
  Keyed.get?_eq_some_iff (sound.bucket name)

end Registry
end ManagedTree
