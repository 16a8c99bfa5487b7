import ManagedTree.Proofs.Registry.Table
import ManagedTree.Proofs.Text.Bytes

/-!
# The names that are listed for an address

A registry lists for an address the names under which a look-up finds a handler, each once, in the
order of their bytes.
-/

namespace ManagedTree
namespace Registry

variable {H : Type}

/-- A look-up finds a handler when a registration serves the address. -/
theorem Sound.exists_lookup_iff
    {registry : Registry H}
    (sound : registry.Sound)
    {address : Address}
    {name : String} :
    (∃ handler, registry.lookup address name = some handler) ↔
      ∃ registration, registry.Serves address name registration := by
  rcases sound.lookup_cases address name with
    ⟨nothing, unserved⟩ | ⟨registration, foremost, found⟩
  · rw [nothing]
    constructor
    · rintro ⟨_, ⟨⟩⟩
    · rintro ⟨registration, serves⟩
      exact absurd serves (unserved registration)
  · exact ⟨fun _ => ⟨registration, foremost.1⟩, fun _ => ⟨registration.2, found⟩⟩

/-- The bytes of the names that are listed ascend. -/
theorem Sound.pairwise_bytes_operationNames
    {registry : Registry H}
    (sound : registry.Sound)
    (address : Address) :
    ((registry.operationNames address).map Text.bytes).Pairwise (· < ·) :=
  List.pairwise_map.2 ((sound.pairwise_operationNames address).imp Text.bytes_lt_of_lt)

/-- Whatever was registered and removed before, under either policy, the names that are listed for
an address ascend strictly by their bytes, and they are those under which a look-up finds a handler
there. -/
theorem operationNames_resolvable
    (policy : DuplicatePolicy)
    (changes : List (Change H))
    (address : Address) :
    (((ofChanges policy changes).operationNames address).map Text.bytes).Pairwise (· < ·) ∧
      ∀ name, name ∈ (ofChanges policy changes).operationNames address ↔
        ∃ handler, (ofChanges policy changes).lookup address name = some handler := by
  have sound := sound_ofChanges policy changes
  refine ⟨sound.pairwise_bytes_operationNames address, fun name => ?_⟩
  rw [sound.mem_operationNames_iff, sound.exists_lookup_iff]

end Registry
end ManagedTree
