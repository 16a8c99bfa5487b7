import ManagedTree.Address.Pattern
import ManagedTree.Keyed

/-!
# The registry of handlers

A registry keeps at most one handler for every address pattern and operation name.
Looking up an address and a name finds the handler of the most specific pattern
that matches.
-/

namespace ManagedTree

/-- What happens when a handler is registered where there is one already. -/
inductive DuplicatePolicy where
  /-- The registration fails. -/
  | reject
  /-- The new handler takes the old one's place. -/
  | lastWins
deriving DecidableEq, Repr

/-- A registration that was refused. -/
inductive RegistryError where
  /-- The pattern and name have a handler. -/
  | duplicate (address name : String)
deriving DecidableEq, Repr

/-- The wording of a refused registration. -/
def RegistryError.message : RegistryError → String
  | .duplicate address name => s!"duplicate handler registration for '{name}' at {address}"

/-- Handlers by operation name and then by address pattern. -/
structure Registry (H : Type) where
  /-- What happens to duplicates. -/
  policy : DuplicatePolicy
  /-- For every name the patterns and their handlers, in order of registration. -/
  byName : List (String × List (Address × H))
deriving Repr

namespace Registry

variable {H : Type}

/-- The registry without handlers. -/
def empty (policy : DuplicatePolicy) : Registry H :=
  ⟨policy, []⟩

/-- The patterns and handlers under a name. -/
def bucket (registry : Registry H) (name : String) : List (Address × H) :=
  (Keyed.get? name registry.byName).getD []

/-- The handler registered for exactly a pattern and a name. -/
def get? (registry : Registry H) (pattern : Address) (name : String) : Option H :=
  Keyed.get? pattern (registry.bucket name)

/-- Register a handler: the handler it displaces, if any, and the new registry. -/
def register (registry : Registry H) (pattern : Address) (name : String) (handler : H) :
    Except RegistryError (Option H × Registry H) :=
  let changed :=
    { registry with
      byName := Keyed.put name (Keyed.put pattern handler (registry.bucket name)) registry.byName }
  match registry.get? pattern name, registry.policy with
  | none, _ => .ok (none, changed)
  | some _, .reject => .error (.duplicate pattern.text name)
  | some displaced, .lastWins => .ok (some displaced, changed)

/-- Remove the handler of exactly a pattern and a name: the handler, if there is one,
and the new registry.  A name without handlers is not kept. -/
def unregister (registry : Registry H) (pattern : Address) (name : String) :
    Option H × Registry H :=
  match registry.get? pattern name with
  | none => (none, registry)
  | some removed =>
    match Keyed.erase pattern (registry.bucket name) with
    | [] => (some removed, { registry with byName := Keyed.erase name registry.byName })
    | others => (some removed, { registry with byName := Keyed.put name others registry.byName })

/-- The more specific of two registrations; the second one if neither outranks the other. -/
def moreSpecific (first second : Address × H) : Address × H :=
  if first.1.outranks second.1 then first else second

/-- The most specific of several registrations. -/
def mostSpecific? : List (Address × H) → Option (Address × H)
  | [] => none
  | first :: rest => some (rest.foldl moreSpecific first)

/-- The registrations under a name whose patterns match an address. -/
def matching (registry : Registry H) (address : Address) (name : String) : List (Address × H) :=
  (registry.bucket name).filter fun registration => registration.1.covers address

/-- The handler of the most specific pattern that matches an address under a name. -/
def lookup (registry : Registry H) (address : Address) (name : String) : Option H :=
  (mostSpecific? (registry.matching address name)).map Prod.snd

/-- The names under which an address finds a handler, in ascending order. -/
def operationNames (registry : Registry H) (address : Address) : List String :=
  let resolvable := registry.byName.filter fun (_, bucket) =>
    bucket.any fun registration => registration.1.covers address
  (Keyed.keys resolvable).mergeSort (· ≤ ·)

-- The sum is the core library's in every importing context.
attribute [local instance (high)] Zero.ofOfNat0 in
/-- The number of registrations. -/
def size (registry : Registry H) : Nat :=
  (registry.byName.map fun (_, bucket) => bucket.length).sum

@[simp] theorem bucket_empty (policy : DuplicatePolicy) (name : String) :
    (empty policy : Registry H).bucket name = [] := rfl

/-- A handler that was registered is there. -/
theorem get?_register
    {registry changed : Registry H}
    {pattern : Address}
    {name : String}
    {handler : H}
    {displaced : Option H}
    (done : registry.register pattern name handler = .ok (displaced, changed)) :
    changed.get? pattern name = some handler := by
  unfold register at done
  simp only at done
  split at done
  · cases done
    simp [get?, bucket]
  · cases done
  · cases done
    simp [get?, bucket]

end Registry
end ManagedTree
