import Mathlib.Data.Finmap
import ManagedTree.Proofs.Registry.Lookup

/-!
# A registry is a finite map

What a registry stores is a finite map from pairs of a pattern and a name to handlers.  Every
request, whatever came before it, is answered as that map answers it, and leaves the registry of
the changed map.
-/

namespace ManagedTree
namespace Registry

/-- A finite map from patterns and names to handlers. -/
abbrev Table (H : Type) :=
  Finmap fun _ : Address × String => H

variable {H : Type}

/-- What is asked of a registry. -/
inductive Request (H : Type) where
  /-- To register a handler for a pattern and a name. -/
  | register (pattern : Address) (name : String) (handler : H)
  /-- To remove the handler of a pattern and a name. -/
  | unregister (pattern : Address) (name : String)
  /-- To find the handler for an address and a name. -/
  | lookup (address : Address) (name : String)
  /-- To list the names that find a handler for an address. -/
  | operationNames (address : Address)
  /-- To count the registrations. -/
  | size

/-- What a registry answers. -/
inductive Answer (H : Type) where
  /-- How a registration went, and the handler that it displaced. -/
  | registered (outcome : Except RegistryError (Option H))
  /-- The handler that was removed. -/
  | removed (handler : Option H)
  /-- The handler that was found. -/
  | found (handler : Option H)
  /-- The names that find a handler. -/
  | names (names : List String)
  /-- The number of registrations. -/
  | counted (number : Nat)

/-- The answer to a request, and the registry afterwards. -/
def serve (registry : Registry H) : Request H → Answer H × Registry H
  | .register pattern name handler =>
    match registry.register pattern name handler with
    | .ok (displaced, changed) => (.registered (.ok displaced), changed)
    | .error error => (.registered (.error error), registry)
  | .unregister pattern name =>
    (.removed (registry.unregister pattern name).1, (registry.unregister pattern name).2)
  | .lookup address name => (.found (registry.lookup address name), registry)
  | .operationNames address => (.names (registry.operationNames address), registry)
  | .size => (.counted registry.size, registry)

/-- The answers to requests that are made one after another, and the registry afterwards. -/
def serveAll (registry : Registry H) : List (Request H) → List (Answer H) × Registry H
  | [] => ([], registry)
  | request :: requests =>
    let (answer, changed) := registry.serve request
    let (answers, last) := changed.serveAll requests
    (answer :: answers, last)

/-- Every registration with the pattern and name it is under. -/
def stored (registry : Registry H) : List ((Address × String) × H) :=
  registry.byName.flatMap fun (name, bucket) =>
    bucket.map fun (pattern, handler) => ((pattern, name), handler)

/-- The finite map that a registry stores. -/
def table (registry : Registry H) : Table H :=
  (registry.stored.map fun (key, handler) => (⟨key, handler⟩ : Sigma fun _ => H)).toFinmap

namespace Table

/-- A key's pattern matches an address, and is more specific than those of all other keys of
the same name that do. -/
def Foremost (table : Table H) (address : Address) (name : String) (pattern : Address) : Prop :=
  (pattern, name) ∈ table ∧ pattern.Matches address ∧
    ∀ other, (other, name) ∈ table → other.Matches address → other ≠ pattern →
      pattern.MoreSpecific other

/-- How a finite map from patterns and names answers a request, and what it is afterwards. -/
inductive Serves (policy : DuplicatePolicy) (table : Table H) :
    Request H → Answer H → Table H → Prop where
  /-- A free key is taken. -/
  | added {pattern : Address} {name : String} {handler : H} :
      table.lookup (pattern, name) = none →
      Serves policy table (.register pattern name handler) (.registered (.ok none))
        (table.insert (pattern, name) handler)
  /-- A key that is taken is refused. -/
  | refused {pattern : Address} {name : String} {handler held : H} :
      table.lookup (pattern, name) = some held → policy = .reject →
      Serves policy table (.register pattern name handler)
        (.registered (.error (.duplicate pattern.text name))) table
  /-- The handler of a key that is taken gives way. -/
  | replaced {pattern : Address} {name : String} {handler held : H} :
      table.lookup (pattern, name) = some held → policy = .lastWins →
      Serves policy table (.register pattern name handler) (.registered (.ok (some held)))
        (table.insert (pattern, name) handler)
  /-- A key that is taken is given up. -/
  | removed {pattern : Address} {name : String} {held : H} :
      table.lookup (pattern, name) = some held →
      Serves policy table (.unregister pattern name) (.removed (some held))
        (table.erase (pattern, name))
  /-- A free key cannot be given up. -/
  | absent {pattern : Address} {name : String} :
      table.lookup (pattern, name) = none →
      Serves policy table (.unregister pattern name) (.removed none) table
  /-- The handler of the foremost key is found. -/
  | found {address pattern : Address} {name : String} {handler : H} :
      table.Foremost address name pattern → table.lookup (pattern, name) = some handler →
      Serves policy table (.lookup address name) (.found (some handler)) table
  /-- Nothing is found where no key's pattern matches. -/
  | missing {address : Address} {name : String} :
      (∀ pattern, (pattern, name) ∈ table → ¬ pattern.Matches address) →
      Serves policy table (.lookup address name) (.found none) table
  /-- The names of keys whose patterns match are listed in ascending order, each once. -/
  | listed {address : Address} {names : List String} :
      names.Pairwise (· < ·) →
      (∀ name, name ∈ names ↔ ∃ pattern, (pattern, name) ∈ table ∧ pattern.Matches address) →
      Serves policy table (.operationNames address) (.names names) table
  /-- The keys are counted. -/
  | counted : Serves policy table .size (.counted table.keys.card) table

/-- How a finite map answers requests that are made one after another, and what it is
afterwards. -/
inductive ServesAll (policy : DuplicatePolicy) :
    Table H → List (Request H) → List (Answer H) → Table H → Prop where
  /-- No request changes nothing. -/
  | nil (table : Table H) : ServesAll policy table [] [] table
  /-- One request after another. -/
  | cons {table changed last : Table H}
      {request : Request H}
      {answer : Answer H}
      {requests : List (Request H)}
      {answers : List (Answer H)} :
      table.Serves policy request answer changed →
      ServesAll policy changed requests answers last →
      ServesAll policy table (request :: requests) (answer :: answers) last

end Table

variable {registry : Registry H}

/-- Every name that is kept has a registration. -/
def Occupied (registry : Registry H) : Prop :=
  ∀ entry ∈ registry.byName, entry.2 ≠ []

/-- What is stored in a registry is a finite map, and nothing is kept beside it. -/
structure Represents (registry : Registry H) (table : Table H) : Prop where
  /-- Nothing is stored twice under one pattern and name. -/
  distinct : Keyed.Distinct registry.stored
  /-- No name is kept without a registration. -/
  occupied : registry.Occupied
  /-- What is stored is what the map has. -/
  stored : ∀ key handler, (key, handler) ∈ registry.stored ↔ table.lookup key = some handler
  /-- There are as many registrations as keys. -/
  size : registry.size = table.keys.card

/-! ## What is stored -/

theorem mem_stored
    {pattern : Address}
    {name : String}
    {handler : H} :
    ((pattern, name), handler) ∈ registry.stored ↔
      ∃ bucket, (name, bucket) ∈ registry.byName ∧ (pattern, handler) ∈ bucket := by
  simp [stored]

namespace Sound

/-- What is under a name is what is stored with it. -/
theorem mem_stored_iff
    (sound : registry.Sound)
    {pattern : Address}
    {name : String}
    {handler : H} :
    ((pattern, name), handler) ∈ registry.stored ↔ registry.get? pattern name = some handler := by
  rw [mem_stored, sound.get?_eq_some_iff, Registry.bucket]
  cases found : Keyed.get? name registry.byName with
  | none =>
      have absent := Keyed.get?_eq_none_iff.1 found
      constructor
      · rintro ⟨bucket, present, -⟩
        exact absurd (List.mem_map_of_mem present) absent
      · intro impossible
        cases impossible
  | some bucket =>
      constructor
      · rintro ⟨other, present, among⟩
        rw [(Keyed.get?_eq_some_iff sound.names).2 present, Option.some.injEq] at found
        exact found ▸ among
      · exact fun among => ⟨bucket, (Keyed.get?_eq_some_iff sound.names).1 found, among⟩

/-- Nothing is stored twice under one pattern and name. -/
theorem distinct_stored (sound : registry.Sound) : Keyed.Distinct registry.stored := by
  have keys : Keyed.keys registry.stored =
      registry.byName.flatMap fun (name, bucket) => (Keyed.keys bucket).map fun pattern =>
        (pattern, name) := by
    simp [Keyed.keys, stored, List.map_flatMap, Function.comp_def]
  rw [Keyed.Distinct, keys, List.nodup_flatMap]
  constructor
  · intro entry present
    exact (sound.patterns entry present).map fun first second same => congrArg Prod.fst same
  · refine (List.pairwise_map.1 sound.names).imp fun {first second} different key left right => ?_
    obtain ⟨_, -, rfl⟩ := List.mem_map.1 left
    obtain ⟨_, -, same⟩ := List.mem_map.1 right
    exact different (congrArg Prod.snd same).symm

theorem lookup_table_iff
    (sound : registry.Sound)
    {key : Address × String}
    {handler : H} :
    registry.table.lookup key = some handler ↔ (key, handler) ∈ registry.stored := by
  have distinct : (registry.stored.map fun entry =>
      (⟨entry.1, entry.2⟩ : Sigma fun _ => H)).NodupKeys := by
    rw [List.NodupKeys, List.keys, List.map_map]
    exact sound.distinct_stored
  rw [table, Finmap.dlookup_list_toFinmap, ← Option.mem_def, List.mem_dlookup_iff distinct]
  simp

theorem lookup_table
    (sound : registry.Sound)
    (pattern : Address)
    (name : String) :
    registry.table.lookup (pattern, name) = registry.get? pattern name :=
  Option.ext fun _ => sound.lookup_table_iff.trans sound.mem_stored_iff

theorem mem_table_iff
    (sound : registry.Sound)
    {pattern : Address}
    {name : String} :
    (pattern, name) ∈ registry.table ↔ ∃ handler, registry.get? pattern name = some handler := by
  rw [Finmap.mem_iff, sound.lookup_table]

/-- There are as many registrations as keys. -/
theorem size_eq_card (sound : registry.Sound) : registry.size = registry.table.keys.card := by
  have keys : registry.table.keys = (Keyed.keys registry.stored).toFinset := by
    ext key
    rw [Finmap.mem_keys, Finmap.mem_iff, List.mem_toFinset, Keyed.keys, List.mem_map]
    simp only [sound.lookup_table_iff]
    constructor
    · rintro ⟨handler, present⟩
      exact ⟨(key, handler), present, rfl⟩
    · rintro ⟨entry, present, rfl⟩
      exact ⟨entry.2, present⟩
  rw [keys, List.toFinset_card_of_nodup sound.distinct_stored, Keyed.keys, List.length_map, size,
    stored, List.length_flatMap]
  simp

end Sound

/-! ## What changes do to the map -/

theorem register_cases
    (registry : Registry H)
    (pattern : Address)
    (name : String)
    (handler : H) :
    (registry.get? pattern name = none ∧
        ∃ changed, registry.register pattern name handler = .ok (none, changed)) ∨
      ∃ held, registry.get? pattern name = some held ∧
        (registry.policy = .reject ∧
            registry.register pattern name handler = .error (.duplicate pattern.text name) ∨
          registry.policy = .lastWins ∧
            ∃ changed, registry.register pattern name handler = .ok (some held, changed)) := by
  rw [register]
  cases taken : registry.get? pattern name with
  | none => exact Or.inl ⟨rfl, _, rfl⟩
  | some held =>
      refine Or.inr ⟨held, rfl, ?_⟩
      cases registry.policy with
      | reject => exact Or.inl ⟨rfl, rfl⟩
      | lastWins => exact Or.inr ⟨rfl, _, rfl⟩

section Registering

variable
  {changed : Registry H}
  {pattern : Address}
  {name : String}
  {handler : H}
  {displaced : Option H}

/-- A registration leaves the handlers of all other keys as they are. -/
theorem get?_register_of_ne
    (done : registry.register pattern name handler = .ok (displaced, changed))
    {otherPattern : Address}
    {otherName : String}
    (different : (otherPattern, otherName) ≠ (pattern, name)) :
    changed.get? otherPattern otherName = registry.get? otherPattern otherName := by
  rw [register_eq_ok done, get?, get?, bucket]
  by_cases sameName : otherName = name
  · subst sameName
    have differentPattern : otherPattern ≠ pattern := fun same => different (same ▸ rfl)
    rw [Keyed.get?_put_self, Option.getD_some, Keyed.get?_put_of_ne differentPattern]
  · rw [Keyed.get?_put_of_ne sameName, ← bucket]

theorem Sound.register
    (sound : registry.Sound)
    (done : registry.register pattern name handler = .ok (displaced, changed)) :
    changed.Sound := by
  have applied : registry.apply (.register pattern name handler) = changed := by
    rw [Registry.apply, done]
  exact applied ▸ sound.apply _

theorem Sound.table_register
    (sound : registry.Sound)
    (done : registry.register pattern name handler = .ok (displaced, changed)) :
    changed.table = registry.table.insert (pattern, name) handler := by
  refine Finmap.ext_lookup fun (otherPattern, otherName) => ?_
  rw [(sound.register done).lookup_table]
  by_cases same : (otherPattern, otherName) = (pattern, name)
  · obtain ⟨rfl, rfl⟩ := Prod.mk.inj same
    rw [Finmap.lookup_insert, get?_register done]
  · rw [Finmap.lookup_insert_of_ne _ same, sound.lookup_table, get?_register_of_ne done same]

/-- A registration of the handler that is there changes nothing. -/
theorem eq_of_register
    (done : registry.register pattern name handler = .ok (displaced, changed))
    (held : registry.get? pattern name = some handler) :
    changed = registry := by
  have kept : Keyed.get? name registry.byName = some (registry.bucket name) := by
    rw [get?, bucket] at held
    rw [bucket]
    cases found : Keyed.get? name registry.byName with
    | none =>
        rw [found] at held
        cases held
    | some bucket => rfl
  rw [register_eq_ok done, Keyed.put_of_get? held, Keyed.put_of_get? kept]

end Registering

theorem unregister_fst
    (registry : Registry H)
    (pattern : Address)
    (name : String) :
    (registry.unregister pattern name).1 = registry.get? pattern name := by
  rw [unregister]
  cases registry.get? pattern name with
  | none => rfl
  | some held =>
      dsimp only
      split <;> rfl

theorem unregister_of_free
    {pattern : Address}
    {name : String}
    (free : registry.get? pattern name = none) :
    (registry.unregister pattern name).2 = registry := by
  rw [unregister, free]

namespace Sound

/-- A removal leaves all other registrations as they are. -/
theorem bucket_unregister
    (sound : registry.Sound)
    (pattern : Address)
    (name other : String) :
    (registry.unregister pattern name).2.bucket other =
      if other = name then Keyed.erase pattern (registry.bucket name)
      else registry.bucket other := by
  rw [unregister]
  cases taken : registry.get? pattern name with
  | none =>
      rw [Keyed.erase_of_absent (Keyed.get?_eq_none_iff.1 taken)]
      by_cases same : other = name
      · rw [if_pos same, same]
      · rw [if_neg same]
  | some held =>
      dsimp only
      split
      next nothing =>
        by_cases same : other = name
        · rw [if_pos same, same, nothing, Registry.bucket, Keyed.get?_erase_self sound.names]
          rfl
        · rw [if_neg same, Registry.bucket, Keyed.get?_erase_of_ne same, ← Registry.bucket]
      next others left =>
        by_cases same : other = name
        · rw [if_pos same, same, Registry.bucket, Keyed.get?_put_self, Option.getD_some]
        · rw [if_neg same, Registry.bucket, Keyed.get?_put_of_ne same, ← Registry.bucket]

theorem unregister
    (sound : registry.Sound)
    (pattern : Address)
    (name : String) :
    (registry.unregister pattern name).2.Sound :=
  sound.apply (.unregister pattern name)

theorem table_unregister
    (sound : registry.Sound)
    (pattern : Address)
    (name : String) :
    (registry.unregister pattern name).2.table = registry.table.erase (pattern, name) := by
  refine Finmap.ext_lookup fun (otherPattern, otherName) => ?_
  rw [(sound.unregister pattern name).lookup_table, get?, sound.bucket_unregister]
  by_cases same : (otherPattern, otherName) = (pattern, name)
  · obtain ⟨rfl, rfl⟩ := Prod.mk.inj same
    rw [Finmap.lookup_erase, if_pos rfl, Keyed.get?_erase_self (sound.bucket otherName)]
  · rw [Finmap.lookup_erase_ne same, sound.lookup_table, get?]
    by_cases sameName : otherName = name
    · subst sameName
      have differentPattern : otherPattern ≠ pattern := fun equal => same (equal ▸ rfl)
      rw [if_pos rfl, Keyed.get?_erase_of_ne differentPattern]
    · rw [if_neg sameName]

end Sound

/-! ## What is read from the map -/

namespace Sound

/-- The handler that is found is that of the foremost key. -/
theorem serves_lookup
    (sound : registry.Sound)
    (policy : DuplicatePolicy)
    (address : Address)
    (name : String) :
    registry.table.Serves policy (.lookup address name) (.found (registry.lookup address name))
      registry.table := by
  rcases sound.lookup_cases address name with
    ⟨nothing, unserved⟩ | ⟨⟨pattern, handler⟩, foremost, found⟩
  · rw [nothing]
    refine .missing fun pattern present covers => ?_
    obtain ⟨handler, registered⟩ := sound.mem_table_iff.1 present
    exact unserved (pattern, handler) ⟨registered, covers⟩
  · rw [found]
    obtain ⟨⟨registered, covers⟩, above⟩ := foremost
    have foremost : registry.table.Foremost address name pattern := by
      refine ⟨sound.mem_table_iff.2 ⟨handler, registered⟩, covers, ?_⟩
      intro other present otherCovers different
      obtain ⟨otherHandler, otherRegistered⟩ := sound.mem_table_iff.1 present
      exact above (other, otherHandler) ⟨otherRegistered, otherCovers⟩ fun same =>
        different (congrArg Prod.fst same)
    exact .found foremost ((sound.lookup_table pattern name).trans registered)

/-- A name is listed for an address when one of its patterns matches. -/
theorem mem_operationNames_iff
    (sound : registry.Sound)
    {address : Address}
    {name : String} :
    name ∈ registry.operationNames address ↔
      ∃ registration, registry.Serves address name registration := by
  have listed : name ∈ registry.operationNames address ↔
      ∃ bucket, (name, bucket) ∈ registry.byName ∧
        ∃ registration ∈ bucket, registration.1.Matches address := by
    simp [operationNames, Keyed.keys, Address.covers_iff]
  rw [listed]
  constructor
  · rintro ⟨bucket, present, registration, among, covers⟩
    exact ⟨registration, sound.mem_stored_iff.1 (mem_stored.2 ⟨bucket, present, among⟩), covers⟩
  · rintro ⟨registration, registered, covers⟩
    obtain ⟨bucket, present, among⟩ := mem_stored.1 (sound.mem_stored_iff.2 registered)
    exact ⟨bucket, present, registration, among, covers⟩

/-- The names that are listed ascend. -/
theorem pairwise_operationNames
    (sound : registry.Sound)
    (address : Address) :
    (registry.operationNames address).Pairwise (· < ·) := by
  rw [operationNames]
  dsimp only
  set resolvable := registry.byName.filter _
  have ascending := @List.pairwise_mergeSort String (fun left right => left ≤ right)
    (fun _ _ _ first second => decide_eq_true
      (String.le_trans (of_decide_eq_true first) (of_decide_eq_true second)))
    (fun left right => by simpa using String.le_total left right) (Keyed.keys resolvable)
  have once : ((Keyed.keys resolvable).mergeSort (· ≤ ·)).Nodup := by
    rw [(List.mergeSort_perm _ _).nodup_iff]
    exact sound.names.sublist (List.filter_sublist.map Prod.fst)
  exact ascending.imp₂ (fun _ _ notAfter different => String.not_le.1 fun notBefore =>
    different (String.le_antisymm (of_decide_eq_true notAfter) notBefore)) once

/-- The names that are listed are those of keys whose patterns match. -/
theorem serves_operationNames
    (sound : registry.Sound)
    (policy : DuplicatePolicy)
    (address : Address) :
    registry.table.Serves policy (.operationNames address)
      (.names (registry.operationNames address)) registry.table := by
  refine .listed (sound.pairwise_operationNames address) fun name => ?_
  rw [sound.mem_operationNames_iff]
  constructor
  · rintro ⟨⟨pattern, handler⟩, registered, covers⟩
    exact ⟨pattern, sound.mem_table_iff.2 ⟨handler, registered⟩, covers⟩
  · rintro ⟨pattern, present, covers⟩
    obtain ⟨handler, registered⟩ := sound.mem_table_iff.1 present
    exact ⟨(pattern, handler), registered, covers⟩

/-! ## Requests -/

/-- A request is answered as the finite map answers it, and changes the map in the same way. -/
theorem serve
    (sound : registry.Sound)
    (request : Request H) :
    registry.table.Serves registry.policy request (registry.serve request).1
      (registry.serve request).2.table := by
  cases request with
  | register pattern name handler =>
      rw [Registry.serve]
      rcases registry.register_cases pattern name handler with
        ⟨free, changed, done⟩ | ⟨held, taken, ⟨rejects, done⟩ | ⟨replaces, changed, done⟩⟩
      · rw [done]
        dsimp only
        rw [sound.table_register done]
        exact .added ((sound.lookup_table pattern name).trans free)
      · rw [done]
        exact .refused ((sound.lookup_table pattern name).trans taken) rejects
      · rw [done]
        dsimp only
        rw [sound.table_register done]
        exact .replaced ((sound.lookup_table pattern name).trans taken) replaces
  | unregister pattern name =>
      rw [Registry.serve, unregister_fst]
      dsimp only
      rw [← sound.lookup_table]
      cases held : registry.table.lookup (pattern, name) with
      | none =>
          rw [unregister_of_free ((sound.lookup_table pattern name).symm.trans held)]
          exact .absent held
      | some handler =>
          rw [sound.table_unregister]
          exact .removed held
  | lookup address name => exact sound.serves_lookup registry.policy address name
  | operationNames address => exact sound.serves_operationNames registry.policy address
  | size =>
      rw [Registry.serve, sound.size_eq_card]
      exact .counted

end Sound

/-- A request changes nothing, or it registers or removes a handler. -/
theorem serve_snd
    (registry : Registry H)
    (request : Request H) :
    (registry.serve request).2 = registry ∨
      ∃ change, (registry.serve request).2 = registry.apply change := by
  cases request with
  | register pattern name handler =>
      refine Or.inr ⟨.register pattern name handler, ?_⟩
      rw [serve, apply]
      cases registry.register pattern name handler <;> rfl
  | unregister pattern name => exact Or.inr ⟨.unregister pattern name, rfl⟩
  | lookup address name => exact Or.inl rfl
  | operationNames address => exact Or.inl rfl
  | size => exact Or.inl rfl

theorem policy_apply
    (registry : Registry H)
    (change : Change H) :
    (registry.apply change).policy = registry.policy := by
  cases change with
  | register pattern name handler =>
      rw [apply]
      split
      next displaced changed done => rw [register_eq_ok done]
      next => rfl
  | unregister pattern name =>
      rw [apply, unregister]
      split
      next => rfl
      next => split <;> rfl

namespace Occupied

theorem put
    (occupied : registry.Occupied)
    (name : String)
    {bucket : List (Address × H)}
    (some : bucket ≠ []) :
    Occupied { registry with byName := Keyed.put name bucket registry.byName } := by
  intro entry present
  rcases Keyed.mem_put present with rfl | present
  · exact some
  · exact occupied entry present

theorem apply
    (occupied : registry.Occupied)
    (change : Change H) :
    (registry.apply change).Occupied := by
  cases change with
  | register pattern name handler =>
      rw [Registry.apply]
      split
      next displaced changed done =>
        rw [register_eq_ok done]
        exact occupied.put name (Keyed.put_ne_nil pattern handler (registry.bucket name))
      next => exact occupied
  | unregister pattern name =>
      rw [Registry.apply, unregister]
      split
      next => exact occupied
      next =>
        split
        next =>
          exact fun entry present =>
            occupied entry ((Keyed.erase_sublist name registry.byName).subset present)
        next others left => exact occupied.put name left

end Occupied

/-- Registries that are sound and keep no name without a registration stay so. -/
theorem serve_kept
    (sound : registry.Sound)
    (occupied : registry.Occupied)
    (request : Request H) :
    (registry.serve request).2.Sound ∧ (registry.serve request).2.Occupied ∧
      (registry.serve request).2.policy = registry.policy := by
  rcases registry.serve_snd request with same | ⟨change, applied⟩
  · rw [same]
    exact ⟨sound, occupied, rfl⟩
  · rw [applied]
    exact ⟨sound.apply change, occupied.apply change, registry.policy_apply change⟩

/-- Requests are answered, one after another, as the finite map answers them. -/
theorem Sound.serveAll
    (sound : registry.Sound)
    (occupied : registry.Occupied)
    (requests : List (Request H)) :
    registry.table.ServesAll registry.policy requests (registry.serveAll requests).1
        (registry.serveAll requests).2.table ∧
      (registry.serveAll requests).2.Sound ∧ (registry.serveAll requests).2.Occupied := by
  induction requests generalizing registry with
  | nil => exact ⟨.nil registry.table, sound, occupied⟩
  | cons request requests inductionHypothesis =>
      obtain ⟨soundAfter, occupiedAfter, samePolicy⟩ := serve_kept sound occupied request
      obtain ⟨served, lastSound, lastOccupied⟩ := inductionHypothesis soundAfter occupiedAfter
      rw [samePolicy] at served
      exact ⟨.cons (sound.serve request) served, lastSound, lastOccupied⟩

theorem Sound.represents
    (sound : registry.Sound)
    (occupied : registry.Occupied) :
    registry.Represents registry.table where
  distinct := sound.distinct_stored
  occupied := occupied
  stored _ _ := sound.lookup_table_iff.symm
  size := sound.size_eq_card

/-- A request that leaves the map as it is leaves the whole registry as it is. -/
theorem Sound.serve_eq_self
    (sound : registry.Sound)
    {request : Request H}
    (same : (registry.serve request).2.table = registry.table) :
    (registry.serve request).2 = registry := by
  cases request with
  | register pattern name handler =>
      rw [Registry.serve] at same ⊢
      cases done : registry.register pattern name handler with
      | error error => rfl
      | ok outcome =>
          obtain ⟨displaced, changed⟩ := outcome
          rw [done] at same
          dsimp only at same ⊢
          have held := get?_register done
          rw [← (sound.register done).lookup_table, same, sound.lookup_table] at held
          exact eq_of_register done held
  | unregister pattern name =>
      have held : registry.get? pattern name = none := by
        rw [← sound.lookup_table, ← same, Registry.serve, sound.table_unregister,
          Finmap.lookup_erase]
      exact unregister_of_free held
  | lookup address name => rfl
  | operationNames address => rfl
  | size => rfl

/-- A registry is a finite map from patterns and names to handlers.  From the empty registry on,
under either policy, all requests are answered as the map answers them: a registration takes a
free key, and is refused or displaces one handler where the key is taken; a removal gives up
exactly its key; look-ups, listings and counts read the map.  Afterwards nothing is stored twice,
no name is kept without a registration, there are as many registrations as keys, and a request
that leaves the map as it is leaves the whole registry as it is. -/
theorem serveAll_refines_table
    (policy : DuplicatePolicy)
    (requests : List (Request H)) :
    let (answers, registry) := (empty policy).serveAll requests
    Table.ServesAll policy ∅ requests answers registry.table ∧
      registry.Represents registry.table ∧
      ∀ request, (registry.serve request).2.table = registry.table →
        (registry.serve request).2 = registry := by
  have unoccupied : (empty policy : Registry H).Occupied := fun _ present => nomatch present
  obtain ⟨served, sound, occupied⟩ := (Sound.empty policy).serveAll unoccupied requests
  exact ⟨served, sound.represents occupied, fun _ => sound.serve_eq_self⟩

/-- A wildcard pattern and an address that it matches are two keys: removing the one keeps the
other, and a registration of the one that is kept is refused and changes nothing. -/
theorem serveAll_refines_table_wildcard :
    let every : Address := ⟨[⟨"color", "*", by decide, by decide⟩]⟩
    let red : Address := ⟨[⟨"color", "red", by decide, by decide⟩]⟩
    let requests := [.register every "paint" 1, .register red "paint" 2, .unregister red "paint"]
    let registry := ((empty .reject).serveAll requests).2
    every.covers red = true ∧ registry.get? every "paint" = some 1 ∧
      (registry.serve (.register every "paint" 3)).2.table = registry.table ∧
      (registry.serve (.register every "paint" 3)).2 = registry := by
  intro every red requests registry
  obtain ⟨-, -, unchanged⟩ := serveAll_refines_table .reject requests
  have same : (registry.serve (.register every "paint" 3)).2.table = registry.table := rfl
  exact ⟨by decide, by decide, same, unchanged _ same⟩

end Registry
end ManagedTree
