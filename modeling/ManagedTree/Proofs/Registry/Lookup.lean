import ManagedTree.Proofs.Address.Specificity
import ManagedTree.Proofs.Registry.History

/-!
# The handler that is found

Looking up an address and a name finds the one registration whose pattern is more
specific than all others that match.  The result depends on what is registered, not
on the order in which that happened.
-/

namespace ManagedTree
namespace Registry

variable {H : Type}

/-- A registration is under a name, and its pattern matches an address. -/
def Serves
    (registry : Registry H) (address : Address) (name : String) (registration : Address × H) :
    Prop :=
  registry.get? registration.1 name = some registration.2 ∧ registration.1.Matches address

/-- A registration serves an address and is more specific than all others that do. -/
def Foremost
    (registry : Registry H) (address : Address) (name : String) (registration : Address × H) :
    Prop :=
  registry.Serves address name registration ∧
    ∀ other, registry.Serves address name other → other ≠ registration →
      registration.1.MoreSpecific other.1

/-! ## The most specific of several registrations -/

/-- A registration has the same pattern as another one or a more specific one. -/
def AtLeast (first second : Address × H) : Prop :=
  first.1 = second.1 ∨ first.1.MoreSpecific second.1

theorem AtLeast.trans
    {first second third : Address × H}
    (left : AtLeast first second)
    (right : AtLeast second third) :
    AtLeast first third := by
  rcases left with same | left
  · rw [AtLeast, same]
    exact right
  · rcases right with same | right
    · rw [AtLeast, ← same]
      exact Or.inr left
    · exact Or.inr (left.trans right)

/-- The more specific of two registrations that match a common address. -/
theorem moreSpecific_atLeast
    {first second : Address × H}
    {address : Address}
    (firstMatches : first.1.Matches address)
    (secondMatches : second.1.Matches address) :
    AtLeast (moreSpecific first second) first ∧ AtLeast (moreSpecific first second) second := by
  rw [moreSpecific]
  by_cases higher : first.1.outranks second.1 = true
  · rw [if_pos higher]
    exact ⟨Or.inl rfl, Or.inr (Address.outranks_iff.1 higher)⟩
  · rw [if_neg higher]
    refine ⟨?_, Or.inl rfl⟩
    rcases firstMatches.total secondMatches with same | above | below
    · exact Or.inl same.symm
    · exact absurd (Address.outranks_iff.2 above) higher
    · exact Or.inr below

/-- One of the two registrations is the more specific one. -/
theorem moreSpecific_eq_or (first second : Address × H) :
    moreSpecific first second = first ∨ moreSpecific first second = second := by
  rw [moreSpecific]
  split
  · exact Or.inl rfl
  · exact Or.inr rfl

/-- Going through registrations that match a common address ends with one of them, and no
other one is more specific. -/
theorem foldl_moreSpecific
    {address : Address}
    (first : Address × H)
    (rest : List (Address × H))
    (matched : ∀ registration ∈ first :: rest, registration.1.Matches address) :
    rest.foldl moreSpecific first ∈ first :: rest ∧
      ∀ registration ∈ first :: rest, AtLeast (rest.foldl moreSpecific first) registration := by
  induction rest generalizing first with
  | nil =>
      refine ⟨List.mem_cons_self, fun registration present => ?_⟩
      rw [List.mem_singleton.1 present]
      exact Or.inl rfl
  | cons second rest inductionHypothesis =>
      obtain ⟨aboveFirst, aboveSecond⟩ := moreSpecific_atLeast
        (matched first List.mem_cons_self)
        (matched second (List.mem_cons_of_mem _ List.mem_cons_self))
      have chosen : moreSpecific first second ∈ [first, second] := by
        rcases moreSpecific_eq_or first second with same | same <;> simp [same]
      have matchedRest : ∀ registration ∈ moreSpecific first second :: rest,
          registration.1.Matches address := by
        intro registration present
        rcases List.mem_cons.1 present with rfl | present
        · exact matched _ (List.mem_append_left rest chosen)
        · exact matched registration (List.mem_cons_of_mem _ (List.mem_cons_of_mem _ present))
      obtain ⟨among, above⟩ := inductionHypothesis (moreSpecific first second) matchedRest
      have aboveChosen := above _ List.mem_cons_self
      rw [List.foldl_cons]
      constructor
      · rcases List.mem_cons.1 among with same | among
        · rw [same]
          exact List.mem_append_left rest chosen
        · exact List.mem_cons_of_mem _ (List.mem_cons_of_mem _ among)
      · intro registration present
        rcases List.mem_cons.1 present with rfl | present
        · exact aboveChosen.trans aboveFirst
        · rcases List.mem_cons.1 present with rfl | present
          · exact aboveChosen.trans aboveSecond
          · exact above registration (List.mem_cons_of_mem _ present)

/-! ## Look-ups -/

namespace Sound

variable {registry : Registry H}

/-- The registrations that a look-up chooses from are those that serve the address. -/
theorem mem_matching_iff
    (sound : registry.Sound)
    {address : Address}
    {name : String}
    {registration : Address × H} :
    registration ∈ registry.matching address name ↔ registry.Serves address name registration := by
  rw [matching, List.mem_filter, Address.covers_iff, Serves, sound.get?_eq_some_iff]

/-- Registrations under one name with equal patterns are the same. -/
theorem eq_of_pattern_eq
    {address : Address}
    {name : String}
    {first second : Address × H}
    (firstServes : registry.Serves address name first)
    (secondServes : registry.Serves address name second)
    (same : first.1 = second.1) :
    first = second := by
  have handlers : some first.2 = some second.2 := by
    rw [← firstServes.1, ← secondServes.1, same]
  exact Prod.ext same (Option.some.inj handlers)

/-- A look-up finds nothing when no registration serves the address, and otherwise the
handler of a foremost one. -/
theorem lookup_cases
    (sound : registry.Sound)
    (address : Address)
    (name : String) :
    registry.lookup address name = none ∧
        (∀ registration, ¬ registry.Serves address name registration) ∨
      ∃ registration, registry.Foremost address name registration ∧
        registry.lookup address name = some registration.2 := by
  rw [lookup]
  cases candidates : registry.matching address name with
  | nil =>
      refine Or.inl ⟨rfl, fun registration serves => ?_⟩
      rw [← sound.mem_matching_iff, candidates] at serves
      exact List.not_mem_nil serves
  | cons first rest =>
      have serves : ∀ registration, registration ∈ first :: rest ↔
          registry.Serves address name registration := fun registration => by
        rw [← candidates, sound.mem_matching_iff]
      obtain ⟨among, above⟩ := foldl_moreSpecific first rest fun registration present =>
        ((serves registration).1 present).2
      refine Or.inr ⟨rest.foldl moreSpecific first, ⟨(serves _).1 among, ?_⟩, rfl⟩
      intro other otherServes different
      rcases above other ((serves other).2 otherServes) with same | higher
      · exact absurd (eq_of_pattern_eq otherServes ((serves _).1 among) same.symm) different
      · exact higher

end Sound

variable {registry : Registry H} {address : Address} {name : String}

/-- At most one registration is foremost. -/
theorem Foremost.unique
    {first second : Address × H}
    (firstForemost : registry.Foremost address name first)
    (secondForemost : registry.Foremost address name second) :
    first = second := by
  by_contra different
  have above := firstForemost.2 second secondForemost.1 (Ne.symm different)
  exact above.asymm (secondForemost.2 first firstForemost.1 different)

/-- A foremost registration is the one that a look-up finds. -/
theorem Sound.lookup_eq_of_foremost
    (sound : registry.Sound)
    {registration : Address × H}
    (foremost : registry.Foremost address name registration) :
    registry.lookup address name = some registration.2 := by
  rcases sound.lookup_cases address name with ⟨_, unserved⟩ | ⟨other, otherForemost, found⟩
  · exact absurd foremost.1 (unserved registration)
  · rw [found, foremost.unique otherForemost]

/-- A pattern's own registration is foremost where the pattern is looked up as an address. -/
theorem foremost_of_get?
    {pattern : Address}
    {handler : H}
    (registered : registry.get? pattern name = some handler) :
    registry.Foremost pattern name (pattern, handler) := by
  have serves : registry.Serves pattern name (pattern, handler) :=
    ⟨registered, Address.Matches.refl pattern⟩
  refine ⟨serves, fun other otherServes different => ?_⟩
  rcases serves.2.total otherServes.2 with same | higher | lower
  · exact absurd (Sound.eq_of_pattern_eq otherServes serves same.symm) different
  · exact higher
  · exact absurd lower otherServes.2.not_moreSpecific

/-- Registries with the same registrations answer look-ups alike. -/
theorem Sound.lookup_congr
    {other : Registry H}
    (sound : registry.Sound)
    (otherSound : other.Sound)
    (same : ∀ pattern name, other.get? pattern name = registry.get? pattern name)
    (address : Address)
    (name : String) :
    other.lookup address name = registry.lookup address name := by
  have serves : other.Serves address name = registry.Serves address name := by
    funext registration
    rw [Serves, Serves, same]
  rcases sound.lookup_cases address name with ⟨nothing, unserved⟩ | ⟨registration, foremost, found⟩
  · rcases otherSound.lookup_cases address name with ⟨otherNothing, _⟩ | ⟨_, otherForemost, _⟩
    · rw [nothing, otherNothing]
    · rw [Foremost, serves] at otherForemost
      exact absurd otherForemost.1 (unserved _)
  · rw [found]
    refine otherSound.lookup_eq_of_foremost ?_
    rw [Foremost, serves]
    exact foremost

/-- Look-ups in a registry with any history.  Nothing is found exactly when no registration
under the name has a pattern that matches the address.  Otherwise exactly one registration that
matches is more specific than all others that do, and its handler is found.  Registries with the
same registrations answer alike, whatever their histories, and a pattern that is looked up as an
address under its name leads to its own handler. -/
theorem lookup_most_specific
    (policy : DuplicatePolicy)
    (changes : List (Change H)) :
    (∀ address name,
      ((ofChanges policy changes).lookup address name = none ↔
        ∀ registration, ¬ (ofChanges policy changes).Serves address name registration) ∧
      ((ofChanges policy changes).lookup address name ≠ none →
        ∃! registration, (ofChanges policy changes).Foremost address name registration) ∧
      ∀ registration, (ofChanges policy changes).Foremost address name registration →
        (ofChanges policy changes).lookup address name = some registration.2) ∧
    (∀ otherPolicy otherChanges,
      (∀ pattern name,
        (ofChanges otherPolicy otherChanges).get? pattern name =
          (ofChanges policy changes).get? pattern name) →
      ∀ address name,
        (ofChanges otherPolicy otherChanges).lookup address name =
          (ofChanges policy changes).lookup address name) ∧
    ∀ pattern name handler,
      (ofChanges policy changes).get? pattern name = some handler →
        (ofChanges policy changes).lookup pattern name = some handler := by
  have sound := sound_ofChanges policy changes
  set registry := ofChanges policy changes
  refine ⟨fun address name => ⟨⟨?_, ?_⟩, ?_, fun _ => sound.lookup_eq_of_foremost⟩, ?_, ?_⟩
  · intro nothing
    rcases sound.lookup_cases address name with ⟨_, unserved⟩ | ⟨registration, _, found⟩
    · exact unserved
    · rw [nothing] at found
      cases found
  · intro unserved
    rcases sound.lookup_cases address name with ⟨nothing, _⟩ | ⟨registration, foremost, _⟩
    · exact nothing
    · exact absurd foremost.1 (unserved registration)
  · intro something
    rcases sound.lookup_cases address name with ⟨nothing, _⟩ | ⟨registration, foremost, _⟩
    · exact absurd nothing something
    · exact ⟨registration, foremost, fun other otherForemost => otherForemost.unique foremost⟩
  · intro otherPolicy otherChanges same
    exact sound.lookup_congr (sound_ofChanges otherPolicy otherChanges) same
  · intro pattern name handler registered
    exact sound.lookup_eq_of_foremost (foremost_of_get? registered)

/-- The pattern `color=*`, and an address that it matches. -/
def everyColor : Address := ⟨[⟨"color", "*", by decide, by decide⟩]⟩

/-- The address `color=red`. -/
def red : Address := ⟨[⟨"color", "red", by decide, by decide⟩]⟩

/-- The handler of the wildcard is found for the wildcard itself, and the one of the exact
pattern for the address that both match. -/
theorem lookup_most_specific_wildcard :
    let changes := [.register red "paint" 1, .register everyColor "paint" 2]
    ((ofChanges .reject changes).get? everyColor "paint" = some 2 ∧
        (ofChanges .reject changes).lookup everyColor "paint" = some 2) ∧
      (ofChanges .reject changes).get? red "paint" = some 1 ∧
        (ofChanges .reject changes).lookup red "paint" = some 1 := by
  intro changes
  obtain ⟨-, -, own⟩ := lookup_most_specific .reject changes
  have wild : (ofChanges .reject changes).get? everyColor "paint" = some 2 := by decide
  have exact : (ofChanges .reject changes).get? red "paint" = some 1 := by decide
  exact ⟨⟨wild, own _ _ _ wild⟩, exact, own _ _ _ exact⟩

end Registry
end ManagedTree
