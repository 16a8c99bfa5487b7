/-!
# Keyed lists

A keyed list is a list of key-value pairs in order of first insertion.  Putting a
value under a key that is there already keeps the key's place.
-/

namespace ManagedTree
namespace Keyed

variable {κ α : Type} [DecidableEq κ]

/-- The value under a key. -/
def get? (key : κ) : List (κ × α) → Option α
  | [] => none
  | (other, value) :: rest => if other = key then some value else get? key rest

/-- The list with a value under a key: in the key's place, or at the end. -/
def put (key : κ) (value : α) : List (κ × α) → List (κ × α)
  | [] => [(key, value)]
  | (other, old) :: rest =>
    if other = key then (key, value) :: rest else (other, old) :: put key value rest

/-- The list without a key. -/
def erase (key : κ) : List (κ × α) → List (κ × α)
  | [] => []
  | (other, value) :: rest =>
    if other = key then rest else (other, value) :: erase key rest

/-- The keys in order. -/
def keys (list : List (κ × α)) : List κ :=
  list.map Prod.fst

/-- The keyed list that putting pairs one after another builds. -/
def ofList (pairs : List (κ × α)) : List (κ × α) :=
  pairs.foldl (fun list (key, value) => put key value list) []

/-- No key occurs twice. -/
def Distinct (list : List (κ × α)) : Prop :=
  (keys list).Nodup

instance (list : List (κ × α)) : Decidable (Distinct list) :=
  inferInstanceAs (Decidable (keys list).Nodup)

@[simp] theorem get?_nil (key : κ) : get? key ([] : List (κ × α)) = none := rfl

@[simp] theorem get?_put_self
    (key : κ)
    (value : α)
    (list : List (κ × α)) :
    get? key (put key value list) = some value := by
  induction list with
  | nil => simp [put, get?]
  | cons pair rest inductionHypothesis =>
    obtain ⟨other, old⟩ := pair
    by_cases same : other = key <;> simp [put, get?, same, inductionHypothesis]

theorem get?_put_of_ne
    {key other : κ}
    (different : other ≠ key)
    (value : α)
    (list : List (κ × α)) :
    get? other (put key value list) = get? other list := by
  induction list with
  | nil => simp [put, get?, Ne.symm different]
  | cons pair rest inductionHypothesis =>
    obtain ⟨first, old⟩ := pair
    by_cases same : first = key
    · subst same
      simp [put, get?, Ne.symm different]
    · by_cases found : first = other
      · subst found
        simp [put, get?, different]
      · simp [put, get?, same, found, inductionHypothesis]

/-- A key's presence is the presence of a value under it. -/
theorem get?_eq_none_iff
    {key : κ}
    {list : List (κ × α)} :
    get? key list = none ↔ key ∉ keys list := by
  induction list with
  | nil => simp [keys]
  | cons pair rest inductionHypothesis =>
    obtain ⟨other, value⟩ := pair
    by_cases same : other = key
    · simp [get?, keys, same]
    · simp only [get?, same, if_false, inductionHypothesis, keys, List.map_cons,
        List.mem_cons, not_or]
      exact ⟨fun absent => ⟨Ne.symm same, absent⟩, fun both => both.2⟩

/-- The value under a key is paired with it. -/
theorem mem_of_get?
    {key : κ}
    {value : α}
    {list : List (κ × α)}
    (found : get? key list = some value) :
    (key, value) ∈ list := by
  induction list with
  | nil => cases found
  | cons pair rest inductionHypothesis =>
    obtain ⟨other, old⟩ := pair
    by_cases same : other = key
    · rw [get?, if_pos same, Option.some.injEq] at found
      rw [same, found]
      exact List.mem_cons_self
    · rw [get?, if_neg same] at found
      exact List.mem_cons_of_mem _ (inductionHypothesis found)

/-- Putting adds a new key at the end and leaves the keys as they are otherwise. -/
theorem keys_put
    (key : κ)
    (value : α)
    (list : List (κ × α)) :
    keys (put key value list) =
      if key ∈ keys list then keys list else keys list ++ [key] := by
  induction list with
  | nil => simp [put, keys]
  | cons pair rest inductionHypothesis =>
    obtain ⟨other, old⟩ := pair
    by_cases same : other = key
    · simp [put, keys, same]
    · simp only [put, same, if_false, keys, List.map_cons] at inductionHypothesis ⊢
      rw [inductionHypothesis]
      by_cases present : key ∈ rest.map Prod.fst <;> simp [present, Ne.symm same]

theorem put_of_absent
    {key : κ}
    {list : List (κ × α)}
    (absent : key ∉ keys list)
    (value : α) :
    put key value list = list ++ [(key, value)] := by
  induction list with
  | nil => rfl
  | cons pair rest inductionHypothesis =>
    obtain ⟨other, old⟩ := pair
    obtain ⟨different, absent⟩ := not_or.1 (mt List.mem_cons.2 absent)
    rw [put, if_neg (Ne.symm different), inductionHypothesis absent, List.cons_append]

/-- A keyed list is another one but for the value of one key, which is last if it is new. -/
inductive Renewed (key : κ) : List (κ × α) → List (κ × α) → Prop
  /-- The key keeps its place and has another value. -/
  | replaced (before after : List (κ × α)) (old value : α) :
      Renewed key (before ++ (key, old) :: after) (before ++ (key, value) :: after)
  /-- The key is new. -/
  | added (list : List (κ × α)) (value : α) :
      key ∉ keys list → Renewed key list (list ++ [(key, value)])

theorem renewed_put
    (key : κ)
    (value : α)
    (list : List (κ × α)) :
    Renewed key list (put key value list) := by
  induction list with
  | nil => exact .added [] value List.not_mem_nil
  | cons pair rest inductionHypothesis =>
    obtain ⟨other, old⟩ := pair
    by_cases same : other = key
    · rw [put, if_pos same, same]
      exact .replaced [] rest old value
    · rw [put, if_neg same]
      generalize put key value rest = renewed at inductionHypothesis ⊢
      cases inductionHypothesis with
      | replaced before after old' => exact .replaced ((other, old) :: before) after old' _
      | added _ _ absent =>
        refine .added ((other, old) :: rest) _ fun present => ?_
        rcases List.mem_cons.1 present with same' | among
        · exact same same'.symm
        · exact absent among

/-- Putting the value that is there changes nothing. -/
theorem put_of_get?
    {key : κ}
    {value : α}
    {list : List (κ × α)}
    (found : get? key list = some value) :
    put key value list = list := by
  induction list with
  | nil => cases found
  | cons pair rest inductionHypothesis =>
    obtain ⟨other, old⟩ := pair
    by_cases same : other = key
    · rw [get?, if_pos same, Option.some.injEq] at found
      rw [put, if_pos same, found, same]
    · rw [get?, if_neg same] at found
      rw [put, if_neg same, inductionHypothesis found]

theorem put_ne_nil (key : κ) (value : α) (list : List (κ × α)) : put key value list ≠ [] := by
  intro nothing
  have found := get?_put_self key value list
  rw [nothing] at found
  cases found

/-- The value that is put last under a key counts. -/
@[simp] theorem put_put
    (key : κ)
    (value later : α)
    (list : List (κ × α)) :
    put key later (put key value list) = put key later list := by
  induction list with
  | nil => simp [put]
  | cons pair rest inductionHypothesis =>
    obtain ⟨other, old⟩ := pair
    by_cases same : other = key <;> simp [put, same, inductionHypothesis]

/-- A new key that is erased again leaves nothing behind. -/
theorem erase_put_of_absent
    {key : κ}
    {list : List (κ × α)}
    (absent : key ∉ keys list)
    (value : α) :
    erase key (put key value list) = list := by
  induction list with
  | nil => simp [put, erase]
  | cons pair rest inductionHypothesis =>
    obtain ⟨other, old⟩ := pair
    obtain ⟨different, absent⟩ := not_or.1 (mt List.mem_cons.2 absent)
    rw [put, if_neg (Ne.symm different), erase, if_neg (Ne.symm different),
      inductionHypothesis absent]

/-- Erasing a key that is not there changes nothing. -/
theorem erase_of_absent
    {key : κ}
    {list : List (κ × α)}
    (absent : key ∉ keys list) :
    erase key list = list := by
  induction list with
  | nil => rfl
  | cons pair rest inductionHypothesis =>
    obtain ⟨other, old⟩ := pair
    obtain ⟨different, absent⟩ := not_or.1 (mt List.mem_cons.2 absent)
    rw [erase, if_neg (Ne.symm different), inductionHypothesis absent]

/-- The values under other keys are not erased. -/
theorem get?_erase_of_ne
    {key other : κ}
    (different : other ≠ key)
    (list : List (κ × α)) :
    get? other (erase key list) = get? other list := by
  induction list with
  | nil => rfl
  | cons pair rest inductionHypothesis =>
    obtain ⟨first, old⟩ := pair
    by_cases same : first = key
    · rw [erase, if_pos same, get?, if_neg (same ▸ different.symm)]
    · rw [erase, if_neg same, get?, get?, inductionHypothesis]

theorem mem_keys_put_iff
    {key other : κ}
    {value : α}
    {list : List (κ × α)} :
    other ∈ keys (put key value list) ↔ other = key ∨ other ∈ keys list := by
  rw [keys_put]
  by_cases present : key ∈ keys list
  · rw [if_pos present]
    exact ⟨Or.inr, fun either => either.elim (fun same => same ▸ present) id⟩
  · rw [if_neg present, List.mem_append, List.mem_singleton, or_comm]

/-- The keys after several pairs are put are those before it and those of the pairs. -/
theorem mem_keys_foldl_put_iff
    {key : κ}
    {list pairs : List (κ × α)} :
    key ∈ keys (pairs.foldl (fun list pair => put pair.1 pair.2 list) list) ↔
      key ∈ keys list ∨ key ∈ keys pairs := by
  induction pairs generalizing list with
  | nil => simp [keys]
  | cons pair pairs inductionHypothesis =>
    have first : keys (pair :: pairs) = pair.1 :: keys pairs := rfl
    rw [List.foldl_cons, inductionHypothesis, mem_keys_put_iff, first, List.mem_cons,
      or_comm (a := key = pair.1), or_assoc]

/-- Putting pairs whose keys are new appends them. -/
theorem foldl_put_of_distinct
    {list pairs : List (κ × α)}
    (distinct : Distinct (list ++ pairs)) :
    pairs.foldl (fun list pair => put pair.1 pair.2 list) list = list ++ pairs := by
  induction pairs generalizing list with
  | nil => exact (List.append_nil list).symm
  | cons pair pairs inductionHypothesis =>
    have absent : pair.1 ∉ keys list := by
      unfold Distinct at distinct
      rw [keys, List.map_append, List.map_cons, List.nodup_append] at distinct
      exact fun present => distinct.2.2 _ present _ List.mem_cons_self rfl
    rw [List.foldl_cons, put_of_absent absent, inductionHypothesis (by simpa using distinct)]
    simp

/-- A list without a key twice is what putting its pairs builds. -/
theorem ofList_of_distinct
    {list : List (κ × α)}
    (distinct : Distinct list) :
    ofList list = list :=
  foldl_put_of_distinct distinct

theorem Distinct.put
    {list : List (κ × α)}
    (distinct : Distinct list)
    (key : κ)
    (value : α) :
    Distinct (put key value list) := by
  unfold Distinct at distinct ⊢
  rw [keys_put]
  by_cases present : key ∈ keys list
  · simpa [present] using distinct
  · simpa [present, List.nodup_append] using
      ⟨distinct, fun other member equal => present (equal ▸ member)⟩

theorem Distinct.foldl_put
    {list : List (κ × α)}
    (distinct : Distinct list)
    (pairs : List (κ × α)) :
    Distinct (pairs.foldl (fun list pair => Keyed.put pair.1 pair.2 list) list) := by
  induction pairs generalizing list with
  | nil => exact distinct
  | cons pair pairs inductionHypothesis =>
    exact inductionHypothesis (distinct.put pair.1 pair.2)

/-- Putting adds no other pairs than the one that is put. -/
theorem mem_put
    {key : κ}
    {value : α}
    {list : List (κ × α)}
    {pair : κ × α}
    (present : pair ∈ put key value list) :
    pair = (key, value) ∨ pair ∈ list := by
  induction list with
  | nil => exact Or.inl (List.mem_singleton.1 present)
  | cons first rest inductionHypothesis =>
    obtain ⟨other, old⟩ := first
    by_cases same : other = key
    · rw [put, if_pos same, List.mem_cons] at present
      exact present.imp_right (List.mem_cons_of_mem _)
    · rw [put, if_neg same, List.mem_cons] at present
      rcases present with rfl | present
      · exact Or.inr List.mem_cons_self
      · exact (inductionHypothesis present).imp_right (List.mem_cons_of_mem _)

theorem erase_sublist
    (key : κ)
    (list : List (κ × α)) :
    (erase key list).Sublist list := by
  induction list with
  | nil => exact List.Sublist.refl _
  | cons pair rest inductionHypothesis =>
    obtain ⟨other, value⟩ := pair
    by_cases same : other = key
    · simp [erase, same]
    · simpa [erase, same] using inductionHypothesis

theorem Distinct.erase
    {list : List (κ × α)}
    (distinct : Distinct list)
    (key : κ) :
    Distinct (erase key list) :=
  List.Nodup.sublist ((erase_sublist key list).map Prod.fst) distinct

/-- Where no key occurs twice, nothing is left under a key that is erased. -/
theorem get?_erase_self
    {list : List (κ × α)}
    (distinct : Distinct list)
    (key : κ) :
    get? key (erase key list) = none := by
  induction list with
  | nil => rfl
  | cons pair rest inductionHypothesis =>
    obtain ⟨other, old⟩ := pair
    obtain ⟨absent, distinctRest⟩ : other ∉ keys rest ∧ Distinct rest := List.nodup_cons.1 distinct
    by_cases same : other = key
    · rw [erase, if_pos same]
      exact get?_eq_none_iff.2 (same ▸ absent)
    · rw [erase, if_neg same, get?, if_neg same, inductionHypothesis distinctRest]

/-- Where no key occurs twice, the value under a key is the one it is paired with. -/
theorem get?_eq_some_iff
    {list : List (κ × α)}
    (distinct : Distinct list)
    {key : κ}
    {value : α} :
    get? key list = some value ↔ (key, value) ∈ list := by
  induction list with
  | nil => simp
  | cons pair rest inductionHypothesis =>
    obtain ⟨other, old⟩ := pair
    have split : other ∉ keys rest ∧ Distinct rest := List.nodup_cons.1 distinct
    by_cases same : other = key
    · subst same
      have absent : (other, value) ∉ rest := fun present =>
        split.1 (List.mem_map_of_mem (f := Prod.fst) present)
      simp [get?, absent, eq_comm]
    · rw [get?, if_neg same, inductionHypothesis split.2, List.mem_cons]
      have different : (key, value) ≠ (other, old) := fun equal =>
        same (congrArg Prod.fst equal).symm
      exact ⟨Or.inr, fun present => present.resolve_left different⟩

end Keyed
end ManagedTree
