import ManagedTree.Controller.Reporting

/-!
# What keepers do

Asking a keeper ends early when it panics, which only a keeper does that is known by its
responses.  A file is written by every tree that it is asked to store.
-/

namespace ManagedTree

/-- How asking a keeper ends, by its response. -/
def Response.ending : Response → Except Ending Unit
  | .kept | .refused _ => .ok ()
  | .panicked panic => .error (.panic panic)

/-- Asking a keeper ends early when it panics. -/
theorem Response.not_isOk_ending (response : Response) :
    (!response.ending.isOk) = response.isPanic := by
  cases response <;> rfl

/-- An archive does not panic. -/
theorem Response.isPanic_ofArchive (result : Except ArchiveError Unit) :
    (ofArchive result).isPanic = false := by
  rcases result with error | ⟨⟩ <;> rfl

theorem Response.isPanic_iff {response : Response} :
    response.isPanic = true ↔ ∃ panic, response = .panicked panic := by
  cases response <;> simp [isPanic]

/-- The files after an archive was asked to store trees, one after another. -/
def Archive.storeAll (archive : Archive) (trees : List Node) (files : Files) : Files :=
  trees.foldl (fun files tree => ((archive.store sound tree).on files).2) files

theorem Archive.storeAll_append
    (archive : Archive)
    (trees more : List Node)
    (files : Files) :
    archive.storeAll (trees ++ more) files = archive.storeAll more (archive.storeAll trees files) :=
  List.foldl_append

namespace Keeper

/-- A keeper stores every tree or refuses it, and does not panic. -/
def Returns : Keeper → Prop
  | .memory | .archive _ => True
  | .custom respond => ∀ received panic, respond received ≠ .panicked panic

variable {keeper : Keeper} (tree : Node) (custody : Custody)

/-- A keeper gets the tree that it is asked to store. -/
theorem received_store :
    (keeper.store tree custody).2.received = custody.received ++ [tree] := by
  cases keeper <;> rfl

/-- An archive stores the tree in its file. -/
theorem files_store_archive (file : Archive) :
    ((Keeper.archive file).store tree custody).2.files =
      file.storeAll [tree] custody.files := by
  rw [store, Archive.storeAll, List.foldl_cons, List.foldl_nil]

/-- Other keepers leave the files alone. -/
theorem files_store_of_ne_archive (other : ∀ file, keeper ≠ .archive file) :
    (keeper.store tree custody).2.files = custody.files := by
  cases keeper with
  | archive file => exact absurd rfl (other file)
  | _ => rfl

/-- A keeper panics when it responds so to the trees that it was asked to store. -/
theorem isPanic_store :
    (keeper.store tree custody).1.isPanic = true ↔
      ∃ respond panic, keeper = .custom respond ∧
        respond (custody.received ++ [tree]) = .panicked panic := by
  cases keeper with
  | memory => simp [store, Response.isPanic]
  | archive file => simp [store, Response.isPanic_ofArchive]
  | custom respond => simp [store, Response.isPanic_iff]

/-- A keeper that returns does not panic. -/
theorem Returns.isPanic_store_eq (returns : keeper.Returns) :
    (keeper.store tree custody).1.isPanic = false := by
  rw [Bool.eq_false_iff]
  intro panics
  obtain ⟨respond, panic, rfl, response⟩ := (isPanic_store tree custody).1 panics
  exact returns _ panic response

end Keeper
end ManagedTree
