import ManagedTree.Controller.Start
import ManagedTree.Proofs.Archive.Replacement
import ManagedTree.Proofs.Json.Documents

/-!
# An archive as a register

After any stores at one path, in whatever layout and however many of them failed, what is
loaded is the tree of the last store that succeeded.  There is one exception: a document
may not be nested as deep as a tree may be, so a tree beyond that is stored but not loaded.
-/

namespace ManagedTree
namespace Archive

/-- A store at a path: the layout, the device as it is then, and the tree. -/
structure Deposit where
  /-- Whether the document has a line for every member and item. -/
  indented : Bool
  /-- What the device does. -/
  device : Device
  /-- The tree. -/
  tree : Node

/-- What a store makes of the files at hand and the tree that was stored last. -/
def keep
    (path : String) (before : Files × Option Node) (deposit : Deposit) : Files × Option Node :=
  match (store ⟨path, deposit.indented⟩ deposit.device deposit.tree).on before.1 with
  | (.ok (), files) => (files, some deposit.tree)
  | (.error _, files) => (files, before.2)

/-- What is loaded of a tree that was stored: the tree, unless it is nested too deep for a
document. -/
def loaded (tree : Node) : Except ArchiveError (Option Node) :=
  if tree.depth ≤ Json.nestingLimit then .ok (some tree) else .error (.unreadable .malformed)

theorem spacing_blank (archive : Archive) : archive.spacing.Blank := by
  unfold spacing
  split
  · exact Spacing.lines_blank
  · exact Spacing.dense_blank

/-- What is loaded when the document of a storable tree is read, in whatever layout. -/
theorem load_of_read
    {path : String}
    {files : Files}
    {written : Bool}
    {tree : Node}
    (storable : tree.Storable)
    (read : files.read path = .ok (Glyph.ofText (document ⟨path, written⟩ tree)))
    (indented : Bool) :
    load ⟨path, indented⟩ files = loaded tree := by
  rw [load, read]
  dsimp only
  rw [document, text, Json.read_json (spacing_blank _) storable, loaded]
  split_ifs <;> rfl

/-- The files hold the tree that was stored last, or are as they were from the start. -/
def Holds (path : String) (origin : Files) : Files × Option Node → Prop
  | (files, none) => files = origin
  | (files, some tree) =>
    tree.Storable ∧ ∃ written, files.read path = .ok (Glyph.ofText (document ⟨path, written⟩ tree))

/-- One more store of a storable tree. -/
theorem Holds.keep
    {path : String}
    {origin : Files}
    {before : Files × Option Node}
    (holds : Holds path origin before)
    {deposit : Deposit}
    (storable : deposit.tree.Storable) :
    Holds path origin (Archive.keep path before deposit) := by
  unfold Archive.keep
  split
  next files stored => exact ⟨storable, deposit.indented, read_of_store stored⟩
  next error files failed =>
    rw [eq_of_store failed]
    exact holds

/-- Any stores of storable trees, one after another. -/
theorem Holds.foldl_keep
    {path : String}
    {origin : Files}
    {before : Files × Option Node}
    (holds : Holds path origin before)
    {deposits : List Deposit}
    (storable : ∀ deposit ∈ deposits, deposit.tree.Storable) :
    Holds path origin (deposits.foldl (Archive.keep path) before) := by
  induction deposits generalizing before with
  | nil => exact holds
  | cons deposit deposits inductionHypothesis =>
      obtain ⟨first, others⟩ := List.forall_mem_cons.1 storable
      exact inductionHypothesis (holds.keep first) others

/-- A controller starts with the tree that its settings' file gives. -/
theorem ofSettings_of_load
    {settings : Settings}
    {path : String}
    (kept : settings.path = some path)
    {files : Files} :
    Controller.ofSettings settings files =
      (load ⟨path, settings.indented⟩ files).map fun tree =>
        Controller.start settings (tree.getD Node.empty) (.archive ⟨path, settings.indented⟩)
          ContextFactory.basic Invoker.direct files := by
  unfold Controller.ofSettings
  rw [kept]
  dsimp only
  cases load ⟨path, settings.indented⟩ files <;> rfl

/-- The register: after any stores of storable trees at a path, each in its own layout and on a
device that may give errors at any stage, the tree of the last store that succeeded is loaded
as it was, and a controller starts with it.  A store that fails changes nothing.  Only a tree
that is nested deeper than a document may be is malformed when it is loaded, and then no
controller starts either. -/
theorem load_after_stores
    (path : String)
    (files : Files)
    (deposits : List Deposit)
    (storable : ∀ deposit ∈ deposits, deposit.tree.Storable) :
    let after := deposits.foldl (keep path) (files, none)
    (after.2 = none → after.1 = files) ∧
    (∀ (deposit : Deposit) error later,
      (store ⟨path, deposit.indented⟩ deposit.device deposit.tree).on after.1 =
        (.error error, later) → later = after.1) ∧
    ∀ tree, after.2 = some tree →
      (∀ indented, load ⟨path, indented⟩ after.1 =
        if tree.depth ≤ Json.nestingLimit then .ok (some tree)
        else .error (.unreadable .malformed)) ∧
      ∀ settings : Settings, settings.path = some path →
        Controller.ofSettings settings after.1 =
          if tree.depth ≤ Json.nestingLimit then
            .ok (Controller.start settings tree (.archive ⟨path, settings.indented⟩)
              ContextFactory.basic Invoker.direct after.1)
          else .error (.unreadable .malformed) := by
  intro after
  have start : Holds path files (files, none) := rfl
  have holds : Holds path files after := start.foldl_keep storable
  clear_value after
  obtain ⟨later, last⟩ := after
  refine ⟨?_, fun _ _ _ failed => eq_of_store failed, ?_⟩
  · rintro rfl
    exact holds
  · rintro tree rfl
    obtain ⟨storable, written, read⟩ := holds
    have loads := load_of_read storable read
    refine ⟨loads, fun settings kept => ?_⟩
    rw [ofSettings_of_load kept, loads, loaded]
    split_ifs <;> rfl

/-- A first store beside nothing else. -/
theorem on_store_first (indented : Bool) (tree : Node) :
    (store ⟨"model.json", indented⟩ sound tree).on Files.empty =
      (.ok (), ⟨[(["model.json"],
        .file (Glyph.ofText (document ⟨"model.json", indented⟩ tree)))]⟩) := by
  cases indented <;> rfl

/-- A device that is full after some characters. -/
def full : Device where
  error?
    | .write => some (.described "No space left on device (os error 28)")
    | _ => none
  names := sound.names
  taken := 5

/-- A store on a full device beside an earlier document. -/
theorem on_store_full (tree : Node) (content : List Glyph) :
    (store ⟨"model.json", false⟩ full tree).on ⟨[(["model.json"], .file content)]⟩ =
      (.error (.unwritten (.described "No space left on device (os error 28)")),
        ⟨[(["model.json"], .file content)]⟩) := rfl

/-- When the device is full before the second store is written, the tree of the first one is
loaded. -/
theorem load_after_stores_full :
    let kept : Node := .object [("b", .list [Node.integer (-5), .text "\x01"]), ("a", .null)]
    load ⟨"model.json", false⟩ ([Deposit.mk true sound kept, Deposit.mk false full .null].foldl
      (keep "model.json") (Files.empty, none)).1 = .ok (some kept) := by
  intro kept
  have storable : ∀ deposit ∈ [Deposit.mk true sound kept, Deposit.mk false full .null],
      deposit.tree.Storable := by
    intro deposit among
    rcases List.mem_cons.1 among with rfl | among
    · exact (by decide : kept.Storable)
    · rw [List.mem_singleton.1 among]
      trivial
  have last : ([Deposit.mk true sound kept, Deposit.mk false full .null].foldl
      (keep "model.json") (Files.empty, none)).2 = some kept := by
    rw [List.foldl_cons, List.foldl_cons, List.foldl_nil, keep, keep, on_store_first]
    dsimp only
    rw [on_store_full]
  obtain ⟨-, -, loads⟩ := load_after_stores "model.json" Files.empty _ storable
  exact ((loads kept last).1 false).trans (if_pos (by decide))

/-- What is created for an address is nested two levels deep for each of its elements. -/
theorem create_deep (address : Address) :
    (address.create Node.empty).2.Storable ∧
      (address.create Node.empty).2.depth = 2 * address.elements.length + 1 := by
  have reached : ∀ place : List String,
      (Node.reach true id place Node.empty).2.Storable ∧
        (Node.reach true id place Node.empty).2.depth = place.length + 1 := by
    intro place
    induction place with
    | nil => exact ⟨⟨List.nodup_nil, trivial⟩, rfl⟩
    | cons name place inductionHypothesis =>
        obtain ⟨storable, depth⟩ := inductionHypothesis
        have made : (Node.reach true id (name :: place) Node.empty).2 =
            .object [(name, (Node.reach true id place Node.empty).2)] := rfl
        rw [made, Node.depth, Node.depthMembers, Node.depthMembers, depth, List.length_cons]
        exact ⟨⟨List.nodup_cons.2 ⟨List.not_mem_nil, List.nodup_nil⟩, storable, trivial⟩, by omega⟩
  exact address.length_segments ▸ reached address.segments

/-- What is created for an address of 64 or more elements is stored, but it cannot be loaded, and
no controller starts with it. -/
theorem created_unreadable
    {address : Address}
    (long : 64 ≤ address.elements.length) :
    (address.create Node.empty).2.Storable ∧
      ∃ files, (store ⟨"model.json", false⟩ sound (address.create Node.empty).2).on Files.empty =
        (.ok (), files) ∧
      load ⟨"model.json", false⟩ files = .error (.unreadable .malformed) ∧
      Controller.ofSettings { Settings.default with path := some "model.json" } files =
        .error (.unreadable .malformed) := by
  obtain ⟨storable, depth⟩ := create_deep address
  have tooDeep : ¬ (address.create Node.empty).2.depth ≤ Json.nestingLimit := by
    rw [depth, Json.nestingLimit]
    omega
  have stored := on_store_first false (address.create Node.empty).2
  have loads := fun indented =>
    (load_of_read storable (read_of_store stored) indented).trans (if_neg tooDeep)
  refine ⟨storable, _, stored, loads false, ?_⟩
  rw [ofSettings_of_load rfl, loads]
  rfl

/-- An address of 64 elements is long enough for a tree that is stored and cannot be loaded. -/
theorem created_unreadable_address :
    ∃ address : Address, address.elements = List.replicate 64 ⟨"a", "b", by decide, by decide⟩ ∧
      (address.create Node.empty).2.Storable ∧
      ∃ files, (store ⟨"model.json", false⟩ sound (address.create Node.empty).2).on Files.empty =
        (.ok (), files) ∧
      load ⟨"model.json", false⟩ files = .error (.unreadable .malformed) ∧
      Controller.ofSettings { Settings.default with path := some "model.json" } files =
        .error (.unreadable .malformed) :=
  ⟨⟨_⟩, rfl, created_unreadable (Nat.le_of_eq List.length_replicate.symm)⟩

end Archive
end ManagedTree
