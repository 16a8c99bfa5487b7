import ManagedTree.Archive

/-!
# Keepers

A keeper is asked to store the tree of a controller.  What it does depends on the files
around it and on the trees that it was asked to store before.
-/

namespace ManagedTree

/-- What a keeper does with a tree that it is asked to store. -/
inductive Response where
  /-- It stores the tree. -/
  | kept
  /-- It does not accept the tree. -/
  | refused (error : ArchiveError)
  /-- It panics. -/
  | panicked (panic : Panic)
deriving Repr

namespace Response

/-- What an archive does with a tree, by how storing it ended. -/
def ofArchive : Except ArchiveError Unit → Response
  | .ok () => .kept
  | .error error => .refused error

/-- Whether a keeper panics. -/
def isPanic : Response → Bool
  | .kept | .refused _ => false
  | .panicked _ => true

end Response

/-- What keeps the tree of a controller. -/
inductive Keeper where
  /-- Nothing does. -/
  | memory
  /-- A file does. -/
  | archive (archive : Archive)
  /-- Something does that is known by its responses to the trees that it was asked to store,
  of which the last is the one that it responds to. -/
  | custom (respond : List Node → Response)

/-- What a keeper finds when it is asked to store a tree. -/
structure Custody where
  /-- The files around it. -/
  files : Files
  /-- The trees that it was asked to store so far, in order. -/
  received : List Node

/-- A keeper is asked to store a tree: its response, and what it finds the next time. -/
def Keeper.store (keeper : Keeper) (tree : Node) (custody : Custody) : Response × Custody :=
  let received := custody.received ++ [tree]
  match keeper with
  | .memory => (.kept, { custody with received })
  | .archive file =>
    let (result, files) := (file.store Archive.sound tree).on custody.files
    (.ofArchive result, ⟨files, received⟩)
  | .custom respond => (respond received, { custody with received })

end ManagedTree
