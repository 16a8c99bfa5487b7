import ManagedTree.Archive
import ManagedTree.Proofs.Outcome
import ManagedTree.Proofs.Run.Keeps
import Mathlib.Tactic.SplitIfs

/-!
# Stores

A store takes the file's place with the whole document, after which that is what is read
at its path, or it ends early and the files are what they were.
-/

namespace ManagedTree

open Outcome

namespace Files

/-! ## Walks -/

/-- A walk goes on from where its front ends. -/
theorem walk_append
    (files : Files)
    (names front back : List String) :
    files.walk names (front ++ back) =
      (files.walk names front >>= fun names => files.walk names back) := by
  induction front generalizing names with
  | nil => rfl
  | cons component front inductionHypothesis =>
      rw [List.cons_append, walk, walk]
      cases files.entryAt? names with
      | none => rfl
      | some entry =>
          cases entry with
          | file content => rfl
          | directory =>
              dsimp only
              simp only [inductionHypothesis]
              split_ifs <;> rfl

/-- All directories of one state of the files are directories in a later one. -/
def KeepsDirectories (files later : Files) : Prop :=
  ∀ names, files.entryAt? names = some .directory → later.entryAt? names = some .directory

/-- A walk leads to the same place wherever the directories are kept. -/
theorem walk_of_keepsDirectories
    {files later : Files}
    (kept : KeepsDirectories files later)
    {names path place : List String}
    (leads : files.walk names path = .ok place) :
    later.walk names path = .ok place := by
  induction path generalizing names with
  | nil => exact leads
  | cons component path inductionHypothesis =>
      rw [walk] at leads ⊢
      cases here : files.entryAt? names with
      | none =>
          rw [here] at leads
          cases leads
      | some entry =>
          cases entry with
          | file content =>
              rw [here] at leads
              cases leads
          | directory =>
              rw [here] at leads
              rw [kept names here]
              dsimp only at leads ⊢
              split_ifs at leads ⊢ with same up long
              · exact inductionHypothesis leads
              · exact inductionHypothesis leads
              · exact inductionHypothesis leads

end Files

namespace Archive

/-! ## The place of a store -/

/-- A path that does not end in a slash has a last component. -/
theorem getLast?_components
    {path : String}
    (some_ : path ≠ "")
    (noSlash : path.toList.getLast? ≠ some '/') :
    (Files.components path).getLast? ≠ some "" := by
  intro empty
  rw [Files.components, List.getLast?_map, Option.map_eq_some_iff] at empty
  obtain ⟨piece, last, nothing⟩ := empty
  have noPiece : piece = [] := by simpa using congrArg String.toList nothing
  rw [noPiece] at last
  rcases Text.getLast?_of_pieces last with none | slash
  · exact some_ (String.toList_eq_nil_iff.1 none)
  · exact noSlash slash

/-- The components of a path that does not end in a slash are the last one and those
before it. -/
theorem components_of_lastComponent?
    {path last : String}
    {front : List String}
    (some_ : path ≠ "")
    (noSlash : path.toList.getLast? ≠ some '/')
    (found : lastComponent? path = some (last, front)) :
    Files.components path = front ++ [last] ∧ last ≠ "" := by
  have visible := getLast?_components some_ noSlash
  rw [List.getLast?_eq_head?_reverse] at visible
  unfold lastComponent? at found
  cases whole : (Files.components path).reverse with
  | nil =>
      rw [whole] at found
      cases found
  | cons other others =>
      rw [whole] at visible found
      have different : other ≠ "" := fun same => visible (congrArg some same)
      rw [List.dropWhile_cons_of_neg (by simpa using different)] at found
      cases found
      refine ⟨?_, different⟩
      rw [← List.reverse_cons, ← whole, List.reverse_reverse]

/-- What a path has to be like so that a file can take its place, and the names of that place. -/
theorem target_eq_ok
    {files : Files}
    {path : String}
    {place : List String}
    (found : target files path = .ok place) :
    Files.checkPath path = .ok () ∧ path.toList.getLast? ≠ some '/' ∧
      files.entryAt? place ≠ some .directory ∧
      ∃ last front names, lastComponent? path = some (last, front) ∧
        files.walk (Files.start path) (front ++ [""]) = .ok names ∧ place = names ++ [last] ∧
        ¬ (last = "." ∨ last = Files.upward) ∧
        ¬ Files.componentLimit < last.utf8ByteSize := by
  obtain ⟨⟨⟩, checked, found⟩ := bind_eq_ok_iff.1 found
  cases component : lastComponent? path with
  | none =>
      rw [component] at found
      cases found
  | some both =>
      obtain ⟨last, front⟩ := both
      rw [component] at found
      obtain ⟨names, leads, found⟩ := bind_eq_ok_iff.1 found
      split_ifs at found with passed long slash
      have here : place = names ++ [last] ∧
          files.entryAt? (names ++ [last]) ≠ some .directory := by
        split at found
        next => cases found
        next file =>
          cases found
          exact ⟨rfl, file⟩
      obtain ⟨rfl, file⟩ := here
      exact ⟨checked, slash, file, last, front, names, rfl, leads, rfl, passed, long⟩

/-- What takes a path's place is what is read there, as long as no directory is lost. -/
theorem read_of_target
    {files later : Files}
    {path : String}
    {place : List String}
    (found : target files path = .ok place)
    (kept : Files.KeepsDirectories files later)
    {content : List Glyph}
    (put : later.entryAt? place = some (.file content)) :
    later.read path = .ok content := by
  obtain ⟨checked, noSlash, -, last, front, names, component, leads, rfl, passed, long⟩ :=
    target_eq_ok found
  have some_ : path ≠ "" := by
    rintro rfl
    cases checked
  obtain ⟨whole, visible⟩ := components_of_lastComponent? some_ noSlash component
  rw [Files.walk_append] at leads
  obtain ⟨above, front, here⟩ := bind_eq_ok_iff.1 leads
  have directory : files.entryAt? above = some .directory ∧ above = names := by
    rw [Files.walk] at here
    split at here
    next => cases here
    next => cases here
    next directory =>
      refine ⟨directory, ?_⟩
      rw [if_pos (Or.inl rfl), Files.walk] at here
      exact Except.ok.inj here
  obtain ⟨directory, rfl⟩ := directory
  have located : later.locate path = .ok (above ++ [last]) := by
    rw [Files.locate, checked, whole]
    change later.walk _ _ = _
    rw [Files.walk_append, Files.walk_of_keepsDirectories kept front]
    change later.walk above [last] = _
    rw [Files.walk, kept above directory]
    dsimp only
    rw [if_neg (not_or.2 ⟨visible, (not_or.1 passed).1⟩), if_neg (not_or.1 passed).2,
      if_neg long, Files.walk]
  rw [Files.read, located]
  simp only [bind, Except.bind, put]

/-! ## Stages -/

theorem on_attempt
    {α : Type}
    (device : Device)
    (stage : Stage)
    (error : FileError → ArchiveError)
    (work : Files → Except FileError α)
    (files : Files) :
    (device.attempt stage error work).on files =
      (match device.error? stage with
        | some early => .error (error early)
        | none => (work files).mapError error, files) := by
  rw [Device.attempt, Run.on_get_bind]
  cases device.error? stage with
  | some early => rfl
  | none => exact Run.on_ending files _

/-- Preparing a store makes a new file where there was none, or leaves the files alone. -/
theorem on_prepare
    (device : Device)
    (directory : String)
    (files : Files) :
    (∃ name names, files.entryAt? names = none ∧
      (device.prepare directory).on files = (.ok (name, names), files.putFile names [])) ∨
    ∃ error, (device.prepare directory).on files = (.error error, files) := by
  rw [Device.prepare, Run.on_bind, on_attempt]
  cases device.error? .prepare with
  | some error => exact Or.inr ⟨_, rfl⟩
  | none =>
      cases directoryFor files directory with
      | error error => exact Or.inr ⟨_, rfl⟩
      | ok above =>
          simp only [bind, Except.bind]
          cases free : device.names.find? fun name => (files.entryAt? (above ++ [name])).isNone with
          | none => exact Or.inr ⟨_, rfl⟩
          | some name =>
              have absent := List.find?_some free
              exact Or.inl ⟨name, above ++ [name], Option.isNone_iff_eq_none.1 absent, rfl⟩

/-- Writing to a new file changes nothing but that file. -/
theorem on_write
    (device : Device)
    (stage : Stage)
    (error : FileError → ArchiveError)
    (files : Files)
    (names : List String)
    (content : List Glyph)
    (before more : List Char) :
    (device.write stage error names before more).on (files.putFile names content) =
        (.ok (), files.putFile names (Glyph.ofText (before ++ more))) ∨
      ∃ early left, (device.write stage error names before more).on
        (files.putFile names content) = (.error early, files.putFile names left) := by
  unfold Device.write
  cases device.error? stage with
  | some early =>
      refine Or.inr ⟨error early, Glyph.ofText (before ++ more.take device.taken), ?_⟩
      rw [Run.on_modify_bind, Files.putFile_putFile]
      rfl
  | none =>
      left
      rw [Run.on_modify, Files.putFile_putFile]

/-- Filling a new file either puts the whole document in the file's place, or changes nothing
but the new file. -/
theorem on_fill
    (archive : Archive)
    (device : Device)
    (tree : Node)
    (path : String)
    {files : Files}
    {names : List String}
    (absent : files.entryAt? names = none)
    (content : List Glyph) :
    (∃ place, target (files.putFile names (Glyph.ofText (archive.document tree)))
        archive.path = .ok place ∧
      (archive.fill device tree path names).on (files.putFile names content) =
        (.ok (), files.putFile place (Glyph.ofText (archive.document tree)))) ∨
    ∃ error left, (archive.fill device tree path names).on (files.putFile names content) =
      (.error error, files.putFile names left) := by
  unfold fill
  rw [Run.on_bind]
  rcases on_write device .write .unwritten files names content [] (archive.text tree) with
    written | ⟨error, left, early⟩
  case inr =>
    rw [early]
    exact Or.inr ⟨error, left, rfl⟩
  rw [written]
  dsimp only
  rw [Run.on_bind]
  rcases on_write device .finish (.file path) files names (Glyph.ofText ([] ++ archive.text tree))
    (archive.text tree) ['\n'] with finished | ⟨error, left, early⟩
  case inr =>
    rw [early]
    exact Or.inr ⟨error, left, rfl⟩
  rw [finished]
  dsimp only
  rw [Run.on_bind, on_attempt]
  cases device.error? .settle with
  | some early => exact Or.inr ⟨_, _, rfl⟩
  | none =>
      dsimp only [Except.mapError]
      rw [Run.on_bind, on_attempt]
      cases device.error? .replace with
      | some early => exact Or.inr ⟨_, _, rfl⟩
      | none =>
          dsimp only
          cases found : target (files.putFile names (Glyph.ofText (archive.text tree ++ ['\n'])))
              archive.path with
          | error early => exact Or.inr ⟨_, _, rfl⟩
          | ok place =>
              refine Or.inl ⟨place, found, ?_⟩
              dsimp only [Except.mapError]
              rw [Run.on_modify, Files.move_putFile absent]
              rfl

/-- A store puts the whole document in the file's place, or leaves the files as they were. -/
theorem on_store
    (archive : Archive)
    (device : Device)
    (tree : Node)
    (files : Files) :
    (∃ names place, files.entryAt? names = none ∧
      target (files.putFile names (Glyph.ofText (archive.document tree)))
        archive.path = .ok place ∧
      (archive.store device tree).on files =
        (.ok (), files.putFile place (Glyph.ofText (archive.document tree)))) ∨
    ∃ error, (archive.store device tree).on files = (.error error, files) := by
  unfold store
  dsimp only
  rw [Run.on_bind]
  rcases on_prepare device (parent archive.path) files with
    ⟨name, names, absent, prepared⟩ | ⟨error, early⟩
  case inr =>
    rw [early]
    exact Or.inr ⟨error, rfl⟩
  rw [prepared]
  dsimp only
  rw [discarding, Run.on_of]
  rcases on_fill archive device tree (join (parent archive.path) name) absent [] with
    ⟨place, found, filled⟩ | ⟨error, left, early⟩
  · rw [filled]
    exact Or.inl ⟨names, place, absent, found, rfl⟩
  · rw [early]
    refine Or.inr ⟨error, ?_⟩
    dsimp only
    rw [Files.remove_putFile absent]

/-! ## What is read after a store -/

/-- After a store the document is what is read. -/
theorem read_of_store
    {archive : Archive}
    {device : Device}
    {tree : Node}
    {files later : Files}
    (stored : (archive.store device tree).on files = (.ok (), later)) :
    later.read archive.path = .ok (Glyph.ofText (archive.document tree)) := by
  rcases on_store archive device tree files with ⟨names, place, absent, found, succeeds⟩ |
    ⟨error, fails⟩
  · rw [succeeds] at stored
    cases stored
    have below := (target_eq_ok found).2.2.1
    have new : Files.isBase names = false := Files.isBase_of_absent absent
    have put := Files.entryAt?_putFile files (Files.isBase_of_entryAt? below)
      (Glyph.ofText (archive.document tree))
    refine read_of_target found (fun other directory => ?_) put
    have notNew : other ≠ names := by
      rintro rfl
      rw [Files.entryAt?_putFile files new] at directory
      cases directory
    have notPlace : other ≠ place := by
      rintro rfl
      exact below directory
    rw [Files.entryAt?_putFile_of_ne files notNew] at directory
    rw [Files.entryAt?_putFile_of_ne files notPlace, directory]
  · rw [fails] at stored
    cases stored

/-- A store that fails leaves the files as they were, whatever the device does and whenever. -/
theorem eq_of_store
    {archive : Archive}
    {device : Device}
    {tree : Node}
    {files later : Files}
    {error : ArchiveError}
    (failed : (archive.store device tree).on files = (.error error, later)) :
    later = files := by
  rcases on_store archive device tree files with ⟨names, place, absent, found, succeeds⟩ |
    ⟨error, fails⟩
  · rw [succeeds] at failed
    cases failed
  · rw [fails] at failed
    cases failed
    rfl

end Archive
end ManagedTree
