import ManagedTree.Keyed
import ManagedTree.Text.Glyph
import ManagedTree.Text.Pieces

/-!
# Files

A working directory with directories and files below it.  A path is a text of
components with slashes between them; every component but the last has to be a
directory, `.` stays where it is and `..` goes up.  A path that goes above the working
directory or starts at the root leads outside, where directories are all there is until
something is put there.
-/

namespace ManagedTree

/-- Why a file cannot be read or written. -/
inductive FileError where
  /-- There is no such file or directory. -/
  | notFound
  /-- A directory stands where a file should be. -/
  | isDirectory
  /-- A file stands where a directory should be. -/
  | notDirectory
  /-- A directory that is in use cannot be replaced. -/
  | busy
  /-- A path holds a null character. -/
  | badPath
  /-- A component or a path is too long. -/
  | longName
  /-- A file is not valid UTF-8. -/
  | notText
  /-- An error that is only known by its text. -/
  | described (text : String)
deriving DecidableEq, Repr

/-- The wording of a file error. -/
def FileError.message : FileError → String
  | .notFound => "No such file or directory (os error 2)"
  | .isDirectory => "Is a directory (os error 21)"
  | .notDirectory => "Not a directory (os error 20)"
  | .busy => "Device or resource busy (os error 16)"
  | .badPath => "file name contained an unexpected NUL byte"
  | .longName => "File name too long (os error 36)"
  | .notText => "stream did not contain valid UTF-8"
  | .described text => text

/-- What a directory holds under a name. -/
inductive Entry where
  /-- A directory. -/
  | directory
  /-- A file with its content. -/
  | file (content : List Glyph)
deriving DecidableEq, Repr

/-- The directories and files below the working directory, each under the names that
lead to it. -/
structure Files where
  /-- The entries, in no particular order. -/
  entries : List (List String × Entry)
deriving Repr, Inhabited

namespace Files

/-- The empty working directory. -/
def empty : Files := ⟨[]⟩

/-- The name of the root. -/
def root : String := "/"

/-- The name that goes above a directory. -/
def upward : String := ".."

/-- Whether names lead to the working directory, to one above it or to the root. -/
def isBase (names : List String) : Bool :=
  names.all fun name => name == upward || name == root

/-- What names lead to; no name leads to the working directory itself. -/
def entryAt? (files : Files) (names : List String) : Option Entry :=
  if isBase names then some .directory else Keyed.get? names files.entries

/-- The names that lead to the directory above; the root is above itself. -/
def above (names : List String) : List String :=
  if names = [root] then names
  else if isBase names then names ++ [upward]
  else names.dropLast

/-- The components of a path. -/
def components (path : String) : List String :=
  let (first, others) := Text.pieces '/' path.toList
  (first :: others).map String.ofList

/-- The names from which the components of a path lead on. -/
def start (path : String) : List String :=
  if path.toList.head? = some '/' then [root] else []

/-- The most bytes of a component. -/
def componentLimit : Nat := 255

/-- The most bytes of a path. -/
def pathLimit : Nat := 4095

/-- Go from a directory along components; all that is passed has to be a directory. -/
def walk (files : Files) : List String → List String → Except FileError (List String)
  | names, [] => .ok names
  | names, component :: rest =>
    match files.entryAt? names with
    | none => .error .notFound
    | some (.file _) => .error .notDirectory
    | some .directory =>
      if component = "" ∨ component = "." then walk files names rest
      else if component = upward then walk files (above names) rest
      else if componentLimit < component.utf8ByteSize then .error .longName
      else walk files (names ++ [component]) rest

/-- Check a path before any of its components is looked up. -/
def checkPath (path : String) : Except FileError Unit :=
  if path = "" then .error .notFound
  else if path.toList.contains '\x00' then .error .badPath
  else if pathLimit < path.utf8ByteSize then .error .longName
  else .ok ()

/-- The names that a path stands for. -/
def locate (files : Files) (path : String) : Except FileError (List String) := do
  checkPath path
  files.walk (start path) (components path)

/-- The content of the file at a path. -/
def read (files : Files) (path : String) : Except FileError (List Glyph) := do
  let names ← files.locate path
  match files.entryAt? names with
  | none => .error .notFound
  | some .directory => .error .isDirectory
  | some (.file content) => .ok content

/-- The text of the file at a path. -/
def readText (files : Files) (path : String) : Except FileError (List Char) := do
  let content ← files.read path
  match Glyph.toText? content with
  | some text => .ok text
  | none => .error .notText

/-- The names at and above a place, from the working directory downwards. -/
def upwards (names : List String) : List (List String) :=
  (List.range (names.length + 1)).map names.take

/-- The files with directories at names and everywhere above them. -/
def withDirectory (files : Files) (names : List String) : Files :=
  (upwards names).foldl
    (fun files passed =>
      match files.entryAt? passed with
      | some _ => files
      | none => ⟨Keyed.put passed .directory files.entries⟩)
    files

/-- The names that the components of a path spell, whatever is there. -/
def spelled (path : String) : List String :=
  (components path).foldl
    (fun names component =>
      if component = "" ∨ component = "." then names
      else if component = upward then above names
      else names ++ [component])
    (start path)

/-- Make a directory at a path, and those above it. -/
def makeDirectory (files : Files) (path : String) : Files :=
  files.withDirectory (spelled path)

/-- Put a file at names, in place of the one that is there. -/
def putFile (files : Files) (names : List String) (content : List Glyph) : Files :=
  ⟨Keyed.put names (.file content) files.entries⟩

/-- Remove what is at names. -/
def remove (files : Files) (names : List String) : Files :=
  ⟨Keyed.erase names files.entries⟩

/-- Put a file in another place, where it replaces the one that is there. -/
def move (files : Files) (names place : List String) : Files :=
  match files.entryAt? names with
  | some (.file content) => (files.remove names).putFile place content
  | _ => files

/-- Write a file at a path, making the directories above it. -/
def write (files : Files) (path : String) (content : List Glyph) : Files :=
  let names := spelled path
  match files.entryAt? names with
  | some .directory => files
  | _ => (files.withDirectory names.dropLast).putFile names content

/-- Delete the file at a path, if there is one. -/
def delete (files : Files) (path : String) : Files :=
  match files.locate path with
  | .error _ => files
  | .ok names =>
    match files.entryAt? names with
    | some (.file _) => files.remove names
    | _ => files

/-- The names in the directory at a path, in ascending order. -/
def list (files : Files) (path : String) : List String :=
  match files.locate path with
  | .error _ => []
  | .ok directory =>
    let below := (Keyed.keys files.entries).filter fun names =>
      !names.isEmpty && names.dropLast == directory
    (below.filterMap List.getLast?).mergeSort (· ≤ ·)

@[simp] theorem entryAt?_nil (files : Files) : files.entryAt? [] = some .directory := rfl

/-- A file that was put at names is found there. -/
theorem entryAt?_putFile
    (files : Files)
    {names : List String}
    (named : isBase names = false)
    (content : List Glyph) :
    (files.putFile names content).entryAt? names = some (.file content) := by
  simp [entryAt?, putFile, named]

/-- What is no directory is not above the working directory. -/
theorem isBase_of_entryAt?
    {files : Files}
    {names : List String}
    (below : files.entryAt? names ≠ some .directory) :
    isBase names = false := by
  rw [Bool.eq_false_iff]
  exact fun base => below (if_pos base)

theorem isBase_of_absent
    {files : Files}
    {names : List String}
    (absent : files.entryAt? names = none) :
    isBase names = false := by
  have below : files.entryAt? names ≠ some .directory := by simp [absent]
  exact isBase_of_entryAt? below

theorem entryAt?_putFile_of_ne
    (files : Files)
    {names other : List String}
    (different : other ≠ names)
    (content : List Glyph) :
    (files.putFile names content).entryAt? other = files.entryAt? other := by
  simp [entryAt?, putFile, Keyed.get?_put_of_ne different]

@[simp] theorem putFile_putFile
    (files : Files)
    (names : List String)
    (content later : List Glyph) :
    (files.putFile names content).putFile names later = files.putFile names later := by
  simp [putFile]

/-- A new file that is removed again leaves nothing behind. -/
theorem remove_putFile
    {files : Files}
    {names : List String}
    (absent : files.entryAt? names = none)
    (content : List Glyph) :
    (files.putFile names content).remove names = files := by
  have below := isBase_of_absent absent
  have unknown : names ∉ Keyed.keys files.entries := by
    rw [entryAt?, below] at absent
    exact Keyed.get?_eq_none_iff.1 absent
  exact congrArg Files.mk (Keyed.erase_put_of_absent unknown _)

/-- A new file is moved with its content. -/
theorem move_putFile
    {files : Files}
    {names : List String}
    (absent : files.entryAt? names = none)
    (content : List Glyph)
    (place : List String) :
    (files.putFile names content).move names place = files.putFile place content := by
  have below := isBase_of_absent absent
  rw [move, entryAt?_putFile files below]
  dsimp only
  rw [remove_putFile absent]

end Files
end ManagedTree
