import ManagedTree.Files
import ManagedTree.Node.Printer
import ManagedTree.Node.Reader
import ManagedTree.Run

/-!
# Archives

An archive keeps the tree in one file as a JSON document.  A store writes a new file
beside it, which takes the file's place in one step; a new file that cannot take it
is removed again.
-/

namespace ManagedTree

/-- Why a tree cannot be stored or loaded. -/
inductive ArchiveError where
  /-- A file cannot be read or written. -/
  | file (path : String) (error : FileError)
  /-- A file does not hold a tree. -/
  | unreadable (flaw : JsonFlaw)
  /-- A document cannot be written. -/
  | unwritten (error : FileError)
  /-- The archive does not accept the tree. -/
  | refused (reason : String)
deriving DecidableEq, Repr

/-- The wording of a flaw at the very start of a JSON text.  One further on is worded by where and
what it is. -/
def JsonFlaw.message : JsonFlaw → String
  | .incomplete => "EOF while parsing a value at line 1 column 0"
  | .malformed => "expected value at line 1 column 1"

/-- The wording of an archive error. -/
def ArchiveError.message : ArchiveError → String
  | .file path error => s!"I/O error on {path}: {error.message}"
  | .unreadable flaw => s!"model serialization failed: {flaw.message}"
  | .unwritten error => s!"model serialization failed: {error.message}"
  | .refused reason => s!"persistence backend unavailable: {reason}"

/-- A file that keeps the tree. -/
structure Archive where
  /-- The path of the file. -/
  path : String
  /-- Whether the document has a line for every member and item. -/
  indented : Bool
deriving DecidableEq, Repr

namespace Archive

/-- The reversed text of a path's components without trailing slashes and dots. -/
def dropEmptyTail : List Char → List Char
  | '/' :: rest => dropEmptyTail rest
  | '.' :: '/' :: rest => dropEmptyTail ('/' :: rest)
  | rest => rest

/-- The path of the directory that a path's last component is in: the path without
that component.  Without a slash that is a dot, and with nothing before it the root. -/
def parent (path : String) : String :=
  let front := (dropEmptyTail path.toList.reverse).dropWhile (· ≠ '/')
  let above := (dropEmptyTail front).reverse
  if front.isEmpty then "."
  else if above.isEmpty then Files.root
  else String.ofList above

/-- The path of a name in the directory at a path. -/
def join (directory name : String) : String :=
  if directory.toList.getLast? = some '/' then directory ++ name else s!"{directory}/{name}"

/-- How the parts of an archive's documents are set apart. -/
def spacing (archive : Archive) : Spacing :=
  if archive.indented then .lines else .dense

/-- The document of a tree, without the end of its last line. -/
def text (archive : Archive) (tree : Node) : List Char :=
  tree.json archive.spacing 0

/-- The document of a tree. -/
def document (archive : Archive) (tree : Node) : List Char :=
  archive.text tree ++ ['\n']

/-- The stages of a store. -/
inductive Stage where
  /-- A new file is made in the file's directory. -/
  | prepare
  /-- The text of the tree is written to it. -/
  | write
  /-- The last line of the document is ended. -/
  | finish
  /-- What was written is brought to the device. -/
  | settle
  /-- The new file takes the file's place. -/
  | replace
deriving DecidableEq, Repr

/-- What a device does during a store. -/
structure Device where
  /-- The error that it gives at a stage, if it gives one. -/
  error? : Stage → Option FileError
  /-- The names that it tries for a new file, in this order. -/
  names : List String
  /-- How many characters it takes before it gives an error in writing. -/
  taken : Nat

/-- A device without errors. -/
def sound : Device where
  error? _ := none
  names := (List.range 10).map fun number => s!".tmp00000{number}"
  taken := 0

/-- The bytes that a path gets longer by the slash and the name of a new file. -/
def preparedBytes : Nat := 11

/-- The names of the directory at a path, when a new file can be made there. -/
def directoryFor (files : Files) (path : String) : Except FileError (List String) := do
  Files.checkPath path
  if Files.pathLimit < path.utf8ByteSize + preparedBytes then
    .error .longName
  let names ← files.locate path
  match files.entryAt? names with
  | none => .error .notFound
  | some (.file _) => .error .notDirectory
  | some .directory => .ok names

/-- The last component of a path, without the slashes after it, and the components before
it.  The root has none. -/
def lastComponent? (path : String) : Option (String × List String) :=
  match (Files.components path).reverse.dropWhile (· = "") with
  | [] => none
  | last :: front => some (last, front.reverse)

/-- The names that new content can be put under when it takes a path's place.  A directory
that the path only passes or stays in is in use, and a path that ends in a slash wants
a directory. -/
def target (files : Files) (path : String) : Except FileError (List String) := do
  Files.checkPath path
  match lastComponent? path with
  | none => .error .busy
  | some (last, front) =>
    let names ← files.walk (Files.start path) (front ++ [""])
    if last = "." ∨ last = Files.upward then .error .busy
    else if Files.componentLimit < last.utf8ByteSize then .error .longName
    else if path.toList.getLast? = some '/' then .error .notDirectory
    else
      match files.entryAt? (names ++ [last]) with
      | some .directory => .error .isDirectory
      | _ => .ok (names ++ [last])

/-- Do a stage of a store, unless the device gives an error there. -/
def Device.attempt {α : Type}
    (device : Device) (stage : Stage) (error : FileError → ArchiveError)
    (work : Files → Except FileError α) : Run ArchiveError Files α := do
  let files ← get
  match device.error? stage with
  | some early => throw (error early)
  | none => Run.ending ((work files).mapError error)

/-- Make a new file in the directory at a path, under the first name that is free there:
its name, and the names that lead to it. -/
def Device.prepare (device : Device) (directory : String) :
    Run ArchiveError Files (String × List String) := do
  let (name, names) ← device.attempt .prepare (.file directory) fun files => do
    let above ← directoryFor files directory
    match device.names.find? fun name => (files.entryAt? (above ++ [name])).isNone with
    | none => .error (.described "too many temporary files exist")
    | some name => .ok (name, above ++ [name])
  modify fun files => files.putFile names []
  return (name, names)

/-- Write to the end of a new file.  Before an error some of it may have been written. -/
def Device.write
    (device : Device) (stage : Stage) (error : FileError → ArchiveError)
    (names : List String) (before more : List Char) : Run ArchiveError Files Unit :=
  match device.error? stage with
  | some early => do
    modify fun files => files.putFile names (Glyph.ofText (before ++ more.take device.taken))
    throw (error early)
  | none => modify fun files => files.putFile names (Glyph.ofText (before ++ more))

/-- Fill a new file with the document of a tree, and put it in the file's place. -/
def fill (archive : Archive) (device : Device) (tree : Node) (path : String)
    (names : List String) : Run ArchiveError Files Unit := do
  device.write .write .unwritten names [] (archive.text tree)
  device.write .finish (.file path) names (archive.text tree) ['\n']
  device.attempt .settle (.file path) fun _ => .ok ()
  let place ← device.attempt .replace (.file archive.path) fun files => target files archive.path
  modify fun files => files.move names place

/-- Do work with a new file, which is removed when the work ends early. -/
def discarding (names : List String) (work : Run ArchiveError Files Unit) :
    Run ArchiveError Files Unit :=
  Run.of fun files =>
    match work.on files with
    | (.ok (), files) => (.ok (), files)
    | (.error error, files) => (.error error, files.remove names)

/-- Store a tree. -/
def store (archive : Archive) (device : Device) (tree : Node) : Run ArchiveError Files Unit := do
  let directory := parent archive.path
  let (name, names) ← device.prepare directory
  discarding names (archive.fill device tree (join directory name) names)

/-- Load the tree that was stored last, if there is one. -/
def load (archive : Archive) (files : Files) : Except ArchiveError (Option Node) :=
  match files.read archive.path with
  | .error .notFound => .ok none
  | .error error => .error (.file archive.path error)
  | .ok content =>
    match Json.read content with
    | .ok tree => .ok (some tree)
    | .error flaw => .error (.unreadable flaw)

end Archive
end ManagedTree
