import ManagedTree.Operation
import ManagedTree.Registry
import ManagedTree.Settings.Error
import ManagedTree.Settings.Plain
import ManagedTree.Settings.Reader
import ManagedTree.Text.Quoted

/-!
# Settings

The settings of a controller, and how they are taken from a settings document.
Everything has a default; names that are not known are refused, and of several
flaws the one under the least name counts.  Items that no setting is taken from are
never looked at, but a document with a flaw is unreadable as a whole unless it is plain.
-/

namespace ManagedTree

/-- The settings of a controller. -/
structure Settings where
  /-- The name of the operation that may create the node at its address. -/
  creationOperation : String
  /-- What happens to duplicate registrations. -/
  duplicatePolicy : DuplicatePolicy
  /-- The file that keeps the tree, if one does. -/
  path : Option String
  /-- Whether that file is indented. -/
  indented : Bool
deriving DecidableEq, Repr

namespace Settings

/-- The settings of an empty document. -/
def default : Settings :=
  ⟨Operation.add, .reject, none, false⟩

/-- Floating-point numbers in descriptions never have an exponent.  Of two equally near
texts the greater one is written. -/
def numberLayout : Binary64.Layout :=
  ⟨.greater, none, none⟩

/-- The wording of what a floating-point value is. -/
def floatMessage : FloatSetting → String
  | .finite number => String.ofList (number.text numberLayout)
  | .infinite false => "inf"
  | .infinite true => "-inf"
  | .undefined => "NaN"

/-- The flaw of a value of the wrong type. -/
def mismatch (found : Setting) (expected : String) : SettingsFlaw :=
  let wrong (type : String) : SettingsFlaw :=
    .misshapen s!"invalid type: {type}, expected {expected}"
  match found with
  | .text value => wrong ("string " ++ Text.quoted value)
  | .integer value => wrong s!"integer `{value}`"
  | .real value => wrong s!"floating point `{floatMessage value}`"
  | .bool true => wrong "boolean `true`"
  | .bool false => wrong "boolean `false`"
  | .valueless => .unreadable
  | .moment => wrong "map"
  | .list _ | .tables _ _ => wrong "sequence"
  | .table _ _ => wrong "map"

/-- The name of a value's type. -/
def typeName : Setting → String
  | .text _ => "string"
  | .integer _ => "integer"
  | .real _ => "float"
  | .valueless => "number"
  | .bool _ => "boolean"
  | .moment => "datetime"
  | .list _ | .tables _ _ => "array"
  | .table _ _ => "table"

/-- The text that a value has to be. -/
def readText (expected : String) : Setting → Except SettingsFlaw String
  | .text value => .ok value
  | other => .error (mismatch other expected)

/-- The truth value that a value has to be. -/
def readBool : Setting → Except SettingsFlaw Bool
  | .bool value => .ok value
  | other => .error (mismatch other "a boolean")

/-- The policy of a name. -/
def readPolicyName (name : String) : Except SettingsFlaw DuplicatePolicy :=
  if name = "reject" then .ok .reject
  else if name = "last-wins" then .ok .lastWins
  else .error (.misshapen s!"unknown variant `{name}`, expected `reject` or `last-wins`")

/-- Check that the value under a policy's name is empty. -/
def checkEmpty : Setting → Except SettingsFlaw Unit
  | .table _ [] | .list [] => .ok ()
  | .table _ _ => .error (.misshapen "expected empty table")
  | .list _ | .tables _ _ => .error (.misshapen "expected empty array")
  | other => .error (.misshapen s!"expected table, found {typeName other}")

/-- The policy that a value denotes: a name, or a table with the name and nothing under
it. -/
def readPolicy : Setting → Except SettingsFlaw DuplicatePolicy
  | .text name => readPolicyName name
  | .table _ [] => .error (.misshapen "wanted exactly 1 element, found 0 elements")
  | .table _ [(name, value)] => do
    let policy ← readPolicyName name
    checkEmpty value
    .ok policy
  | .table _ _ => .error (.misshapen "wanted exactly 1 element, more than 1 element")
  | _ => .error (.misshapen "wanted string or table")

/-- The members of a table in ascending order of their names. -/
def ascending (members : List (String × Setting)) : List (String × Setting) :=
  members.mergeSort fun left right => left.1 ≤ right.1

/-- The settings with one more member of the table about the file. -/
def withFileMember (settings : Settings) (name : String) (value : Setting) :
    Except SettingsFlaw Settings :=
  if name = "path" then do
    let path ← readText "path string" value
    .ok { settings with path := some path }
  else if name = "pretty" then do
    let indented ← readBool value
    .ok { settings with indented }
  else
    .error (.misshapen s!"unknown field `{name}`, expected `path` or `pretty`")

/-- The settings with those about the file: a table, or an array of the values in order.
A date or time counts as a table that holds its text. -/
def withFile (settings : Settings) : Setting → Except SettingsFlaw Settings
  | .table _ members =>
    (ascending members).foldlM
      (fun settings (name, value) => settings.withFileMember name value) settings
  | .list items =>
    ((["path", "pretty"].zip items)).foldlM
      (fun settings (name, value) => settings.withFileMember name value) settings
  | .tables earlier last =>
    let items := (earlier ++ [last]).map (Setting.table .header)
    ((["path", "pretty"].zip items)).foldlM
      (fun settings (name, value) => settings.withFileMember name value) settings
  | .moment => settings.withFileMember momentField .moment
  | other => .error (mismatch other "struct PersistenceConfig")

/-- The settings with one more member of the document. -/
def withMember (settings : Settings) (name : String) (value : Setting) :
    Except SettingsFlaw Settings :=
  if name = "creation-operation" then do
    let creationOperation ← readText "a string" value
    .ok { settings with creationOperation }
  else if name = "duplicate-policy" then do
    let duplicatePolicy ← readPolicy value
    .ok { settings with duplicatePolicy }
  else if name = "persistence" then
    settings.withFile value
  else
    .error (.misshapen
      s!"unknown field `{name}`, expected one of `creation-operation`, `duplicate-policy`, `persistence`")

/-- The settings that the members of a document denote. -/
def ofMembers (members : List (String × Setting)) : Except SettingsFlaw Settings :=
  (ascending members).foldlM
    (fun settings (name, value) => settings.withMember name value) default

/-- The settings that a document denotes. -/
def ofDocument (document : Table) : Except SettingsFlaw Settings :=
  (ofMembers document.members).mapError fun flaw =>
    if document.isPlain then flaw else .unreadable

/-- The settings that a text denotes. -/
def ofText (text : List Char) : Except SettingsError Settings :=
  match Table.ofText? text with
  | none => .error (.flawed .unreadable)
  | some document =>
    match ofDocument document with
    | .error flaw => .error (.flawed flaw)
    | .ok settings =>
      if (Text.trim settings.creationOperation.toList).isEmpty then
        .error .emptyCreationOperation
      else
        .ok settings

/-- The settings in a file. -/
def load (files : Files) (path : String) : Except SettingsError Settings :=
  match files.readText path with
  | .error error => .error (.file path error)
  | .ok text => ofText text

end Settings
end ManagedTree
