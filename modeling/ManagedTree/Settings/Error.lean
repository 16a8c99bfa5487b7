import ManagedTree.Files

/-!
# Errors about settings
-/

namespace ManagedTree

/-- What is wrong with a settings text. -/
inductive SettingsFlaw where
  /-- The text is not a document of the settings language. -/
  | unreadable
  /-- The document does not have the shape of settings. -/
  | misshapen (description : String)
deriving DecidableEq, Repr

/-- Why there are no settings. -/
inductive SettingsError where
  /-- A settings text has a flaw. -/
  | flawed (flaw : SettingsFlaw)
  /-- A settings file cannot be read. -/
  | file (path : String) (error : FileError)
  /-- The name of the creation operation is blank. -/
  | emptyCreationOperation
deriving DecidableEq, Repr

/-- The wording of a flaw.  That of an unreadable text shows the text `a = `. -/
def SettingsFlaw.message : SettingsFlaw → String
  | .unreadable =>
    "TOML parse error at line 1, column 5\n  |\n1 | a = \n  |     ^\nstring values must be quoted, expected literal string\n"
  | .misshapen description => description

/-- The wording of a settings error. -/
def SettingsError.message : SettingsError → String
  | .flawed flaw => s!"TOML parse error: {flaw.message}"
  | .file path error => s!"I/O error reading {path}: {error.message}"
  | .emptyCreationOperation => "creation-operation must not be empty"

end ManagedTree
