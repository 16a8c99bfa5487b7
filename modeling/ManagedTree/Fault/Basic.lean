import ManagedTree.Archive
import ManagedTree.Failure.Basic
import ManagedTree.Registry
import ManagedTree.Settings.Error
import ManagedTree.TreeError

/-!
# Faults

A fault is an error as a handler raises it: an error of a known type, an error of
which only the wording is known, or one of these with layers around it.
-/

namespace ManagedTree

/-- Why a blocking execution has no result. -/
inductive BlockingError where
  /-- The operation failed. -/
  | failed (failure : Failure)
  /-- The operation was cancelled. -/
  | cancelled
deriving DecidableEq, Repr

/-- The wording of a blocking error. -/
def BlockingError.message : BlockingError → String
  | .failed failure => s!"operation failed: {failure.text}"
  | .cancelled => "operation cancelled"

/-- Why a text is no integer. -/
inductive IntegerFlaw where
  /-- The text is empty. -/
  | empty
  /-- A character is no digit. -/
  | invalid
  /-- The number is too large. -/
  | overflow
  /-- The number is too small. -/
  | underflow
deriving DecidableEq, Repr

/-- Why a text is no floating-point number. -/
inductive FloatFlaw where
  /-- The text is empty. -/
  | empty
  /-- The text is no number. -/
  | invalid
deriving DecidableEq, Repr

/-- An error of one of the types that formats and files have. -/
inductive FormatError where
  /-- A file cannot be read or written. -/
  | file (error : FileError)
  /-- A text is no JSON document, in the reader's wording: as at the start of the text when there
  is no other. -/
  | json (flaw : JsonFlaw) (wording : String := flaw.message)
  /-- A JSON document cannot be written. -/
  | unwritten (error : FileError)
  /-- A text is no settings document. -/
  | settings (flaw : SettingsFlaw)
  /-- A value cannot be shown. -/
  | display
  /-- A text is no integer. -/
  | integer (flaw : IntegerFlaw)
  /-- A text is no floating-point number. -/
  | float (flaw : FloatFlaw)
  /-- Bytes hold one that is not part of any encoded character. -/
  | strayByte (index : Nat)
  /-- Bytes end within an encoded character. -/
  | cutShort (index : Nat)
deriving DecidableEq, Repr

/-- The wording of an integer flaw. -/
def IntegerFlaw.message : IntegerFlaw → String
  | .empty => "cannot parse integer from empty string"
  | .invalid => "invalid digit found in string"
  | .overflow => "number too large to fit in target type"
  | .underflow => "number too small to fit in target type"

/-- The wording of a floating-point flaw. -/
def FloatFlaw.message : FloatFlaw → String
  | .empty => "cannot parse float from empty string"
  | .invalid => "invalid float literal"

namespace FormatError

/-- The wording of a format error. -/
def message : FormatError → String
  | .file error => error.message
  | .json _ wording => wording
  | .unwritten error => error.message
  | .settings flaw => flaw.message
  | .display => "an error occurred when formatting an argument"
  | .integer flaw => flaw.message
  | .float flaw => flaw.message
  | .strayByte index => s!"invalid utf-8 sequence of 1 bytes from index {index}"
  | .cutShort index => s!"incomplete utf-8 byte sequence from index {index}"

/-- The kind of a format error. -/
def kind : FormatError → String
  | .file _ => "core::io::error::Error"
  | .json _ _ => "serde_json::error::Error"
  | .unwritten _ => "serde_json::error::Error"
  | .settings _ => "toml::de::error::Error"
  | .display => "core::fmt::Error"
  | .integer _ => "core::num::error::ParseIntError"
  | .float _ => "core::num::float_parse::ParseFloatError"
  | .strayByte _ => "core::str::error::Utf8Error"
  | .cutShort _ => "alloc::string::FromUtf8Error"

end FormatError

mutual

/-- An error as a handler raises it. -/
inductive Fault where
  /-- An error of which only the wording is known. -/
  | plain (message : String)
  /-- An error of which only the wording is known, around the error that caused it. -/
  | layer (message : String) (inner : Fault)
  /-- An error that is reported under another kind. -/
  | kinded (kind : String) (inner : Fault)
  /-- An error about an address, an operation or a place in the tree. -/
  | tree (error : TreeError)
  /-- A registration that was refused. -/
  | registry (error : RegistryError)
  /-- An operation that could not be dispatched. -/
  | dispatch (error : DispatchError)
  /-- A blocking execution without a result. -/
  | blocking (error : BlockingError)
  /-- A tree that could not be stored or loaded. -/
  | archive (error : ArchiveError)
  /-- Settings that could not be read. -/
  | settings (error : SettingsError)
  /-- An error of a format or a file. -/
  | format (error : FormatError)

/-- Why an operation could not be dispatched. -/
inductive DispatchError where
  /-- The operation is malformed, or its address does not resolve. -/
  | tree (error : TreeError)
  /-- There is no handler for the operation at its address. -/
  | noHandler (address name : String)
  /-- There is no context for the operation. -/
  | context (inner : Fault)
  /-- The handler raised an error. -/
  | handler (inner : Fault)
  /-- The handler, or what prepares it, panicked. -/
  | panic (message : String)

end

deriving instance Repr for Fault, DispatchError

instance : Inhabited Fault := ⟨.plain ""⟩

instance : Inhabited DispatchError := ⟨.panic ""⟩

mutual

/-- The wording of a fault. -/
def Fault.message : Fault → String
  | .plain message => message
  | .layer message _ => message
  | .kinded _ inner => inner.message
  | .tree error => error.message
  | .registry error => error.message
  | .dispatch error => error.message
  | .blocking error => error.message
  | .archive error => error.message
  | .settings error => error.message
  | .format error => error.message

/-- The wording of a dispatch error. -/
def DispatchError.message : DispatchError → String
  | .tree error => error.message
  | .noHandler address name => s!"no handler for operation '{name}' at {address}"
  | .context inner => s!"failed to build operation context: {inner.message}"
  | .handler inner => s!"handler failed: {inner.message}"
  | .panic message => s!"handler panicked: {message}"

end

namespace Fault

/-- The kind of errors of which only the wording is known. -/
def unknownKind : String := "error"

/-- The kind of a fault. -/
def kind : Fault → String
  | .plain _ => unknownKind
  | .layer _ _ => unknownKind
  | .kinded kind _ => kind
  | .tree _ => "steward_model::error::ModelError"
  | .registry _ => "steward_handler_registry::error::RegistryError"
  | .dispatch _ => "steward_controller::error::DispatchError"
  | .blocking _ => "steward_controller::error::SyncExecutionError"
  | .archive _ => "steward_controller::error::PersistenceError"
  | .settings _ => "steward_controller::error::ConfigError"
  | .format error => error.kind

end Fault
end ManagedTree
