import ManagedTree.Handler
import ManagedTree.Interrupt
import ManagedTree.Registry
import ManagedTree.Settings
import ManagedTree.Text.Quoted

/-!
# Diagnostic texts

What values look like in diagnostics: the name of a type, and its fields between
braces.  Two dots stand for fields that are not shown.
-/

namespace ManagedTree
namespace Diagnostics

/-- A value between braces. -/
def braced (name : String) (fields : List String) : String :=
  name ++ " \x7b " ++ ", ".intercalate fields ++ " \x7d"

/-- A field. -/
def field (name value : String) : String :=
  s!"{name}: {value}"

/-- A policy. -/
def policy : DuplicatePolicy → String
  | .reject => "Reject"
  | .lastWins => "LastWins"

/-- A truth value. -/
def bool (value : Bool) : String :=
  if value then "true" else "false"

/-- A value that may be absent. -/
def optional : Option String → String
  | none => "None"
  | some value => s!"Some({value})"

/-- A registry. -/
def registry {H : Type} (registry : Registry H) : String :=
  braced "OperationRegistry"
    [field "policy" (policy registry.policy), field "len" (toString registry.size)]

/-- Settings. -/
def settings (settings : Settings) : String :=
  let file := braced "PersistenceConfig"
    [field "path" (optional (settings.path.map Text.quoted)), field "pretty" (bool settings.indented)]
  braced "ControllerConfig"
    [field "creation_operation" (Text.quoted settings.creationOperation),
      field "duplicate_policy" (policy settings.duplicatePolicy), field "persistence" file]

/-- A controller with a registry and settings. -/
def controller {H : Type} (handlers : Registry H) (chosen : Settings) : String :=
  braced "BasicModelController"
    [field "registry" (registry handlers), field "config" (settings chosen), ".."]

/-- A controller that is being put together. -/
def builder (chosen : Settings) : String :=
  braced "ModelControllerBuilder" [field "config" (settings chosen), ".."]

/-- What stores the tree. -/
def trigger : String :=
  braced "PersistenceTrigger" [".."]

/-- A handler with a worker thread. -/
def threaded (name : String) : String :=
  braced "ThreadedHandler" [field "name" (Text.quoted name), ".."]

/-- An element of an address. -/
def element (element : Element) : String :=
  braced "PathElement"
    [field "key" (Text.quoted element.key), field "value" (Text.quoted element.value)]

/-- An address. -/
def address (address : Address) : String :=
  let elements := ", ".intercalate (address.elements.map element)
  braced "PathAddress" [field "elements" s!"[{elements}]"]

/-- The context of an operation. -/
def context (context : Context) : String :=
  let attachments := if context.attachment.isSome then "1" else "0"
  braced "OperationContext"
    [field "address" (address context.address), field "attachments" attachments, ".."]

/-- The interrupt state of a thread. -/
def interrupter {ω : Type} (interrupt : Interrupt ω) : String :=
  braced "Interrupter" [field "interrupted" (bool interrupt.flag)]

end Diagnostics
end ManagedTree
