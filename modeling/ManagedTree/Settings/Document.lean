import ManagedTree.Decimal.Shortest
import ManagedTree.Keyed

/-!
# Settings documents

A settings document is a table of named settings.  Tables come from headers, from
dotted names and from inline notation, and which of them may be extended depends
on where they come from: a table is never defined twice.
-/

namespace ManagedTree

/-- A floating-point value in a settings document. -/
inductive FloatSetting where
  /-- A finite number. -/
  | finite (number : Binary64)
  /-- An infinity. -/
  | infinite (negative : Bool)
  /-- No number. -/
  | undefined
deriving DecidableEq, Repr

/-- Where a table comes from. -/
inductive TableOrigin where
  /-- A header of its own, or the document itself. -/
  | header
  /-- A header of a table below it. -/
  | implied
  /-- A dotted name. -/
  | dotted
  /-- Inline notation. -/
  | inline
deriving DecidableEq, Repr

/-- A value in a settings document. -/
inductive Setting where
  /-- A text. -/
  | text (value : String)
  /-- An integer. -/
  | integer (value : Int)
  /-- A floating-point number. -/
  | real (value : FloatSetting)
  /-- The literal of a number that has no value: one out of range, or one without the
  digits of its base. -/
  | valueless
  /-- A truth value. -/
  | bool (value : Bool)
  /-- A date, a time or both. -/
  | moment
  /-- An array in brackets. -/
  | list (items : List Setting)
  /-- A table. -/
  | table (origin : TableOrigin) (members : List (String × Setting))
  /-- An array of tables with headers: the members of the earlier tables and of the
  last one. -/
  | tables (earlier : List (List (String × Setting))) (last : List (String × Setting))
deriving Repr

/-- A table under construction. -/
structure Table where
  /-- Where the table comes from. -/
  origin : TableOrigin
  /-- The members. -/
  members : List (String × Setting)
deriving Repr

namespace Table

/-- The table as a value. -/
def setting (table : Table) : Setting :=
  .table table.origin table.members

/-- The table with a value under a name. -/
def put (name : String) (value : Setting) (table : Table) : Table :=
  { table with members := Keyed.put name value table.members }

/-- Whether a table may be passed by a path of names: an inline one never, and by a
dotted name only those that no header defines. -/
def isPassable (dotted : Bool) : TableOrigin → Bool
  | .inline => false
  | .header => !dotted
  | .implied | .dotted => true

/-- Where a table comes from once a path has passed it: the dotted name that passes an
implied one defines it. -/
def passed (dotted : Bool) : TableOrigin → TableOrigin
  | .implied => if dotted then .dotted else .implied
  | origin => origin

/-- Edit the table at a path of names, making the tables that are absent.  In an array
of tables the path goes through the last one. -/
def edit (dotted : Bool) (change : Table → Option Table) : List String → Table → Option Table
  | [], table => change table
  | name :: path, table =>
    match Keyed.get? name table.members with
    | none => do
      let child ← edit dotted change path ⟨passed dotted .implied, []⟩
      some (table.put name child.setting)
    | some (.table origin members) =>
      if isPassable dotted origin then do
        let child ← edit dotted change path ⟨passed dotted origin, members⟩
        some (table.put name child.setting)
      else
        none
    | some (.tables earlier last) => do
      let child ← edit dotted change path ⟨.header, last⟩
      some (table.put name (.tables earlier child.members))
    | some _ => none

/-- Add a value under a dotted name: a path and a last name.  A table that a dotted
name defines takes further members by dotted names only, and other tables not so. -/
def insert (path : List String) (name : String) (value : Setting) : Table → Option Table :=
  edit true
    (fun table =>
      if (table.origin == .dotted) == path.isEmpty then none
      else
        match Keyed.get? name table.members with
        | some _ => none
        | none => some (table.put name value))
    path

/-- Define a table by a header. -/
def define (path : List String) (name : String) : Table → Option Table :=
  edit false
    (fun table =>
      match Keyed.get? name table.members with
      | none => some (table.put name (.table .header []))
      | some (.table .implied members) => some (table.put name (.table .header members))
      | some _ => none)
    path

/-- Add a table to an array of tables by a header. -/
def extend (path : List String) (name : String) : Table → Option Table :=
  edit false
    (fun table =>
      match Keyed.get? name table.members with
      | none => some (table.put name (.tables [] []))
      | some (.tables earlier last) => some (table.put name (.tables (earlier ++ [last]) []))
      | some _ => none)
    path

end Table
end ManagedTree
