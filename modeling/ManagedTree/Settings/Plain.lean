import ManagedTree.Settings.Scalar

/-!
# Plain values of settings documents

A document is plain when all of it can be read without knowing what it is for.  A
literal without a value stands in the way of that, and so does a table that is said
to be a date or time and does not hold the text of one.
-/

namespace ManagedTree

/-- The name under which a table holds the text of a date or time, when it is the least
name of the table. -/
def momentField : String := "$__toml_private_datetime"

/-- Whether members are said to be a date or time. -/
def claimMoment (members : List (String × Setting)) : Bool :=
  members.any (fun (name, _) => name == momentField) &&
    members.all fun (name, _) => momentField ≤ name

/-- Whether members hold the text of a date or time. -/
def holdMoment (members : List (String × Setting)) : Bool :=
  match Keyed.get? momentField members with
  | some (.text value) => Scalar.isMoment value.toList
  | _ => false

mutual

/-- Whether a value is plain. -/
def Setting.isPlain : Setting → Bool
  | .valueless => false
  | .list items => arePlain items
  | .table _ members => if claimMoment members then holdMoment members else membersArePlain members
  | .tables earlier last => tablesArePlain earlier &&
    if claimMoment last then holdMoment last else membersArePlain last
  | _ => true

/-- Whether every item of an array is plain. -/
def arePlain : List Setting → Bool
  | [] => true
  | item :: items => item.isPlain && arePlain items

/-- Whether every member of a table is plain. -/
def membersArePlain : List (String × Setting) → Bool
  | [] => true
  | (_, value) :: members => value.isPlain && membersArePlain members

/-- Whether every table of an array is plain. -/
def tablesArePlain : List (List (String × Setting)) → Bool
  | [] => true
  | members :: tables =>
    (if claimMoment members then holdMoment members else membersArePlain members) &&
      tablesArePlain tables

end

/-- Whether every member of a document is plain. -/
def Table.isPlain (document : Table) : Bool :=
  membersArePlain document.members

end ManagedTree
