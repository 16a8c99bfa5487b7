import ManagedTree.Decimal.Shortest
import ManagedTree.Node.Basic

/-!
# JSON texts of nodes

Two layouts: the compact one without any spaces, and the indented one with a
member or item to a line.
-/

namespace ManagedTree

/-- Floating-point numbers in JSON texts always have a fraction digit, and an exponent
below `0.00001` and from `1e+16` on.  Of two equally near texts the even one is written. -/
def jsonLayout : Binary64.Layout :=
  ⟨.even, some (-5), some 15⟩

/-- What sets the parts of a JSON text apart. -/
structure Spacing where
  /-- What stands before an item or a member at a level of nesting, and before the bracket
  that leads back to a level. -/
  line : Nat → List Char
  /-- What stands after a colon. -/
  colon : List Char

namespace Spacing

/-- Nothing sets the parts apart. -/
def dense : Spacing :=
  ⟨fun _ => [], []⟩

/-- Each item and member has a line, with two spaces for every level of nesting. -/
def lines : Spacing :=
  ⟨fun level => '\n' :: List.replicate (2 * level) ' ', [' ']⟩

end Spacing

/-- The decimal text of an integer. -/
def integerText (value : Int) : List Char :=
  (if value < 0 then ['-'] else []) ++ Nat.toDigits 10 value.natAbs

/-- The JSON text of a number. -/
def Number.json : Number → List Char
  | .integer value => integerText value
  | .floating value => value.text jsonLayout

namespace Node

/-- The JSON spelling of one character of a string. -/
def escape (character : Char) : List Char :=
  if character = '"' then ['\\', '"']
  else if character = '\\' then ['\\', '\\']
  else if character = '\x08' then ['\\', 'b']
  else if character = '\x0c' then ['\\', 'f']
  else if character = '\n' then ['\\', 'n']
  else if character = '\r' then ['\\', 'r']
  else if character = '\t' then ['\\', 't']
  else if character.toNat < 0x20 then
    ['\\', 'u', '0', '0', (character.toNat / 16).digitChar, (character.toNat % 16).digitChar]
  else
    [character]

/-- The JSON string of a text. -/
def jsonString (text : String) : List Char :=
  '"' :: text.toList.flatMap escape ++ ['"']

mutual

/-- The JSON text of a node at a level of nesting. -/
def json (spacing : Spacing) (level : Nat) : Node → List Char
  | .null => ['n', 'u', 'l', 'l']
  | .bool true => ['t', 'r', 'u', 'e']
  | .bool false => ['f', 'a', 'l', 's', 'e']
  | .number value => value.json
  | .text value => jsonString value
  | .list [] => ['[', ']']
  | .list (item :: items) =>
    '[' :: (spacing.line (level + 1) ++
      (json spacing (level + 1) item ++ jsonItems spacing level items))
  | .object [] => ['{', '}']
  | .object ((name, member) :: members) =>
    '{' :: (spacing.line (level + 1) ++ (jsonString name ++ ':' :: (spacing.colon ++
      (json spacing (level + 1) member ++ jsonMembers spacing level members))))

/-- The items after the first one of a list at a level, and the closing bracket. -/
def jsonItems (spacing : Spacing) (level : Nat) : List Node → List Char
  | [] => spacing.line level ++ [']']
  | item :: items =>
    ',' :: (spacing.line (level + 1) ++
      (json spacing (level + 1) item ++ jsonItems spacing level items))

/-- The members after the first one of an object at a level, and the closing brace. -/
def jsonMembers (spacing : Spacing) (level : Nat) : List (String × Node) → List Char
  | [] => spacing.line level ++ ['}']
  | (name, member) :: members =>
    ',' :: (spacing.line (level + 1) ++ (jsonString name ++ ':' :: (spacing.colon ++
      (json spacing (level + 1) member ++ jsonMembers spacing level members))))

end

/-- The compact JSON text of a node, as it stands in messages. -/
def compact (node : Node) : String :=
  String.ofList (node.json .dense 0)

example : compact (.object [("b", .list [.null, integer (-5)]), ("a", .text "q\"\x01")]) =
    "\x7b\"b\":[null,-5],\"a\":\"q\\\"\\u0001\"\x7d" := by
  decide +kernel

end Node
end ManagedTree
