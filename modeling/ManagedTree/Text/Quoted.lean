import ManagedTree.Text.Shapeless

/-!
# Quoted texts

A text between double quotes as diagnostics show it: quotes and backslashes are
escaped, line breaks, tabs and the null character have letters, and a character
without a shape of its own is given by its code point.
-/

namespace ManagedTree
namespace Text

/-- A quoted text's spelling of one character. -/
def quotedCharacter (character : Char) : List Char :=
  if character = '\x00' then ['\\', '0']
  else if character = '\t' then ['\\', 't']
  else if character = '\r' then ['\\', 'r']
  else if character = '\n' then ['\\', 'n']
  else if character = '"' then ['\\', '"']
  else if character = '\\' then ['\\', '\\']
  else if isShapeless character then
    ['\\', 'u', '{'] ++ Nat.toDigits 16 character.toNat ++ ['}']
  else
    [character]

/-- A text between double quotes. -/
def quoted (text : String) : String :=
  String.ofList ('"' :: text.toList.flatMap quotedCharacter ++ ['"'])

end Text
end ManagedTree
