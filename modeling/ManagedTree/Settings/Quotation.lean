import ManagedTree.Settings.Scalar

/-!
# Quoted texts of settings documents

Texts between single quotes are taken as they are; between double quotes a
backslash starts an escape.  Texts between three quotes may span lines: a line
break right after the opening quotes does not count, and a backslash at the end of
a line skips all blanks and line breaks that follow.
-/

namespace ManagedTree
namespace Quotation

/-- Whether a character is a blank within a line. -/
def isBlank (character : Char) : Bool :=
  character == ' ' || character == '\t'

/-- Whether a character may stand in a text or a comment. -/
def isPlain (character : Char) : Bool :=
  character == '\t' || (0x20 ≤ character.toNat && character.toNat != 0x7f)

/-- The text after a line break. -/
def newLine? : List Char → Option (List Char)
  | '\n' :: rest => some rest
  | '\r' :: '\n' :: rest => some rest
  | _ => none

/-- A text without one leading line break. -/
def dropNewLine (input : List Char) : List Char :=
  (newLine? input).getD input

/-- The character that hexadecimal digits stand for. -/
def coded? (digits : List Char) : Option Char :=
  if digits.all Scalar.isHexDigit then
    let point := Scalar.natural 16 digits
    if valid : point.isValidChar then some (Char.ofNatAux point valid) else none
  else
    none

/-- The character that an escape without digits stands for. -/
def escaped? : Char → Option Char
  | 'b' => some '\x08'
  | 't' => some '\t'
  | 'n' => some '\n'
  | 'f' => some '\x0c'
  | 'r' => some '\r'
  | 'e' => some '\x1b'
  | '"' => some '"'
  | '\\' => some '\\'
  | _ => none

/-- The character that the text after a backslash stands for, and the text after it. -/
def escape? : List Char → Option (Char × List Char)
  | 'x' :: a :: b :: rest => (coded? [a, b]).map (·, rest)
  | 'u' :: a :: b :: c :: d :: rest => (coded? [a, b, c, d]).map (·, rest)
  | 'U' :: a :: b :: c :: d :: e :: f :: g :: h :: rest =>
    (coded? [a, b, c, d, e, f, g, h]).map (·, rest)
  | mark :: rest => (escaped? mark).map (·, rest)
  | [] => none

/-- Whether only blanks are left of the line. -/
def endsLine (input : List Char) : Bool :=
  (newLine? (input.dropWhile isBlank)).isSome

/-- A text without the blanks and line breaks that it starts with. -/
def skipBreaks : List Char → List Char
  | ' ' :: rest => skipBreaks rest
  | '\t' :: rest => skipBreaks rest
  | '\n' :: rest => skipBreaks rest
  | '\r' :: '\n' :: rest => skipBreaks rest
  | rest => rest

/-- The text up to closing quotes, one or two of which may belong to the text. -/
def closed? (quote : Char) : List Char → Option (List Char × List Char)
  | a :: b :: c :: rest =>
    if a = quote ∧ b = quote ∧ c = quote then
      let extra := (rest.take 2).takeWhile (· == quote)
      some (extra, rest.drop extra.length)
    else
      none
  | _ => none

/-- The text of one line up to a quote, and the text after the quote. -/
def readLine (quote : Char) : Nat → List Char → Option (List Char × List Char)
  | 0, _ => none
  | _ + 1, [] => none
  | budget + 1, character :: rest =>
    if character = quote then
      some ([], rest)
    else if character = '\\' ∧ quote = '"' then do
      let (meant, rest) ← escape? rest
      let (text, rest) ← readLine quote budget rest
      some (meant :: text, rest)
    else if isPlain character then do
      let (text, rest) ← readLine quote budget rest
      some (character :: text, rest)
    else
      none

/-- The text of several lines up to three quotes, and the text after the quotes. -/
def readLines (quote : Char) : Nat → List Char → Option (List Char × List Char)
  | 0, _ => none
  | budget + 1, input =>
    match closed? quote input, input with
    | some closing, _ => some closing
    | none, [] => none
    | none, '\r' :: '\n' :: rest => do
      let (text, rest) ← readLines quote budget rest
      some ('\r' :: '\n' :: text, rest)
    | none, character :: rest =>
      if character = '\\' ∧ quote = '"' then
        if endsLine rest then
          readLines quote budget (skipBreaks rest)
        else do
          let (meant, rest) ← escape? rest
          let (text, rest) ← readLines quote budget rest
          some (meant :: text, rest)
      else if character = '\n' ∨ isPlain character then do
        let (text, rest) ← readLines quote budget rest
        some (character :: text, rest)
      else
        none

/-- The quoted text of one line that a text starts with, and the text after it. -/
def read : List Char → Option (List Char × List Char)
  | '"' :: rest => readLine '"' (rest.length + 1) rest
  | '\'' :: rest => readLine '\'' (rest.length + 1) rest
  | _ => none

/-- The quoted text that a text starts with, perhaps of several lines, and the text
after it. -/
def readAny : List Char → Option (List Char × List Char)
  | '"' :: '"' :: '"' :: rest => readLines '"' (rest.length + 1) (dropNewLine rest)
  | '\'' :: '\'' :: '\'' :: rest => readLines '\'' (rest.length + 1) (dropNewLine rest)
  | input => read input

end Quotation
end ManagedTree
