import ManagedTree.Settings.Quotation

/-!
# Reading settings documents

A document is read line by line: comments, headers, and names with values.  Arrays
and inline tables may span lines and end in a comma; only a dotted name stays in its
line.  They may be nested 80 deep, and a dotted name may have 80 parts.
-/

namespace ManagedTree
namespace Table

/-- Whether a character may occur in a name without quotes. -/
def isNameCharacter (character : Char) : Bool :=
  character.isAlphanum || character == '_' || character == '-'

/-- A text without leading blanks. -/
def skipBlanks (input : List Char) : List Char :=
  input.dropWhile Quotation.isBlank

/-- A text without leading blanks, line breaks and comments. -/
def skipFiller (inComment : Bool) : List Char → Option (List Char)
  | [] => some []
  | '\n' :: rest => skipFiller false rest
  | '\r' :: '\n' :: rest => skipFiller false rest
  | character :: rest =>
    if inComment then
      if Quotation.isPlain character then skipFiller true rest else none
    else if character = '#' then skipFiller true rest
    else if Quotation.isBlank character then skipFiller false rest
    else some (character :: rest)

/-- The text after the end of a line, where only blanks and a comment may stand. -/
def endLine (inComment : Bool) : List Char → Option (List Char)
  | [] => some []
  | '\n' :: rest => some rest
  | '\r' :: '\n' :: rest => some rest
  | character :: rest =>
    if inComment then
      if Quotation.isPlain character then endLine true rest else none
    else if character = '#' then endLine true rest
    else if Quotation.isBlank character then endLine false rest
    else none

/-- One part of a dotted name, and the text after it. -/
def readName (input : List Char) : Option (String × List Char) :=
  match input with
  | '"' :: _ | '\'' :: _ => (Quotation.read input).map fun (name, rest) => (String.ofList name, rest)
  | _ =>
    let name := input.takeWhile isNameCharacter
    if name.isEmpty then none else some (String.ofList name, input.drop name.length)

/-- A dotted name of at most so many parts, blanks around it included: the path and the
last part, and the text after it. -/
def readParts : Nat → List Char → Option ((List String × String) × List Char)
  | 0, _ => none
  | limit + 1, input => do
    let (name, rest) ← readName (skipBlanks input)
    match skipBlanks rest with
    | '.' :: rest => do
      let ((path, last), rest) ← readParts limit rest
      some ((name :: path, last), rest)
    | rest => some (([], name), rest)

/-- The most parts of a dotted name. -/
def partLimit : Nat := 80

/-- A dotted name: the path and the last part, and the text after it. -/
def readPath (input : List Char) : Option ((List String × String) × List Char) :=
  readParts partLimit input

mutual

/-- A value, and the text after it. -/
def readValue : Nat → Nat → List Char → Option (Setting × List Char)
  | 0, _, _ => none
  | budget + 1, levels, input =>
    match input with
    | '"' :: _ | '\'' :: _ => do
      let (text, rest) ← Quotation.readAny input
      some (.text (String.ofList text), rest)
    | '[' :: rest =>
      match levels with
      | 0 => none
      | levels + 1 => do
        let (items, rest) ← readItems budget levels rest
        some (.list items, rest)
    | '\x7b' :: rest =>
      match levels with
      | 0 => none
      | levels + 1 => do
        let (table, rest) ← readMembers budget levels ⟨.inline, []⟩ rest
        some (table.setting, rest)
    | _ => Scalar.read input

/-- The items of an array up to its closing bracket, and the text after it. -/
def readItems : Nat → Nat → List Char → Option (List Setting × List Char)
  | 0, _, _ => none
  | budget + 1, levels, input => do
    match ← skipFiller false input with
    | ']' :: rest => some ([], rest)
    | input => do
      let (item, rest) ← readValue budget levels input
      match ← skipFiller false rest with
      | ']' :: rest => some ([item], rest)
      | ',' :: rest => do
        let (items, rest) ← readItems budget levels rest
        some (item :: items, rest)
      | _ => none

/-- An inline table with further members up to its closing brace, and the text after it. -/
def readMembers : Nat → Nat → Table → List Char → Option (Table × List Char)
  | 0, _, _, _ => none
  | budget + 1, levels, table, input => do
    match ← skipFiller false input with
    | '\x7d' :: rest => some (table, rest)
    | input => do
      let ((path, name), rest) ← readPath input
      match ← skipFiller false rest with
      | '=' :: rest => do
        let (value, rest) ← readValue budget levels (← skipFiller false rest)
        let table ← table.insert path name value
        match ← skipFiller false rest with
        | '\x7d' :: rest => some (table, rest)
        | ',' :: rest => readMembers budget levels table rest
        | _ => none
      | _ => none

end

/-- The levels of nesting that a value may have. -/
def nestingLimit : Nat := 80

/-- A header up to the end of its line: its dotted name, and the text after the line. -/
def readHeader (closing : List Char) (input : List Char) :
    Option ((List String × String) × List Char) := do
  let (path, rest) ← readPath input
  if rest.take closing.length = closing then do
    let rest ← endLine false (rest.drop closing.length)
    some (path, rest)
  else
    none

/-- Change the table that a header has opened. -/
def within (header : List String) (change : Table → Option Table) : Table → Option Table :=
  edit false change header

/-- Read the lines of a document.  The header says which table names belong to. -/
def readDocument : Nat → List String → Table → List Char → Option Table
  | 0, _, _, _ => none
  | budget + 1, header, document, input => do
    match ← skipFiller false input with
    | [] => some document
    | '[' :: '[' :: rest => do
      let ((path, name), rest) ← readHeader [']', ']'] rest
      let document ← document.extend path name
      readDocument budget (path ++ [name]) document rest
    | '[' :: rest => do
      let ((path, name), rest) ← readHeader [']'] rest
      let document ← document.define path name
      readDocument budget (path ++ [name]) document rest
    | input => do
      let ((path, name), rest) ← readPath input
      match rest with
      | '=' :: rest => do
        let (value, rest) ← readValue (2 * rest.length + 2) nestingLimit (skipBlanks rest)
        let document ← document.within header (insert path name value)
        let rest ← endLine false rest
        readDocument budget header document rest
      | _ => none

/-- The document that a text denotes.  A byte order mark at its start does not count. -/
def ofText? (text : List Char) : Option Table :=
  let input :=
    match text with
    | '\ufeff' :: rest => rest
    | _ => text
  readDocument (input.length + 1) [] ⟨.header, []⟩ input

end Table
end ManagedTree
