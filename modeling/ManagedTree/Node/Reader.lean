import ManagedTree.Node.Basic
import ManagedTree.Text.Glyph

/-!
# Reading JSON texts

A file's glyphs are read as one JSON document.  Texts that end too early are told
from texts that are wrong; containers may be nested 127 deep; a name that occurs
again in an object keeps its first place and gets its last value.
-/

namespace ManagedTree

/-- Why glyphs are no JSON document. -/
inductive JsonFlaw where
  /-- The text ends too early. -/
  | incomplete
  /-- The text breaks the rules of JSON, or a number or the nesting is too large. -/
  | malformed
deriving DecidableEq, Repr

namespace Json

-- Powers and sums are the core library's in every importing context.
attribute [local instance (high)] instPowNat Zero.ofOfNat0

/-- A value read from the front of glyphs, and the glyphs after it. -/
abbrev Front (α : Type) :=
  α × List Glyph

/-- The blanks between the parts of a document. -/
def isBlank (glyph : Glyph) : Bool :=
  glyph == .char ' ' || glyph == .char '\n' || glyph == .char '\t' || glyph == .char '\r'

/-- Glyphs without leading blanks. -/
def skipBlanks (input : List Glyph) : List Glyph :=
  input.dropWhile isBlank

/-- The glyphs after a fixed word. -/
def readWord : List Char → List Glyph → Except JsonFlaw (List Glyph)
  | [], input => .ok input
  | _ :: _, [] => .error .incomplete
  | letter :: letters, glyph :: input =>
    if glyph = .char letter then readWord letters input else .error .malformed

/-! ## Numbers -/

/-- The value of a decimal digit. -/
def digit? : Glyph → Option Nat
  | .char character =>
    if character.isDigit then some (character.toNat - '0'.toNat) else none
  | .stray _ => none

/-- The decimal digits that glyphs start with, and the glyphs after them. -/
def takeDigits : List Glyph → List Nat × List Glyph
  | [] => ([], [])
  | glyph :: input =>
    match digit? glyph with
    | some digit =>
      let (digits, rest) := takeDigits input
      (digit :: digits, rest)
    | none => ([], glyph :: input)

/-- Digits gathered into a significand of 64 bits: the significand, and the digits
from the first one on that no longer fits. -/
def gather (significand : Nat) : List Nat → Nat × List Nat
  | [] => (significand, [])
  | digit :: digits =>
    let next := significand * 10 + digit
    if next < 2 ^ (64 : Nat) then gather next digits else (significand, digit :: digits)

/-- A significand times a power of ten.  Both are rounded before they are multiplied
or divided; powers beyond `10 ^ 308` are taken off in steps of that size. -/
def scale? (value : Binary64) (power : Int) : Nat → Option Binary64
  | 0 => some (.zero false)
  | steps + 1 =>
    if power.natAbs ≤ 308 then
      (Binary64.tenTo? power.natAbs).bind fun ten =>
        if 0 ≤ power then value.product? ten else value.quotient? ten
    else if value.isZero then
      some value
    else if 0 ≤ power then
      none
    else
      (Binary64.tenTo? 308).bind fun ten =>
        (value.quotient? ten).bind fun smaller => scale? smaller (power + 308) steps

/-- The number that a sign, a significand and a power of ten denote. -/
def floating (negative : Bool) (significand : Nat) (power : Int) : Except JsonFlaw Number :=
  match (Binary64.ofNat? significand).bind fun value => scale? value power 4 with
  | some value => .ok (.floating (value.withSign negative))
  | none => .error .malformed

/-- The number that a sign and digits without fraction and exponent denote: an
integer where 64 bits hold it. -/
def whole (negative : Bool) (significand : Nat) (dropped : List Nat) : Except JsonFlaw Number :=
  if dropped ≠ [] then floating negative significand dropped.length
  else if negative = false then .ok (.integer significand)
  else if significand = 0 ∨ 2 ^ (63 : Nat) < significand then floating true significand 0
  else .ok (.integer (-significand))

/-- The exponent after its letter. -/
def readExponent (input : List Glyph) : Except JsonFlaw (Front Int) :=
  let (negative, input) :=
    match input with
    | .char '+' :: rest => (false, rest)
    | .char '-' :: rest => (true, rest)
    | _ => (false, input)
  match takeDigits input with
  | ([], []) => .error .incomplete
  | ([], _ :: _) => .error .malformed
  | (digits, rest) =>
    let size : Int := (digits.foldl (fun value digit => value * 10 + digit) 0 : Nat)
    .ok (if negative then -size else size, rest)

/-- A number from its significand on: an exponent may follow. -/
def finishFloating
    (negative : Bool) (significand : Nat) (power : Int) (input : List Glyph) :
    Except JsonFlaw (Front Number) :=
  let exponent : Except JsonFlaw (Front Int) :=
    match input with
    | .char 'e' :: rest => readExponent rest
    | .char 'E' :: rest => readExponent rest
    | _ => .ok (0, input)
  exponent.bind fun (exponent, rest) =>
    (floating negative significand (power + exponent)).map fun number => (number, rest)

/-- A number from the digits of its integer part on. -/
def finishNumber
    (negative : Bool) (digits : List Nat) (input : List Glyph) :
    Except JsonFlaw (Front Number) :=
  let (significand, dropped) := gather 0 digits
  match input with
  | .char '.' :: rest =>
    match takeDigits rest with
    | ([], []) => .error .incomplete
    | ([], _ :: _) => .error .malformed
    | (fraction, rest) =>
      let (significand, ignored) := gather significand fraction
      let power : Int := dropped.length - (fraction.length - ignored.length : Nat)
      finishFloating negative significand power rest
  | .char 'e' :: _ => finishFloating negative significand dropped.length input
  | .char 'E' :: _ => finishFloating negative significand dropped.length input
  | _ => (whole negative significand dropped).map fun number => (number, input)

/-- A number after its sign. -/
def readNumber (negative : Bool) (input : List Glyph) : Except JsonFlaw (Front Number) :=
  match takeDigits input with
  | ([], []) => .error .incomplete
  | ([], _ :: _) => .error .malformed
  | (0 :: _ :: _, _) => .error .malformed
  | (digits, rest) => finishNumber negative digits rest

/-! ## Strings -/

/-- The value of a hexadecimal digit. -/
def hexDigit? : Glyph → Option Nat
  | .char character =>
    let point := character.toNat
    if '0' ≤ character ∧ character ≤ '9' then some (point - '0'.toNat)
    else if 'a' ≤ character ∧ character ≤ 'f' then some (point - 'a'.toNat + 10)
    else if 'A' ≤ character ∧ character ≤ 'F' then some (point - 'A'.toNat + 10)
    else none
  | .stray _ => none

/-- The number of bytes that glyphs take. -/
def byteLength (input : List Glyph) : Nat :=
  (input.map Glyph.width).sum

/-- A code unit of four hexadecimal digits; fewer than four bytes are an early end. -/
def readUnit (input : List Glyph) : Except JsonFlaw (Front Nat) :=
  if byteLength (input.take 4) < 4 then
    .error .incomplete
  else
    match input with
    | first :: second :: third :: fourth :: rest =>
      match hexDigit? first, hexDigit? second, hexDigit? third, hexDigit? fourth with
      | some first, some second, some third, some fourth =>
        .ok (((first * 16 + second) * 16 + third) * 16 + fourth, rest)
      | _, _, _, _ => .error .malformed
    | _ => .error .malformed

/-- The glyphs after one expected character inside a string. -/
def expect (character : Char) : List Glyph → Except JsonFlaw (List Glyph)
  | [] => .error .incomplete
  | glyph :: rest => if glyph = .char character then .ok rest else .error .malformed

/-- The character that code units give: one unit, or a pair of surrogates. -/
def readPoint (input : List Glyph) : Except JsonFlaw (Front Char) := do
  let (high, rest) ← readUnit input
  if 0xdc00 ≤ high ∧ high ≤ 0xdfff then
    .error .malformed
  else if high < 0xd800 ∨ 0xdbff < high then
    .ok (Char.ofNat high, rest)
  else
    let rest ← expect '\\' rest
    let rest ← expect 'u' rest
    let (low, rest) ← readUnit rest
    if low < 0xdc00 ∨ 0xdfff < low then
      .error .malformed
    else
      .ok (Char.ofNat ((high - 0xd800) * 0x400 + (low - 0xdc00) + 0x10000), rest)

/-- The character of an escape, after its backslash. -/
def readEscape : List Glyph → Except JsonFlaw (Front Char)
  | [] => .error .incomplete
  | .char '"' :: rest => .ok ('"', rest)
  | .char '\\' :: rest => .ok ('\\', rest)
  | .char '/' :: rest => .ok ('/', rest)
  | .char 'b' :: rest => .ok ('\x08', rest)
  | .char 'f' :: rest => .ok ('\x0c', rest)
  | .char 'n' :: rest => .ok ('\n', rest)
  | .char 'r' :: rest => .ok ('\r', rest)
  | .char 't' :: rest => .ok ('\t', rest)
  | .char 'u' :: rest => readPoint rest
  | _ :: _ => .error .malformed

/-- The characters of a string after its opening quote.  Stray bytes are noticed when
the string is complete.  The budget bounds the number of characters. -/
def readCharacters : Nat → Bool → List Glyph → Except JsonFlaw (Front (List Char))
  | 0, _, _ => .error .incomplete
  | _ + 1, _, [] => .error .incomplete
  | _ + 1, sound, .char '"' :: rest =>
    if sound then .ok ([], rest) else .error .malformed
  | budget + 1, sound, .char '\\' :: rest => do
    let (character, rest) ← readEscape rest
    let (characters, rest) ← readCharacters budget sound rest
    .ok (character :: characters, rest)
  | budget + 1, sound, .char character :: rest =>
    if character.toNat < 0x20 then
      .error .malformed
    else do
      let (characters, rest) ← readCharacters budget sound rest
      .ok (character :: characters, rest)
  | budget + 1, _, .stray _ :: rest => readCharacters budget false rest

/-- A string after its opening quote. -/
def readString (input : List Glyph) : Except JsonFlaw (Front String) := do
  let (characters, rest) ← readCharacters (input.length + 1) true input
  .ok (String.ofList characters, rest)

/-! ## Documents -/

/-- The name of a member and its colon, from the opening quote on. -/
def readName (input : List Glyph) : Except JsonFlaw (Front String) :=
  match skipBlanks input with
  | [] => .error .incomplete
  | .char '"' :: rest => do
    let (name, rest) ← readString rest
    match skipBlanks rest with
    | [] => .error .incomplete
    | .char ':' :: rest => .ok (name, rest)
    | _ :: _ => .error .malformed
  | _ :: _ => .error .malformed

/-- The glyphs after a closing bracket, when it comes next. -/
def closed? (bracket : Char) (input : List Glyph) : Option (List Glyph) :=
  match skipBlanks input with
  | [] => none
  | glyph :: rest => if glyph = .char bracket then some rest else none

mutual

/-- A node at the front of glyphs, with a number of further levels of nesting.  The
budget bounds the number of steps. -/
def readNode : Nat → Nat → List Glyph → Except JsonFlaw (Front Node)
  | 0, _, _ => .error .incomplete
  | budget + 1, levels, input =>
    match skipBlanks input with
    | [] => .error .incomplete
    | .char 'n' :: rest => do .ok (.null, ← readWord ['u', 'l', 'l'] rest)
    | .char 't' :: rest => do .ok (.bool true, ← readWord ['r', 'u', 'e'] rest)
    | .char 'f' :: rest => do .ok (.bool false, ← readWord ['a', 'l', 's', 'e'] rest)
    | .char '"' :: rest => do
      let (text, rest) ← readString rest
      .ok (.text text, rest)
    | .char '-' :: rest => do
      let (number, rest) ← readNumber true rest
      .ok (.number number, rest)
    | .char '[' :: rest =>
      match levels, closed? ']' rest with
      | 0, _ => .error .malformed
      | _ + 1, some rest => .ok (.list [], rest)
      | levels + 1, none => do
        let (item, rest) ← readNode budget levels rest
        let (items, rest) ← readItems budget levels rest
        .ok (.list (item :: items), rest)
    | .char '{' :: rest =>
      match levels, closed? '}' rest with
      | 0, _ => .error .malformed
      | _ + 1, some rest => .ok (.object [], rest)
      | levels + 1, none => do
        let (name, rest) ← readName rest
        let (member, rest) ← readNode budget levels rest
        let (members, rest) ← readMembers budget levels rest
        .ok (.object (Keyed.ofList ((name, member) :: members)), rest)
    | glyph :: rest =>
      if (digit? glyph).isSome then do
        let (number, rest) ← readNumber false (glyph :: rest)
        .ok (.number number, rest)
      else
        .error .malformed

/-- The items after the first one of a list, up to and with its closing bracket. -/
def readItems : Nat → Nat → List Glyph → Except JsonFlaw (Front (List Node))
  | 0, _, _ => .error .incomplete
  | budget + 1, levels, input =>
    match skipBlanks input with
    | [] => .error .incomplete
    | .char ']' :: rest => .ok ([], rest)
    | .char ',' :: rest => do
      let (item, rest) ← readNode budget levels rest
      let (items, rest) ← readItems budget levels rest
      .ok (item :: items, rest)
    | _ :: _ => .error .malformed

/-- The members after the first one of an object, up to and with its closing brace. -/
def readMembers : Nat → Nat → List Glyph → Except JsonFlaw (Front (List (String × Node)))
  | 0, _, _ => .error .incomplete
  | budget + 1, levels, input =>
    match skipBlanks input with
    | [] => .error .incomplete
    | .char '}' :: rest => .ok ([], rest)
    | .char ',' :: rest => do
      let (name, rest) ← readName rest
      let (member, rest) ← readNode budget levels rest
      let (members, rest) ← readMembers budget levels rest
      .ok ((name, member) :: members, rest)
    | _ :: _ => .error .malformed

end

/-- The levels of nesting that a document may have. -/
def nestingLimit : Nat := 127

/-- The node that a whole document denotes. -/
def read (input : List Glyph) : Except JsonFlaw Node := do
  let (node, rest) ← readNode (2 * input.length + 2) nestingLimit input
  if (skipBlanks rest).isEmpty then .ok node else .error .malformed

end Json
end ManagedTree
