/-!
# Glyphs

The content of a file is a sequence of glyphs: characters, and bytes that belong
to no character of the UTF-8 encoding.
-/

namespace ManagedTree

/-- One unit of a file's content. -/
inductive Glyph where
  /-- A character. -/
  | char (character : Char)
  /-- A byte that is not part of any encoded character. -/
  | stray (byte : UInt8)
deriving DecidableEq, Repr

namespace Glyph

/-- The number of bytes that a glyph takes in the file. -/
def width : Glyph → Nat
  | .char character => character.utf8Size
  | .stray _ => 1

/-- The glyphs of a text. -/
def ofText (text : List Char) : List Glyph :=
  text.map .char

@[simp] theorem ofText_nil : ofText [] = [] := rfl

@[simp] theorem ofText_cons (character : Char) (text : List Char) :
    ofText (character :: text) = .char character :: ofText text := rfl

@[simp] theorem ofText_append (front back : List Char) :
    ofText (front ++ back) = ofText front ++ ofText back :=
  List.map_append

@[simp] theorem length_ofText (text : List Char) : (ofText text).length = text.length :=
  List.length_map _

/-- The text that glyphs spell, when none of them is stray. -/
def toText? : List Glyph → Option (List Char)
  | [] => some []
  | .char character :: rest => (toText? rest).map (character :: ·)
  | .stray _ :: _ => none

@[simp] theorem toText?_ofText (text : List Char) :
    toText? (ofText text) = some text := by
  induction text with
  | nil => rfl
  | cons character rest inductionHypothesis =>
    simpa [ofText, toText?] using inductionHypothesis

/-- The code point that continuation bytes complete, and the bytes after them. -/
def continued? : Nat → Nat → List UInt8 → Option (Nat × List UInt8)
  | 0, point, rest => some (point, rest)
  | _ + 1, _, [] => none
  | missing + 1, point, byte :: rest =>
    if 0x80 ≤ byte ∧ byte ≤ 0xbf then
      continued? missing (point * 64 + (byte.toNat - 0x80)) rest
    else
      none

/-- The shape that a lead byte announces: how many continuation bytes follow, the
bits that the lead byte itself gives, and the least code point of that length. -/
def announced? (lead : UInt8) : Option (Nat × Nat × Nat) :=
  if lead < 0x80 then some (0, lead.toNat, 0)
  else if lead < 0xc0 then none
  else if lead < 0xe0 then some (1, lead.toNat - 0xc0, 0x80)
  else if lead < 0xf0 then some (2, lead.toNat - 0xe0, 0x800)
  else if lead < 0xf8 then some (3, lead.toNat - 0xf0, 0x10000)
  else none

/-- The character that bytes start with, and the bytes after it.  A longer encoding
than necessary and a code point that is no Unicode scalar value encode nothing. -/
def leading? : List UInt8 → Option (Char × List UInt8)
  | [] => none
  | lead :: rest => do
    let (missing, bits, least) ← announced? lead
    let (point, after) ← continued? missing bits rest
    if valid : least ≤ point ∧ point.isValidChar then
      some (Char.ofNatAux point valid.2, after)
    else
      none

/-- The glyphs of a sequence of bytes.  The budget bounds the number of glyphs; the
number of bytes is always enough. -/
def scan : Nat → List UInt8 → List Glyph
  | 0, _ => []
  | _ + 1, [] => []
  | budget + 1, byte :: rest =>
    match leading? (byte :: rest) with
    | some (character, after) => .char character :: scan budget after
    | none => .stray byte :: scan budget rest

/-- The glyphs of a sequence of bytes. -/
def ofBytes (bytes : List UInt8) : List Glyph :=
  scan bytes.length bytes

end Glyph
end ManagedTree
