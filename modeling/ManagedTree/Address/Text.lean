import ManagedTree.Address.Basic
import ManagedTree.Text.Blank
import ManagedTree.Text.Pieces

/-!
# Reading address texts

An address text is blanks, perhaps a slash, and elements with slashes between
them.  A text without elements is the root's.
-/

namespace ManagedTree
namespace Address

/-- The element that a segment of an address text denotes. -/
def readSegment (text : String) (segment : List Char) : Except TreeError Element :=
  match Text.cut '=' segment with
  | some (key, value) => Element.make (String.ofList key) (String.ofList value)
  | none => .error (.malformedAddress (.unkeyed (String.ofList segment) text))

/-- The elements of segments; of several flaws the first one counts. -/
def readSegments (text : String) : List (List Char) → Except TreeError (List Element)
  | [] => .ok []
  | segment :: segments => do
    let element ← readSegment text segment
    let elements ← readSegments text segments
    .ok (element :: elements)

/-- A text without one leading slash. -/
def dropSlash : List Char → List Char
  | '/' :: rest => rest
  | text => text

/-- The address that a text denotes. -/
def ofText (text : String) : Except TreeError Address :=
  match dropSlash (Text.trim text.toList) with
  | [] => .ok root
  | body => do
    let (first, others) := Text.pieces '/' body
    let elements ← readSegments text (first :: others)
    .ok ⟨elements⟩

end Address
end ManagedTree
