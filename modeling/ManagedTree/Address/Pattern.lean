import ManagedTree.Address.Basic

/-!
# Addresses as patterns

A pattern matches the addresses of its own length whose elements it covers one by
one.  Of two patterns that match the same address the more specific one is decided
by the first place where exactly one of them has a wildcard.
-/

namespace ManagedTree
namespace Address

/-- Whether pattern elements cover elements one by one. -/
def coversElements : List Element → List Element → Bool
  | [], [] => true
  | pattern :: patterns, element :: elements =>
    pattern.covers element && coversElements patterns elements
  | _, _ => false

/-- Whether an address, read as a pattern, matches another one. -/
def covers (pattern address : Address) : Bool :=
  coversElements pattern.elements address.elements

/-- Whether the first place where exactly one of two lists of elements has a wildcard
has it in the second list. -/
def outranksElements : List Element → List Element → Bool
  | left :: lefts, right :: rights =>
    match left.isWildcard, right.isWildcard with
    | false, true => true
    | true, false => false
    | _, _ => outranksElements lefts rights
  | _, _ => false

/-- Whether a pattern is more specific than another one. -/
def outranks (left right : Address) : Bool :=
  outranksElements left.elements right.elements

end Address
end ManagedTree
