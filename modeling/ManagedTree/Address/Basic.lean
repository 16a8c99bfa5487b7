import ManagedTree.Node.Place
import ManagedTree.TreeError

/-!
# Addresses

An address is a sequence of elements, each a key and a value, and names a node of
the tree: every element leads two levels down, first by its key, then by its
value.  An element whose value is the wildcard matches every value of its key.
-/

namespace ManagedTree

/-- One step of an address: a key and a value, neither of them empty. -/
structure Element where
  /-- The key. -/
  key : String
  /-- The value. -/
  value : String
  /-- The key is not empty. -/
  key_ne : key ≠ ""
  /-- The value is not empty. -/
  value_ne : value ≠ ""
deriving DecidableEq, Repr

namespace Element

/-- The value that matches every value. -/
def wildcardValue : String := "*"

/-- The element with a key and a value, unless one of them is empty. -/
def make (key value : String) : Except TreeError Element :=
  if sound : key ≠ "" ∧ value ≠ "" then
    .ok ⟨key, value, sound.1, sound.2⟩
  else
    .error (.malformedAddress (.emptyPart key value))

/-- The element that matches every value of a key. -/
def wildcard (key : String) : Except TreeError Element :=
  make key wildcardValue

/-- Whether the value is the wildcard. -/
def isWildcard (element : Element) : Bool :=
  element.value == wildcardValue

/-- Whether an element, read as a pattern, covers another one. -/
def covers (pattern element : Element) : Bool :=
  pattern.key == element.key && (pattern.isWildcard || pattern.value == element.value)

/-- The text of an element. -/
def text (element : Element) : String :=
  s!"{element.key}={element.value}"

/-- The order of elements: by key, then by value. -/
def le (left right : Element) : Bool :=
  if left.key = right.key then left.value ≤ right.value else left.key ≤ right.key

@[simp] theorem make_self (element : Element) :
    make element.key element.value = .ok element := by
  simp [make, element.key_ne, element.value_ne]

theorem make_eq_ok
    {key value : String}
    {element : Element}
    (made : make key value = .ok element) :
    element.key = key ∧ element.value = value := by
  unfold make at made
  split at made
  · cases made
    exact ⟨rfl, rfl⟩
  · cases made

end Element

/-- A sequence of elements that names a node of the tree. -/
structure Address where
  /-- The elements, from the root downwards. -/
  elements : List Element
deriving DecidableEq, Repr

namespace Address

/-- The address of the root of the tree. -/
def root : Address := ⟨[]⟩

/-- Whether an address is the root's. -/
def isRoot (address : Address) : Bool :=
  address.elements.isEmpty

/-- The number of elements. -/
def length (address : Address) : Nat :=
  address.elements.length

/-- The address one element further down. -/
def append (address : Address) (element : Element) : Address :=
  ⟨address.elements ++ [element]⟩

/-- The last element; the root has none. -/
def last? (address : Address) : Option Element :=
  address.elements.getLast?

/-- The address one element further up; the root has none. -/
def parent? (address : Address) : Option Address :=
  if address.isRoot then none else some ⟨address.elements.dropLast⟩

/-- Whether an address has a wildcard. -/
def isPattern (address : Address) : Bool :=
  address.elements.any Element.isWildcard

/-- The names that lead from the root to an address: keys and values in turn. -/
def segments (address : Address) : List String :=
  address.elements.flatMap fun element => [element.key, element.value]

theorem length_segments (address : Address) :
    address.segments.length = 2 * address.elements.length := by
  obtain ⟨elements⟩ := address
  induction elements with
  | nil => rfl
  | cons element elements inductionHypothesis =>
    simp only [segments, List.flatMap_cons, List.length_append, List.length_cons] at *
    rw [inductionHypothesis]
    simp [Nat.mul_add, Nat.add_comm]

/-- The text of an address: every element after a slash, and a slash for the root. -/
def text (address : Address) : String :=
  if address.isRoot then "/"
  else String.join (address.elements.map fun element => "/" ++ element.text)

/-- Whether the first list of elements is not after the second: element by element,
a shorter list before its continuations. -/
def leElements : List Element → List Element → Bool
  | [], _ => true
  | _ :: _, [] => false
  | left :: lefts, right :: rights =>
    if left = right then leElements lefts rights else left.le right

/-- The order of addresses. -/
def le (left right : Address) : Bool :=
  leElements left.elements right.elements

/-- Addresses in ascending order, each once. -/
def ascending (addresses : List Address) : List Address :=
  (addresses.mergeSort le).eraseDups

@[simp] theorem parent?_append
    (address : Address)
    (element : Element) :
    (address.append element).parent? = some address := by
  simp [parent?, append, isRoot]

end Address
end ManagedTree
