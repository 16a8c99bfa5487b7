import ManagedTree.Address.Text

/-!
# Addresses as nodes

An address may be given as an address text, as a list of elements, or left out
for the root.  An element is an object with one member or a list of two texts.
Addresses are always written as a list of objects.
-/

namespace ManagedTree

/-- The element that a node denotes. -/
def Element.ofNode : Node → Except TreeError Element
  | .object [(key, .text value)] => make key value
  | .list [.text key, .text value] => make key value
  | node => .error (.malformedAddress (.notElement node))

/-- The node of an element. -/
def Element.toNode (element : Element) : Node :=
  .object [(element.key, .text element.value)]

namespace Address

/-- The elements that nodes denote; of several flaws the first one counts. -/
def elementsOfNodes : List Node → Except TreeError (List Element)
  | [] => .ok []
  | node :: nodes => do
    let element ← Element.ofNode node
    let elements ← elementsOfNodes nodes
    .ok (element :: elements)

/-- The address that a node denotes. -/
def ofNode : Node → Except TreeError Address
  | .null => .ok root
  | .text text => ofText text
  | .list items => do
    let elements ← elementsOfNodes items
    .ok ⟨elements⟩
  | node => .error (.malformedAddress (.notAddress node))

/-- The node of an address. -/
def toNode (address : Address) : Node :=
  .list (address.elements.map Element.toNode)

/-- The node of an address denotes that address. -/
@[simp] theorem ofNode_toNode (address : Address) : ofNode address.toNode = .ok address := by
  have read : ∀ elements, elementsOfNodes (elements.map Element.toNode) = .ok elements := by
    intro elements
    induction elements with
    | nil => rfl
    | cons element elements inductionHypothesis =>
      simp [elementsOfNodes, Element.toNode, Element.ofNode, inductionHypothesis, bind,
        Except.bind]
  rw [toNode, ofNode, read]
  rfl

end Address
end ManagedTree
