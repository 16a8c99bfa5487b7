import ManagedTree.Node.Printer

/-!
# Errors about addresses, operations and places in the tree

Every error is a cause; its wording is given in one place.
-/

namespace ManagedTree

/-- What is wrong with an address. -/
inductive AddressFlaw where
  /-- An element whose key or value is empty. -/
  | emptyPart (key value : String)
  /-- A segment of an address text that has no equals sign. -/
  | unkeyed (segment text : String)
  /-- A node that stands where an element should be. -/
  | notElement (node : Node)
  /-- A node that is neither a text nor a list of elements. -/
  | notAddress (node : Node)
  /-- A flaw that is only known by its description. -/
  | described (description : String)
deriving Repr

/-- What is wrong with an operation. -/
inductive OperationFlaw where
  /-- A node that is not composite. -/
  | notComposite (node : Node)
  /-- A name that is empty or no text. -/
  | badName (node : Node)
  /-- A flaw that is only known by its description. -/
  | described (description : String)
deriving Repr

/-- An error met while reading addresses and operations or following an address. -/
inductive TreeError where
  /-- A composite node on the way to an address lacks a segment. -/
  | notFound (address segment : String)
  /-- A node on the way to an address is not composite. -/
  | notComposite (address segment : String)
  /-- An address that cannot be read. -/
  | malformedAddress (flaw : AddressFlaw)
  /-- An operation without a name. -/
  | missingName
  /-- An operation that cannot be read. -/
  | malformedOperation (flaw : OperationFlaw)
deriving Repr

/-- The wording of an address flaw. -/
def AddressFlaw.message : AddressFlaw → String
  | .emptyPart key value => s!"empty path element '{key}={value}'"
  | .unkeyed segment text => s!"segment '{segment}' in '{text}' is not key=value"
  | .notElement node => s!"expected a single key/value element, got {node.compact}"
  | .notAddress node => s!"expected a list of elements, got {node.compact}"
  | .described description => description

/-- The wording of an operation flaw. -/
def OperationFlaw.message : OperationFlaw → String
  | .notComposite node => s!"expected a composite node, got {node.compact}"
  | .badName node => s!"operation name must be a non-empty string, got {node.compact}"
  | .described description => description

/-- The wording of a tree error. -/
def TreeError.message : TreeError → String
  | .notFound address segment => s!"no model node at {address}: missing segment '{segment}'"
  | .notComposite address segment =>
    s!"model node at {address} is not composite at segment '{segment}'"
  | .malformedAddress flaw => s!"malformed address: {flaw.message}"
  | .missingName => "operation is missing the 'operation' field"
  | .malformedOperation flaw => s!"malformed operation: {flaw.message}"

end ManagedTree
