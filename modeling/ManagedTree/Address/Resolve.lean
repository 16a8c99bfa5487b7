import ManagedTree.Address.Basic

/-!
# Resolving addresses

Finding the node at an address, with or without creating it.
-/

namespace ManagedTree
namespace Address

/-- The error for an obstacle on the way to an address. -/
def blocked (address : Address) : Node.Obstacle → TreeError
  | .missing segment => .notFound address.text segment
  | .notComposite segment => .notComposite address.text segment

/-- The node at an address. -/
def find (address : Address) (tree : Node) : Except TreeError Node :=
  (Node.follow address.segments tree).mapError address.blocked

/-- Edit the node at an address, creating it first where that is allowed: the edited
node or the error, and the tree afterwards. -/
def edit
    (address : Address) (create : Bool) (change : Node → Node) (tree : Node) :
    Except TreeError Node × Node :=
  let (outcome, tree) := Node.reach create change address.segments tree
  (outcome.mapError address.blocked, tree)

/-- Make an address resolve: the node there or the error, and the tree afterwards. -/
def create (address : Address) (tree : Node) : Except TreeError Node × Node :=
  address.edit true id tree

end Address
end ManagedTree
