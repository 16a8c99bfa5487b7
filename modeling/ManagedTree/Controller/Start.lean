import ManagedTree.Controller.BlockingExecution

/-!
# Starting a controller

A controller starts with a tree and what it works with, or from its settings, with
the tree that was stored last.  Whoever has it may register handlers and work on
its tree.
-/

namespace ManagedTree
namespace Controller

/-- Start a controller. -/
def start
    (settings : Settings) (tree : Node) (keeper : Keeper)
    (factory : ContextFactory) (invoker : Invoker) (files : Files) :
    Controller where
  tree := tree
  ledger := Ledger.empty
  thread := 0
  threadName := none
  interrupt := Interrupt.fresh
  settings := settings
  registry := Registry.empty settings.duplicatePolicy
  factory := factory
  invoker := invoker
  keeper := keeper
  custody := ⟨files, []⟩
  streams := []
  tokens := []
  calls := []

/-- Start a controller with a keeper and nothing else of its own. -/
def withKeeper (keeper : Keeper) (files : Files) : Controller :=
  start Settings.default Node.empty keeper ContextFactory.basic Invoker.direct files

/-- Start a controller from its settings.  With a path there, the file is loaded if there
is one, and keeps the tree from then on. -/
def ofSettings (settings : Settings) (files : Files) : Except ArchiveError Controller :=
  match settings.path with
  | none =>
    .ok (start settings Node.empty .memory ContextFactory.basic Invoker.direct files)
  | some path => do
    let archive : Archive := ⟨path, settings.indented⟩
    let tree := (← archive.load files).getD Node.empty
    .ok (start settings tree (.archive archive) ContextFactory.basic Invoker.direct files)

/-- Register a handler: the handler it displaces, if any, and the controller. -/
def register (controller : Controller) (pattern : Address) (name : String) (handler : Handler) :
    Except RegistryError (Option Handler × Controller) := do
  let (displaced, registry) ← controller.registry.register pattern name handler
  .ok (displaced, { controller with registry })

/-- The node at an address. -/
def find (controller : Controller) (address : Address) : Except TreeError Node :=
  address.find controller.tree

/-- Make an address resolve, creating it where that is allowed. -/
def resolve (controller : Controller) (address : Address) (create : Bool) :
    Except TreeError Node × Controller :=
  let (result, tree) :=
    if create then address.create controller.tree
    else (address.find controller.tree, controller.tree)
  (result, controller.withTree tree)

/-- Write at a place below an address. -/
def writeAt
    (controller : Controller) (address : Address) (place : List String) (value : Node) :
    Except TreeError Node × Controller :=
  let (result, tree) := address.edit false (Node.set place value) controller.tree
  (result, controller.withTree tree)

/-- Remove a place of the tree. -/
def remove (controller : Controller) (place : List String) : Controller :=
  controller.withTree (Node.remove place controller.tree)

/-- The handle that an execution returned. -/
def handle? (controller : Controller) (number : Nat) : Option Handle :=
  (controller.streams.find? fun stream => stream.number == some number).map Stream.handle

end Controller
end ManagedTree
