import ManagedTree.Address.Resolve
import ManagedTree.Scope

/-!
# Forests

A forest is several trees that one thread works on.  A program of steps looks at
them, edits them, opens closures of them, and defers actions until a tree is no
longer held.
-/

namespace ManagedTree

/-- What a forest notes while a program runs. -/
inductive Note where
  /-- An action ran and saw its tree. -/
  | ran (label : String) (root : Node)
  /-- An action was handed over. -/
  | deferred (label : String)
  /-- Whether a tree is held. -/
  | locked (value : Bool)
  /-- A panic was caught. -/
  | caught (message : String)
  /-- A closure was left. -/
  | left
deriving Repr

/-- A step of a program on a forest. -/
inductive Step where
  /-- Make an address resolve, perhaps by creating it. -/
  | resolve (tree : Nat) (address : Address) (create : Bool)
  /-- Look at the node at an address. -/
  | look (tree : Nat) (address : Address)
  /-- Look at a member of the node at an address. -/
  | lookAt (tree : Nat) (address : Address) (name : String)
  /-- Write at a place below an address. -/
  | write (tree : Nat) (address : Address) (place : List String) (value : Node)
  /-- Look at a whole tree. -/
  | snapshot (tree : Nat)
  /-- Tell whether a tree is held. -/
  | locked (tree : Nat)
  /-- Run an action of steps when a tree is no longer held. -/
  | defer (tree : Nat) (label : String) (steps : List Step)
  /-- Run steps within a closure of a tree. -/
  | scope (tree : Nat) (access : Access) (steps : List Step)
  /-- Write at a place of the innermost closure's tree. -/
  | set (place : List String) (value : Node)
  /-- Panic. -/
  | panic (message : String)
  /-- Run steps and catch their panic. -/
  | attempt (steps : List Step)
deriving Repr

/-- What a step answers. -/
inductive Answer where
  /-- Nothing. -/
  | nothing
  /-- That an address resolves. -/
  | resolved
  /-- A node. -/
  | node (node : Node)
  /-- A truth value. -/
  | flag (value : Bool)
  /-- An error. -/
  | refused (error : TreeError)
deriving Repr

/-- An action that waits until a tree is no longer held. -/
structure Deferred where
  /-- The number of the tree. -/
  tree : Nat
  /-- The label by which the action is noted. -/
  label : String
  /-- What the action does after it is noted. -/
  steps : List Step
deriving Repr

/-- Trees, the scopes open on them, and what happened. -/
structure Forest where
  /-- The trees by number. -/
  trees : List Node
  /-- The ledger of the one thread. -/
  ledger : Ledger Deferred Note
deriving Repr

namespace Forest

instance : HasLedger Forest Deferred Note where
  ledger := Forest.ledger
  withLedger ledger forest := { forest with ledger }
  thread _ := 0
  trees := Forest.trees
  ledger_withLedger _ _ := rfl
  thread_withLedger _ _ := rfl
  trees_withLedger _ _ := rfl

/-- The forest of trees that nothing is open on. -/
def ofTrees (trees : List Node) : Forest :=
  ⟨trees, Ledger.empty⟩

/-- What was noted, in order. -/
def notes (forest : Forest) : List Note :=
  forest.ledger.trace.notes

/-- A tree by its number. -/
def tree (forest : Forest) (number : Nat) : Node :=
  (forest.trees[number]?).getD Node.empty

/-- The forest with another tree under a number. -/
def withTree (number : Nat) (tree : Node) (forest : Forest) : Forest :=
  { forest with trees := forest.trees.set number tree }

end Forest

namespace Step

/-- A computation on a forest, which only a panic ends early. -/
abbrev Work := Run Panic Forest

/-- Note something. -/
def note (note : Note) : Work Unit :=
  Run.mark (.noted note)

/-- Look at a tree. -/
def root (number : Nat) : Work Node := do
  let forest ← get
  pure (forest.tree number)

/-- The answer that gives a node or an error. -/
def answered : Except TreeError Node → Answer
  | .ok node => .node node
  | .error error => .refused error

/-- The answer that gives a member of a node, if there is one, or an error. -/
def member (name : String) : Except TreeError Node → Answer
  | .ok node =>
    match node.member? name with
    | some child => .node child
    | none => .nothing
  | .error error => .refused error

/-- The answer that gives no node but an error. -/
def resolved : Except TreeError Node → Answer
  | .ok _ => .resolved
  | .error error => .refused error

/-- Edit the node at an address of a tree. -/
def editAt (number : Nat) (address : Address) (create : Bool) (change : Node → Node) :
    Work (Except TreeError Node) := do
  let (result, tree) := address.edit create change (← root number)
  modify (Forest.withTree number tree)
  pure result

/-- Write at a place of the innermost closure's tree, if the closure may. -/
def setInnermost (place : List String) (value : Node) : Work Unit :=
  modify fun forest =>
    match forest.ledger.scopes with
    | ⟨_, number, .write, _⟩ :: _ =>
      forest.withTree number (Node.set place value (forest.tree number))
    | _ => forest

mutual

/-- The levels to which actions are deferred by actions in a step. -/
def depth : Step → Nat
  | .defer _ _ steps => depthAll steps + 1
  | .scope _ _ steps => depthAll steps
  | .attempt steps => depthAll steps
  | _ => 0

/-- The levels to which actions are deferred by actions in steps. -/
def depthAll : List Step → Nat
  | [] => 0
  | step :: steps => max (depth step) (depthAll steps)

end

section

variable (perform : Deferred → Work Unit)

/-- A closure of a tree. -/
def closure {α : Type} (number : Nat) (access : Access) (body : Work α) : Work α :=
  Run.within perform (fun _ => true) number access body

mutual

/-- Run a step. -/
def run : Step → Work Answer
  | .resolve number address true => do
    pure (resolved (← closure perform number .write (editAt number address true id)))
  | .resolve number address false => do
    pure (resolved (← closure perform number .read (do pure (address.find (← root number)))))
  | .look number address => do
    pure (answered (← closure perform number .read (do pure (address.find (← root number)))))
  | .lookAt number address name => do
    let found ← closure perform number .read (do pure (address.find (← root number)))
    pure (member name found)
  | .write number address place value => do
    let edit := editAt number address false (Node.set place value)
    pure (answered (← closure perform number .write edit))
  | .snapshot number => do
    pure (.node (← root number))
  | .locked number => do
    let value ← Run.holds number
    note (.locked value)
    pure (.flag value)
  | .defer number label steps => do
    Run.unlocked perform number ⟨number, label, steps⟩
    note (.deferred label)
    pure .nothing
  | .scope number access steps => do
    closure perform number access (runAll steps)
    note .left
    pure .nothing
  | .set place value => do
    setInnermost place value
    pure .nothing
  | .panic message => throw (.text message)
  | .attempt steps => do
    match ← (runAll steps).outcome with
    | .ok _ => pure .nothing
    | .error caught => do
      note (.caught caught.message)
      pure .nothing

/-- Run steps one after another. -/
def runAll : List Step → Work Unit
  | [] => pure ()
  | step :: steps => do
    let _ ← run step
    runAll steps

end

end

/-- Run a deferred action.  The budget bounds the levels to which actions defer actions. -/
def perform : Nat → Deferred → Work Unit
  | 0, action => do
    note (.ran action.label (← root action.tree))
  | budget + 1, action => do
    note (.ran action.label (← root action.tree))
    runAll (perform budget) action.steps

end Step

/-- Run a step on a forest: its answer or panic, and the forest afterwards. -/
def Forest.step (step : Step) (forest : Forest) : Except Panic Answer × Forest :=
  (Step.run (Step.perform step.depth) step).on forest

end ManagedTree
