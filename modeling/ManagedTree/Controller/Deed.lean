import ManagedTree.Controller.Reporting

/-!
# Deeds

A program of deeds reports on the streams of a controller, edits its tree, and
opens closures of the tree, without any handler.
-/

namespace ManagedTree

/-- A deed. -/
inductive Deed where
  /-- Report on a stream. -/
  | report (stream : Nat) (report : Report)
  /-- Store the tree at once. -/
  | store
  /-- Write at a place of the tree. -/
  | set (place : List String) (value : Node)
  /-- Panic. -/
  | panic (message : String)
  /-- Do deeds within a closure of the tree. -/
  | within (access : Access) (deeds : List Deed)
deriving Repr, Inhabited

namespace Controller

mutual

/-- Do a deed. -/
def act : Deed → Work Unit
  | .report stream made => makeReport stream made
  | .store => store none
  | .set place value =>
    modify fun controller => controller.withTree (Node.set place value controller.tree)
  | .panic message => throw (.panic (.text message))
  | .within access deeds => closure access (actAll deeds)

/-- Do deeds one after another. -/
def actAll : List Deed → Work Unit
  | [] => pure ()
  | deed :: deeds => do
    act deed
    actAll deeds

end

end Controller
end ManagedTree
