import ManagedTree.Fault.Basic

/-!
# Links of a fault

The links of a fault are the fault itself, the error that caused it, the error
that caused that one, and so on.  Each link is one cause of the failure that the
fault is reported as.
-/

namespace ManagedTree

/-- The error that caused an archive error. -/
def ArchiveError.source? : ArchiveError → Option Fault
  | .file _ error => some (.format (.file error))
  | .unreadable flaw => some (.format (.json flaw))
  | .unwritten error => some (.format (.unwritten error))
  | .refused _ => none

/-- The error that caused a settings error. -/
def SettingsError.source? : SettingsError → Option Fault
  | .flawed flaw => some (.format (.settings flaw))
  | .file _ error => some (.format (.file error))
  | .emptyCreationOperation => none

/-- The error that caused a dispatch error. -/
def DispatchError.source? : DispatchError → Option Fault
  | .context inner => some inner
  | .handler inner => some inner
  | _ => none

namespace Fault

/-- The error that caused a fault.  Another kind does not hide what caused the error
it is put on. -/
def source? : Fault → Option Fault
  | .layer _ inner => some inner
  | .kinded _ inner => inner.source?
  | .dispatch error => error.source?
  | .archive error => error.source?
  | .settings error => error.source?
  | _ => none

end Fault

mutual

/-- A bound on the number of links of a fault. -/
def Fault.depth : Fault → Nat
  | .layer _ inner => inner.depth + 1
  | .kinded _ inner => inner.depth + 1
  | .dispatch error => error.depth + 1
  | .archive _ => 2
  | .settings _ => 2
  | _ => 1

/-- A bound on the number of links below a dispatch error. -/
def DispatchError.depth : DispatchError → Nat
  | .context inner => inner.depth
  | .handler inner => inner.depth
  | _ => 0

end

namespace Fault

/-- The links of a fault, as many as a budget allows. -/
def walk : Nat → Fault → List Fault
  | 0, _ => []
  | budget + 1, fault =>
    fault ::
      match fault.source? with
      | some inner => walk budget inner
      | none => []

/-- The links of a fault, outermost first. -/
def links (fault : Fault) : List Fault :=
  walk fault.depth fault

/-- The cause that a link is reported as. -/
def cause (fault : Fault) : Cause :=
  ⟨fault.kind, fault.message⟩

end Fault

/-- The failure that a fault is reported as. -/
def Failure.ofFault (fault : Fault) : Failure :=
  ⟨fault.links.map Fault.cause⟩

/-- The failure that a dispatch error is reported as: that of the error within, so that
the caller sees what was raised. -/
def DispatchError.failure : DispatchError → Failure
  | .tree error => Failure.ofFault (.tree error)
  | .noHandler address name => Failure.ofFault (.dispatch (.noHandler address name))
  | .context inner => Failure.ofFault inner
  | .handler inner => Failure.ofFault inner
  | .panic message => Failure.single Failure.panicKind message

end ManagedTree
