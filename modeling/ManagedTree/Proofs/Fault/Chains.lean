import ManagedTree.Fault.Links

/-!
# Causes of faults

The links of a fault are found by going from each error to the one that caused it, until nothing
caused the last one.  The causes of the failure that a fault is reported as follow the layers of
the fault: a layer adds a cause, and another kind only renames the first one.
-/

namespace ManagedTree
namespace Fault

/-- Errors, each caused by the next one; nothing caused the last one. -/
inductive Chain : Fault → List Fault → Prop
  /-- An error that nothing caused. -/
  | last {fault : Fault} :
      fault.source? = none → Chain fault [fault]
  /-- An error, and the chain of the one that caused it. -/
  | more {fault inner : Fault} {links : List Fault} :
      fault.source? = some inner → Chain inner links → Chain fault (fault :: links)

/-! ## The budget of a walk -/

theorem depth_pos (fault : Fault) : 0 < fault.depth := by
  cases fault <;> exact Nat.succ_pos _

/-- What caused a fault is less deep. -/
theorem depth_lt_of_source?
    {fault inner : Fault}
    (caused : fault.source? = some inner) :
    inner.depth < fault.depth := by
  match fault with
  | .layer _ within =>
      obtain rfl : within = inner := Option.some.inj caused
      exact Nat.lt_succ_self _
  | .kinded _ within =>
      have withinCaused : within.source? = some inner := caused
      exact Nat.lt_succ_of_lt (depth_lt_of_source? withinCaused)
  | .dispatch (.context within) | .dispatch (.handler within) =>
      obtain rfl : within = inner := Option.some.inj caused
      exact Nat.lt_succ_self _
  | .archive error =>
      cases error <;> cases caused <;> exact Nat.lt_succ_self _
  | .settings error =>
      cases error <;> cases caused <;> exact Nat.lt_succ_self _

/-- The budget of a walk does not matter once it covers the depth of the fault. -/
theorem walk_congr
    {budget other : Nat}
    {fault : Fault}
    (enough : fault.depth ≤ budget)
    (otherEnough : fault.depth ≤ other) :
    walk budget fault = walk other fault := by
  have positive := fault.depth_pos
  induction budget generalizing other fault with
  | zero => omega
  | succ budget inductionHypothesis =>
      cases other with
      | zero => omega
      | succ other =>
          rw [walk, walk]
          cases caused : fault.source? with
          | none => rfl
          | some inner =>
              have less := depth_lt_of_source? caused
              exact congrArg (List.cons fault)
                (inductionHypothesis (by omega) (by omega) inner.depth_pos)

/-- The links of a fault are the fault and the links of what caused it. -/
theorem links_eq (fault : Fault) : fault.links = fault :: fault.source?.elim [] links := by
  have positive := fault.depth_pos
  rw [links]
  cases covers : fault.depth with
  | zero => omega
  | succ budget =>
      rw [walk]
      cases caused : fault.source? with
      | none => rfl
      | some inner =>
          have less := depth_lt_of_source? caused
          exact congrArg (List.cons fault) (walk_congr (by omega) (Nat.le_refl _))

/-- The links of a fault are the chain of errors that begins with it. -/
theorem chain_links (fault : Fault) : fault.Chain fault.links := by
  rw [links_eq]
  cases caused : fault.source? with
  | none => exact .last caused
  | some inner => exact .more caused inner.chain_links
termination_by fault.depth
decreasing_by exact depth_lt_of_source? caused

/-- There is only one chain of errors that begins with a fault. -/
theorem Chain.eq_links
    {fault : Fault}
    {links : List Fault}
    (chain : fault.Chain links) :
    links = fault.links := by
  induction chain with
  | last uncaused => rw [links_eq, uncaused, Option.elim_none]
  | more caused _ inductionHypothesis =>
      rw [links_eq, caused, Option.elim_some, ← inductionHypothesis]

/-- Other kinds hide neither what caused an error nor its wording. -/
theorem foldr_kinded
    (kinds : List String)
    (inner : Fault) :
    (kinds.foldr kinded inner).source? = inner.source? ∧
      (kinds.foldr kinded inner).message = inner.message := by
  induction kinds with
  | nil => exact ⟨rfl, rfl⟩
  | cons kind kinds inductionHypothesis => exact inductionHypothesis

end Fault

/-! ## Causes, layer by layer -/

namespace Failure

open Fault

theorem causes_ofFault (fault : Fault) :
    (ofFault fault).causes =
      fault.cause :: fault.source?.elim [] fun inner => (ofFault inner).causes := by
  rw [ofFault, links_eq, List.map_cons]
  cases fault.source? <;> rfl

/-- A fault around another one is one cause more. -/
theorem causes_of_source?
    {fault inner : Fault}
    (caused : fault.source? = some inner) :
    (ofFault fault).causes = fault.cause :: (ofFault inner).causes := by
  rw [causes_ofFault, caused, Option.elim_some]

theorem causes_of_source?_eq_none
    {fault : Fault}
    (uncaused : fault.source? = none) :
    (ofFault fault).causes = [fault.cause] := by
  rw [causes_ofFault, uncaused, Option.elim_none]

/-- Another kind replaces that of the first cause, and of several other kinds the outermost one
counts. -/
theorem causes_kinded
    (kind : String)
    (kinds : List String)
    (inner : Fault) :
    ∃ first rest, (ofFault inner).causes = first :: rest ∧
      (ofFault ((kind :: kinds).foldr kinded inner)).causes = ⟨kind, first.message⟩ :: rest := by
  refine ⟨_, _, causes_ofFault inner, ?_⟩
  obtain ⟨sameSource, sameMessage⟩ := foldr_kinded kinds inner
  rw [List.foldr_cons, causes_ofFault, source?, sameSource, cause, message, sameMessage]
  rfl

/-- What faults are reported as.  From every fault there is a chain of errors, each of which caused
the one before, and every one of them is a cause, with its own kind and wording.  A layer is a cause
of unknown kind before the causes of the error within.  Another kind replaces that of the first
cause, and of several the outermost one counts.  A dispatch that failed with an error of the handler,
or of what prepares it, is one cause before those that are reported for it.  One that failed for an
address, an operation or want of a handler is reported as one cause with the same wording, be it as
an error or as a failure. -/
theorem ofFault_causes :
    (∀ fault : Fault, ∃ links, fault.Chain links) ∧
    (∀ (fault : Fault) (links : List Fault), fault.Chain links →
      (ofFault fault).causes = links.map fun link => ⟨link.kind, link.message⟩) ∧
    (∀ message inner,
      (ofFault (.layer message inner)).causes = ⟨"error", message⟩ :: (ofFault inner).causes) ∧
    (∀ kind kinds inner, ∃ first rest, (ofFault inner).causes = first :: rest ∧
      (ofFault ((kind :: kinds).foldr Fault.kinded inner)).causes =
        ⟨kind, first.message⟩ :: rest) ∧
    (∀ error inner, error = .context inner ∨ error = .handler inner →
      (ofFault (.dispatch error)).causes =
        ⟨(Fault.dispatch error).kind, error.message⟩ :: error.failure.causes) ∧
    ∀ error, (∃ flaw, error = .tree flaw) ∨ (∃ address name, error = .noHandler address name) →
      ∃ kind, error.failure.causes = [⟨kind, error.message⟩] ∧
        (ofFault (.dispatch error)).causes = [⟨(Fault.dispatch error).kind, error.message⟩] := by
  refine ⟨fun fault => ⟨fault.links, fault.chain_links⟩, fun fault links chain => ?_,
    fun message inner => causes_of_source? rfl, causes_kinded, ?_, ?_⟩
  · rw [chain.eq_links]
    rfl
  · rintro error inner (rfl | rfl)
    · exact causes_of_source? rfl
    · exact causes_of_source? rfl
  · rintro error (⟨flaw, rfl⟩ | ⟨address, name, rfl⟩)
    · exact ⟨_, causes_of_source?_eq_none rfl, causes_of_source?_eq_none rfl⟩
    · exact ⟨_, causes_of_source?_eq_none rfl, causes_of_source?_eq_none rfl⟩

/-- Two other kinds on a layer: the outer one counts, and what the layer covers stays. -/
example :
    (ofFault (.layer "reload aborted" (.kinded "upstream" (.kinded "transport"
        (.layer "fetch failed" (.plain "connection reset")))))).causes =
      [⟨"error", "reload aborted"⟩, ⟨"upstream", "fetch failed"⟩, ⟨"error", "connection reset"⟩] :=
  rfl

end Failure
end ManagedTree
