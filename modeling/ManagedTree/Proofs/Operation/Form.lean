import ManagedTree.Operation
import ManagedTree.Proofs.Node.Alike

/-!
# Operations as nodes

An operation that was read from a node has a node that lists its name, its address and the
parameters in order, and it is read from that node again.  Of the operations that are put together
from a name, an address and parameters, those with a name and without a parameter named like one of
the two members for name and address are the ones that are read from their nodes.
-/

namespace ManagedTree
namespace Operation

/-- The operation with several parameters, one after another. -/
def withParams (operation : Operation) (params : List (String × Node)) : Operation :=
  params.foldl (fun operation param => operation.withParam param.1 param.2) operation

theorem withParams_eq
    (operation : Operation)
    (params : List (String × Node)) :
    operation.withParams params =
      { operation with
        params := params.foldl (fun list param => Keyed.put param.1 param.2 list)
          operation.params } := by
  rw [withParams]
  induction params generalizing operation with
  | nil => rfl
  | cons param params inductionHypothesis => exact inductionHypothesis _

theorem isParam_iff
    {field : String × Node} :
    isParam field = true ↔ field.1 ≠ nameField ∧ field.1 ≠ addressField := by
  simp [isParam]

/-! ## Reading operations -/

theorem nameOf_eq_ok_iff
    {fields : List (String × Node)}
    {name : String} :
    nameOf fields = .ok name ↔ Keyed.get? nameField fields = some (.text name) ∧ name ≠ "" := by
  rw [nameOf]
  cases Keyed.get? nameField fields with
  | none => simp
  | some node =>
      cases node with
      | text other =>
          by_cases empty : other = ""
          · simp [empty]
          · simp only [if_neg empty, Except.ok.injEq, Option.some.injEq, Node.text.injEq]
            exact ⟨fun same => ⟨same, same ▸ empty⟩, And.left⟩
      | _ => simp

/-- An operation is read from a composite node whose members hold its name and its address, and
the other members are its parameters. -/
theorem ofNode_eq_ok_iff
    {node : Node}
    {operation : Operation} :
    ofNode node = .ok operation ↔
      ∃ fields, node = .object fields ∧ nameOf fields = .ok operation.name ∧
        Address.ofNode ((Keyed.get? addressField fields).getD .null) = .ok operation.address ∧
        operation.params = fields.filter isParam := by
  obtain ⟨name, address, params⟩ := operation
  cases node with
  | object fields =>
      rw [ofNode]
      constructor
      · intro read
        cases named : nameOf fields with
        | error error =>
            rw [named] at read
            cases read
        | ok found =>
            cases addressed : Address.ofNode ((Keyed.get? addressField fields).getD .null) with
            | error error =>
                rw [named, addressed] at read
                cases read
            | ok target =>
                rw [named, addressed] at read
                cases read
                exact ⟨fields, rfl, named, addressed, rfl⟩
      · rintro ⟨_, same, named, addressed, params⟩
        cases same
        dsimp only at named addressed params
        rw [named, addressed, params]
        rfl
  | _ => simp [ofNode]

/-! ## Writing operations -/

/-- The members for the name and the address. -/
def heading (operation : Operation) : List (String × Node) :=
  [(nameField, .text operation.name), (addressField, operation.address.toNode)]

theorem toNode_eq (operation : Operation) :
    operation.toNode =
      .object (operation.params.foldl (fun list param => Keyed.put param.1 param.2 list)
        operation.heading) := rfl

theorem distinct_heading (operation : Operation) : Keyed.Distinct operation.heading := by
  simp [heading, Keyed.Distinct, Keyed.keys, nameField, addressField]

/-- Parameters with names of their own follow the name and the address. -/
theorem toNode_of_isParam
    {operation : Operation}
    (distinct : Keyed.Distinct operation.params)
    (separate : ∀ param ∈ operation.params, isParam param = true) :
    operation.toNode = .object (operation.heading ++ operation.params) := by
  rw [toNode_eq, Keyed.foldl_put_of_distinct]
  rw [Keyed.Distinct, Keyed.keys, List.map_append, List.nodup_append]
  refine ⟨operation.distinct_heading, distinct, fun first reserved second present same => ?_⟩
  obtain ⟨param, among, rfl⟩ := List.mem_map.1 present
  obtain ⟨notName, notAddress⟩ := isParam_iff.1 (separate param among)
  subst same
  simp [heading, notName, notAddress] at reserved

/-- An operation with a name and with parameters that have names of their own is read from its
node. -/
theorem ofNode_toNode
    {operation : Operation}
    (named : operation.name ≠ "")
    (distinct : Keyed.Distinct operation.params)
    (separate : ∀ param ∈ operation.params, isParam param = true) :
    ofNode operation.toNode = .ok operation := by
  refine ofNode_eq_ok_iff.2 ⟨_, toNode_of_isParam distinct separate, ?_, ?_, ?_⟩
  · exact nameOf_eq_ok_iff.2 ⟨rfl, named⟩
  · exact Address.ofNode_toNode operation.address
  · rw [List.filter_append, List.filter_eq_self.2 separate]
    rfl

/-- The node of an operation gives back all of its parameters only if the operation has a name and
its parameters have names of their own. -/
theorem separate_of_ofNode_toNode
    {operation read : Operation}
    (distinct : Keyed.Distinct operation.params)
    (found : ofNode operation.toNode = .ok read)
    (kept : ∀ param ∈ operation.params, param.1 ∈ Keyed.keys read.params) :
    operation.name ≠ "" ∧ ∀ param ∈ operation.params, isParam param = true := by
  obtain ⟨fields, whole, named, -, params⟩ := ofNode_eq_ok_iff.1 found
  have separate : ∀ param ∈ operation.params, isParam param = true := by
    intro param present
    obtain ⟨other, among, same⟩ := List.mem_map.1 (kept param present)
    rw [params, List.mem_filter] at among
    rw [isParam_iff, ← same]
    exact isParam_iff.1 among.2
  refine ⟨?_, separate⟩
  rw [toNode_of_isParam distinct separate] at whole
  cases whole
  obtain ⟨written, visible⟩ := nameOf_eq_ok_iff.1 named
  have sameName : operation.name = read.name := Node.text.inj (Option.some.inj written)
  exact sameName ▸ visible

/-- Where the parameters are equal but for the order of members, all of them are given back. -/
theorem kept_of_alike
    {operation read : Operation}
    (distinct : Keyed.Distinct operation.params)
    (found : ofNode operation.toNode = .ok read)
    (alike : (Node.object read.params).Alike (.object operation.params)) :
    ∀ param ∈ operation.params, param.1 ∈ Keyed.keys read.params := by
  obtain ⟨fields, whole, -, -, params⟩ := ofNode_eq_ok_iff.1 found
  have distinctFields : Keyed.Distinct fields := by
    cases whole
    exact operation.distinct_heading.foldl_put operation.params
  have distinctRead : Keyed.Distinct read.params := by
    rw [params]
    exact List.Nodup.sublist (List.filter_sublist.map Prod.fst) distinctFields
  intro param present
  by_contra absent
  have both :=
    Node.eq_none_iff_of_rel ((Node.alike_object_iff distinctRead distinct).1 alike param.1)
  rw [Keyed.get?_eq_none_iff, Keyed.get?_eq_none_iff] at both
  exact both.1 absent (List.mem_map_of_mem present)

/-! ## Operations that are put together -/

section Built

variable (name : String) (address : Address) (params : List (String × Node))

theorem distinct_withParams : Keyed.Distinct ((new name address).withParams params).params := by
  have start : Keyed.Distinct (new name address).params := List.nodup_nil
  rw [withParams_eq]
  exact start.foldl_put params

theorem name_withParams : ((new name address).withParams params).name = name := by
  rw [withParams_eq, new]

/-- The parameters of an operation that was put together have the names that were given. -/
theorem forall_isParam_withParams :
    (∀ param ∈ ((new name address).withParams params).params, isParam param = true) ↔
      ∀ param ∈ params, param.1 ≠ "operation" ∧ param.1 ≠ "address" := by
  have names : ∀ list : List (String × Node), (∀ param ∈ list, isParam param = true) ↔
      ∀ key ∈ Keyed.keys list, key ≠ "operation" ∧ key ≠ "address" := by
    simp [Keyed.keys, isParam_iff, nameField, addressField]
  have kept : ∀ key, key ∈ Keyed.keys ((new name address).withParams params).params ↔
      key ∈ Keyed.keys params := by
    intro key
    rw [withParams_eq, Keyed.mem_keys_foldl_put_iff]
    exact or_iff_right List.not_mem_nil
  rw [names]
  simp only [kept]
  simp [Keyed.keys]

end Built

/-- An operation that is read from a node has a node that holds its name, its address as a list of
elements, and then the node's other members in order; and it is read from that node again.  An
operation that is put together from a name, an address and parameters is read from its node exactly
when its name is not empty and no parameter is named `operation` or `address`; an equal one, but for
the order of members, is read then only. -/
theorem ofNode_toNode_iff :
    (∀ node operation, Keyed.Distinct node.members → ofNode node = .ok operation →
      operation.toNode = .object
          ((nameField, .text operation.name) ::
            (addressField, .list (operation.address.elements.map fun element =>
              .object [(element.key, .text element.value)])) ::
            node.members.filter isParam) ∧
        ofNode operation.toNode = .ok operation) ∧
    ∀ name address params,
      (ofNode ((new name address).withParams params).toNode =
          .ok ((new name address).withParams params) ↔
        name ≠ "" ∧ ∀ param ∈ params, param.1 ≠ "operation" ∧ param.1 ≠ "address") ∧
      ((∃ read, ofNode ((new name address).withParams params).toNode = .ok read ∧
          read.alike ((new name address).withParams params) = true) →
        name ≠ "" ∧ ∀ param ∈ params, param.1 ≠ "operation" ∧ param.1 ≠ "address") := by
  constructor
  · intro node operation distinct found
    obtain ⟨fields, rfl, named, -, params⟩ := ofNode_eq_ok_iff.1 found
    have separate : ∀ param ∈ operation.params, isParam param = true := by
      intro param present
      rw [params, List.mem_filter] at present
      exact present.2
    have distinctParams : Keyed.Distinct operation.params := by
      rw [params]
      exact List.Nodup.sublist (List.filter_sublist.map Prod.fst) distinct
    refine ⟨?_, ofNode_toNode (nameOf_eq_ok_iff.1 named).2 distinctParams separate⟩
    rw [toNode_of_isParam distinctParams separate, params]
    rfl
  · intro name address params
    have distinct := distinct_withParams name address params
    have given := forall_isParam_withParams name address params
    have sameName := name_withParams name address params
    set operation := (new name address).withParams params
    rw [← given, ← sameName]
    refine ⟨⟨fun found => ?_, fun ⟨named, separate⟩ => ofNode_toNode named distinct separate⟩, ?_⟩
    · exact separate_of_ofNode_toNode distinct found fun _ => List.mem_map_of_mem
    · rintro ⟨read, found, alike⟩
      rw [Operation.alike, Bool.and_eq_true] at alike
      exact separate_of_ofNode_toNode distinct found (kept_of_alike distinct found alike.2)

/-- The members of a node in an order of its own, with the address as a text, and an operation with
a parameter that is given twice. -/
theorem ofNode_toNode_iff_reordered :
    let address : Address := ⟨[⟨"a", "b", by decide, by decide⟩]⟩
    let node : Node := .object [("value", Node.integer 1), ("address", .text " a=b"),
      ("operation", .text "write"), ("name", .null)]
    let operation : Operation := ⟨"write", address, [("value", Node.integer 1), ("name", .null)]⟩
    let built := (new "write" address).withParams [("value", .null), ("value", Node.integer 1)]
    (Keyed.Distinct node.members ∧ ofNode node = .ok operation ∧
        operation.toNode = .object [("operation", .text "write"),
          ("address", .list [.object [("a", .text "b")]]), ("value", Node.integer 1),
          ("name", .null)] ∧
        ofNode operation.toNode = .ok operation) ∧
      (∃ read, ofNode built.toNode = .ok read ∧ read.alike built = true) ∧
      ofNode built.toNode = .ok built := by
  intro address node operation built
  obtain ⟨rereads, builds⟩ := ofNode_toNode_iff
  have distinct : Keyed.Distinct node.members := by decide
  have found : ofNode node = .ok operation := by rfl
  obtain ⟨written, again⟩ := rereads node operation distinct found
  obtain ⟨exactly, alike⟩ := builds "write" address [("value", .null), ("value", Node.integer 1)]
  have read : ∃ read, ofNode built.toNode = .ok read ∧ read.alike built = true :=
    ⟨built, by rfl, by rfl⟩
  exact ⟨⟨distinct, found, written, again⟩, read, exactly.2 (alike read)⟩

end Operation
end ManagedTree
