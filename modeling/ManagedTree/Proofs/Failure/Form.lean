import ManagedTree.Failure.Form
import ManagedTree.Proofs.Node.Alike
import ManagedTree.Proofs.Outcome

/-!
# Failures as nodes

A node denotes a failure when it is a record of the flag `false` and a list with one record for
each cause.  Every failure is read from its own node, and failures are read from no other nodes than
those that denote them.  The order of members does not count, nor do members of other names.
-/

namespace ManagedTree
namespace Failure

open Outcome

/-- A node is a record of two values: it has them as members under the names of the fields, or it
is the list of the two. -/
inductive Record (first second : String) (left right : Node) : Node → Prop
  /-- The values are members. -/
  | members {members : List (String × Node)} :
      (first, left) ∈ members → (second, right) ∈ members →
        Record first second left right (.object members)
  /-- The values are the items of a list. -/
  | items : Record first second left right (.list [left, right])

/-- A node is a record of the kind and the wording of a cause. -/
def DenotesCause (node : Node) (cause : Cause) : Prop :=
  Record "kind" "message" (.text cause.kind) (.text cause.message) node

/-- A node is a record of a flag and a list of the causes of a failure. -/
def Denotes (flag : Bool) (node : Node) (failure : Failure) : Prop :=
  ∃ items, Record "success" "cause" (.bool flag) (.list items) node ∧
    List.Forall₂ DenotesCause items failure.causes

/-! ## Records -/

section Records

variable {α β : Type} {readFirst : Node → Except FormFlaw α} {readSecond : Node → Except FormFlaw β}
  {first second : String}

/-- What is read of a member, if it is there. -/
def MemberReads (read : Node → Except FormFlaw α) : Option Node → Option α → Prop :=
  Option.Rel fun node value => read node = .ok value

theorem memberReads_none_iff
    {read : Node → Except FormFlaw α}
    {value? : Option α} :
    MemberReads read none value? ↔ value? = none := by
  constructor
  · rintro ⟨⟩
    rfl
  · rintro rfl
    exact .none

theorem memberReads_some_iff
    {read : Node → Except FormFlaw α}
    {node : Node}
    {value? : Option α} :
    MemberReads read (some node) value? ↔ ∃ value, read node = .ok value ∧ value? = some value := by
  constructor
  · rintro ⟨reads⟩
    exact ⟨_, reads, rfl⟩
  · rintro ⟨value, reads, rfl⟩
    exact .some reads

theorem memberReads_eq_some_iff
    {read : Node → Except FormFlaw α}
    {node? : Option Node}
    {value : α} :
    MemberReads read node? (some value) ↔ ∃ node, node? = some node ∧ read node = .ok value := by
  constructor
  · rintro ⟨reads⟩
    exact ⟨_, rfl, reads⟩
  · rintro ⟨node, rfl, reads⟩
    exact .some reads

/-- The fields are read from the members under their names. -/
theorem readFields_eq_ok_iff
    (different : first ≠ second)
    {members : List (String × Node)}
    (distinct : Keyed.Distinct members)
    {left : Option α}
    {right : Option β} :
    readFields first second readFirst readSecond members = .ok (left, right) ↔
      MemberReads readFirst (Keyed.get? first members) left ∧
        MemberReads readSecond (Keyed.get? second members) right := by
  induction members generalizing left right with
  | nil => simp [readFields, memberReads_none_iff, eq_comm]
  | cons member members inductionHypothesis =>
      obtain ⟨name, node⟩ := member
      obtain ⟨once, distinctRest⟩ : name ∉ Keyed.keys members ∧ Keyed.Distinct members :=
        List.nodup_cons.1 distinct
      have rest := @inductionHypothesis distinctRest
      -- A field that is read here is not read again further on.
      have absent := Keyed.get?_eq_none_iff.2 once
      rw [readFields, Keyed.get?, Keyed.get?]
      by_cases isFirst : name = first
      · subst isFirst
        simp only [if_true, different, if_false, bind_eq_ok_iff, memberReads_some_iff,
          Prod.exists, rest, absent, memberReads_none_iff]
        constructor
        · rintro ⟨value, reads, _, found, ⟨-, others⟩, ends⟩
          cases ends
          exact ⟨⟨value, reads, rfl⟩, others⟩
        · rintro ⟨⟨value, reads, rfl⟩, others⟩
          exact ⟨value, reads, none, right, ⟨rfl, others⟩, rfl⟩
      · by_cases isSecond : name = second
        · subst isSecond
          simp only [isFirst, if_true, if_false, bind_eq_ok_iff, memberReads_some_iff,
            Prod.exists, rest, absent, memberReads_none_iff]
          constructor
          · rintro ⟨value, reads, found, _, ⟨others, -⟩, ends⟩
            cases ends
            exact ⟨others, value, reads, rfl⟩
          · rintro ⟨others, value, reads, rfl⟩
            exact ⟨value, reads, left, none, ⟨others, rfl⟩, rfl⟩
        · rw [if_neg isFirst, if_neg isSecond, if_neg isFirst, if_neg isSecond]
          exact rest

/-- A record is read as the two values that are read from its parts. -/
theorem readRecord_eq_ok_iff
    {record : String}
    (different : first ≠ second)
    {node : Node}
    (distinct : Keyed.Distinct node.members)
    {left : α}
    {right : β} :
    readRecord record first second readFirst readSecond node = .ok (left, right) ↔
      ∃ leftNode rightNode, Record first second leftNode rightNode node ∧
        readFirst leftNode = .ok left ∧ readSecond rightNode = .ok right := by
  cases node with
  | object members =>
      rw [readRecord, bind_eq_ok_iff]
      constructor
      · rintro ⟨⟨left?, right?⟩, found, ends⟩
        obtain ⟨firstReads, secondReads⟩ := (readFields_eq_ok_iff different distinct).1 found
        cases left? with
        | none => cases ends
        | some first =>
            cases right? with
            | none => cases ends
            | some second =>
                cases ends
                obtain ⟨leftNode, leftFound, leftReads⟩ := memberReads_eq_some_iff.1 firstReads
                obtain ⟨rightNode, rightFound, rightReads⟩ := memberReads_eq_some_iff.1 secondReads
                exact ⟨leftNode, rightNode,
                  .members ((Keyed.get?_eq_some_iff distinct).1 leftFound)
                    ((Keyed.get?_eq_some_iff distinct).1 rightFound),
                  leftReads, rightReads⟩
      · rintro ⟨leftNode, rightNode, ⟨leftPresent, rightPresent⟩, leftReads, rightReads⟩
        refine ⟨(some left, some right), (readFields_eq_ok_iff different distinct).2 ⟨?_, ?_⟩, rfl⟩
        · rw [(Keyed.get?_eq_some_iff distinct).2 leftPresent]
          exact .some leftReads
        · rw [(Keyed.get?_eq_some_iff distinct).2 rightPresent]
          exact .some rightReads
  | list items =>
      match items with
      | [] =>
          constructor
          · rintro ⟨⟩
          · rintro ⟨_, _, ⟨⟩, _⟩
      | [node] =>
          rw [readRecord, bind_eq_ok_iff]
          constructor
          · rintro ⟨_, _, ⟨⟩⟩
          · rintro ⟨_, _, ⟨⟩, _⟩
      | [leftNode, rightNode] =>
          simp only [readRecord, bind_eq_ok_iff]
          constructor
          · rintro ⟨_, leftReads, _, rightReads, ends⟩
            cases ends
            exact ⟨leftNode, rightNode, .items, leftReads, rightReads⟩
          · rintro ⟨_, _, ⟨⟩, leftReads, rightReads⟩
            exact ⟨left, leftReads, right, rightReads, rfl⟩
      | leftNode :: rightNode :: third :: rest =>
          simp only [readRecord, bind_eq_ok_iff]
          constructor
          · rintro ⟨_, _, _, _, ⟨⟩⟩
          · rintro ⟨_, _, ⟨⟩, _⟩
  | _ =>
      constructor
      · rintro ⟨⟩
      · rintro ⟨_, _, ⟨⟩, _⟩

end Records

/-- The parts of an unambiguous record are unambiguous. -/
theorem Record.unambiguous
    {first second : String}
    {left right node : Node}
    (record : Record first second left right node)
    (unambiguous : node.Unambiguous) :
    left.Unambiguous ∧ right.Unambiguous := by
  cases record with
  | members leftPresent rightPresent =>
      have each := Node.unambiguousMembers_iff.1 unambiguous.2
      exact ⟨each _ leftPresent, each _ rightPresent⟩
  | items => exact ⟨unambiguous.1, unambiguous.2.1⟩

/-! ## Reading failures -/

theorem readBool_eq_ok_iff
    {node : Node}
    {value : Bool} :
    readBool node = .ok value ↔ node = .bool value := by
  cases node <;> simp [readBool]

theorem readText_eq_ok_iff
    {node : Node}
    {value : String} :
    readText node = .ok value ↔ node = .text value := by
  cases node <;> simp [readText]

theorem readCause_eq_ok_iff
    {node : Node}
    (unambiguous : node.Unambiguous)
    {cause : Cause} :
    readCause node = .ok cause ↔ DenotesCause node cause := by
  have different : "kind" ≠ "message" := by decide
  rw [readCause, bind_eq_ok_iff]
  simp only [Prod.exists, readRecord_eq_ok_iff different unambiguous.distinct, readText_eq_ok_iff]
  constructor
  · rintro ⟨kind, message, ⟨_, _, record, rfl, rfl⟩, ends⟩
    cases ends
    exact record
  · intro record
    exact ⟨cause.kind, cause.message, ⟨_, _, record, rfl, rfl⟩, rfl⟩

theorem readEach_eq_ok_iff
    {items : List Node}
    (unambiguous : ∀ item ∈ items, item.Unambiguous)
    {causes : List Cause} :
    readEach items = .ok causes ↔ List.Forall₂ DenotesCause items causes := by
  induction items generalizing causes with
  | nil => simp [readEach, eq_comm]
  | cons item items inductionHypothesis =>
      obtain ⟨first, others⟩ := List.forall_mem_cons.1 unambiguous
      simp only [readEach, bind_eq_ok_iff, readCause_eq_ok_iff first,
        inductionHypothesis others]
      constructor
      · rintro ⟨cause, denotes, causes, denoteOthers, ends⟩
        cases ends
        exact .cons denotes denoteOthers
      · rintro (_ | ⟨denotes, denoteOthers⟩)
        exact ⟨_, denotes, _, denoteOthers, rfl⟩

theorem readCauses_eq_ok_iff
    {node : Node}
    {causes : List Cause} :
    readCauses node = .ok causes ↔ ∃ items, node = .list items ∧ readEach items = .ok causes := by
  cases node <;> simp [readCauses]

/-- The flag and the causes are read from the nodes that denote them. -/
theorem readWire_eq_ok_iff
    {node : Node}
    (unambiguous : node.Unambiguous)
    {flag : Bool}
    {causes : List Cause} :
    readRecord "FailureWire" "success" "cause" readBool readCauses node = .ok (flag, causes) ↔
      Denotes flag node ⟨causes⟩ := by
  have different : "success" ≠ "cause" := by decide
  simp only [readRecord_eq_ok_iff different unambiguous.distinct, readBool_eq_ok_iff,
    readCauses_eq_ok_iff]
  constructor
  · rintro ⟨_, _, record, rfl, items, rfl, reads⟩
    have each := Node.unambiguousItems_iff.1 (record.unambiguous unambiguous).2
    exact ⟨items, record, (readEach_eq_ok_iff each).1 reads⟩
  · rintro ⟨items, record, denote⟩
    have each := Node.unambiguousItems_iff.1 (record.unambiguous unambiguous).2
    exact ⟨_, _, record, rfl, items, rfl, (readEach_eq_ok_iff each).2 denote⟩

theorem ofNode_eq_ok_iff
    {node : Node}
    (unambiguous : node.Unambiguous)
    {failure : Failure} :
    ofNode node = .ok failure ↔ Denotes false node failure := by
  rw [← readWire_eq_ok_iff unambiguous, ofNode, bind_eq_ok_iff]
  constructor
  · rintro ⟨⟨success, causes⟩, reads, ends⟩
    cases success with
    | false =>
        cases ends
        exact reads
    | true => cases ends
  · intro reads
    exact ⟨_, reads, rfl⟩

/-- What denotes a failure but for its flag is refused for that flag. -/
theorem ofNode_of_successful
    {node : Node}
    (unambiguous : node.Unambiguous)
    {failure : Failure}
    (denotes : Denotes true node failure) :
    ofNode node = .error .successful := by
  rw [ofNode, (readWire_eq_ok_iff unambiguous).2 denotes]
  rfl

/-! ## Writing failures -/

theorem denotesCause_causeNode (cause : Cause) : DenotesCause (causeNode cause) cause :=
  .members List.mem_cons_self (List.mem_cons_of_mem _ List.mem_cons_self)

theorem denotes_toNode (failure : Failure) : Denotes false failure.toNode failure := by
  refine ⟨failure.causes.map causeNode,
    .members List.mem_cons_self (List.mem_cons_of_mem _ List.mem_cons_self), ?_⟩
  rw [List.forall₂_map_left_iff]
  exact List.forall₂_same.2 fun cause _ => denotesCause_causeNode cause

theorem unambiguous_causeNode (cause : Cause) : (causeNode cause).Unambiguous :=
  ⟨by simp [Keyed.Distinct, Keyed.keys], trivial, trivial, trivial⟩

theorem unambiguous_toNode (failure : Failure) : failure.toNode.Unambiguous := by
  refine ⟨by simp [Keyed.Distinct, Keyed.keys], trivial, ?_, trivial⟩
  refine Node.unambiguousItems_iff.2 fun item present => ?_
  obtain ⟨cause, -, rfl⟩ := List.mem_map.1 present
  exact unambiguous_causeNode cause

theorem ofNode_toNode (failure : Failure) : ofNode failure.toNode = .ok failure :=
  (ofNode_eq_ok_iff failure.unambiguous_toNode).2 failure.denotes_toNode

end Failure

/-! ## Members that do not count -/

namespace Node

/-- A node is embedded in another one: they are equal but for the order of members, and but for
members that only the other one has. -/
inductive Embedded : Node → Node → Prop
  /-- The nodes are equal. -/
  | refl (node : Node) : Embedded node node
  /-- Every item is embedded in the item in its place. -/
  | list {items others : List Node} :
      List.Forall₂ Embedded items others → Embedded (.list items) (.list others)
  /-- Every member is embedded in its counterpart, a member of the same name. -/
  | object {members others : List (String × Node)} (counterpart : String → Node → Node) :
      (∀ name child, (name, child) ∈ members → (name, counterpart name child) ∈ others) →
      (∀ name child, (name, child) ∈ members → Embedded child (counterpart name child)) →
      Embedded (.object members) (.object others)

theorem Embedded.list_inv
    {items : List Node}
    {node : Node}
    (embedded : Embedded (.list items) node) :
    ∃ others, node = .list others ∧ List.Forall₂ Embedded items others := by
  cases embedded with
  | refl => exact ⟨items, rfl, List.forall₂_same.2 fun item _ => .refl item⟩
  | list each => exact ⟨_, rfl, each⟩

end Node

namespace Failure

/-- A record stays one in a node in which it is embedded. -/
theorem Record.embedded
    {first second : String}
    {left right node other : Node}
    (record : Record first second left right node)
    (embedded : node.Embedded other) :
    ∃ otherLeft otherRight, Record first second otherLeft otherRight other ∧
      left.Embedded otherLeft ∧ right.Embedded otherRight := by
  cases record with
  | members leftPresent rightPresent =>
      cases embedded with
      | refl => exact ⟨left, right, .members leftPresent rightPresent, .refl left, .refl right⟩
      | object _ present each =>
          exact ⟨_, _, .members (present _ _ leftPresent) (present _ _ rightPresent),
            each _ _ leftPresent, each _ _ rightPresent⟩
  | items =>
      obtain ⟨others, rfl, each⟩ := embedded.list_inv
      rcases each with _ | ⟨leftEmbedded, _ | ⟨rightEmbedded, ⟨⟩⟩⟩
      exact ⟨_, _, .items, leftEmbedded, rightEmbedded⟩

theorem DenotesCause.embedded
    {node other : Node}
    {cause : Cause}
    (denotes : DenotesCause node cause)
    (embedded : node.Embedded other) :
    DenotesCause other cause := by
  obtain ⟨kind, message, record, kindEmbedded, messageEmbedded⟩ := Record.embedded denotes embedded
  cases kindEmbedded
  cases messageEmbedded
  exact record

theorem forall₂_denotesCause_embedded
    {items others : List Node}
    {causes : List Cause}
    (denote : List.Forall₂ DenotesCause items causes)
    (embedded : List.Forall₂ Node.Embedded items others) :
    List.Forall₂ DenotesCause others causes := by
  induction denote generalizing others with
  | nil =>
      cases embedded
      exact .nil
  | cons denotes _ inductionHypothesis =>
      rcases embedded with _ | ⟨first, rest⟩
      exact .cons (denotes.embedded first) (inductionHypothesis rest)

/-- A node in which another one is embedded denotes the same failure. -/
theorem Denotes.embedded
    {flag : Bool}
    {node other : Node}
    {failure : Failure}
    (denotes : Denotes flag node failure)
    (embedded : node.Embedded other) :
    Denotes flag other failure := by
  obtain ⟨items, record, causes⟩ := denotes
  obtain ⟨_, _, otherRecord, flagEmbedded, listEmbedded⟩ := record.embedded embedded
  obtain ⟨others, rfl, each⟩ := listEmbedded.list_inv
  cases flagEmbedded
  exact ⟨others, otherRecord, forall₂_denotesCause_embedded causes each⟩

/-- A failure is read from its own node.  It is read from exactly those nodes that are a record of
the flag `false` and a list of one record for each cause: its kind and its wording, both texts.  A
record is an object with the two values as members or the list of the two.  Members that are in
another order, or that only one of two nodes has, do not count, at any depth.  What is such a
record but for the flag is refused for saying that it is a success. -/
theorem ofNode_denotes :
    (∀ failure : Failure, ofNode failure.toNode = .ok failure) ∧
    ∀ node : Node, node.Unambiguous → ∀ failure : Failure,
      (ofNode node = .ok failure ↔ Denotes false node failure) ∧
      (Denotes true node failure → ofNode node = .error .successful) ∧
      ∀ other : Node, other.Unambiguous → node.Embedded other →
        ofNode node = .ok failure → ofNode other = .ok failure := by
  refine ⟨ofNode_toNode, fun node unambiguous failure => ⟨ofNode_eq_ok_iff unambiguous,
    ofNode_of_successful unambiguous, fun other otherUnambiguous embedded reads => ?_⟩⟩
  have denotes := (ofNode_eq_ok_iff unambiguous).1 reads
  exact (ofNode_eq_ok_iff otherUnambiguous).2 (denotes.embedded embedded)

/-- A failure as an object that lists its causes in either form, the same with one member more and
in another order, and one that says that it is a success. -/
theorem ofNode_denotes_mixed :
    let items : List Node := [.object [("message", .text "fetch failed"), ("at", .null),
      ("kind", .text "upstream")], .list [.text "error", .text "connection reset"]]
    let causes : Node := .list items
    let failure : Failure := ⟨[⟨"upstream", "fetch failed"⟩, ⟨"error", "connection reset"⟩]⟩
    let node : Node := .object [("cause", causes), ("success", .bool false)]
    let other : Node := .object [("success", .bool false), ("at", .null), ("cause", causes)]
    let marked : Node := .list [.bool true, causes]
    (node.Unambiguous ∧ Denotes false node failure ∧ ofNode node = .ok failure) ∧
      (other.Unambiguous ∧ node.Embedded other ∧ ofNode other = .ok failure) ∧
      marked.Unambiguous ∧ Denotes true marked failure ∧ ofNode marked = .error .successful := by
  intro items causes failure node other marked
  obtain ⟨-, reading⟩ := ofNode_denotes
  have causesUnambiguous : causes.Unambiguous :=
    ⟨⟨by decide, trivial, trivial, trivial, trivial⟩, ⟨trivial, trivial, trivial⟩, trivial⟩
  have unambiguous : node.Unambiguous := ⟨by decide, causesUnambiguous, trivial, trivial⟩
  have otherUnambiguous : other.Unambiguous :=
    ⟨by decide, trivial, trivial, causesUnambiguous, trivial⟩
  have markedUnambiguous : marked.Unambiguous := ⟨trivial, causesUnambiguous, trivial⟩
  have each : List.Forall₂ DenotesCause items failure.causes :=
    .cons (.members (by simp) (by simp)) (.cons .items .nil)
  have denotes : Denotes false node failure :=
    ⟨items, .members (List.mem_cons_of_mem _ List.mem_cons_self) List.mem_cons_self, each⟩
  have embedded : node.Embedded other := by
    refine .object (fun _ child => child) (fun name child present => ?_) fun _ child _ => .refl child
    simp only [List.mem_cons, List.not_mem_nil, or_false] at present ⊢
    exact present.elim (fun cause => .inr (.inr cause)) .inl
  have markedDenotes : Denotes true marked failure := ⟨items, .items, each⟩
  have reads := (reading node unambiguous failure).1.2 denotes
  exact ⟨⟨unambiguous, denotes, reads⟩,
    ⟨otherUnambiguous, embedded,
      (reading node unambiguous failure).2.2 other otherUnambiguous embedded reads⟩,
    markedUnambiguous, markedDenotes,
    (reading marked markedUnambiguous failure).2.1 markedDenotes⟩

end Failure
end ManagedTree
