import ManagedTree.Address.Form
import ManagedTree.Address.Resolve
import ManagedTree.Proofs.Address.Reading
import ManagedTree.Proofs.Outcome
import Mathlib.Data.List.Forall2

/-!
# Addresses as nodes

A node encodes an address when it is null for the root, a text that is read as the address, or a
list whose items pair the key and the value of one element each.  An address is read from the nodes
that encode it and from no others, and of a list the first item that encodes no element tells what
is wrong.
-/

namespace ManagedTree

open Outcome

/-- A node pairs a key and a value: it is an object whose only member is the value under the key,
or the list of the two. -/
inductive Pairs (key value : String) : Node → Prop
  /-- The value is the only member. -/
  | member : Pairs key value (.object [(key, .text value)])
  /-- The key and the value are the items of a list. -/
  | items : Pairs key value (.list [.text key, .text value])

namespace Element

/-- A node pairs the key and the value of an element. -/
def Encodes (node : Node) (element : Element) : Prop :=
  Pairs element.key element.value node

/-- What is wrong with a node in the place of an element: a part that it pairs is empty, or it
pairs nothing. -/
inductive Flawed (node : Node) : AddressFlaw → Prop
  /-- The key or the value is empty. -/
  | emptyPart {key value : String} :
      Pairs key value node → key = "" ∨ value = "" → Flawed node (.emptyPart key value)
  /-- There are no key and value. -/
  | notElement :
      (∀ key value, ¬ Pairs key value node) → Flawed node (.notElement node)

theorem make_eq_ok_iff
    {key value : String}
    {element : Element} :
    make key value = .ok element ↔ element.key = key ∧ element.value = value := by
  constructor
  · exact make_eq_ok
  · rintro ⟨rfl, rfl⟩
    exact make_self element

theorem make_of_empty
    {key value : String}
    (empty : key = "" ∨ value = "") :
    make key value = .error (.malformedAddress (.emptyPart key value)) := by
  rw [make, dif_neg]
  rintro ⟨someKey, someValue⟩
  exact empty.elim someKey someValue

theorem ofNode_of_pairs
    {key value : String}
    {node : Node}
    (pairs : Pairs key value node) :
    ofNode node = make key value := by
  cases pairs <;> rfl

theorem ofNode_of_not_pairs
    {node : Node}
    (unpaired : ∀ key value, ¬ Pairs key value node) :
    ofNode node = .error (.malformedAddress (.notElement node)) := by
  unfold ofNode
  split
  · exact absurd .member (unpaired _ _)
  · exact absurd .items (unpaired _ _)
  · rfl

/-- An element is read from the nodes that pair its parts. -/
theorem ofNode_eq_ok_iff
    {node : Node}
    {element : Element} :
    ofNode node = .ok element ↔ Encodes node element := by
  constructor
  · intro read
    by_cases paired : ∃ key value, Pairs key value node
    · obtain ⟨key, value, pairs⟩ := paired
      rw [ofNode_of_pairs pairs, make_eq_ok_iff] at read
      obtain ⟨rfl, rfl⟩ := read
      exact pairs
    · rw [ofNode_of_not_pairs fun key value pairs => paired ⟨key, value, pairs⟩] at read
      cases read
  · intro encodes
    rw [ofNode_of_pairs encodes, make_self]

theorem ofNode_of_flawed
    {node : Node}
    {flaw : AddressFlaw}
    (flawed : Flawed node flaw) :
    ofNode node = .error (.malformedAddress flaw) := by
  cases flawed with
  | emptyPart pairs empty => rw [ofNode_of_pairs pairs, make_of_empty empty]
  | notElement unpaired => exact ofNode_of_not_pairs unpaired

/-- A node encodes an element or has a flaw. -/
theorem encodes_or_flawed (node : Node) :
    (∃ element, Encodes node element) ∨ ∃ flaw, Flawed node flaw := by
  by_cases paired : ∃ key value, Pairs key value node
  · obtain ⟨key, value, pairs⟩ := paired
    by_cases empty : key = "" ∨ value = ""
    · exact Or.inr ⟨_, .emptyPart pairs empty⟩
    · obtain ⟨someKey, someValue⟩ := not_or.1 empty
      exact Or.inl ⟨⟨key, value, someKey, someValue⟩, pairs⟩
  · exact Or.inr ⟨_, .notElement fun key value pairs => paired ⟨key, value, pairs⟩⟩

end Element

namespace Address

/-- A node encodes an address. -/
inductive Encodes : Node → Address → Prop
  /-- The undefined node encodes the root. -/
  | null : Encodes .null root
  /-- A text encodes the address that it is read as. -/
  | text {text : String} {address : Address} :
      ofText text = .ok address → Encodes (.text text) address
  /-- A list encodes the elements of an address one by one. -/
  | list {items : List Node} {address : Address} :
      List.Forall₂ Element.Encodes items address.elements → Encodes (.list items) address

/-- The first item of a list that encodes no element has a flaw. -/
def FirstFlaw (items : List Node) (flaw : AddressFlaw) : Prop :=
  ∃ good bad rest, items = good ++ bad :: rest ∧
    (∀ item ∈ good, ∃ element, Element.Encodes item element) ∧ Element.Flawed bad flaw

theorem FirstFlaw.cons
    {item : Node}
    {items : List Node}
    {element : Element}
    {flaw : AddressFlaw}
    (encodes : Element.Encodes item element)
    (others : FirstFlaw items flaw) :
    FirstFlaw (item :: items) flaw := by
  obtain ⟨good, bad, rest, rfl, encode, flawed⟩ := others
  refine ⟨item :: good, bad, rest, rfl, ?_, flawed⟩
  intro other present
  rcases List.mem_cons.1 present with rfl | later
  · exact ⟨element, encodes⟩
  · exact encode other later

/-- Elements are read from items that encode them one by one. -/
theorem elementsOfNodes_eq_ok_iff
    {items : List Node}
    {elements : List Element} :
    elementsOfNodes items = .ok elements ↔ List.Forall₂ Element.Encodes items elements := by
  induction items generalizing elements with
  | nil => simp [elementsOfNodes, eq_comm]
  | cons item items inductionHypothesis =>
      simp only [elementsOfNodes, bind_eq_ok_iff, Element.ofNode_eq_ok_iff, inductionHypothesis,
        Except.ok.injEq, List.forall₂_cons_left_iff]
      constructor
      · rintro ⟨element, encodes, others, encode, rfl⟩
        exact ⟨element, others, encodes, encode, rfl⟩
      · rintro ⟨element, others, encodes, encode, rfl⟩
        exact ⟨element, encodes, others, encode, rfl⟩

theorem elementsOfNodes_of_firstFlaw
    {items : List Node}
    {flaw : AddressFlaw}
    (firstFlaw : FirstFlaw items flaw) :
    elementsOfNodes items = .error (.malformedAddress flaw) := by
  obtain ⟨good, bad, rest, rfl, encode, flawed⟩ := firstFlaw
  induction good with
  | nil =>
      rw [List.nil_append, elementsOfNodes, Element.ofNode_of_flawed flawed]
      rfl
  | cons item good inductionHypothesis =>
      obtain ⟨element, encodes⟩ := encode item (by simp)
      rw [List.cons_append, elementsOfNodes, Element.ofNode_eq_ok_iff.2 encodes,
        inductionHypothesis fun other present => encode other (by simp [present])]
      rfl

/-- Items encode elements one by one, or a first one has a flaw. -/
theorem encode_or_firstFlaw (items : List Node) :
    (∃ elements, List.Forall₂ Element.Encodes items elements) ∨
      ∃ flaw, FirstFlaw items flaw := by
  induction items with
  | nil => exact Or.inl ⟨[], .nil⟩
  | cons item items inductionHypothesis =>
      rcases Element.encodes_or_flawed item with ⟨element, encodes⟩ | ⟨flaw, flawed⟩
      · rcases inductionHypothesis with ⟨elements, encode⟩ | ⟨flaw, others⟩
        · exact Or.inl ⟨element :: elements, .cons encodes encode⟩
        · exact Or.inr ⟨flaw, others.cons encodes⟩
      · exact Or.inr ⟨flaw, [], item, items, rfl, by simp, flawed⟩

/-- A list with a flaw is read as nothing else. -/
theorem ofNode_list_eq_error_iff
    {items : List Node}
    {error : TreeError} :
    ofNode (.list items) = .error error ↔
      ∃ flaw, FirstFlaw items flaw ∧ error = .malformedAddress flaw := by
  rcases encode_or_firstFlaw items with ⟨elements, encode⟩ | ⟨flaw, firstFlaw⟩
  · have read := elementsOfNodes_eq_ok_iff.2 encode
    constructor
    · intro failed
      rw [ofNode, read] at failed
      cases failed
    · rintro ⟨flaw, firstFlaw, -⟩
      rw [elementsOfNodes_of_firstFlaw firstFlaw] at read
      cases read
  · have failed : ofNode (.list items) = .error (.malformedAddress flaw) := by
      rw [ofNode, elementsOfNodes_of_firstFlaw firstFlaw]
      rfl
    constructor
    · intro same
      rw [failed] at same
      exact ⟨flaw, firstFlaw, (Except.error.inj same).symm⟩
    · rintro ⟨other, otherFlaw, rfl⟩
      have same := elementsOfNodes_of_firstFlaw otherFlaw
      rw [elementsOfNodes_of_firstFlaw firstFlaw] at same
      rw [failed, Except.error.inj same]

/-- An address is read from the nodes that encode it. -/
theorem ofNode_eq_ok_iff
    {node : Node}
    {address : Address} :
    ofNode node = .ok address ↔ Encodes node address := by
  constructor
  · intro read
    cases node with
    | null =>
        cases read
        exact .null
    | text text => exact .text read
    | list items =>
        obtain ⟨elements, found, same⟩ := bind_eq_ok_iff.1 read
        cases same
        exact .list (elementsOfNodes_eq_ok_iff.1 found)
    | bool | number | object => cases read
  · intro encodes
    cases encodes with
    | null => rfl
    | text read => exact read
    | list encode =>
        rw [ofNode, elementsOfNodes_eq_ok_iff.2 encode]
        rfl

/-- A node that encodes no address is malformed. -/
theorem ofNode_of_not_encodes
    {node : Node}
    (meaningless : ∀ address, ¬ Encodes node address) :
    ∃ flaw, ofNode node = .error (.malformedAddress flaw) := by
  cases outcome : ofNode node with
  | ok address => exact absurd (ofNode_eq_ok_iff.1 outcome) (meaningless address)
  | error error =>
      suffices malformed : ∃ flaw, error = .malformedAddress flaw by
        obtain ⟨flaw, rfl⟩ := malformed
        exact ⟨flaw, rfl⟩
      cases node with
      | null => cases outcome
      | text text => exact ofText_error outcome
      | list items =>
          obtain ⟨flaw, -, same⟩ := ofNode_list_eq_error_iff.1 outcome
          exact ⟨flaw, same⟩
      | bool | number | object =>
          cases outcome
          exact ⟨_, rfl⟩

/-- The text of a displayable address is read as that address. -/
theorem ofText_text
    {address : Address}
    (displayable : address.Displayable) :
    ofText address.text = .ok address := by
  refine ofText_eq_ok_iff.2 ⟨?_, fun element present => ?_⟩
  · rw [trim_text displayable, toList_text]
    rfl
  · obtain ⟨slash, equals⟩ := displayable.keys element present
    refine ⟨?_, equals⟩
    have different : '/' ≠ '=' := by decide
    simp [Element.characters, slash, different, displayable.values element present]

/-- An address is read from a node exactly when the node encodes it.  Of a list that encodes none,
the first item without an element tells what is wrong, and every node that encodes no address is
malformed.  An address is read back from its own node, whatever its keys and values are, and from
its own text when that has a meaning.  All nodes that encode one address lead to the same node of
every tree. -/
theorem ofNode_encodes
    (node : Node)
    (address : Address) :
    (ofNode node = .ok address ↔ Encodes node address) ∧
      (∀ items flaw, node = .list items →
        (ofNode node = .error (.malformedAddress flaw) ↔ FirstFlaw items flaw)) ∧
      ((∀ other, ¬ Encodes node other) → ∃ flaw, ofNode node = .error (.malformedAddress flaw)) ∧
      ofNode address.toNode = .ok address ∧
      (address.Displayable → ofNode (.text address.text) = .ok address) ∧
      ∀ other tree, Encodes node address → Encodes other address →
        (ofNode node >>= fun read => read.find tree) =
          (ofNode other >>= fun read => read.find tree) := by
  refine ⟨ofNode_eq_ok_iff, ?_, ofNode_of_not_encodes, ofNode_toNode address, ofText_text, ?_⟩
  · rintro items flaw rfl
    rw [ofNode_list_eq_error_iff]
    constructor
    · rintro ⟨other, firstFlaw, same⟩
      cases same
      exact firstFlaw
    · intro firstFlaw
      exact ⟨flaw, firstFlaw, rfl⟩
  · intro other tree encodes encodesToo
    rw [ofNode_eq_ok_iff.2 encodes, ofNode_eq_ok_iff.2 encodesToo]

/-- Both forms of elements may stand in one list, and parts that no text could show are read. -/
example :
    ofNode (.list [.object [("a/b", .text " = ")], .list [.text "k=", .text "v/"]]) =
      .ok ⟨[⟨"a/b", " = ", by decide, by decide⟩, ⟨"k=", "v/", by decide, by decide⟩]⟩ := by
  rfl

end Address
end ManagedTree
