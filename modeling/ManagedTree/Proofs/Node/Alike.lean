import Mathlib.Data.List.Nodup
import Mathlib.Data.List.Perm.Subperm
import Mathlib.Data.Option.Defs
import ManagedTree.Node.Place

/-!
# Nodes that are alike

Two nodes are alike when they are equal but for the order of members.  Where no composite node
has two members of one name, two composite nodes are alike when they have members alike under
every name.  Writing alike values into alike nodes gives alike nodes.
-/

namespace ManagedTree
namespace Node

/-- What holds of leaves, and of lists and composite nodes where it holds of all items and members,
holds of all nodes. -/
@[elab_as_elim]
theorem childInduction
    {motive : Node → Prop}
    (null : motive .null)
    (bool : ∀ value, motive (.bool value))
    (number : ∀ value, motive (.number value))
    (text : ∀ value, motive (.text value))
    (list : ∀ items, (∀ item ∈ items, motive item) → motive (.list items))
    (object : ∀ members, (∀ member ∈ members, motive member.2) → motive (.object members))
    (node : Node) :
    motive node :=
  @Node.rec motive (fun items => ∀ item ∈ items, motive item)
    (fun members => ∀ member ∈ members, motive member.2) (fun member => motive member.2)
    null bool number text list object
    nofun (fun _ _ first others => List.forall_mem_cons.2 ⟨first, others⟩)
    nofun (fun _ _ first others => List.forall_mem_cons.2 ⟨first, others⟩)
    (fun _ _ node => node) node

mutual

/-- No composite node in a node has two members of one name. -/
def Unambiguous : Node → Prop
  | .list items => UnambiguousItems items
  | .object members => Keyed.Distinct members ∧ UnambiguousMembers members
  | _ => True

/-- No composite node in the items of a list has two members of one name. -/
def UnambiguousItems : List Node → Prop
  | [] => True
  | item :: items => item.Unambiguous ∧ UnambiguousItems items

/-- No composite node in the members of a node has two members of one name. -/
def UnambiguousMembers : List (String × Node) → Prop
  | [] => True
  | (_, member) :: members => member.Unambiguous ∧ UnambiguousMembers members

end

theorem unambiguousItems_iff
    {items : List Node} :
    UnambiguousItems items ↔ ∀ item ∈ items, item.Unambiguous := by
  induction items with
  | nil => simp [UnambiguousItems]
  | cons item items inductionHypothesis => simp [UnambiguousItems, inductionHypothesis]

theorem unambiguousMembers_iff
    {members : List (String × Node)} :
    UnambiguousMembers members ↔ ∀ member ∈ members, member.2.Unambiguous := by
  induction members with
  | nil => simp [UnambiguousMembers]
  | cons member members inductionHypothesis => simp [UnambiguousMembers, inductionHypothesis]

theorem Unambiguous.distinct
    {node : Node}
    (unambiguous : node.Unambiguous) :
    Keyed.Distinct node.members := by
  cases node with
  | object members => exact unambiguous.1
  | _ => exact List.nodup_nil

theorem Unambiguous.member
    {node child : Node}
    {name : String}
    (unambiguous : node.Unambiguous)
    (found : node.member? name = some child) :
    child.Unambiguous := by
  have present := (Keyed.get?_eq_some_iff unambiguous.distinct).1 found
  cases node with
  | object members => exact unambiguousMembers_iff.1 unambiguous.2 _ present
  | _ => cases present

theorem Unambiguous.get?
    {place : List String}
    {node reached : Node}
    (unambiguous : node.Unambiguous)
    (leads : get? place node = some reached) :
    reached.Unambiguous := by
  induction place generalizing node with
  | nil => exact Option.some.inj leads ▸ unambiguous
  | cons name place inductionHypothesis =>
      obtain ⟨child, member, below⟩ := Option.bind_eq_some_iff.1 leads
      exact inductionHypothesis (unambiguous.member member) below

/-- Two nodes are equal but for the order of members. -/
abbrev Alike (left right : Node) : Prop :=
  left.alike right = true

/-! ## What it is to be alike -/

theorem alikeItems_iff
    {lefts rights : List Node} :
    alikeItems lefts rights = true ↔ List.Forall₂ Alike lefts rights := by
  induction lefts generalizing rights with
  | nil => cases rights <;> simp [alikeItems]
  | cons left lefts inductionHypothesis =>
      cases rights <;> simp [alikeItems, inductionHypothesis]

theorem alikeMembers_iff
    {lefts rights : List (String × Node)} :
    alikeMembers lefts rights = true ↔
      ∀ member ∈ lefts,
        ∃ right, Keyed.get? member.1 rights = some right ∧ member.2.Alike right := by
  induction lefts with
  | nil => simp [alikeMembers]
  | cons member lefts inductionHypothesis =>
      obtain ⟨name, left⟩ := member
      rw [alikeMembers, Bool.and_eq_true, inductionHypothesis, List.forall_mem_cons]
      cases Keyed.get? name rights <;> simp

theorem eq_none_iff_of_rel
    {left right : Option Node}
    (alike : Option.Rel Alike left right) :
    left = none ↔ right = none := by
  cases alike <;> simp

/-- Composite nodes without two members of one name are alike when under every name both have
members that are alike or neither has one. -/
theorem alike_object_iff
    {lefts rights : List (String × Node)}
    (leftsDistinct : Keyed.Distinct lefts)
    (rightsDistinct : Keyed.Distinct rights) :
    (Node.object lefts).Alike (.object rights) ↔
      ∀ name, Option.Rel Alike (Keyed.get? name lefts) (Keyed.get? name rights) := by
  rw [Alike, alike, Bool.and_eq_true, beq_iff_eq, alikeMembers_iff]
  constructor
  · rintro ⟨sameLength, matched⟩ name
    cases found : Keyed.get? name lefts with
    | some left =>
        have present := (Keyed.get?_eq_some_iff leftsDistinct).1 found
        obtain ⟨right, foundRight, alike⟩ := matched (name, left) present
        rw [foundRight]
        exact .some alike
    | none =>
        -- There are as many names on the right, so the names on the left are all of them.
        have among : Keyed.keys lefts ⊆ Keyed.keys rights := by
          intro name present
          obtain ⟨member, among, rfl⟩ := List.mem_map.1 present
          obtain ⟨right, foundRight, -⟩ := matched member among
          by_contra absent
          rw [Keyed.get?_eq_none_iff.2 absent] at foundRight
          cases foundRight
        have enough : (Keyed.keys rights).length ≤ (Keyed.keys lefts).length := by
          rw [Keyed.keys, Keyed.keys, List.length_map, List.length_map]
          exact Nat.le_of_eq sameLength.symm
        have same := (List.subperm_of_subset leftsDistinct among).perm_of_length_le enough
        have absent : name ∉ Keyed.keys rights := fun present =>
          Keyed.get?_eq_none_iff.1 found (same.mem_iff.2 present)
        rw [Keyed.get?_eq_none_iff.2 absent]
        exact .none
  · intro matched
    have names : ∀ name, name ∈ Keyed.keys lefts ↔ name ∈ Keyed.keys rights := by
      intro name
      rw [← not_iff_not, ← Keyed.get?_eq_none_iff, ← Keyed.get?_eq_none_iff]
      exact eq_none_iff_of_rel (matched name)
    have same := (List.perm_ext_iff_of_nodup leftsDistinct rightsDistinct).2 names
    constructor
    · simpa [Keyed.keys] using same.length_eq
    · intro member present
      have alike := matched member.1
      rw [(Keyed.get?_eq_some_iff leftsDistinct).2 present] at alike
      generalize Keyed.get? member.1 rights = found at alike ⊢
      cases alike with
      | some alike => exact ⟨_, rfl, alike⟩

theorem same_self (number : Number) : number.same number = true := by
  cases number <;> simp [Number.same, Binary64.same]

theorem same_trans
    {first second third : Number}
    (firstSecond : first.same second = true)
    (secondThird : second.same third = true) :
    first.same third = true := by
  cases first <;> cases second <;> cases third <;>
    simp only [Number.same, Binary64.same, Bool.or_eq_true, Bool.and_eq_true, beq_iff_eq,
      reduceCtorEq] at *
  · exact firstSecond.trans secondThird
  · rcases firstSecond with rfl | zeros
    · exact secondThird
    · rcases secondThird with rfl | otherZeros
      · exact Or.inr zeros
      · exact Or.inr ⟨zeros.1, otherZeros.2⟩

/-- A node without two members of one name is like itself. -/
theorem Unambiguous.alike_self
    {node : Node}
    (unambiguous : node.Unambiguous) :
    node.Alike node := by
  induction node using childInduction with
  | null => rfl
  | bool value => simp [Alike, alike]
  | number value => exact same_self value
  | text value => simp [Alike, alike]
  | list items inductionHypothesis =>
      have each := unambiguousItems_iff.1 unambiguous
      exact alikeItems_iff.2 (List.forall₂_same.2 fun item present =>
        inductionHypothesis item present (each item present))
  | object members inductionHypothesis =>
      obtain ⟨distinct, each⟩ := unambiguous
      refine (alike_object_iff distinct distinct).2 fun name => ?_
      cases found : Keyed.get? name members with
      | none => exact .none
      | some child =>
          have present := (Keyed.get?_eq_some_iff distinct).1 found
          exact .some (inductionHypothesis _ present (unambiguousMembers_iff.1 each _ present))

/-- Lists of nodes are alike transitively where their items are. -/
theorem forall₂_alike_trans
    {firsts seconds thirds : List Node}
    (transitive : ∀ first ∈ firsts, ∀ second third,
      first.Alike second → second.Alike third → first.Alike third)
    (firstsSeconds : List.Forall₂ Alike firsts seconds)
    (secondsThirds : List.Forall₂ Alike seconds thirds) :
    List.Forall₂ Alike firsts thirds := by
  induction firstsSeconds generalizing thirds with
  | nil => exact secondsThirds
  | cons firstSecond _ inductionHypothesis =>
      obtain ⟨firstTransitive, othersTransitive⟩ := List.forall_mem_cons.1 transitive
      cases secondsThirds with
      | cons secondThird secondsThirds =>
          exact .cons (firstTransitive _ _ firstSecond secondThird)
            (inductionHypothesis othersTransitive secondsThirds)

theorem Alike.trans
    {first second third : Node}
    (firstSecond : first.Alike second)
    (secondThird : second.Alike third) :
    first.Alike third := by
  induction first using childInduction generalizing second third with
  | null =>
      cases second with
      | null => exact secondThird
      | _ => cases firstSecond
  | bool value =>
      cases second with
      | bool other =>
          obtain rfl : value = other := eq_of_beq firstSecond
          exact secondThird
      | _ => cases firstSecond
  | text value =>
      cases second with
      | text other =>
          obtain rfl : value = other := eq_of_beq firstSecond
          exact secondThird
      | _ => cases firstSecond
  | number value =>
      cases second with
      | number other =>
          cases third with
          | number last => exact same_trans firstSecond secondThird
          | _ => cases secondThird
      | _ => cases firstSecond
  | list items inductionHypothesis =>
      cases second with
      | list others =>
          cases third with
          | list lasts =>
              refine alikeItems_iff.2 (forall₂_alike_trans ?_ (alikeItems_iff.1 firstSecond)
                (alikeItems_iff.1 secondThird))
              exact fun item present _ _ => inductionHypothesis item present
          | _ => cases secondThird
      | _ => cases firstSecond
  | object members inductionHypothesis =>
      cases second with
      | object others =>
          cases third with
          | object lasts =>
              rw [Alike, alike, Bool.and_eq_true, beq_iff_eq, alikeMembers_iff] at *
              obtain ⟨sameLength, matched⟩ := firstSecond
              obtain ⟨lastLength, lastMatched⟩ := secondThird
              refine ⟨sameLength.trans lastLength, fun member present => ?_⟩
              obtain ⟨other, found, alike⟩ := matched member present
              obtain ⟨last, foundLast, lastAlike⟩ := lastMatched _ (Keyed.mem_of_get? found)
              exact ⟨last, foundLast, inductionHypothesis member present alike lastAlike⟩
          | _ => cases secondThird
      | _ => cases firstSecond

/-! ## Members -/

/-- Alike nodes have alike members under every name. -/
theorem Alike.member?
    {left right : Node}
    (alike : left.Alike right)
    (leftUnambiguous : left.Unambiguous)
    (rightUnambiguous : right.Unambiguous)
    (name : String) :
    Option.Rel Alike (left.member? name) (right.member? name) := by
  cases left <;> cases right <;> first
    | exact (alike_object_iff leftUnambiguous.1 rightUnambiguous.1).1 alike name
    | exact .none
    | cases alike

theorem Unambiguous.alike_member?
    {node : Node}
    (unambiguous : node.Unambiguous)
    (name : String) :
    Option.Rel Alike (node.member? name) (node.member? name) :=
  unambiguous.alike_self.member? unambiguous unambiguous name

/-- Members that are alike, or that are both absent, are alike when absent ones are undefined. -/
theorem alike_getD_null
    {left right : Option Node}
    (alike : Option.Rel Alike left right) :
    (left.getD .null).Alike (right.getD .null) := by
  cases alike with
  | some alike => exact alike
  | none => rfl

theorem Unambiguous.getD_null
    {node : Node}
    (unambiguous : node.Unambiguous)
    (name : String) :
    ((node.member? name).getD .null).Unambiguous := by
  cases found : node.member? name with
  | none => trivial
  | some child => exact unambiguous.member found

end Node
end ManagedTree
