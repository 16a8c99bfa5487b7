import ManagedTree.Proofs.Address.Creation
import ManagedTree.Proofs.Node.Outline

/-!
# Creating several addresses

Addresses may be created in any order.  Each creation fails or succeeds as it would alone, and what
there is in the end is the same but for the order of members.
-/

namespace ManagedTree
namespace Address

/-- Create addresses one after another: what becomes of each, and the tree afterwards. -/
def createEach : List Address → Node → List (Except TreeError Node) × Node
  | [], tree => ([], tree)
  | address :: addresses, tree =>
    let (outcome, tree) := address.create tree
    let (outcomes, tree) := createEach addresses tree
    (outcome :: outcomes, tree)

theorem createEach_cons
    (address : Address)
    (addresses : List Address)
    (tree : Node) :
    createEach (address :: addresses) tree =
      ((address.create tree).1 :: (createEach addresses (address.create tree).2).1,
        (createEach addresses (address.create tree).2).2) := rfl

/-! ## One creation -/

/-- The same things stand at all places of two trees once they were created. -/
def SameGround (left right : Node) : Prop :=
  ∀ place, (Node.ground place left).bare = (Node.ground place right).bare

/-- Whether a creation fails, and how, is a matter of what stands on the way once it was created. -/
theorem create_eq_error_iff_ground
    {address : Address}
    {tree : Node}
    {error : TreeError} :
    (address.create tree).1 = .error error ↔
      ∃ before segment after, address.segments = before ++ segment :: after ∧
        (Node.ground before tree).bare.Solid ∧ error = .notComposite address.text segment := by
  rw [create, edit_eq_error_iff]
  constructor
  · rintro ⟨before, segment, after, node, whole, leads, solid, why⟩
    have stands := Node.solid_ground_iff.2 ⟨node, leads, solid⟩
    exact ⟨before, segment, after, whole, Node.solid_bare_iff.2 stands, why⟩
  · rintro ⟨before, segment, after, whole, stands, why⟩
    obtain ⟨node, leads, solid⟩ := Node.solid_ground_iff.1 (Node.solid_bare_iff.1 stands)
    exact ⟨before, segment, after, node, whole, leads, solid, why⟩

theorem SameGround.create_eq_error_iff
    {left right : Node}
    (same : SameGround left right)
    (address : Address)
    (error : TreeError) :
    (address.create left).1 = .error error ↔ (address.create right).1 = .error error := by
  rw [create_eq_error_iff_ground, create_eq_error_iff_ground]
  simp only [same _]

/-- A creation that succeeds leads to a place. -/
def LeadsTo (address : Address) (place : List String) (tree : Node) : Prop :=
  (∃ target, (address.create tree).1 = .ok target) ∧ place <+: address.segments

theorem exists_ok_iff
    {address : Address}
    {tree : Node} :
    (∃ target, (address.create tree).1 = .ok target) ↔
      ∀ error, (address.create tree).1 ≠ .error error := by
  cases (address.create tree).1 <;> simp

theorem SameGround.leadsTo_iff
    {left right : Node}
    (same : SameGround left right)
    (address : Address)
    (place : List String) :
    LeadsTo address place left ↔ LeadsTo address place right := by
  rw [LeadsTo, LeadsTo, exists_ok_iff, exists_ok_iff]
  simp only [ne_eq, same.create_eq_error_iff address]

/-- A creation does not change what stands at a place once it was created. -/
theorem sameGround_create
    (address : Address)
    (tree : Node) :
    SameGround (address.create tree).2 tree := by
  rcases create_cases address tree with passable | ⟨error, fails⟩
  · rw [create_of_passable passable]
    exact Node.bare_ground_set_ground passable
  · rw [fails]
    exact fun _ => rfl

theorem outline_create_of_leadsTo
    {address : Address}
    {place : List String}
    {tree : Node}
    (leads : LeadsTo address place tree) :
    Node.outline place (address.create tree).2 = some (Node.ground place tree).bare := by
  obtain ⟨⟨target, made⟩, onTheWay⟩ := leads
  have passable := passable_of_create made
  rw [create_of_passable passable]
  exact Node.outline_set_ground_of_prefix passable onTheWay

theorem outline_create_of_not_leadsTo
    {address : Address}
    {place : List String}
    {tree : Node}
    (elsewhere : ¬ LeadsTo address place tree) :
    Node.outline place (address.create tree).2 = Node.outline place tree := by
  rcases create_cases address tree with passable | ⟨error, fails⟩
  · have creates := create_of_passable passable
    rw [creates]
    refine Node.outline_set_ground_of_not_prefix (fun onTheWay => ?_) tree
    exact elsewhere ⟨⟨_, congrArg Prod.fst creates⟩, onTheWay⟩
  · rw [fails]

theorem unambiguous_create
    {tree : Node}
    (unambiguous : tree.Unambiguous)
    (address : Address) :
    (address.create tree).2.Unambiguous := by
  rcases create_cases address tree with passable | ⟨error, fails⟩
  · rw [create_of_passable passable]
    exact (unambiguous.ground address.segments).set address.segments unambiguous
  · rw [fails]
    exact unambiguous

/-! ## Several creations -/

theorem unambiguous_createEach
    {tree : Node}
    (unambiguous : tree.Unambiguous)
    (addresses : List Address) :
    (createEach addresses tree).2.Unambiguous := by
  induction addresses generalizing tree with
  | nil => exact unambiguous
  | cons address addresses inductionHypothesis =>
      exact inductionHypothesis (unambiguous_create unambiguous address)

/-- At a place to which no creation leads there is in the end what there was. -/
theorem outline_createEach_of_not_leadsTo
    {addresses : List Address}
    {place : List String}
    {tree : Node}
    (elsewhere : ¬ ∃ address ∈ addresses, LeadsTo address place tree) :
    Node.outline place (createEach addresses tree).2 = Node.outline place tree := by
  induction addresses generalizing tree with
  | nil => rfl
  | cons address addresses inductionHypothesis =>
      have same := sameGround_create address tree
      have first : ¬ LeadsTo address place tree := fun leads =>
        elsewhere ⟨address, List.mem_cons_self, leads⟩
      rw [createEach_cons]
      refine (inductionHypothesis ?_).trans (outline_create_of_not_leadsTo first)
      rintro ⟨other, present, leads⟩
      have leadsFirst := (same.leadsTo_iff other place).1 leads
      exact elsewhere ⟨other, List.mem_cons_of_mem _ present, leadsFirst⟩

/-- At a place to which some creation leads there is in the end what stands there once it was
created. -/
theorem outline_createEach_of_leadsTo
    {addresses : List Address}
    {place : List String}
    {tree : Node}
    (leads : ∃ address ∈ addresses, LeadsTo address place tree) :
    Node.outline place (createEach addresses tree).2 = some (Node.ground place tree).bare := by
  induction addresses generalizing tree with
  | nil => exact absurd leads (by simp)
  | cons address addresses inductionHypothesis =>
      have same := sameGround_create address tree
      rw [createEach_cons]
      -- The last creation that leads there counts, and it finds the same ground as the others.
      by_cases later : ∃ other ∈ addresses, LeadsTo other place (address.create tree).2
      · rw [inductionHypothesis later, same]
      · obtain ⟨other, present, onTheWay⟩ := leads
        rcases List.mem_cons.1 present with rfl | among
        · exact (outline_createEach_of_not_leadsTo later).trans (outline_create_of_leadsTo onTheWay)
        · exact absurd ⟨other, among, (same.leadsTo_iff other place).2 onTheWay⟩ later

/-- The outline after creations is a matter of the addresses that are among them. -/
theorem outline_createEach_congr
    {addresses others : List Address}
    (same : ∀ address, address ∈ addresses ↔ address ∈ others)
    (place : List String)
    (tree : Node) :
    Node.outline place (createEach addresses tree).2 =
      Node.outline place (createEach others tree).2 := by
  have sameLeads : (∃ address ∈ addresses, LeadsTo address place tree) ↔
      ∃ address ∈ others, LeadsTo address place tree := by
    simp only [same]
  by_cases leads : ∃ address ∈ addresses, LeadsTo address place tree
  · rw [outline_createEach_of_leadsTo leads, outline_createEach_of_leadsTo (sameLeads.1 leads)]
  · rw [outline_createEach_of_not_leadsTo leads,
      outline_createEach_of_not_leadsTo (mt sameLeads.2 leads)]

/-- Each creation fails as it would alone. -/
theorem forall₂_createEach
    (addresses : List Address)
    (tree : Node) :
    List.Forall₂ (fun address outcome => ∀ error,
        outcome = .error error ↔ (address.create tree).1 = .error error)
      addresses (createEach addresses tree).1 := by
  induction addresses generalizing tree with
  | nil => exact .nil
  | cons address addresses inductionHypothesis =>
      have same := sameGround_create address tree
      rw [createEach_cons]
      refine .cons (fun _ => Iff.rfl) ((inductionHypothesis _).imp ?_)
      intro other outcome alone error
      exact (alone error).trans (same.create_eq_error_iff other error)

/-- An address resolves in the end if its creation would succeed alone. -/
theorem exists_find_createEach
    {addresses : List Address}
    {address : Address}
    {tree target : Node}
    (present : address ∈ addresses)
    (made : (address.create tree).1 = .ok target) :
    ∃ node, address.find (createEach addresses tree).2 = .ok node := by
  have leads : LeadsTo address address.segments tree := ⟨⟨target, made⟩, List.prefix_rfl⟩
  have outlined := outline_createEach_of_leadsTo ⟨address, present, leads⟩
  obtain ⟨node, found, -⟩ := Option.map_eq_some_iff.1 outlined
  exact ⟨node, find_eq_ok_iff.2 found⟩

/-- Addresses may be created in any order.  In the end there are the same nodes, but for their
members, at the same places, so the trees are equal but for the order of members where no two
members of a node have one name.  Each creation succeeds, or fails with the same error, as it would
alone in the tree that there was first, and every address whose creation succeeds resolves in the
end. -/
theorem createEach_of_perm
    {addresses others : List Address}
    (permuted : addresses.Perm others)
    (tree : Node) :
    (∀ place, Node.outline place (createEach addresses tree).2 =
        Node.outline place (createEach others tree).2) ∧
      (tree.Unambiguous → (createEach addresses tree).2.Alike (createEach others tree).2) ∧
      List.Forall₂ (fun address outcome => ∀ error,
          outcome = .error error ↔ (address.create tree).1 = .error error)
        others (createEach others tree).1 ∧
      ∀ address ∈ others, ∀ target, (address.create tree).1 = .ok target →
        ∃ node, address.find (createEach others tree).2 = .ok node := by
  have outlines := fun place => outline_createEach_congr (fun _ => permuted.mem_iff) place tree
  refine ⟨outlines, fun unambiguous => ?_, forall₂_createEach others tree,
    fun address present target => exists_find_createEach present⟩
  exact Node.alike_of_outline_eq (unambiguous_createEach unambiguous addresses)
    (unambiguous_createEach unambiguous others) outlines

/-- One creation is blocked by a leaf, and the others go partly the same way. -/
theorem createEach_of_perm_reverse :
    let deep : Address :=
      ⟨[⟨"a", "b", by decide, by decide⟩, ⟨"c", "d", by decide, by decide⟩]⟩
    let blocked : Address :=
      ⟨[⟨"x", "y", by decide, by decide⟩, ⟨"c", "d", by decide, by decide⟩]⟩
    let above : Address := ⟨[⟨"a", "b", by decide, by decide⟩]⟩
    let beside : Address := ⟨[⟨"a", "e", by decide, by decide⟩]⟩
    let addresses := [deep, blocked, above, beside]
    let tree : Node := .object [("a", .null), ("x", .object [("y", .bool true)])]
    addresses.Perm addresses.reverse ∧
      (createEach addresses tree).2.Alike (createEach addresses.reverse tree).2 ∧
      (createEach addresses.reverse tree).1 =
        [.ok .empty, .ok .empty, .error (.notComposite "/x=y/c=d" "c"), .ok .empty] := by
  intro deep blocked above beside addresses tree
  have permuted := (List.reverse_perm addresses).symm
  have unambiguous : tree.Unambiguous := by
    simp [tree, Node.Unambiguous, Node.UnambiguousMembers, Keyed.Distinct, Keyed.keys]
  obtain ⟨-, alike, -, -⟩ := createEach_of_perm permuted tree
  exact ⟨permuted, alike unambiguous, rfl⟩

end Address
end ManagedTree
