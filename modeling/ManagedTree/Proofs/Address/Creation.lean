import ManagedTree.Proofs.Address.Lookup

/-!
# Creating addresses

An edit that may create fails exactly when a node on the way is neither composite nor undefined,
and it has changed nothing then.  Creating an address adds what is absent on the way to it and
makes what is undefined there composite.  It leaves everything else as it was.
-/

namespace ManagedTree
namespace Address

open Outcome

/-- An edit that may create and finds the way passable changes what stands at the address. -/
theorem edit_of_passable
    {address : Address}
    {tree : Node}
    (passable : Node.Passable address.segments tree)
    (change : Node → Node) :
    address.edit true change tree =
      (.ok (change (Node.ground address.segments tree)),
        Node.set address.segments (change (Node.ground address.segments tree)) tree) := by
  rw [edit_eq, Node.reach_of_passable change passable]
  rfl

/-- An edit that may create stops at a solid node and changes nothing. -/
theorem edit_of_solid
    {address : Address}
    {before after : List String}
    {segment : String}
    {tree node : Node}
    (whole : address.segments = before ++ segment :: after)
    (leads : Node.get? before tree = some node)
    (solid : node.Solid)
    (change : Node → Node) :
    address.edit true change tree = (.error (.notComposite address.text segment), tree) := by
  rw [edit_eq, whole, Node.reach_of_solid change leads solid]
  rfl

/-- An edit that may create is made as a whole, or not at all. -/
theorem edit_cases
    (address : Address)
    (change : Node → Node)
    (tree : Node) :
    Node.Passable address.segments tree ∨
      ∃ error, address.edit true change tree = (.error error, tree) := by
  refine (Node.passable_or_solid address.segments tree).imp_right ?_
  rintro ⟨before, segment, after, node, whole, leads, solid⟩
  exact ⟨_, edit_of_solid whole leads solid change⟩

theorem edit_of_error
    {address : Address}
    {change : Node → Node}
    {tree : Node}
    {error : TreeError}
    (failed : (address.edit true change tree).1 = .error error) :
    (address.edit true change tree).2 = tree := by
  rcases edit_cases address change tree with passable | ⟨other, fails⟩
  · rw [edit_of_passable passable] at failed
    cases failed
  · rw [fails]

theorem edit_eq_error_iff
    {address : Address}
    {change : Node → Node}
    {tree : Node}
    {error : TreeError} :
    (address.edit true change tree).1 = .error error ↔
      ∃ before segment after node, address.segments = before ++ segment :: after ∧
        Node.get? before tree = some node ∧ node.Solid ∧
        error = .notComposite address.text segment := by
  constructor
  · intro failed
    rcases Node.passable_or_solid address.segments tree with
      passable | ⟨before, segment, after, node, whole, leads, solid⟩
    · rw [edit_of_passable passable] at failed
      cases failed
    · rw [edit_of_solid whole leads solid] at failed
      cases failed
      exact ⟨before, segment, after, node, whole, leads, solid, rfl⟩
  · rintro ⟨before, segment, after, node, whole, leads, solid, rfl⟩
    rw [edit_of_solid whole leads solid]

/-- A creation writes at the address what stands there then. -/
theorem create_of_passable
    {address : Address}
    {tree : Node}
    (passable : Node.Passable address.segments tree) :
    address.create tree =
      (.ok (Node.ground address.segments tree),
        Node.set address.segments (Node.ground address.segments tree) tree) :=
  edit_of_passable passable id

/-- An address is created as a whole, or nothing is created. -/
theorem create_cases
    (address : Address)
    (tree : Node) :
    Node.Passable address.segments tree ∨ ∃ error, address.create tree = (.error error, tree) :=
  edit_cases address id tree

/-- Nothing is created when an address cannot be made to resolve. -/
theorem create_of_error
    {address : Address}
    {tree : Node}
    {error : TreeError}
    (failed : (address.create tree).1 = .error error) :
    (address.create tree).2 = tree :=
  edit_of_error failed

theorem passable_of_create
    {address : Address}
    {tree target : Node}
    (made : (address.create tree).1 = .ok target) :
    Node.Passable address.segments tree := by
  rcases create_cases address tree with passable | ⟨error, fails⟩
  · exact passable
  · rw [fails] at made
    cases made

theorem create_of_ok
    {address : Address}
    {tree target : Node}
    (made : (address.create tree).1 = .ok target) :
    target = Node.ground address.segments tree ∧
      (address.create tree).2 = Node.set address.segments target tree := by
  have creates := create_of_passable (passable_of_create made)
  rw [creates] at made ⊢
  cases made
  exact ⟨rfl, rfl⟩

/-- An address that was made to resolve does so. -/
theorem find_create
    {address : Address}
    {tree target : Node}
    (made : (address.create tree).1 = .ok target) :
    address.find (address.create tree).2 = .ok target := by
  rw [(create_of_ok made).2]
  exact find_eq_ok_iff.2 (Node.get?_set_self address.segments target tree)

/-! ## When a creation fails -/

/-- An edit that may create, and so a creation, fails exactly when the names of the address lead to
a node that is neither composite nor undefined before the last of them.  The error tells that this
node is not composite, and names the next segment.  The tree is left exactly as it was. -/
theorem edit_all_or_nothing
    (address : Address)
    (change : Node → Node)
    (tree : Node)
    (error : TreeError) :
    ((address.edit true change tree).1 = .error error ↔
        ∃ before segment after node, address.segments = before ++ segment :: after ∧
          Node.get? before tree = some node ∧ node.isNull = false ∧ node.isComposite = false ∧
          error = .notComposite address.text segment) ∧
      ((address.edit true change tree).1 = .error error →
        (address.edit true change tree).2 = tree) := by
  refine ⟨?_, edit_of_error⟩
  rw [edit_eq_error_iff]
  simp only [Node.Solid, and_assoc]

/-- Below a leaf nothing can be created, and nothing is written. -/
theorem edit_all_or_nothing_leaf :
    let address : Address :=
      ⟨[⟨"a", "b", by decide, by decide⟩, ⟨"c", "d", by decide, by decide⟩]⟩
    let tree : Node := .object [("u", .null), ("a", .object [("v", .null), ("b", .bool true)])]
    (address.edit true (Node.set ["k"] .null) tree).1 = .error (.notComposite "/a=b/c=d" "c") ∧
      (address.edit true (Node.set ["k"] .null) tree).2 = tree := by
  intro address tree
  obtain ⟨fails, unchanged⟩ := edit_all_or_nothing address (Node.set ["k"] .null) tree
    (.notComposite "/a=b/c=d" "c")
  have failed := fails.2 ⟨["a", "b"], "c", ["d"], .bool true, rfl, rfl, rfl, rfl, rfl⟩
  exact ⟨failed, unchanged failed⟩

/-! ## What a creation does -/

/-- What there is after an address was created in a tree, and the node at the address then. -/
structure Created (address : Address) (tree target after : Node) : Prop where
  /-- The address resolves to the node. -/
  resolves : address.find after = .ok target
  /-- The node is defined. -/
  defined : target ≠ .null
  /-- A defined node that was there before is the node, and the tree is as it was. -/
  kept : ∀ node, address.find tree = .ok node → node ≠ .null → target = node ∧ after = tree
  /-- The node is empty if it was undefined or absent before. -/
  fresh : address.find tree = .ok .null ∨ (∃ error, address.find tree = .error error) →
    target = .empty
  /-- Every node on the way is composite.  One that was composite before has its members in the
  same order, but for the next one on the way, which comes last if it is new. -/
  ancestors : ∀ before segment rest, address.segments = before ++ segment :: rest →
    ∃ members, Node.get? before after = some (.object members) ∧
      ∀ old, Node.get? before tree = some (.object old) → Keyed.Renewed segment old members
  /-- At places that are not on the way there is what there was before. -/
  elsewhere : ∀ place, ¬ place <+: address.segments →
    Node.get? place after = Node.get? place tree
  /-- Creating the address again changes nothing. -/
  again : address.create after = (.ok target, after)

/-- Creating an address makes it resolve to a defined node, changes nothing but what is absent or
undefined on the way, and is done once and for all. -/
theorem create_created
    {address : Address}
    {tree target : Node}
    (made : (address.create tree).1 = .ok target) :
    Created address tree target (address.create tree).2 := by
  obtain ⟨stands, after⟩ := create_of_ok made
  have defined : target ≠ .null := stands ▸ Node.ground_ne_null address.segments tree
  have resolves := find_create made
  rw [after] at resolves ⊢
  refine ⟨resolves, defined, fun node found isDefined => ?_, fun fresh => ?_,
    fun before segment rest whole => Node.exists_members_set whole target tree,
    fun place outside => ?_, ?_⟩
  · have leads := find_eq_ok_iff.1 found
    have same : target = node := stands.trans (Node.ground_of_defined leads isDefined)
    exact ⟨same, Node.set_of_get? (same ▸ leads)⟩
  · rcases fresh with undefined | ⟨error, absent⟩
    · rw [stands, Node.ground_of_get? (find_eq_ok_iff.1 undefined)]
      rfl
    · obtain ⟨obstacle, stopped, -⟩ := mapError_eq_error_iff.1 absent
      exact stands.trans (Node.ground_of_absent (Node.get?_eq_none_of_follow stopped))
  · rw [stands]
    exact Node.get?_set_ground_of_not_prefix outside tree
  · have leads := find_eq_ok_iff.1 resolves
    rw [create_of_passable (Node.passable_set address.segments target tree),
      Node.ground_of_defined leads defined, Node.set_of_get? leads]

/-- An undefined node on the way becomes composite, and the nodes beside it stay. -/
theorem create_created_undefined :
    let address : Address :=
      ⟨[⟨"a", "b", by decide, by decide⟩, ⟨"c", "d", by decide, by decide⟩]⟩
    let tree : Node := .object [("a", .object [("b", .null), ("v", .bool true)]), ("u", .null)]
    let after : Node := .object [("a", .object
      [("b", .object [("c", .object [("d", .empty)])]), ("v", .bool true)]), ("u", .null)]
    address.create tree = (.ok .empty, after) ∧ Created address tree .empty after := by
  intro address tree after
  have creates : address.create tree = (.ok .empty, after) := rfl
  exact ⟨creates, create_created (congrArg Prod.fst creates)⟩

end Address
end ManagedTree
