import ManagedTree.Proofs.Json.Numbers
import ManagedTree.Proofs.Json.Strings

/-!
# Documents of nodes

The JSON text of a node, in either layout, is read back as that node when the node is
nested no deeper than a document may be, and is malformed otherwise.
-/

namespace ManagedTree
namespace Node

mutual

/-- How deep lists and composite nodes are nested in a node. -/
def depth : Node → Nat
  | .list items => depthItems items + 1
  | .object members => depthMembers members + 1
  | _ => 0

/-- How deep the items of a list are nested. -/
def depthItems : List Node → Nat
  | [] => 0
  | item :: items => max item.depth (depthItems items)

/-- How deep the members of a composite node are nested. -/
def depthMembers : List (String × Node) → Nat
  | [] => 0
  | (_, member) :: members => max member.depth (depthMembers members)

end

mutual

/-- All numbers in a node are integers that 64 bits hold, with or without a sign, and no
composite node in it has two members of one name. -/
def Storable : Node → Prop
  | .number (.integer value) => -2 ^ 63 ≤ value ∧ value < 2 ^ 64
  | .number (.floating _) => False
  | .list items => StorableItems items
  | .object members => Keyed.Distinct members ∧ StorableMembers members
  | _ => True

/-- All items of a list are storable. -/
def StorableItems : List Node → Prop
  | [] => True
  | item :: items => item.Storable ∧ StorableItems items

/-- All members of a composite node are storable. -/
def StorableMembers : List (String × Node) → Prop
  | [] => True
  | (_, member) :: members => member.Storable ∧ StorableMembers members

end

mutual

/-- Whether a node is storable can be decided. -/
def decideStorable : (node : Node) → Decidable node.Storable
  | .null | .bool _ | .text _ => isTrue trivial
  | .number (.integer _) => inferInstanceAs (Decidable (_ ∧ _))
  | .number (.floating _) => isFalse id
  | .list items => decideStorableItems items
  | .object members =>
    have := decideStorableMembers members
    inferInstanceAs (Decidable (Keyed.Distinct members ∧ StorableMembers members))

/-- Whether all items of a list are storable can be decided. -/
def decideStorableItems : (items : List Node) → Decidable (StorableItems items)
  | [] => isTrue trivial
  | item :: items =>
    have := decideStorable item
    have := decideStorableItems items
    inferInstanceAs (Decidable (item.Storable ∧ StorableItems items))

/-- Whether all members of a composite node are storable can be decided. -/
def decideStorableMembers : (members : List (String × Node)) → Decidable (StorableMembers members)
  | [] => isTrue trivial
  | (_, member) :: members =>
    have := decideStorable member
    have := decideStorableMembers members
    inferInstanceAs (Decidable (member.Storable ∧ StorableMembers members))

end

instance (node : Node) : Decidable node.Storable :=
  decideStorable node

end Node

/-- Only blanks set the parts of a document apart. -/
structure Spacing.Blank (spacing : Spacing) : Prop where
  /-- Blanks stand before items and members. -/
  line : ∀ level, ∀ character ∈ spacing.line level, Json.isBlank (.char character) = true
  /-- Blanks stand after colons. -/
  colon : ∀ character ∈ spacing.colon, Json.isBlank (.char character) = true

theorem Spacing.dense_blank : dense.Blank :=
  ⟨fun _ _ present => absurd present List.not_mem_nil,
    fun _ present => absurd present List.not_mem_nil⟩

theorem Spacing.lines_blank : lines.Blank := by
  refine ⟨fun level character present => ?_, fun character present => ?_⟩
  · rcases List.mem_cons.1 present with rfl | space
    · rfl
    · rw [List.eq_of_mem_replicate space]
      rfl
  · rw [List.mem_singleton.1 present]
    rfl

namespace Json

-- Powers are the core library's in every importing context.
attribute [local instance (high)] instPowNat

/-! ## Blanks -/

theorem skipBlanks_append
    {gap : List Char}
    (blank : ∀ character ∈ gap, isBlank (.char character) = true)
    (rest : List Glyph) :
    skipBlanks (Glyph.ofText gap ++ rest) = skipBlanks rest := by
  refine List.dropWhile_append_of_pos fun glyph present => ?_
  obtain ⟨character, among, rfl⟩ := List.mem_map.1 present
  exact blank character among

theorem skipBlanks_cons
    {glyph : Glyph}
    (visible : isBlank glyph = false)
    (rest : List Glyph) :
    skipBlanks (glyph :: rest) = glyph :: rest :=
  List.dropWhile_cons_of_neg (by simp [visible])

/-- Blanks before a node do not matter. -/
theorem readNode_append
    {gap : List Char}
    (blank : ∀ character ∈ gap, isBlank (.char character) = true)
    (budget levels : Nat)
    (rest : List Glyph) :
    readNode budget levels (Glyph.ofText gap ++ rest) = readNode budget levels rest := by
  cases budget with
  | zero => rfl
  | succ budget => simp only [readNode, skipBlanks_append blank]

/-- A blank is one of four characters. -/
theorem eq_of_isBlank
    {character : Char}
    (blank : isBlank (.char character) = true) :
    character = ' ' ∨ character = '\n' ∨ character = '\t' ∨ character = '\r' := by
  simpa [isBlank, or_assoc] using blank

/-- No number goes on with a blank. -/
theorem EndsNumber.append
    {gap : List Char}
    (blank : ∀ character ∈ gap, isBlank (.char character) = true)
    {rest : List Glyph}
    (ends : EndsNumber rest) :
    EndsNumber (Glyph.ofText gap ++ rest) := by
  cases gap with
  | nil => exact ends
  | cons character gap =>
      intro glyph first
      cases first
      rcases eq_of_isBlank (blank character List.mem_cons_self) with rfl | rfl | rfl | rfl <;>
        decide

/-- No number goes on with a comma or a closing bracket. -/
theorem EndsNumber.cons
    {character : Char}
    (ends : character = ',' ∨ character = ']' ∨ character = '}' ∨ character = '\n')
    (rest : List Glyph) :
    EndsNumber (.char character :: rest) := by
  intro glyph first
  cases first
  rcases ends with rfl | rfl | rfl | rfl <;> decide

/-! ## What the first glyph of a node says -/

section

variable (budget levels : Nat) (rest : List Glyph)

theorem readNode_minus :
    readNode (budget + 1) levels (.char '-' :: rest) =
      (readNumber true rest >>= fun number => .ok (.number number.1, number.2)) := by
  rw [readNode]
  rfl

theorem readNode_quote :
    readNode (budget + 1) levels (.char '"' :: rest) =
      (readString rest >>= fun text => .ok (.text text.1, text.2)) := by
  rw [readNode]
  rfl

theorem readNode_bracket :
    readNode (budget + 1) levels (.char '[' :: rest) =
      match levels, closed? ']' rest with
      | 0, _ => .error .malformed
      | _ + 1, some rest => .ok (.list [], rest)
      | levels + 1, none =>
        readNode budget levels rest >>= fun item =>
          readItems budget levels item.2 >>= fun items =>
            .ok (.list (item.1 :: items.1), items.2) := by
  rw [readNode]
  rfl

theorem readNode_brace :
    readNode (budget + 1) levels (.char '{' :: rest) =
      match levels, closed? '}' rest with
      | 0, _ => .error .malformed
      | _ + 1, some rest => .ok (.object [], rest)
      | levels + 1, none =>
        readName rest >>= fun name =>
          readNode budget levels name.2 >>= fun member =>
            readMembers budget levels member.2 >>= fun members =>
              .ok (.object (Keyed.ofList ((name.1, member.1) :: members.1)), members.2) := by
  rw [readNode]
  rfl

theorem readNode_digit
    {first : Char}
    (digit : first.isDigit = true) :
    readNode (budget + 1) levels (.char first :: rest) =
      (readNumber false (.char first :: rest) >>=
        fun number => .ok (.number number.1, number.2)) := by
  have visible : isBlank (.char first) = false := by
    rw [Bool.eq_false_iff]
    intro blank
    rcases eq_of_isBlank blank with rfl | rfl | rfl | rfl <;> cases digit
  have number : (digit? (.char first)).isSome = true := by
    rw [digit?_of_isDigit digit]
    rfl
  rw [readNode, skipBlanks_cons visible]
  split
  case h_1 same => cases same
  case h_9 same =>
    cases same
    rw [if_pos number]
  all_goals
    rename_i same
    cases same
    cases digit

end

/-! ## Nodes -/

/-- What is read from a node that is nested so deep, where so many levels are allowed. -/
def nested {α : Type} (depth levels : Nat) (front : Front α) : Except JsonFlaw (Front α) :=
  if depth ≤ levels then .ok front else .error .malformed

/-- What is nested in a list or a composite node is one level deeper. -/
theorem nested_succ
    {α : Type}
    (depth levels : Nat)
    (front : Front α) :
    nested (depth + 1) (levels + 1) front = nested depth levels front := by
  simp only [nested, Nat.add_le_add_iff_right]

/-- One part and the others after it are nested as deep as the deepest of them. -/
theorem nested_parts
    {α β γ : Type}
    {readOne : Except JsonFlaw (Front α)}
    {readOthers : List Glyph → Except JsonFlaw (Front β)}
    {depth depths levels : Nat}
    {one : α}
    {others : β}
    {middle rest : List Glyph}
    (first : readOne = nested depth levels (one, middle))
    (next : readOthers middle = nested depths levels (others, rest))
    (collect : α → β → γ) :
    (readOne >>= fun one => readOthers one.2 >>= fun others =>
      .ok (collect one.1 others.1, others.2)) =
        nested (max depth depths) levels (collect one others, rest) := by
  have both : max depth depths ≤ levels ↔ depth ≤ levels ∧ depths ≤ levels := Nat.max_le
  rw [first]
  by_cases shallow : depth ≤ levels
  · have goesOn : (nested depth levels (one, middle) >>= fun one => readOthers one.2 >>=
        fun others => Except.ok (collect one.1 others.1, others.2)) =
        readOthers middle >>= fun others => Except.ok (collect one others.1, others.2) := by
      rw [nested, if_pos shallow]
      rfl
    rw [goesOn, next]
    by_cases shallows : depths ≤ levels
    · rw [nested, if_pos shallows, nested, if_pos (both.2 ⟨shallow, shallows⟩)]
      rfl
    · rw [nested, if_neg shallows, nested, if_neg fun deep => shallows (both.1 deep).2]
      rfl
  · rw [nested, if_neg shallow, nested, if_neg fun deep => shallow (both.1 deep).1]
    rfl

/-- The decimal text of an integer that 64 bits hold is read back as that integer. -/
theorem readNode_integerText
    {value : Int}
    (held : -2 ^ (63 : Nat) ≤ value ∧ value < 2 ^ (64 : Nat))
    (budget levels : Nat)
    {rest : List Glyph}
    (ends : EndsNumber rest) :
    readNode (budget + 1) levels (Glyph.ofText (integerText value) ++ rest) =
      .ok (.number (.integer value), rest) := by
  have fits : value.natAbs < 2 ^ (64 : Nat) := by omega
  unfold integerText
  by_cases negative : value < 0
  · have inRange : ¬ (value.natAbs = 0 ∨ 2 ^ (63 : Nat) < value.natAbs) := by omega
    have same : -(value.natAbs : Int) = value := by omega
    have denotes : whole true value.natAbs [] = .ok (.integer value) := by
      rw [whole, if_neg (not_not_intro rfl), if_neg nofun, if_neg inRange, same]
    rw [if_pos negative, List.singleton_append, Glyph.ofText_cons, List.cons_append,
      readNode_minus, readNumber_toDigits true fits ends, denotes]
    rfl
  · have same : (value.natAbs : Int) = value := by omega
    have denotes : whole false value.natAbs [] = .ok (.integer value) := by
      simp [whole, same]
    have reads := readNumber_toDigits false fits ends
    rw [if_neg negative, List.nil_append]
    rw [denotes] at reads
    obtain ⟨first, others, digits, digit⟩ := toDigits_start value.natAbs
    rw [digits, Glyph.ofText_cons, List.cons_append] at reads ⊢
    rw [readNode_digit budget levels _ digit, reads]
    rfl

/-- The name of a member is read back. -/
theorem readName_jsonString
    {gap : List Char}
    (blank : ∀ character ∈ gap, isBlank (.char character) = true)
    (name : String)
    (rest : List Glyph) :
    readName (Glyph.ofText gap ++ (Glyph.ofText (Node.jsonString name) ++ .char ':' :: rest)) =
      .ok (name, rest) := by
  have start : Glyph.ofText (Node.jsonString name) ++ .char ':' :: rest =
      .char '"' :: (Glyph.ofText (name.toList.flatMap Node.escape) ++
        .char '"' :: .char ':' :: rest) := by
    simp [Node.jsonString]
  rw [start, readName, skipBlanks_append blank, skipBlanks_cons rfl]
  change (readString _ >>= _) = _
  rw [readString_escape]
  rfl

/-- The first character of a decimal text is a sign or a digit. -/
theorem integerText_start (value : Int) :
    ∃ first others, integerText value = first :: others ∧
      (first = '-' ∨ first.isDigit = true) := by
  unfold integerText
  by_cases negative : value < 0
  · rw [if_pos negative]
    exact ⟨'-', _, rfl, Or.inl rfl⟩
  · rw [if_neg negative]
    obtain ⟨first, others, digits, digit⟩ := toDigits_start value.natAbs
    exact ⟨first, others, digits, Or.inr digit⟩

/-- A storable node starts with a character that is neither blank nor closes a list. -/
theorem json_start
    (spacing : Spacing)
    (level : Nat)
    {node : Node}
    (storable : node.Storable) :
    ∃ first others, node.json spacing level = first :: others ∧
      isBlank (.char first) = false ∧ first ≠ ']' := by
  cases node with
  | null => exact ⟨_, _, rfl, rfl, by decide⟩
  | bool value => cases value <;> exact ⟨_, _, rfl, rfl, by decide⟩
  | number number =>
      cases number with
      | floating value => exact storable.elim
      | integer value =>
          obtain ⟨first, others, text, numeric⟩ := integerText_start value
          refine ⟨first, others, text, ?_, ?_⟩
          · rw [Bool.eq_false_iff]
            intro blank
            rcases eq_of_isBlank blank with rfl | rfl | rfl | rfl <;> revert numeric <;> decide
          · rintro rfl
            revert numeric
            decide
  | text text => exact ⟨_, _, rfl, rfl, by decide⟩
  | list items => cases items <;> exact ⟨_, _, rfl, rfl, by decide⟩
  | object members => cases members <;> exact ⟨_, _, rfl, rfl, by decide⟩

section

variable {spacing : Spacing} (blank : spacing.Blank)
include blank

theorem endsNumber_jsonItems
    (level : Nat)
    (items : List Node)
    (rest : List Glyph) :
    EndsNumber (Glyph.ofText (Node.jsonItems spacing level items) ++ rest) := by
  cases items with
  | nil =>
      rw [Node.jsonItems, Glyph.ofText_append, List.append_assoc]
      exact (EndsNumber.cons (by decide) rest).append (blank.line level)
  | cons item items => exact EndsNumber.cons (by decide) _

theorem endsNumber_jsonMembers
    (level : Nat)
    (members : List (String × Node))
    (rest : List Glyph) :
    EndsNumber (Glyph.ofText (Node.jsonMembers spacing level members) ++ rest) := by
  cases members with
  | nil =>
      rw [Node.jsonMembers, Glyph.ofText_append, List.append_assoc]
      exact (EndsNumber.cons (by decide) rest).append (blank.line level)
  | cons member members => exact EndsNumber.cons (by decide) _

end

/-! ## Parts -/

theorem closed?_append
    {gap : List Char}
    (blank : ∀ character ∈ gap, isBlank (.char character) = true)
    {bracket first : Char}
    (visible : isBlank (.char first) = false)
    (different : first ≠ bracket)
    (rest : List Glyph) :
    closed? bracket (Glyph.ofText gap ++ .char first :: rest) = none := by
  rw [closed?, skipBlanks_append blank, skipBlanks_cons visible]
  exact if_neg fun same => different (Glyph.char.inj same)

section

variable {gap : List Char}
  (blank : ∀ character ∈ gap, isBlank (.char character) = true)
  {budget levels depth depths : Nat} {middle rest : List Glyph}
include blank

/-- A list is read part by part, one level deeper. -/
theorem readNode_list
    {text : List Char}
    {item : Node}
    {items : List Node}
    (start : ∃ first others, text = first :: others ∧
      isBlank (.char first) = false ∧ first ≠ ']')
    (one : ∀ levels, readNode budget levels (Glyph.ofText text ++ middle) =
      nested depth levels (item, middle))
    (others : ∀ levels, readItems budget levels middle = nested depths levels (items, rest)) :
    readNode (budget + 1) levels
      (.char '[' :: (Glyph.ofText gap ++ (Glyph.ofText text ++ middle))) =
        nested (max depth depths + 1) levels (.list (item :: items), rest) := by
  have goesOn : closed? ']' (Glyph.ofText gap ++ (Glyph.ofText text ++ middle)) = none := by
    obtain ⟨first, others, rfl, visible, different⟩ := start
    exact closed?_append blank visible different _
  rw [readNode_bracket, goesOn]
  cases levels with
  | zero => rfl
  | succ levels =>
      dsimp only
      rw [readNode_append blank, nested_succ]
      exact nested_parts (one levels) (others levels) fun item items => Node.list (item :: items)

/-- A bracket ends a list. -/
theorem readItems_bracket :
    readItems (budget + 1) levels (Glyph.ofText gap ++ .char ']' :: rest) = .ok ([], rest) := by
  rw [readItems, skipBlanks_append blank]
  rfl

/-- Another item follows a comma. -/
theorem readItems_comma
    {item : Node}
    {items : List Node}
    (one : readNode budget levels middle = nested depth levels (item, rest))
    {last : List Glyph}
    (others : readItems budget levels rest = nested depths levels (items, last)) :
    readItems (budget + 1) levels (.char ',' :: (Glyph.ofText gap ++ middle)) =
      nested (max depth depths) levels (item :: items, last) := by
  rw [← readNode_append blank] at one
  rw [readItems]
  exact nested_parts one others List.cons

variable {afterColon : List Char}
  (blankAfterColon : ∀ character ∈ afterColon, isBlank (.char character) = true)
  {name : String} {member : Node} {members : List (String × Node)}
include blankAfterColon

/-- A composite node is read part by part, one level deeper. -/
theorem readNode_object
    (distinct : Keyed.Distinct ((name, member) :: members))
    (one : ∀ levels, readNode budget levels middle = nested depth levels (member, rest))
    {last : List Glyph}
    (others : ∀ levels, readMembers budget levels rest = nested depths levels (members, last)) :
    readNode (budget + 1) levels
      (.char '{' :: (Glyph.ofText gap ++ (Glyph.ofText (Node.jsonString name) ++
        .char ':' :: (Glyph.ofText afterColon ++ middle)))) =
        nested (max depth depths + 1) levels (.object ((name, member) :: members), last) := by
  have goesOn : closed? '}' (Glyph.ofText gap ++ (Glyph.ofText (Node.jsonString name) ++
      .char ':' :: (Glyph.ofText afterColon ++ middle))) = none :=
    closed?_append blank rfl (by decide) _
  rw [readNode_brace, goesOn]
  cases levels with
  | zero => rfl
  | succ levels =>
      dsimp only
      have value := one levels
      rw [← readNode_append blankAfterColon] at value
      rw [readName_jsonString blank, nested_succ, ← Keyed.ofList_of_distinct distinct]
      exact nested_parts value (others levels)
        fun member members => Node.object (Keyed.ofList ((name, member) :: members))

omit blankAfterColon in
/-- A brace ends a composite node. -/
theorem readMembers_brace :
    readMembers (budget + 1) levels (Glyph.ofText gap ++ .char '}' :: rest) = .ok ([], rest) := by
  rw [readMembers, skipBlanks_append blank]
  rfl

/-- Another member follows a comma. -/
theorem readMembers_comma
    (one : readNode budget levels middle = nested depth levels (member, rest))
    {last : List Glyph}
    (others : readMembers budget levels rest = nested depths levels (members, last)) :
    readMembers (budget + 1) levels
      (.char ',' :: (Glyph.ofText gap ++ (Glyph.ofText (Node.jsonString name) ++
        .char ':' :: (Glyph.ofText afterColon ++ middle)))) =
        nested (max depth depths) levels ((name, member) :: members, last) := by
  rw [← readNode_append blankAfterColon] at one
  rw [readMembers, skipBlanks_cons rfl]
  change (readName _ >>= _) = _
  rw [readName_jsonString blank]
  exact nested_parts one others fun member members => (name, member) :: members

end

/-! ## Documents -/

/-- Every text of a node, or of what follows its first part, is worth a step. -/
theorem exists_step
    {length budget : Nat}
    (some : 0 < length)
    (enough : 2 * length ≤ budget) :
    ∃ smaller, budget = smaller + 1 :=
  ⟨budget - 1, by omega⟩

section

variable {spacing : Spacing} (blank : spacing.Blank)
include blank

mutual

/-- The JSON text of a storable node is read back as that node, as far as nesting allows. -/
theorem readNode_json
    (level : Nat)
    {budget : Nat}
    (levels : Nat)
    (node : Node)
    (storable : node.Storable)
    (enough : 2 * (node.json spacing level).length ≤ budget)
    {rest : List Glyph}
    (ends : EndsNumber rest) :
    readNode budget levels (Glyph.ofText (node.json spacing level) ++ rest) =
      nested node.depth levels (node, rest) := by
  obtain ⟨budget, rfl⟩ : ∃ smaller, budget = smaller + 1 := by
    obtain ⟨first, others, start, -⟩ := json_start spacing level storable
    exact exists_step (start ▸ Nat.succ_pos _) enough
  cases node with
  | null =>
      rw [readNode]
      rfl
  | bool value =>
      rw [readNode]
      cases value <;> rfl
  | number number =>
      cases number with
      | floating value => exact storable.elim
      | integer value => exact readNode_integerText storable budget levels ends
  | text text =>
      have start : Glyph.ofText ((Node.text text).json spacing level) ++ rest =
          .char '"' :: (Glyph.ofText (text.toList.flatMap Node.escape) ++ .char '"' :: rest) := by
        simp [Node.json, Node.jsonString]
      rw [start, readNode_quote, readString_escape]
      rfl
  | list items =>
      cases items with
      | nil =>
          rw [Node.json, Glyph.ofText_cons, List.cons_append, readNode_bracket]
          cases levels <;> rfl
      | cons item items =>
          obtain ⟨itemStorable, itemsStorable⟩ := storable
          rw [Node.json] at enough ⊢
          simp only [List.length_cons, List.length_append] at enough
          simp only [Glyph.ofText_cons, Glyph.ofText_append, List.cons_append, List.append_assoc]
          exact readNode_list (blank.line _) (json_start spacing _ itemStorable)
            (fun levels => readNode_json _ levels item itemStorable (by omega)
              (endsNumber_jsonItems blank level items rest))
            fun levels => readItems_json _ levels items itemsStorable (by omega) rest
  | object members =>
      obtain ⟨distinct, membersStorable⟩ := storable
      cases members with
      | nil =>
          rw [Node.json, Glyph.ofText_cons, List.cons_append, readNode_brace]
          cases levels <;> rfl
      | cons pair members =>
          obtain ⟨name, member⟩ := pair
          obtain ⟨memberStorable, membersStorable⟩ := membersStorable
          rw [Node.json] at enough ⊢
          simp only [List.length_cons, List.length_append] at enough
          simp only [Glyph.ofText_cons, Glyph.ofText_append, List.cons_append, List.append_assoc]
          exact readNode_object (blank.line _) blank.colon distinct
            (fun levels => readNode_json _ levels member memberStorable (by omega)
              (endsNumber_jsonMembers blank level members rest))
            fun levels => readMembers_json _ levels members membersStorable (by omega) rest

/-- What follows the first item of a list is read back as the other items. -/
theorem readItems_json
    (level : Nat)
    {budget : Nat}
    (levels : Nat)
    (items : List Node)
    (storable : Node.StorableItems items)
    (enough : 2 * (Node.jsonItems spacing level items).length ≤ budget)
    (rest : List Glyph) :
    readItems budget levels (Glyph.ofText (Node.jsonItems spacing level items) ++ rest) =
      nested (Node.depthItems items) levels (items, rest) := by
  cases items with
  | nil =>
      rw [Node.jsonItems] at enough ⊢
      obtain ⟨budget, rfl⟩ := exists_step (by simp) enough
      rw [Glyph.ofText_append, List.append_assoc]
      exact readItems_bracket (blank.line level)
  | cons item items =>
      obtain ⟨itemStorable, itemsStorable⟩ := storable
      rw [Node.jsonItems] at enough ⊢
      obtain ⟨budget, rfl⟩ := exists_step (Nat.succ_pos _) enough
      simp only [List.length_cons, List.length_append] at enough
      simp only [Glyph.ofText_cons, Glyph.ofText_append, List.cons_append, List.append_assoc]
      exact readItems_comma (blank.line _)
        (readNode_json _ levels item itemStorable (by omega)
          (endsNumber_jsonItems blank level items rest))
        (readItems_json _ levels items itemsStorable (by omega) rest)

/-- What follows the first member of a composite node is read back as the other members. -/
theorem readMembers_json
    (level : Nat)
    {budget : Nat}
    (levels : Nat)
    (members : List (String × Node))
    (storable : Node.StorableMembers members)
    (enough : 2 * (Node.jsonMembers spacing level members).length ≤ budget)
    (rest : List Glyph) :
    readMembers budget levels (Glyph.ofText (Node.jsonMembers spacing level members) ++ rest) =
      nested (Node.depthMembers members) levels (members, rest) := by
  cases members with
  | nil =>
      rw [Node.jsonMembers] at enough ⊢
      obtain ⟨budget, rfl⟩ := exists_step (by simp) enough
      rw [Glyph.ofText_append, List.append_assoc]
      exact readMembers_brace (blank.line level)
  | cons pair members =>
      obtain ⟨name, member⟩ := pair
      obtain ⟨memberStorable, membersStorable⟩ := storable
      rw [Node.jsonMembers] at enough ⊢
      obtain ⟨budget, rfl⟩ := exists_step (Nat.succ_pos _) enough
      simp only [List.length_cons, List.length_append] at enough
      simp only [Glyph.ofText_cons, Glyph.ofText_append, List.cons_append, List.append_assoc]
      exact readMembers_comma (blank.line _) blank.colon
        (readNode_json _ levels member memberStorable (by omega)
          (endsNumber_jsonMembers blank level members rest))
        (readMembers_json _ levels members membersStorable (by omega) rest)

end

/-- A document, which is the JSON text of a storable node and the end of its line, is read back
as that node, unless it is nested too deep. -/
theorem read_json
    {node : Node}
    (storable : node.Storable) :
    read (Glyph.ofText (node.json spacing 0 ++ ['\n'])) =
      if node.depth ≤ nestingLimit then .ok node else .error .malformed := by
  have ends : EndsNumber (Glyph.ofText ['\n']) := EndsNumber.cons (by decide) []
  have enough : 2 * (node.json spacing 0).length ≤
      2 * (Glyph.ofText (node.json spacing 0) ++ Glyph.ofText ['\n']).length + 2 := by
    rw [List.length_append, Glyph.length_ofText]
    omega
  rw [read, Glyph.ofText_append, readNode_json blank 0 nestingLimit node storable enough ends,
    nested]
  split <;> rfl

end

end Json
end ManagedTree
