import ManagedTree.Address.Text

/-!
# Reading address texts

A text is read as an address when it is, but for blanks around it, the address's own text, with or
without the slash it starts with.  The addresses that have texts of this kind are those whose parts
cannot be mistaken for what separates them.
-/

namespace ManagedTree

/-- The characters of an element's text. -/
def Element.characters (element : Element) : List Char :=
  element.key.toList ++ '=' :: element.value.toList

theorem Element.toList_text (element : Element) :
    element.text.toList = element.characters := by
  simp [Element.text, Element.characters, ToString.toString]

namespace Address

/-- No part of an address can be mistaken for what separates elements, keys and values, or for
blanks after the text. -/
structure Displayable (address : Address) : Prop where
  /-- No key has a slash or an equals sign. -/
  keys : ∀ element ∈ address.elements, '/' ∉ element.key.toList ∧ '=' ∉ element.key.toList
  /-- No value has a slash. -/
  values : ∀ element ∈ address.elements, '/' ∉ element.value.toList
  /-- The last value does not end with a blank. -/
  ending : ∀ element ∈ address.last?, ∀ character ∈ element.value.toList.getLast?,
    Text.isBlank character = false

/-! ## The text of an address -/

/-- The text of an address without the slash that it starts with. -/
def body (address : Address) : List Char :=
  match address.elements with
  | [] => []
  | first :: others => Text.join '/' (first.characters, others.map Element.characters)

theorem toList_text_cons
    (first : Element)
    (others : List Element) :
    (text ⟨first :: others⟩).toList =
      (first :: others).flatMap fun element => '/' :: element.characters := by
  have elements : (⟨first :: others⟩ : Address).isRoot = false := rfl
  rw [text, elements, if_neg Bool.false_ne_true, String.toList_join, List.flatMap_map]
  simp [Element.toList_text]

theorem body_cons
    (first : Element)
    (others : List Element) :
    body ⟨first :: others⟩ =
      first.characters ++ others.flatMap fun element => '/' :: element.characters := by
  simp [body, Text.join, List.flatMap_map]

theorem toList_text (address : Address) : address.text.toList = '/' :: address.body := by
  obtain ⟨elements⟩ := address
  cases elements with
  | nil => rfl
  | cons first others => rw [toList_text_cons, body_cons, List.flatMap_cons, List.cons_append]

/-- The text of an address ends as its last value does. -/
theorem getLast?_text
    {address : Address}
    {element : Element}
    (last : address.last? = some element) :
    address.text.toList.getLast? = element.value.toList.getLast? := by
  obtain ⟨elements⟩ := address
  obtain ⟨front, rfl⟩ := List.getLast?_eq_some_iff.1 last
  have whole : (text ⟨front ++ [element]⟩).toList =
      (front ++ [element]).flatMap fun element => '/' :: element.characters := by
    cases front with
    | nil => exact toList_text_cons element []
    | cons first front => exact toList_text_cons first (front ++ [element])
  have visible : element.value.toList ≠ [] := by simpa using element.value_ne
  rw [whole, List.getLast?_eq_some_getLast visible]
  simp [Element.characters, List.getLast?_append, List.getLast?_cons,
    List.getLast?_eq_some_getLast visible]

theorem dropSlash_cons_of_ne
    {character : Char}
    (different : character ≠ '/')
    (rest : List Char) :
    dropSlash (character :: rest) = character :: rest := by
  rw [dropSlash]
  exact fun _ same => different (List.cons.inj same).1

/-- A slash is dropped, or nothing is. -/
theorem dropSlash_cases (characters : List Char) :
    characters = '/' :: dropSlash characters ∨ dropSlash characters = characters := by
  cases characters with
  | nil => exact Or.inr rfl
  | cons character rest =>
      by_cases slash : character = '/'
      · subst slash
        exact Or.inl rfl
      · exact Or.inr (dropSlash_cons_of_ne slash rest)

theorem dropSlash_body
    {address : Address}
    (displayable : address.Displayable) :
    dropSlash address.body = address.body := by
  obtain ⟨elements⟩ := address
  cases elements with
  | nil => rfl
  | cons first others =>
      have absent := (displayable.keys first List.mem_cons_self).1
      have visible : first.key.toList ≠ [] := by simpa using first.key_ne
      rw [body_cons, Element.characters]
      cases key : first.key.toList with
      | nil => exact absurd key visible
      | cons character rest =>
          rw [key] at absent
          exact dropSlash_cons_of_ne (fun same => absent (same ▸ List.mem_cons_self)) _

/-- A text is an address's own, with or without its first slash, when it is the address's text
once a first slash is dropped. -/
theorem dropSlash_eq_body_iff
    {address : Address}
    (displayable : address.Displayable)
    {characters : List Char} :
    dropSlash characters = address.body ↔
      characters = address.text.toList ∨ '/' :: characters = address.text.toList := by
  rw [toList_text]
  constructor
  · intro dropped
    rw [← dropped]
    exact (dropSlash_cases characters).imp id fun same => congrArg _ same.symm
  · rintro (rfl | same)
    · rfl
    · rw [(List.cons.inj same).2, dropSlash_body displayable]

/-! ## Reading segments -/

/-- A segment is read as an element when it is the element's text, cut at the first equals sign. -/
theorem readSegment_eq_ok_iff
    {text : String}
    {segment : List Char}
    {element : Element} :
    readSegment text segment = .ok element ↔
      segment = element.characters ∧ '=' ∉ element.key.toList := by
  rw [readSegment]
  constructor
  · intro read
    cases found : Text.cut '=' segment with
    | none =>
        rw [found] at read
        cases read
    | some parts =>
        obtain ⟨key, value⟩ := parts
        rw [found] at read
        obtain ⟨sameKey, sameValue⟩ := Element.make_eq_ok read
        obtain ⟨whole, absent⟩ := Text.cut_eq_some found
        rw [Element.characters, sameKey, sameValue, String.toList_ofList, String.toList_ofList]
        exact ⟨whole, absent⟩
  · rintro ⟨rfl, absent⟩
    rw [Element.characters, Text.cut_append absent]
    dsimp only
    rw [String.ofList_toList, String.ofList_toList, Element.make_self]

theorem readSegments_eq_ok_iff
    {text : String}
    {segments : List (List Char)}
    {elements : List Element} :
    readSegments text segments = .ok elements ↔
      segments = elements.map Element.characters ∧
        ∀ element ∈ elements, '=' ∉ element.key.toList := by
  induction segments generalizing elements with
  | nil =>
      cases elements with
      | nil => simp [readSegments]
      | cons element elements => simp [readSegments]
  | cons segment segments inductionHypothesis =>
      have step : readSegments text (segment :: segments) = .ok elements ↔
          ∃ first others, elements = first :: others ∧
            readSegment text segment = .ok first ∧ readSegments text segments = .ok others := by
        rw [readSegments]
        cases readSegment text segment with
        | error error => simp [bind, Except.bind]
        | ok first =>
            cases readSegments text segments with
            | error error => simp [bind, Except.bind]
            | ok others => simp [bind, Except.bind, eq_comm]
      rw [step]
      constructor
      · rintro ⟨first, others, rfl, firstRead, othersRead⟩
        obtain ⟨rfl, absent⟩ := readSegment_eq_ok_iff.1 firstRead
        obtain ⟨rfl, othersAbsent⟩ := inductionHypothesis.1 othersRead
        exact ⟨rfl, List.forall_mem_cons.2 ⟨absent, othersAbsent⟩⟩
      · rintro ⟨whole, absent⟩
        cases elements with
        | nil => cases whole
        | cons first others =>
            obtain ⟨rfl, rfl⟩ := List.cons.inj whole
            obtain ⟨firstAbsent, othersAbsent⟩ := List.forall_mem_cons.1 absent
            exact ⟨first, others, rfl, readSegment_eq_ok_iff.2 ⟨rfl, firstAbsent⟩,
              inductionHypothesis.2 ⟨rfl, othersAbsent⟩⟩

theorem readSegment_error
    {text : String}
    {segment : List Char}
    {error : TreeError}
    (failed : readSegment text segment = .error error) :
    ∃ flaw, error = .malformedAddress flaw := by
  rw [readSegment] at failed
  split at failed
  · rw [Element.make] at failed
    split at failed <;> cases failed
    exact ⟨_, rfl⟩
  · cases failed
    exact ⟨_, rfl⟩

/-- What cannot be read as segments is malformed. -/
theorem readSegments_error
    {text : String}
    {segments : List (List Char)}
    {error : TreeError}
    (failed : readSegments text segments = .error error) :
    ∃ flaw, error = .malformedAddress flaw := by
  induction segments with
  | nil => cases failed
  | cons segment segments inductionHypothesis =>
      rw [readSegments] at failed
      cases first : readSegment text segment with
      | error flaw =>
          rw [first] at failed
          cases failed
          exact readSegment_error first
      | ok element =>
          cases others : readSegments text segments with
          | error flaw =>
              rw [first, others] at failed
              cases failed
              exact inductionHypothesis others
          | ok elements =>
              rw [first, others] at failed
              cases failed

/-! ## Reading texts -/

/-- A text is read as an address when it is the address's body, but for blanks around it and a
slash before it, and no part of the address separates. -/
theorem ofText_eq_ok_iff
    {text : String}
    {address : Address} :
    ofText text = .ok address ↔
      dropSlash (Text.trim text.toList) = address.body ∧
        ∀ element ∈ address.elements, '/' ∉ element.characters ∧ '=' ∉ element.key.toList := by
  obtain ⟨elements⟩ := address
  rw [ofText]
  cases content : dropSlash (Text.trim text.toList) with
  | nil =>
      cases elements with
      | nil => simp [root, body]
      | cons first others => simp [root, body_cons, Element.characters]
  | cons character rest =>
      dsimp only
      rcases found : Text.pieces '/' (character :: rest) with ⟨first, others⟩
      have read : (readSegments text (first :: others) >>= fun elements =>
            (.ok ⟨elements⟩ : Except TreeError Address)) = .ok ⟨elements⟩ ↔
          readSegments text (first :: others) = .ok elements := by
        cases readSegments text (first :: others) <;> simp [bind, Except.bind]
      refine read.trans (readSegments_eq_ok_iff.trans ⟨?_, ?_⟩)
      · rintro ⟨segments, keys⟩
        obtain ⟨joined, absent⟩ := Text.pieces_eq_iff.1 found
        rw [segments] at absent
        cases elements with
        | nil => cases segments
        | cons element elements =>
            obtain ⟨rfl, rfl⟩ := List.cons.inj segments
            exact ⟨joined.symm, fun element present =>
              ⟨absent _ (List.mem_map_of_mem present), keys element present⟩⟩
      · rintro ⟨whole, absent⟩
        cases elements with
        | nil => cases whole
        | cons element elements =>
            have pieces : Text.pieces '/' (character :: rest) =
                (element.characters, elements.map Element.characters) := by
              refine Text.pieces_eq_iff.2 ⟨whole.symm, fun piece present => ?_⟩
              rw [← List.map_cons] at present
              obtain ⟨_, among, rfl⟩ := List.mem_map.1 present
              exact (absent _ among).1
            obtain ⟨rfl, rfl⟩ := Prod.mk.inj (found.symm.trans pieces)
            exact ⟨rfl, fun element present => (absent element present).2⟩

theorem ofText_error
    {text : String}
    {error : TreeError}
    (failed : ofText text = .error error) :
    ∃ flaw, error = .malformedAddress flaw := by
  rw [ofText] at failed
  cases content : dropSlash (Text.trim text.toList) with
  | nil =>
      rw [content] at failed
      cases failed
  | cons character rest =>
      rcases found : Text.pieces '/' (character :: rest) with ⟨first, others⟩
      rw [content] at failed
      dsimp only at failed
      rw [found] at failed
      cases read : readSegments text (first :: others) with
      | error flaw =>
          dsimp only at failed
          rw [read] at failed
          cases failed
          exact readSegments_error read
      | ok elements =>
          dsimp only at failed
          rw [read] at failed
          cases failed

theorem displayable_of_ofText
    {text : String}
    {address : Address}
    (read : ofText text = .ok address) :
    address.Displayable := by
  obtain ⟨whole, absent⟩ := ofText_eq_ok_iff.1 read
  refine ⟨fun element present => ?_, fun element present => ?_,
    fun element last character ends => ?_⟩
  · obtain ⟨slash, equals⟩ := absent element present
    exact ⟨fun among => slash (List.mem_append_left _ among), equals⟩
  · obtain ⟨slash, -⟩ := absent element present
    exact fun among => slash (List.mem_append_right _ (List.mem_cons_of_mem _ among))
  · rw [← getLast?_text last, toList_text, ← whole] at ends
    rcases dropSlash_cases (Text.trim text.toList) with slashed | same
    · rw [← slashed] at ends
      exact Text.isBlank_of_mem_getLast?_trim ends
    · rw [same] at ends
      cases content : Text.trim text.toList with
      | nil =>
          rw [content] at ends
          cases ends
          rfl
      | cons first rest =>
          rw [content, List.getLast?_cons_cons, ← content] at ends
          exact Text.isBlank_of_mem_getLast?_trim ends

theorem trim_text
    {address : Address}
    (displayable : address.Displayable) :
    Text.trim address.text.toList = address.text.toList := by
  refine Text.trim_eq_self (fun first starts => ?_) fun character ends => ?_
  · rw [toList_text] at starts
    cases starts
    rfl
  · cases last : address.last? with
    | some element =>
        rw [getLast?_text last] at ends
        exact displayable.ending element last character ends
    | none =>
        obtain ⟨elements⟩ := address
        obtain rfl : elements = [] := List.getLast?_eq_none_iff.1 last
        cases ends
        rfl

/-- A text is read as an address exactly when the address is displayable and the text, but for
blanks around it, is the address's text with or without its first slash.  All other texts are
malformed.  The text of an address is read as that address exactly when the address is displayable,
and so is all that is read. -/
theorem ofText_displayable
    (text : String)
    (address : Address) :
    (ofText text = .ok address ↔
        address.Displayable ∧ (Text.trim text.toList = address.text.toList ∨
          '/' :: Text.trim text.toList = address.text.toList)) ∧
      ((∃ read, ofText text = .ok read) ∨
        ∃ flaw, ofText text = .error (.malformedAddress flaw)) ∧
      (ofText address.text = .ok address ↔ address.Displayable) ∧
      (ofText text = .ok address → address.Displayable) := by
  have reads : ∀ text, ofText text = .ok address ↔
      address.Displayable ∧ (Text.trim text.toList = address.text.toList ∨
        '/' :: Text.trim text.toList = address.text.toList) := by
    intro text
    constructor
    · intro read
      have displayable := displayable_of_ofText read
      exact ⟨displayable, (dropSlash_eq_body_iff displayable).1 (ofText_eq_ok_iff.1 read).1⟩
    · rintro ⟨displayable, written⟩
      refine ofText_eq_ok_iff.2 ⟨(dropSlash_eq_body_iff displayable).2 written, ?_⟩
      intro element present
      obtain ⟨slash, equals⟩ := displayable.keys element present
      refine ⟨fun among => ?_, equals⟩
      rcases List.mem_append.1 among with among | among
      · exact slash among
      · rcases List.mem_cons.1 among with same | among
        · exact absurd same (by decide)
        · exact displayable.values element present among
  refine ⟨reads text, ?_, ?_, displayable_of_ofText⟩
  · cases outcome : ofText text with
    | ok read => exact Or.inl ⟨read, rfl⟩
    | error error =>
        obtain ⟨flaw, rfl⟩ := ofText_error outcome
        exact Or.inr ⟨flaw, rfl⟩
  · exact ⟨displayable_of_ofText, fun displayable =>
      (reads address.text).2 ⟨displayable, Or.inl (trim_text displayable)⟩⟩

/-- Blanks around the text go; those inside it, and further equals signs, belong to keys and
values. -/
theorem ofText_displayable_blanks :
    let address : Address :=
      ⟨[⟨"a b", " ", by decide, by decide⟩, ⟨" c", "=d", by decide, by decide⟩]⟩
    ofText "\ta b= / c==d\u3000" = .ok address ∧ address.Displayable := by
  intro address
  have read : ofText "\ta b= / c==d\u3000" = .ok address := by rfl
  exact ⟨read, (ofText_displayable _ address).2.2.2 read⟩

end Address
end ManagedTree
