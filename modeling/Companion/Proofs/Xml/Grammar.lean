import Companion.Proofs.Xml.Parts

/-!
The grammar of documents: which trees of parts are documents, and which object such a tree holds. Main
statements: `read_eq_ok_iff`, reading finds exactly the objects of the documents that a text spells, and
`read_accepts_grammar`, which texts can be read.
-/
set_option autoImplicit false

namespace Companion.Xml

namespace Document

variable {root : String}

-- Every reference stands for a character.
def Resolves (tokens : List Token) : Prop := ∀ name, .reference name ∈ tokens → ∃ c, resolve name = .ok c

theorem resolves_append (front back : List Token) :
    Resolves (front ++ back) ↔ Resolves front ∧ Resolves back := by
  simp only [Resolves, List.mem_append, or_imp, forall_and]

theorem resolves_reference (name : List Char) :
    Resolves [.reference name] ↔ ∃ c, resolve name = .ok c := by
  simp [Resolves]

end Document

namespace Part

open Companion.Xml.Document (Open Reading Resolves resolve resolves_append resolves_reference add_no_text
  enter_root_eq_ok next_text_eq_ok next_reference_eq_ok next_start_eq_ok next_empty_eq_ok next_stop_eq_ok)

variable {root : String}

def isNil (part : Part) : Bool := part.tag?.any Document.isNil

-- Character data that is neither a section nor a reference.
def plain : Part → List Char
  | .text content => content
  | _ => []

-- What a part does to the reading it comes to. Outside of all elements only plain text has to be blank:
-- a section or a reference is dropped there, whatever it holds.
inductive Takes (root : String) : Part → Reading → Reading → Prop
  | data {part : Part} {reading : Reading} (data : part.tag? = none)
      (blank : reading.opened = [] → part.plain.all Text.isBlank = true) :
      Takes root part reading (reading.addText part.characters)
  | element {part : Part} {content : List Char} {element : Element} {reading entered : Reading}
      (tag : part.tag? = some content) (whole : part.element? = some element)
      (entrance : reading.enterRoot root content = .ok entered) :
      Takes root part reading (entered.addElement element)

theorem takes_data {part : Part} (data : part.tag? = none) {reading after : Reading} :
    Takes root part reading after ↔
      (reading.opened = [] → part.plain.all Text.isBlank = true) ∧ after = reading.addText part.characters := by
  constructor
  · intro takes
    cases takes with
    | data _ blank => exact ⟨blank, rfl⟩
    | element tag => rw [data] at tag; cases tag
  · rintro ⟨blank, rfl⟩
    exact .data data blank

theorem takes_element {part : Part} {content : List Char} {element : Element} (tag : part.tag? = some content)
    (whole : part.element? = some element) {reading after : Reading} :
    Takes root part reading after ↔
      ∃ entered, reading.enterRoot root content = .ok entered ∧ after = entered.addElement element := by
  constructor
  · intro takes
    cases takes with
    | data data => rw [tag] at data; cases data
    | element other filled entrance =>
        rw [tag] at other
        rw [whole] at filled
        cases other
        cases filled
        exact ⟨_, entrance, rfl⟩
  · rintro ⟨entered, entrance, rfl⟩
    exact .element tag whole entrance

/-! ## Elements -/

-- An open element with the parts inside it taken in.
def taking (parent : Open) (parts : List Part) : Open :=
  { parent with
    text := parent.text ++ charactersOf parts,
    children := (elementsOf parts).reverse ++ parent.children }

theorem taking_nil (parent : Open) : taking parent [] = parent := by
  simp [taking, charactersOf, elementsOf]

theorem taking_cons (parent : Open) (part : Part) (rest : List Part) :
    taking (taking parent [part]) rest = taking parent (part :: rest) := by
  simp [taking, charactersOf, elementsOf]

theorem close_taking (name : List Char) (inside : List Part) (element : Element) :
    (taking ⟨name, [], []⟩ inside).close = .ok element ↔
      (inside.any isElement = true → (charactersOf inside).all Text.isBlank = true) ∧
        element = filled (String.ofList name) (charactersOf inside) (elementsOf inside) := by
  rw [any_is_element, Open.close]
  cases children : elementsOf inside with
  | nil => simp [taking, children, filled, eq_comm (a := element)]
  | cons first rest =>
      by_cases blank : (charactersOf inside).all Text.isBlank = true
      · simp [taking, children, filled, blank, eq_comm (a := element)]
      · simp [taking, children, blank]

theorem takes_inside {part : Part} {parent : Open} {rest : List Open} {isNil : Bool}
    {object : Option (Option Element)} {after : Reading} :
    Takes root part ⟨parent :: rest, isNil, object⟩ after ↔
      after = ⟨taking parent [part] :: rest, isNil, object⟩ := by
  cases tag : part.tag? with
  | none =>
      rw [takes_data tag]
      simp [Reading.addText, taking, charactersOf, elementsOf, element_of_data tag]
  | some content =>
      obtain ⟨element, whole, silent⟩ := element_of_tag tag
      rw [takes_element tag whole]
      simp [enter_root_eq_ok, Reading.addElement, taking, charactersOf, elementsOf, whole, silent]

theorem fold_one (token : Token) (reading : Reading) :
    [token].foldlM (Reading.next root) reading = reading.next root token := by
  rw [List.foldlM_cons]
  simp

mutual
theorem fold_part (reading after : Reading) : (part : Part) →
    (part.tokens.foldlM (Reading.next root) reading = .ok after ↔
      Resolves part.tokens ∧ part.Unmixed ∧ Takes root part reading after)
  | .text content => by
      rw [tokens, fold_one, next_text_eq_ok, takes_data rfl]
      simp [Resolves, Unmixed, plain, characters]
  | .cdata content => by
      rw [tokens, fold_one, takes_data rfl]
      simp [Resolves, Unmixed, plain, characters, Reading.next, eq_comm (a := after)]
  | .reference name => by
      rw [tokens, fold_one, next_reference_eq_ok, takes_data rfl, resolves_reference, characters]
      cases resolve name <;> simp [Unmixed, plain, Except.toOption]
  | .doctype => by
      have dropped : Part.doctype.characters = [] := rfl
      rw [tokens, fold_one, takes_data rfl, dropped, add_no_text]
      simp [Resolves, Unmixed, plain, Reading.next, eq_comm (a := after)]
  | .empty content => by
      rw [tokens, fold_one, takes_element rfl rfl, next_empty_eq_ok]
      simp [Resolves, Unmixed]
  | .element content inside => by
      have within : Resolves (element content inside).tokens ↔ Resolves (tokensOf inside) := by
        simp [Resolves, tokens]
      rw [takes_element rfl rfl, within, tokens, List.cons_append, List.foldlM_cons, bind_eq_ok, Unmixed]
      constructor
      · rintro ⟨pushed, start, behind⟩
        obtain ⟨entered, entrance, rfl⟩ := next_start_eq_ok.mp start
        obtain ⟨filling, inner, stop⟩ := fold_append_eq_ok.mp behind
        obtain ⟨resolves, unmixed, rfl⟩ := (fold_inside _ _ _ _ _ inside).mp inner
        rw [fold_one, next_stop_eq_ok] at stop
        obtain ⟨element, closed, rfl⟩ := stop
        obtain ⟨blank, rfl⟩ := (close_taking _ inside element).mp closed
        exact ⟨resolves, ⟨blank, unmixed⟩, entered, entrance, rfl⟩
      · rintro ⟨resolves, ⟨blank, unmixed⟩, entered, entrance, rfl⟩
        refine ⟨_, next_start_eq_ok.mpr ⟨entered, entrance, rfl⟩, fold_append_eq_ok.mpr ?_⟩
        refine ⟨_, (fold_inside _ _ _ _ _ inside).mpr ⟨resolves, unmixed, rfl⟩, ?_⟩
        rw [fold_one, next_stop_eq_ok]
        exact ⟨_, (close_taking _ inside _).mpr ⟨blank, rfl⟩, rfl⟩
theorem fold_inside (parent : Open) (opened : List Open) (isNil : Bool) (object : Option (Option Element))
    (after : Reading) : (parts : List Part) →
    ((tokensOf parts).foldlM (Reading.next root) ⟨parent :: opened, isNil, object⟩ = .ok after ↔
      Resolves (tokensOf parts) ∧ AllUnmixed parts ∧ after = ⟨taking parent parts :: opened, isNil, object⟩)
  | [] => by
      rw [taking_nil]
      simp [tokensOf, Resolves, AllUnmixed, pure, Except.pure, eq_comm (a := after)]
  | part :: rest => by
      rw [tokensOf, fold_append_eq_ok, resolves_append, AllUnmixed, ← taking_cons]
      constructor
      · rintro ⟨between, taken, behind⟩
        obtain ⟨resolves, unmixed, takes⟩ := (fold_part _ _ part).mp taken
        cases takes_inside.mp takes
        obtain ⟨resolve, others, same⟩ := (fold_inside _ opened isNil object after rest).mp behind
        exact ⟨⟨resolves, resolve⟩, ⟨unmixed, others⟩, same⟩
      · rintro ⟨⟨resolves, resolve⟩, ⟨unmixed, others⟩, same⟩
        exact ⟨_, (fold_part _ _ part).mpr ⟨resolves, unmixed, takes_inside.mpr rfl⟩,
          (fold_inside _ opened isNil object after rest).mpr ⟨resolve, others, same⟩⟩
end

/-! ## Documents -/

-- The object that an element stands for as a root.
def object? (part : Part) : Option Element := if part.isNil then none else part.element?

-- The object that the first element stands for.
def objectOf (parts : List Part) : Option Element := (parts.find? isElement).bind object?

theorem plain_of_tag {part : Part} {content : List Char} (tag : part.tag? = some content) : part.plain = [] := by
  cases part <;> first | rfl | cases tag

theorem takes_outside {part : Part} {isNil : Bool} {object : Option (Option Element)} {after : Reading} :
    Takes root part ⟨[], isNil, object⟩ after ↔
      part.plain.all Text.isBlank = true ∧
        (part.name? = none ∧ after = ⟨[], isNil, object⟩ ∨
          part.name? = some root ∧ object = none ∧ after = ⟨[], part.isNil, some part.object?⟩) := by
  cases tag : part.tag? with
  | none =>
      rw [takes_data tag]
      simp [Reading.addText, name?, tag]
  | some content =>
      obtain ⟨element, whole, silent⟩ := element_of_tag tag
      rw [takes_element tag whole]
      constructor
      · rintro ⟨entered, entrance, rfl⟩
        rcases enter_root_eq_ok.mp entrance with ⟨inside, _⟩ | ⟨_, unread, named, rfl⟩
        · exact absurd rfl inside
        · refine ⟨by rw [plain_of_tag tag]; rfl, .inr ⟨by rw [name?, tag, Option.map_some, named], unread, ?_⟩⟩
          simp [Reading.addElement, object?, Part.isNil, tag, whole]
      · rintro ⟨_, ⟨unnamed, _⟩ | ⟨named, unread, rfl⟩⟩
        · rw [name?, tag] at unnamed
          cases unnamed
        · rw [name?, tag, Option.map_some, Option.some.injEq] at named
          refine ⟨_, enter_root_eq_ok.mpr (.inr ⟨rfl, unread, named, rfl⟩), ?_⟩
          simp [Reading.addElement, object?, Part.isNil, tag, whole]

theorem find_of_data {part : Part} (unnamed : part.name? = none) (rest : List Part) :
    (part :: rest).find? isElement = rest.find? isElement := by
  apply List.find?_cons_of_neg
  simpa [name?, isElement] using unnamed

theorem find_of_root {part : Part} (named : part.name? = some root) (rest : List Part) :
    (part :: rest).find? isElement = some part := by
  apply List.find?_cons_of_pos
  obtain ⟨content, tag, _⟩ := Option.map_eq_some_iff.mp named
  rw [isElement, tag]
  rfl

-- The readings that parts outside of all elements lead to: they enter the root once, or not at all.
def Finds (root : String) (parts : List Part) (isNil : Bool) (object : Option (Option Element))
    (after : Reading) : Prop :=
  parts.filterMap name? = [] ∧ after = ⟨[], isNil, object⟩ ∨
    parts.filterMap name? = [root] ∧ object = none ∧
      after = ⟨[], (parts.find? isElement).any Part.isNil, some (objectOf parts)⟩

theorem finds_data {part : Part} (unnamed : part.name? = none) (rest : List Part) (isNil : Bool)
    (object : Option (Option Element)) (after : Reading) :
    Finds root (part :: rest) isNil object after ↔ Finds root rest isNil object after := by
  rw [Finds, List.filterMap_cons_none unnamed, objectOf, find_of_data unnamed rest, Finds, objectOf]

theorem finds_root {part : Part} (named : part.name? = some root) (rest : List Part) (isNil : Bool)
    (after : Reading) :
    Finds root (part :: rest) isNil none after ↔ Finds root rest part.isNil (some part.object?) after := by
  rw [Finds, List.filterMap_cons_some named, objectOf, find_of_root named, Finds]
  simp

theorem root_of_finds {part : Part} {name : String} (named : part.name? = some name) {rest : List Part}
    {isNil : Bool} {object : Option (Option Element)} {after : Reading}
    (finds : Finds root (part :: rest) isNil object after) : name = root ∧ object = none := by
  rw [Finds, List.filterMap_cons_some named] at finds
  rcases finds with ⟨names, _⟩ | ⟨names, unread, _⟩
  · cases names
  · exact ⟨(List.cons.inj names).1, unread⟩

theorem fold_outside (isNil : Bool) (object : Option (Option Element)) (after : Reading) (parts : List Part) :
    (tokensOf parts).foldlM (Reading.next root) ⟨[], isNil, object⟩ = .ok after ↔
      Resolves (tokensOf parts) ∧ AllUnmixed parts ∧ (∀ part ∈ parts, part.plain.all Text.isBlank = true) ∧
        Finds root parts isNil object after := by
  induction parts generalizing isNil object with
  | nil => simp [tokensOf, Resolves, AllUnmixed, Finds, pure, Except.pure, eq_comm (a := after)]
  | cons part rest ih =>
      rw [tokensOf, fold_append_eq_ok, resolves_append, AllUnmixed, List.forall_mem_cons]
      constructor
      · rintro ⟨between, taken, behind⟩
        obtain ⟨resolves, unmixed, takes⟩ := (fold_part _ _ part).mp taken
        obtain ⟨blank, ⟨unnamed, rfl⟩ | ⟨named, rfl, rfl⟩⟩ := takes_outside.mp takes
        · obtain ⟨resolve, others, blanks, finds⟩ := (ih _ _).mp behind
          exact ⟨⟨resolves, resolve⟩, ⟨unmixed, others⟩, ⟨blank, blanks⟩, (finds_data unnamed rest _ _ _).mpr finds⟩
        · obtain ⟨resolve, others, blanks, finds⟩ := (ih _ _).mp behind
          exact ⟨⟨resolves, resolve⟩, ⟨unmixed, others⟩, ⟨blank, blanks⟩, (finds_root named rest _ _).mpr finds⟩
      · rintro ⟨⟨resolves, resolve⟩, ⟨unmixed, others⟩, ⟨blank, blanks⟩, finds⟩
        cases named : part.name? with
        | none =>
            have takes : Takes root part ⟨[], isNil, object⟩ _ := takes_outside.mpr ⟨blank, .inl ⟨named, rfl⟩⟩
            refine ⟨_, (fold_part _ _ part).mpr ⟨resolves, unmixed, takes⟩, ?_⟩
            exact (ih _ _).mpr ⟨resolve, others, blanks, (finds_data named rest _ _ _).mp finds⟩
        | some name =>
            obtain ⟨rfl, rfl⟩ := root_of_finds named finds
            have takes : Takes name part ⟨[], isNil, none⟩ _ := takes_outside.mpr ⟨blank, .inr ⟨named, rfl, rfl⟩⟩
            refine ⟨_, (fold_part _ _ part).mpr ⟨resolves, unmixed, takes⟩, ?_⟩
            exact (ih _ _).mpr ⟨resolve, others, blanks, (finds_root named rest _ _).mp finds⟩

end Part

namespace Document

open Companion.Xml.Part (tokensOf elementsOf AllUnmixed Finds objectOf)

variable {root : String}

-- The scan of a text before its tags are matched.
def unmatched (text : String) : Scan := Scan.ofChars (Scan.withoutMark text.toList)

-- One element with the name of the root, and beside it nothing but blanks among the characters that count
-- there.
structure IsDocument (counted : Part → List Char) (root : String) (parts : List Part) : Prop where
  rooted : parts.filterMap Part.name? = [root]
  unmixed : AllUnmixed parts
  outside : ∀ part ∈ parts, (counted part).all Text.isBlank = true

theorem document_of_tag {part : Part} {content : List Char} (tag : part.tag? = some content)
    (named : String.ofList (tagName content) = root) (unmixed : part.Unmixed) :
    IsDocument Part.plain root [part] := by
  refine ⟨by simp [Part.name?, tag, named], ⟨unmixed, trivial⟩, fun found member => ?_⟩
  rw [List.mem_singleton.mp member, Part.plain_of_tag tag]
  rfl

theorem object_of_tag {part : Part} {content : List Char} (tag : part.tag? = some content) :
    objectOf [part] = if Document.isNil content then none else part.element? := by
  simp [objectOf, Part.isElement, Part.object?, Part.isNil, tag]

theorem read_eq_ok_iff {text : String} {object : Option Element} :
    read root text = .ok object ↔
      (unmatched text).failure = none ∧ Resolves (unmatched text).tokens ∧
        ∃ parts, tokensOf parts = (unmatched text).tokens ∧ IsDocument Part.plain root parts ∧ object = objectOf parts := by
  have matched : Scan.ofText text = Scan.balance (unmatched text).failure [] (unmatched text).tokens := rfl
  rw [read, matched, of_scan_eq_ok]
  constructor
  · rintro ⟨clean, last, folded, closed, found⟩
    obtain ⟨same, unfailing⟩ := Part.balance_of_ok clean
    rw [same] at folded
    obtain ⟨parts, spelled⟩ := parts_of_read clean folded closed
    rw [spelled] at folded ⊢
    obtain ⟨resolves, unmixed, outside, finds⟩ := (Part.fold_outside _ _ _ parts).mp folded
    rcases finds with ⟨names, rfl⟩ | ⟨names, _, rfl⟩
    · cases found
    · exact ⟨unfailing, resolves, parts, rfl, ⟨names, unmixed, outside⟩, (Option.some.inj found).symm⟩
  · rintro ⟨clean, resolves, parts, spelled, document, rfl⟩
    rw [← spelled] at resolves ⊢
    rw [clean]
    have balanced := Part.balance_tokens_of none [] [] parts
    simp only [List.append_nil, Scan.balance, Scan.prepend] at balanced
    rw [balanced]
    have finds : Finds root parts false none _ := .inr ⟨document.rooted, rfl, rfl⟩
    exact ⟨rfl, _, (Part.fold_outside _ _ _ parts).mpr ⟨resolves, document.unmixed, document.outside, finds⟩, rfl, rfl⟩

theorem head_of_object {parts : List Part} {element : Element} (object : objectOf parts = some element) :
    (elementsOf parts).head? = some element := by
  induction parts with
  | nil => cases object
  | cons part rest ih =>
      rw [elementsOf]
      by_cases data : part.element? = none
      · have found : part.isElement = false := by rw [← Part.is_some_element, data]; rfl
        rw [data]
        exact ih (by simpa [objectOf, found] using object)
      · obtain ⟨own, whole⟩ := Option.ne_none_iff_exists'.mp data
        have found : part.isElement = true := by rw [← Part.is_some_element, whole]; rfl
        have shown : own = element := by
          have taken : part.isNil = false ∧ own = element := by
            simpa [objectOf, found, Part.object?, whole] using object
          exact taken.2
        rw [whole, shown]
        rfl

theorem elements_of_document {counted : Part → List Char} {parts : List Part} {element : Element}
    (document : IsDocument counted root parts) (object : objectOf parts = some element) :
    elementsOf parts = [element] ∧ element.name = root := by
  have names := document.rooted
  rw [Part.names_of_elements] at names
  obtain ⟨only, elements, named⟩ := List.map_eq_singleton_iff.mp names
  have first := head_of_object object
  rw [elements] at first ⊢
  cases first
  exact ⟨rfl, named⟩

theorem name_of_read {text : String} {element : Element} (found : read root text = .ok (some element)) :
    element.name = root := by
  obtain ⟨_, _, parts, _, document, object⟩ := read_eq_ok_iff.mp found
  exact (elements_of_document document object.symm).2

/--
A text whose references all mean characters can be read if and only if it spells a document: one element
outside of all others, named as the root must be, each start tag closed by its own end tag, no element
with elements and text in it, and only blanks in the plain text around the root.
-/
theorem read_accepts_grammar (root text : String) (clean : (unmatched text).failure = none)
    (resolves : Resolves (unmatched text).tokens) :
    (∃ object, read root text = .ok object) ↔
      ∃ parts, tokensOf parts = (unmatched text).tokens ∧ IsDocument Part.plain root parts := by
  constructor
  · rintro ⟨object, found⟩
    obtain ⟨_, _, parts, spelled, document, _⟩ := read_eq_ok_iff.mp found
    exact ⟨parts, spelled, document⟩
  · rintro ⟨parts, spelled, document⟩
    exact ⟨objectOf parts, read_eq_ok_iff.mpr ⟨clean, resolves, parts, spelled, document, rfl⟩⟩

-- A book with blanks, a section and references in it, a comment, and a reference behind it.
def page : String := "<Book> <N>a&lt;<![CDATA[<]]></N><!--c--><M/></Book>&#32;"

theorem unmatched_page :
    unmatched page = ⟨[.start "Book".toList, .text [' '], .start ['N'], .text ['a'], .reference ['l', 't'],
      .cdata ['<'], .stop ['N'], .empty ['M'], .stop "Book".toList, .reference "#32".toList], none⟩ := by
  decide +kernel

theorem read_accepts_grammar_page :
    (unmatched page).failure = none ∧ Resolves (unmatched page).tokens ∧
      ((∃ object, read "Book" page = .ok object) ↔
        ∃ parts, tokensOf parts = (unmatched page).tokens ∧ IsDocument Part.plain "Book" parts) := by
  have clean : (unmatched page).failure = none := by rw [unmatched_page]
  have resolves : Resolves (unmatched page).tokens := by
    intro name member
    rw [unmatched_page] at member
    have either : name = ['l', 't'] ∨ name = "#32".toList := by simpa using member
    rcases either with rfl | rfl
    · exact ⟨'<', rfl⟩
    · exact ⟨' ', rfl⟩
  exact ⟨clean, resolves, read_accepts_grammar "Book" page clean resolves⟩

-- A token that is no start tag spells a part of its own.
theorem part_of_token {parts : List Part} {token : Token} {rest : List Token}
    (alone : ∀ content, token ≠ .start content) (spelled : tokensOf parts = token :: rest) :
    ∃ part others, parts = part :: others ∧ part.tokens = [token] ∧ tokensOf others = rest := by
  cases parts with
  | nil => cases spelled
  | cons part others =>
      refine ⟨part, others, rfl, ?_⟩
      cases part with
      | element content inside => cases alone content (List.cons.inj spelled).1.symm
      | _ => exact ⟨by rw [Part.tokens, (List.cons.inj spelled).1], (List.cons.inj spelled).2⟩

theorem section_of_token {part : Part} {content : List Char} (spelled : part.tokens = [.cdata content]) :
    part = .cdata content := by
  cases part with
  | element tag inside => simp [Part.tokens] at spelled
  | _ => simp_all [Part.tokens]

/-- A section behind the root is no blank, and still the text is read. -/
theorem section_outside_root_read :
    (unmatched "<R/><![CDATA[x]]>").failure = none ∧ Resolves (unmatched "<R/><![CDATA[x]]>").tokens ∧
      ¬((∃ object, read "R" "<R/><![CDATA[x]]>" = .ok object) ↔
        ∃ parts, tokensOf parts = (unmatched "<R/><![CDATA[x]]>").tokens ∧
          IsDocument Part.characters "R" parts) := by
  have scanned : unmatched "<R/><![CDATA[x]]>" = ⟨[.empty ['R'], .cdata ['x']], none⟩ := by decide +kernel
  rw [scanned]
  refine ⟨rfl, by simp [Resolves], fun accepts => ?_⟩
  have found : ∃ object, read "R" "<R/><![CDATA[x]]>" = .ok object := ⟨some (.node "R" []), by decide +kernel⟩
  obtain ⟨parts, spelled, document⟩ := accepts.mp found
  obtain ⟨_, behind, rfl, _, spelled⟩ := part_of_token (by simp) spelled
  obtain ⟨part, _, rfl, spelled, _⟩ := part_of_token (by simp) spelled
  cases section_of_token spelled
  have blank := document.outside (.cdata ['x']) (by simp)
  cases blank

end Document
end Companion.Xml
