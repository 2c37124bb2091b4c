import Companion.Proofs.Xml.Grammar
import Companion.Proofs.Xml.Written

/-!
Documents that were written and are read back. Main statements: `read_text` for elements, `read_text_nil`
for the root that is nil, and `read_of_written` for both.
-/
set_option autoImplicit false

namespace Companion.Xml

namespace Document

open Companion.Xml.Part (tokensOf elementsOf charactersOf AllUnmixed objectOf)

variable {root : String}

/-! ## What written parts spell -/

theorem resolve_named {c found : Char} {name : List Char}
    (named : predefined.find? (fun entry => entry.2 = c) = some (name, found)) :
    resolve name = .ok c := by
  have same : found = c := by simpa using List.find?_some named
  have member := List.mem_of_find?_eq_some named
  subst same
  simp only [predefined, List.mem_cons, List.not_mem_nil, or_false, Prod.mk.injEq] at member
  rcases member with ⟨rfl, rfl⟩ | ⟨rfl, rfl⟩ | ⟨rfl, rfl⟩ | ⟨rfl, rfl⟩ | ⟨rfl, rfl⟩ <;> rfl

-- What parts hold as the inside of an element.
structure Spells (parts : List Part) (text : List Char) (elements : List Element) : Prop where
  text : charactersOf parts = text
  elements : elementsOf parts = elements
  unmixed : AllUnmixed parts
  resolves : Resolves (tokensOf parts)

theorem spells_nothing : Spells [] [] [] := ⟨rfl, rfl, trivial, nofun⟩

theorem spells_append {front back : List Part} {text more : List Char} {elements others : List Element}
    (first : Spells front text elements) (second : Spells back more others) :
    Spells (front ++ back) (text ++ more) (elements ++ others) := by
  refine ⟨?_, ?_, (Part.unmixed_append front back).mpr ⟨first.unmixed, second.unmixed⟩, ?_⟩
  · rw [charactersOf, List.flatMap_append, ← first.text, ← second.text, charactersOf, charactersOf]
  · rw [Part.elements_of_append, first.elements, second.elements]
  · rw [Part.tokens_of_append, resolves_append]
    exact ⟨first.resolves, second.resolves⟩

theorem spells_text (content : List Char) : Spells [.text content] content [] :=
  ⟨by simp [charactersOf, Part.characters], by simp [elementsOf, Part.element?],
    by simp [AllUnmixed, Part.Unmixed], by simp [Resolves, tokensOf, Part.tokens]⟩

-- Neighbouring runs of text are as good as one.
theorem spells_joined {first second : List Char} {rest : List Part} {text : List Char} {elements : List Element}
    (spells : Spells (.text first :: .text second :: rest) text elements) :
    Spells (.text (first ++ second) :: rest) text elements := by
  refine ⟨?_, spells.elements, ⟨trivial, spells.unmixed.2.2⟩, fun name member => spells.resolves name ?_⟩
  · rw [← spells.text]
    simp [charactersOf, Part.characters]
  · rw [Part.tokens_of_text] at member ⊢
    rcases List.mem_cons.mp member with same | behind
    · cases same
    · exact List.mem_cons_of_mem _ (List.mem_cons_of_mem _ behind)

theorem spells_reference {name : List Char} {c : Char} (resolved : resolve name = .ok c) :
    Spells [.reference name] [c] [] := by
  refine ⟨?_, by simp [elementsOf, Part.element?], by simp [AllUnmixed, Part.Unmixed], ?_⟩
  · simp [charactersOf, Part.characters, resolved, Except.toOption]
  · intro other member
    cases List.mem_singleton.mp member
    exact ⟨c, resolved⟩

theorem spells_text_parts (content : List Char) : Spells (textParts content) content [] := by
  induction content with
  | nil => exact spells_nothing
  | cons c rest ih =>
      cases named : predefined.find? fun entry => entry.2 = c with
      | some entry =>
          rw [textParts, named]
          exact spells_append (spells_reference (resolve_named named)) ih
      | none =>
          have grown := spells_append (spells_text [c]) ih
          rw [textParts, named]
          dsimp only
          split
          · rename_i run more parts
            rw [parts] at grown
            exact spells_joined grown
          · exact grown

theorem spells_element {name : List Char} {inside : List Part} {text : List Char} {elements : List Element}
    (spaceless : ∀ c ∈ name, isSpace c = false) (spells : Spells inside text elements)
    (unmixed : elements ≠ [] → text = []) :
    Spells [.element name inside] [] [Part.filled (String.ofList name) text elements] := by
  refine ⟨rfl, ?_, ⟨⟨?_, spells.unmixed⟩, trivial⟩, ?_⟩
  · simp [elementsOf, Part.element?, tag_name_spaceless spaceless, spells.text, spells.elements]
  · rw [Part.any_is_element, spells.elements, spells.text]
    cases elements with
    | nil => simp
    | cons first rest => simp [unmixed]
  · have inner := spells.resolves
    simpa [Resolves, tokensOf, Part.tokens] using inner

mutual
theorem spells_part (name : List Char) (spaceless : ∀ c ∈ name, isSpace c = false) : (element : Element) →
    (∀ inner ∈ element.descendants, ∀ c ∈ inner.name.toList, isSpace c = false) →
    Spells [element.part name] [] [element.renamed (String.ofList name)]
  | .text own content, _ => by
      have spells := spells_element spaceless (spells_text_parts content.toList) (by simp)
      rwa [Part.filled, String.ofList_toList] at spells
  | .node own [], _ => by
      refine ⟨rfl, ?_, ⟨trivial, trivial⟩, by simp [Resolves, Element.part, tokensOf, Part.tokens]⟩
      simp [Element.part, elementsOf, Part.element?, tag_name_spaceless spaceless, Element.renamed]
  | .node own (first :: rest), inner =>
      spells_element spaceless (spells_parts_all (first :: rest) inner) fun _ => rfl
theorem spells_parts_all : (elements : List Element) →
    (∀ inner ∈ descendantsAll elements, ∀ c ∈ inner.name.toList, isSpace c = false) →
    Spells (partsAll elements) [] elements
  | [], _ => spells_nothing
  | element :: rest, inner => by
      rw [descendantsAll, List.forall_mem_cons, List.forall_mem_append] at inner
      obtain ⟨spaceless, within, others⟩ := inner
      have first := spells_part element.name.toList spaceless element within
      rw [String.ofList_toList, renamed_same rfl] at first
      exact spells_append first (spells_parts_all rest others)
end

/-! ## Roots -/

theorem is_nil_spaceless {name : List Char} (spaceless : ∀ c ∈ name, isSpace c = false) :
    isNil name = false := by
  have nothing : name.dropWhile (fun c => !isSpace c) = [] := by
    have whole : tagName name ++ name.dropWhile (fun c => !isSpace c) = name :=
      List.takeWhile_append_dropWhile
    rw [tag_name_spaceless spaceless] at whole
    simpa using whole
  have unattributed : Attribute.ofTag true name = [] := by
    rw [Attribute.ofTag, nothing, Attribute.items]
    rfl
  simp [isNil, unattributed]

theorem unmatched_written (root : String) (object : Option Element) :
    unmatched (text root object) = Scan.ofChars (writtenRoot root object) := by
  rw [unmatched, text, String.toList_ofList, without_mark_declaration, scan_declaration]

theorem unmatched_text {element : Element} (tagged : element.Tagged root.toList)
    (inner : ∀ inner ∈ element.descendants, inner.Tagged inner.name.toList) :
    unmatched (text root (some element)) = ⟨(element.part root.toList).tokens, none⟩ := by
  have whole := scan_written root.toList [] element tagged inner
  rw [unmatched_written, writtenRoot]
  simpa [Scan.ofChars, Scan.prepend] using whole

theorem tag_of_part (element : Element) (name : List Char) : (element.part name).tag? = some name := by
  cases element with
  | text own content => rfl
  | node own children => cases children <;> rfl

theorem read_tagged {element : Element} (tagged : element.Tagged root.toList)
    (inner : ∀ inner ∈ element.descendants, inner.Tagged inner.name.toList) :
    read root (text root (some element)) = .ok (some (element.renamed root)) := by
  have spaceless := tagged.named.spaceless
  have spells := spells_part root.toList spaceless element fun found member => (inner found member).named.spaceless
  have tag := tag_of_part element root.toList
  have named : String.ofList (tagName root.toList) = root := by
    rw [tag_name_spaceless spaceless, String.ofList_toList]
  have whole : (element.part root.toList).element? = some (element.renamed root) := by
    have elements := spells.elements
    rw [String.ofList_toList] at elements
    simpa [elementsOf] using elements
  rw [read_eq_ok_iff, unmatched_text tagged inner]
  refine ⟨rfl, ?_, [element.part root.toList], ?_, document_of_tag tag named spells.unmixed.1, ?_⟩
  · simpa [tokensOf] using spells.resolves
  · simp [tokensOf]
  · rw [object_of_tag tag, is_nil_spaceless spaceless, if_neg Bool.false_ne_true, whole]

theorem read_text (root : String) (element : Element) (named : IsTagName root.toList)
    (inner : element.InnerNames fun name => IsTagName name.toList) :
    read root (text root (some element)) = .ok (some (element.renamed root)) := by
  rw [inner_names_iff] at inner
  exact read_tagged (tagged_of_tag_name named element) fun found member => tagged_of_tag_name (inner found member) found

/-! ## The root that is nil -/

def bindingKey : List Char := ['x', 'm', 'l', 'n', 's', ':', 'x', 's', 'i']

def bindingValue : List Char := [
  'h', 't', 't', 'p', ':', '/', '/', 'w', 'w', 'w', '.', 'w', '3', '.', 'o', 'r', 'g', '/',
  '2', '0', '0', '1', '/', 'X', 'M', 'L', 'S', 'c', 'h', 'e', 'm', 'a', '-', 'i', 'n', 's',
  't', 'a', 'n', 'c', 'e']

-- The content of the nil root behind its name.
def nilAttributes : List Char :=
  ' ' :: bindingKey ++ '=' :: '"' :: bindingValue ++ '"' :: ' ' :: nilKey ++
    ['=', '"', 't', 'r', 'u', 'e', '"']

theorem nil_mark_chars : nilMark.toList = nilAttributes ++ ['/', '>'] := by
  have same : nilMark = String.ofList (nilAttributes ++ ['/', '>']) := by decide
  rw [same, String.toList_ofList]

theorem items_of_next {unique : Bool} {total : Nat} {seen more : Attribute.Seen}
    {item : Attribute.Item} {chars rest : List Char}
    (found : Attribute.next unique total seen chars = some (item, more, rest)) :
    Attribute.items unique total seen chars = item :: Attribute.items unique total more rest := by
  rw [Attribute.items]
  split <;> simp_all

theorem items_nil_attributes (total : Nat) :
    Attribute.items true total [] nilAttributes =
      [.ok ⟨bindingKey, bindingValue⟩, .ok ⟨nilKey, "true".toList⟩] := by
  have first : Attribute.next true total [] nilAttributes =
      some (.ok ⟨bindingKey, bindingValue⟩,
        [(bindingKey, total - Utf8.byteLength nilAttributes.tail)],
        ' ' :: nilKey ++ ['=', '"', 't', 'r', 'u', 'e', '"']) := rfl
  have second (position : Nat) : Attribute.next true total [(bindingKey, position)]
      (' ' :: nilKey ++ ['=', '"', 't', 'r', 'u', 'e', '"']) =
      some (.ok ⟨nilKey, "true".toList⟩, [(nilKey, total - 14), (bindingKey, position)], []) := rfl
  rw [items_of_next first, items_of_next (second _), Attribute.items]
  rfl

set_option maxRecDepth 2000 in
theorem unmatched_text_nil (named : IsTagName root.toList) :
    unmatched (text root none) = ⟨[.empty (root.toList ++ nilAttributes)], none⟩ := by
  have closed : tagContent none (nilAttributes ++ ['/', '>']) = .ok (nilAttributes ++ ['/'], []) := rfl
  have ended : tagContent none (root.toList ++ (nilAttributes ++ ['/', '>'])) =
      .ok (root.toList ++ nilAttributes ++ ['/'], []) := by
    rw [tag_content_named named.toIsName named.closed, closed]
    simp [Except.map]
  have notStop : ∀ first ∈ (root.toList ++ nilAttributes ++ ['/']).head?, first ≠ '/' := by
    rw [List.append_assoc]
    exact named.notStop named.whole _
  have marked : ∀ first ∈ (root.toList ++ (nilAttributes ++ ['/', '>'])).head?, first ≠ '!' ∧ first ≠ '?' :=
    named.unmarked (by decide) _
  rw [unmatched_written, writtenRoot, nil_mark_chars, List.cons_append, scan_tag marked ended,
    tag_of_empty notStop, Scan.ofChars]
  rfl

theorem tag_name_nil (named : IsTagName root.toList) :
    tagName (root.toList ++ nilAttributes) = root.toList := by
  unfold tagName
  have stops : nilAttributes.takeWhile (fun c => !isSpace c) = [] := rfl
  rw [List.takeWhile_append_of_pos (by simpa using named.spaceless), stops, List.append_nil]

theorem is_nil_attributes (named : IsTagName root.toList) :
    isNil (root.toList ++ nilAttributes) = true := by
  have behind : (root.toList ++ nilAttributes).dropWhile (fun c => !isSpace c) = nilAttributes := by
    rw [List.dropWhile_append_of_pos (by simpa using named.spaceless)]
    rfl
  rw [isNil, Attribute.ofTag, behind, items_nil_attributes]
  rfl

theorem read_text_nil (root : String) (named : IsTagName root.toList) :
    read root (text root none) = .ok none := by
  have tag : (Part.empty (root.toList ++ nilAttributes)).tag? = some (root.toList ++ nilAttributes) := rfl
  have rooted : String.ofList (tagName (root.toList ++ nilAttributes)) = root := by
    rw [tag_name_nil named, String.ofList_toList]
  rw [read_eq_ok_iff, unmatched_text_nil named]
  refine ⟨rfl, by simp [Resolves], [.empty (root.toList ++ nilAttributes)], rfl,
    document_of_tag tag rooted trivial, ?_⟩
  rw [object_of_tag tag, is_nil_attributes named, if_pos rfl]

/--
What is written of an object is read as that object, under the name of the root: texts, nesting and the
difference between an empty text and nothing inside are kept. So is an object that is not there.
-/
theorem read_of_written (root : String) (valid : Identifier.isValid root = true) (object : Option Element)
    (names : ∀ element, object = some element →
      element.InnerNames fun name => Identifier.isValid name = true) :
    read root (text root object) = .ok (object.map (Element.renamed root)) := by
  have named := tag_name_of_valid root valid
  cases object with
  | none => exact read_text_nil root named
  | some element => exact read_text root element named (inner_names_mono tag_name_of_valid element (names element rfl))

-- A text that looks like markup, a blank one, an empty one and an element with nothing inside.
def poems : Element :=
  .node "Poems" [.text "Title" "a < b & c]]> \"", .node "Lines" [.text "Line" " ", .text "Line" "", .node "Line" []]]

theorem read_of_written_poems :
    Identifier.isValid "Book" = true ∧
      (poems.InnerNames fun name => Identifier.isValid name = true) ∧
      read "Book" (text "Book" (some poems)) = .ok (some (poems.renamed "Book")) := by
  have names : poems.InnerNames fun name => Identifier.isValid name = true := by
    rw [inner_names_iff]
    decide
  refine ⟨by decide, names, read_of_written "Book" (by decide) (some poems) fun element same => ?_⟩
  cases same
  exact names

end Document
end Companion.Xml
