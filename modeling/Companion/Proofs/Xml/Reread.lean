import Companion.Proofs.Xml.Lexed
import Companion.Proofs.Xml.RoundTrip

/-!
Documents that are read, written and read again. A name is read from a tag as it stands there, and a tag
made from the name alone need not be that tag again. Main statement: `read_again`, which objects come back.
-/
set_option autoImplicit false

namespace Companion.Xml

open Companion.Xml.Part (tokensOf elementsOf)

/-! ## The tags of a document -/

-- A tag without what it holds beside its name.
def Token.tag? : Token → Option Token
  | .start content => some (.start (tagName content))
  | .empty content => some (.empty (tagName content))
  | .stop name => some (.stop name)
  | _ => none

def tagsOf (tokens : List Token) : List Token := tokens.filterMap Token.tag?

theorem tags_append (front back : List Token) : tagsOf (front ++ back) = tagsOf front ++ tagsOf back :=
  List.filterMap_append

theorem tag_name_idem (content : List Char) : tagName (tagName content) = tagName content :=
  List.takeWhile_idem

theorem tags_of_data {part : Part} (data : part.element? = none) : tagsOf part.tokens = [] := by
  cases part <;> simp_all [Part.element?, Part.tokens, tagsOf, Token.tag?]

theorem tags_of_data_all {parts : List Part} (data : elementsOf parts = []) : tagsOf (tokensOf parts) = [] := by
  induction parts with
  | nil => rfl
  | cons part rest ih =>
      obtain ⟨own, others⟩ := List.append_eq_nil_iff.mp data
      rw [tokensOf, tags_append, tags_of_data (Option.toList_eq_nil_iff.mp own), ih others, List.append_nil]

theorem tags_element (content : List Char) (inside : List Part) :
    tagsOf (Part.element content inside).tokens =
      .start (tagName content) :: tagsOf (tokensOf inside) ++ [.stop (tagName content)] := by
  simp [Part.tokens, tagsOf, Token.tag?]

theorem tags_filled (name text : List Char) (elements : List Element) :
    tagsOf ((Part.filled (String.ofList name) text elements).part name).tokens =
      .start (tagName name) :: tagsOf (tokensOf (partsAll elements)) ++ [.stop (tagName name)] := by
  cases elements with
  | nil =>
      have silent := tags_of_data_all (Document.spells_text_parts text).elements
      rw [Part.filled, Element.part, tags_element, String.toList_ofList, silent]
      rfl
  | cons first rest => rw [Part.filled, Element.part, tags_element]

mutual
theorem tags_of_part : (part : Part) → tagsOf part.tokens = tagsOf (tokensOf (partsAll part.element?.toList))
  | .empty content => by
      simp [Part.element?, partsAll, Element.name, Element.part, Part.tokens, tokensOf, tagsOf, Token.tag?,
        tag_name_idem]
  | .element content inside => by
      rw [tags_element, tags_of_parts inside, Part.element?, Option.toList_some, partsAll, partsAll,
        Part.name_of_filled, String.toList_ofList, tokensOf, tokensOf, List.append_nil, tags_filled, tag_name_idem]
  | .text _ | .cdata _ | .reference _ | .doctype => tags_of_data rfl
theorem tags_of_parts : (parts : List Part) →
    tagsOf (tokensOf parts) = tagsOf (tokensOf (partsAll (elementsOf parts)))
  | [] => rfl
  | part :: rest => by
      rw [tokensOf, tags_append, tags_of_part part, tags_of_parts rest, elementsOf, parts_all_append,
        Part.tokens_of_append, tags_append]
end

/-! ## What a scan goes on with -/

-- The scan meets no error, and its first tags are as expected.
structure Follows (expected : List Token) (scan : Scan) : Prop where
  clean : scan.failure = none
  tags : expected <+: tagsOf scan.tokens

theorem follows_cons {tag expected token : Token} {more : List Token} {scan : Scan} (tagged : token.tag? = some tag)
    (follows : Follows (expected :: more) (Scan.cons token scan)) : tag = expected ∧ Follows more scan := by
  obtain ⟨clean, tags⟩ := follows
  rw [Scan.cons, tagsOf, List.filterMap_cons_some tagged, List.cons_prefix_cons] at tags
  exact ⟨tags.1.symm, clean, tags.2⟩

theorem follows_prepend {tokens : List Token} {more : List Token} {scan : Scan}
    (follows : Follows (tagsOf tokens ++ more) (Scan.prepend tokens scan)) : Follows more scan := by
  obtain ⟨clean, tags⟩ := follows
  rw [Scan.prepend, tags_append, List.prefix_append_right_inj] at tags
  exact ⟨clean, tags⟩

theorem follows_start {name tail : List Char} {more : List Token} (named : IsName name)
    (closed : quoteBehind none name = none)
    (follows : Follows (.start name :: more) (Scan.ofChars ('<' :: name ++ '>' :: tail))) :
    name.getLast? ≠ some '/' ∧ Follows more (Scan.ofChars tail) := by
  by_cases ends : name.getLast? = some '/'
  · have ended : tagContent none (name ++ '>' :: tail) = .ok (name, tail) := by
      rw [tag_content_named named closed, tag_content_closed]
      simp [Except.map]
    have tag : tagOf name = .empty name.dropLast := by
      rw [tag_of_content fun first begun => (named.begins first begun).2.2, if_pos ends]
    rw [List.cons_append, scan_tag (named.unmarked (by decide) tail) ended, tag] at follows
    cases (follows_cons rfl follows).1
  · rw [scan_start_tag named closed ends] at follows
    exact ⟨ends, (follows_cons rfl follows).2⟩

theorem follows_stop {name tail : List Char} {more : List Token} (named : IsName name)
    (closed : quoteBehind none name = none)
    (follows : Follows (.stop name :: more) (Scan.ofChars ('<' :: '/' :: name ++ '>' :: tail))) :
    Follows more (Scan.ofChars tail) := by
  rw [scan_end_tag named closed] at follows
  exact (follows_cons rfl follows).2

theorem tag_name_cons {name : List Char} (spaceless : ∀ c ∈ name, isSpace c = false) (rest : List Char) :
    tagName (name ++ '/' :: rest) = name ++ '/' :: tagName rest := by
  have slash : isSpace '/' = false := by decide
  rw [tagName, List.takeWhile_append_of_pos (by simpa using spaceless), List.takeWhile_cons_of_pos (by simp [slash])]
  rfl

-- A quote that the name leaves open swallows the end of the tag, and with it the slash joins the name.
theorem closed_of_follows {name tail : List Char} {more : List Token} (named : IsName name)
    (follows : Follows (.empty name :: more) (Scan.ofChars ('<' :: name ++ '/' :: '>' :: tail))) :
    quoteBehind none name = none := by
  by_contra opened
  have kept : quoteAfter (quoteBehind none name) '/' = quoteBehind none name := by
    rcases quoted_behind (.inl rfl) name with shut | double | single
    · exact absurd shut opened
    · rw [double]
      rfl
    · rw [single]
      rfl
  have within : Within none (name ++ ['/', '>']) := by
    refine within_append.mpr ⟨named.within, by simp, fun ended => ?_, trivial⟩
    rw [kept] at ended
    exact opened ended.2
  have unmarked := named.unmarked (show '/' ≠ '!' ∧ '/' ≠ '?' by decide) ('>' :: tail)
  have swallowed := tag_content_within within tail
  rw [List.append_assoc] at swallowed
  cases ended : tagContent (quoteBehind none (name ++ ['/', '>'])) tail with
  | error error =>
      rw [ended] at swallowed
      rw [List.cons_append, scan_endless_tag unmarked swallowed] at follows
      cases follows.clean
  | ok found =>
      obtain ⟨content, after⟩ := found
      rw [ended] at swallowed
      have whole : name ≠ [] := by
        rintro rfl
        exact opened rfl
      rw [List.cons_append, scan_tag unmarked swallowed, List.append_assoc,
        tag_of_content (named.notStop whole _)] at follows
      by_cases ends : (name ++ (['/', '>'] ++ content)).getLast? = some '/'
      · rw [if_pos ends] at follows
        have longer : (name ++ (['/', '>'] ++ content)).dropLast = name ++ '/' :: ('>' :: content).dropLast := by
          simp
        have same := (follows_cons rfl follows).1
        rw [longer, tag_name_cons named.spaceless, Token.empty.injEq] at same
        simp at same
      · rw [if_neg ends] at follows
        cases (follows_cons rfl follows).1

theorem follows_empty {name tail : List Char} {more : List Token} (named : IsName name)
    (follows : Follows (.empty name :: more) (Scan.ofChars ('<' :: name ++ '/' :: '>' :: tail))) :
    name ≠ [] ∧ quoteBehind none name = none ∧ Follows more (Scan.ofChars tail) := by
  have whole : name ≠ [] := by
    rintro rfl
    -- A slash with no name in front of it makes an end tag.
    have stop := scan_end_tag named rfl tail
    simp only [List.cons_append, List.nil_append] at stop follows
    rw [stop] at follows
    cases (follows_cons rfl follows).1
  have closed := closed_of_follows named follows
  rw [scan_empty_tag named closed whole] at follows
  exact ⟨whole, closed, (follows_cons rfl follows).2⟩

-- The scan goes on behind the start tag with what stands between it and the end tag.
theorem follows_between {name between tail : List Char} {parts : List Part} {more : List Token}
    (named : IsName name) (closed : quoteBehind none name = none)
    (follows : Follows (tagsOf (Part.element name parts).tokens ++ more)
      (Scan.ofChars ('<' :: name ++ ['>'] ++ between ++ '<' :: '/' :: name ++ ['>'] ++ tail))) :
    name.getLast? ≠ some '/' ∧
      Follows (tagsOf (tokensOf parts) ++ .stop name :: more)
        (Scan.ofChars (between ++ '<' :: ('/' :: name ++ '>' :: tail))) := by
  have started : Follows (.start name :: (tagsOf (tokensOf parts) ++ .stop name :: more))
      (Scan.ofChars ('<' :: name ++ '>' :: (between ++ '<' :: ('/' :: name ++ '>' :: tail)))) := by
    rw [tags_element, tag_name_spaceless named.spaceless] at follows
    simpa using follows
  exact follows_start named closed started

mutual
theorem tagged_of_follows (name tail : List Char) (more : List Token) (named : IsName name) : (element : Element) →
    (element.isEmpty = false → quoteBehind none name = none) →
    (∀ inner ∈ element.descendants, inner.Spelled) →
    Follows (tagsOf (element.part name).tokens ++ more) (Scan.ofChars (element.written name ++ tail)) →
    element.Tagged name ∧ (∀ inner ∈ element.descendants, inner.Tagged inner.name.toList) ∧
      Follows more (Scan.ofChars tail)
  | .text own content, closed, _, follows => by
      rw [Element.part, Element.written] at follows
      obtain ⟨ends, inside⟩ := follows_between named (closed rfl) follows
      rw [scan_escaped] at inside
      exact ⟨⟨named, closed rfl, nofun, fun _ => ends⟩, nofun,
        follows_stop named (closed rfl) (follows_prepend inside)⟩
  | .node own [], _, _, follows => by
      have empty : Follows (.empty name :: more) (Scan.ofChars ('<' :: name ++ '/' :: '>' :: tail)) := by
        simpa [Element.part, Element.written, Part.tokens, tagsOf, Token.tag?,
          tag_name_spaceless named.spaceless] using follows
      obtain ⟨whole, closed, behind⟩ := follows_empty named empty
      exact ⟨⟨named, closed, fun _ => whole, nofun⟩, nofun, behind⟩
  | .node own (first :: rest), closed, spelled, follows => by
      rw [Element.part, Element.written] at follows
      obtain ⟨ends, inside⟩ := follows_between named (closed rfl) follows
      obtain ⟨inner, behind⟩ := tagged_of_follows_all _ _ (first :: rest) spelled inside
      exact ⟨⟨named, closed rfl, nofun, fun _ => ends⟩, inner, follows_stop named (closed rfl) behind⟩
theorem tagged_of_follows_all (tail : List Char) (more : List Token) : (elements : List Element) →
    (∀ inner ∈ descendantsAll elements, inner.Spelled) →
    Follows (tagsOf (tokensOf (partsAll elements)) ++ more) (Scan.ofChars (writtenAll elements ++ tail)) →
    (∀ inner ∈ descendantsAll elements, inner.Tagged inner.name.toList) ∧ Follows more (Scan.ofChars tail)
  | [], _, follows => ⟨nofun, follows⟩
  | element :: rest, spelled, follows => by
      rw [descendantsAll, List.forall_mem_cons, List.forall_mem_append] at spelled ⊢
      obtain ⟨own, within, others⟩ := spelled
      rw [partsAll, tokensOf, tags_append, List.append_assoc, writtenAll, List.append_assoc] at follows
      obtain ⟨tagged, inner, behind⟩ :=
        tagged_of_follows element.name.toList _ _ own.named element own.closed within follows
      obtain ⟨outer, last⟩ := tagged_of_follows_all tail more rest others behind
      exact ⟨⟨tagged, inner, outer⟩, last⟩
end

/-! ## Reading again -/

-- The tags written of the element's name are read as its tags: of an element with two tags no slash may end
-- the name, which would close the first one; of one with a single tag the name may not be missing, which would
-- make it an end tag, nor leave a quote open, which would swallow the end of the tag.
def Element.Sturdy (element : Element) : Prop :=
  if element.isEmpty then element.name ≠ "" ∧ quoteBehind none element.name.toList = none
  else element.name.toList.getLast? ≠ some '/'

theorem tagged_iff_sturdy {element : Element} (spelled : element.Spelled) :
    element.Tagged element.name.toList ↔ element.Sturdy := by
  rw [Element.Sturdy]
  by_cases empty : element.isEmpty = true
  · rw [if_pos empty]
    constructor
    · intro tagged
      exact ⟨fun same => tagged.whole empty (by rw [same]; rfl), tagged.closed⟩
    · rintro ⟨whole, closed⟩
      refine ⟨spelled.named, closed, fun _ same => whole (String.toList_eq_nil_iff.mp same), fun full => ?_⟩
      rw [empty] at full
      cases full
  · rw [if_neg empty]
    have full : element.isEmpty = false := by simpa using empty
    constructor
    · intro tagged
      exact tagged.ends full
    · intro ends
      exact ⟨spelled.named, spelled.closed full, fun alone => absurd alone empty, fun _ => ends⟩

namespace Document

variable {root : String}

theorem follows_of_read {element : Element} (named : element.name = root)
    (found : read root (text root (some element)) = .ok (some element)) :
    Follows (tagsOf (element.part root.toList).tokens ++ []) (Scan.ofChars (element.written root.toList ++ [])) := by
  obtain ⟨clean, _, parts, spelled, document, object⟩ := read_eq_ok_iff.mp found
  obtain ⟨elements, _⟩ := elements_of_document document object.symm
  have tags := tags_of_parts parts
  rw [spelled, elements, partsAll, partsAll, tokensOf, tokensOf, List.append_nil, named] at tags
  rw [unmatched_written] at clean tags
  rw [List.append_nil, List.append_nil, ← tags]
  exact ⟨clean, List.prefix_refl _⟩

/--
What was read is written so that the same is read again if and only if every name inside makes its own tags
again.
-/
theorem read_again (root xml : String) (object : Option Element) (valid : Identifier.isValid root = true)
    (found : read root xml = .ok object) :
    read root (text root object) = .ok object ↔
      ∀ element, object = some element → ∀ inner ∈ element.descendants, inner.Sturdy := by
  have named := tag_name_of_valid root valid
  cases object with
  | none => exact ⟨fun _ => nofun, fun _ => read_text_nil root named⟩
  | some element =>
      obtain ⟨_, _, parts, spelled, document, object⟩ := read_eq_ok_iff.mp found
      obtain ⟨elements, rooted⟩ := elements_of_document document object.symm
      have lexed := lexed_of_chars (Scan.withoutMark xml.toList)
      have inner := spelled_of_lexed parts (by rw [spelled]; exact lexed)
      rw [elements, descendantsAll, descendantsAll, List.append_nil, List.forall_mem_cons] at inner
      constructor
      · intro again other same
        cases same
        obtain ⟨_, tagged, _⟩ := tagged_of_follows root.toList [] [] named.toIsName element
          (fun _ => named.closed) inner.2 (follows_of_read rooted again)
        intro found member
        exact (tagged_iff_sturdy (inner.2 found member)).mp (tagged found member)
      · intro sturdy
        have tagged : ∀ found ∈ element.descendants, found.Tagged found.name.toList := by
          intro found member
          exact (tagged_iff_sturdy (inner.2 found member)).mpr (sturdy element rfl found member)
        rw [read_tagged (tagged_of_tag_name named element) tagged, renamed_same rooted]

-- The object on the page: the blanks beside its elements and the comment are gone.
def noted : Element := .node "Book" [.text "N" "a<<", .node "M" []]

theorem read_again_page :
    Identifier.isValid "Book" = true ∧ read "Book" page = .ok (some noted) ∧
      (read "Book" (text "Book" (some noted)) = .ok (some noted) ↔
        ∀ element, some noted = some element → ∀ inner ∈ element.descendants, inner.Sturdy) := by
  have found : read "Book" page = .ok (some noted) := by decide +kernel
  exact ⟨by decide, found, read_again "Book" page (some noted) (by decide) found⟩

/-- A blank in front of a name leaves an element without a name, and the tag written of it is an end tag. -/
theorem nameless_not_read_again :
    ¬∀ (root xml : String) (object : Option Element), Identifier.isValid root = true →
      read root xml = .ok object → read root (text root object) = .ok object := by
  intro again
  have found : read "Book" "<Book>< a/></Book>" = .ok (some (.node "Book" [.node "" []])) := by decide +kernel
  have lost : read "Book" (text "Book" (some (.node "Book" [.node "" []]))) =
      .error (.xml (.structure (.mismatched "Book" ""))) := by decide +kernel
  rw [again "Book" _ _ (by decide) found] at lost
  cases lost

end Document
end Companion.Xml
