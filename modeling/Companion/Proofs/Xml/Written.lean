import Companion.Proofs.Xml.Parts

/-!
Written elements as they are scanned: the parts that an element is written as, and that scanning the text
of an element gives exactly the tokens of these. Main statement: `scan_written`.
-/
set_option autoImplicit false

namespace Companion.Xml

open Companion.Xml.Part (tokensOf)

-- The parts of text as it is written: runs of characters, and a reference for each one that has a name.
def textParts : List Char → List Part
  | [] => []
  | c :: rest =>
      match predefined.find? fun entry => entry.2 = c with
      | some (name, _) => .reference name :: textParts rest
      | none =>
          match textParts rest with
          | .text run :: more => .text (c :: run) :: more
          | others => .text [c] :: others

mutual
def Element.part (name : List Char) : Element → Part
  | .text _ content => .element name (textParts content.toList)
  | .node _ [] => .empty name
  | .node _ (first :: rest) => .element name (partsAll (first :: rest))
def partsAll : List Element → List Part
  | [] => []
  | element :: rest => element.part element.name.toList :: partsAll rest
end

mutual
def Element.InnerNames (holds : String → Prop) : Element → Prop
  | .text _ _ => True
  | .node _ children => AllNames holds children
def AllNames (holds : String → Prop) : List Element → Prop
  | [] => True
  | element :: rest => holds element.name ∧ element.InnerNames holds ∧ AllNames holds rest
end

-- The elements inside an element, at every depth.
mutual
def Element.descendants : Element → List Element
  | .text _ _ => []
  | .node _ children => descendantsAll children
def descendantsAll : List Element → List Element
  | [] => []
  | element :: rest => element :: (element.descendants ++ descendantsAll rest)
end

mutual
theorem inner_names_iff {holds : String → Prop} : (element : Element) →
    (element.InnerNames holds ↔ ∀ inner ∈ element.descendants, holds inner.name)
  | .text name content => by simp [Element.InnerNames, Element.descendants]
  | .node name children => by rw [Element.InnerNames, Element.descendants, all_names_iff children]
theorem all_names_iff {holds : String → Prop} : (elements : List Element) →
    (AllNames holds elements ↔ ∀ inner ∈ descendantsAll elements, holds inner.name)
  | [] => by simp [AllNames, descendantsAll]
  | element :: rest => by
      rw [AllNames, descendantsAll, inner_names_iff element, all_names_iff rest, List.forall_mem_cons,
        List.forall_mem_append]
end

theorem parts_all_append (front back : List Element) : partsAll (front ++ back) = partsAll front ++ partsAll back := by
  induction front with
  | nil => rfl
  | cons element rest ih => rw [List.cons_append, partsAll, partsAll, ih, List.cons_append]

theorem inner_names_mono {holds weaker : String → Prop} (weaken : ∀ name, holds name → weaker name)
    (element : Element) (inner : element.InnerNames holds) : element.InnerNames weaker := by
  rw [inner_names_iff] at inner ⊢
  exact fun found member => weaken found.name (inner found member)

theorem renamed_same {element : Element} {name : String} (same : element.name = name) :
    element.renamed name = element := by
  subst same
  cases element <;> rfl

/-! ## Text -/

theorem ends_text_of_unnamed {c : Char} (unnamed : predefined.find? (fun entry => entry.2 = c) = none) :
    endsText c = false := by
  simp only [predefined, List.find?_eq_none] at unnamed
  have notOpening := unnamed (['l', 't'], '<') (by simp)
  have notReference := unnamed (['a', 'm', 'p'], '&') (by simp)
  simp only [decide_eq_true_eq] at notOpening notReference
  simp [endsText, Ne.symm notOpening, Ne.symm notReference]

theorem scan_reference {c : Char} {name : List Char} {found : Char}
    (named : predefined.find? (fun entry => entry.2 = c) = some (name, found)) (tail : List Char) :
    Scan.ofChars (escapeChar c ++ tail) = Scan.cons (.reference name) (Scan.ofChars tail) := by
  have member := List.mem_of_find?_eq_some named
  have read : readReference (name ++ ';' :: tail) = .ok (some (.reference name), tail) := by
    simp only [predefined, List.mem_cons, List.not_mem_nil, or_false, Prod.mk.injEq] at member
    rcases member with ⟨rfl, -⟩ | ⟨rfl, -⟩ | ⟨rfl, -⟩ | ⟨rfl, -⟩ | ⟨rfl, -⟩ <;> rfl
  have written : escapeChar c ++ tail = '&' :: (name ++ ';' :: tail) := by
    simp [escapeChar, named]
  rw [written]
  refine Scan.of_chars_token ?_
  rw [readToken, if_neg (by decide), if_pos rfl, read]

theorem scan_text {c : Char} (plain : endsText c = false) (rest : List Char) :
    Scan.ofChars (c :: rest) = Scan.cons (.text (c :: rest.takeWhile fun c => !endsText c))
      (Scan.ofChars (rest.dropWhile fun c => !endsText c)) := by
  simp only [endsText, decide_eq_false_iff_not, not_or] at plain
  refine Scan.of_chars_token ?_
  rw [readToken, if_neg plain.1, if_neg plain.2]

theorem text_parts_run {c : Char} (unnamed : predefined.find? (fun entry => entry.2 = c) = none)
    (rest : List Char) : ∃ run more, textParts (c :: rest) = .text run :: more := by
  rw [textParts, unnamed]
  dsimp only
  split <;> exact ⟨_, _, rfl⟩

-- A run of characters ends where the first one with a name is written, or at the tag behind the
-- text; so what the scanner takes for the run behind `c` is what it would take without `c`.
theorem scan_escaped (content tail : List Char) :
    Scan.ofChars (escape content ++ '<' :: tail) =
      Scan.prepend (tokensOf (textParts content)) (Scan.ofChars ('<' :: tail)) := by
  induction content with
  | nil => rfl
  | cons c rest ih =>
      have written : escape (c :: rest) ++ '<' :: tail = escapeChar c ++ (escape rest ++ '<' :: tail) := by
        simp [escape]
      rw [written]
      cases named : predefined.find? fun entry => entry.2 = c with
      | some entry => rw [scan_reference named, ih, textParts, named, Part.tokens_of_reference, Scan.prepend_cons]
      | none =>
          have plain := ends_text_of_unnamed named
          have kept : escapeChar c = [c] := by simp [escapeChar, named]
          rw [kept, List.singleton_append, scan_text plain, textParts, named]
          cases rest with
          | nil => simp [escape, textParts, endsText, tokensOf]
          | cons next others =>
              cases follows : predefined.find? fun entry => entry.2 = next with
              | some entry =>
                  have stops : escape (next :: others) ++ '<' :: tail =
                      '&' :: (entry.1 ++ ';' :: (escape others ++ '<' :: tail)) := by
                    simp [escape, escapeChar, follows]
                  rw [stops] at ih ⊢
                  rw [textParts, follows] at ih ⊢
                  simp [endsText, ih]
              | none =>
                  have goesOn : escape (next :: others) ++ '<' :: tail =
                      next :: (escape others ++ '<' :: tail) := by
                    simp [escape, escapeChar, follows]
                  have inside := ends_text_of_unnamed follows
                  obtain ⟨run, more, tokens⟩ := text_parts_run follows others
                  rw [goesOn, scan_text inside, tokens, Part.tokens_of_text, Scan.prepend_cons] at ih
                  obtain ⟨sameRun, sameRest⟩ := Scan.cons_injective ih
                  cases sameRun
                  rw [goesOn, tokens, List.takeWhile_cons_of_pos (by simp [inside]),
                    List.dropWhile_cons_of_pos (by simp [inside]), sameRest]
                  rfl

/-! ## Elements -/

-- Whether the element is written as one tag.
def Element.isEmpty : Element → Bool
  | .node _ [] => true
  | _ => false

-- A name from which the tags of an element are read as they are written.
structure Element.Tagged (name : List Char) (element : Element) : Prop where
  named : IsName name
  closed : quoteBehind none name = none
  whole : element.isEmpty = true → name ≠ []
  ends : element.isEmpty = false → name.getLast? ≠ some '/'

theorem tagged_of_tag_name {name : List Char} (named : IsTagName name) (element : Element) :
    element.Tagged name :=
  ⟨named.toIsName, named.closed, fun _ => named.whole, fun _ => named.ends⟩

-- What stands between the tags of an element is scanned apart from them.
theorem scan_between {name between : List Char} {parts : List Part} {element : Element}
    (tagged : element.Tagged name) (full : element.isEmpty = false)
    (inner : ∀ tail, Scan.ofChars (between ++ '<' :: tail) =
      Scan.prepend (tokensOf parts) (Scan.ofChars ('<' :: tail))) (tail : List Char) :
    Scan.ofChars ('<' :: name ++ ['>'] ++ between ++ '<' :: '/' :: name ++ ['>'] ++ tail) =
      Scan.prepend (Part.element name parts).tokens (Scan.ofChars tail) := by
  have opening := scan_start_tag tagged.named tagged.closed (tagged.ends full)
    (between ++ '<' :: ('/' :: name ++ '>' :: tail))
  have closing := scan_end_tag tagged.named tagged.closed tail
  simp only [List.cons_append, List.append_assoc, List.nil_append] at opening closing ⊢
  rw [opening, inner, closing, Part.tokens, tag_name_spaceless tagged.named.spaceless]
  simp

mutual
theorem scan_written (name tail : List Char) : (element : Element) → element.Tagged name →
    (∀ inner ∈ element.descendants, inner.Tagged inner.name.toList) →
    Scan.ofChars (element.written name ++ tail) =
      Scan.prepend (element.part name).tokens (Scan.ofChars tail)
  | .text own content, tagged, _ => by
      rw [Element.written, Element.part]
      exact scan_between tagged rfl (scan_escaped content.toList) tail
  | .node own [], tagged, _ => by
      have written : Element.written name (.node own []) ++ tail = '<' :: name ++ '/' :: '>' :: tail := by
        simp [Element.written]
      rw [written, scan_empty_tag tagged.named tagged.closed (tagged.whole rfl), Element.part, Part.tokens]
      rfl
  | .node own (first :: rest), tagged, inner => by
      rw [Element.written, Element.part]
      exact scan_between tagged rfl (fun behind => scan_written_all _ (first :: rest) inner) tail
theorem scan_written_all (tail : List Char) : (elements : List Element) →
    (∀ inner ∈ descendantsAll elements, inner.Tagged inner.name.toList) →
    Scan.ofChars (writtenAll elements ++ tail) =
      Scan.prepend (tokensOf (partsAll elements)) (Scan.ofChars tail)
  | [], _ => rfl
  | element :: rest, inner => by
      rw [descendantsAll, List.forall_mem_cons, List.forall_mem_append] at inner
      obtain ⟨tagged, within, others⟩ := inner
      rw [writtenAll, List.append_assoc, scan_written element.name.toList _ element tagged within,
        scan_written_all tail rest others, partsAll, tokensOf, Scan.prepend_append]
end

/-! ## Documents -/

theorem scan_declaration (tail : List Char) :
    Scan.ofChars (Document.declaration.toList ++ tail) = Scan.ofChars tail := by
  have read : readToken '<' ("?xml version=\"1.0\" encoding=\"utf-8\"?>".toList ++ tail) = .ok (none, tail) := rfl
  exact Scan.of_chars_skipped read

theorem without_mark_declaration (tail : List Char) :
    Scan.withoutMark (Document.declaration.toList ++ tail) = Document.declaration.toList ++ tail :=
  rfl

end Companion.Xml
