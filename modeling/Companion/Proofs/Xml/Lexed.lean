import Companion.Proofs.Xml.Written

/-!
Names as the scanner finds them: what is known of the name in a tag, whatever text the tag was scanned
from. Main statement: `lexed_of_chars`; from it `spelled_of_lexed`, on the elements that are read.
-/
set_option autoImplicit false

namespace Companion.Xml

open Companion.Xml.Part (tokensOf elementsOf)

-- An end tag ends outside of quotes; so does the tag that begins an element, but the name in it need not.
def Token.Lexed : Token → Prop
  | .start content | .empty content => IsName (tagName content)
  | .stop name => quoteBehind none name = none
  | _ => True

/-! ## One tag -/

theorem name_of_content {content front : List Char} (leads : front <+: content)
    (begins : ∀ first ∈ content.head?, first ≠ '!' ∧ first ≠ '?' ∧ first ≠ '/')
    (within : Within none content) : IsName (tagName front) := by
  have named : tagName front <+: content := (List.takeWhile_prefix _).trans leads
  obtain ⟨behind, same⟩ := named
  rw [← same] at begins within
  refine ⟨fun first begun => begins first ?_, fun c member => ?_, (within_append.mp within).1⟩
  · rw [List.head?_append, show (tagName front).head? = some first from begun]
    rfl
  · simpa using List.mem_takeWhile_imp member

-- No quote is open, or one of the two kinds there are.
def Quoted (quote : Option Char) : Prop := quote = none ∨ quote = some '"' ∨ quote = some '\''

theorem quoted_behind {quote : Option Char} (quoted : Quoted quote) (chars : List Char) :
    Quoted (quoteBehind quote chars) := by
  induction chars generalizing quote with
  | nil => exact quoted
  | cons c rest ih =>
      apply ih
      rcases quoted with rfl | rfl | rfl
      · by_cases double : c = '"'
        · exact .inr (.inl (by simp [quoteAfter, double]))
        · by_cases single : c = '\''
          · exact .inr (.inr (by simp [quoteAfter, single]))
          · exact .inl (by simp [quoteAfter, double, single])
      · by_cases ended : c = '"'
        · exact .inl (by simp [quoteAfter, ended])
        · exact .inr (.inl (by simp [quoteAfter, ended]))
      · by_cases ended : c = '\''
        · exact .inl (by simp [quoteAfter, ended])
        · exact .inr (.inr (by simp [quoteAfter, ended]))

theorem quote_behind_spaces {quote : Option Char} (quoted : Quoted quote) {chars : List Char}
    (spaces : ∀ c ∈ chars, isSpace c = true) : quoteBehind quote chars = quote := by
  induction chars with
  | nil => rfl
  | cons c rest ih =>
      obtain ⟨space, others⟩ := List.forall_mem_cons.mp spaces
      have double : c ≠ '"' := by
        rintro rfl
        cases space
      have single : c ≠ '\'' := by
        rintro rfl
        cases space
      have kept : quoteAfter quote c = quote := by
        rcases quoted with rfl | rfl | rfl <;> simp [quoteAfter, double, single]
      rw [quoteBehind, List.foldl_cons, kept]
      exact ih others

theorem lexed_tag {content : List Char} (unmarked : ∀ first ∈ content.head?, first ≠ '!' ∧ first ≠ '?')
    (within : Within none content) (closed : quoteBehind none content = none) : (tagOf content).Lexed := by
  by_cases stop : content.head? = some '/'
  · obtain ⟨name, rfl⟩ := List.head?_eq_some_iff.mp stop
    have named : quoteBehind none name = none := closed
    -- The blanks behind the name are cut off; they open and close no quote.
    have cut : (name.reverse.dropWhile isSpace).reverse ++ (name.reverse.takeWhile isSpace).reverse = name := by
      rw [← List.reverse_append, List.takeWhile_append_dropWhile, List.reverse_reverse]
    have trimmed : quoteBehind none (name.reverse.dropWhile isSpace).reverse = none := by
      rw [← cut, quote_behind_append, quote_behind_spaces (quoted_behind (.inl rfl) _)] at named
      · exact named
      · intro c member
        exact List.mem_takeWhile_imp (List.mem_reverse.mp member)
    rw [tagOf]
    by_cases blank : (name.reverse.dropWhile isSpace).reverse = []
    · rw [if_pos blank]
      exact named
    · rw [if_neg blank]
      exact trimmed
  · have begins : ∀ first ∈ content.head?, first ≠ '!' ∧ first ≠ '?' ∧ first ≠ '/' := by
      intro first begun
      refine ⟨(unmarked first begun).1, (unmarked first begun).2, ?_⟩
      rintro rfl
      exact stop begun
    rw [tag_of_content fun first begun => (begins first begun).2.2]
    by_cases ends : content.getLast? = some '/'
    · rw [if_pos ends]
      exact name_of_content (List.dropLast_prefix content) begins within
    · rw [if_neg ends]
      exact name_of_content (List.prefix_refl content) begins within

/-! ## Scans -/

theorem lexed_of_up_to {mark : String} {error : MarkupError} {make : List Char → Option Token}
    (lexed : ∀ content token, make content = some token → token.Lexed) {chars after : List Char} {token : Token}
    (read : upTo mark error make chars = .ok (some token, after)) : token.Lexed := by
  unfold upTo at read
  split at read
  · exact lexed _ token (Prod.mk.inj (Except.ok.inj read)).1
  · cases read

theorem lexed_of_doctype {chars after : List Char} {token : Token}
    (read : readDoctype chars = .ok (some token, after)) : token.Lexed := by
  unfold readDoctype at read
  split at read
  · cases read
  · split at read
    · cases read
    · cases read
      trivial

theorem lexed_of_declaration {chars after : List Char} {token : Token}
    (read : readDeclaration chars = .ok (some token, after)) : token.Lexed := by
  unfold readDeclaration at read
  split at read
  · refine lexed_of_up_to ?_ read
    exact nofun
  · cases read
  · refine lexed_of_up_to ?_ read
    intro content token same
    cases same
    trivial
  · cases read
  · exact lexed_of_doctype read
  · exact lexed_of_doctype read
  · cases read

theorem lexed_of_markup {chars after : List Char} {token : Token}
    (read : readMarkup chars = .ok (some token, after)) : token.Lexed := by
  unfold readMarkup at read
  split at read
  · exact lexed_of_declaration read
  · unfold readInstruction at read
    split at read
    · cases read
    · refine lexed_of_up_to ?_ read
      exact nofun
  · rename_i declared instructed
    split at read
    · rename_i content behind tag
      cases read
      obtain ⟨spelled, within, closed⟩ := within_of_tag_content tag
      refine lexed_tag (fun first begun => ?_) within closed
      obtain ⟨others, rfl⟩ := List.head?_eq_some_iff.mp begun
      constructor
      · rintro rfl
        exact declared _ spelled
      · rintro rfl
        exact instructed _ spelled
    · cases read

theorem lexed_of_read {c : Char} {rest after : List Char} {token : Token}
    (read : readToken c rest = .ok (some token, after)) : token.Lexed := by
  unfold readToken at read
  by_cases markup : c = '<'
  · rw [if_pos markup] at read
    exact lexed_of_markup read
  · rw [if_neg markup] at read
    by_cases reference : c = '&'
    · rw [if_pos reference] at read
      unfold readReference at read
      dsimp only at read
      split at read
      · cases read
        trivial
      · cases read
    · rw [if_neg reference] at read
      cases read
      trivial

theorem lexed_of_chars (chars : List Char) : ∀ token ∈ (Scan.ofChars chars).tokens, token.Lexed := by
  fun_induction Scan.ofChars chars with
  | case1 => exact nofun
  | case2 c rest error read => exact nofun
  | case3 c rest after read ih => exact ih
  | case4 c rest token after read ih => exact List.forall_mem_cons.mpr ⟨lexed_of_read read, ih⟩

/-! ## Elements -/

-- A name as a text can give it to an element that is read from it: that of an element with two tags ends
-- outside of quotes, since the end tag repeats it.
structure Element.Spelled (element : Element) : Prop where
  named : IsName element.name.toList
  closed : element.isEmpty = false → quoteBehind none element.name.toList = none

theorem descendants_filled (name : String) (text : List Char) (elements : List Element) :
    (Part.filled name text elements).descendants = descendantsAll elements := by
  cases elements <;> rfl

theorem descendants_all_append (front back : List Element) :
    descendantsAll (front ++ back) = descendantsAll front ++ descendantsAll back := by
  induction front with
  | nil => rfl
  | cons element rest ih => simp [descendantsAll, ih]

mutual
theorem spelled_of_part : (part : Part) → (∀ token ∈ part.tokens, token.Lexed) →
    ∀ element ∈ descendantsAll part.element?.toList, element.Spelled
  | .empty content, lexed => by
      have named : IsName (tagName content) := lexed (.empty content) (by simp [Part.tokens])
      intro element member
      have same : element = .node (String.ofList (tagName content)) [] := by
        simpa [Part.element?, descendantsAll, Element.descendants] using member
      subst same
      exact ⟨by simpa [Element.name] using named, nofun⟩
  | .element content inside, lexed => by
      have named : IsName (tagName content) := lexed (.start content) (by simp [Part.tokens])
      have closed : quoteBehind none (tagName content) = none :=
        lexed (.stop (tagName content)) (by simp [Part.tokens])
      have inner := spelled_of_lexed inside fun token member => lexed token (by simp [Part.tokens, member])
      rw [Part.element?, Option.toList_some, descendantsAll, descendantsAll, List.append_nil, descendants_filled,
        List.forall_mem_cons]
      refine ⟨⟨?_, fun _ => ?_⟩, inner⟩
      · rw [Part.name_of_filled, String.toList_ofList]
        exact named
      · rw [Part.name_of_filled, String.toList_ofList]
        exact closed
  | .text _, _ | .cdata _, _ | .reference _, _ | .doctype, _ => by simp [Part.element?, descendantsAll]
theorem spelled_of_lexed : (parts : List Part) → (∀ token ∈ tokensOf parts, token.Lexed) →
    ∀ element ∈ descendantsAll (elementsOf parts), element.Spelled
  | [], _ => nofun
  | part :: rest, lexed => by
      rw [tokensOf, List.forall_mem_append] at lexed
      rw [elementsOf, descendants_all_append, List.forall_mem_append]
      exact ⟨spelled_of_part part lexed.1, spelled_of_lexed rest lexed.2⟩
end

end Companion.Xml
