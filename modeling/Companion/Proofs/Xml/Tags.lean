import Mathlib.Data.List.TakeWhile
import Companion.Identifier
import Companion.Xml.Scan

/-!
Tags as they are scanned: how the quotes in a tag decide where it ends, and what a name must be like so
that a tag made from it is read as that tag. Main statements: `tag_content_within` and its converse
`within_of_tag_content`, `scan_start_tag`, `scan_empty_tag` and `scan_end_tag`.
-/
set_option autoImplicit false

namespace Companion.Xml

namespace Scan

def prepend (tokens : List Token) (scan : Scan) : Scan := { scan with tokens := tokens ++ scan.tokens }

@[simp] theorem prepend_nil (scan : Scan) : prepend [] scan = scan := rfl

@[simp] theorem prepend_cons (token : Token) (tokens : List Token) (scan : Scan) :
    prepend (token :: tokens) scan = cons token (prepend tokens scan) := rfl

@[simp] theorem prepend_append (front back : List Token) (scan : Scan) :
    prepend (front ++ back) scan = prepend front (prepend back scan) := by
  simp [prepend]

theorem cons_injective {token other : Token} {scan more : Scan}
    (same : cons token scan = cons other more) : token = other ∧ scan = more := by
  cases scan
  cases more
  simp only [cons, Scan.mk.injEq, List.cons.injEq] at same
  exact ⟨same.1.1, by rw [same.1.2, same.2]⟩

theorem of_chars_token {c : Char} {rest after : List Char} {token : Token}
    (read : readToken c rest = .ok (some token, after)) :
    ofChars (c :: rest) = cons token (ofChars after) := by
  rw [ofChars]
  split <;> simp_all

theorem of_chars_skipped {c : Char} {rest after : List Char}
    (read : readToken c rest = .ok (none, after)) : ofChars (c :: rest) = ofChars after := by
  rw [ofChars]
  split <;> simp_all

theorem of_chars_failed {c : Char} {rest : List Char} {error : Error} (read : readToken c rest = .error error) :
    ofChars (c :: rest) = failed error := by
  rw [ofChars]
  split <;> simp_all

end Scan

/-! ## Quotes -/

-- The quote that is open behind some characters.
def quoteBehind (quote : Option Char) (chars : List Char) : Option Char := chars.foldl quoteAfter quote

-- None of the characters ends a tag: where no quote is open there is no `>`.
def Within (quote : Option Char) : List Char → Prop
  | [] => True
  | c :: rest => ¬(c = '>' ∧ quote = none) ∧ Within (quoteAfter quote c) rest

theorem quote_behind_append (quote : Option Char) (front back : List Char) :
    quoteBehind quote (front ++ back) = quoteBehind (quoteBehind quote front) back :=
  List.foldl_append

theorem within_append {quote : Option Char} {front back : List Char} :
    Within quote (front ++ back) ↔ Within quote front ∧ Within (quoteBehind quote front) back := by
  induction front generalizing quote with
  | nil => simp [Within, quoteBehind]
  | cons c rest ih =>
      rw [List.cons_append, Within, Within, ih, and_assoc]
      rfl

theorem tag_content_within {quote : Option Char} {chars : List Char} (within : Within quote chars)
    (rest : List Char) :
    tagContent quote (chars ++ rest) =
      (tagContent (quoteBehind quote chars) rest).map fun found => (chars ++ found.1, found.2) := by
  induction chars generalizing quote with
  | nil =>
      rw [List.nil_append, quoteBehind, List.foldl_nil]
      cases tagContent quote rest <;> rfl
  | cons c chars ih =>
      obtain ⟨inside, others⟩ := within
      have behind : quoteBehind quote (c :: chars) = quoteBehind (quoteAfter quote c) chars := rfl
      rw [List.cons_append, tagContent, if_neg inside, ih others, behind]
      cases tagContent (quoteBehind (quoteAfter quote c) chars) rest <;> rfl

theorem within_of_tag_content {quote : Option Char} {chars content after : List Char}
    (read : tagContent quote chars = .ok (content, after)) :
    chars = content ++ '>' :: after ∧ Within quote content ∧ quoteBehind quote content = none := by
  induction chars generalizing quote content with
  | nil => cases read
  | cons c rest ih =>
      rw [tagContent] at read
      by_cases ended : c = '>' ∧ quote = none
      · rw [if_pos ended] at read
        obtain ⟨rfl, rfl⟩ := ended
        cases read
        exact ⟨rfl, trivial, rfl⟩
      · rw [if_neg ended] at read
        cases inner : tagContent (quoteAfter quote c) rest with
        | error error =>
            rw [inner] at read
            cases read
        | ok found =>
            rw [inner] at read
            cases read
            obtain ⟨spelled, within, closed⟩ := ih inner
            exact ⟨by rw [spelled, List.cons_append], ⟨ended, within⟩, closed⟩

theorem tag_content_closed (tail : List Char) : tagContent none ('>' :: tail) = .ok ([], tail) := by
  rw [tagContent, if_pos ⟨rfl, rfl⟩]

/-! ## Names -/

-- A name that can stand at the front of a tag: it does not make the tag another kind of markup, no blank
-- cuts it short, and no `>` in it ends the tag.
structure IsName (name : List Char) : Prop where
  begins : ∀ first ∈ name.head?, first ≠ '!' ∧ first ≠ '?' ∧ first ≠ '/'
  spaceless : ∀ c ∈ name, isSpace c = false
  within : Within none name

-- A name that makes a tag of each kind; identifiers are such names.
structure IsTagName (name : List Char) : Prop extends IsName name where
  whole : name ≠ []
  closed : quoteBehind none name = none
  ends : name.getLast? ≠ some '/'

theorem tag_name_spaceless {name : List Char} (spaceless : ∀ c ∈ name, isSpace c = false) :
    tagName name = name := by
  rw [tagName, List.takeWhile_eq_self_iff]
  simpa using spaceless

theorem bare_name {name : List Char} (bare : ∀ c ∈ name, c ≠ '>' ∧ c ≠ '"' ∧ c ≠ '\'') :
    Within none name ∧ quoteBehind none name = none := by
  induction name with
  | nil => exact ⟨trivial, rfl⟩
  | cons c rest ih =>
      obtain ⟨notClosing, notDouble, notSingle⟩ := bare c List.mem_cons_self
      have unquoted : quoteAfter none c = none := by simp [quoteAfter, notDouble, notSingle]
      obtain ⟨within, closed⟩ := ih fun other member => bare other (List.mem_cons_of_mem c member)
      refine ⟨⟨fun ended => notClosing ended.1, ?_⟩, ?_⟩
      · rw [unquoted]
        exact within
      · rw [quoteBehind, List.foldl_cons, unquoted]
        exact closed

theorem later_ne {c other : Char} (later : Identifier.isLater c = true)
    (odd : Identifier.isLater other = false) : c ≠ other := by
  intro same
  rw [same, odd] at later
  cases later

theorem later_of_valid (name : String) (valid : Identifier.isValid name = true) :
    name.toList ≠ [] ∧ ∀ c ∈ name.toList, Identifier.isLater c = true := by
  unfold Identifier.isValid at valid
  cases spelled : name.toList with
  | nil => simp [spelled, Identifier.isValidChars] at valid
  | cons first rest =>
      refine ⟨by simp, ?_⟩
      rw [spelled] at valid
      unfold Identifier.isValidChars at valid
      split at valid
      · cases valid
      · cases valid
      · rename_i same
        cases same
        simp only [Bool.and_eq_true, List.all_eq_true] at valid
        intro c member
        rcases List.mem_cons.mp member with rfl | behind
        · have begun := valid.1
          simp only [Identifier.isFirst, Bool.or_eq_true, decide_eq_true_eq] at begun
          rcases begun with letter | underscore
          · simp [Identifier.isLater, Text.isAlphanumeric, letter]
          · simp [Identifier.isLater, underscore]
        · exact valid.2 c behind

theorem tag_name_of_valid (name : String) (valid : Identifier.isValid name = true) :
    IsTagName name.toList := by
  obtain ⟨nonempty, later⟩ := later_of_valid name valid
  have bare : ∀ c ∈ name.toList, c ≠ '>' ∧ c ≠ '"' ∧ c ≠ '\'' := by
    intro c member
    have inside := later c member
    exact ⟨later_ne inside (by decide), later_ne inside (by decide), later_ne inside (by decide)⟩
  obtain ⟨within, closed⟩ := bare_name bare
  refine ⟨⟨?_, ?_, within⟩, nonempty, closed, ?_⟩
  · intro first begun
    have inside := later first (List.mem_of_mem_head? begun)
    exact ⟨later_ne inside (by decide), later_ne inside (by decide), later_ne inside (by decide)⟩
  · intro c member
    have inside := later c member
    have space : c ≠ ' ' := later_ne inside (by decide)
    have tab : c ≠ '\t' := later_ne inside (by decide)
    have carriage : c ≠ '\r' := later_ne inside (by decide)
    have line : c ≠ '\n' := later_ne inside (by decide)
    simp [isSpace, space, tab, carriage, line]
  · intro last
    have ended := later '/' (List.mem_of_getLast? last)
    exact absurd ended (by decide)

/-! ## Reading tags -/

theorem read_tag {chars : List Char} (unmarked : ∀ first ∈ chars.head?, first ≠ '!' ∧ first ≠ '?') :
    readToken '<' chars =
      match tagContent none chars with
      | .ok (content, after) => .ok (some (tagOf content), after)
      | .error error => .error (.markup error) := by
  rw [readToken, if_pos rfl]
  unfold readMarkup
  split
  · exact absurd rfl (unmarked '!' rfl).1
  · exact absurd rfl (unmarked '?' rfl).2
  · rfl

theorem tag_of_content {content : List Char} (notStop : ∀ first ∈ content.head?, first ≠ '/') :
    tagOf content = if content.getLast? = some '/' then .empty content.dropLast else .start content := by
  unfold tagOf
  split
  · exact absurd rfl (notStop '/' rfl)
  · rfl

theorem tag_of_empty {content : List Char} (notStop : ∀ first ∈ (content ++ ['/']).head?, first ≠ '/') :
    tagOf (content ++ ['/']) = .empty content := by
  rw [tag_of_content notStop, if_pos List.getLast?_concat, List.dropLast_concat]

theorem tag_of_stop {name : List Char} (spaceless : ∀ c ∈ name, isSpace c = false) :
    tagOf ('/' :: name) = .stop name := by
  have kept : (name.reverse.dropWhile isSpace).reverse = name := by
    cases reversed : name.reverse with
    | nil => simpa using reversed.symm
    | cons last front =>
        have member : last ∈ name := by
          rw [← List.mem_reverse, reversed]
          exact List.mem_cons_self
        rw [List.dropWhile_cons_of_neg (by simp [spaceless last member]), ← reversed,
          List.reverse_reverse]
  rw [tagOf, kept, ite_self]

-- What stands in a tag with a name at its front, up to where the tag ends.
theorem tag_content_named {name : List Char} (named : IsName name) (closed : quoteBehind none name = none)
    (rest : List Char) :
    tagContent none (name ++ rest) = (tagContent none rest).map fun found => (name ++ found.1, found.2) := by
  rw [tag_content_within named.within, closed]

theorem scan_tag {chars content after : List Char} (unmarked : ∀ first ∈ chars.head?, first ≠ '!' ∧ first ≠ '?')
    (ended : tagContent none chars = .ok (content, after)) :
    Scan.ofChars ('<' :: chars) = Scan.cons (tagOf content) (Scan.ofChars after) := by
  apply Scan.of_chars_token
  rw [read_tag unmarked, ended]

theorem scan_endless_tag {chars : List Char} {error : MarkupError}
    (unmarked : ∀ first ∈ chars.head?, first ≠ '!' ∧ first ≠ '?') (endless : tagContent none chars = .error error) :
    Scan.ofChars ('<' :: chars) = Scan.failed (.markup error) := by
  apply Scan.of_chars_failed
  rw [read_tag unmarked, endless]

theorem IsName.unmarked {name : List Char} (named : IsName name) {c : Char} (behind : c ≠ '!' ∧ c ≠ '?')
    (rest : List Char) : ∀ first ∈ (name ++ c :: rest).head?, first ≠ '!' ∧ first ≠ '?' := by
  intro first begun
  cases name with
  | nil =>
      cases begun
      exact behind
  | cons initial others =>
      cases begun
      have begins := named.begins first rfl
      exact ⟨begins.1, begins.2.1⟩

theorem IsName.notStop {name : List Char} (named : IsName name) (whole : name ≠ []) (rest : List Char) :
    ∀ first ∈ (name ++ rest).head?, first ≠ '/' := by
  cases name with
  | nil => exact absurd rfl whole
  | cons initial others => exact fun first begun => (named.begins first begun).2.2

theorem scan_start_tag {name : List Char} (named : IsName name) (closed : quoteBehind none name = none)
    (ends : name.getLast? ≠ some '/') (tail : List Char) :
    Scan.ofChars ('<' :: name ++ '>' :: tail) = Scan.cons (.start name) (Scan.ofChars tail) := by
  have ended : tagContent none (name ++ '>' :: tail) = .ok (name, tail) := by
    rw [tag_content_named named closed, tag_content_closed]
    simp [Except.map]
  have tag : tagOf name = .start name := by
    rw [tag_of_content fun first begun => (named.begins first begun).2.2, if_neg ends]
  rw [List.cons_append, scan_tag (named.unmarked (by decide) tail) ended, tag]

theorem scan_empty_tag {name : List Char} (named : IsName name) (closed : quoteBehind none name = none)
    (whole : name ≠ []) (tail : List Char) :
    Scan.ofChars ('<' :: name ++ '/' :: '>' :: tail) = Scan.cons (.empty name) (Scan.ofChars tail) := by
  have slash : tagContent none ('/' :: '>' :: tail) = .ok (['/'], tail) := by
    rw [tagContent, if_neg (by decide), quoteAfter, if_neg (by decide), tag_content_closed]
    rfl
  have ended : tagContent none (name ++ '/' :: '>' :: tail) = .ok (name ++ ['/'], tail) := by
    rw [tag_content_named named closed, slash]
    rfl
  rw [List.cons_append, scan_tag (named.unmarked (by decide) _) ended,
    tag_of_empty (named.notStop whole ['/'])]

theorem scan_end_tag {name : List Char} (named : IsName name) (closed : quoteBehind none name = none)
    (tail : List Char) :
    Scan.ofChars ('<' :: '/' :: name ++ '>' :: tail) = Scan.cons (.stop name) (Scan.ofChars tail) := by
  have ended : tagContent none ('/' :: (name ++ '>' :: tail)) = .ok ('/' :: name, tail) := by
    rw [tagContent, if_neg (by decide), quoteAfter, if_neg (by decide), tag_content_named named closed,
      tag_content_closed]
    simp [Except.map]
  have unmarked : ∀ first ∈ ('/' :: (name ++ '>' :: tail)).head?, first ≠ '!' ∧ first ≠ '?' := by simp
  rw [List.cons_append, List.cons_append, scan_tag unmarked ended, tag_of_stop named.spaceless]

end Companion.Xml
