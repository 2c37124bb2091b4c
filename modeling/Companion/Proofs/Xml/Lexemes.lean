import Companion.Proofs.Xml.Tags

/-!
Markup ends by itself: what is read as one token is read as that token whatever stands behind it. Only text
goes on until it meets markup. Main statement: `lexes_of_scans`, every place that a scan comes to lies between
lexemes.
-/
set_option autoImplicit false

namespace Companion

namespace Text

-- A mark that is found is found at the same place whatever stands behind it.
theorem cut_at_delimited {mark text before after : List Char} (marked : mark ≠ [])
    (found : cutAt? mark text = some (before, after)) (more : List Char) :
    cutAt? mark (before ++ mark ++ more) = some (before, more) := by
  induction text generalizing before with
  | nil => cases found
  | cons c rest ih =>
      have whole := append_of_cutAt? found
      rw [cutAt?] at found
      by_cases here : mark.isPrefixOf (c :: rest) = true
      · rw [if_pos here] at found
        cases found
        obtain ⟨first, others, rfl⟩ := List.exists_cons_of_ne_nil marked
        rw [List.nil_append, List.cons_append, cutAt?, if_pos (by simp)]
        simp
      · rw [if_neg here] at found
        obtain ⟨⟨inner, behind⟩, cut, same⟩ := Option.map_eq_some_iff.mp found
        cases same
        have notHere : ¬mark.isPrefixOf (c :: (inner ++ mark ++ more)) = true := by
          intro early
          rw [List.isPrefixOf_iff_prefix] at early here
          have short : mark <+: c :: inner ++ mark := by
            refine List.prefix_of_prefix_length_le early ⟨more, by simp⟩ ?_
            simp
            omega
          rw [whole] at here
          exact here (short.trans (List.prefix_append _ _))
        rw [List.cons_append, List.cons_append, cutAt?, if_neg notHere, ih cut]
        rfl

-- A mark is found behind content if it stands nowhere before that.
theorem cut_at_first {mark content : List Char} (marked : mark ≠ [])
    (first : ∀ tail, tail <:+ content → tail ≠ [] → ¬mark <+: tail ++ mark) (rest : List Char) :
    cutAt? mark (content ++ mark ++ rest) = some (content, rest) := by
  induction content with
  | nil =>
      obtain ⟨c, others, rfl⟩ := List.exists_cons_of_ne_nil marked
      rw [List.nil_append, List.cons_append, cutAt?, if_pos (by simp)]
      simp
  | cons c others ih =>
      have notHere : ¬mark.isPrefixOf (c :: (others ++ mark ++ rest)) = true := by
        intro early
        rw [List.isPrefixOf_iff_prefix] at early
        apply first (c :: others) (List.suffix_refl _) (List.cons_ne_nil _ _)
        refine List.prefix_of_prefix_length_le early ⟨rest, by simp⟩ ?_
        simp
        omega
      have behind := ih fun tail ends => first tail (ends.trans (List.suffix_cons c others))
      rw [List.cons_append, List.cons_append, cutAt?, if_neg notHere, behind]
      rfl

end Text

namespace Xml

/-! ## Doctypes -/

-- A word with no `>` before its end is looked for no further than up to a `>`.
theorem prefix_of_closed {word inside after : List Char} (alone : '>' ∉ word.dropLast)
    (stands : word <+: inside ++ '>' :: after) (more : List Char) : word <+: inside ++ '>' :: more := by
  have closed (behind : List Char) : inside ++ '>' :: behind = (inside ++ ['>']) ++ behind := by simp
  rw [closed] at stands ⊢
  by_cases short : word.length ≤ (inside ++ ['>']).length
  · exact (List.prefix_of_prefix_length_le stands (List.prefix_append _ _) short).trans (List.prefix_append _ _)
  · obtain ⟨others, rfl⟩ := List.prefix_of_prefix_length_le (List.prefix_append _ _) stands (by omega)
    have longer : others ≠ [] := by
      rintro rfl
      simp at short
    rw [List.dropLast_append_of_ne_nil longer] at alone
    simp at alone

theorem apart_of_closed {word inside after : List Char} (alone : '>' ∉ word.dropLast)
    (apart : ∀ rest, inside ++ '>' :: after = word ++ rest → False) (more : List Char) :
    ∀ rest, inside ++ '>' :: more = word ++ rest → False := by
  intro rest same
  obtain ⟨others, spelled⟩ := prefix_of_closed alone ⟨rest, same.symm⟩ after
  exact apart others spelled.symm

theorem subset_part_closed (inside after more : List Char) :
    subsetPart (inside ++ '>' :: more) = subsetPart (inside ++ '>' :: after) := by
  have alone : ∀ word ∈ quotingWords, '>' ∉ word.toList.dropLast := by decide
  have kept : ∀ word ∈ quotingWords, ∀ behind others, word.toList.isPrefixOf (inside ++ '>' :: behind) = true →
      word.toList.isPrefixOf (inside ++ '>' :: others) = true := by
    intro word member behind others stands
    rw [List.isPrefixOf_iff_prefix] at stands ⊢
    exact prefix_of_closed (alone word member) stands others
  have same : quotingWords.any (fun word => word.toList.isPrefixOf (inside ++ '>' :: more)) =
      quotingWords.any (fun word => word.toList.isPrefixOf (inside ++ '>' :: after)) := by
    rw [Bool.eq_iff_iff, List.any_eq_true, List.any_eq_true]
    constructor
    · rintro ⟨word, member, stands⟩
      exact ⟨word, member, kept word member _ _ stands⟩
    · rintro ⟨word, member, stands⟩
      exact ⟨word, member, kept word member _ _ stands⟩
  rw [subsetPart, subsetPart, same]

-- A doctype ends with a `>`, and what stands behind that is not looked at.
theorem after_doctype_closed {part : DoctypePart} {chars after : List Char}
    (ended : afterDoctype part chars = some after) :
    ∃ inside, chars = inside ++ '>' :: after ∧
      ∀ more, afterDoctype part (inside ++ '>' :: more) = some more := by
  fun_induction afterDoctype part chars
  case case1 => cases ended
  case case2 =>
      cases ended
      exact ⟨[], rfl, fun _ => rfl⟩
  case case3 ih | case5 ih | case14 ih | case16 ih =>
      obtain ⟨inside, rfl, ends⟩ := ih ended
      exact ⟨_ :: inside, rfl, ends⟩
  case case4 quote c rest notClosing notSubset ih =>
      obtain ⟨inside, rfl, ends⟩ := ih ended
      refine ⟨c :: inside, rfl, fun more => ?_⟩
      rw [List.cons_append, afterDoctype, ends] <;> assumption
  case case6 ih | case10 ih =>
      obtain ⟨inside, rfl, ends⟩ := ih ended
      exact ⟨_ :: _ :: inside, rfl, ends⟩
  case case7 ih =>
      obtain ⟨inside, rfl, ends⟩ := ih ended
      exact ⟨_ :: _ :: _ :: _ :: inside, rfl, ends⟩
  case case8 rest notInstruction notComment ih =>
      obtain ⟨inside, rfl, ends⟩ := ih ended
      refine ⟨'<' :: inside, rfl, fun more => ?_⟩
      rw [List.cons_append, afterDoctype, subset_part_closed inside after, ends]
      · exact @apart_of_closed ['?'] _ _ (by decide) notInstruction more
      · exact @apart_of_closed ['!', '-', '-'] _ _ (by decide) notComment more
  case case9 c rest notEnding _ _ notMarkup ih =>
      obtain ⟨inside, rfl, ends⟩ := ih ended
      refine ⟨c :: inside, rfl, fun more => ?_⟩
      rw [List.cons_append, afterDoctype, ends]
      · exact notEnding
      · exact fun _ markup => absurd markup notMarkup
      · exact fun _ markup => absurd markup notMarkup
      · exact notMarkup
  case case11 c rest notEnding ih =>
      obtain ⟨inside, rfl, ends⟩ := ih ended
      refine ⟨c :: inside, rfl, fun more => ?_⟩
      rw [List.cons_append, afterDoctype, ends]
      intro others question
      exact @apart_of_closed ['>'] _ _ (by decide) (notEnding · question) more others
  case case12 ih =>
      obtain ⟨inside, rfl, ends⟩ := ih ended
      exact ⟨_ :: _ :: _ :: inside, rfl, ends⟩
  case case13 c rest notEnding ih =>
      obtain ⟨inside, rfl, ends⟩ := ih ended
      refine ⟨c :: inside, rfl, fun more => ?_⟩
      rw [List.cons_append, afterDoctype, ends]
      intro others dash
      exact @apart_of_closed ['-', '>'] _ _ (by decide) (notEnding · dash) more others
  case case15 c rest notClosing ih | case19 c rest notClosing ih =>
      obtain ⟨inside, rfl, ends⟩ := ih ended
      refine ⟨c :: inside, rfl, fun more => ?_⟩
      rw [List.cons_append, afterDoctype, ends]
      exact notClosing
  case case17 quote c rest notClosing ih =>
      obtain ⟨inside, rfl, ends⟩ := ih ended
      refine ⟨c :: inside, rfl, fun more => ?_⟩
      rw [List.cons_append, afterDoctype, ends]
      exact notClosing
  case case18 =>
      cases ended
      exact ⟨[], rfl, fun _ => rfl⟩

/-! ## Markup -/

-- What a reader reads ends by itself: it is read alike whatever stands behind it.
def Delimited {α : Type} (read : List Char → Except Error (α × List Char)) : Prop :=
  ∀ chars value after, read chars = .ok (value, after) →
    ∃ piece, chars = piece ++ after ∧ ∀ more, read (piece ++ more) = .ok (value, more)

theorem up_to_of_cut {mark : String} {error : MarkupError} {token : List Char → Option Token}
    {chars content after : List Char} (cut : Text.cutAt? mark.toList chars = some (content, after)) :
    upTo mark error token chars = .ok (token content, after) := by
  rw [upTo, cut]

theorem up_to_closed {mark : String} {error : MarkupError} {token : List Char → Option Token} {chars after : List Char}
    {found : Option Token} (marked : mark.toList ≠ []) (read : upTo mark error token chars = .ok (found, after)) :
    ∃ inside, chars = inside ++ mark.toList ++ after ∧
      ∀ other more, upTo mark other token (inside ++ mark.toList ++ more) = .ok (found, more) := by
  rw [upTo] at read
  cases cut : Text.cutAt? mark.toList chars with
  | none =>
      rw [cut] at read
      cases read
  | some parts =>
      rw [cut] at read
      cases read
      refine ⟨parts.1, Text.append_of_cutAt? cut, fun other more => ?_⟩
      exact up_to_of_cut (Text.cut_at_delimited marked cut more)

theorem up_to_delimited {mark : String} (marked : mark.toList ≠ []) (error : MarkupError)
    (token : List Char → Option Token) : Delimited (upTo mark error token) := by
  intro chars found after read
  obtain ⟨inside, spelled, closed⟩ := up_to_closed marked read
  exact ⟨inside ++ mark.toList, spelled, closed error⟩

theorem after_word_eq_some {word chars rest : List Char} :
    afterWord? word chars = some rest ↔ ∃ front, chars = front ++ rest ∧ front.map Char.toUpper = word := by
  rw [afterWord?]
  constructor
  · intro found
    by_cases same : (chars.take word.length).map Char.toUpper = word
    · rw [if_pos same] at found
      cases found
      exact ⟨_, (List.take_append_drop _ _).symm, same⟩
    · rw [if_neg same] at found
      cases found
  · rintro ⟨front, rfl, rfl⟩
    rw [List.length_map, List.take_left, List.drop_left, if_pos rfl]

-- The first character of a doctype that is no blank is found before its end.
theorem name_head_closed (inside after more : List Char) :
    ((inside ++ '>' :: more).dropWhile isSpace).head? = ((inside ++ '>' :: after).dropWhile isSpace).head? := by
  have head (behind : List Char) :
      ((inside ++ '>' :: behind).dropWhile isSpace).head? = (inside.find? fun c => !isSpace c).or (some '>') := by
    have found := List.find?_eq_head?_dropWhile_not (fun c => !isSpace c) (inside ++ '>' :: behind)
    simp only [Bool.not_not] at found
    rw [← found, List.find?_append, List.find?_cons_of_pos (by decide)]
  rw [head, head]

theorem read_doctype_delimited : Delimited readDoctype := by
  intro chars token after read
  rw [readDoctype] at read
  split at read
  · cases read
  · rename_i rest behind found
    by_cases nameless : (rest.dropWhile isSpace).head? = some '>'
    · rw [if_pos nameless] at read
      cases read
    · rw [if_neg nameless] at read
      cases read
      obtain ⟨tail, word, ended⟩ := Option.bind_eq_some_iff.mp found
      obtain ⟨_, ended, same⟩ := Option.map_eq_some_iff.mp ended
      cases same
      obtain ⟨front, rfl, upper⟩ := after_word_eq_some.mp word
      obtain ⟨inside, rfl, closed⟩ := after_doctype_closed ended
      refine ⟨front ++ inside ++ ['>'], by simp, fun more => ?_⟩
      have spelled : front ++ inside ++ ['>'] ++ more = front ++ (inside ++ '>' :: more) := by simp
      rw [name_head_closed inside more] at nameless
      rw [spelled, readDoctype, after_word_eq_some.mpr ⟨front, rfl, upper⟩, Option.bind_some, closed]
      exact if_neg nameless

-- A reader that reads nothing from nothing takes the first character there is.
theorem Delimited.cons {α : Type} {read : List Char → Except Error (α × List Char)} (delimited : Delimited read)
    (stuck : ∀ found, read [] ≠ .ok found) {c : Char} {rest after : List Char} {value : α}
    (found : read (c :: rest) = .ok (value, after)) :
    ∃ piece, rest = piece ++ after ∧ ∀ more, read (c :: (piece ++ more)) = .ok (value, more) := by
  obtain ⟨piece, spelled, closed⟩ := delimited _ value after found
  cases piece with
  | nil => exact absurd (closed []) (stuck _)
  | cons first others =>
      rw [List.cons_append] at spelled
      cases spelled
      exact ⟨others, rfl, closed⟩

theorem read_declaration_delimited : Delimited readDeclaration := by
  intro chars token after read
  unfold readDeclaration at read
  split at read
  · obtain ⟨piece, rfl, closed⟩ := up_to_delimited (by decide) _ _ _ _ _ read
    exact ⟨'-' :: '-' :: piece, rfl, closed⟩
  · cases read
  · obtain ⟨piece, rfl, closed⟩ := up_to_delimited (by decide) _ _ _ _ _ read
    exact ⟨'[' :: 'C' :: 'D' :: 'A' :: 'T' :: 'A' :: '[' :: piece, rfl, closed⟩
  · cases read
  · obtain ⟨piece, rfl, closed⟩ := read_doctype_delimited.cons nofun read
    exact ⟨'D' :: piece, rfl, closed⟩
  · obtain ⟨piece, rfl, closed⟩ := read_doctype_delimited.cons nofun read
    exact ⟨'d' :: piece, rfl, closed⟩
  · cases read

theorem read_instruction_delimited : Delimited readInstruction := by
  intro chars token after read
  unfold readInstruction at read
  split at read
  · cases read
  · rename_i begun
    obtain ⟨inside, rfl, closed⟩ := up_to_closed (by decide) read
    refine ⟨inside ++ "?>".toList, rfl, fun more => ?_⟩
    rw [readInstruction]
    · exact closed _ more
    · cases inside with
      | nil => exact nofun
      | cons first others =>
          intro rest same
          cases same
          exact begun _ rfl

theorem read_markup_delimited : Delimited readMarkup := by
  intro chars token after read
  unfold readMarkup at read
  split at read
  · obtain ⟨piece, rfl, closed⟩ := read_declaration_delimited _ _ _ read
    exact ⟨'!' :: piece, rfl, closed⟩
  · obtain ⟨piece, rfl, closed⟩ := read_instruction_delimited _ _ _ read
    exact ⟨'?' :: piece, rfl, closed⟩
  · rename_i notDeclaration notInstruction
    split at read
    · rename_i content behind tag
      cases read
      obtain ⟨rfl, within, closed⟩ := within_of_tag_content tag
      refine ⟨content ++ ['>'], by simp, fun more => ?_⟩
      have spelled : content ++ ['>'] ++ more = content ++ '>' :: more := by simp
      have ended : tagContent none (content ++ '>' :: more) = .ok (content, more) := by
        rw [tag_content_within within, closed, tag_content_closed]
        simp [Except.map]
      rw [spelled, readMarkup]
      · rw [ended]
      · cases content with
        | nil => exact nofun
        | cons first others =>
            intro rest same
            cases same
            exact notDeclaration _ rfl
      · cases content with
        | nil => exact nofun
        | cons first others =>
            intro rest same
            cases same
            exact notInstruction _ rfl
    · cases read

def isNameChar (c : Char) : Bool := !endsText c && c ≠ ';'

theorem read_reference_name {name : List Char} (named : ∀ c ∈ name, isNameChar c = true) (more : List Char) :
    readReference (name ++ ';' :: more) = .ok (some (.reference name), more) := by
  have inside : List.takeWhile isNameChar (name ++ ';' :: more) = name := by
    rw [List.takeWhile_append_of_pos named, List.takeWhile_cons_of_neg (by decide), List.append_nil]
  have behind : List.dropWhile isNameChar (name ++ ';' :: more) = ';' :: more := by
    rw [List.dropWhile_append_of_pos named, List.dropWhile_cons_of_neg (by decide)]
  unfold isNameChar at inside behind
  rw [readReference, inside, behind]
  rfl

theorem read_reference_delimited : Delimited readReference := by
  intro chars token after read
  unfold readReference at read
  dsimp only at read
  split at read
  · rename_i behind
    cases read
    refine ⟨chars.takeWhile isNameChar ++ [';'], ?_, fun more => ?_⟩
    · rw [List.append_assoc, List.singleton_append, ← behind]
      exact List.takeWhile_append_dropWhile.symm
    · rw [List.append_assoc, List.singleton_append]
      exact read_reference_name (fun c member => List.mem_takeWhile_imp member) more
  · cases read

theorem read_token_delimited {c : Char} (markup : endsText c = true) : Delimited (readToken c) := by
  intro chars token after read
  rw [readToken] at read
  by_cases tag : c = '<'
  · rw [if_pos tag] at read
    obtain ⟨piece, spelled, closed⟩ := read_markup_delimited _ _ _ read
    refine ⟨piece, spelled, fun more => ?_⟩
    rw [readToken, if_pos tag, closed]
  · have reference : c = '&' := by simpa [endsText, tag] using markup
    rw [if_neg tag, if_pos reference] at read
    obtain ⟨piece, spelled, closed⟩ := read_reference_delimited _ _ _ read
    refine ⟨piece, spelled, fun more => ?_⟩
    rw [readToken, if_neg tag, if_pos reference, closed]

/-! ## Lexemes -/

-- Characters that make one token, or that are passed over. Text is not looked at as a whole: each piece of it
-- is a lexeme, whatever stands beside it.
inductive Lexeme : List Char → Option Token → Prop
  | text {content : List Char} (plain : ∀ c ∈ content, endsText c = false) : Lexeme content (some (.text content))
  | markup {c : Char} {rest : List Char} {token : Option Token} (begins : endsText c = true)
      (read : readToken c rest = .ok (token, [])) : Lexeme (c :: rest) token

-- Characters that are lexemes one behind the other, and the tokens that these make.
inductive Lexes : List Char → List Token → Prop
  | nothing : Lexes [] []
  | lexeme {piece chars : List Char} {token : Option Token} {tokens : List Token} (first : Lexeme piece token)
      (behind : Lexes chars tokens) : Lexes (piece ++ chars) (token.toList ++ tokens)

theorem lexes_append {front back : List Char} {before behind : List Token} (first : Lexes front before)
    (second : Lexes back behind) : Lexes (front ++ back) (before ++ behind) := by
  induction first with
  | nothing => exact second
  | lexeme first _ ih =>
      rw [List.append_assoc, List.append_assoc]
      exact .lexeme first ih

theorem lexes_one {piece : List Char} {token : Option Token} (lexeme : Lexeme piece token) :
    Lexes piece token.toList := by
  have alone := Lexes.lexeme lexeme .nothing
  rwa [List.append_nil, List.append_nil] at alone

-- A scan comes from some characters to those that are left behind some tokens.
inductive Scans : List Char → List Token → List Char → Prop
  | here (chars : List Char) : Scans chars [] chars
  | token {c : Char} {rest after back : List Char} {token : Option Token} {tokens : List Token}
      (read : readToken c rest = .ok (token, after)) (behind : Scans after tokens back) :
      Scans (c :: rest) (token.toList ++ tokens) back

theorem lexeme_of_read {c : Char} {rest after : List Char} {token : Option Token}
    (read : readToken c rest = .ok (token, after)) :
    ∃ piece, c :: rest = piece ++ after ∧ Lexeme piece token := by
  by_cases markup : endsText c = true
  · obtain ⟨piece, rfl, closed⟩ := read_token_delimited markup _ _ _ read
    refine ⟨c :: piece, rfl, .markup markup ?_⟩
    have alone := closed []
    rwa [List.append_nil] at alone
  · have plain : endsText c = false := by simpa using markup
    have other : c ≠ '<' ∧ c ≠ '&' := by simpa [endsText] using plain
    rw [readToken, if_neg other.1, if_neg other.2] at read
    cases read
    refine ⟨c :: rest.takeWhile fun c => !endsText c, by simp, .text ?_⟩
    intro inside member
    rcases List.mem_cons.mp member with rfl | taken
    · exact plain
    · simpa using List.mem_takeWhile_imp taken

-- Every place that a scan comes to lies between lexemes.
theorem lexes_of_scans {chars back : List Char} {tokens : List Token} (scanned : Scans chars tokens back) :
    ∃ front, chars = front ++ back ∧ Lexes front tokens := by
  induction scanned with
  | here chars => exact ⟨[], rfl, .nothing⟩
  | token read _ ih =>
      obtain ⟨front, rfl, lexes⟩ := ih
      obtain ⟨piece, spelled, lexeme⟩ := lexeme_of_read read
      refine ⟨piece ++ front, ?_, .lexeme lexeme lexes⟩
      rw [spelled, List.append_assoc]

theorem clean_of_scans {chars back : List Char} {tokens : List Token} (scanned : Scans chars tokens back)
    (clean : (Scan.ofChars chars).failure = none) : (Scan.ofChars back).failure = none := by
  induction scanned with
  | here chars => exact clean
  | @token c rest after back token tokens read behind ih =>
      apply ih
      cases token with
      | none => rwa [Scan.of_chars_skipped read] at clean
      | some token => rwa [Scan.of_chars_token read] at clean

theorem scans_of_chars {chars : List Char} (clean : (Scan.ofChars chars).failure = none) :
    Scans chars (Scan.ofChars chars).tokens [] := by
  fun_induction Scan.ofChars chars with
  | case1 => exact .here []
  | case2 => cases clean
  | case3 c rest after read ih => exact .token read (ih clean)
  | case4 c rest token after read ih => exact .token read (ih clean)

theorem lexes_of_chars {chars : List Char} (clean : (Scan.ofChars chars).failure = none) :
    Lexes chars (Scan.ofChars chars).tokens := by
  obtain ⟨front, same, lexes⟩ := lexes_of_scans (scans_of_chars clean)
  rw [List.append_nil] at same
  rwa [same] at lexes ⊢

end Xml
end Companion
