import Mathlib.Logic.Relation
import Companion.Proofs.Xml.Taken

/-!
Spellings of a document: comments, instructions, blanks, references and sections can be put into a text without
a change of what is read from it. Main statement: `variants_read_alike`.
-/
set_option autoImplicit false

namespace Companion

namespace Text.Numeral

-- The number that digits go on with; there is no limit to it.
def goesOn (radix : Nat) : Nat → List Char → Option Nat
  | value, [] => some value
  | value, c :: rest => (digit? radix c).bind fun digit => goesOn radix (value * radix + digit) rest

-- The number that digits stand for.
def value? (radix : Nat) (digits : List Char) : Option Nat :=
  if digits = [] then none else goesOn radix 0 digits

theorem le_of_goes_on {radix value result : Nat} {digits : List Char} (positive : 0 < radix)
    (stands : goesOn radix value digits = some result) : value ≤ result := by
  induction digits generalizing value with
  | nil =>
      cases stands
      exact Nat.le_refl _
  | cons c rest ih =>
      obtain ⟨digit, _, behind⟩ := Option.bind_eq_some_iff.mp stands
      calc value ≤ value * radix := Nat.le_mul_of_pos_right value positive
        _ ≤ value * radix + digit := Nat.le_add_right _ _
        _ ≤ result := ih behind

theorem extend_of_goes_on {radix value result : Nat} {digits : List Char} (positive : 0 < radix)
    (small : result < limit) (stands : goesOn radix value digits = some result) :
    extend radix value digits = .ok result := by
  induction digits generalizing value with
  | nil =>
      cases stands
      rfl
  | cons c rest ih =>
      obtain ⟨digit, taken, behind⟩ := Option.bind_eq_some_iff.mp stands
      have fits : value * radix + digit < limit := Nat.lt_of_le_of_lt (le_of_goes_on positive behind) small
      rw [extend, taken]
      dsimp only
      rw [if_pos fits]
      exact ih behind

theorem read_of_value {radix result : Nat} {digits : List Char} (positive : 0 < radix) (small : result < limit)
    (stands : value? radix digits = some result) : read radix digits = .ok result := by
  rw [value?] at stands
  by_cases empty : digits = []
  · rw [if_pos empty] at stands
    cases stands
  · rw [if_neg empty] at stands
    rw [read, if_neg empty]
    exact extend_of_goes_on positive small stands

theorem digits_of_goes_on {radix value result : Nat} {digits : List Char}
    (stands : goesOn radix value digits = some result) : ∀ c ∈ digits, (digit? radix c).isSome = true := by
  induction digits generalizing value with
  | nil => exact nofun
  | cons c rest ih =>
      obtain ⟨digit, taken, behind⟩ := Option.bind_eq_some_iff.mp stands
      rw [List.forall_mem_cons]
      exact ⟨by rw [taken]; rfl, ih behind⟩

end Text.Numeral

namespace Xml

open Companion.Xml.Part (tokensOf AllUnmixed)
open Companion.Text

/-! ## References -/

-- A reference to a character by its number, with a decimal or a hexadecimal one; leading zeros are possible.
inductive Numbers (c : Char) : List Char → Prop
  | decimal {digits : List Char} (value : Numeral.value? 10 digits = some c.toNat) : Numbers c ('#' :: digits)
  | hexadecimal {digits : List Char} (value : Numeral.value? 16 digits = some c.toNat) :
      Numbers c ('#' :: 'x' :: digits)

theorem name_char_of_digit {radix : Nat} {c : Char} (digit : (Numeral.digit? radix c).isSome = true) :
    isNameChar c = true := by
  have apart (other : Char) (none : Numeral.digitValue? other = none) : c ≠ other := by
    rintro rfl
    rw [Numeral.digit?, none] at digit
    cases digit
  simp [isNameChar, endsText, apart '<' rfl, apart '&' rfl, apart ';' rfl]

-- Digits have no sign in front.
theorem unsigned_of_value {radix result : Nat} {digits : List Char}
    (value : Numeral.value? radix digits = some result) : withoutPlus digits = digits := by
  unfold withoutPlus
  split
  · cases value
  · rfl

theorem radixed_of_value {result : Nat} {digits : List Char} (value : Numeral.value? 10 digits = some result) :
    radixed digits = (10, digits) := by
  unfold radixed
  split
  · cases value
  · rfl

theorem char_of_value {radix : Nat} {c : Char} {digits : List Char} (positive : 0 < radix)
    (value : Numeral.value? radix digits = some c.toNat) :
    Numeral.read radix (withoutPlus digits) = .ok c.toNat ∧ charOf? c.toNat = some c := by
  have small : c.toNat < Numeral.limit := c.val.toNat_lt
  have scalar : c.toNat.isValidChar := c.valid
  rw [unsigned_of_value value, charOf?, if_pos scalar, Char.ofNat_toNat]
  exact ⟨Numeral.read_of_value positive small value, rfl⟩

theorem resolve_of_numbers {c : Char} {name : List Char} (numbers : Numbers c name) :
    Document.resolve name = .ok c := by
  cases numbers with
  | @decimal digits value =>
      obtain ⟨read, char⟩ := char_of_value (by decide) value
      rw [Document.resolve, numbered?, radixed_of_value value]
      dsimp only
      rw [read]
      dsimp only
      rw [char]
  | @hexadecimal digits value =>
      obtain ⟨read, char⟩ := char_of_value (by decide) value
      rw [Document.resolve, numbered?, radixed]
      dsimp only
      rw [read]
      dsimp only
      rw [char]

theorem named_of_numbers {c : Char} {name : List Char} (numbers : Numbers c name) :
    ∀ other ∈ name, isNameChar other = true := by
  have digits {radix : Nat} {digits : List Char} (value : Numeral.value? radix digits = some c.toNat) :
      ∀ other ∈ digits, isNameChar other = true := by
    rw [Numeral.value?] at value
    by_cases empty : digits = []
    · rw [if_pos empty] at value
      cases value
    · rw [if_neg empty] at value
      exact fun other member => name_char_of_digit (Numeral.digits_of_goes_on value other member)
  cases numbers with
  | decimal value => exact List.forall_mem_cons.mpr ⟨by decide, digits value⟩
  | hexadecimal value => exact List.forall_mem_cons.mpr ⟨by decide, List.forall_mem_cons.mpr ⟨by decide, digits value⟩⟩

theorem lexeme_reference {name : List Char} (named : ∀ c ∈ name, isNameChar c = true) :
    Lexeme ('&' :: (name ++ [';'])) (some (.reference name)) := by
  refine .markup rfl ?_
  rw [readToken, if_neg (by decide), if_pos rfl]
  exact read_reference_name named []

/-! ## Comments, instructions and sections -/

-- A letter or a blank.
def isWordChar (c : Char) : Bool := Text.isAlphabetic c || isSpace c

theorem apart_of_words {content : List Char} (words : ∀ c ∈ content, isWordChar c = true) {other : Char}
    (odd : isWordChar other = false) : other ∉ content := by
  intro member
  rw [words other member] at odd
  cases odd

-- A mark is found behind words if it begins with another character.
theorem cut_behind_words {content : List Char} (words : ∀ c ∈ content, isWordChar c = true) {c : Char}
    (odd : isWordChar c = false) (mark : List Char) :
    Text.cutAt? (c :: mark) (content ++ c :: mark) = some (content, []) := by
  have first : ∀ tail, tail <:+ content → tail ≠ [] → ¬c :: mark <+: tail ++ c :: mark := by
    intro tail ends some begins
    obtain ⟨initial, others, rfl⟩ := List.exists_cons_of_ne_nil some
    rw [List.cons_append, List.cons_prefix_cons] at begins
    have member := ends.mem (List.mem_cons_self (a := initial))
    rw [← begins.1] at member
    exact apart_of_words words odd member
  have found := Text.cut_at_first (List.cons_ne_nil c mark) first []
  rwa [List.append_nil] at found

theorem lexeme_comment {content : List Char} (words : ∀ c ∈ content, isWordChar c = true) :
    Lexeme ("<!--".toList ++ content ++ "-->".toList) none :=
  .markup rfl (up_to_of_cut (cut_behind_words words (by decide +kernel) ['-', '>']))

theorem lexeme_instruction {content : List Char} (words : ∀ c ∈ content, isWordChar c = true) :
    Lexeme ("<?".toList ++ content ++ "?>".toList) none := by
  have closing : '>' ∉ content := apart_of_words words (by decide +kernel)
  refine .markup rfl ?_
  change readInstruction (content ++ ['?', '>']) = _
  rw [readInstruction]
  · exact up_to_of_cut (cut_behind_words words (by decide +kernel) ['>'])
  · intro rest same
    cases content with
    | nil => cases same
    | cons c others =>
        cases same
        exact closing List.mem_cons_self

-- The mark of an end does not overlap itself.
theorem cut_section {content : List Char} (endless : ¬"]]>".toList <:+: content) :
    Text.cutAt? "]]>".toList (content ++ "]]>".toList) = some (content, []) := by
  have first : ∀ tail, tail <:+ content → tail ≠ [] → ¬"]]>".toList <+: tail ++ "]]>".toList := by
    intro tail ends some begins
    match tail with
    | [] => exact some rfl
    | [_] => simp at begins
    | [_, _] => simp at begins
    | a :: b :: c :: others =>
        apply endless
        refine List.IsInfix.trans (List.IsPrefix.isInfix ?_) ends.isInfix
        refine List.prefix_of_prefix_length_le begins (List.prefix_append _ _) ?_
        simp
  have found := Text.cut_at_first (by decide) first []
  rwa [List.append_nil] at found

theorem lexeme_section {content : List Char} (endless : ¬"]]>".toList <:+: content) :
    Lexeme ("<![CDATA[".toList ++ content ++ "]]>".toList) (some (.cdata content)) :=
  .markup rfl (up_to_of_cut (cut_section endless))

/-! ## Edits -/

-- A place in a text: what stands in front of it and behind it, as lexemes.
structure Place where
  front : List Char
  back : List Char
  before : List Token
  behind : List Token
  lexesFront : Lexes front before
  lexesBack : Lexes back behind

namespace Place

-- Outside of all elements.
def Outside (place : Place) : Prop := ∃ parts, place.before = tokensOf parts

-- Within an element.
def Inside (place : Place) : Prop :=
  ∃ outer content parts, place.before = outer ++ .start content :: tokensOf parts

-- Directly in an element that holds elements.
def Between (place : Place) : Prop :=
  ∃ outer content front back rest, place.before = outer ++ .start content :: tokensOf front ∧
    place.behind = tokensOf back ++ .stop (tagName content) :: rest ∧ (front ++ back).any Part.isElement = true

end Place

-- Where a scan that meets no error comes to is a place.
theorem place_of_scans {chars back : List Char} {tokens : List Token} (clean : (Scan.ofChars chars).failure = none)
    (scanned : Scans chars tokens back) :
    ∃ place : Place, chars = place.front ++ place.back ∧ place.before = tokens ∧ place.back = back := by
  obtain ⟨front, spelled, lexes⟩ := lexes_of_scans scanned
  exact ⟨⟨front, back, tokens, _, lexes, lexes_of_chars (clean_of_scans scanned clean)⟩, spelled, rfl, rfl⟩

-- A run of text: characters, and references and sections that stand for characters.
def Holds (run content : List Char) : Prop :=
  ∃ parts, Lexes run (tokensOf parts) ∧ (∀ part ∈ parts, part.tag? = none) ∧ Part.charactersOf parts = content

theorem holds_text {run : List Char} (plain : ∀ c ∈ run, endsText c = false) : Holds run run :=
  ⟨[.text run], lexes_one (.text plain), by simp [Part.tag?], by simp [Part.charactersOf, Part.characters]⟩

inductive Place.Edit (place : Place) : List Char → List Char → Prop
  | comment {content : List Char} (words : ∀ c ∈ content, isWordChar c = true) :
      Edit place [] ("<!--".toList ++ content ++ "-->".toList)
  | instruction {content : List Char} (words : ∀ c ∈ content, isWordChar c = true) :
      Edit place [] ("<?".toList ++ content ++ "?>".toList)
  | blanks {blanks : List Char} (spaces : ∀ c ∈ blanks, isSpace c = true) (apart : place.Outside ∨ place.Between) :
      Edit place [] blanks
  | reference {run name : List Char} {c : Char} (inside : place.Inside) (holds : Holds run [c])
      (numbers : Numbers c name) : Edit place run ('&' :: (name ++ [';']))
  | cdata {run content : List Char} (inside : place.Inside) (holds : Holds run content)
      (endless : ¬"]]>".toList <:+: content) : Edit place run ("<![CDATA[".toList ++ content ++ "]]>".toList)

-- An edit of a text, behind the mark of its encoding if it has one.
def Edit (text variant : String) : Prop :=
  ∃ (mark : List Char) (place : Place) (old new : List Char), place.Edit old new ∧
    Scan.withoutMark text.toList = place.front ++ old ++ place.back ∧
    text.toList = mark ++ (place.front ++ old ++ place.back) ∧
    variant.toList = mark ++ (place.front ++ new ++ place.back)

namespace Document

variable {root : String}

-- What is the same for a reader that accepts one of two texts.
def Preserves (chars variant : List Char) : Prop :=
  ∃ tokens others, Lexes chars tokens ∧ Lexes variant others ∧ ∀ (root : String) (last : Reading),
    tokens.foldlM (Reading.take root) {} = some last → others.foldlM (Reading.take root) {} = some last

-- Parts are exchanged for others at a place.
theorem preserves_exchanged {place : Place} {old new : List Char} {parts others : List Part}
    (lexesOld : Lexes old (tokensOf parts)) (lexesNew : Lexes new (tokensOf others))
    (exchanged : ∀ (root : String) (middle last : Reading), place.before.foldlM (Reading.take root) {} = some middle →
      (tokensOf parts).foldlM (Reading.take root) middle = some last →
        (tokensOf others).foldlM (Reading.take root) middle = some last) :
    Preserves (place.front ++ old ++ place.back) (place.front ++ new ++ place.back) := by
  refine ⟨_, _, lexes_append (lexes_append place.lexesFront lexesOld) place.lexesBack,
    lexes_append (lexes_append place.lexesFront lexesNew) place.lexesBack, fun root last taken => ?_⟩
  obtain ⟨between, taken, behind⟩ := takes_append.mp taken
  obtain ⟨middle, before, run⟩ := takes_append.mp taken
  exact takes_append.mpr ⟨between, takes_append.mpr ⟨middle, before, exchanged root middle between before run⟩, behind⟩

theorem preserves_skipped (place : Place) {new : List Char} (lexeme : Lexeme new none) :
    Preserves (place.front ++ [] ++ place.back) (place.front ++ new ++ place.back) :=
  @preserves_exchanged place [] new [] [] .nothing (lexes_one lexeme) fun _ _ _ _ taken => taken

theorem no_elements {parts : List Part} (data : ∀ part ∈ parts, part.tag? = none) : Part.elementsOf parts = [] := by
  induction parts with
  | nil => rfl
  | cons part rest ih =>
      obtain ⟨own, others⟩ := List.forall_mem_cons.mp data
      rw [Part.elementsOf, Part.element_of_data own, ih others]
      rfl

theorem opened_at {place : Place} (inside : place.Inside) {middle : Reading}
    (taken : place.before.foldlM (Reading.take root) {} = some middle) : middle.opened ≠ [] := by
  obtain ⟨outer, content, parts, before⟩ := inside
  rw [before] at taken
  exact opened_inside taken

theorem preserves_data {place : Place} (inside : place.Inside) {run new content : List Char} {part : Part}
    (holds : Holds run content) (lexesNew : Lexes new part.tokens) (data : part.tag? = none) (unmixed : part.Unmixed)
    (resolves : Resolves part.tokens) (characters : part.characters = content) :
    Preserves (place.front ++ run ++ place.back) (place.front ++ new ++ place.back) := by
  obtain ⟨parts, lexesOld, plain, rfl⟩ := holds
  have alone : tokensOf [part] = part.tokens := by simp [tokensOf]
  refine preserves_exchanged lexesOld (alone ▸ lexesNew) fun root middle last before taken => ?_
  refine takes_exchanged (opened_at inside before) (alone ▸ resolves) ⟨unmixed, trivial⟩ ?_ ?_ taken
  · rw [Part.charactersOf, List.flatMap_singleton, characters]
  · rw [no_elements plain, Part.elementsOf, Part.element_of_data data]
    rfl

theorem blank_of_space {c : Char} (space : isSpace c = true) : Text.isBlank c = true := by
  have either : c = ' ' ∨ c = '\t' ∨ c = '\r' ∨ c = '\n' := by simpa [isSpace] using space
  rcases either with rfl | rfl | rfl | rfl <;> decide

theorem plain_of_space {c : Char} (space : isSpace c = true) : endsText c = false := by
  have either : c = ' ' ∨ c = '\t' ∨ c = '\r' ∨ c = '\n' := by simpa [isSpace] using space
  rcases either with rfl | rfl | rfl | rfl <;> decide

theorem lexes_blanks {blanks : List Char} (spaces : ∀ c ∈ blanks, isSpace c = true) :
    Lexes blanks (tokensOf [.text blanks]) :=
  lexes_one (.text fun c member => plain_of_space (spaces c member))

theorem preserves_outside {place : Place} (outside : place.Outside) {blanks : List Char}
    (spaces : ∀ c ∈ blanks, isSpace c = true) :
    Preserves (place.front ++ [] ++ place.back) (place.front ++ blanks ++ place.back) := by
  obtain ⟨parts, before⟩ := outside
  refine @preserves_exchanged place [] blanks [] [.text blanks] .nothing (lexes_blanks spaces) ?_
  intro root middle last reached taken
  rw [before] at reached
  have outer : middle.opened = [] := opened_outside reached
  have blank : blanks.all Text.isBlank = true :=
    List.all_eq_true.mpr fun c member => blank_of_space (spaces c member)
  have dropped : middle.addText blanks = middle := by
    rw [Reading.addText, outer]
  rw [Part.tokens_of_text, List.foldlM_cons, take_text, blank, Bool.not_true, Bool.and_false, if_neg Bool.false_ne_true,
    dropped]
  exact taken

theorem preserves_between {place : Place} (between : place.Between) {blanks : List Char}
    (spaces : ∀ c ∈ blanks, isSpace c = true) :
    Preserves (place.front ++ [] ++ place.back) (place.front ++ blanks ++ place.back) := by
  obtain ⟨outer, content, front, back, rest, before, behind, holds⟩ := between
  have lexesFront := place.lexesFront
  have lexesBack := place.lexesBack
  rw [before] at lexesFront
  rw [behind] at lexesBack
  refine ⟨_, _, lexes_append (lexes_append lexesFront .nothing) lexesBack,
    lexes_append (lexes_append lexesFront (lexes_blanks spaces)) lexesBack, fun root last taken => ?_⟩
  have blank : blanks.all Text.isBlank = true :=
    List.all_eq_true.mpr fun c member => blank_of_space (spaces c member)
  have old : outer ++ .start content :: tokensOf front ++ [] ++ (tokensOf back ++ .stop (tagName content) :: rest) =
      outer ++ (Part.element content (front ++ back)).tokens ++ rest := by
    simp [Part.tokens, Part.tokens_of_append]
  have new : outer ++ .start content :: tokensOf front ++ tokensOf [.text blanks] ++
        (tokensOf back ++ .stop (tagName content) :: rest) =
      outer ++ (Part.element content (front ++ .text blanks :: back)).tokens ++ rest := by
    simp [Part.tokens, Part.tokens_of_append, tokensOf]
  rw [old] at taken
  rw [new]
  obtain ⟨closed, taken, after⟩ := takes_append.mp taken
  obtain ⟨middle, reached, whole⟩ := takes_append.mp taken
  exact takes_append.mpr ⟨closed, takes_append.mpr ⟨middle, reached, takes_spaced blank holds whole⟩, after⟩

theorem preserves_edit {place : Place} {old new : List Char} (edit : place.Edit old new) :
    Preserves (place.front ++ old ++ place.back) (place.front ++ new ++ place.back) := by
  cases edit with
  | comment words => exact preserves_skipped place (lexeme_comment words)
  | instruction words => exact preserves_skipped place (lexeme_instruction words)
  | blanks spaces apart =>
      rcases apart with outside | between
      · exact preserves_outside outside spaces
      · exact preserves_between between spaces
  | @reference _ name c inside holds numbers =>
      have resolved := resolve_of_numbers numbers
      refine @preserves_data place inside old _ [c] (.reference name) holds
        (lexes_one (lexeme_reference (named_of_numbers numbers))) rfl trivial ?_ ?_
      · exact (resolves_reference name).mpr ⟨c, resolved⟩
      · rw [Part.characters, resolved]
        rfl
  | @cdata _ content inside holds endless =>
      exact @preserves_data place inside old _ content (.cdata content) holds (lexes_one (lexeme_section endless)) rfl
        trivial nofun rfl

/-! ## Texts -/

-- No edit puts the mark of an encoding at the front of a text that has none.
theorem unmarked_of_edit {place : Place} {old new : List Char} (edit : place.Edit old new) :
    new.head? ≠ some '\uFEFF' ∧ (new = [] → old = []) := by
  cases edit with
  | comment words => exact ⟨nofun, nofun⟩
  | instruction words => exact ⟨nofun, nofun⟩
  | reference inside holds numbers => exact ⟨nofun, nofun⟩
  | cdata inside holds endless => exact ⟨nofun, nofun⟩
  | blanks spaces apart =>
      refine ⟨fun marked => ?_, fun _ => rfl⟩
      have space := spaces _ (List.mem_of_mem_head? marked)
      cases space

theorem without_mark_of_ne {chars : List Char} (unmarked : chars.head? ≠ some '\uFEFF') :
    Scan.withoutMark chars = chars := by
  unfold Scan.withoutMark
  split
  · exact absurd rfl unmarked
  · rfl

theorem unmarked_edited {place : Place} {old new : List Char} (edit : place.Edit old new)
    (unmarked : (place.front ++ old ++ place.back).head? ≠ some '\uFEFF') :
    (place.front ++ new ++ place.back).head? ≠ some '\uFEFF' := by
  obtain ⟨begins, nothing⟩ := unmarked_of_edit edit
  cases front : place.front with
  | cons c rest => simpa [front] using unmarked
  | nil =>
      cases new with
      | cons c rest => simpa using begins
      | nil =>
          rw [front, nothing rfl] at unmarked
          exact unmarked

theorem without_mark_edited {text variant : String} (edit : Edit text variant) :
    ∃ (place : Place) (old new : List Char), place.Edit old new ∧
      Scan.withoutMark text.toList = place.front ++ old ++ place.back ∧
      Scan.withoutMark variant.toList = place.front ++ new ++ place.back := by
  obtain ⟨mark, place, old, new, edit, behind, spelled, varied⟩ := edit
  refine ⟨place, old, new, edit, behind, ?_⟩
  rw [varied]
  by_cases marked : text.toList.head? = some '\uFEFF'
  · obtain ⟨rest, whole⟩ := List.head?_eq_some_iff.mp marked
    rw [whole, Scan.withoutMark] at behind
    rw [whole, ← behind, ← List.singleton_append, List.append_cancel_right_eq] at spelled
    rw [← spelled]
    rfl
  · rw [without_mark_of_ne marked] at behind
    rw [← behind] at spelled
    rw [behind] at marked
    rw [List.self_eq_append_left.mp spelled, List.nil_append, without_mark_of_ne (unmarked_edited edit marked)]

/--
A text that can be read is read alike after any number of edits: comments and instructions at any place, blanks
around the root and between the elements of an element, references and sections for the text in elements.
-/
theorem variants_read_alike (root text variant : String) (object : Option Element)
    (found : read root text = .ok object) (edited : Relation.ReflTransGen Edit text variant) :
    read root variant = .ok object := by
  induction edited with
  | refl => exact found
  | tail _ edit ih =>
      obtain ⟨place, old, new, edit, before, after⟩ := without_mark_edited edit
      obtain ⟨tokens, others, lexes, lexesOthers, preserved⟩ := preserves_edit edit
      rw [read_of_takes, unmatched, before] at ih
      rw [read_of_takes, unmatched, after]
      obtain ⟨_, same⟩ := takes_lexed lexes
      obtain ⟨clean, sameOthers⟩ := takes_lexed lexesOthers
      obtain ⟨_, last, taken, ended⟩ := ih
      rw [same] at taken
      refine ⟨clean, last, ?_, ended⟩
      rw [sameOthers]
      exact preserved root last taken

-- The characters of both sides are scanned apart from each other.
def placed (front back : String) (cleanFront : (Scan.ofChars front.toList).failure = none)
    (cleanBack : (Scan.ofChars back.toList).failure = none) : Place :=
  ⟨front.toList, back.toList, _, _, lexes_of_chars cleanFront, lexes_of_chars cleanBack⟩

-- A blank between elements, a reference for a character of text, and a comment behind it.
theorem variants_read_alike_shelf :
    read "R" "<R><a>x</a></R>" = .ok (some (.node "R" [.text "a" "x"])) ∧
      Relation.ReflTransGen Edit "<R><a>x</a></R>" "<R> <a>&#x78;<!--b--></a></R>" ∧
      read "R" "<R> <a>&#x78;<!--b--></a></R>" = .ok (some (.node "R" [.text "a" "x"])) := by
  have found : read "R" "<R><a>x</a></R>" = .ok (some (.node "R" [.text "a" "x"])) := by decide +kernel
  have spaced : Edit "<R><a>x</a></R>" "<R> <a>x</a></R>" := by
    refine ⟨[], placed "<R>" "<a>x</a></R>" (by decide +kernel) (by decide +kernel), [], [' '], ?_, rfl, rfl, rfl⟩
    refine .blanks (List.forall_mem_singleton.mpr (by decide))
      (.inr ⟨[], ['R'], [], [.element ['a'] [.text ['x']]], [], ?_, ?_, rfl⟩)
    · decide +kernel
    · decide +kernel
  have referred : Edit "<R> <a>x</a></R>" "<R> <a>&#x78;</a></R>" := by
    refine ⟨[], placed "<R> <a>" "</a></R>" (by decide +kernel) (by decide +kernel), ['x'], "&#x78;".toList, ?_, rfl,
      rfl, rfl⟩
    refine @Place.Edit.reference _ ['x'] "#x78".toList 'x' ⟨[.start ['R'], .text [' ']], ['a'], [], ?_⟩
      (holds_text (List.forall_mem_singleton.mpr (by decide))) (.hexadecimal rfl)
    decide +kernel
  have noted : Edit "<R> <a>&#x78;</a></R>" "<R> <a>&#x78;<!--b--></a></R>" := by
    refine ⟨[], placed "<R> <a>&#x78;" "</a></R>" (by decide +kernel) (by decide +kernel), [], "<!--b-->".toList, ?_,
      rfl, rfl, rfl⟩
    exact @Place.Edit.comment _ ['b'] (List.forall_mem_singleton.mpr (by decide +kernel))
  have edited := ((Relation.ReflTransGen.single spaced).tail referred).tail noted
  exact ⟨found, edited, variants_read_alike "R" _ _ _ found edited⟩

end Document
end Xml
end Companion
