import Companion.Proofs.Xml.Grammar
import Companion.Proofs.Xml.Lexemes
import Companion.Proofs.Xml.Written

/-!
Documents read with their tags matched as they come, token by token. Main statements: `takes_lexed`, characters
are read as the lexemes that make them, wherever text is cut; `takes_exchanged` and `takes_spaced`, which parts
of a document are read alike.
-/
set_option autoImplicit false

namespace Companion.Xml

namespace Document

open Companion.Xml.Part (Moves tokensOf AllUnmixed)

variable {root : String} {reading last : Reading} {token : Token} {tokens : List Token}

/-! ## Reading with tags that match -/

-- An end tag fits where the element that was opened last has its name.
def Reading.fits (reading : Reading) : Token → Bool
  | .stop name => reading.names.head? = some name
  | _ => true

def Reading.take (root : String) (reading : Reading) (token : Token) : Option Reading :=
  if reading.fits token then (reading.next root token).toOption else none

theorem take_eq_some : reading.take root token = some last ↔
    reading.fits token = true ∧ reading.next root token = .ok last := by
  rw [Reading.take]
  by_cases fits : reading.fits token = true
  · rw [if_pos fits]
    cases reading.next root token <;> simp [Except.toOption, fits]
  · rw [if_neg fits]
    exact ⟨nofun, fun taken => absurd taken.1 fits⟩

theorem moves_of_fits (fits : reading.fits token = true) : ∃ inner, Moves token reading.names inner := by
  cases token with
  | start content => exact ⟨_, .start content _⟩
  | stop name =>
      have opened : reading.names.head? = some name := by simpa [Reading.fits] using fits
      obtain ⟨rest, same⟩ := List.head?_eq_some_iff.mp opened
      rw [same]
      exact ⟨rest, .stop name rest⟩
  | text content => exact ⟨_, .alone (.text content) _ rfl _⟩
  | cdata content => exact ⟨_, .alone (.cdata content) _ rfl _⟩
  | reference name => exact ⟨_, .alone (.reference name) _ rfl _⟩
  | doctype => exact ⟨_, .alone .doctype _ rfl _⟩
  | empty content => exact ⟨_, .alone (.empty content) _ rfl _⟩

theorem fits_of_moves {inner : List (List Char)} (moves : Moves token reading.names inner) :
    reading.fits token = true := by
  generalize named : reading.names = names at moves
  cases moves with
  | start content => rfl
  | stop name => simp [Reading.fits, named]
  | alone part _ alone =>
      cases part with
      | element content inside => simp [Part.tokens] at alone
      | _ =>
          cases alone
          rfl

theorem takes_eq_some : tokens.foldlM (Reading.take root) reading = some last ↔
    tokens.foldlM (Reading.next root) reading = .ok last ∧ (Scan.balance none reading.names tokens).failure = none := by
  induction tokens generalizing reading with
  | nil => simp [Scan.balance, pure, Except.pure]
  | cons token rest ih =>
      rw [List.foldlM_cons, List.foldlM_cons, bind_eq_ok, Option.bind_eq_bind, Option.bind_eq_some_iff]
      constructor
      · rintro ⟨middle, taken, behind⟩
        obtain ⟨fits, stepped⟩ := take_eq_some.mp taken
        obtain ⟨inner, moves⟩ := moves_of_fits fits
        obtain ⟨folded, matched⟩ := ih.mp behind
        rw [names_of_next moves stepped] at matched
        refine ⟨⟨middle, stepped, folded⟩, ?_⟩
        rw [Part.balance_moves moves]
        exact matched
      · rintro ⟨⟨middle, stepped, folded⟩, matched⟩
        obtain ⟨inner, moves⟩ := Part.moves_of_balance matched
        rw [Part.balance_moves moves] at matched
        refine ⟨middle, take_eq_some.mpr ⟨fits_of_moves moves, stepped⟩, ih.mpr ⟨folded, ?_⟩⟩
        rw [names_of_next moves stepped]
        exact matched

theorem takes_parts {parts : List Part} : (tokensOf parts).foldlM (Reading.take root) reading = some last ↔
    (tokensOf parts).foldlM (Reading.next root) reading = .ok last := by
  have balanced := Part.balance_tokens_of none reading.names [] parts
  rw [List.append_nil] at balanced
  rw [takes_eq_some, balanced, and_iff_left]
  rw [Scan.prepend, Scan.balance]

theorem takes_append {front back : List Token} : (front ++ back).foldlM (Reading.take root) reading = some last ↔
    ∃ middle, front.foldlM (Reading.take root) reading = some middle ∧
      back.foldlM (Reading.take root) middle = some last := by
  rw [List.foldlM_append, Option.bind_eq_bind, Option.bind_eq_some_iff]

theorem read_of_takes {text : String} {object : Option Element} : read root text = .ok object ↔
    (unmatched text).failure = none ∧ ∃ last, (unmatched text).tokens.foldlM (Reading.take root) {} = some last ∧
      last.opened = [] ∧ last.object = some object := by
  have matched : Scan.ofText text = Scan.balance (unmatched text).failure [] (unmatched text).tokens := rfl
  rw [read, matched, of_scan_eq_ok]
  constructor
  · rintro ⟨clean, last, folded, closed, found⟩
    obtain ⟨same, unfailing⟩ := Part.balance_of_ok clean
    rw [same] at folded
    rw [unfailing] at clean
    exact ⟨unfailing, last, takes_eq_some.mpr ⟨folded, clean⟩, closed, found⟩
  · rintro ⟨clean, last, taken, closed, found⟩
    obtain ⟨folded, balanced⟩ := takes_eq_some.mp taken
    rw [clean]
    have same : Scan.balance none [] (unmatched text).tokens = ⟨(unmatched text).tokens, none⟩ :=
      (Part.balance_of_ok balanced).1
    rw [same]
    exact ⟨rfl, last, folded, closed, found⟩

/-! ## Lexemes that are read one by one -/

theorem take_text (content : List Char) : reading.take root (.text content) =
    if reading.opened.isEmpty && !content.all Text.isBlank then none else some (reading.addText content) := by
  have fits : reading.fits (.text content) = true := rfl
  rw [Reading.take, if_pos fits, Reading.next]
  split <;> rfl

theorem add_text_append (reading : Reading) (first second : List Char) :
    reading.addText (first ++ second) = (reading.addText first).addText second := by
  obtain ⟨opened, isNil, object⟩ := reading
  cases opened <;> simp [Reading.addText]

-- Text is read alike as a whole and in pieces.
theorem take_text_append (reading : Reading) (first second : List Char) :
    reading.take root (.text (first ++ second)) =
      (reading.take root (.text first)).bind fun middle => middle.take root (.text second) := by
  rw [take_text, take_text, List.all_append, add_text_append]
  obtain ⟨opened, isNil, object⟩ := reading
  cases opened with
  | nil =>
      cases first.all Text.isBlank with
      | false => rfl
      | true =>
          rw [Bool.true_and, Bool.not_true, Bool.and_false, if_neg Bool.false_ne_true, Option.bind_some, take_text]
          rfl
  | cons element rest =>
      rw [List.isEmpty_cons, Bool.false_and, Bool.false_and, if_neg Bool.false_ne_true, if_neg Bool.false_ne_true,
        Option.bind_some, take_text]
      rfl

theorem take_no_text (reading : Reading) : reading.take root (.text []) = some reading := by
  rw [take_text, List.all_nil, Bool.not_true, Bool.and_false, if_neg Bool.false_ne_true, add_no_text]

-- The text at the front of some characters is read by itself.
theorem takes_run (chars : List Char) :
    (Scan.ofChars chars).failure = (Scan.ofChars (chars.dropWhile fun c => !endsText c)).failure ∧
      ∀ (root : String) (reading : Reading), (Scan.ofChars chars).tokens.foldlM (Reading.take root) reading =
        (reading.take root (.text (chars.takeWhile fun c => !endsText c))).bind
          ((Scan.ofChars (chars.dropWhile fun c => !endsText c)).tokens.foldlM (Reading.take root)) := by
  have silent (rest : List Char) (root : String) (reading : Reading) :
      (Scan.ofChars rest).tokens.foldlM (Reading.take root) reading =
        (reading.take root (.text [])).bind ((Scan.ofChars rest).tokens.foldlM (Reading.take root)) := by
    rw [take_no_text, Option.bind_some]
  cases chars with
  | nil => exact ⟨rfl, silent []⟩
  | cons c rest =>
      by_cases plain : endsText c = false
      · rw [List.takeWhile_cons_of_pos (by simp [plain]), List.dropWhile_cons_of_pos (by simp [plain]), scan_text plain]
        exact ⟨rfl, fun root reading => rfl⟩
      · rw [List.takeWhile_cons_of_neg (by simpa using plain), List.dropWhile_cons_of_neg (by simpa using plain)]
        exact ⟨rfl, silent _⟩

/-- Characters are read as the lexemes that make them. -/
theorem takes_lexed {chars : List Char} {tokens : List Token} (lexes : Lexes chars tokens) :
    (Scan.ofChars chars).failure = none ∧ ∀ (root : String) (reading : Reading),
      (Scan.ofChars chars).tokens.foldlM (Reading.take root) reading = tokens.foldlM (Reading.take root) reading := by
  induction lexes with
  | nothing => exact ⟨by rw [Scan.ofChars], fun root reading => by rw [Scan.ofChars]⟩
  | @lexeme piece chars token tokens first behind ih =>
      obtain ⟨clean, same⟩ := ih
      cases first with
      | @text content plain =>
          have run : ((piece ++ chars).takeWhile fun c => !endsText c) =
              piece ++ chars.takeWhile fun c => !endsText c := List.takeWhile_append_of_pos (by simpa using plain)
          have rest : ((piece ++ chars).dropWhile fun c => !endsText c) = chars.dropWhile fun c => !endsText c :=
            List.dropWhile_append_of_pos (by simpa using plain)
          obtain ⟨unfailing, whole⟩ := takes_run (piece ++ chars)
          obtain ⟨others, alone⟩ := takes_run chars
          rw [run, rest] at whole
          rw [rest, ← others] at unfailing
          refine ⟨unfailing.trans clean, fun root reading => ?_⟩
          rw [whole, take_text_append, Option.bind_assoc, Option.toList_some, List.singleton_append, List.foldlM_cons,
            Option.bind_eq_bind]
          congr 1
          funext middle
          rw [← alone, same]
      | @markup c rest token begins read =>
          obtain ⟨_, spelled, closed⟩ := read_token_delimited begins _ _ _ read
          rw [List.append_nil] at spelled
          subst spelled
          have read := closed chars
          cases token with
          | none =>
              rw [List.cons_append, Scan.of_chars_skipped read]
              exact ⟨clean, same⟩
          | some token =>
              rw [List.cons_append, Scan.of_chars_token read]
              refine ⟨clean, fun root reading => ?_⟩
              simp [Scan.cons, same]

/-! ## Parts that are read alike -/

variable {parts others : List Part}

theorem takes_inside (inside : reading.opened ≠ []) : (tokensOf parts).foldlM (Reading.take root) reading = some last ↔
    Resolves (tokensOf parts) ∧ AllUnmixed parts ∧ ∃ parent rest, reading.opened = parent :: rest ∧
      last = { reading with opened := Part.taking parent parts :: rest } := by
  obtain ⟨opened, isNil, object⟩ := reading
  cases opened with
  | nil => exact absurd rfl inside
  | cons parent rest =>
      rw [takes_parts, Part.fold_inside]
      constructor
      · rintro ⟨resolves, unmixed, rfl⟩
        exact ⟨resolves, unmixed, parent, rest, rfl, rfl⟩
      · rintro ⟨resolves, unmixed, _, _, same, rfl⟩
        cases same
        exact ⟨resolves, unmixed, rfl⟩

-- Within an element, parts with the same characters and the same elements are read alike.
theorem takes_exchanged (inside : reading.opened ≠ []) (resolves : Resolves (tokensOf others))
    (unmixed : AllUnmixed others) (characters : Part.charactersOf others = Part.charactersOf parts)
    (elements : Part.elementsOf others = Part.elementsOf parts)
    (taken : (tokensOf parts).foldlM (Reading.take root) reading = some last) :
    (tokensOf others).foldlM (Reading.take root) reading = some last := by
  obtain ⟨_, _, parent, rest, opened, rfl⟩ := (takes_inside inside).mp taken
  refine (takes_inside inside).mpr ⟨resolves, unmixed, parent, rest, opened, ?_⟩
  rw [Part.taking, Part.taking, characters, elements]

theorem opened_inside {before : List Token} {content : List Char}
    (taken : (before ++ .start content :: tokensOf parts).foldlM (Reading.take root) reading = some last) :
    last.opened ≠ [] := by
  obtain ⟨middle, _, behind⟩ := takes_append.mp taken
  rw [List.foldlM_cons, Option.bind_eq_bind, Option.bind_eq_some_iff] at behind
  obtain ⟨entering, started, behind⟩ := behind
  obtain ⟨entered, _, rfl⟩ := next_start_eq_ok.mp (take_eq_some.mp started).2
  obtain ⟨_, _, parent, rest, _, rfl⟩ := (takes_inside (List.cons_ne_nil _ _)).mp behind
  exact List.cons_ne_nil _ _

theorem opened_outside (taken : (tokensOf parts).foldlM (Reading.take root) {} = some last) : last.opened = [] := by
  obtain ⟨_, _, _, ⟨_, rfl⟩ | ⟨_, _, rfl⟩⟩ := (Part.fold_outside _ _ _ parts).mp (takes_parts.mp taken)
  · rfl
  · rfl

theorem takes_part {part : Part} : part.tokens.foldlM (Reading.take root) reading = some last ↔
    Resolves part.tokens ∧ part.Unmixed ∧ Part.Takes root part reading last := by
  have alone : tokensOf [part] = part.tokens := by simp [tokensOf]
  rw [← Part.fold_part, ← alone, takes_parts]

-- An element that holds elements is the same with more blanks between them.
theorem takes_spaced {front back : List Part} {content blanks : List Char} (spaces : blanks.all Text.isBlank = true)
    (holds : (front ++ back).any Part.isElement = true)
    (taken : (Part.element content (front ++ back)).tokens.foldlM (Reading.take root) reading = some last) :
    (Part.element content (front ++ .text blanks :: back)).tokens.foldlM (Reading.take root) reading = some last := by
  obtain ⟨resolves, ⟨blank, unmixed⟩, takes⟩ := takes_part.mp taken
  obtain ⟨first, rest, held⟩ : ∃ first rest, Part.elementsOf (front ++ back) = first :: rest := by
    rw [Part.any_is_element] at holds
    cases elements : Part.elementsOf (front ++ back) with
    | nil => simp [elements] at holds
    | cons first rest => exact ⟨first, rest, rfl⟩
  have elements : Part.elementsOf (front ++ .text blanks :: back) = Part.elementsOf (front ++ back) := by
    simp [Part.elements_of_append, Part.elementsOf, Part.element?]
  have same : (Part.element content (front ++ .text blanks :: back)).element? =
      (Part.element content (front ++ back)).element? := by
    rw [Part.element?, Part.element?, elements, held, Part.filled, Part.filled]
  refine takes_part.mpr ⟨?_, ⟨fun _ => ?_, ?_⟩, ?_⟩
  · simpa [Part.tokens, Part.tokens_of_append, Resolves] using resolves
  · have before := blank holds
    simp only [Part.charactersOf, List.flatMap_append, List.all_append, Bool.and_eq_true] at before
    simp only [Part.charactersOf, List.flatMap_append, List.flatMap_cons, List.all_append, Bool.and_eq_true]
    exact ⟨before.1, spaces, before.2⟩
  · rw [Part.unmixed_append] at unmixed
    exact (Part.unmixed_append _ _).mpr ⟨unmixed.1, trivial, unmixed.2⟩
  · obtain ⟨element, whole, _⟩ := @Part.element_of_tag (.element content (front ++ back)) content rfl
    rw [Part.takes_element rfl whole] at takes
    rw [Part.takes_element rfl (same.trans whole)]
    exact takes

end Document
end Companion.Xml
