import Companion.Proofs.Xml.Tags
import Companion.Xml.Event

/-!
Attributes as they may be written in a tag: in any order, with blanks and quotes of either kind, and with names in
place of characters. Main statements: `items_written`, they are read in the order in which they stand, and
`unescape_spelled`, the value of each one is what its characters stand for.
-/
set_option autoImplicit false

namespace Companion.Xml

namespace Attribute

-- What may stand between two quotes for a value: a character that is not markup for itself, and any character with a
-- name by its name.
inductive Spelled (quote : Char) : List Char → List Char → Prop
  | nothing : Spelled quote [] []
  | plain {c : Char} {raw value : List Char} (inside : c ≠ '<' ∧ c ≠ '&' ∧ c ≠ quote)
      (behind : Spelled quote raw value) : Spelled quote (c :: raw) (c :: value)
  | named {name : List Char} {c : Char} {raw value : List Char} (known : (name, c) ∈ predefined)
      (behind : Spelled quote raw value) : Spelled quote ('&' :: name ++ ';' :: raw) (c :: value)

def Blanks (chars : List Char) : Prop := ∀ c ∈ chars, isSpace c = true

instance (chars : List Char) : Decidable (Blanks chars) := decidable_of_iff _ List.all_eq_true

-- An attribute with the blanks that stand in front of it and around its sign.
structure Spelling where
  gap : List Char
  key : List Char
  ahead : List Char
  behind : List Char
  quote : Char
  raw : List Char
  value : List Char
  apart : gap ≠ []
  gapBlank : Blanks gap
  named : key ≠ []
  bare : ∀ c ∈ key, isKeyChar c = true ∧ c ≠ '>' ∧ isQuote c = false
  aheadBlank : Blanks ahead
  behindBlank : Blanks behind
  quoted : isQuote quote = true
  spelled : Spelled quote raw value

def Spelling.text (spelling : Spelling) : List Char :=
  spelling.gap ++ (spelling.key ++ (spelling.ahead ++ '=' :: (spelling.behind ++ spelling.quote ::
    (spelling.raw ++ [spelling.quote]))))

/-! ## Values -/

-- A run of characters and what ends it.
theorem take_until {inside : Char → Bool} {front tail : List Char} (run : ∀ c ∈ front, inside c = true)
    (ends : ∀ c ∈ tail.head?, inside c = false) :
    (front ++ tail).takeWhile inside = front ∧ (front ++ tail).dropWhile inside = tail := by
  rw [List.takeWhile_append_of_pos run, List.dropWhile_append_of_pos run]
  cases tail with
  | nil => exact ⟨List.append_nil front, rfl⟩
  | cons c more =>
      have stop := ends c rfl
      rw [List.takeWhile_cons_of_neg (by simp [stop]), List.dropWhile_cons_of_neg (by simp [stop]), List.append_nil]
      exact ⟨rfl, rfl⟩

theorem name_free {name : List Char} {c : Char} (known : (name, c) ∈ predefined) :
    entity? name = some c ∧ name.head? ≠ some '#' ∧
      ∀ letter ∈ name, endsReference letter = false ∧ isQuote letter = false := by
  have all : ∀ entry ∈ predefined, entity? entry.1 = some entry.2 ∧ entry.1.head? ≠ some '#' ∧
      (entry.1.all fun letter => !endsReference letter && !isQuote letter) = true := by decide
  obtain ⟨found, unnumbered, solid⟩ := all (name, c) known
  refine ⟨found, unnumbered, fun letter among => ?_⟩
  simpa using List.all_eq_true.mp solid letter among

theorem resolve_named {name : List Char} {c : Char} (known : (name, c) ∈ predefined) (start : Nat) :
    resolveAt start name = .ok c := by
  obtain ⟨found, unnumbered, _⟩ := name_free known
  rw [resolveAt]
  · rw [found]
  · rintro code rfl
    exact unnumbered rfl

theorem unescape_plain {c : Char} (plain : c ≠ '&') (total : Nat) (rest : List Char) :
    unescape total (c :: rest) = (unescape total rest).map (c :: ·) := by
  rw [unescape]
  · rfl
  · exact plain

theorem unescape_named {name : List Char} {c : Char} (known : (name, c) ∈ predefined) (total : Nat)
    (rest : List Char) : unescape total ('&' :: name ++ ';' :: rest) = (unescape total rest).map (c :: ·) := by
  have solid : ∀ letter ∈ name, (!endsReference letter) = true := by
    intro letter among
    rw [((name_free known).2.2 letter among).1]
    rfl
  have ends : ∀ c ∈ (';' :: rest).head?, (!endsReference c) = false := by
    intro c first
    cases first
    rfl
  obtain ⟨front, behind⟩ := take_until solid ends
  rw [List.cons_append, unescape]
  split
  · rename_i after same
    rw [behind] at same
    cases same
    rw [front, resolve_named known]
    rfl
  · rename_i other
    exact absurd behind (other rest)

theorem unescape_spelled {quote : Char} {raw value : List Char} (spelled : Spelled quote raw value) (total : Nat) :
    unescape total raw = .ok value := by
  induction spelled with
  | nothing => rw [unescape]
  | plain inside _ ih =>
      rw [unescape_plain inside.2.1, ih]
      rfl
  | named known _ ih =>
      rw [unescape_named known, ih]
      rfl

theorem quote_free {quote : Char} (quoted : isQuote quote = true) {raw value : List Char}
    (spelled : Spelled quote raw value) : ∀ c ∈ raw, c ≠ quote := by
  have other {c : Char} (plain : isQuote c = false) : c ≠ quote := by
    rintro rfl
    rw [quoted] at plain
    cases plain
  induction spelled with
  | nothing => exact nofun
  | plain inside _ ih => exact List.forall_mem_cons.mpr ⟨inside.2.2, ih⟩
  | named known _ ih =>
      rw [List.cons_append, List.forall_mem_cons, List.forall_mem_append, List.forall_mem_cons]
      exact ⟨other (by decide), fun letter among => other ((name_free known).2.2 letter among).2, other (by decide), ih⟩

-- A value that is escaped is spelled, whichever quotes stand around it.
theorem spelled_escape {quote : Char} (quoted : isQuote quote = true) (value : List Char) :
    Spelled quote (escape value) value := by
  induction value with
  | nil => exact .nothing
  | cons c rest ih =>
      rw [escape, List.flatMap_cons, escapeChar]
      cases found : predefined.find? fun entry => entry.2 = c with
      | some entry =>
          obtain ⟨name, letter⟩ := entry
          have same : letter = c := by simpa using List.find?_some found
          subst same
          have written := Spelled.named (List.mem_of_find?_eq_some found) ih
          simpa [escape] using written
      | none =>
          -- All characters that a value may not hold, both quotes among them, have names.
          have others := List.find?_eq_none.mp found
          have apart (entry : List Char × Char) (listed : entry ∈ predefined) : c ≠ entry.2 := by
            rintro rfl
            exact others entry listed (by simp)
          refine .plain ⟨?_, ?_, ?_⟩ ih
          · exact apart (['l', 't'], '<') (by decide)
          · exact apart (['a', 'm', 'p'], '&') (by decide)
          · simp only [isQuote, decide_eq_true_eq] at quoted
            rcases quoted with rfl | rfl
            · exact apart (['q', 'u', 'o', 't'], '"') (by decide)
            · exact apart (['a', 'p', 'o', 's'], '\'') (by decide)

/-! ## Tags -/

theorem quote_of_true {c : Char} : isQuote c = true ↔ c = '"' ∨ c = '\'' := by rw [isQuote, decide_eq_true_eq]

theorem solid_of_quote {c : Char} (quoted : isQuote c = true) : isSpace c = false := by
  rcases quote_of_true.mp quoted with rfl | rfl <;> decide

-- Blanks and keys leave the quotes in a tag as they are.
def Bare (chars : List Char) : Prop := ∀ c ∈ chars, c ≠ '>' ∧ isQuote c = false

theorem bare_blanks {gap : List Char} (blank : Blanks gap) : Bare gap := by
  intro c among
  have spaced := blank c among
  refine ⟨?_, ?_⟩
  · rintro rfl
    cases spaced
  · rw [← Bool.not_eq_true]
    intro quoted
    rw [solid_of_quote quoted] at spaced
    cases spaced

theorem within_bare {chars : List Char} (bare : Bare chars) : Within none chars ∧ quoteBehind none chars = none := by
  refine bare_name fun c among => ?_
  obtain ⟨open_end, plain⟩ := bare c among
  rw [isQuote, decide_eq_false_iff_not, not_or] at plain
  exact ⟨open_end, plain⟩

theorem within_quotes {quote : Char} {raw : List Char} (free : ∀ c ∈ raw, c ≠ quote) :
    Within (some quote) raw ∧ quoteBehind (some quote) raw = some quote := by
  induction raw with
  | nil => exact ⟨trivial, rfl⟩
  | cons c rest ih =>
      rw [List.forall_mem_cons] at free
      have still : quoteAfter (some quote) c = some quote := by
        rw [quoteAfter, if_neg free.1]
      obtain ⟨within, inside⟩ := ih free.2
      refine ⟨⟨by rintro ⟨_, ⟨⟩⟩, ?_⟩, ?_⟩
      · rw [still]
        exact within
      · rw [quoteBehind, List.foldl_cons, still]
        exact inside

-- Characters that do not end a tag and close each quote that they open.
def Closed (chars : List Char) : Prop := Within none chars ∧ quoteBehind none chars = none

theorem closed_append {front back : List Char} (first : Closed front) (second : Closed back) :
    Closed (front ++ back) := by
  refine ⟨within_append.mpr ⟨first.1, ?_⟩, ?_⟩
  · rw [first.2]
    exact second.1
  · rw [quote_behind_append, first.2]
    exact second.2

theorem closed_single {c : Char} (inside : c ≠ '>') (plain : isQuote c = false) : Closed [c] := by
  refine within_bare fun other among => ?_
  rw [List.mem_singleton.mp among]
  exact ⟨inside, plain⟩

theorem closed_quotes {quote : Char} (quoted : isQuote quote = true) {raw : List Char} (free : ∀ c ∈ raw, c ≠ quote) :
    Closed (quote :: (raw ++ [quote])) := by
  have opens : quoteAfter none quote = some quote := if_pos (quote_of_true.mp quoted)
  have closes : quoteAfter (some quote) quote = none := if_pos rfl
  obtain ⟨within, inside⟩ := within_quotes free
  refine ⟨⟨?_, ?_⟩, ?_⟩
  · rintro ⟨rfl, _⟩
    cases quoted
  · rw [opens, within_append, inside]
    exact ⟨within, by rintro ⟨_, ⟨⟩⟩, trivial⟩
  · rw [quoteBehind, List.foldl_cons, opens, List.foldl_append]
    rw [quoteBehind] at inside
    rw [inside, List.foldl_cons, closes]
    rfl

namespace Spelling

variable (spelling : Spelling)

theorem bare_key : Bare spelling.key := fun c among => (spelling.bare c among).2

theorem closed : Closed spelling.text := by
  have text : spelling.text = spelling.gap ++ (spelling.key ++ (spelling.ahead ++ (['='] ++ (spelling.behind ++
      spelling.quote :: (spelling.raw ++ [spelling.quote]))))) := rfl
  rw [text]
  refine closed_append (within_bare (bare_blanks spelling.gapBlank)) ?_
  refine closed_append (within_bare spelling.bare_key) ?_
  refine closed_append (within_bare (bare_blanks spelling.aheadBlank)) ?_
  refine closed_append (closed_single (by decide) (by decide)) ?_
  refine closed_append (within_bare (bare_blanks spelling.behindBlank)) ?_
  exact closed_quotes spelling.quoted (quote_free spelling.quoted spelling.spelled)

end Spelling

theorem closed_texts (spellings : List Spelling) : Closed (spellings.flatMap Spelling.text) := by
  induction spellings with
  | nil => exact ⟨trivial, rfl⟩
  | cons spelling rest ih =>
      rw [List.flatMap_cons]
      exact closed_append spelling.closed ih

/-! ## Reading attributes -/

theorem drop_blanks {gap : List Char} (blank : Blanks gap) (rest : List Char) :
    dropSpaces (gap ++ rest) = dropSpaces rest := List.dropWhile_append_of_pos blank

theorem drop_solid {c : Char} (solid : isSpace c = false) (rest : List Char) : dropSpaces (c :: rest) = c :: rest :=
  List.dropWhile_cons_of_neg (by simp [solid])

theorem read_value_quoted {behind : List Char} (blank : Blanks behind) {quote : Char} (quoted : isQuote quote = true)
    {raw : List Char} (free : ∀ c ∈ raw, c ≠ quote) (rest : List Char) :
    readValue (behind ++ quote :: (raw ++ quote :: rest)) = .quoted raw rest := by
  have inside : ∀ c ∈ raw, decide (c ≠ quote) = true := fun c among => decide_eq_true (free c among)
  have ends : ∀ c ∈ (quote :: rest).head?, decide (c ≠ quote) = false := by
    intro c first
    cases first
    exact decide_eq_false fun other => other rfl
  obtain ⟨taken, left⟩ := take_until inside ends
  rw [readValue, drop_blanks blank, drop_solid (solid_of_quote quoted)]
  dsimp only
  rw [if_pos quoted, left, taken]

-- What follows a key ends it.
theorem ends_key {ahead : List Char} (blank : Blanks ahead) (rest : List Char) :
    ∀ c ∈ (ahead ++ '=' :: rest).head?, isKeyChar c = false := by
  intro c first
  cases ahead with
  | nil =>
      cases first
      rfl
  | cons gap more =>
      cases first
      rw [isKeyChar, blank c List.mem_cons_self]
      rfl

theorem next_written (spelling : Spelling) {unique : Bool} {seen : Seen}
    (fresh : unique = true → ∀ earlier ∈ seen, earlier.1 ≠ spelling.key) (total : Nat) (rest : List Char) :
    ∃ position, next unique total seen (spelling.text ++ rest) =
      some (.ok ⟨spelling.key, spelling.raw⟩, (spelling.key, position) :: seen, rest) := by
  obtain ⟨first, others, key⟩ := List.exists_cons_of_ne_nil spelling.named
  have bare := fun c among => (spelling.bare c among).1
  rw [key, List.forall_mem_cons] at bare
  have solid : isSpace first = false := by
    have letter := bare.1
    rw [isKeyChar, Bool.and_eq_true] at letter
    simpa using letter.1
  have text : spelling.text ++ rest = spelling.gap ++ first :: (others ++ (spelling.ahead ++ '=' ::
      (spelling.behind ++ spelling.quote :: (spelling.raw ++ spelling.quote :: rest)))) := by
    simp [Spelling.text, key]
  obtain ⟨taken, left⟩ := take_until bare.2 (ends_key spelling.aheadBlank
    (spelling.behind ++ spelling.quote :: (spelling.raw ++ spelling.quote :: rest)))
  have unseen : (seen.find? fun earlier => unique && earlier.1 = first :: others) = none := by
    rw [List.find?_eq_none]
    intro earlier among same
    rw [Bool.and_eq_true, decide_eq_true_eq, ← key] at same
    exact fresh same.1 earlier among same.2
  rw [next, text, drop_blanks spelling.gapBlank, drop_solid solid]
  dsimp only
  rw [left, drop_blanks spelling.aheadBlank, drop_solid (by decide), taken, unseen, key]
  simp only [read_value_quoted spelling.behindBlank spelling.quoted (quote_free spelling.quoted spelling.spelled)]
  exact ⟨_, rfl⟩

theorem items_of_next {unique : Bool} {total : Nat} {seen more : Seen} {chars rest : List Char} {item : Item}
    (read : next unique total seen chars = some (item, more, rest)) :
    items unique total seen chars = item :: items unique total more rest := by
  rw [items]
  split
  · rename_i ended
    rw [read] at ended
    cases ended
  · rename_i found
    rw [read] at found
    cases found
    rfl

theorem items_of_blanks {tail : List Char} (blank : Blanks tail) (unique : Bool) (total : Nat) (seen : Seen) :
    items unique total seen tail = [] := by
  have nothing : dropSpaces tail = [] := List.dropWhile_eq_nil_iff.mpr blank
  have ended : next unique total seen tail = none := by
    rw [next, nothing]
  rw [items]
  split
  · rfl
  · rename_i found
    rw [ended] at found
    cases found

-- The attributes that are read from some that were written, in the same order.
def Spelling.item (spelling : Spelling) : Item := .ok ⟨spelling.key, spelling.raw⟩

theorem items_written {spellings : List Spelling} {unique : Bool} {seen : Seen}
    (once : unique = true → (spellings.map Spelling.key).Nodup)
    (fresh : unique = true → ∀ spelling ∈ spellings, ∀ earlier ∈ seen, earlier.1 ≠ spelling.key) (total : Nat)
    {tail : List Char} (blank : Blanks tail) :
    items unique total seen (spellings.flatMap Spelling.text ++ tail) = spellings.map Spelling.item := by
  induction spellings generalizing seen with
  | nil => exact items_of_blanks blank unique total seen
  | cons spelling rest ih =>
      obtain ⟨position, read⟩ := next_written spelling
        (fun checks => fresh checks spelling List.mem_cons_self) total (rest.flatMap Spelling.text ++ tail)
      rw [List.flatMap_cons, List.append_assoc, items_of_next read, List.map_cons]
      -- The key just read joins those seen; that it does not come again is what `once` says.
      refine congrArg _ (ih ?_ ?_)
      · exact fun checks => (List.nodup_cons.mp (once checks)).2
      · intro checks other among earlier listed
        rcases List.mem_cons.mp listed with rfl | before
        · intro same
          exact (List.nodup_cons.mp (once checks)).1 (List.mem_map.mpr ⟨other, among, same.symm⟩)
        · exact fresh checks other (List.mem_cons_of_mem spelling among) earlier before

-- The content of a tag with a name and attributes.
def tagText (name : List Char) (spellings : List Spelling) (tail : List Char) : List Char :=
  name ++ (spellings.flatMap Spelling.text ++ tail)

theorem head_of_texts {spellings : List Spelling} {tail : List Char} (blank : Blanks tail) :
    ∀ c ∈ (spellings.flatMap Spelling.text ++ tail).head?, isSpace c = true := by
  intro c first
  cases spellings with
  | nil => exact blank c (List.mem_of_mem_head? first)
  | cons spelling rest =>
      obtain ⟨space, gap, apart⟩ := List.exists_cons_of_ne_nil spelling.apart
      have text : spelling.text = space :: (gap ++ (spelling.key ++ (spelling.ahead ++ '=' :: (spelling.behind ++
          spelling.quote :: (spelling.raw ++ [spelling.quote]))))) := by
        rw [Spelling.text, apart, List.cons_append]
      rw [List.flatMap_cons, text] at first
      cases first
      exact spelling.gapBlank c (by rw [apart]; exact List.mem_cons_self)

section
variable {name tail : List Char} {spellings : List Spelling} (spaceless : ∀ c ∈ name, isSpace c = false)
  (blank : Blanks tail)

include spaceless blank

theorem name_of_tag_text :
    tagName (tagText name spellings tail) = name ∧
      (tagText name spellings tail).dropWhile (fun c => !isSpace c) = spellings.flatMap Spelling.text ++ tail := by
  have solid : ∀ c ∈ name, (!isSpace c) = true := by
    intro c among
    rw [spaceless c among]
    rfl
  have ends : ∀ c ∈ (spellings.flatMap Spelling.text ++ tail).head?, (!isSpace c) = false := by
    intro c first
    rw [head_of_texts blank c first]
    rfl
  exact take_until solid ends

theorem of_tag_written {unique : Bool} (once : unique = true → (spellings.map Spelling.key).Nodup) :
    ofTag unique (tagText name spellings tail) = spellings.map Spelling.item := by
  rw [ofTag, (name_of_tag_text spaceless blank).2]
  exact items_written once (by simp) _ blank

end

end Attribute

-- A tag without prefixes binds none.
theorem Binding.of_tag_written {name tail : List Char} {spellings : List Attribute.Spelling}
    (spaceless : ∀ c ∈ name, isSpace c = false) (blank : Attribute.Blanks tail)
    (unbound : ∀ spelling ∈ spellings, Binding.prefixOf? spelling.key = none) :
    Binding.ofTag (Attribute.tagText name spellings tail) = .ok [] := by
  have read : Attribute.ofTag false (Attribute.tagText name spellings tail) =
      spellings.map Attribute.Spelling.item := Attribute.of_tag_written spaceless blank nofun
  rw [Binding.ofTag, read]
  clear read
  induction spellings with
  | nil => rfl
  | cons spelling rest ih =>
      rw [List.forall_mem_cons] at unbound
      have binds_none : Binding.ofAttribute? ⟨spelling.key, spelling.raw⟩ = none := by
        rw [Binding.ofAttribute?, unbound.1]
        rfl
      rw [List.map_cons, Attribute.Spelling.item, Binding.ofItems, binds_none]
      exact ih unbound.2

/-! ## Elements without content -/

-- The end of an element without content: in its tag, or in one of its own.
inductive Closing
  | short
  | long (gap : List Char) (blank : Attribute.Blanks gap)

def Closing.text (name : List Char) : Closing → List Char
  | .short => ['/', '>']
  | .long gap _ => '>' :: '<' :: '/' :: (name ++ gap ++ ['>'])

theorem closed_tag {content : List Char} (closed : Attribute.Closed content) (rest : List Char) :
    tagContent none (content ++ '>' :: rest) = .ok (content, rest) := by
  rw [tag_content_within closed.1, closed.2, tag_content_closed]
  simp [Except.map]

theorem tag_of_stop_blank {name gap : List Char} (named : IsTagName name) (blank : Attribute.Blanks gap) :
    tagOf ('/' :: (name ++ gap)) = .stop name := by
  have trimmed : ((name ++ gap).reverse.dropWhile isSpace).reverse = name := by
    obtain ⟨front, last, whole⟩ := (List.eq_nil_or_concat name).resolve_left named.whole
    have solid : isSpace last = false := named.spaceless last (by simp [whole])
    have blank_back : ∀ c ∈ gap.reverse, isSpace c = true := fun c among => blank c (List.mem_reverse.mp among)
    rw [List.reverse_append, List.dropWhile_append_of_pos blank_back, whole, List.concat_eq_append,
      List.reverse_concat, List.dropWhile_cons_of_neg (by simp [solid]), List.reverse_cons, List.reverse_reverse]
  rw [tagOf, trimmed, if_neg named.whole]

theorem slashless_append {front back : List Char} (first : front.getLast? ≠ some '/')
    (second : back.getLast? ≠ some '/') : (front ++ back).getLast? ≠ some '/' := by
  rw [List.getLast?_append]
  cases last : back.getLast? with
  | none =>
      rw [Option.none_or]
      exact first
  | some c =>
      rw [Option.some_or, ← last]
      exact second

theorem Attribute.Spelling.slashless (spelling : Attribute.Spelling) : spelling.text.getLast? ≠ some '/' := by
  have text : spelling.text = spelling.gap ++ (spelling.key ++ (spelling.ahead ++ '=' :: (spelling.behind ++
      spelling.quote :: spelling.raw))) ++ [spelling.quote] := by
    simp [text]
  rw [text, List.getLast?_concat]
  intro same
  have quoted := spelling.quoted
  rw [Option.some.inj same] at quoted
  cases quoted

theorem IsTagName.begins_all {name : List Char} (named : IsTagName name) (rest : List Char) :
    ∀ first ∈ (name ++ rest).head?, first ≠ '!' ∧ first ≠ '?' ∧ first ≠ '/' := by
  intro first begun
  obtain ⟨initial, others, whole⟩ := List.exists_cons_of_ne_nil named.whole
  refine named.begins first ?_
  rw [whole] at begun ⊢
  exact begun

theorem closed_slash : Attribute.Closed ['/'] := Attribute.closed_single (by decide) (by decide)

-- The content of a tag with a name, whether or not a slash follows it.
structure Opens (name content : List Char) : Prop where
  closed : Attribute.Closed content
  ends : content.getLast? ≠ some '/'
  called : tagName content = name
  begins : ∀ rest, ∀ first ∈ (content ++ rest).head?, first ≠ '!' ∧ first ≠ '?' ∧ first ≠ '/'

theorem opens_of_text {name tail : List Char} (named : IsTagName name) (blank : Attribute.Blanks tail)
    (spellings : List Attribute.Spelling) : Opens name (Attribute.tagText name spellings tail) where
  closed := Attribute.closed_append ⟨named.within, named.closed⟩ (Attribute.closed_append
    (Attribute.closed_texts spellings) (Attribute.within_bare (Attribute.bare_blanks blank)))
  ends := by
    have texts : (spellings.flatMap Attribute.Spelling.text).getLast? ≠ some '/' := by
      induction spellings with
      | nil => exact nofun
      | cons spelling rest ih =>
          rw [List.flatMap_cons]
          exact slashless_append spelling.slashless ih
    refine slashless_append named.ends (slashless_append texts fun last => ?_)
    have spaced := blank '/' (List.mem_of_getLast? last)
    cases spaced
  called := (Attribute.name_of_tag_text named.spaceless blank).1
  begins rest := by
    rw [Attribute.tagText, List.append_assoc]
    exact named.begins_all _

namespace Opens

variable {name content : List Char} (opens : Opens name content)

include opens

theorem unmarked (rest : List Char) : ∀ first ∈ (content ++ rest).head?, first ≠ '!' ∧ first ≠ '?' :=
  fun first begun => ⟨(opens.begins rest first begun).1, (opens.begins rest first begun).2.1⟩

theorem notStop (rest : List Char) : ∀ first ∈ (content ++ rest).head?, first ≠ '/' :=
  fun first begun => (opens.begins rest first begun).2.2

theorem scan_short : Scan.ofChars ('<' :: (content ++ ['/', '>'])) = ⟨[.empty content], none⟩ := by
  have ended : tagContent none (content ++ ['/', '>']) = .ok (content ++ ['/'], []) := by
    have slashed := closed_tag (Attribute.closed_append opens.closed closed_slash) []
    rwa [List.append_assoc] at slashed
  rw [scan_tag (opens.unmarked _) ended, tag_of_empty (opens.notStop _), Scan.ofChars]
  rfl

theorem scan_long (named : IsTagName name) {gap : List Char} (blank : Attribute.Blanks gap) :
    Scan.ofChars ('<' :: (content ++ '>' :: '<' :: '/' :: (name ++ gap ++ ['>']))) =
      ⟨[.start content, .stop name], none⟩ := by
  have stop : Attribute.Closed ('/' :: (name ++ gap)) :=
    Attribute.closed_append closed_slash (Attribute.closed_append ⟨named.within, named.closed⟩
      (Attribute.within_bare (Attribute.bare_blanks blank)))
  have start : ∀ first ∈ ('/' :: (name ++ gap ++ ['>'])).head?, first ≠ '!' ∧ first ≠ '?' := by simp
  have last : Scan.ofChars ('<' :: '/' :: (name ++ gap ++ ['>'])) = ⟨[.stop name], none⟩ := by
    rw [scan_tag start (closed_tag stop []), tag_of_stop_blank named blank, Scan.ofChars]
    rfl
  have kind : tagOf content = .start content := by
    have whole := opens.notStop []
    rw [List.append_nil] at whole
    rw [tag_of_content whole, if_neg opens.ends]
  rw [scan_tag (opens.unmarked _) (closed_tag opens.closed _), kind, last]
  rfl

-- However it is written, an element without content is its start and its end.
theorem pieces (named : IsTagName name) (closing : Closing) :
    ∃ tokens, Scan.ofText (String.ofList ('<' :: (content ++ closing.text name))) = ⟨tokens, none⟩ ∧
      tokens.flatMap Piece.ofToken = [.start content, .stop name] := by
  have unchanged (rest : List Char) : Scan.withoutMark ('<' :: rest) = '<' :: rest := rfl
  rw [Scan.ofText, String.toList_ofList, unchanged]
  cases closing with
  | short =>
      rw [Closing.text, opens.scan_short]
      refine ⟨[.empty content], rfl, ?_⟩
      rw [List.flatMap_singleton, Piece.ofToken, opens.called]
  | long gap blank =>
      rw [Closing.text, opens.scan_long named blank]
      refine ⟨[.start content, .stop name], ?_, rfl⟩
      rw [Scan.balance, opens.called, Scan.balance, if_pos rfl]
      rfl

theorem reader (named : IsTagName name) (binds : Binding.ofTag content = .ok []) (closing : Closing) :
    Reader.ofText (String.ofList ('<' :: (content ++ closing.text name))) =
      ⟨[.start content, .stop name], none, .ok [[]]⟩ := by
  obtain ⟨tokens, scanned, pieces⟩ := opens.pieces named closing
  have entered : Scope.enter [] [.start content, .stop name] = .ok [[]] := by
    rw [Scope.enter, binds]
    rfl
  rw [Reader.ofText, scanned, pieces, Reader.before, entered]

end Opens

end Companion.Xml
