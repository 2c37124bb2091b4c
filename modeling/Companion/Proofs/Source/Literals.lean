import Mathlib.Algebra.Group.Nat.Even
import Mathlib.Data.List.DropRight
import Companion.Proofs.Source.Comments
import Companion.Proofs.Source.CSharp
import Companion.Proofs.Text.Utf8
import Companion.Text.Numeral

/-!
Regular string literals as C# reads them. Main statement: `literal_read_back`, the literal written for a text is one, and
stands for that text, exactly if no character of the text ends a line.
-/
set_option autoImplicit false

namespace Companion.Source.CSharp

/-! ## Code units -/

-- The UTF-16 code units of a code point, two surrogates for the higher ones.
def codeUnits (code : Nat) : List UInt16 :=
  if code < 0x10000 then [.ofNat code]
  else [.ofNat (0xD800 + (code - 0x10000) / 0x400), .ofNat (0xDC00 + (code - 0x10000) % 0x400)]

def utf16 (chars : List Char) : List UInt16 := chars.flatMap fun c => codeUnits c.toNat

theorem unit_inj {m n : Nat} (small : m < 0x10000) (otherSmall : n < 0x10000)
    (same : UInt16.ofNat m = UInt16.ofNat n) : m = n := by
  have numbers := congrArg UInt16.toNat same
  rw [UInt16.toNat_ofNat_of_lt' small, UInt16.toNat_ofNat_of_lt' otherSmall] at numbers
  exact numbers

-- A character is known by its code units, whatever comes behind them.
theorem code_units_known {c d : Char} {rest more : List UInt16}
    (same : codeUnits c.toNat ++ rest = codeUnits d.toNat ++ more) : c = d ∧ rest = more := by
  have scalar := Utf8.scalar_range c
  have otherScalar := Utf8.scalar_range d
  rw [codeUnits, codeUnits] at same
  by_cases low : c.toNat < 0x10000
  · rw [if_pos low] at same
    by_cases otherLow : d.toNat < 0x10000
    · rw [if_pos otherLow] at same
      obtain ⟨unit, behind⟩ := List.cons.inj same
      exact ⟨Char.toNat_inj.mp (unit_inj low otherLow unit), behind⟩
    · rw [if_neg otherLow] at same
      have unit := unit_inj low (by omega) (List.cons.inj same).1
      omega
  · rw [if_neg low] at same
    by_cases otherLow : d.toNat < 0x10000
    · rw [if_pos otherLow] at same
      have unit := unit_inj (by omega) otherLow (List.cons.inj same).1
      omega
    · rw [if_neg otherLow] at same
      obtain ⟨high, behind⟩ := List.cons.inj same
      obtain ⟨lower, behind⟩ := List.cons.inj behind
      have highs := unit_inj (by omega) (by omega) high
      have lowers := unit_inj (by omega) (by omega) lower
      exact ⟨Char.toNat_inj.mp (by omega), behind⟩

theorem utf16_inj {chars others : List Char} (same : utf16 chars = utf16 others) : chars = others := by
  have units (c : Char) : codeUnits c.toNat ≠ [] := by
    rw [codeUnits]
    split <;> exact List.cons_ne_nil _ _
  rw [utf16, utf16] at same
  induction chars generalizing others with
  | nil =>
      cases others with
      | nil => rfl
      | cons d more => exact absurd (List.append_eq_nil_iff.mp same.symm).1 (units d)
  | cons c rest ih =>
      cases others with
      | nil => exact absurd (List.append_eq_nil_iff.mp same).1 (units c)
      | cons d more =>
          obtain ⟨rfl, behind⟩ := code_units_known same
          rw [ih behind]

/-! ## Reading -/

-- The letters of the short escapes, with the code points that they stand for.
def shortEscapes : List (Char × Nat) := [
  ('\'', 0x27), ('"', 0x22), ('\\', 0x5C), ('0', 0x0), ('a', 0x7), ('b', 0x8), ('f', 0xC), ('n', 0xA),
  ('r', 0xD), ('t', 0x9), ('v', 0xB)]

-- The hexadecimal digits that lead a text, at most so many.
def leadingDigits : Nat → List Char → List Nat
  | most + 1, c :: rest =>
    match Text.Numeral.digit? 16 c with
    | some digit => digit :: leadingDigits most rest
    | none => []
  | _, _ => []

-- An escape by number, and its length with the letter in front of the digits.
def numbered? (least most : Nat) (rest : List Char) : Option (List UInt16 × Nat) :=
  let digits := leadingDigits most rest
  let code := digits.foldl (fun code digit => code * 16 + digit) 0
  if least ≤ digits.length ∧ code < 0x110000 then some (codeUnits code, digits.length + 1) else none

-- What stands behind a backslash: the code units that it means, and how many characters it takes.
def escape? : List Char → Option (List UInt16 × Nat)
  | [] => none
  | 'x' :: rest => numbered? 1 4 rest
  | 'u' :: rest => numbered? 4 4 rest
  | 'U' :: rest => numbered? 8 8 rest
  | c :: _ => (shortEscapes.lookup c).map fun code => (codeUnits code, 1)

-- What was read, with code units in front of it.
def behindUnits (units : List UInt16) (read : Option (List UInt16 × List Char)) : Option (List UInt16 × List Char) :=
  read.map fun (others, behind) => (units ++ others, behind)

-- What text means up to the quote that ends it, and what comes behind the quote. The characters of an escape are
-- passed over; a line end stands in no literal.
def readInside : Nat → List Char → Option (List UInt16 × List Char)
  | _, [] => none
  | passed + 1, _ :: rest => readInside passed rest
  | 0, c :: rest =>
    if c = '"' then some ([], rest)
    else if c ∈ lineEnds then none
    else if c = '\\' then
      match escape? rest with
      | some (units, length) => behindUnits units (readInside length rest)
      | none => none
    else behindUnits (codeUnits c.toNat) (readInside 0 rest)

-- The literal that begins a text: what it means, and what comes behind it.
def readLiteral : List Char → Option (List UInt16 × List Char)
  | '"' :: rest => readInside 0 rest
  | _ => none

theorem literal_char_cases (c : Char) :
    c ∈ ['\\', '"'] ∧ literalChar c = ['\\', c] ∨ c ∉ ['\\', '"'] ∧ literalChar c = [c] := by
  rw [literal_char_eq, Spelling.escaped]
  by_cases special : c ∈ ['\\', '"']
  · exact .inl ⟨special, if_pos special⟩
  · exact .inr ⟨special, if_neg special⟩

theorem mem_literal_char {c d : Char} (other : c ≠ '\\') : c ∈ literalChar d ↔ c = d := by
  rcases literal_char_cases d with ⟨_, escaped⟩ | ⟨_, single⟩
  · rw [escaped, List.mem_pair]
    exact or_iff_right other
  · rw [single, List.mem_singleton]

theorem read_inside_char {c : Char} (solid : c ∉ lineEnds) (rest : List Char) :
    readInside 0 (literalChar c ++ rest) = behindUnits (codeUnits c.toNat) (readInside 0 rest) := by
  rcases literal_char_cases c with ⟨special, escaped⟩ | ⟨plain, single⟩
  · rw [escaped]
    rcases List.mem_pair.mp special with rfl | rfl
    · rfl
    · rfl
  · obtain ⟨backslash, quote⟩ := not_or.mp (List.mem_pair.not.mp plain)
    rw [single, List.singleton_append, readInside, if_neg quote, if_neg solid, if_neg backslash]

theorem plain_of_line_end {c : Char} (ends : c ∈ lineEnds) : c ∉ ['\\', '"'] := by
  intro special
  rcases List.mem_pair.mp special with rfl | rfl
  · exact absurd ends (by decide)
  · exact absurd ends (by decide)

theorem read_inside_line_end {c : Char} (ends : c ∈ lineEnds) (rest : List Char) :
    readInside 0 (literalChar c ++ rest) = none := by
  rcases literal_char_cases c with ⟨special, _⟩ | ⟨plain, single⟩
  · exact absurd special (plain_of_line_end ends)
  · have quote := (not_or.mp (List.mem_pair.not.mp plain)).2
    rw [single, List.singleton_append, readInside, if_neg quote, if_pos ends]

theorem read_inside_literal {chars : List Char} (flat : ∀ c ∈ chars, c ∉ lineEnds) (rest : List Char) :
    readInside 0 (chars.flatMap literalChar ++ '"' :: rest) = some (utf16 chars, rest) := by
  induction chars with
  | nil => rfl
  | cons c others ih =>
      obtain ⟨solid, behind⟩ := List.forall_mem_cons.mp flat
      rw [List.flatMap_cons, List.append_assoc, read_inside_char solid, ih behind]
      rfl

theorem read_inside_broken {chars : List Char} (broken : ∃ c ∈ chars, c ∈ lineEnds) (rest : List Char) :
    readInside 0 (chars.flatMap literalChar ++ rest) = none := by
  induction chars with
  | nil =>
      obtain ⟨_, member, _⟩ := broken
      cases member
  | cons c others ih =>
      rw [List.flatMap_cons, List.append_assoc]
      by_cases ends : c ∈ lineEnds
      · exact read_inside_line_end ends _
      · have behind := ((List.exists_mem_cons_iff _ _ _).mp broken).resolve_left ends
        rw [read_inside_char ends, ih behind]
        rfl

/-! ## Quotes inside -/

-- How many backslashes stand at the end of a text.
def backslashes (front : List Char) : Nat := (front.rtakeWhile (· = '\\')).length

-- A character behind such a text is escaped: of the backslashes at its end, all but one pair off.
def Escapes (front : List Char) : Prop := Odd (backslashes front)

theorem backslashes_append (front back : List Char) :
    backslashes (front ++ back) =
      if backslashes back = back.length then back.length + backslashes front else backslashes back := by
  simp only [backslashes, List.rtakeWhile, List.length_reverse, List.reverse_append, List.takeWhile_append]
  split
  · rw [List.length_append, List.length_reverse]
  · rfl

-- What stands far in front is of no account if it ends in whole pairs of backslashes.
theorem escapes_append {front : List Char} (even : Even (backslashes front)) (back : List Char) :
    Escapes (front ++ back) ↔ Escapes back := by
  rw [Escapes, Escapes, backslashes_append]
  split
  · rename_i all
    rw [all, Nat.odd_add]
    exact iff_true_right even
  · exact Iff.rfl

theorem even_literal_char (c : Char) : Even (backslashes (literalChar c)) := by
  rcases literal_char_cases c with ⟨special, escaped⟩ | ⟨plain, single⟩
  · rw [escaped]
    rcases List.mem_pair.mp special with rfl | rfl
    · exact ⟨1, rfl⟩
    · exact ⟨0, rfl⟩
  · have other : ¬c = '\\' := (not_or.mp (List.mem_pair.not.mp plain)).1
    refine ⟨0, ?_⟩
    simp [single, backslashes, List.rtakeWhile, other]

theorem unescaped_behind (chars : List Char) : ¬Escapes (chars.flatMap literalChar) := by
  induction chars with
  | nil => exact Nat.not_odd_zero
  | cons c others ih =>
      rw [List.flatMap_cons, escapes_append (even_literal_char c)]
      exact ih

-- A quote that is written for one character stands right behind the backslash in front of it.
theorem quote_in_char {c : Char} {front back : List Char} (found : literalChar c = front ++ '"' :: back) :
    front = ['\\'] := by
  rcases literal_char_cases c with ⟨_, escaped⟩ | ⟨plain, single⟩
  · rw [escaped] at found
    cases front with
    | nil => cases found
    | cons first others =>
        obtain ⟨rfl, behind⟩ := List.cons.inj found
        cases others with
        | nil => rfl
        | cons next more => exact absurd (List.cons.inj behind).2.symm (List.append_ne_nil_of_right_ne_nil _ nofun)
  · rw [single] at found
    have quote : '"' ∈ [c] := found ▸ List.mem_append_right _ List.mem_cons_self
    rw [List.mem_singleton] at quote
    exact absurd (List.mem_pair.mpr (.inr quote.symm)) plain

theorem quote_escaped {chars front back : List Char} (found : chars.flatMap literalChar = front ++ '"' :: back) :
    Escapes front := by
  induction chars generalizing front with
  | nil => exact absurd found.symm (List.append_ne_nil_of_right_ne_nil _ nofun)
  | cons c others ih =>
      rw [List.flatMap_cons] at found
      -- The quote stands behind what is written for the first character, or it is part of that.
      rcases List.append_eq_append_iff.mp found with ⟨more, rfl, behind⟩ | ⟨part, own, behind⟩
      · exact (escapes_append (even_literal_char c) more).mpr (ih behind)
      · cases part with
        | nil =>
            have next : others.flatMap literalChar = [] ++ '"' :: back := behind.symm
            exact absurd (ih next) Nat.not_odd_zero
        | cons quote inner =>
            obtain ⟨rfl, _⟩ := List.cons.inj behind
            rw [quote_in_char own]
            exact ⟨0, rfl⟩

/-! ## Literals -/

-- A text with something else in each place of a character.
def replaced (c : Char) (written : List Char) (text : List Char) : List Char :=
  text.flatMap fun d => if d = c then written else [d]

-- What stands between the quotes: the backslashes are doubled first, and the quotes escaped then.
def inside (text : String) : List Char := replaced '"' ['\\', '"'] (replaced '\\' ['\\', '\\'] text.toList)

theorem inside_eq (text : String) : inside text = text.toList.flatMap literalChar := by
  rw [inside, replaced, replaced, List.flatMap_assoc]
  congr 1
  funext c
  rw [literal_char_eq, Spelling.escaped]
  by_cases backslash : c = '\\'
  · subst backslash
    rfl
  · by_cases quote : c = '"'
    · subst quote
      rfl
    · simp [backslash, quote]

theorem literal_chars (text : String) : (expr (.literal text)).toList = '"' :: inside text ++ ['"'] := by
  rw [expr, literal, inside_eq]
  simp

theorem line_end_inside {c : Char} (ends : c ∈ lineEnds) (text : String) : c ∈ inside text ↔ c ∈ text.toList := by
  have other := (not_or.mp (List.mem_pair.not.mp (plain_of_line_end ends))).1
  rw [inside_eq, List.mem_flatMap]
  simp only [mem_literal_char other, exists_eq_right']

-- A text none of whose characters ends a line.
def Unbroken (text : String) : Prop := ∀ c ∈ text.toList, c ∉ lineEnds

instance (text : String) : Decidable (Unbroken text) := List.decidableBAll _ _

theorem literal_read (text : String) (rest : List Char) :
    readLiteral ((expr (.literal text)).toList ++ rest) =
      if Unbroken text then some (utf16 text.toList, rest) else none := by
  have opened : readLiteral ((expr (.literal text)).toList ++ rest) =
      readInside 0 (text.toList.flatMap literalChar ++ '"' :: rest) := by
    rw [literal_chars, inside_eq, List.cons_append, List.cons_append, List.append_assoc]
    rfl
  rw [opened]
  by_cases flat : Unbroken text
  · rw [if_pos flat]
    exact read_inside_literal flat rest
  · rw [if_neg flat]
    have broken : ∃ c ∈ text.toList, c ∈ lineEnds := by
      simpa [Unbroken] using flat
    exact read_inside_broken broken _

/-- A literal stands in quotes. Each quote inside is escaped, the one that ends it is not, and the line ends in it are
those of its text. Without line ends it is read as its text and no further than its end, whatever comes behind; with one,
no literal is read at all. -/
theorem literal_read_back (text : String) (rest : List Char) :
    (expr (.literal text)).toList = '"' :: inside text ++ ['"'] ∧
      (∀ front back, inside text = front ++ '"' :: back → Escapes front) ∧ ¬Escapes (inside text) ∧
      (∀ c ∈ lineEnds, c ∈ inside text ↔ c ∈ text.toList) ∧
      readLiteral ((expr (.literal text)).toList ++ rest) =
        (if Unbroken text then some (utf16 text.toList, rest) else none) ∧
      ∀ other : String, utf16 other.toList = utf16 text.toList → other = text := by
  refine ⟨literal_chars text, ?_, ?_, fun c ends => line_end_inside ends text, literal_read text rest, ?_⟩
  · intro front back found
    rw [inside_eq] at found
    exact quote_escaped found
  · rw [inside_eq]
    exact unescaped_behind text.toList
  · intro other same
    exact String.toList_inj.mp (utf16_inj same)

-- Backslashes in front of a quote and at the end of the text.
theorem literal_read_back_backslashes :
    inside "\\\"x\\" = ['\\', '\\', '\\'] ++ '"' :: ['x', '\\', '\\'] ∧ Escapes ['\\', '\\', '\\'] ∧
      readLiteral "\"\\\\\\\"x\\\\\" + \"y\"".toList = some (utf16 "\\\"x\\".toList, " + \"y\"".toList) := by
  obtain ⟨_, quotes, _, _, read, _⟩ := literal_read_back "\\\"x\\" " + \"y\"".toList
  have written : inside "\\\"x\\" = ['\\', '\\', '\\'] ++ '"' :: ['x', '\\', '\\'] := by decide
  rw [if_pos (by decide)] at read
  exact ⟨written, quotes _ _ written, read⟩

-- A line feed stays as it is, and there the literal is broken off.
theorem line_feed_unread :
    '\n' ∈ inside "a\nb" ∧ readLiteral (expr (.literal "a\nb")).toList = none := by
  decide

-- Escaped, it would be read.
example : readLiteral "\"a\\nb\"".toList = some (utf16 "a\nb".toList, []) := by decide

end Companion.Source.CSharp
