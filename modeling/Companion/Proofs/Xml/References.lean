import Companion.Execution.Fault
import Companion.Proofs.Xml.Variants

/-!
References in content, over all names. Main statement: `references_resolved`, a name refers to a character exactly if
it is one of the five that need no declaration or a number of the character, but for a sign that may stand in front of
the digits; any other name is a fault.
-/
set_option autoImplicit false

namespace Companion

namespace Text.Numeral

/-! ## Numbers -/

theorem goes_on_of_extend {radix value result : Nat} {digits : List Char} (small : value < limit)
    (extended : extend radix value digits = .ok result) : goesOn radix value digits = some result ∧ result < limit := by
  induction digits generalizing value with
  | nil =>
      cases extended
      exact ⟨rfl, small⟩
  | cons c rest ih =>
      rw [extend] at extended
      cases taken : digit? radix c with
      | none =>
          rw [taken] at extended
          cases extended
      | some digit =>
          rw [taken] at extended
          dsimp only at extended
          by_cases fits : value * radix + digit < limit
          · rw [if_pos fits] at extended
            rw [goesOn, taken]
            exact ih fits extended
          · rw [if_neg fits] at extended
            cases extended

-- What is read is what the digits stand for, as long as that fits.
theorem read_iff {radix result : Nat} {digits : List Char} (positive : 0 < radix) :
    read radix digits = .ok result ↔ value? radix digits = some result ∧ result < limit := by
  constructor
  · intro taken
    rw [read] at taken
    by_cases empty : digits = []
    · rw [if_pos empty] at taken
      cases taken
    · rw [if_neg empty] at taken
      rw [value?, if_neg empty]
      exact goes_on_of_extend (by decide) taken
  · rintro ⟨stands, small⟩
    exact read_of_value positive small stands

/-! ## Digits -/

-- The characters that a digit is written with.
def spellings (digit : Nat) : List Char :=
  "0123456789abcdef".toList[digit]?.toList ++ "0123456789ABCDEF".toList[digit]?.toList

theorem ascii_of_digit {c : Char} {digit : Nat} (stands : digitValue? c = some digit) : c.toNat < 128 := by
  rw [digitValue?] at stands
  have upTo {last : Char} (ascii : last.toNat < 128) (below : c ≤ last) : c.toNat < 128 :=
    Nat.lt_of_le_of_lt below ascii
  split at stands
  · rename_i decimal
    exact upTo (by decide) decimal.2
  · split at stands
    · rename_i small
      exact upTo (by decide) small.2
    · split at stands
      · rename_i capital
        exact upTo (by decide) capital.2
      · cases stands

theorem digit_value_iff {c : Char} {digit : Nat} (small : digit < 16) :
    digitValue? c = some digit ↔ c ∈ spellings digit := by
  constructor
  · intro stands
    have checked : ∀ code < 128, ∀ digit < 16, digitValue? (Char.ofNat code) = some digit →
        Char.ofNat code ∈ spellings digit := by decide +kernel
    have spelled := checked c.toNat (ascii_of_digit stands) digit small
    rw [Char.ofNat_toNat] at spelled
    exact spelled stands
  · have checked : ∀ digit < 16, (spellings digit).all (digitValue? · = some digit) = true := by decide +kernel
    exact fun member => of_decide_eq_true (List.all_eq_true.mp (checked digit small) c member)

theorem digit_iff {radix digit : Nat} {c : Char} (most : radix ≤ 16) :
    digit? radix c = some digit ↔ digit < radix ∧ c ∈ spellings digit := by
  rw [digit?, Option.filter_eq_some_iff, decide_eq_true_eq, and_comm]
  exact and_congr_right fun small => digit_value_iff (Nat.lt_of_lt_of_le small most)

end Text.Numeral

namespace Xml

open Companion.Text

theorem char_of_iff {value : Nat} {c : Char} : charOf? value = some c ↔ value = c.toNat := by
  rw [charOf?]
  by_cases scalar : value.isValidChar
  · rw [if_pos scalar, Option.some_inj]
    constructor
    · rintro rfl
      rw [Char.ofNat, dif_pos scalar]
      rfl
    · rintro rfl
      exact Char.ofNat_toNat c
  · rw [if_neg scalar]
    constructor
    · rintro ⟨⟩
    · rintro rfl
      exact absurd c.valid scalar

/-! ## Names that refer to a character -/

-- The references of a document without declarations.
inductive Refers : Char → List Char → Prop
  | lt : Refers '<' "lt".toList
  | gt : Refers '>' "gt".toList
  | amp : Refers '&' "amp".toList
  | apos : Refers '\'' "apos".toList
  | quot : Refers '"' "quot".toList
  | number {c : Char} {name : List Char} (numbers : Numbers c name) : Refers c name

-- Numbers with a sign in front of their digits, which are no references.
inductive Signed (c : Char) : List Char → Prop
  | decimal {digits : List Char} (value : Numeral.value? 10 digits = some c.toNat) : Signed c ('#' :: '+' :: digits)
  | hexadecimal {digits : List Char} (value : Numeral.value? 16 digits = some c.toNat) :
      Signed c ('#' :: 'x' :: '+' :: digits)

-- A code is read with the sign of its digits taken off.
theorem numbered_iff {code : List Char} {c : Char} :
    numbered? code = some c ↔ Numeral.value? (radixed code).1 (withoutPlus (radixed code).2) = some c.toNat := by
  have positive : 0 < (radixed code).1 := by
    unfold radixed
    split
    · exact Nat.succ_pos 15
    · exact Nat.succ_pos 9
  have small : c.toNat < Numeral.limit := c.val.toNat_lt
  have fits : Numeral.read (radixed code).1 (withoutPlus (radixed code).2) = .ok c.toNat ↔
      Numeral.value? (radixed code).1 (withoutPlus (radixed code).2) = some c.toNat ∧ c.toNat < Numeral.limit :=
    Numeral.read_iff positive
  rw [numbered?]
  dsimp only
  constructor
  · intro meant
    cases taken : Numeral.read (radixed code).1 (withoutPlus (radixed code).2) with
    | error error =>
        rw [taken] at meant
        cases meant
    | ok value =>
        rw [taken] at meant
        rw [char_of_iff.mp meant] at taken
        exact (fits.mp taken).1
  · intro stands
    rw [fits.mpr ⟨stands, small⟩]
    exact char_of_iff.mpr rfl

theorem without_plus_cases (digits : List Char) :
    (∃ rest, digits = '+' :: rest ∧ withoutPlus digits = rest) ∨ withoutPlus digits = digits := by
  unfold withoutPlus
  split
  · exact .inl ⟨_, rfl, rfl⟩
  · exact .inr rfl

theorem radixed_cases (code : List Char) :
    (∃ digits, code = 'x' :: digits ∧ radixed code = (16, digits)) ∨ radixed code = (10, code) := by
  unfold radixed
  split
  · exact .inl ⟨_, rfl, rfl⟩
  · exact .inr rfl

theorem resolve_signed {c : Char} {name : List Char} (signed : Signed c name) : Document.resolve name = .ok c := by
  have resolved {code : List Char} (meant : numbered? code = some c) : Document.resolve ('#' :: code) = .ok c := by
    rw [Document.resolve, meant]
  cases signed with
  | decimal value => exact resolved (numbered_iff.mpr value)
  | hexadecimal value => exact resolved (numbered_iff.mpr value)

theorem resolve_of_refers {c : Char} {name : List Char} (refers : Refers c name) : Document.resolve name = .ok c := by
  cases refers with
  | number numbers => exact resolve_of_numbers numbers
  | _ => rfl

-- What is read as a number is one, up to the sign of its digits.
theorem number_of_resolved {code : List Char} {c : Char} (meant : numbered? code = some c) :
    Refers c ('#' :: code) ∨ Signed c ('#' :: code) := by
  have value := numbered_iff.mp meant
  rcases radixed_cases code with ⟨digits, rfl, radix⟩ | radix
  · rw [radix] at value
    rcases without_plus_cases digits with ⟨rest, rfl, plain⟩ | plain
    · rw [plain] at value
      exact .inr (.hexadecimal value)
    · rw [plain] at value
      exact .inl (.number (.hexadecimal value))
  · rw [radix] at value
    rcases without_plus_cases code with ⟨rest, rfl, plain⟩ | plain
    · rw [plain] at value
      exact .inr (.decimal value)
    · rw [plain] at value
      exact .inl (.number (.decimal value))

theorem refers_of_entity {name : List Char} {c : Char} (found : entity? name = some c) : Refers c name := by
  obtain ⟨entry, listed, rfl⟩ := Option.map_eq_some_iff.mp found
  have member := List.mem_of_find?_eq_some listed
  obtain rfl : entry.1 = name := by simpa using List.find?_some listed
  simp only [predefined, List.mem_cons, List.not_mem_nil, or_false] at member
  rcases member with rfl | rfl | rfl | rfl | rfl
  · exact .lt
  · exact .gt
  · exact .amp
  · exact .apos
  · exact .quot

theorem resolved_iff {name : List Char} {c : Char} :
    Document.resolve name = .ok c ↔ Refers c name ∨ Signed c name := by
  constructor
  · intro resolved
    rw [Document.resolve.eq_def] at resolved
    split at resolved
    · split at resolved
      · rename_i meant
        cases resolved
        exact number_of_resolved meant
      · cases resolved
    · split at resolved
      · rename_i found
        cases resolved
        exact .inl (refers_of_entity found)
      · cases resolved
  · rintro (refers | signed)
    · exact resolve_of_refers refers
    · exact resolve_signed signed

/-! ## Names that do not -/

-- What is said of a name that does not refer to a character.
def complaint (name : String) : String :=
  (if name.toList.head? = some '#' then "invalid character reference '" else "unknown entity '") ++ name ++ "'"

theorem resolve_of_error {name : List Char} {error : Document.ContentError}
    (failed : Document.resolve name = .error error) : error.message = complaint (String.ofList name) := by
  rw [complaint, String.toList_ofList]
  rw [Document.resolve.eq_def] at failed
  split at failed
  · split at failed
    · cases failed
    · cases failed
      rfl
  · rename_i numberless
    split at failed
    · cases failed
    · cases failed
      rw [if_neg]
      · rfl
      · intro begun
        obtain ⟨code, rfl⟩ := List.head?_eq_some_iff.mp begun
        exact numberless code rfl

/-- A name refers to the character it is one of the five names of, or a number of; the number has any digits of its
radix, and a sign may stand in front of them. Any other name is a fault of the document, which names it. -/
theorem references_resolved (name : List Char) :
    (∀ c, Document.resolve name = .ok c ↔ Refers c name ∨ Signed c name) ∧
      ((∀ c, ¬Refers c name ∧ ¬Signed c name) → ∃ error, Document.resolve name = .error error ∧
        Fault.ofReadError (.content error) = .invalidDocument (complaint (String.ofList name))) ∧
      ∀ radix ≤ 16, ∀ c digit, Numeral.digit? radix c = some digit ↔ digit < radix ∧ c ∈ Numeral.spellings digit := by
  refine ⟨fun c => resolved_iff, ?_, fun radix most c digit => Numeral.digit_iff most⟩
  intro none
  cases resolved : Document.resolve name with
  | ok c => exact absurd (resolved_iff.mp resolved) (not_or.mpr (none c))
  | error error => exact ⟨error, rfl, congrArg Fault.invalidDocument (resolve_of_error resolved)⟩

-- A number with leading zeros, and one without digits.
theorem references_resolved_letter :
    Refers 'A' "#x0041".toList ∧ Document.resolve "#x0041".toList = .ok 'A' ∧
      (∀ c, ¬Refers c ['#'] ∧ ¬Signed c ['#']) ∧ ∃ error, Document.resolve ['#'] = .error error ∧
        Fault.ofReadError (.content error) = .invalidDocument "invalid character reference '#'" := by
  have refers : Refers 'A' "#x0041".toList := .number (.hexadecimal rfl)
  have none : ∀ c, ¬Refers c ['#'] ∧ ¬Signed c ['#'] := by
    intro c
    have resolved := (references_resolved ['#']).1 c
    exact not_or.mp fun either => nomatch resolved.mpr either
  exact ⟨refers, ((references_resolved _).1 'A').mpr (.inl refers), none, (references_resolved ['#']).2.1 none⟩

-- The number of a letter with a sign is read as the letter, though it is no reference.
theorem signed_number_read :
    ¬∀ (name : List Char) (c : Char), Document.resolve name = .ok c → Refers c name := by
  intro grammar
  cases grammar "#+65".toList 'A' (by decide +kernel) with
  | number numbers =>
      cases numbers with
      | decimal value => cases value

end Xml
end Companion
