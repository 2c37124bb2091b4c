import Companion.Helper.Names

/-!
Identifiers made from other texts. Main statements: `lower_first_valid_iff`, an identifier stays one with a small
first letter unless it begins with the capital I with a dot; and `class_name_valid`, the name of a helper class is
one whatever the schema is called.
-/
set_option autoImplicit false

namespace Companion

namespace Text

-- One interval holds all code points from one to another.
def Ranges.covers : Ranges → Nat → Nat → Bool
  | [], _, _ => false
  | (first, last) :: rest, low, high =>
    first.ble low && (high.ble last || (last.blt low && Ranges.covers rest low high))

theorem contains_of_covers {ranges : Ranges} {low high code : Nat} (covered : ranges.covers low high = true)
    (least : low ≤ code) (most : code ≤ high) : ranges.contains code = true := by
  induction ranges with
  | nil => cases covered
  | cons range rest ih =>
      obtain ⟨first, last⟩ := range
      rw [Ranges.covers, Bool.and_eq_true, Bool.or_eq_true, Bool.and_eq_true, Nat.ble_eq, Nat.ble_eq,
        Nat.blt_eq] at covered
      obtain ⟨begun, within | ⟨above, behind⟩⟩ := covered
      · rw [Ranges.contains, if_neg (by omega), if_pos (by omega)]
      · rw [Ranges.contains, if_neg (by omega)]
        split
        · rfl
        · exact ih behind

namespace CaseRun

theorem of_find {runs : List CaseRun} {code : Nat} {run : CaseRun} (found : find? runs code = some run) :
    run ∈ runs ∧ run.first ≤ code ∧ code ≤ run.last := by
  induction runs with
  | nil => cases found
  | cons next rest ih =>
      rw [find?] at found
      split at found
      · cases found
      · split at found
        · rename_i least most
          cases found
          exact ⟨List.mem_cons_self, by omega, most.1⟩
        · obtain ⟨listed, within⟩ := ih found
          exact ⟨List.mem_cons_of_mem next listed, within⟩

-- The small letters of a run are letters, and none of them is a surrogate.
def Lettered (run : CaseRun) : Prop :=
  0 ≤ run.first + run.shift ∧ (run.last + run.shift < 0xD800 ∨
    0xDFFF < run.first + run.shift ∧ run.last + run.shift < 0x110000) ∧
  alphabeticRanges.covers (run.first + run.shift).toNat (run.last + run.shift).toNat = true

instance (run : CaseRun) : Decidable run.Lettered := by
  unfold Lettered
  infer_instance

-- Checked run by run; a single letter of another kind would show here.
theorem all_lettered : ∀ run ∈ caseRuns, run.Lettered := by decide +kernel

end CaseRun

theorem code_of_nat {code : Nat} (valid : code.isValidChar) : (Char.ofNat code).toNat = code := by
  rw [Char.ofNat, dif_pos valid]
  rfl

-- Of all letters only one has more than a letter for its small form.
theorem lowercase_letter {c : Char} (letter : isAlphabetic c = true) (plain : c ≠ '\u0130') :
    ∃ small, lowercase c = [small] ∧ isAlphabetic small = true := by
  rw [lowercase, if_neg plain]
  cases found : CaseRun.find? caseRuns c.toNat with
  | none => exact ⟨c, rfl, letter⟩
  | some run =>
      obtain ⟨listed, least, most⟩ := CaseRun.of_find found
      obtain ⟨positive, scalar, covered⟩ := CaseRun.all_lettered run listed
      refine ⟨_, rfl, ?_⟩
      have code : (Char.ofNat (c.toNat + run.shift).toNat).toNat = (c.toNat + run.shift).toNat := by
        apply code_of_nat
        rw [Nat.isValidChar]
        omega
      rw [isAlphabetic, code]
      exact contains_of_covers covered (by omega) (by omega)

end Text

namespace Identifier

open Text (isAlphabetic isNumeric isAlphanumeric lowercase)

theorem valid_chars_iff {first : Char} {rest : List Char} :
    isValidChars (first :: rest) = true ↔
      isFirst first = true ∧ (∀ c ∈ rest, isLater c = true) ∧ ¬(first = '_' ∧ rest = []) := by
  unfold isValidChars
  split
  · rename_i none
    cases none
  · rename_i alone
    cases alone
    simp
  · rename_i begun other same
    cases same
    rw [Bool.and_eq_true, List.all_eq_true]
    refine ⟨fun ⟨front, behind⟩ => ⟨front, behind, ?_⟩, fun ⟨front, behind, _⟩ => ⟨front, behind⟩⟩
    rintro ⟨rfl, rfl⟩
    exact other rfl rfl

theorem lower_underscore : lowercase '_' = ['_'] := by decide +kernel

theorem underscore_no_letter : isAlphabetic '_' = false := by decide +kernel

theorem dot_above_not_later : isLater '\u0307' = false := by decide +kernel

theorem lower_first_of_cons {name : String} {first : Char} {rest : List Char} (spelled : name.toList = first :: rest) :
    lowerFirst name = String.ofList (lowercase first ++ rest) := by
  rw [lowerFirst, spelled]

theorem lower_first_valid {name : String} (valid : isValid name = true) (plain : name.toList.head? ≠ some '\u0130') :
    isValid (lowerFirst name) = true := by
  unfold isValid at valid
  cases spelled : name.toList with
  | nil =>
      rw [spelled] at valid
      cases valid
  | cons first rest =>
      rw [spelled] at valid plain
      obtain ⟨begun, behind, more⟩ := valid_chars_iff.mp valid
      rw [lower_first_of_cons spelled, isValid, String.toList_ofList]
      by_cases underscore : first = '_'
      · rw [underscore, lower_underscore, List.singleton_append, ← underscore]
        exact valid
      · have letter : isAlphabetic first = true := by
          simpa [isFirst, underscore] using begun
        obtain ⟨small, lowered, still⟩ := Text.lowercase_letter letter fun same => plain (by rw [same]; rfl)
        rw [lowered, List.singleton_append]
        refine valid_chars_iff.mpr ⟨by rw [isFirst, still, Bool.true_or], behind, ?_⟩
        rintro ⟨rfl, _⟩
        rw [underscore_no_letter] at still
        cases still

theorem lower_first_invalid {name : String} (dotted : name.toList.head? = some '\u0130') :
    isValid (lowerFirst name) = false := by
  obtain ⟨rest, spelled⟩ := List.head?_eq_some_iff.mp dotted
  have lowered : lowercase '\u0130' = ['i', '\u0307'] := rfl
  rw [lower_first_of_cons spelled, lowered, isValid, String.toList_ofList, ← Bool.not_eq_true]
  intro valid
  have later := (valid_chars_iff.mp valid).2.1 '\u0307' (List.mem_cons_self)
  rw [dot_above_not_later] at later
  cases later

theorem lower_first_valid_iff {name : String} (valid : isValid name = true) :
    isValid (lowerFirst name) = true ↔ name.toList.head? ≠ some '\u0130' := by
  refine ⟨fun lowered dotted => ?_, lower_first_valid valid⟩
  rw [lower_first_invalid dotted] at lowered
  cases lowered

/-! ## Names for helper classes -/

theorem sanitize_char_later (c : Char) : isLater (sanitizeChar c) = true := by
  rw [sanitizeChar]
  split
  · assumption
  · decide +kernel

theorem sanitize_char_first {c : Char} (letter : isNumeric c = false) : isFirst (sanitizeChar c) = true := by
  rw [sanitizeChar]
  split
  · rename_i later
    simpa [isLater, isAlphanumeric, letter, isFirst] using later
  · decide +kernel

theorem sanitized {chars : List Char} (some_chars : chars ≠ []) :
    ∃ first rest, sanitizeChars chars = first :: rest ∧ isFirst first = true ∧ ∀ c ∈ rest, isLater c = true := by
  have later : ∀ c ∈ chars.map sanitizeChar, isLater c = true :=
    List.forall_mem_map.mpr fun c _ => sanitize_char_later c
  cases chars with
  | nil => exact absurd rfl some_chars
  | cons first rest =>
      rw [sanitizeChars]
      cases numeral : isNumeric first with
      | true => exact ⟨_, _, rfl, by decide +kernel, later⟩
      | false =>
          rw [if_neg Bool.false_ne_true]
          rw [List.map_cons] at later ⊢
          exact ⟨_, _, rfl, sanitize_char_first numeral, (List.forall_mem_cons.mp later).2⟩

theorem class_name_valid {schema : Path} {name : String} (named : Helper.className? schema = some name) :
    isValid name = true := by
  obtain ⟨stem, stemmed, rfl⟩ := Option.map_eq_some_iff.mp named
  have some_chars : stem.toList ≠ [] := by
    rw [Helper.schemaStem?] at stemmed
    split at stemmed
    · split at stemmed
      · cases stemmed
      · rename_i present
        cases stemmed
        intro empty
        exact present (String.isEmpty_iff.mpr (String.toList_eq_nil_iff.mp empty))
    · cases stemmed
  obtain ⟨first, rest, whole, begun, behind⟩ := sanitized some_chars
  have ending : ∀ c ∈ Helper.nameEnding.toList, isLater c = true := List.all_eq_true.mp (by decide +kernel)
  rw [isValid, String.toList_append, sanitize, String.toList_ofList, whole, List.cons_append]
  refine valid_chars_iff.mpr ⟨begun, List.forall_mem_append.mpr ⟨behind, ending⟩, fun alone => ?_⟩
  exact absurd (List.append_eq_nil_iff.mp alone.2).2 (by decide)

end Identifier
end Companion
