import Companion.Proofs.Helper.Beside
import Companion.Proofs.Text.Letters
import Companion.Proofs.Xml.Tags

/-!
Names for helper classes, over all paths. Main statement: `class_names_usable`, a schema has one exactly if the stem of
its file name is text, it is always an identifier, and what it is made of is changed no more than that takes, but for an
identifier that begins with a numeral.
-/
set_option autoImplicit false

namespace Companion

namespace Path

theorem join_eq_nil {α : Type} {separator : α} {pieces : List (List α)}
    (empty : Text.joinSegments separator pieces = []) : pieces = [] ∨ pieces = [[]] := by
  match pieces, empty with
  | [], _ => exact .inl rfl
  | [piece], empty => exact .inr (congrArg (fun whole => [whole]) empty)
  | piece :: next :: rest, empty => exact absurd (List.append_eq_nil_iff.mp empty).2 (List.cons_ne_nil _ _)

theorem stem_of_ne_nil {name : Bytes} (some_name : name ≠ []) : stemOf name ≠ [] := by
  rw [stemOf]
  split
  · exact some_name
  · exact some_name
  · rename_i more begun
    intro empty
    rcases join_eq_nil empty with none | alone
    · exact more none
    · exact begun alone

-- The stem of a file is never empty, whatever the dots in its name.
theorem file_stem_ne_nil {path : Path} {stem : Bytes} (stemmed : path.fileStem? = some stem) : stem ≠ [] := by
  obtain ⟨name, named, rfl⟩ := Option.map_eq_some_iff.mp stemmed
  obtain ⟨_, _, _, _, proper⟩ := ends_of_file_name named
  refine stem_of_ne_nil ?_
  rintro rfl
  cases proper

end Path

namespace Identifier

open Text (isAlphabetic isNumeric isAlphanumeric)

/-! ## Texts that stay as they are -/

theorem sanitize_char_of_later {c : Char} (later : isLater c = true) : sanitizeChar c = c := if_pos later

theorem sanitize_all_of_later {chars : List Char} (later : ∀ c ∈ chars, isLater c = true) :
    chars.map sanitizeChar = chars :=
  (List.map_congr_left fun c member => sanitize_char_of_later (later c member)).trans (List.map_id chars)

-- What is put in front of a text: an underscore if a numeral leads.
def lead : List Char → List Char
  | [] => []
  | first :: _ => if isNumeric first then ['_'] else []

theorem sanitize_chars_eq (chars : List Char) : sanitizeChars chars = lead chars ++ chars.map sanitizeChar := by
  cases chars with
  | nil => rfl
  | cons first rest =>
      rw [sanitizeChars, lead]
      cases isNumeric first <;> rfl

theorem sanitize_chars_of_later {chars : List Char} (later : ∀ c ∈ chars, isLater c = true) :
    sanitizeChars chars = lead chars ++ chars := by
  rw [sanitize_chars_eq, sanitize_all_of_later later]

theorem underscore_no_numeral : isNumeric '_' = false := by decide +kernel

-- What was sanitized has nothing more in it to be replaced, and no numeral leads it.
theorem sanitized_later (chars : List Char) : ∀ c ∈ sanitizeChars chars, isLater c = true := by
  rw [sanitize_chars_eq, List.forall_mem_append, List.forall_mem_map]
  refine ⟨?_, fun c _ => sanitize_char_later c⟩
  cases chars with
  | nil => exact List.forall_mem_nil _
  | cons first rest =>
      rw [lead]
      cases isNumeric first with
      | true => exact List.forall_mem_singleton.mpr (by decide +kernel)
      | false => exact List.forall_mem_nil _

theorem sanitized_lead (chars : List Char) : lead (sanitizeChars chars) = [] := by
  cases chars with
  | nil => rfl
  | cons first rest =>
      have plain {c : Char} (other : isNumeric c = false) (more : List Char) : lead (c :: more) = [] := by
        rw [lead, other, if_neg Bool.false_ne_true]
      rw [sanitizeChars]
      cases numeral : isNumeric first with
      | true => exact plain underscore_no_numeral _
      | false =>
          refine plain ?_ _
          rw [sanitizeChar]
          split
          · exact numeral
          · exact underscore_no_numeral

theorem sanitize_idempotent (name : String) : sanitize (sanitize name) = sanitize name := by
  rw [sanitize, sanitize, String.toList_ofList, sanitize_chars_of_later (sanitized_later name.toList), sanitized_lead,
    List.nil_append]

-- An identifier is only lengthened, and only if a numeral leads it.
theorem sanitize_of_valid {name : String} (valid : isValid name = true) :
    sanitize name = if name.toList.head?.any isNumeric then "_" ++ name else name := by
  rw [sanitize, sanitize_chars_of_later (Xml.later_of_valid name valid).2]
  cases spelled : name.toList with
  | nil => exact absurd spelled (Xml.later_of_valid name valid).1
  | cons first rest =>
      rw [lead, List.head?_cons, Option.any_some, ← spelled]
      cases isNumeric first with
      | true => rw [if_pos rfl, if_pos rfl, String.ofList_append, String.ofList_toList]
      | false => rw [if_neg Bool.false_ne_true, if_neg Bool.false_ne_true, List.nil_append, String.ofList_toList]

theorem length_sanitize (name : String) :
    (sanitize name).length = (lead name.toList).length + name.length := by
  rw [sanitize, ← String.length_toList, String.toList_ofList, sanitize_chars_eq, List.length_append, List.length_map,
    String.length_toList]

theorem length_lead (chars : List Char) : (lead chars).length ≤ 1 := by
  cases chars with
  | nil => exact Nat.zero_le 1
  | cons first rest =>
      rw [lead]
      cases isNumeric first with
      | true => exact Nat.le_refl 1
      | false => exact Nat.zero_le 1

end Identifier

namespace Helper

open Identifier (isValid sanitize)

theorem schema_stem_iff {schema : Path} {stem : String} :
    schemaStem? schema = some stem ↔ schema.fileStem? = some (Utf8.encode stem) := by
  constructor
  · intro stemmed
    obtain ⟨old, named, spelled⟩ := named_of_stem stemmed
    rw [Path.fileStem?, named, Option.map_some, spelled]
  · intro stemmed
    have present : stem.isEmpty = false := by
      rw [Bool.eq_false_iff, ne_eq, String.isEmpty_iff]
      rintro rfl
      exact Path.file_stem_ne_nil stemmed rfl
    rw [schemaStem?, stemmed, Option.bind_some, Utf8.decode?_encode]
    dsimp only
    rw [present, if_neg Bool.false_ne_true]

theorem class_name_iff {schema : Path} {name : String} :
    className? schema = some name ↔
      ∃ stem, schema.fileStem? = some (Utf8.encode stem) ∧ name = sanitize stem ++ nameEnding := by
  rw [className?, Option.map_eq_some_iff]
  constructor
  · rintro ⟨stem, stemmed, rfl⟩
    exact ⟨stem, schema_stem_iff.mp stemmed, rfl⟩
  · rintro ⟨stem, stemmed, rfl⟩
    exact ⟨stem, schema_stem_iff.mpr stemmed, rfl⟩

/-- A schema has a name for its helper class exactly if the stem of its file name is text, and the name is an
identifier. What makes it one changes no text twice, lengthens a text by at most an underscore, and leaves an
identifier as it is unless a numeral leads it, which then gets the underscore in front. -/
theorem class_names_usable (schema : Path) (text : String) :
    (∀ name, className? schema = some name ↔
        ∃ stem, schema.fileStem? = some (Utf8.encode stem) ∧ name = sanitize stem ++ nameEnding) ∧
      (∀ name, className? schema = some name → isValid name = true) ∧
      sanitize (sanitize text) = sanitize text ∧
      text.length ≤ (sanitize text).length ∧ (sanitize text).length ≤ text.length + 1 ∧
      (isValid text = true → sanitize text = if text.toList.head?.any Text.isNumeric then "_" ++ text else text) := by
  have length := Identifier.length_sanitize text
  have most := Identifier.length_lead text.toList
  refine ⟨fun _ => class_name_iff, fun _ => Identifier.class_name_valid, Identifier.sanitize_idempotent text, ?_, ?_,
    Identifier.sanitize_of_valid⟩
  · omega
  · omega

-- A schema whose stem is one numeral, and an identifier that a letter leads.
theorem class_names_usable_numeral :
    className? (.ofString "d/Ⅷ.xsd") = some "_Ⅷ_HelperClass" ∧ isValid "_Ⅷ_HelperClass" = true ∧
      sanitize "BandⅧ" = "BandⅧ" := by
  obtain ⟨named, usable, _, _, _, kept⟩ := class_names_usable (.ofString "d/Ⅷ.xsd") "BandⅧ"
  have given := (named "_Ⅷ_HelperClass").mpr ⟨"Ⅷ", by decide +kernel, by decide +kernel⟩
  have letter : "BandⅧ".toList.head?.any Text.isNumeric = false := by decide +kernel
  have same := kept (by decide +kernel)
  rw [letter, if_neg Bool.false_ne_true] at same
  exact ⟨given, usable _ given, same⟩

-- A numeral that is a letter, too, leads an identifier, which does not stay as it is.
theorem numeral_letter_changed : ¬∀ name : String, isValid name = true → sanitize name = name := by
  intro kept
  have same := kept "Ⅷ" (by decide +kernel)
  revert same
  decide +kernel

end Helper
end Companion
