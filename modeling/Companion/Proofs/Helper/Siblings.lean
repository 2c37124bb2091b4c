import Companion.Proofs.Helper.Beside
import Companion.Proofs.Path.Components

/-!
Files of helpers beside each other. Main statement: `helper_paths_apart`, a helper has a file exactly if it has a
name, that file stands below the same path as the schema under a name of its own, and two of them are one only if
the stems and the languages are the same.
-/
set_option autoImplicit false

namespace Companion.Helper

theorem source_path_iff {schema : Path} {language : Language} :
    (∃ path, sourcePath schema language = .ok path) ↔ ∃ name, className? schema = some name := by
  rw [sourcePath, fileStem?, className?]
  cases schemaStem? schema with
  | none => simp
  | some stem => simp

-- The ending in front of the extension marks where the stem ends.
theorem source_name_inj {stem other : Bytes} {language mode : Language} :
    sourceName stem language = sourceName other mode ↔ stem = other ∧ language = mode := by
  constructor
  · intro same
    have stems := congrArg Path.stemOf same
    rw [stem_of_source_name, stem_of_source_name] at stems
    obtain rfl := List.append_cancel_right stems
    have suffixes := (List.cons.inj (List.append_cancel_left same)).2
    refine ⟨rfl, ?_⟩
    revert suffixes
    cases language <;> cases mode <;> decide
  · rintro ⟨rfl, rfl⟩
    rfl

theorem source_name_spelled (stem : Bytes) (language : Language) :
    sourceName stem language = stem ++ Utf8.encode (nameEnding ++ language.extension) := by
  rw [encode_append, Language.extension, encode_append, sourceName, List.append_assoc]
  rfl

-- A path stands below the same path as a schema, under the name made of its stem.
structure Sibling (schema path : Path) (stem : Bytes) (language : Language) : Prop where
  stemmed : schema.fileStem? = some stem
  named : path.fileName? = some (sourceName stem language)
  above : path.parent? = schema.parent?

theorem sibling_of_source_path {schema path : Path} {language : Language}
    (placed : sourcePath schema language = .ok path) : ∃ stem, Sibling schema path stem language := by
  obtain ⟨old, named, rfl⟩ := named_of_source_path placed
  obtain ⟨given, above⟩ :=
    Path.parent_with_file_name named (source_name_free named language) (source_name_proper _ language)
  exact ⟨_, by rw [Path.fileStem?, named, Option.map_some], given, above⟩

namespace Sibling

variable {schema path other place : Path} {stem last : Bytes} {language mode : Language}

theorem components (sibling : Sibling schema path stem language) :
    ∃ parent, schema.parent? = some parent ∧
      path.components = parent.components ++ [.name (sourceName stem language)] := by
  obtain ⟨parent, above, steps⟩ := Path.components_of_file_name sibling.named
  exact ⟨parent, sibling.above.symm.trans above, steps⟩

theorem apart (sibling : Sibling schema path stem language) : path.components ≠ schema.components := by
  intro same
  have named : path.fileName? = schema.fileName? := by
    rw [Path.fileName?, Path.fileName?, same]
  have stems := sibling.stemmed
  rw [Path.fileStem?, ← named, sibling.named, Option.map_some, stem_of_source_name] at stems
  exact absurd (List.append_right_eq_self.mp (Option.some.inj stems)) (by decide : Utf8.encode nameEnding ≠ [])

theorem same_iff (sibling : Sibling schema path stem language) (next : Sibling other place last mode)
    (below : other.parent?.map Path.components = schema.parent?.map Path.components) :
    place.components = path.components ↔ other.fileStem? = schema.fileStem? ∧ mode = language := by
  obtain ⟨parent, above, steps⟩ := sibling.components
  obtain ⟨folder, around, moves⟩ := next.components
  rw [above, around, Option.map_some, Option.map_some, Option.some.injEq] at below
  rw [steps, moves, below, next.stemmed, sibling.stemmed, Option.some.injEq, List.append_right_inj,
    List.singleton_inj, Path.Component.name.injEq, source_name_inj]

end Sibling

/-- The file of a helper exists in name exactly if the class does. It stands below the same path as the schema, its
name is the stem of the schema with the fixed ending and the extension of the language, and it is never the schema.
Below the same path two such files are one exactly if the stems and the languages are the same. -/
theorem helper_paths_apart (schema : Path) (language : Language) :
    ((∃ path, sourcePath schema language = .ok path) ↔ ∃ name, className? schema = some name) ∧
      ∀ path, sourcePath schema language = .ok path →
        path.parent? = schema.parent? ∧
        (∃ stem, schema.fileStem? = some stem ∧
          path.fileName? = some (stem ++ Utf8.encode (nameEnding ++ language.extension))) ∧
        path.components ≠ schema.components ∧
        ∀ other place mode, sourcePath other mode = .ok place →
          other.parent?.map Path.components = schema.parent?.map Path.components →
          (place.components = path.components ↔ other.fileStem? = schema.fileStem? ∧ mode = language) := by
  refine ⟨source_path_iff, fun path placed => ?_⟩
  obtain ⟨stem, sibling⟩ := sibling_of_source_path placed
  refine ⟨sibling.above, ⟨stem, sibling.stemmed, ?_⟩, sibling.apart, ?_⟩
  · rw [sibling.named, source_name_spelled]
  · intro other place mode set below
    obtain ⟨last, next⟩ := sibling_of_source_path set
    exact sibling.same_iff next below

-- Two schemas that are spelled in different ways below one path share the file of their helpers.
theorem helper_paths_apart_shared :
    ∃ path place,
      sourcePath (.ofString "d/./..xsd") .csharp = .ok path ∧ sourcePath (.ofString "d//..xml/") .csharp = .ok place ∧
      path.parent? = (Path.ofString "d/./..xsd").parent? ∧ place.components = path.components := by
  have placed : sourcePath (.ofString "d/./..xsd") .csharp = .ok (.ofString "d/._HelperClass.cs") := by
    decide +kernel
  have set : sourcePath (.ofString "d//..xml/") .csharp = .ok (.ofString "d/._HelperClass.cs") := by
    decide +kernel
  obtain ⟨above, _, _, shared⟩ := (helper_paths_apart (.ofString "d/./..xsd") .csharp).2 _ placed
  exact ⟨_, _, placed, set, above, (shared _ _ _ set (by decide +kernel)).mpr ⟨by decide +kernel, rfl⟩⟩

end Companion.Helper
