import Companion.Helper.File
import Companion.Proofs.FileSystem.Onward

/-!
Where the file of a helper class stands. Main statement: `beside_of_source_path`, its path is that of the schema
but for a name which is never the name of the schema.
-/
set_option autoImplicit false

namespace Companion

namespace Helper

open Companion.Path (Ends Onward leading dot slash)

-- The path of a helper stands beside the one of its schema under a name of its own.
structure Beside (schema path : Path) (name : Bytes) : Prop where
  segments : path.segments = leading schema.segments ++ [name]
  proper : FileSystem.isProper name = true
  other : ∃ old, Ends schema old ∧ old ≠ name

theorem encode_append (front back : String) : Utf8.encode (front ++ back) = Utf8.encode front ++ Utf8.encode back := by
  rw [Utf8.encode_eq, Utf8.encode_eq, Utf8.encode_eq, String.toList_append, Utf8.spelled_append]

-- The name of a helper: its stem ends with the fixed ending, and only its extension follows a dot there.
theorem helper_name (stem : String) (language : Language) :
    Utf8.encode (stem ++ nameEnding ++ language.extension) =
      (Utf8.encode stem ++ Utf8.encode nameEnding) ++ dot :: Utf8.encode language.suffix := by
  rw [encode_append, encode_append, Language.extension, encode_append]
  rfl

theorem suffix_free (language : Language) :
    dot ∉ Utf8.encode language.suffix ∧ slash ∉ Utf8.encode language.suffix := by
  cases language <;> decide

theorem named_of_stem {schema : Path} {stem : String} (stemmed : schemaStem? schema = some stem) :
    ∃ old, schema.fileName? = some old ∧ Utf8.encode stem = Path.stemOf old := by
  rw [schemaStem?, Path.fileStem?] at stemmed
  cases named : schema.fileName? with
  | none =>
      rw [named] at stemmed
      cases stemmed
  | some old =>
      rw [named, Option.map_some, Option.bind_some] at stemmed
      cases read : Utf8.decode? (Path.stemOf old) with
      | none =>
          rw [read] at stemmed
          cases stemmed
      | some text =>
          rw [read] at stemmed
          dsimp only at stemmed
          split at stemmed
          · cases stemmed
          · cases stemmed
            exact ⟨old, rfl, Utf8.encode_of_decode read⟩

-- The name of a helper file, from the stem of the schema's name.
def sourceName (stem : Bytes) (language : Language) : Bytes :=
  stem ++ Utf8.encode nameEnding ++ dot :: Utf8.encode language.suffix

theorem stem_of_source_name (stem : Bytes) (language : Language) :
    Path.stemOf (sourceName stem language) = stem ++ Utf8.encode nameEnding :=
  Path.stem_extended (List.append_ne_nil_of_right_ne_nil stem (by decide)) (suffix_free language).1

theorem source_name_proper (stem : Bytes) (language : Language) :
    FileSystem.isProper (sourceName stem language) = true := by
  have mark : (95 : UInt8) ∈ Utf8.encode nameEnding := by decide
  exact Path.proper_of_mem (List.mem_append_left _ (List.mem_append_right stem mark)) (by decide)

theorem source_name_free {schema : Path} {old : Bytes} (named : schema.fileName? = some old) (language : Language) :
    slash ∉ sourceName (Path.stemOf old) language := by
  have old_free : slash ∉ Path.stemOf old := by
    obtain ⟨front, idle, whole, _⟩ := Path.ends_of_file_name named
    have member : old ∈ schema.segments := by
      rw [whole]
      exact List.mem_append_right front List.mem_cons_self
    exact fun among => Text.free_of_mem_segments member (Path.mem_of_stem among)
  have ending_free : slash ∉ Utf8.encode nameEnding := by decide
  simp only [sourceName, List.mem_append, List.mem_cons, not_or]
  exact ⟨⟨old_free, ending_free⟩, by decide, (suffix_free language).2⟩

theorem source_name_ne (old : Bytes) (language : Language) : sourceName (Path.stemOf old) language ≠ old := by
  intro same
  have stems := congrArg Path.stemOf same
  rw [stem_of_source_name] at stems
  exact absurd (List.append_right_eq_self.mp stems) (by decide)

theorem named_of_source_path {schema path : Path} {language : Language}
    (placed : sourcePath schema language = .ok path) :
    ∃ old, schema.fileName? = some old ∧ path = schema.withFileName (sourceName (Path.stemOf old) language) := by
  rw [sourcePath, fileStem?] at placed
  cases stemmed : schemaStem? schema with
  | none =>
      rw [stemmed] at placed
      cases placed
  | some stem =>
      rw [stemmed] at placed
      cases placed
      obtain ⟨old, named, spelled⟩ := named_of_stem stemmed
      exact ⟨old, named, by rw [helper_name, spelled, sourceName]⟩

theorem beside_of_source_path {schema path : Path} {language : Language}
    (placed : sourcePath schema language = .ok path) : ∃ name, Beside schema path name := by
  obtain ⟨old, named, rfl⟩ := named_of_source_path placed
  exact ⟨_, Path.segments_with_file_name named (source_name_free named language), source_name_proper _ language,
    old, Path.ends_of_file_name named, Ne.symm (source_name_ne old language)⟩

namespace Beside

variable {schema path : Path} {name : Bytes} (beside : Beside schema path name)

include beside

theorem ends : Ends path name := ⟨leading schema.segments, [], beside.segments, nofun, beside.proper⟩

theorem onward (straight : schema.Onward) : path.Onward := by
  rw [Onward, beside.segments, List.mem_append, not_or]
  refine ⟨fun among => straight (Path.mem_of_leading among), ?_⟩
  intro last
  have proper := beside.proper
  rw [← List.mem_singleton.mp last] at proper
  cases proper

-- Where the path of the helper leads is not where the path of the schema led.
theorem apart {files after : FileSystem} {place other : Location} {node held : Node}
    (given : files.resolve schema = .ok (place, node)) (found : after.resolve path = .ok (other, held)) :
    place ≠ other := by
  obtain ⟨old, schema_ends, different⟩ := beside.other
  obtain ⟨parent, rfl⟩ := FileSystem.named_of_resolve schema_ends given
  obtain ⟨above, rfl⟩ := FileSystem.named_of_resolve beside.ends found
  intro same
  exact different (List.cons.inj same).1

end Beside
end Helper

end Companion
