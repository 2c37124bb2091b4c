import Companion.Generation
import Companion.Proofs.Descriptor.Accepted
import Companion.Proofs.Helper.Beside

/-!
How the generation of a file ends. Main statements: `write_source_ends`, every way in which it may end with what
that changes, and `free_of_creates`, a path that never leads up creates its file where nothing was.
-/
set_option autoImplicit false

namespace Companion

open FileSystem (Grown KeptBut Placed Raised)
open Helper (Settings WritePolicy WriteOutcome sourcePath createParents)

namespace Generation

-- How the generation of a file ends.
inductive Ending (files : FileSystem) (policy : WritePolicy) (path : Path) (text : String) :
    FileSystem × Except GenerationError (Path × WriteOutcome) → Prop
  | skipped (present : files.pathExists path = true) (careful : policy = .ifMissing) :
      Ending files policy path text (files, .ok (path, .skipped))
  | created {after : FileSystem} {place : Location} (absent : files.pathExists path = false)
      (placed : Placed path files after) (held : after.resolve path = .ok (place, .file (Utf8.encode text))) :
      Ending files policy path text (after, .ok (path, .created))
  | overwritten {after : FileSystem} {place : Location} {old : Bytes} (asked : policy = .overwrite)
      (present : files.resolve path = .ok (place, .file old)) (placed : Placed path files after)
      (held : after.resolve path = .ok (place, .file (Utf8.encode text))) :
      Ending files policy path text (after, .ok (path, .overwritten))
  | failed {after : FileSystem} (error : IoError) (due : files.pathExists path = true → policy = .overwrite)
      (raised : Raised (Path.Above · path) files after) :
      Ending files policy path text (after, .error (.io error))

variable {files : FileSystem} {path : Path} {text : String}

theorem raised_create_parents (files : FileSystem) (path : Path) :
    Raised (Path.Above · path) files (createParents files path).1 := by
  rw [createParents]
  cases up : path.parent? with
  | none => exact .refl _ files
  | some above =>
      exact (FileSystem.raised_create_directories files above).mono fun _ => Path.above_of_up_from up

theorem resolve_of_exists (present : files.pathExists path = true) :
    ∃ place node, files.resolve path = .ok (place, node) := by
  rw [FileSystem.pathExists] at present
  cases found : files.resolve path with
  | error error =>
      rw [found] at present
      cases present
  | ok target => exact ⟨target.1, target.2, rfl⟩

-- A file is written at the place to which its path led before.
theorem resolve_replaced {between after : FileSystem} {place : Location} {node : Node} {bytes : Bytes}
    (grown : Grown files between) (resolved : files.resolve path = .ok (place, node))
    (written : between.writeFile path bytes = .ok after) :
    ∃ old, node = .file old ∧ after.resolve path = .ok (place, .file bytes) := by
  obtain ⟨target, wrote⟩ := FileSystem.wrote_of_write_file written
  have still := FileSystem.resolve_grown grown resolved
  have same : place = target := by
    by_cases apart : place = target
    · exact apart
    · have elsewhere := FileSystem.resolve_kept wrote.kept apart still
      rw [wrote.resolved] at elsewhere
      cases elsewhere
      rfl
  subst same
  cases node with
  | file old => exact ⟨old, rfl, wrote.resolved⟩
  | directory =>
      have held := wrote.kept.directory place (FileSystem.node_of_resolve still)
      rw [wrote.held] at held
      cases held

theorem source_of_invalid (settings : Settings) (language : Language) {descriptor : Descriptor}
    {error : Descriptor.Error} (invalid : descriptor.validate = .error error) :
    source settings language descriptor = .error error := by
  rw [source, sourceText, Helper.build, invalid]
  rfl

theorem source_of_valid (settings : Settings) (language : Language) {descriptor : Descriptor}
    (valid : descriptor.validate = .ok ()) :
    ∃ path text, sourcePath descriptor.inputFile language = .ok path ∧
      sourceText settings language descriptor = .ok text ∧
      source settings language descriptor = .ok (path, text) := by
  obtain ⟨name, accepted⟩ := Descriptor.accepted_of_validate valid
  have named := accepted.named
  rw [Descriptor.helperClassName, Helper.className?] at named
  cases stemmed : Helper.schemaStem? descriptor.inputFile with
  | none =>
      rw [stemmed] at named
      cases named
  | some stem =>
      have spelled : ∃ text, sourceText settings language descriptor = .ok text := by
        rw [sourceText, Helper.build, valid, accepted.named]
        exact ⟨_, rfl⟩
      have led : ∃ path, sourcePath descriptor.inputFile language = .ok path := by
        rw [sourcePath, Helper.fileStem?, stemmed]
        exact ⟨_, rfl⟩
      obtain ⟨text, spelled⟩ := spelled
      obtain ⟨path, led⟩ := led
      refine ⟨path, text, led, spelled, ?_⟩
      rw [source, spelled, led]
      rfl

theorem ending_of_source (files : FileSystem) {settings : Settings} (policy : WritePolicy) {language : Language}
    {descriptor : Descriptor} (whole : source settings language descriptor = .ok (path, text)) :
    Ending files policy path text (writeSource files settings policy language descriptor) := by
  rw [writeSource, whole]
  dsimp only
  rw [Helper.write]
  by_cases skips : files.pathExists path = true ∧ policy = .ifMissing
  · rw [if_pos skips]
    exact .skipped skips.1 skips.2
  · rw [if_neg skips]
    have due : files.pathExists path = true → policy = .overwrite := by
      intro present
      cases policy with
      | overwrite => rfl
      | ifMissing => exact absurd ⟨present, rfl⟩ skips
    have raised := raised_create_parents files path
    cases made : createParents files path with
    | mk between result =>
        rw [made] at raised
        cases result with
        | error error => exact .failed error due raised
        | ok done =>
            dsimp only
            cases written : between.writeFile path (Utf8.encode text) with
            | error error => exact .failed error due raised
            | ok after =>
                have placed := FileSystem.placed_write raised written
                cases present : files.pathExists path with
                | false =>
                    obtain ⟨place, wrote⟩ := FileSystem.wrote_of_write_file written
                    exact .created present placed wrote.resolved
                | true =>
                    obtain ⟨place, node, resolved⟩ := resolve_of_exists present
                    obtain ⟨old, rfl, held⟩ := resolve_replaced raised.grown resolved written
                    exact .overwritten (due present) resolved placed held

theorem write_source_ends (files : FileSystem) (settings : Settings) (policy : WritePolicy)
    {language : Language} {descriptor : Descriptor} (valid : descriptor.validate = .ok ()) :
    ∃ path text, sourcePath descriptor.inputFile language = .ok path ∧
      sourceText settings language descriptor = .ok text ∧
      Ending files policy path text (writeSource files settings policy language descriptor) := by
  obtain ⟨path, text, led, spelled, whole⟩ := source_of_valid settings language valid
  exact ⟨path, text, led, spelled, ending_of_source files policy whole⟩

theorem write_source_of_invalid (files : FileSystem) (settings : Settings) (policy : WritePolicy) (language : Language)
    {descriptor : Descriptor} {error : Descriptor.Error} (invalid : descriptor.validate = .error error) :
    writeSource files settings policy language descriptor = (files, .error (.descriptor error)) := by
  rw [writeSource, source_of_invalid settings language invalid]

theorem kept_but_of_placed {after : FileSystem} {target : Location} {held : Node} (placed : Placed path files after)
    (found : after.resolve path = .ok (target, held)) : KeptBut target files after := by
  refine ⟨placed.start, placed.directory, ?_⟩
  intro place node apart there
  cases node with
  | directory => exact placed.directory place there
  | file content =>
      rcases placed.file place content there with same | ⟨new, led⟩
      · exact same
      · rw [found] at led
        cases led
        exact absurd rfl apart

variable {policy : WritePolicy} {result : FileSystem × Except GenerationError (Path × WriteOutcome)}

theorem rest_of_ending (ending : Ending files policy path text result) :
    Grown files result.1 ∨ ∃ place, KeptBut place files result.1 ∧
      result.1.resolve path = .ok (place, .file (Utf8.encode text)) ∧
        (result.2 = .ok (path, .created) ∧ files.pathExists path = false ∨ policy = .overwrite) := by
  cases ending with
  | skipped present careful => exact .inl (.refl files)
  | created absent placed held => exact .inr ⟨_, kept_but_of_placed placed held, held, .inl ⟨rfl, absent⟩⟩
  | overwritten asked present placed held => exact .inr ⟨_, kept_but_of_placed placed held, held, .inr asked⟩
  | failed error due raised => exact .inl raised.grown

theorem schema_kept (ending : Ending files policy path text result) {schema : Path} {name : Bytes}
    (beside : Helper.Beside schema path name) {place : Location} {node : Node}
    (given : files.resolve schema = .ok (place, node)) : result.1.resolve schema = .ok (place, node) := by
  rcases rest_of_ending ending with grown | ⟨target, kept, held, _⟩
  · exact FileSystem.resolve_grown grown given
  · exact FileSystem.resolve_kept kept (beside.apart given held) given

-- A generation reports that it created the file of a helper, and the file stands at a place.
def Creates (files : FileSystem) (settings : Settings) (policy : WritePolicy) (language : Language)
    (descriptor : Descriptor) (place : Location) : Prop :=
  ∃ path node, (writeSource files settings policy language descriptor).2 = .ok (path, .created) ∧
    (writeSource files settings policy language descriptor).1.resolve path = .ok (place, node)

theorem free_of_creates {settings : Settings} {language : Language} {descriptor : Descriptor} {place : Location}
    (onward : descriptor.inputFile.Onward)
    (creates : Creates files settings policy language descriptor place) : files.node? place = none := by
  obtain ⟨path, node, answer, resolved⟩ := creates
  cases valid : descriptor.validate with
  | error error =>
      rw [write_source_of_invalid files settings policy language valid] at answer
      cases answer
  | ok done =>
      obtain ⟨helper, text, led, _, ending⟩ := write_source_ends files settings policy valid
      obtain ⟨name, beside⟩ := Helper.beside_of_source_path led
      generalize writeSource files settings policy language descriptor = result at answer resolved ending
      cases ending with
      | skipped => cases answer
      | overwritten => cases answer
      | failed => cases answer
      | created absent placed held =>
          cases answer
          cases held.symm.trans resolved
          cases there : files.node? place with
          | none => rfl
          | some node =>
              cases node with
              | directory =>
                  have still := placed.directory place there
                  rw [FileSystem.node_of_resolve resolved] at still
                  cases still
              | file content =>
                  have before := FileSystem.resolved_before (beside.onward onward) placed.start there resolved
                  rw [FileSystem.pathExists, before] at absent
                  cases absent

end Generation
end Companion
