import Companion.Proofs.Helper.Generated
import Companion.Proofs.Helper.Members

/-!
Generations and edits one after the other. Main statement: `helper_files_kept`, a generation changes no file but
that of its helper class, never the schema, and a file stays as it was edited last unless a careful generation
creates it anew.
-/
set_option autoImplicit false

namespace Companion

open Helper (Settings WritePolicy createParents sourcePath)

namespace Generation

variable {files : FileSystem}

-- A careful run, or an edit of a file that is there.
inductive Change
  | generate (settings : Settings) (language : Language) (descriptor : Descriptor)
  | edit (place : Location) (content : Bytes)

namespace Change

def apply (files : FileSystem) : Change → FileSystem
  | .generate settings language descriptor => (writeSource files settings .ifMissing language descriptor).1
  | .edit place content => files.modify place fun _ => content

def applyAll (files : FileSystem) (changes : List Change) : FileSystem := changes.foldl apply files

-- The content of a file when only edits count.
def lastEdit (place : Location) (content : Bytes) : List Change → Bytes
  | [] => content
  | .generate .. :: rest => lastEdit place content rest
  | .edit other new :: rest => lastEdit place (if other = place then new else content) rest

-- A careful run that creates the file of a helper at a place.
def Creates (files : FileSystem) (place : Location) : Change → Prop
  | .generate settings language descriptor =>
    Generation.Creates files settings .ifMissing language descriptor place
  | .edit .. => False

-- No run creates the file of a helper at a place.
def Spares (place : Location) : FileSystem → List Change → Prop
  | _, [] => True
  | files, change :: rest => ¬ change.Creates files place ∧ Spares place (change.apply files) rest

-- A run for a schema whose path never leads up.
def Onward : Change → Prop
  | .generate _ _ descriptor => descriptor.inputFile.Onward
  | .edit .. => True

variable {place : Location} {content : Bytes}

theorem generate_kept {settings : Settings} {language : Language} {descriptor : Descriptor}
    (there : files.node? place = some (.file content))
    (spared : ¬ (Change.generate settings language descriptor).Creates files place) :
    (writeSource files settings .ifMissing language descriptor).1.node? place = some (.file content) := by
  cases valid : descriptor.validate with
  | error error =>
      rw [write_source_of_invalid files settings .ifMissing language valid]
      exact there
  | ok done =>
      obtain ⟨path, text, _, _, whole⟩ := source_of_valid settings language valid
      rcases rest_of_ending (ending_of_source files .ifMissing whole) with
        grown | ⟨target, kept, held, ⟨answer, _⟩ | asked⟩
      · exact grown.node place _ there
      · have apart : place ≠ target := by
          intro same
          exact spared ⟨path, _, answer, same ▸ held⟩
        exact kept.node place _ apart there
      · cases asked

theorem edit_kept (other : Location) (new : Bytes) (there : files.node? place = some (.file content)) :
    ((Change.edit other new).apply files).node? place =
      some (.file (if other = place then new else content)) := by
  rw [apply]
  by_cases same : other = place
  · subst same
    rw [FileSystem.node?_modify there, if_pos rfl, if_pos rfl]
  · rw [if_neg same]
    exact (FileSystem.kept_but_modify files other _).node place _ (Ne.symm same) there

theorem apply_all_kept {changes : List Change} (there : files.node? place = some (.file content))
    (spares : Spares place files changes) :
    (applyAll files changes).node? place = some (.file (lastEdit place content changes)) := by
  induction changes generalizing files content with
  | nil => exact there
  | cons change rest ih =>
      obtain ⟨spared, further⟩ := spares
      cases change with
      | generate settings language descriptor => exact ih (generate_kept there spared) further
      | edit other new => exact ih (edit_kept other new there) further

theorem creates_nothing {change : Change} (onward : change.Onward)
    (there : files.node? place = some (.file content)) : ¬ change.Creates files place := by
  cases change with
  | edit other new => exact nofun
  | generate settings language descriptor =>
      intro creates
      rw [free_of_creates onward creates] at there
      cases there

theorem spares_of_onward {changes : List Change} (onward : ∀ change ∈ changes, change.Onward)
    (there : files.node? place = some (.file content)) : Spares place files changes := by
  induction changes generalizing files content with
  | nil => trivial
  | cons change rest ih =>
      have spared := creates_nothing (onward change List.mem_cons_self) there
      refine ⟨spared, ?_⟩
      have further : ∀ other ∈ rest, other.Onward := fun other member =>
        onward other (List.mem_cons_of_mem change member)
      cases change with
      | generate settings language descriptor => exact ih further (generate_kept there spared)
      | edit other new => exact ih further (edit_kept other new there)

end Change

open Change (applyAll lastEdit Spares)

/-- An invalid descriptor changes nothing; otherwise the file of the helper is written as the policy has it, with
the directories that it needs, and no other one changes, the schema least of all. Over any runs and edits a file
stays as it was left last, unless a careful run created it anew, which only a path that leads up can bring
about. -/
theorem helper_files_kept (files : FileSystem) :
    (∀ (settings : Settings) (policy : WritePolicy) (language : Language) (descriptor : Descriptor),
      (∀ error, descriptor.validate = .error error →
        writeSource files settings policy language descriptor = (files, .error (.descriptor error))) ∧
      (descriptor.validate = .ok () → ∃ path text, sourcePath descriptor.inputFile language = .ok path ∧
        sourceText settings language descriptor = .ok text ∧
        Ending files policy path text (writeSource files settings policy language descriptor)) ∧
      (∀ place node, files.resolve descriptor.inputFile = .ok (place, node) →
        (writeSource files settings policy language descriptor).1.resolve descriptor.inputFile =
          .ok (place, node)) ∧
      (descriptor.inputFile.Onward → ∀ place,
        Creates files settings policy language descriptor place → files.node? place = none)) ∧
    ∀ (changes : List Change) (place : Location) (content : Bytes), files.node? place = some (.file content) →
      (Spares place files changes →
        (applyAll files changes).node? place = some (.file (lastEdit place content changes))) ∧
      ((∀ change ∈ changes, change.Onward) → Spares place files changes) := by
  constructor
  · intro settings policy language descriptor
    refine ⟨fun error => write_source_of_invalid files settings policy language,
      write_source_ends files settings policy, ?_, fun onward place => free_of_creates onward⟩
    intro place node given
    cases valid : descriptor.validate with
    | error error =>
        rw [write_source_of_invalid files settings policy language valid]
        exact given
    | ok done =>
        obtain ⟨path, text, led, _, ending⟩ := write_source_ends files settings policy valid
        obtain ⟨name, beside⟩ := Helper.beside_of_source_path led
        exact schema_kept ending beside given
  · intro changes place content there
    exact ⟨Change.apply_all_kept there, fun onward => Change.spares_of_onward onward there⟩

def helperPlace : Location := [Utf8.encode "book_HelperClass.cs"]

def remark : Bytes := Utf8.encode "edited by hand"

-- A schema with a helper class beside it.
def shelf : FileSystem := .ofTexts [("book.xsd", "<xs:schema/>"), ("book_HelperClass.cs", "edited by hand")]

theorem helper_files_kept_book :
    (∃ path text, sourcePath Descriptor.book.inputFile .csharp = .ok path ∧
      sourceText {} .csharp Descriptor.book = .ok text ∧
      Ending shelf .ifMissing path text (writeSource shelf {} .ifMissing .csharp Descriptor.book)) ∧
    (applyAll shelf [.edit helperPlace [], .generate {} .csharp Descriptor.book]).node? helperPlace =
      some (.file []) := by
  obtain ⟨single, runs⟩ := helper_files_kept shelf
  obtain ⟨kept, spared⟩ := runs [.edit helperPlace [], .generate {} .csharp Descriptor.book] helperPlace remark
    (by decide +kernel)
  refine ⟨(single {} .ifMissing .csharp Descriptor.book).2.1 rfl, kept (spared ?_)⟩
  intro change listed
  rcases List.mem_cons.mp listed with rfl | last
  · trivial
  · cases List.mem_singleton.mp last
    have straight : Path.twoDots ∉ Descriptor.book.inputFile.segments := by decide
    exact straight

-- A path that leads up out of a directory that is not there.
def detour : Descriptor := { Descriptor.book with inputFile := .ofString "new/../book.xsd" }

theorem hand_edit_overwritten : ¬ ∀ (files : FileSystem) (changes : List Change) (place : Location) (content : Bytes),
    files.node? place = some (.file content) →
      (applyAll files changes).node? place = some (.file (lastEdit place content changes)) := by
  intro kept
  have lost : (applyAll shelf [.generate {} .csharp detour]).node? helperPlace ≠ some (.file remark) := by
    decide +kernel
  exact lost (kept shelf [.generate {} .csharp detour] helperPlace remark (by decide +kernel))

end Generation
end Companion
