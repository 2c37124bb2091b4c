import Companion.Proofs.Execution.Save
import Companion.Proofs.FileSystem.Directories

/-!
Saving as direct writing. Main statement: `save_refines_direct_writing`, a call of the method that saves
does to the files what making the directory and writing the document does, and answers the same.
-/
set_option autoImplicit false

namespace Companion.Helper

open FileSystem (Grown Placed)

-- The document of a value, if there is one under the name of the root.
def document? (root : String) : Value → Option String
  | .null => some (Xml.Document.text root none)
  | .object element =>
    if element.name = root then some (Xml.Document.text root (some element)) else none
  | _ => none

-- Writing a value to a file without a stream or a helper object: its directory, then the document, or
-- nothing if there is none.
def written (files : FileSystem) (root path : String) (value : Value) : FileSystem × Except Fault Unit :=
  match files.createDirectories (Path.ofString path).directory with
  | (files, .error error) => (files, .error (.io error))
  | (files, .ok ()) =>
    match files.writeFile (.ofString path) (((document? root value).map Utf8.encode).getD []) with
    | .error error => (files, .error (.io error))
    | .ok files =>
      (files, if (document? root value).isSome then .ok () else .error (.invalidCast value.typeName root))

theorem serialized_of_document {root text : String} {value : Value} (fits : document? root value = some text) :
    ∃ element, Framework.serialized root value = .ok element ∧ text = Xml.Document.text root element := by
  cases value with
  | null =>
      cases fits
      exact ⟨none, rfl, rfl⟩
  | object element =>
      by_cases named : element.name = root
      · rw [document?, if_pos named] at fits
        cases fits
        exact ⟨some element, if_pos named, rfl⟩
      · rw [document?, if_neg named] at fits
        cases fits
  | _ => cases fits

theorem serialized_of_undocumented {root : String} {value : Value} (unfit : document? root value = none) :
    Framework.serialized root value = .error (.invalidCast value.typeName root) := by
  cases value with
  | null => cases unfit
  | object element =>
      by_cases named : element.name = root
      · rw [document?, if_pos named] at unfit
        cases unfit
      · exact if_neg named
  | _ => rfl

theorem directory_of_save (path : String) : directoryOf path = (Path.ofString path).directory :=
  Path.directory_of_string path

theorem saved_eq_written (streams : Streams) (root path : String) (value : Value) :
    (saved streams root path value).1.files = (written streams.files root path value).1 ∧
      (saved streams root path value).2 = (written streams.files root path value).2 := by
  unfold saved written
  rw [directory_of_save]
  cases made : streams.files.createDirectories (Path.ofString path).directory with
  | mk files result =>
      cases result with
      | error error => exact ⟨rfl, rfl⟩
      | ok done =>
          cases emptied : files.createFile (.ofString path) with
          | error error =>
              simp only [emptied, FileSystem.writeFile]
              exact ⟨rfl, rfl⟩
          | ok target =>
              obtain ⟨created, place⟩ := target
              have put (bytes : Bytes) : files.writeFile (.ofString path) bytes =
                  .ok (created.writeAt place 0 bytes) := by
                rw [FileSystem.writeFile, emptied]
                rfl
              simp only [emptied, put]
              cases fits : document? root value with
              | none =>
                  rw [serialized_of_undocumented fits]
                  exact ⟨(FileSystem.write_at_nothing created place 0).symm, rfl⟩
              | some text =>
                  obtain ⟨element, serialized, same⟩ := serialized_of_document fits
                  rw [serialized, same]
                  exact ⟨rfl, rfl⟩

-- How a save ends: with the document in the file, with a file that was emptied for a value that has no
-- document, or with an error that left every file as it was.
inductive Ending (before after : FileSystem) (root path : String) (value : Value) :
    Except Fault Unit → Prop
  | done {text : String} {place : Location} (fits : document? root value = some text)
      (found : after.resolve (.ofString path) = .ok (place, .file (Utf8.encode text))) :
      Ending before after root path value (.ok ())
  | unfit {place : Location} (unfit : document? root value = none)
      (found : after.resolve (.ofString path) = .ok (place, .file [])) :
      Ending before after root path value (.error (.invalidCast value.typeName root))
  | failed (error : IoError) (kept : Grown before after) :
      Ending before after root path value (.error (.io error))

theorem written_ends (files : FileSystem) (root path : String) (value : Value) :
    Placed (.ofString path) files (written files root path value).1 ∧
      Ending files (written files root path value).1 root path value (written files root path value).2 := by
  have raised := FileSystem.raised_directory files (.ofString path)
  unfold written
  cases made : files.createDirectories (Path.ofString path).directory with
  | mk between result =>
      rw [made] at raised
      cases result with
      | error error => exact ⟨FileSystem.placed_of_raised raised, .failed error raised.grown⟩
      | ok done =>
          dsimp only
          cases put : between.writeFile (.ofString path) (((document? root value).map Utf8.encode).getD []) with
          | error error => exact ⟨FileSystem.placed_of_raised raised, .failed error raised.grown⟩
          | ok after =>
              obtain ⟨place, wrote⟩ := FileSystem.wrote_of_write_file put
              refine ⟨FileSystem.placed_write raised put, ?_⟩
              have found := wrote.resolved
              cases fits : document? root value with
              | none =>
                  rw [fits] at found
                  exact .unfit fits found
              | some text =>
                  rw [fits] at found
                  exact .done fits found

/-- Saving to a path acts on the files, and answers, as making the directory of the path and writing the
document of the held value does; the object keeps its fields, and no other file is touched. -/
theorem save_refines_direct_writing {settings : ContentSettings} {descriptor : Descriptor}
    {model : Code.Model} (built : build settings descriptor = .ok model) (depth : Nat)
    (streams : Streams) (object : HelperObject) (path : String) :
    ∃ value after,
      Execution.getProperty model.cls (depth + 1) streams object descriptor.propertyName =
        (streams, object, .ok value) ∧
      Execution.call model.cls (depth + 2) streams object saveMethod [.text path] =
        (after, object, ((written streams.files descriptor.className path value).2.map fun _ => .null).mapError
          Stop.fault) ∧
      after.files = (written streams.files descriptor.className path value).1 ∧
      Placed (.ofString path) streams.files after.files ∧
      Ending streams.files after.files descriptor.className path value
        (written streams.files descriptor.className path value).2 := by
  obtain ⟨name, valid, same⟩ := build_accepted built
  let source : CommentSource := ⟨descriptor, name, settings.generatorName⟩
  have accepted : source.descriptor.Accepted name := valid
  let value := held descriptor object
  obtain ⟨files, outcome⟩ := saved_eq_written streams descriptor.className path value
  obtain ⟨placed, ended⟩ := written_ends streams.files descriptor.className path value
  have read := get_forwarding accepted settings depth { streams, object, frame := { member := "" } }
  have called := call_save accepted settings depth path { streams, object, frame := { member := "" } }
  refine ⟨value, (saved streams descriptor.className path value).1, ?_, ?_, files, ?_, ?_⟩
  · rw [same, Execution.getProperty, Execution.onObject, read]
  · rw [same, Execution.call, Execution.onObject, called, ← outcome]
    cases (saved streams descriptor.className path value).2 with
    | error fault => rfl
    | ok done => rfl
  · rw [files]
    exact placed
  · rw [files]
    exact ended

theorem save_refines_direct_writing_book : ∃ model, build {} Descriptor.book = .ok model ∧
    ∃ after place, Execution.call model.cls 2 { files := {} } [] saveMethod [.text "a.xml"] =
        (after, [], .ok .null) ∧
      after.files.resolve (.ofString "a.xml") =
        .ok (place, .file (Utf8.encode (Xml.Document.text "Book" none))) := by
  obtain ⟨value, after, read, called, _, _, ended⟩ :=
    save_refines_direct_writing build_book 0 { files := {} } [] "a.xml"
  have empty : value = .null := by
    cases read
    rfl
  subst empty
  have here : ({} : FileSystem).createDirectories (Path.ofString "a.xml").directory = ({}, .ok ()) := by
    rw [FileSystem.createDirectories]
    rfl
  have wrote : (written ({ files := {} } : Streams).files Descriptor.book.className "a.xml" .null).2 =
      .ok () := by
    rw [written, here]
    rfl
  rw [wrote] at called ended
  cases ended with
  | done fits found =>
      cases fits
      exact ⟨_, build_book, after, _, called, found⟩

end Companion.Helper
