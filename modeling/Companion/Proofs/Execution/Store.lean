import Companion.Proofs.Execution.Requests
import Companion.Proofs.FileSystem.Created
import Companion.Proofs.Xml.RoundTrip

/-!
Files as a store of objects. Main statement: `load_after_save`, what was saved under a path is what
every later load from it gives, as long as nothing else is saved under that path.
-/
set_option autoImplicit false

namespace Companion.Helper

open Execution (host)
open FileSystem (KeptBut Plain)

/-! ## What a save leaves in its file -/

-- The place to which a path of names leads.
def placeOf (files : FileSystem) (path : String) : Location :=
  (Path.ofString path).segments.reverse ++ files.start

-- The file of a path holds a text.
def Stored (files : FileSystem) (path text : String) : Prop :=
  files.resolve (.ofString path) = .ok (placeOf files path, .file (Utf8.encode text))

theorem stored_kept {files after : FileSystem} {changed : Location} {path text : String}
    (kept : KeptBut changed files after) (apart : placeOf files path ≠ changed)
    (stored : Stored files path text) : Stored after path text := by
  have same : placeOf after path = placeOf files path := by
    rw [placeOf, placeOf, kept.start]
  rw [Stored, same]
  exact FileSystem.resolve_kept kept apart stored

theorem of_string_injective {first second : String} (same : Path.ofString first = Path.ofString second) :
    first = second := by
  have encoded : Utf8.encode first = Utf8.encode second := congrArg Path.bytes same
  have decoded := congrArg Utf8.decode? encoded
  simpa only [Utf8.decode?_encode, Option.some.injEq] using decoded

theorem places_apart {first second : String} (different : first ≠ second) (files : FileSystem) :
    placeOf files first ≠ placeOf files second :=
  FileSystem.places_apart (fun same => different (of_string_injective same)) files.start

theorem serialized_cases {root : String} {value : Value} {element : Option Xml.Element}
    (fits : Framework.serialized root value = .ok element) :
    (value = .null ∧ element = none) ∨
      ∃ held, value = .object held ∧ held.name = root ∧ element = some held := by
  cases value with
  | null =>
      cases fits
      exact .inl ⟨rfl, rfl⟩
  | object held =>
      by_cases named : held.name = root
      · rw [Framework.serialized, if_pos named] at fits
        cases fits
        exact .inr ⟨held, rfl, named, rfl⟩
      · rw [Framework.serialized, if_neg named] at fits
        cases fits
  | _ => cases fits

-- How far a save came: short of creating its file, or to writing some bytes into it, which are those
-- of the document if it succeeded.
theorem saved_cases (streams : Streams) (root path : String) (value : Value) :
    (FileSystem.Grown streams.files (saved streams root path value).1.files ∧
        ∃ fault, (saved streams root path value).2 = .error fault) ∨
      ∃ files created place bytes, FileSystem.Grown streams.files files ∧
        files.createFile (.ofString path) = .ok (created, place) ∧
        (saved streams root path value).1.files = created.writeAt place 0 bytes ∧
        ((saved streams root path value).2 = .ok () → ∃ element,
          Framework.serialized root value = .ok element ∧
          bytes = Utf8.encode (Xml.Document.text root element)) := by
  have grown := FileSystem.grown_create_directories streams.files (directoryOf path)
  unfold saved
  cases made : streams.files.createDirectories (directoryOf path) with
  | mk files result =>
      rw [made] at grown
      cases result with
      | error error => exact .inl ⟨grown, .io error, rfl⟩
      | ok done =>
          cases emptied : files.createFile (.ofString path) with
          | error error =>
              simp only [emptied]
              exact .inl ⟨grown, .io error, rfl⟩
          | ok target =>
              obtain ⟨created, place⟩ := target
              simp only [emptied]
              cases fits : Framework.serialized root value with
              | error fault =>
                  refine .inr ⟨files, created, place, [], grown, emptied, ?_, nofun⟩
                  rw [FileSystem.write_at_nothing]
                  rfl
              | ok element =>
                  exact .inr ⟨files, created, place, _, grown, emptied, rfl, fun _ => ⟨element, rfl, rfl⟩⟩

theorem created_place {files grown created : FileSystem} {place : Location} {path : String}
    (plain : Plain (.ofString path)) (begun : FileSystem.Grown files grown)
    (emptied : grown.createFile (.ofString path) = .ok (created, place)) : place = placeOf files path := by
  rw [FileSystem.create_plain plain emptied, begun.start]
  rfl

theorem saved_kept (streams : Streams) (root : String) {path : String} (value : Value)
    (plain : Plain (.ofString path)) :
    KeptBut (placeOf streams.files path) streams.files (saved streams root path value).1.files := by
  rcases saved_cases streams root path value with
    ⟨grown, _⟩ | ⟨files, created, place, bytes, grown, emptied, left, _⟩
  · exact grown.kept_but _
  · have here := created_place plain grown emptied
    subst here
    rw [left]
    exact (grown.kept_but _).trans ((FileSystem.kept_but_create emptied).trans
      (FileSystem.kept_but_write created _ 0 bytes))

theorem saved_stored {streams : Streams} {root path : String} {value : Value}
    (plain : Plain (.ofString path)) (done : (saved streams root path value).2 = .ok ()) :
    ∃ element, Framework.serialized root value = .ok element ∧
      Stored (saved streams root path value).1.files path (Xml.Document.text root element) := by
  have kept := saved_kept streams root value plain
  rcases saved_cases streams root path value with
    ⟨_, fault, failed⟩ | ⟨files, created, place, bytes, grown, emptied, left, succeeded⟩
  · cases done.symm.trans failed
  · obtain ⟨element, fits, written⟩ := succeeded done
    refine ⟨element, fits, ?_⟩
    have same : placeOf (saved streams root path value).1.files path = place := by
      rw [created_place plain grown emptied, placeOf, placeOf, kept.start]
    rw [Stored, same, left, written]
    exact FileSystem.resolve_written emptied _

/-! ## What a load makes of it -/

theorem loaded_of_stored {files : FileSystem} {path text : String} (root : String)
    (stored : Stored files path text) : loaded files root path = Framework.deserialized root text := by
  rw [loaded_of_resolve stored, FileSystem.content_at_of_resolve stored]
  simp [FileSystem.content, FileSystem.asText, bind, Except.bind]

theorem deserialized_of_serialized {root : String} {value : Value} {element : Option Xml.Element}
    (named : Identifier.isValid root = true)
    (inner : ∀ held, value = .object held → held.InnerNames fun name => Identifier.isValid name = true)
    (fits : Framework.serialized root value = .ok element) :
    Framework.deserialized root (Xml.Document.text root element) = .ok value := by
  have tag := Xml.tag_name_of_valid root named
  rcases serialized_cases fits with ⟨rfl, rfl⟩ | ⟨held, rfl, same, rfl⟩
  · rw [Framework.deserialized, Xml.Document.read_text_nil root tag]
  · have names := Xml.inner_names_mono Xml.tag_name_of_valid held (inner held rfl)
    rw [Framework.deserialized, Xml.Document.read_text root held tag names, Xml.renamed_same same]

/-! ## Sessions -/

section

variable {source : CommentSource} {name : String} (accepted : source.descriptor.Accepted name)
  (settings : ContentSettings) (depth : Nat)

include accepted

-- A request leaves the file of a path alone unless it saves under that path.
theorem ask_stored {session : Session} {request : Request} {path text : String}
    (apart : ∀ number other, request = .call number saveMethod [.text other] →
      Plain (.ofString other) ∧ other ≠ path)
    (stored : Stored session.streams.files path text) :
    Stored (session.ask (helperClass source settings) (depth + 2) request).1.streams.files path text := by
  have worked := ask_worked accepted settings depth session request
  generalize (session.ask (helperClass source settings) (depth + 2) request).1.streams = after at worked ⊢
  cases worked with
  | idle passive => exact stored
  | refused member active => exact stored
  | load other active =>
      rw [load_streams_files]
      exact stored
  | save number other same =>
      obtain ⟨plainOther, different⟩ := apart number other same
      have kept := saved_kept session.streams source.descriptor.className
        (held source.descriptor (session.object number)) plainOther
      exact stored_kept kept (places_apart (Ne.symm different) session.streams.files) stored

theorem run_stored {session : Session} {requests : List Request} {path text : String}
    (apart : ∀ request ∈ requests, ∀ number other, request = .call number saveMethod [.text other] →
      Plain (.ofString other) ∧ other ≠ path)
    (stored : Stored session.streams.files path text) :
    Stored (session.run (helperClass source settings) (depth + 2) requests).streams.files path text := by
  induction requests generalizing session with
  | nil => exact stored
  | cons request rest ih =>
      refine ih (fun other member => apart other (List.mem_cons_of_mem request member)) ?_
      exact ask_stored accepted settings depth (apart request List.mem_cons_self) stored

end

theorem run_append (cls : Code.Class) (depth : Nat) (session : Session) (before after : List Request) :
    session.run cls depth (before ++ after) = (session.run cls depth before).run cls depth after :=
  List.foldl_append

theorem run_cons (cls : Code.Class) (depth : Nat) (session : Session) (request : Request)
    (rest : List Request) :
    session.run cls depth (request :: rest) = (session.ask cls depth request).1.run cls depth rest := rfl

theorem held_of_slot (descriptor : Descriptor) (value : Value) :
    held descriptor [(descriptor.slot, value)] = value := by
  simp [held, Bindings.get?]

theorem object_of_last (streams : Streams) (objects : List HelperObject) (last : HelperObject) :
    Session.object ⟨streams, objects ++ [last]⟩ objects.length = last := by
  simp [Session.object]

-- After a save that succeeded and requests that saved nothing else under its path, reading the file
-- gives the value that was saved.
theorem loaded_after_save {source : CommentSource} {name : String}
    (accepted : source.descriptor.Accepted name) (settings : ContentSettings) (depth : Nat)
    {session : Session} {between : List Request} {saver : Nat} {path : String} {answer : Answer}
    (plain : Plain (.ofString path))
    (names : ∀ element, held source.descriptor (session.object saver) = .object element →
      element.InnerNames fun name => Identifier.isValid name = true)
    (done : (session.ask (helperClass source settings) (depth + 2)
      (.call saver saveMethod [.text path])).2 = .ok answer)
    (apart : ∀ request ∈ between, ∀ number other, request = .call number saveMethod [.text other] →
      Plain (.ofString other) ∧ other ≠ path) :
    (held source.descriptor (session.object saver) = .null ∨
        ∃ element, held source.descriptor (session.object saver) = .object element ∧
          element.name = source.descriptor.className) ∧
      loaded ((session.ask (helperClass source settings) (depth + 2)
          (.call saver saveMethod [.text path])).1.run (helperClass source settings) (depth + 2)
            between).streams.files source.descriptor.className path =
        .ok (held source.descriptor (session.object saver)) := by
  have asked := ask_save accepted settings depth session saver path
  rw [asked] at done ⊢
  have written : (saved session.streams source.descriptor.className path
      (held source.descriptor (session.object saver))).2 = .ok () := by
    cases outcome : (saved session.streams source.descriptor.className path
        (held source.descriptor (session.object saver))).2 with
    | error fault =>
        rw [outcome] at done
        cases done
    | ok done => rfl
  obtain ⟨element, fits, stored⟩ := saved_stored plain written
  refine ⟨?_, ?_⟩
  · rcases serialized_cases fits with ⟨isNull, _⟩ | ⟨element, isObject, named, _⟩
    · exact .inl isNull
    · exact .inr ⟨element, isObject, named⟩
  · rw [loaded_of_stored _ (run_stored accepted settings depth apart stored)]
    exact deserialized_of_serialized accepted.className names fits

/-- What a save left under a path of names is what each later load and construction from it gives. -/
theorem load_after_save {settings : ContentSettings} {descriptor : Descriptor} {model : Code.Model}
    (built : build settings descriptor = .ok model) (depth : Nat) (start : Session)
    (before between : List Request) (saver : Nat) (path : String) (value : Value) (answer : Answer)
    (plain : Plain (.ofString path))
    (held : ((start.run model.cls (depth + 2) before).ask model.cls (depth + 2)
      (.get saver descriptor.propertyName)).2 = .ok (.value value))
    (names : ∀ element, value = .object element →
      element.InnerNames fun name => Identifier.isValid name = true)
    (saved : ((start.run model.cls (depth + 2) before).ask model.cls (depth + 2)
      (.call saver saveMethod [.text path])).2 = .ok answer)
    (apart : ∀ request ∈ between, ∀ number other, request = .call number saveMethod [.text other] →
      Plain (.ofString other) ∧ other ≠ path) :
    let after := start.run model.cls (depth + 2) (before ++ .call saver saveMethod [.text path] :: between)
    (value = .null ∨ ∃ element, value = .object element ∧ element.name = descriptor.className) ∧
      (∀ loader, (after.ask model.cls (depth + 2) (.call loader loadMethod [.text path])).2 =
        .ok (.value value)) ∧
      ∃ number, (after.ask model.cls (depth + 2) (.construct [.text path])).2 = .ok (.object number) ∧
        ((after.ask model.cls (depth + 2) (.construct [.text path])).1.ask model.cls (depth + 2)
          (.get number descriptor.propertyName)).2 = .ok (.value value) := by
  obtain ⟨name, valid, same⟩ := build_accepted built
  let source : CommentSource := ⟨descriptor, name, settings.generatorName⟩
  have accepted : source.descriptor.Accepted name := valid
  rw [same] at held saved ⊢
  rw [ask_property accepted settings (depth + 1)] at held
  cases held
  obtain ⟨shape, found⟩ := loaded_after_save accepted settings depth plain names saved apart
  rw [← run_cons, ← run_append] at found
  refine ⟨shape, ?_, ?_⟩
  · intro loader
    rw [ask_load, found]
    rfl
  · have constructed := ask_construct_file accepted settings depth _ found
    rw [constructed]
    refine ⟨_, rfl, ?_⟩
    rw [ask_property accepted settings (depth + 1), object_of_last, held_of_slot]

def poem : Xml.Element := .text "Book" "x < y"

theorem saved_poem : (saved { files := {} } "Book" "a.xml" (.object poem)).2 = .ok () := by
  have here : ({} : FileSystem).createDirectories (directoryOf "a.xml") = ({}, .ok ()) := by
    rw [FileSystem.createDirectories]
    rfl
  rw [saved, here]
  rfl

theorem load_after_save_poem : ∃ model, build {} Descriptor.book = .ok model ∧
    (((Session.fresh {}).run model.cls 2 [.construct [.object poem], .construct [],
      .call 0 saveMethod [.text "a.xml"], .call 1 saveMethod [.text "b.xml"]]).ask model.cls 2
        (.call 1 loadMethod [.text "a.xml"])).2 = .ok (.value (.object poem)) := by
  obtain ⟨name, accepted, _⟩ := build_accepted build_book
  let source : CommentSource := ⟨Descriptor.book, "book_HelperClass", "xsdhelper"⟩
  let constructed : Session := ⟨{ files := {} }, [[("Data", .object poem)], []]⟩
  have plainFirst : Plain (.ofString "a.xml") := by
    unfold Plain
    decide
  have plainSecond : Plain (.ofString "b.xml") := by
    unfold Plain
    decide
  have names : ∀ element, Value.object poem = .object element →
      element.InnerNames fun name => Identifier.isValid name = true := by
    intro element same
    cases same
    trivial
  have done : (constructed.ask (helperClass source {}) 2 (.call 0 saveMethod [.text "a.xml"])).2 =
      .ok (.value .null) := by
    have written : (saved constructed.streams source.descriptor.className "a.xml"
      (held source.descriptor (constructed.object 0))).2 = .ok () := saved_poem
    have valid : source.descriptor.Accepted name := accepted
    rw [ask_save valid, written]
    rfl
  have apart : ∀ request ∈ [Request.call 1 saveMethod [.text "b.xml"]], ∀ number other,
      request = .call number saveMethod [.text other] → Plain (.ofString other) ∧ other ≠ "a.xml" := by
    intro request member number other called
    rw [List.mem_singleton.mp member] at called
    cases called
    exact ⟨plainSecond, by decide⟩
  obtain ⟨_, loads, _⟩ := load_after_save build_book 0 (Session.fresh {})
    [.construct [.object poem], .construct []] [.call 1 saveMethod [.text "b.xml"]] 0 "a.xml"
    (.object poem) (.value .null) plainFirst rfl names done apart
  exact ⟨_, build_book, loads 1⟩

end Companion.Helper
