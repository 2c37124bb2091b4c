import Companion.Proofs.Execution.Ready
import Companion.Proofs.Xml.Grammar

/-!
Loading. Main statement: `call_load`, the method that loads gives what reading the file directly
gives, value or fault, and it leaves the files and the object as they were.
-/
set_option autoImplicit false

namespace Companion.Helper

open Execution (host)

-- What reading a file gives, step by step and without a helper object: opening it, its bytes, their
-- text, the document in that text.
def loaded (files : FileSystem) (root path : String) : Except Fault Value := do
  let (_, node) ← (files.resolve (.ofString path)).mapError .io
  let bytes ← (FileSystem.content node).mapError .io
  let text ← (FileSystem.asText bytes).mapError .io
  match ← (Xml.Document.read root text).mapError .ofReadError with
  | none => return .null
  | some element => return .object element

-- The streams after a load: only a path that leads somewhere is opened.
def loadStreams (streams : Streams) (path : String) : Streams :=
  match streams.files.resolve (.ofString path) with
  | .ok _ => streams.finished streams.files (.ofString path) .read loadMethod
  | .error _ => streams.enterFinally loadMethod

theorem load_streams_files (streams : Streams) (path : String) :
    (loadStreams streams path).files = streams.files := by
  unfold loadStreams
  split <;> rfl

section

variable (host : Host) (context : Context) {streams : Streams}

theorem invoke_open_read (path : String) :
    Framework.invoke (.type (.framework .file)) "OpenRead" [.text path] =
      (do return .stream (← Exec.onStreams (·.openRead (.ofString path)))) := rfl

theorem run_deserialize_of_error {descriptor : Descriptor} {id : StreamId} {fault : Fault}
    (given : context.frame.locals.get? serializerVariable = some (.serializer descriptor.className))
    (declared : context.frame.locals.get? streamVariable = some (.stream id))
    (unread : context.streams.readText id = (streams, .error fault)) :
    host.run (deserialize descriptor) context = .error (.fault fault) { context with streams } := by
  simp [deserialize, stream, Host.run, Host.evaluate, Host.evaluateAll, Host.invoke,
    Framework.invoke, given, declared, Exec.onStreams, unread]

theorem deserialized_assignable {root text : String} {value : Value}
    (found : Framework.deserialized root text = .ok value) : value.isAssignableTo (.named root) = true := by
  unfold Framework.deserialized at found
  split at found
  · cases found
    rfl
  · rename_i element read
    cases found
    simp [Value.isAssignableTo, Xml.Document.name_of_read read]
  · cases found

theorem run_deserialize {descriptor : Descriptor} {id : StreamId} {text : String}
    (given : context.frame.locals.get? serializerVariable = some (.serializer descriptor.className))
    (declared : context.frame.locals.get? streamVariable = some (.stream id))
    (result : context.frame.locals.get? resultVariable = some .null)
    (read : context.streams.readText id = (streams, .ok text)) :
    host.run (deserialize descriptor) context =
      match Framework.deserialized descriptor.className text with
      | .ok value => .ok .next { context with
          streams
          frame := { context.frame with
            locals := Bindings.set resultVariable value context.frame.locals } }
      | .error fault => .error (.fault fault) { context with streams } := by
  cases found : Framework.deserialized descriptor.className text with
  | error fault =>
      simp [deserialize, stream, Host.run, Host.evaluate, Host.evaluateAll, Host.invoke,
        Framework.invoke, given, declared, Exec.onStreams, read, found]
  | ok value =>
      simp [deserialize, stream, Host.run, Host.evaluate, Host.evaluateAll, Host.invoke,
        Framework.invoke, given, declared, result, Exec.onStreams, read, found, wrapped,
        Frame.checkType, deserialized_assignable found, Host.assign]

theorem loaded_of_refused {files : FileSystem} {root path : String} {error : IoError}
    (refused : files.resolve (.ofString path) = .error error) :
    loaded files root path = .error (.io error) := by
  rw [loaded, refused]
  rfl

theorem loaded_of_resolve {files : FileSystem} {root path : String} {place : Location} {node : Node}
    (resolved : files.resolve (.ofString path) = .ok (place, node)) :
    loaded files root path =
      ((files.contentAt place >>= FileSystem.asText).mapError .io >>= Framework.deserialized root) := by
  rw [loaded, resolved, FileSystem.content_at_of_resolve resolved]
  cases held : FileSystem.content node with
  | error error => simp [held, bind, Except.bind]
  | ok bytes =>
      cases decoded : FileSystem.asText bytes with
      | error error => simp [held, decoded, bind, Except.bind]
      | ok text =>
          cases read : Xml.Document.read root text with
          | error error => simp [held, decoded, read, Framework.deserialized, bind, Except.bind]
          | ok object =>
              cases object <;>
                simp [held, decoded, read, Framework.deserialized, bind, Except.bind, pure, Except.pure]

def loadBlock (descriptor : Descriptor) : Code.Block :=
  [openFile, declareSerializer descriptor, deserialize descriptor]

theorem attempt_load_refused {descriptor : Descriptor} {path : String} {error : IoError}
    (begun : Begun context loadMethod path)
    (refused : context.streams.files.resolve (.ofString path) = .error error) :
    Exec.attempt (host.runBlock (loadBlock descriptor)) context = .ok (.error (.io error)) context ∧
      Ended context context (loadStreams context.streams path) := by
  have opened : host.run openFile context = .error (.fault (.io error)) context :=
    run_opens_of_error host context (invoke_open_read path) begun.given (Streams.open_read_of_error refused)
  refine ⟨Exec.attempt_fault (Host.run_block_stop opened), rfl, none, begun.unopened, ?_⟩
  rw [loadStreams, refused, begun.member]
  rfl

theorem attempt_load_resolved {descriptor : Descriptor} {path : String} {place : Location} {node : Node}
    (begun : Begun context loadMethod path)
    (declared : context.frame.locals.get? resultVariable = some .null)
    (resolved : context.streams.files.resolve (.ofString path) = .ok (place, node)) :
    ∃ after, Exec.attempt (host.runBlock (loadBlock descriptor)) context =
        .ok ((loaded context.streams.files descriptor.className path).map fun _ => .next) after ∧
      Ended context after (loadStreams context.streams path) ∧
      ∀ value, loaded context.streams.files descriptor.className path = .ok value →
        after.frame.locals.get? resultVariable = some value := by
  let files := context.streams.files
  let id := context.streams.table.length
  have opened := run_opens_of_ok host context (invoke_open_read path) begun.given begun.unopened
    (Streams.open_read_of_ok resolved)
  obtain ⟨offset, read⟩ := context.streams.read_text_opening files (.ofString path) place
  have settled : settle (context.streams.opening files (.ofString path) .read (.reader place offset))
      context.frame.member (some id) = (loadStreams context.streams path, .ok ()) := by
    rw [loadStreams, resolved, begun.member]
    exact Streams.release_opening _ _ _ _ loadMethod (.reader place offset)
  -- Up to here every load of a path that leads somewhere runs alike.
  let before : Context := { context with
    streams := context.streams.opening files (.ofString path) .read (.reader place 0)
    frame := ready context.frame descriptor id }
  have prepared : host.runBlock (loadBlock descriptor) context =
      host.runBlock [deserialize descriptor] before :=
    (Host.run_block_next opened).trans (Host.run_block_next (run_declare_serializer descriptor host _))
  have serializer := ready_serializer context.frame descriptor id
  have stream := ready_stream context.frame descriptor id
  have result : (ready context.frame descriptor id).locals.get? resultVariable = some .null := by
    rw [ready_other _ _ _ (by decide) (by decide)]
    exact declared
  rw [loaded_of_resolve resolved]
  cases text : (files.contentAt place >>= FileSystem.asText).mapError Fault.io with
  | error fault =>
      rw [text] at read
      have failed := run_deserialize_of_error host before serializer stream read
      exact ⟨_, Exec.attempt_fault (prepared.trans (Host.run_block_stop failed)),
        ⟨rfl, some id, stream, settled⟩, nofun⟩
  | ok content =>
      rw [text] at read
      have ran := run_deserialize host before serializer stream result read
      cases found : Framework.deserialized descriptor.className content with
      | error fault =>
          rw [found] at ran
          have direct : (Except.ok content >>= Framework.deserialized descriptor.className) =
              .error fault := found
          rw [direct]
          exact ⟨_, Exec.attempt_fault (prepared.trans (Host.run_block_stop ran)),
            ⟨rfl, some id, stream, settled⟩, nofun⟩
      | ok value =>
          rw [found] at ran
          have direct : (Except.ok content >>= Framework.deserialized descriptor.className) =
              .ok value := found
          have different : resultVariable ≠ streamVariable := by decide
          rw [direct]
          refine ⟨_, Exec.attempt_ok (prepared.trans ((Host.run_block_next ran).trans
            (Host.run_block_nil host _))), ⟨rfl, some id, ?_, settled⟩, ?_⟩
          · exact (Bindings.get?_set_other different value _).trans stream
          · intro other answered
            cases answered
            exact Bindings.get?_set_same resultVariable value _

theorem attempt_load {path : String} (descriptor : Descriptor) (begun : Begun context loadMethod path)
    (declared : context.frame.locals.get? resultVariable = some .null) :
    ∃ after, Exec.attempt (host.runBlock (loadBlock descriptor)) context =
        .ok ((loaded context.streams.files descriptor.className path).map fun _ => .next) after ∧
      Ended context after (loadStreams context.streams path) ∧
      ∀ value, loaded context.streams.files descriptor.className path = .ok value →
        after.frame.locals.get? resultVariable = some value := by
  cases resolved : context.streams.files.resolve (.ofString path) with
  | error error =>
      obtain ⟨attempted, ended⟩ := attempt_load_refused host context begun resolved
      rw [loaded_of_refused resolved]
      exact ⟨context, attempted, ended, nofun⟩
  | ok found =>
      obtain ⟨place, node⟩ := found
      exact attempt_load_resolved host context begun declared resolved

def loadFrame (argument : Value) : Frame where
  member := loadMethod
  locals := [(filePathParam, argument), (resultVariable, .null), (streamVariable, .null)]

-- Everything in front of the guard declares the variables.
theorem run_load_begun (source : CommentSource) (argument : Value) (streams : Streams)
    (object : HelperObject) :
    host.runBlock (load source).body
        ⟨streams, object, { member := loadMethod, locals := [(filePathParam, argument)] }⟩ =
      host.runBlock [
          guarded (loadBlock source.descriptor),
          .leave (some (.variable resultVariable))]
        ⟨streams, object, loadFrame argument⟩ := by
  have declared : host.run (.declare (wrapped source.descriptor) resultVariable (some .null))
      ⟨streams, object, { member := loadMethod, locals := [(filePathParam, argument)] }⟩ =
      .ok .next ⟨streams, object,
        { member := loadMethod, locals := [(filePathParam, argument), (resultVariable, .null)] }⟩ := by
    simp [Host.run, Host.evaluate?, Host.evaluate, Bindings.set, filePathParam, resultVariable]
  have stream : host.run declareStream
      ⟨streams, object,
        { member := loadMethod, locals := [(filePathParam, argument), (resultVariable, .null)] }⟩ =
      .ok .next ⟨streams, object, loadFrame argument⟩ := by
    simp [declareStream, Host.run, Host.evaluate?, Host.evaluate, Bindings.set, filePathParam,
      resultVariable, streamVariable, loadFrame]
  exact (Host.run_block_next declared).trans (Host.run_block_next stream)

theorem run_load (source : CommentSource) (path : String) (streams : Streams) (object : HelperObject) :
    ∃ frame, host.runBlock (load source).body
        ⟨streams, object, { member := loadMethod, locals := [(filePathParam, .text path)] }⟩ =
      Exec.ofExcept ((loaded streams.files source.descriptor.className path).map Flow.leave)
        ⟨loadStreams streams path, object, frame⟩ := by
  have begun : Begun ⟨streams, object, loadFrame (.text path)⟩ loadMethod path := ⟨rfl, rfl, rfl⟩
  obtain ⟨after, attempted, ⟨same, opened, held, settled⟩, result⟩ :=
    attempt_load host _ source.descriptor begun rfl
  have guard := run_guarded attempted held settled
  rw [run_load_begun host]
  refine ⟨after.frame, ?_⟩
  cases direct : loaded streams.files source.descriptor.className path with
  | error fault =>
      rw [direct] at guard
      rw [Host.run_block_stop guard, same]
      rfl
  | ok value =>
      rw [direct] at guard
      rw [Host.run_block_next guard, same]
      simp [Host.runBlock, Host.run, Host.evaluate?, Host.evaluate, result value direct]
      rfl

-- No file is opened for null, and the fault of the attempt is what the caller sees.
theorem run_load_null (source : CommentSource) (streams : Streams) (object : HelperObject) :
    ∃ frame, host.runBlock (load source).body
        ⟨streams, object, { member := loadMethod, locals := [(filePathParam, .null)] }⟩ =
      Exec.ofExcept (.error (Frame.noSuchCall "Type.OpenRead" [.null]))
        ⟨streams.enterFinally loadMethod, object, frame⟩ := by
  have refused : host.run openFile ⟨streams, object, loadFrame .null⟩ =
      .error (.fault (Frame.noSuchCall "Type.OpenRead" [.null])) ⟨streams, object, loadFrame .null⟩ := by
    have given : (loadFrame .null).locals.get? filePathParam = some .null := rfl
    simp [openFile, Host.run, Host.evaluate, Host.evaluateAll, Host.invoke, Framework.invoke, given,
      Value.typeName]
  have unopened : (loadFrame .null).locals.get? streamVariable = some (heldStream none) := rfl
  have attempted : Exec.attempt (host.runBlock (loadBlock source.descriptor))
      ⟨streams, object, loadFrame .null⟩ =
      .ok (.error (Frame.noSuchCall "Type.OpenRead" [.null])) ⟨streams, object, loadFrame .null⟩ :=
    Exec.attempt_fault (Host.run_block_stop refused)
  have guard := run_guarded attempted unopened rfl
  rw [run_load_begun host]
  exact ⟨loadFrame .null, Host.run_block_stop guard⟩

end

theorem call_load (source : CommentSource) (settings : ContentSettings) (depth : Nat) (path : String)
    (context : Context) :
    (host (helperClass source settings) (depth + 1)).call loadMethod [.text path] context =
      Exec.ofExcept (loaded context.streams.files source.descriptor.className path)
        { context with streams := loadStreams context.streams path } := by
  obtain ⟨last, ran⟩ := run_load (host (helperClass source settings) depth) source path
    context.streams context.object
  have called := Execution.call_of_run context (method_load source settings)
    (frame_of_path loadMethod (.text path) rfl) ran
  cases direct : loaded context.streams.files source.descriptor.className path with
  | error fault =>
      rw [direct] at called
      exact called
  | ok value =>
      rw [direct] at called
      exact called

theorem call_load_null (source : CommentSource) (settings : ContentSettings) (depth : Nat)
    (context : Context) :
    (host (helperClass source settings) (depth + 1)).call loadMethod [.null] context =
      .error (.fault (Frame.noSuchCall "Type.OpenRead" [.null]))
        { context with streams := context.streams.enterFinally loadMethod } := by
  obtain ⟨last, ran⟩ := run_load_null (host (helperClass source settings) depth) source
    context.streams context.object
  exact Execution.call_of_run context (method_load source settings) (frame_of_path loadMethod .null rfl) ran

theorem loaded_ne_invalid_cast (files : FileSystem) (root path found expected : String) :
    loaded files root path ≠ .error (.invalidCast found expected) := by
  intro failed
  cases resolved : files.resolve (.ofString path) with
  | error error =>
      rw [loaded_of_refused resolved] at failed
      cases failed
  | ok target =>
      obtain ⟨place, node⟩ := target
      rw [loaded_of_resolve resolved] at failed
      cases decoded : files.contentAt place >>= FileSystem.asText with
      | error error =>
          rw [decoded] at failed
          cases failed
      | ok text =>
          rw [decoded] at failed
          simp only [map_error_ok, bind, Except.bind, Framework.deserialized] at failed
          split at failed
          · cases failed
          · cases failed
          · rename_i error _
            cases error <;> cases failed

/-- Loading answers as reading the file directly does and changes neither a file nor the object. -/
theorem load_refines_direct_reading {settings : ContentSettings} {descriptor : Descriptor}
    {model : Code.Model} (built : build settings descriptor = .ok model) (depth : Nat)
    (streams : Streams) (object : HelperObject) (path : String) :
    ∃ after, Execution.call model.cls (depth + 1) streams object loadMethod [.text path] =
        (after, object, (loaded streams.files descriptor.className path).mapError Stop.fault) ∧
      after.files = streams.files ∧
      ∀ found expected,
        loaded streams.files descriptor.className path ≠ .error (.invalidCast found expected) := by
  obtain ⟨name, _, same⟩ := build_accepted built
  refine ⟨loadStreams streams path, ?_, load_streams_files streams path,
    loaded_ne_invalid_cast streams.files descriptor.className path⟩
  have called := call_load ⟨descriptor, name, settings.generatorName⟩ settings depth path
    { streams, object, frame := { member := "" } }
  rw [same, Execution.call, Execution.onObject, called]
  cases loaded streams.files descriptor.className path with
  | error fault => rfl
  | ok value => rfl

def ode : Xml.Element := .node "Book" [.text "Title" "Ode & Elegy"]

-- A file with a document of a book, and one with another document.
def library : FileSystem :=
  .ofTexts [("book.xml", "<Book><Title>Ode &amp; Elegy</Title></Book>"), ("song.xml", "<Song/>")]

theorem load_refines_direct_reading_book : ∃ model, build {} Descriptor.book = .ok model ∧
    (∃ after, Execution.call model.cls 1 { files := library } [] loadMethod [.text "book.xml"] =
      (after, [], .ok (.object ode)) ∧ after.files = library) ∧
    ∃ after, Execution.call model.cls 1 { files := library } [] loadMethod [.text "song.xml"] =
      (after, [], .error (.fault (.invalidDocument "expected root 'Book', found 'Song'"))) := by
  obtain ⟨opened, called, kept, _⟩ := load_refines_direct_reading build_book 0 { files := library } [] "book.xml"
  obtain ⟨after, refused, _⟩ := load_refines_direct_reading build_book 0 { files := library } [] "song.xml"
  have read : loaded library Descriptor.book.className "book.xml" = .ok (.object ode) := by decide +kernel
  have strange : loaded library Descriptor.book.className "song.xml" =
      .error (.invalidDocument "expected root 'Book', found 'Song'") := by decide +kernel
  rw [read] at called
  rw [strange] at refused
  exact ⟨_, build_book, ⟨opened, called, kept⟩, after, refused⟩

end Companion.Helper
