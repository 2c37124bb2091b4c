import Companion.Proofs.Execution.Ready

/-!
Saving. Main statement: `call_save`, the method that saves makes the directory of the file, empties
the file and writes the document of the held object, up to the first of these that fails.
-/
set_option autoImplicit false

namespace Companion.Helper

open Execution (host)

-- The directory of a file, as the method that saves asks for it.
def directoryOf (path : String) : Path := .ofString (Framework.directoryName (.ofString path))

-- What a save of a value does, step by step and without a helper object.
def saved (streams : Streams) (root path : String) (value : Value) : Streams × Except Fault Unit :=
  match streams.files.createDirectories (directoryOf path) with
  | (files, .error error) => ({ streams with files }.enterFinally saveMethod, .error (.io error))
  | (files, .ok ()) =>
    match files.createFile (.ofString path) with
    | .error error => ({ streams with files }.enterFinally saveMethod, .error (.io error))
    | .ok (files, place) =>
      match Framework.serialized root value with
      | .error fault => (streams.finished files (.ofString path) .write saveMethod, .error fault)
      | .ok element =>
        let files := files.writeAt place 0 (Utf8.encode (Xml.Document.text root element))
        (streams.finished files (.ofString path) .write saveMethod, .ok ())

section

variable (host : Host) (context : Context) {path : String}

theorem run_create_directory_of_ok {files : FileSystem}
    (given : context.frame.locals.get? filePathParam = some (.text path))
    (made : context.streams.files.createDirectories (directoryOf path) = (files, .ok ())) :
    host.run createDirectory context = .ok .next { context with streams := { context.streams with files } } := by
  rw [directoryOf] at made
  simp [createDirectory, directoryName, Host.run, Host.evaluate, Host.evaluateAll, Framework.create,
    Host.propertyOf, Framework.property, Host.invoke, Framework.invoke, Framework.createDirectories,
    given, Exec.onStreams, made]

theorem run_create_directory_of_error {files : FileSystem} {error : IoError}
    (given : context.frame.locals.get? filePathParam = some (.text path))
    (refused : context.streams.files.createDirectories (directoryOf path) = (files, .error error)) :
    host.run createDirectory context =
      .error (.fault (.io error)) { context with streams := { context.streams with files } } := by
  rw [directoryOf] at refused
  simp [createDirectory, directoryName, Host.run, Host.evaluate, Host.evaluateAll, Framework.create,
    Host.propertyOf, Framework.property, Host.invoke, Framework.invoke, Framework.createDirectories,
    given, Exec.onStreams, refused]

theorem invoke_create (path : String) :
    Framework.invoke (.type (.framework .file)) "Create" [.text path] =
      (do return .stream (← Exec.onStreams (·.create (.ofString path)))) := rfl

theorem run_serialize_of_error {descriptor : Descriptor} {id : StreamId} {value : Value} {fault : Fault}
    (given : context.frame.locals.get? serializerVariable = some (.serializer descriptor.className))
    (declared : context.frame.locals.get? streamVariable = some (.stream id))
    (got : host.getProperty descriptor.propertyName context = .ok value context)
    (unfit : Framework.serialized descriptor.className value = .error fault) :
    host.run (serialize descriptor) context = .error (.fault fault) context := by
  simp [serialize, heldObject, stream, Host.run, Host.evaluate, Host.evaluateAll, Host.propertyOf,
    Host.invoke, Framework.invoke, given, declared, got, unfit]

theorem run_serialize_of_ok {descriptor : Descriptor} {id : StreamId} {value : Value}
    {element : Option Xml.Element} {streams : Streams}
    (given : context.frame.locals.get? serializerVariable = some (.serializer descriptor.className))
    (declared : context.frame.locals.get? streamVariable = some (.stream id))
    (got : host.getProperty descriptor.propertyName context = .ok value context)
    (fits : Framework.serialized descriptor.className value = .ok element)
    (written : context.streams.write id
      (Utf8.encode (Xml.Document.text descriptor.className element)) = (streams, .ok ())) :
    host.run (serialize descriptor) context = .ok .next { context with streams } := by
  simp [serialize, heldObject, stream, Host.run, Host.evaluate, Host.evaluateAll, Host.propertyOf,
    Host.invoke, Framework.invoke, given, declared, got, fits, Exec.onStreams, written]

theorem run_flush_of_ok {streams : Streams} {id : StreamId}
    (declared : context.frame.locals.get? streamVariable = some (.stream id))
    (flushed : context.streams.flush id = (streams, .ok ())) :
    host.run flushStream context = .ok .next { context with streams } := by
  simp [flushStream, stream, Host.run, Host.evaluate, Host.evaluateAll, Host.invoke, Framework.invoke,
    declared, Exec.onStreams, flushed]

def saveBlock (descriptor : Descriptor) : Code.Block :=
  [createDirectory, createFile, declareSerializer descriptor, serialize descriptor, flushStream]

theorem attempt_save_undirected {descriptor : Descriptor} {files : FileSystem} {error : IoError}
    (begun : Begun context saveMethod path)
    (refused : context.streams.files.createDirectories (directoryOf path) = (files, .error error)) :
    ∃ after, Exec.attempt (host.runBlock (saveBlock descriptor)) context = .ok (.error (.io error)) after ∧
      Ended context after ({ context.streams with files }.enterFinally saveMethod) := by
  have stopped := run_create_directory_of_error host context begun.given refused
  refine ⟨_, Exec.attempt_fault (Host.run_block_stop stopped), rfl, none, begun.unopened, ?_⟩
  rw [begun.member]
  rfl

theorem attempt_save_uncreated {descriptor : Descriptor} {files : FileSystem} {error : IoError}
    (begun : Begun context saveMethod path)
    (made : context.streams.files.createDirectories (directoryOf path) = (files, .ok ()))
    (refused : files.createFile (.ofString path) = .error error) :
    ∃ after, Exec.attempt (host.runBlock (saveBlock descriptor)) context = .ok (.error (.io error)) after ∧
      Ended context after ({ context.streams with files }.enterFinally saveMethod) := by
  have directed := run_create_directory_of_ok host context begun.given made
  have stopped := run_opens_of_error host { context with streams := { context.streams with files } }
    (invoke_create path) begun.given (Streams.create_of_error refused)
  refine ⟨_, Exec.attempt_fault ((Host.run_block_next directed).trans (Host.run_block_stop stopped)),
    rfl, none, begun.unopened, ?_⟩
  rw [begun.member]
  rfl

theorem attempt_save_created {descriptor : Descriptor} {files created : FileSystem} {place : Location}
    {value : Value} (begun : Begun context saveMethod path)
    (made : context.streams.files.createDirectories (directoryOf path) = (files, .ok ()))
    (emptied : files.createFile (.ofString path) = .ok (created, place))
    (got : ∀ streams frame, host.getProperty descriptor.propertyName { context with streams, frame } =
      .ok value { context with streams, frame }) :
    ∃ after, Exec.attempt (host.runBlock (saveBlock descriptor)) context =
        .ok ((saved context.streams descriptor.className path value).2.map fun _ => .next) after ∧
      Ended context after (saved context.streams descriptor.className path value).1 := by
  let id := context.streams.table.length
  let base : Streams := { context.streams with files }
  have directed := run_create_directory_of_ok host context begun.given made
  have opened := run_opens_of_ok host { context with streams := base } (invoke_create path)
    begun.given begun.unopened (Streams.create_of_ok emptied)
  -- Up to here every save that creates its file runs alike.
  let before : Context := { context with
    streams := base.opening created (.ofString path) .write (.writer place 0 [])
    frame := ready context.frame descriptor id }
  have prepared : host.runBlock (saveBlock descriptor) context =
      host.runBlock [serialize descriptor, flushStream] before :=
    (Host.run_block_next directed).trans ((Host.run_block_next opened).trans
      (Host.run_block_next (run_declare_serializer descriptor host _)))
  have serializer := ready_serializer context.frame descriptor id
  have stream := ready_stream context.frame descriptor id
  simp only [saved, made, emptied]
  cases found : Framework.serialized descriptor.className value with
  | error fault =>
      have stopped := run_serialize_of_error host before serializer stream
        (got _ _) found
      refine ⟨_, Exec.attempt_fault (prepared.trans (Host.run_block_stop stopped)), rfl, some id, stream, ?_⟩
      have released := base.release_opening created (.ofString path) .write saveMethod
        (.writer place 0 [])
      rw [Streams.closed_drained] at released
      have member : before.frame.member = saveMethod := begun.member
      rw [member]
      exact released
  | ok element =>
      let bytes := Utf8.encode (Xml.Document.text descriptor.className element)
      obtain ⟨streams, written, flushed⟩ :=
        base.write_flush_opening created (.ofString path) place bytes
      have serialized := run_serialize_of_ok host before serializer stream
        (got _ _) found written
      have flushing := run_flush_of_ok host { before with streams } stream flushed
      refine ⟨_, Exec.attempt_ok (prepared.trans ((Host.run_block_next serialized).trans
        ((Host.run_block_next flushing).trans (Host.run_block_nil host _)))), rfl, some id, stream, ?_⟩
      have released := base.release_opening (created.writeAt place 0 bytes) (.ofString path) .write
        saveMethod (.writer place bytes.length [])
      rw [Streams.closed_drained] at released
      have member : before.frame.member = saveMethod := begun.member
      rw [member]
      exact released

theorem attempt_save {descriptor : Descriptor} {value : Value} (begun : Begun context saveMethod path)
    (got : ∀ streams frame, host.getProperty descriptor.propertyName { context with streams, frame } =
      .ok value { context with streams, frame }) :
    ∃ after, Exec.attempt (host.runBlock (saveBlock descriptor)) context =
        .ok ((saved context.streams descriptor.className path value).2.map fun _ => .next) after ∧
      Ended context after (saved context.streams descriptor.className path value).1 := by
  cases made : context.streams.files.createDirectories (directoryOf path) with
  | mk files result =>
      cases result with
      | error error =>
          simp only [saved, made]
          exact attempt_save_undirected host context begun made
      | ok done =>
          cases emptied : files.createFile (.ofString path) with
          | error error =>
              simp only [saved, made, emptied]
              exact attempt_save_uncreated host context begun made emptied
          | ok target =>
              obtain ⟨created, place⟩ := target
              exact attempt_save_created host context begun made emptied got

def saveFrame (argument : Value) : Frame where
  member := saveMethod
  locals := [(filePathParam, argument), (streamVariable, .null)]

theorem run_save_begun (source : CommentSource) (argument : Value) (streams : Streams)
    (object : HelperObject) :
    host.runBlock (save source).body
        ⟨streams, object, { member := saveMethod, locals := [(filePathParam, argument)] }⟩ =
      host.runBlock [guarded (saveBlock source.descriptor)] ⟨streams, object, saveFrame argument⟩ := by
  have declared : host.run declareStream
      ⟨streams, object, { member := saveMethod, locals := [(filePathParam, argument)] }⟩ =
      .ok .next ⟨streams, object, saveFrame argument⟩ := by
    simp [declareStream, Host.run, Host.evaluate?, Host.evaluate, Bindings.set, filePathParam,
      streamVariable, saveFrame]
  exact Host.run_block_next declared

theorem run_save (source : CommentSource) (path : String) (streams : Streams) (object : HelperObject)
    {value : Value}
    (got : ∀ streams frame, host.getProperty source.descriptor.propertyName ⟨streams, object, frame⟩ =
      .ok value ⟨streams, object, frame⟩) :
    ∃ frame, host.runBlock (save source).body
        ⟨streams, object, { member := saveMethod, locals := [(filePathParam, .text path)] }⟩ =
      Exec.ofExcept ((saved streams source.descriptor.className path value).2.map fun _ => .next)
        ⟨(saved streams source.descriptor.className path value).1, object, frame⟩ := by
  have begun : Begun ⟨streams, object, saveFrame (.text path)⟩ saveMethod path := ⟨rfl, rfl, rfl⟩
  obtain ⟨after, attempted, same, opened, held, settled⟩ :=
    attempt_save host _ begun got
  have guard := run_guarded attempted held settled
  rw [run_save_begun host]
  refine ⟨after.frame, ?_⟩
  cases outcome : (saved streams source.descriptor.className path value).2 with
  | error fault =>
      rw [outcome] at guard
      rw [Host.run_block_stop guard, same]
      rfl
  | ok done =>
      rw [outcome] at guard
      rw [Host.run_block_next guard, same, Host.run_block_nil]
      rfl

-- The path of null stops a save before anything is made.
theorem run_save_null (source : CommentSource) (streams : Streams) (object : HelperObject) :
    ∃ frame, host.runBlock (save source).body
        ⟨streams, object, { member := saveMethod, locals := [(filePathParam, .null)] }⟩ =
      Exec.ofExcept (.error (.nullReference "FileInfo"))
        ⟨streams.enterFinally saveMethod, object, frame⟩ := by
  have given : (saveFrame .null).locals.get? filePathParam = some .null := rfl
  have unopened : (saveFrame .null).locals.get? streamVariable = some (heldStream none) := rfl
  have refused : host.run createDirectory ⟨streams, object, saveFrame .null⟩ =
      .error (.fault (.nullReference "FileInfo")) ⟨streams, object, saveFrame .null⟩ := by
    simp [createDirectory, directoryName, Host.run, Host.evaluate, Host.evaluateAll, Framework.create,
      given]
  have attempted : Exec.attempt (host.runBlock (saveBlock source.descriptor))
      ⟨streams, object, saveFrame .null⟩ =
      .ok (.error (.nullReference "FileInfo")) ⟨streams, object, saveFrame .null⟩ :=
    Exec.attempt_fault (Host.run_block_stop refused)
  have guard := run_guarded attempted unopened rfl
  rw [run_save_begun host]
  exact ⟨saveFrame .null, Host.run_block_stop guard⟩

end

variable {source : CommentSource} {name : String}

theorem call_save (accepted : source.descriptor.Accepted name) (settings : ContentSettings)
    (depth : Nat) (path : String) (context : Context) :
    let save := saved context.streams source.descriptor.className path
      (held source.descriptor context.object)
    (host (helperClass source settings) (depth + 2)).call saveMethod [.text path] context =
      Exec.ofExcept (save.2.map fun _ => .null) { context with streams := save.1 } := by
  have got (streams : Streams) (frame : Frame) :
      (host (helperClass source settings) (depth + 1)).getProperty source.descriptor.propertyName
          ⟨streams, context.object, frame⟩ =
        .ok (held source.descriptor context.object) ⟨streams, context.object, frame⟩ :=
    get_forwarding accepted settings depth ⟨streams, context.object, frame⟩
  obtain ⟨last, ran⟩ := run_save (host (helperClass source settings) (depth + 1)) source path
    context.streams context.object got
  have called := Execution.call_of_run context (method_save source settings)
    (frame_of_path saveMethod (.text path) rfl) ran
  dsimp only
  cases outcome : (saved context.streams source.descriptor.className path
      (held source.descriptor context.object)).2 with
  | error fault =>
      rw [outcome] at called
      exact called
  | ok done =>
      rw [outcome] at called
      exact called

theorem call_save_null (source : CommentSource) (settings : ContentSettings) (depth : Nat)
    (context : Context) :
    (host (helperClass source settings) (depth + 1)).call saveMethod [.null] context =
      .error (.fault (.nullReference "FileInfo"))
        { context with streams := context.streams.enterFinally saveMethod } := by
  obtain ⟨last, ran⟩ := run_save_null (host (helperClass source settings) depth) source
    context.streams context.object
  exact Execution.call_of_run context (method_save source settings) (frame_of_path saveMethod .null rfl) ran

end Companion.Helper
