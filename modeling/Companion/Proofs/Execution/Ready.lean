import Companion.Proofs.Execution.Guarded
import Companion.Proofs.Execution.Property

/-!
What loading and saving have in common: the parameter that both take, the opening of their stream,
and their frame once the stream is open and the serializer is there.
-/
set_option autoImplicit false

namespace Companion.Helper

theorem frame_of_path (member : String) (argument : Value) (fits : argument.isAssignableTo .string = true) :
    Frame.ofCall member [filePath] [argument] =
      .ok { member := member, locals := [(filePathParam, argument)] } := by
  simp [Frame.ofCall, Frame.bindAll, filePath, Frame.checkType, fits, Bindings.set]
  rfl

theorem path_of_assignable {value : Value} (fits : value.isAssignableTo .string = true) :
    value = .null ∨ ∃ path, value = .text path := by
  cases value with
  | null => exact .inl rfl
  | text path => exact .inr ⟨path, rfl⟩
  | _ => cases fits

theorem path_of_frame {member : String} {arguments : List Value} {frame : Frame}
    (bound : Frame.ofCall member [filePath] arguments = .ok frame) :
    ∃ argument, arguments = [argument] ∧ argument.isAssignableTo .string = true := by
  match arguments with
  | [] => cases bound
  | first :: second :: rest => simp [Frame.ofCall] at bound
  | [argument] =>
      refine ⟨argument, rfl, ?_⟩
      by_cases fits : argument.isAssignableTo .string = true
      · exact fits
      · simp [Frame.ofCall, Frame.bindAll, filePath, Frame.checkType, fits, bind, Except.bind] at bound

-- The context of a member that takes a path, once its parameter was bound and the variable of its
-- stream was declared.
structure Begun (context : Context) (member path : String) : Prop where
  member : context.frame.member = member
  given : context.frame.locals.get? filePathParam = some (.text path)
  unopened : context.frame.locals.get? streamVariable = some .null

-- What the final block of such a member finds, and the streams that it leaves.
structure Ended (context after : Context) (streams : Streams) : Prop where
  object : after.object = context.object
  settled : ∃ opened, after.frame.locals.get? streamVariable = some (heldStream opened) ∧
    settle after.streams after.frame.member opened = (streams, .ok ())

/-! ## Opening the stream -/

def opens (method : String) : Code.Statement :=
  .assign stream (.invoke (.type (.framework .file)) method [.variable filePathParam])

section

variable (host : Host) (context : Context) {streams : Streams} {method path : String}
  {operation : Streams → Streams.Outcome StreamId}

theorem run_opens_of_ok {id : StreamId}
    (invoked : Framework.invoke (.type (.framework .file)) method [.text path] =
      (do return .stream (← Exec.onStreams operation)))
    (given : context.frame.locals.get? filePathParam = some (.text path))
    (declared : context.frame.locals.get? streamVariable = some .null)
    (opened : operation context.streams = (streams, .ok id)) :
    host.run (opens method) context = .ok .next { context with
      streams
      frame := { context.frame with
        locals := Bindings.set streamVariable (.stream id) context.frame.locals } } := by
  simp [opens, stream, Host.run, Host.evaluate, Host.evaluateAll, Host.invoke, Host.assign, invoked,
    given, declared, Exec.onStreams, opened]

theorem run_opens_of_error {fault : Fault}
    (invoked : Framework.invoke (.type (.framework .file)) method [.text path] =
      (do return .stream (← Exec.onStreams operation)))
    (given : context.frame.locals.get? filePathParam = some (.text path))
    (refused : operation context.streams = (streams, .error fault)) :
    host.run (opens method) context = .error (.fault fault) { context with streams } := by
  simp [opens, stream, Host.run, Host.evaluate, Host.evaluateAll, Host.invoke, invoked, given,
    Exec.onStreams, refused]

end

/-! ## The stream and its serializer -/

def ready (frame : Frame) (descriptor : Descriptor) (id : StreamId) : Frame :=
  { frame with
    locals := Bindings.set serializerVariable (.serializer descriptor.className)
      (Bindings.set streamVariable (.stream id) frame.locals) }

section

variable (frame : Frame) (descriptor : Descriptor) (id : StreamId)

@[simp] theorem ready_serializer : (ready frame descriptor id).locals.get? serializerVariable =
    some (.serializer descriptor.className) := by
  simp [ready]

@[simp] theorem ready_stream :
    (ready frame descriptor id).locals.get? streamVariable = some (.stream id) := by
  have different : serializerVariable ≠ streamVariable := by decide
  simp [ready, Bindings.get?_set_other different]

theorem ready_other {name : String} (notSerializer : serializerVariable ≠ name)
    (notStream : streamVariable ≠ name) :
    (ready frame descriptor id).locals.get? name = frame.locals.get? name := by
  simp [ready, Bindings.get?_set_other notSerializer, Bindings.get?_set_other notStream]

end

theorem run_declare_serializer (descriptor : Descriptor) (host : Host) (context : Context) :
    host.run (declareSerializer descriptor) context = .ok .next { context with
      frame := { context.frame with
        locals := Bindings.set serializerVariable (.serializer descriptor.className)
          context.frame.locals } } := by
  simp [declareSerializer, wrapped, Host.run, Host.evaluate?, Host.evaluate, Host.evaluateAll,
    Framework.create]

end Companion.Helper
