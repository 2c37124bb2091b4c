import Companion.Proofs.Execution.Load

/-!
Constructing helper objects. Main statements: the arguments that a helper class takes, and what each
of its constructors leaves in the slot of the new object.
-/
set_option autoImplicit false

namespace Companion.Helper

open Execution (host perform resolve accepts construct construction perform_apply within_ok within_error)

variable {source : CommentSource} {settings : ContentSettings} {name : String}

theorem resolve_empty (source : CommentSource) (settings : ContentSettings) :
    resolve (helperClass source settings) [] = .ok (emptyConstructor source settings.placeholder) := by
  rw [resolve, constructors_eq]
  rfl

theorem resolve_file (source : CommentSource) (settings : ContentSettings) (path : String) :
    resolve (helperClass source settings) [.text path] = .ok (fileConstructor source) := by
  rw [resolve, constructors_eq]
  rfl

theorem resolve_instance {element : Xml.Element} (named : element.name = source.descriptor.className) :
    resolve (helperClass source settings) [.object element] = .ok (instanceConstructor source) := by
  simp [resolve, constructors_eq, accepts, emptyConstructor, fileConstructor, instanceConstructor,
    filePath, wrapped, Value.isAssignableTo, named]

-- Arguments that exactly one of the constructors takes.
inductive Taken (descriptor : Descriptor) : List Value → Prop
  | empty : Taken descriptor []
  | file (path : String) : Taken descriptor [.text path]
  | given (element : Xml.Element) (named : element.name = descriptor.className) :
      Taken descriptor [.object element]

theorem resolve_other (settings : ContentSettings) {arguments : List Value}
    (other : ¬ Taken source.descriptor arguments) :
    ∃ signature, resolve (helperClass source settings) arguments = .error (.noConstructor signature) := by
  have constructors := constructors_eq source settings
  match arguments with
  | [] => exact absurd .empty other
  | first :: second :: rest =>
      simp [resolve, constructors, accepts, emptyConstructor, fileConstructor, instanceConstructor]
  | [value] =>
      cases value with
      | text path => exact absurd (.file path) other
      | object element =>
          have unnamed : element.name ≠ source.descriptor.className := by
            intro named
            exact other (.given element named)
          simp [resolve, constructors, accepts, emptyConstructor, fileConstructor, instanceConstructor,
            filePath, wrapped, Value.isAssignableTo, unnamed]
      | _ =>
          simp [resolve, constructors, accepts, emptyConstructor, fileConstructor, instanceConstructor,
            filePath, wrapped, Value.isAssignableTo]

theorem loaded_assignable {files : FileSystem} {descriptor : Descriptor} {path : String} {value : Value}
    (found : loaded files descriptor.className path = .ok value) :
    value.isAssignableTo (wrapped descriptor) = true := by
  cases resolved : files.resolve (.ofString path) with
  | error error =>
      rw [loaded_of_refused resolved] at found
      cases found
  | ok target =>
      obtain ⟨place, node⟩ := target
      rw [loaded_of_resolve resolved] at found
      obtain ⟨text, _, read⟩ := ok_of_bind found
      exact deserialized_assignable read

theorem construct_apply {cls : Code.Class} {constructor : Code.Constructor} {arguments : List Value}
    {frame : Frame} (resolved : resolve cls arguments = .ok constructor)
    (plain : constructor.initializers = [])
    (bound : Frame.ofCall cls.name constructor.params arguments = .ok frame) (depth : Nat)
    (streams : Streams) :
    construct cls (depth + 1) streams arguments =
      match (host cls depth).runBlock constructor.body ⟨streams, [], frame⟩ with
      | .ok _ after => (after.streams, .ok after.object)
      | .error stop after => (after.streams, .error stop) := by
  cases ran : (host cls depth).runBlock constructor.body ⟨streams, [], frame⟩ with
  | ok flow after =>
      have left : Exec.within frame ((host cls depth).runBlock constructor.body)
          ⟨streams, [], { member := "" }⟩ = .ok flow { after with frame := { member := "" } } :=
        within_ok ran
      simp [construct, Execution.onObject, construction, resolved, bound, plain, perform_apply, left]
  | error stop after =>
      have left : Exec.within frame ((host cls depth).runBlock constructor.body)
          ⟨streams, [], { member := "" }⟩ = .error stop { after with frame := { member := "" } } :=
        within_error ran
      simp [construct, Execution.onObject, construction, resolved, bound, plain, perform_apply, left]

theorem construct_empty (source : CommentSource) (settings : ContentSettings) (depth : Nat)
    (streams : Streams) :
    construct (helperClass source settings) (depth + 1) streams [] = (streams, .ok []) := by
  have bound : Frame.ofCall (helperClass source settings).name
      (emptyConstructor source settings.placeholder).params [] =
      .ok { member := (helperClass source settings).name } := rfl
  rw [construct_apply (resolve_empty source settings) rfl bound]
  simp [emptyConstructor, Host.runBlock, Host.run]

theorem construct_file (accepted : source.descriptor.Accepted name) (depth : Nat) (streams : Streams)
    (path : String) :
    construct (helperClass source settings) (depth + 2) streams [.text path] =
      (loadStreams streams path, ((loaded streams.files source.descriptor.className path).map
        fun value => [(source.descriptor.slot, value)]).mapError Stop.fault) := by
  have bound := frame_of_path (helperClass source settings).name (.text path) rfl
  rw [construct_apply (resolve_file source settings path) rfl bound]
  have given : (Bindings.get? [(filePathParam, Value.text path)] filePathParam) = some (.text path) := rfl
  have called := call_load source settings depth path
    ⟨streams, [], { member := (helperClass source settings).name, locals := [(filePathParam, .text path)] }⟩
  cases direct : loaded streams.files source.descriptor.className path with
  | error fault =>
      simp only [direct] at called
      simp [fileConstructor, heldObject, Host.runBlock, Host.run, Host.evaluate, Host.evaluateAll,
        Host.invoke, given, called, Except.map]
  | ok value =>
      have stored := set_forwarding accepted settings depth (loaded_assignable direct)
      simp only [direct] at called
      simp [fileConstructor, heldObject, Host.runBlock, Host.run, Host.evaluate, Host.evaluateAll,
        Host.invoke, Host.assign, given, called, stored, Except.map, Bindings.set]

theorem construct_instance (accepted : source.descriptor.Accepted name) (depth : Nat) (streams : Streams)
    {element : Xml.Element} (named : element.name = source.descriptor.className) :
    construct (helperClass source settings) (depth + 2) streams [.object element] =
      (streams, .ok [(source.descriptor.slot, .object element)]) := by
  have fits : (Value.object element).isAssignableTo (wrapped source.descriptor) = true := by
    simp [Value.isAssignableTo, wrapped, named]
  have bound : Frame.ofCall (helperClass source settings).name (instanceConstructor source).params
      [.object element] = .ok {
        member := (helperClass source settings).name
        locals := [(source.descriptor.instanceParameterName, .object element)] } := by
    simp [Frame.ofCall, instanceConstructor, Frame.bindAll, Frame.checkType, fits, Bindings.set]
    rfl
  have stored := set_forwarding accepted settings depth fits
  rw [construct_apply (resolve_instance named) rfl bound]
  simp [instanceConstructor, heldObject, Host.runBlock, Host.run, Host.evaluate, Host.assign, stored,
    Bindings.get?, Bindings.set]

theorem construct_unresolved {cls : Code.Class} {arguments : List Value} {fault : Fault}
    (unresolved : resolve cls arguments = .error fault) (depth : Nat) (streams : Streams) :
    construct cls depth streams arguments = (streams, .error (.fault fault)) := by
  simp [construct, Execution.onObject, construction, unresolved]

theorem construct_other (settings : ContentSettings) (depth : Nat) (streams : Streams)
    {arguments : List Value} (other : ¬ Taken source.descriptor arguments) :
    ∃ signature, construct (helperClass source settings) depth streams arguments =
      (streams, .error (.fault (.noConstructor signature))) := by
  obtain ⟨signature, refused⟩ := resolve_other settings other
  exact ⟨signature, construct_unresolved refused depth streams⟩

end Companion.Helper
