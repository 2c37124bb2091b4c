import Companion.Proofs.Execution.Run
import Companion.Proofs.Helper.Members

/-!
Properties and fields of a helper object at work. Main statements: reading the property that wraps
gives what the object keeps in its slot, and writing it changes the slot and nothing else.
-/
set_option autoImplicit false

namespace Companion

open Code (Block)

namespace Execution

@[simp] theorem host_cls (cls : Code.Class) (depth : Nat) : (host cls depth).cls = cls := rfl

@[simp] theorem host_perform (cls : Code.Class) (depth : Nat) :
    (host cls depth).perform = perform cls depth := rfl

theorem perform_apply (cls : Code.Class) (depth : Nat) (frame : Frame) (body : Block)
    (context : Context) :
    perform cls (depth + 1) { frame, body } context =
      Exec.within frame ((host cls depth).runBlock body) context := by
  simp [perform, Exec.within, Host.runBlock, host]

theorem within_ok {α : Type} {frame : Frame} {run : Exec α} {context after : Context} {value : α}
    (ran : run { context with frame } = .ok value after) :
    Exec.within frame run context = .ok value { after with frame := context.frame } := by
  rw [Exec.within, ran]

theorem within_error {α : Type} {frame : Frame} {run : Exec α} {context after : Context} {stop : Stop}
    (ran : run { context with frame } = .error stop after) :
    Exec.within frame run context = .error stop { after with frame := context.frame } := by
  rw [Exec.within, ran]

-- What a call answers when the body of the method ended this way.
def answered : Flow → Value
  | .leave value => value
  | .next => .null

theorem call_of_run {cls : Code.Class} {method : Code.Method} {name : String} {arguments : List Value}
    {frame last : Frame} {depth : Nat} (context : Context) {outcome : Except Fault Flow}
    {streams : Streams} {object : HelperObject} (found : cls.method? name = some method)
    (bound : Frame.ofCall name method.params arguments = .ok frame)
    (ran : (host cls depth).runBlock method.body { context with frame } =
      Exec.ofExcept outcome ⟨streams, object, last⟩) :
    (host cls (depth + 1)).call name arguments context =
      Exec.ofExcept (outcome.map answered) ⟨streams, object, context.frame⟩ := by
  cases outcome with
  | error fault =>
      simp [Host.call, found, bound, perform_apply, within_error ran]
      rfl
  | ok flow => cases flow <;> simp [Host.call, found, bound, perform_apply, within_ok ran] <;> rfl

end Execution

namespace Helper

open Execution (host perform perform_apply within_ok)

def held (descriptor : Descriptor) (object : HelperObject) : Value :=
  (object.get? descriptor.slot).getD .null

variable {source : CommentSource} {settings : ContentSettings} {name : String}

theorem get_unlisted (host : Host) {name : String} (absent : host.cls.property? name = none)
    (context : Context) :
    host.getProperty name context = .ok ((context.object.get? name).getD .null) context := by
  simp [Host.getProperty, absent, Host.stored]

theorem set_unlisted (host : Host) {name : String} (absent : host.cls.property? name = none)
    (value : Value) (context : Context) :
    host.setProperty name value context =
      .ok () { context with object := Bindings.set name value context.object } := by
  simp [Host.setProperty, absent, Host.store]

theorem get_forwarding (accepted : source.descriptor.Accepted name) (settings : ContentSettings)
    (depth : Nat) (context : Context) :
    (host (helperClass source settings) (depth + 1)).getProperty source.descriptor.propertyName context =
      .ok (held source.descriptor context.object) context := by
  have listed := property_forwarding source settings
  cases stored : source.descriptor.storage with
  | auto =>
      simp [Host.getProperty, listed, forwardingProperty, accessors, stored, Host.stored, held,
        Descriptor.slot]
  | backingField field =>
      have absent := property_other source settings (accepted.field_ne_property stored)
      have got := get_unlisted (host (helperClass source settings) depth) absent
      have answered (inner : Context) :
          (host (helperClass source settings) depth).runBlock [.leave (some (.property .this field))] inner =
            .ok (.leave ((inner.object.get? field).getD .null)) inner := by
        simp [Host.runBlock, Host.run, Host.evaluate?, Host.evaluate, Host.propertyOf, got]
      simp [Host.getProperty, listed, forwardingProperty, accessors, stored, perform_apply,
        within_ok (answered _), held, Descriptor.slot]

theorem set_forwarding_refused {value : Value} (depth : Nat)
    (unfit : value.isAssignableTo (wrapped source.descriptor) = false) (context : Context) :
    (host (helperClass source settings) depth).setProperty source.descriptor.propertyName value context =
      .error (.fault (.invalidCast value.typeName source.descriptor.className)) context := by
  have listed := property_forwarding source settings
  have refused : Frame.checkType (wrapped source.descriptor) value =
      .error (.invalidCast value.typeName source.descriptor.className) := by
    rw [Frame.checkType, unfit]
    rfl
  simp [Host.setProperty, listed, forwardingProperty, refused]

theorem set_forwarding (accepted : source.descriptor.Accepted name) (settings : ContentSettings)
    (depth : Nat) {value : Value} (fits : value.isAssignableTo (wrapped source.descriptor) = true)
    (context : Context) :
    (host (helperClass source settings) (depth + 1)).setProperty source.descriptor.propertyName value
        context =
      .ok () { context with object := Bindings.set source.descriptor.slot value context.object } := by
  have listed := property_forwarding source settings
  cases stored : source.descriptor.storage with
  | auto =>
      simp [Host.setProperty, listed, forwardingProperty, Frame.checkType, fits, accessors, stored,
        Host.store, Descriptor.slot]
  | backingField field =>
      have absent := property_other source settings (accepted.field_ne_property stored)
      have put := set_unlisted (host (helperClass source settings) depth) absent value
      have assigned (inner : Context) (given : inner.frame.incoming = some value) :
          (host (helperClass source settings) depth).runBlock
              [.assign (.property .this field) .incoming] inner =
            .ok .next { inner with object := Bindings.set field value inner.object } := by
        simp [Host.runBlock, Host.run, Host.evaluate, Host.assign, given, put]
      have given : { context with
          frame := { member := source.descriptor.propertyName, incoming := some value } }.frame.incoming =
          some value := rfl
      simp [Host.setProperty, listed, forwardingProperty, Frame.checkType, fits, accessors, stored,
        perform_apply, within_ok (assigned _ given), Descriptor.slot]

end Helper
end Companion
