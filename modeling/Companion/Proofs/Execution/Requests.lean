import Companion.Execution.Session
import Companion.Proofs.Execution.Construct
import Companion.Proofs.Execution.Save

/-!
Requests of a session, one by one. Main statements: what loading, saving, reading the property and
constructing from a file answer, and `ask_worked`, the streams that any request leaves.
-/
set_option autoImplicit false

namespace Companion

-- The member that a request lets run once its arguments are bound.
def Request.activates : Request → Option String
  | .construct [.text _] => some Helper.loadMethod
  | .call _ method [argument] =>
    if (method = Helper.loadMethod ∨ method = Helper.saveMethod) ∧ argument.isAssignableTo .string then
      some method
    else none
  | _ => none

namespace Helper

open Execution (host)

section

variable {source : CommentSource} {name : String}

theorem ask_load (source : CommentSource) (settings : ContentSettings) (depth : Nat) (session : Session)
    (number : Nat) (path : String) :
    session.ask (helperClass source settings) (depth + 1) (.call number loadMethod [.text path]) =
      (⟨loadStreams session.streams path, session.objects.set number (session.object number)⟩,
        ((loaded session.streams.files source.descriptor.className path).mapError Stop.fault).map
          Answer.value) := by
  have called := call_load source settings depth path
    ⟨session.streams, session.object number, { member := "" }⟩
  rw [Session.ask, Session.after, Execution.call, Execution.onObject, called]
  cases loaded session.streams.files source.descriptor.className path with
  | error fault => rfl
  | ok value => rfl

theorem ask_save (accepted : source.descriptor.Accepted name) (settings : ContentSettings) (depth : Nat)
    (session : Session) (number : Nat) (path : String) :
    session.ask (helperClass source settings) (depth + 2) (.call number saveMethod [.text path]) =
      (⟨(saved session.streams source.descriptor.className path
          (held source.descriptor (session.object number))).1,
        session.objects.set number (session.object number)⟩,
        ((saved session.streams source.descriptor.className path
          (held source.descriptor (session.object number))).2.mapError Stop.fault).map
            fun _ => .value .null) := by
  have called := call_save accepted settings depth path
    ⟨session.streams, session.object number, { member := "" }⟩
  rw [Session.ask, Session.after, Execution.call, Execution.onObject, called]
  cases (saved session.streams source.descriptor.className path
    (held source.descriptor (session.object number))).2 with
  | error fault => rfl
  | ok done => rfl

theorem ask_property (accepted : source.descriptor.Accepted name) (settings : ContentSettings)
    (depth : Nat) (session : Session) (number : Nat) :
    (session.ask (helperClass source settings) (depth + 1)
        (.get number source.descriptor.propertyName)).2 =
      .ok (.value (held source.descriptor (session.object number))) := by
  have got := get_forwarding accepted settings depth
    ⟨session.streams, session.object number, { member := "" }⟩
  rw [Session.ask, Session.after, Execution.getProperty, Execution.onObject, got]
  rfl

theorem ask_construct_file (accepted : source.descriptor.Accepted name) (settings : ContentSettings)
    (depth : Nat) (session : Session) {path : String} {value : Value}
    (found : loaded session.streams.files source.descriptor.className path = .ok value) :
    session.ask (helperClass source settings) (depth + 2) (.construct [.text path]) =
      (⟨loadStreams session.streams path, session.objects ++ [[(source.descriptor.slot, value)]]⟩,
        .ok (.object session.objects.length)) := by
  rw [Session.ask, construct_file accepted, found]
  rfl

end

theorem call_unbound {host : Host} {method : Code.Method} {name : String} {arguments : List Value}
    {fault : Fault} (found : host.cls.method? name = some method)
    (unbound : Frame.ofCall name method.params arguments = .error fault) (context : Context) :
    host.call name arguments context = .error (.fault fault) context := by
  simp [Host.call, found, unbound]

theorem call_missing {host : Host} {name : String} (absent : host.cls.method? name = none)
    (arguments : List Value) (context : Context) :
    host.call name arguments context = .error (.fault (.missingMember name)) context := by
  simp [Host.call, absent]

theorem left_call_unbound {host : Host} {method : Code.Method} {name : String} {arguments : List Value}
    {fault : Fault} (found : host.cls.method? name = some method)
    (unbound : Frame.ofCall name method.params arguments = .error fault) (context : Context) :
    (host.call name arguments).left context = context := Exec.left_error (call_unbound found unbound context)

theorem left_call_missing {host : Host} {name : String} (absent : host.cls.method? name = none)
    (arguments : List Value) (context : Context) : (host.call name arguments).left context = context :=
  Exec.left_error (call_missing absent arguments context)

section

variable {source : CommentSource} {name : String} (accepted : source.descriptor.Accepted name)
  (settings : ContentSettings) (depth : Nat) (context : Context)

include accepted

theorem left_get (property : String) :
    ((host (helperClass source settings) (depth + 1)).getProperty property).left context = context := by
  by_cases forwarding : property = source.descriptor.propertyName
  · rw [forwarding]
    exact Exec.left_ok (get_forwarding accepted settings depth context)
  · exact Exec.left_ok (get_unlisted _ (property_other source settings forwarding) context)

theorem left_set (property : String) (value : Value) :
    (((host (helperClass source settings) (depth + 1)).setProperty property value).left context).streams =
      context.streams := by
  by_cases forwarding : property = source.descriptor.propertyName
  · rw [forwarding]
    cases fits : value.isAssignableTo (wrapped source.descriptor) with
    | true => rw [Exec.left_ok (set_forwarding accepted settings depth fits context)]
    | false => rw [Exec.left_error (set_forwarding_refused (depth + 1) fits context)]
  · rw [Exec.left_ok (set_unlisted _ (property_other source settings forwarding) value context)]

end

-- A call that gets no further than its arguments leaves everything as it was.
theorem left_call_refused {source : CommentSource} {settings : ContentSettings} {method : String}
    {arguments : List Value}
    (refused : ∀ argument, arguments = [argument] → argument.isAssignableTo .string = true →
      method ≠ loadMethod ∧ method ≠ saveMethod) (depth : Nat) (context : Context) :
    ((host (helperClass source settings) depth).call method arguments).left context = context := by
  have unbound (member : String) (same : method = member) (known : member = loadMethod ∨ member = saveMethod) :
      ∃ fault, Frame.ofCall member [filePath] arguments = .error fault := by
    cases bound : Frame.ofCall member [filePath] arguments with
    | error fault => exact ⟨fault, rfl⟩
    | ok frame =>
        obtain ⟨argument, alone, fits⟩ := path_of_frame bound
        obtain ⟨notLoad, notSave⟩ := refused argument alone fits
        rcases known with rfl | rfl
        · exact absurd same notLoad
        · exact absurd same notSave
  by_cases isLoad : method = loadMethod
  · obtain ⟨fault, failed⟩ := unbound loadMethod isLoad (.inl rfl)
    rw [isLoad]
    exact left_call_unbound (method_load source settings) failed context
  · by_cases isSave : method = saveMethod
    · obtain ⟨fault, failed⟩ := unbound saveMethod isSave (.inr rfl)
      rw [isSave]
      exact left_call_unbound (method_save source settings) failed context
    · exact left_call_missing (method_other source settings isLoad isSave) arguments context

-- The streams that a request leaves: as they were, or after the one member that it let run.
inductive Worked (descriptor : Descriptor) (session : Session) (request : Request) : Streams → Prop
  | idle (passive : request.activates = none) : Worked descriptor session request session.streams
  | refused (member : String) (active : request.activates = some member) :
      Worked descriptor session request (session.streams.enterFinally member)
  | load (path : String) (active : request.activates = some loadMethod) :
      Worked descriptor session request (loadStreams session.streams path)
  | save (number : Nat) (path : String) (same : request = .call number saveMethod [.text path]) :
      Worked descriptor session request
        (saved session.streams descriptor.className path (held descriptor (session.object number))).1

theorem activates_call {method : String} {argument : Value} (number : Nat)
    (known : method = loadMethod ∨ method = saveMethod) (fits : argument.isAssignableTo .string = true) :
    (Request.call number method [argument]).activates = some method := if_pos ⟨known, fits⟩

section

variable {source : CommentSource} {name : String} (accepted : source.descriptor.Accepted name)
  (settings : ContentSettings) (depth : Nat)

include accepted

theorem call_worked (session : Session) (number : Nat) (method : String) (arguments : List Value) :
    Worked source.descriptor session (.call number method arguments)
      (((host (helperClass source settings) (depth + 2)).call method arguments).left
        ⟨session.streams, session.object number, { member := "" }⟩).streams := by
  match arguments with
  | [] =>
      rw [left_call_refused (by simp)]
      exact .idle rfl
  | first :: second :: rest =>
      rw [left_call_refused (by simp)]
      exact .idle rfl
  | [argument] =>
      by_cases active : (method = loadMethod ∨ method = saveMethod) ∧ argument.isAssignableTo .string = true
      · obtain ⟨known, fits⟩ := active
        have activates := activates_call number known fits
        rcases known with rfl | rfl
        · rcases path_of_assignable fits with rfl | ⟨path, rfl⟩
          · rw [Exec.left_error (call_load_null source settings (depth + 1) _)]
            exact .refused loadMethod activates
          · rw [Exec.left_of_except (call_load source settings (depth + 1) path _)]
            exact .load path activates
        · rcases path_of_assignable fits with rfl | ⟨path, rfl⟩
          · rw [Exec.left_error (call_save_null source settings (depth + 1) _)]
            exact .refused saveMethod activates
          · rw [Exec.left_of_except (call_save accepted settings depth path _)]
            exact .save number path rfl
      · rw [left_call_refused]
        · exact .idle (if_neg active)
        · intro other same fits
          cases same
          exact ⟨fun isLoad => active ⟨.inl isLoad, fits⟩, fun isSave => active ⟨.inr isSave, fits⟩⟩

theorem construct_worked (session : Session) (arguments : List Value) :
    Worked source.descriptor session (.construct arguments)
      (Execution.construct (helperClass source settings) (depth + 2) session.streams arguments).1 := by
  by_cases taken : Taken source.descriptor arguments
  · cases taken with
    | empty =>
        rw [construct_empty]
        exact .idle rfl
    | file path =>
        rw [construct_file accepted]
        exact .load path rfl
    | given element named =>
        rw [construct_instance accepted depth session.streams named]
        exact .idle rfl
  · obtain ⟨signature, refused⟩ := construct_other settings (depth + 2) session.streams taken
    rw [refused]
    refine .idle ?_
    unfold Request.activates
    split
    · rename_i path same
      cases same
      exact absurd (.file path) taken
    · rename_i same
      cases same
    · rfl

theorem ask_worked (session : Session) (request : Request) :
    Worked source.descriptor session request
      (session.ask (helperClass source settings) (depth + 2) request).1.streams := by
  cases request with
  | construct arguments =>
      have worked := construct_worked accepted settings depth session arguments
      rw [Session.ask]
      cases built : Execution.construct (helperClass source settings) (depth + 2) session.streams arguments with
      | mk streams result =>
          rw [built] at worked
          cases result <;> exact worked
  | call number method arguments =>
      have worked := call_worked accepted settings depth session number method arguments
      rw [← Execution.on_object_streams] at worked
      exact worked
  | get number property =>
      have same := left_get accepted settings (depth + 1)
        ⟨session.streams, session.object number, { member := "" }⟩ property
      rw [Session.ask, Session.after, Execution.getProperty, Execution.on_object_streams, same]
      exact .idle rfl
  | set number property value =>
      have same := left_set accepted settings (depth + 1)
        ⟨session.streams, session.object number, { member := "" }⟩ property value
      rw [Session.ask, Session.after, Execution.setProperty, Execution.on_object_streams, same]
      exact .idle rfl

end

end Helper
end Companion
