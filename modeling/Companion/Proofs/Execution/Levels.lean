import Companion.Proofs.Execution.Depth
import Companion.Proofs.Execution.Typing

/-!
How deeply the members of a helper class are active within one another. Main statement:
`two_levels_suffice`, every request ends with at most two of them active, whatever members of a third level
would do; a property whose backing field is the property itself comes to no end at any depth.
-/
set_option autoImplicit false

namespace Companion

open Code (Block)

/-! ## Requests met by any host -/

theorem Execution.on_object_extends {α : Type} {run longer : Exec α} (extend : Exec.Extends run longer)
    {streams : Streams} {object : HelperObject} (finished : (onObject run streams object).2.2 ≠ .error .exhausted) :
    onObject longer streams object = onObject run streams object := by
  have ended : Exec.Finished (run ⟨streams, object, { member := "" }⟩) := by
    rw [onObject] at finished
    cases ran : run ⟨streams, object, { member := "" }⟩ with
    | ok value after => trivial
    | error stop after =>
        cases stop with
        | fault fault => trivial
        | exhausted =>
            rw [ran] at finished
            exact absurd rfl finished
  rw [onObject, onObject, extend _ ended]

def Host.construction (host : Host) (arguments : List Value) : Exec Unit := do
  let constructor ← Exec.ofExcept (Execution.resolve host.cls arguments)
  let frame ← Exec.ofExcept (Frame.ofCall host.cls.name constructor.params arguments)
  let _ ← host.perform { frame, initializers := constructor.initializers, body := constructor.body }
  return ()

namespace Session

-- The answer to a request from a host, of which members may do anything.
def meet (host : Host) (session : Session) : Request → Session × Except Stop Answer
  | .construct arguments =>
    match Execution.onObject (host.construction arguments) session.streams [] with
    | (streams, object, .ok ()) =>
      (⟨streams, session.objects ++ [object]⟩, .ok (.object session.objects.length))
    | (streams, _, .error stop) => ({ session with streams }, .error stop)
  | .call number method arguments =>
    session.after number
      (Execution.onObject (host.call method arguments) session.streams (session.object number)) .value
  | .get number name =>
    session.after number
      (Execution.onObject (host.getProperty name) session.streams (session.object number)) .value
  | .set number name value =>
    session.after number
      (Execution.onObject (host.setProperty name value) session.streams (session.object number)) fun _ => .done

theorem ask_eq_meet (cls : Code.Class) (depth : Nat) (session : Session) (request : Request) :
    session.ask cls depth request = session.meet (Execution.host cls depth) request := by
  cases request with
  | construct arguments =>
      have same : Execution.construction cls depth arguments =
          (Execution.host cls depth).construction arguments := rfl
      rw [ask, meet, Execution.construct, same]
      rcases Execution.onObject ((Execution.host cls depth).construction arguments) session.streams [] with
        ⟨streams, object, outcome⟩
      cases outcome <;> rfl
  | call number method arguments => rfl
  | get number name => rfl
  | set number name value => rfl

theorem after_exhausted {α : Type} {session : Session} {number : Nat} {answer : α → Answer}
    {worked : Streams × HelperObject × Except Stop α}
    (finished : (session.after number worked answer).2 ≠ .error .exhausted) : worked.2.2 ≠ .error .exhausted := by
  intro exhausted
  rw [after, exhausted] at finished
  exact finished rfl

theorem meet_deeper {host deeper : Host} (deepens : host.Deepens deeper) {session : Session} {request : Request}
    (finished : (session.meet host request).2 ≠ .error .exhausted) :
    session.meet deeper request = session.meet host request := by
  cases request with
  | construct arguments =>
      have extend : Exec.Extends (host.construction arguments) (deeper.construction arguments) := by
        unfold Host.construction
        rw [deepens.cls]
        exact Exec.extends_behind _ fun _ => Exec.extends_behind _ fun _ =>
          Exec.extends_before (deepens.perform _) _
      have ended : (Execution.onObject (host.construction arguments) session.streams []).2.2 ≠
          .error .exhausted := by
        intro exhausted
        rw [meet] at finished
        rcases ran : Execution.onObject (host.construction arguments) session.streams [] with
          ⟨streams, object, outcome⟩
        rw [ran] at finished exhausted
        cases exhausted
        exact finished rfl
      rw [meet, meet, Execution.on_object_extends extend ended]
  | call number method arguments =>
      rw [meet, meet, Execution.on_object_extends (Host.extends_call deepens method arguments)
        (after_exhausted finished)]
  | get number name =>
      rw [meet, meet, Execution.on_object_extends (Host.extends_get_property deepens name)
        (after_exhausted finished)]
  | set number name value =>
      rw [meet, meet, Execution.on_object_extends (Host.extends_set_property deepens name value)
        (after_exhausted finished)]

end Session

namespace Helper

open Execution (host)

/-! ## The members of a helper class -/

theorem on_object_finishes {α : Type} {run : Exec α} {streams : Streams} {object : HelperObject}
    (ended : ∃ outcome after, run ⟨streams, object, { member := "" }⟩ = Exec.ofExcept outcome after) :
    (Execution.onObject run streams object).2.2 ≠ .error .exhausted := by
  obtain ⟨outcome, after, ran⟩ := ended
  rw [Execution.on_object_of_except ran]
  cases outcome <;> nofun

theorem after_finishes {α : Type} {session : Session} {number : Nat} {answer : α → Answer}
    {worked : Streams × HelperObject × Except Stop α} (finished : worked.2.2 ≠ .error .exhausted) :
    (session.after number worked answer).2 ≠ .error .exhausted := by
  intro exhausted
  rw [Session.after] at exhausted
  cases ended : worked.2.2 with
  | ok value =>
      rw [ended] at exhausted
      cases exhausted
  | error stop =>
      rw [ended] at exhausted
      cases exhausted
      exact finished ended

section

variable {source : CommentSource} {name : String} (accepted : source.descriptor.Accepted name)
  (settings : ContentSettings) (depth : Nat)

include accepted

theorem construct_finishes (streams : Streams) (arguments : List Value) :
    (Execution.construct (helperClass source settings) (depth + 2) streams arguments).2 ≠ .error .exhausted := by
  by_cases taken : Taken source.descriptor arguments
  · cases taken with
    | empty =>
        rw [construct_empty]
        nofun
    | file path =>
        rw [construct_file accepted]
        cases loaded streams.files source.descriptor.className path <;> nofun
    | given element named =>
        rw [construct_instance accepted depth streams named]
        nofun
  · obtain ⟨signature, refused⟩ := construct_other settings (depth + 2) streams taken
    rw [refused]
    nofun

theorem ask_finishes (session : Session) (request : Request) :
    (session.ask (helperClass source settings) (depth + 2) request).2 ≠ .error .exhausted := by
  cases request with
  | construct arguments =>
      have finished := construct_finishes accepted settings depth session.streams arguments
      rw [Session.ask]
      cases built : Execution.construct (helperClass source settings) (depth + 2) session.streams arguments with
      | mk streams outcome =>
          rw [built] at finished
          intro exhausted
          cases outcome with
          | ok object => cases exhausted
          | error stop =>
              cases exhausted
              exact finished rfl
  | call number method arguments =>
      refine after_finishes (on_object_finishes ?_)
      obtain ⟨outcome, streams, called⟩ := call_keeps_object accepted settings depth method arguments
        ⟨session.streams, session.object number, { member := "" }⟩
      exact ⟨outcome, _, called⟩
  | get number property =>
      refine after_finishes (on_object_finishes ?_)
      exact ⟨.ok _, _, get_shown accepted settings (depth + 1) property _⟩
  | set number property value =>
      refine after_finishes (on_object_finishes ?_)
      have put := set_shown accepted settings (depth + 1) property value
        ⟨session.streams, session.object number, { member := "" }⟩
      split at put
      · exact ⟨.error _, _, put⟩
      · exact ⟨.ok (), _, put⟩

end

/-! ## A property that is its own field -/

section

variable {source : CommentSource} (settings : ContentSettings)
  (looped : source.descriptor.storage = .backingField source.descriptor.propertyName)

include looped

theorem get_looped (depth : Nat) (context : Context) :
    ∃ after, (host (helperClass source settings) depth).getProperty source.descriptor.propertyName context =
      .error .exhausted after := by
  have listed := property_forwarding source settings
  induction depth generalizing context with
  | zero =>
      refine ⟨context, ?_⟩
      simp [Host.getProperty, listed, forwardingProperty, accessors, looped, Execution.perform]
      rfl
  | succ depth ih =>
      obtain ⟨inner, ran⟩ := ih { context with frame := { member := source.descriptor.propertyName } }
      have got : (host (helperClass source settings) depth).runBlock
          [.leave (some (.property .this source.descriptor.propertyName))]
          { context with frame := { member := source.descriptor.propertyName } } = .error .exhausted inner := by
        simp [Host.runBlock, Host.run, Host.evaluate?, Host.evaluate, Host.propertyOf, ran]
      refine ⟨{ inner with frame := context.frame }, ?_⟩
      simp [Host.getProperty, listed, forwardingProperty, accessors, looped, Execution.perform_apply,
        Execution.within_error got]

theorem set_looped {value : Value} (fits : value.isAssignableTo (wrapped source.descriptor) = true) (depth : Nat)
    (context : Context) :
    ∃ after, (host (helperClass source settings) depth).setProperty source.descriptor.propertyName value context =
      .error .exhausted after := by
  have listed := property_forwarding source settings
  induction depth generalizing context with
  | zero =>
      refine ⟨context, ?_⟩
      simp [Host.setProperty, listed, forwardingProperty, Frame.checkType, fits, accessors, looped,
        Execution.perform]
      rfl
  | succ depth ih =>
      obtain ⟨inner, ran⟩ := ih { context with
        frame := { member := source.descriptor.propertyName, incoming := some value } }
      have put : (host (helperClass source settings) depth).runBlock
          [.assign (.property .this source.descriptor.propertyName) .incoming] { context with
            frame := { member := source.descriptor.propertyName, incoming := some value } } =
              .error .exhausted inner := by
        simp [Host.runBlock, Host.run, Host.evaluate, Host.assign, ran]
      refine ⟨{ inner with frame := context.frame }, ?_⟩
      simp [Host.setProperty, listed, forwardingProperty, Frame.checkType, fits, accessors, looped,
        Execution.perform_apply, Execution.within_error put]

end

/-- Every request to a built class ends with at most two members active within one another: what members of a
third level would do changes nothing. Reading or writing a property that is its own backing field, which
validation refuses, ends at no depth. -/
theorem two_levels_suffice :
    (∀ {settings : ContentSettings} {descriptor : Descriptor} {model : Code.Model},
      build settings descriptor = .ok model → ∀ (session : Session) (request : Request),
        (session.ask model.cls 2 request).2 ≠ .error .exhausted ∧
          (∀ third : Host, third.cls = model.cls →
            session.meet third.above.above request = session.ask model.cls 2 request) ∧
          ∀ depth, session.ask model.cls (depth + 2) request = session.ask model.cls 2 request) ∧
    ∀ (source : CommentSource) (settings : ContentSettings),
      source.descriptor.storage = .backingField source.descriptor.propertyName →
      source.descriptor.validate ≠ .ok () ∧ ∀ (depth : Nat) (session : Session) (number : Nat),
        (session.ask (helperClass source settings) depth (.get number source.descriptor.propertyName)).2 =
            .error .exhausted ∧
          ∀ value : Value, value.isAssignableTo (wrapped source.descriptor) = true →
            (session.ask (helperClass source settings) depth
              (.set number source.descriptor.propertyName value)).2 = .error .exhausted := by
  constructor
  · intro settings descriptor model built session request
    obtain ⟨name, valid, same⟩ := build_accepted built
    let source : CommentSource := ⟨descriptor, name, settings.generatorName⟩
    have accepted : source.descriptor.Accepted name := valid
    rw [same]
    have finished := ask_finishes accepted settings 0 session request
    have alone (third : Host) (kind : third.cls = helperClass source settings) :
        session.meet third.above.above request = session.ask (helperClass source settings) 2 request := by
      rw [Session.ask_eq_meet] at finished ⊢
      exact Session.meet_deeper (Host.extends_above (Host.extends_above (Host.deepens_nothing kind))) finished
    refine ⟨finished, alone, ?_⟩
    intro depth
    rw [Session.ask_eq_meet _ (depth + 2)]
    exact alone (host (helperClass source settings) depth) rfl
  · intro source settings looped
    refine ⟨?_, ?_⟩
    · intro valid
      obtain ⟨name, accepted⟩ := Descriptor.accepted_of_validate valid
      exact accepted.field_ne_property looped rfl
    · intro depth session number
      let context : Context := ⟨session.streams, session.object number, { member := "" }⟩
      obtain ⟨after, got⟩ := get_looped settings looped depth context
      refine ⟨?_, ?_⟩
      · rw [Session.ask, Session.after, Execution.getProperty, Execution.onObject, got]
        rfl
      · intro value fits
        obtain ⟨left, put⟩ := set_looped settings looped fits depth context
        rw [Session.ask, Session.after, Execution.setProperty, Execution.onObject, put]
        rfl

def looping : CommentSource where
  descriptor := { Descriptor.book with storage := .backingField "Data" }
  helperClass := "book_HelperClass"
  generatorName := "xsdhelper"

theorem two_levels_suffice_book :
    (∃ model, build {} fielded = .ok model ∧
      ((Session.fresh {}).ask model.cls 2 (.call 0 saveMethod [.text "a.xml"])).2 ≠ .error .exhausted) ∧
    looping.descriptor.validate ≠ .ok () ∧
      ((Session.fresh {}).ask (helperClass looping {}) 1000 (.set 0 "Data" .null)).2 = .error .exhausted := by
  obtain ⟨ends, loops⟩ := two_levels_suffice
  obtain ⟨refused, endless⟩ := loops looping {} rfl
  exact ⟨⟨_, build_fielded, (ends build_fielded (Session.fresh {}) (.call 0 saveMethod [.text "a.xml"])).1⟩,
    refused, (endless 1000 (Session.fresh {}) 0).2 .null rfl⟩

end Helper
end Companion
