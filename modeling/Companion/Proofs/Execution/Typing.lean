import Companion.Proofs.Execution.Storage
import Companion.Proofs.Execution.Store

/-!
What the property that wraps an object may show. Main statement: `property_typed`, it shows null or an
element of the wrapped class, or else what a request put into the backing field by the field's own name;
a save that empties a file and then finds that it cannot fill it saves such a value.
-/
set_option autoImplicit false

namespace Companion

-- The values that the property may show.
def Descriptor.Fits (descriptor : Descriptor) (value : Value) : Prop :=
  value = .null ∨ ∃ element, value = .object element ∧ element.name = descriptor.className

-- A request that puts a value into the backing field of an object without asking the property.
def Descriptor.Bypassed (descriptor : Descriptor) (request : Request) (number : Nat) (value : Value) : Prop :=
  ∃ field, descriptor.storage = .backingField field ∧ request = .set number field value

namespace Helper

open Execution (host)

theorem fits_of_assignable {descriptor : Descriptor} {value : Value}
    (assignable : value.isAssignableTo (wrapped descriptor) = true) : descriptor.Fits value := by
  cases value with
  | null => exact .inl rfl
  | object element => exact .inr ⟨element, rfl, by simpa [Value.isAssignableTo, wrapped] using assignable⟩
  | _ => cases assignable

theorem serialized_of_fits {descriptor : Descriptor} {value : Value} (fits : descriptor.Fits value) :
    ∃ element, Framework.serialized descriptor.className value = .ok element := by
  rcases fits with rfl | ⟨element, rfl, named⟩
  · exact ⟨none, rfl⟩
  · exact ⟨some element, if_pos named⟩

theorem held_set (descriptor : Descriptor) (name : String) (value : Value) (object : HelperObject) :
    held descriptor (Bindings.set name value object) =
      if name = descriptor.slot then value else held descriptor object := by
  rw [held, Bindings.get?_set]
  split <;> rfl

theorem held_place {descriptor : Descriptor} (name : String) (value : Value) (object : HelperObject) :
    held descriptor (Bindings.set (descriptor.place name) value object) = held descriptor object ∨
      held descriptor (Bindings.set (descriptor.place name) value object) = value ∧
        (name = descriptor.propertyName ∨ descriptor.storage = .backingField name) := by
  rw [held_set]
  by_cases here : descriptor.place name = descriptor.slot
  · refine .inr ⟨if_pos here, ?_⟩
    by_cases wraps : name = descriptor.propertyName
    · exact .inl wraps
    · refine .inr (Classical.byContradiction fun hidden => ?_)
      rw [place_other wraps] at here
      exact place_property_ne hidden wraps here.symm
  · exact .inl (if_neg here)

section

variable {source : CommentSource} {name : String} (accepted : source.descriptor.Accepted name)
  (settings : ContentSettings) (depth : Nat)

include accepted

-- Calling a method changes the streams at most.
theorem call_keeps_object (method : String) (arguments : List Value) (context : Context) :
    ∃ outcome streams, (host (helperClass source settings) (depth + 2)).call method arguments context =
      Exec.ofExcept outcome { context with streams } := by
  by_cases isLoad : method = loadMethod
  · subst isLoad
    cases bound : Frame.ofCall loadMethod [filePath] arguments with
    | error fault => exact ⟨.error fault, _, call_unbound (method_load source settings) bound context⟩
    | ok frame =>
        obtain ⟨argument, rfl, fits⟩ := path_of_frame bound
        rcases path_of_assignable fits with rfl | ⟨path, rfl⟩
        · exact ⟨.error _, _, call_load_null source settings (depth + 1) context⟩
        · exact ⟨_, _, call_load source settings (depth + 1) path context⟩
  · by_cases isSave : method = saveMethod
    · subst isSave
      cases bound : Frame.ofCall saveMethod [filePath] arguments with
      | error fault => exact ⟨.error fault, _, call_unbound (method_save source settings) bound context⟩
      | ok frame =>
          obtain ⟨argument, rfl, fits⟩ := path_of_frame bound
          rcases path_of_assignable fits with rfl | ⟨path, rfl⟩
          · exact ⟨.error _, _, call_save_null source settings (depth + 1) context⟩
          · exact ⟨_, _, call_save accepted settings depth path context⟩
    · exact ⟨.error _, _, call_missing (method_other source settings isLoad isSave) arguments context⟩

theorem construct_fits {streams after : Streams} {arguments : List Value} {object : HelperObject}
    (built : Execution.construct (helperClass source settings) (depth + 2) streams arguments =
      (after, .ok object)) : source.descriptor.Fits (held source.descriptor object) := by
  by_cases taken : Taken source.descriptor arguments
  · cases taken with
    | empty =>
        rw [construct_empty] at built
        cases built
        exact .inl rfl
    | file path =>
        rw [construct_file accepted] at built
        cases direct : loaded streams.files source.descriptor.className path with
        | error fault =>
            rw [direct] at built
            cases built
        | ok value =>
            rw [direct] at built
            cases built
            rw [held_of_slot]
            exact fits_of_assignable (loaded_assignable direct)
    | given element named =>
        rw [construct_instance accepted depth streams named] at built
        cases built
        rw [held_of_slot]
        exact .inr ⟨element, rfl, named⟩
  · obtain ⟨signature, refused⟩ := construct_other settings (depth + 2) streams taken
    rw [refused] at built
    cases built

end

/-! ## Sessions -/

-- A run on one object leaves the others alone.
theorem object_after {α : Type} {session : Session} {target : Nat} {run : Exec α} (outcome : Except Fault α)
    {streams : Streams} {left : HelperObject} {frame : Frame}
    (ran : run ⟨session.streams, session.object target, { member := "" }⟩ =
      Exec.ofExcept outcome ⟨streams, left, frame⟩) (answer : α → Answer) (number : Nat) :
    let after := (session.after target (Execution.onObject run session.streams (session.object target)) answer).1
    after.object number = session.object number ∨ target = number ∧ after.object number = left := by
  dsimp only
  rw [Execution.on_object_of_except ran, Session.after, object_set]
  split
  · rename_i here
    exact .inr ⟨here.1, rfl⟩
  · exact .inl rfl

section

variable {source : CommentSource} {name : String} (accepted : source.descriptor.Accepted name)
  (settings : ContentSettings) (depth : Nat)

include accepted

-- What an object holds after a request: what it held, a value that fits, or what went past the property.
def Typed (descriptor : Descriptor) (request : Request) (number : Nat) (before after : Session) : Prop :=
  held descriptor (after.object number) = held descriptor (before.object number) ∨
    descriptor.Fits (held descriptor (after.object number)) ∨
    descriptor.Bypassed request number (held descriptor (after.object number))

theorem ask_set_typed (session : Session) (target : Nat) (property : String) (value : Value) (number : Nat) :
    Typed source.descriptor (.set target property value) number session
      (session.ask (helperClass source settings) (depth + 1) (.set target property value)).1 := by
  have put := set_shown accepted settings depth property value
    ⟨session.streams, session.object target, { member := "" }⟩
  by_cases refused :
      property = source.descriptor.propertyName ∧ value.isAssignableTo (wrapped source.descriptor) = false
  · rw [if_pos refused] at put
    rcases object_after (.error _) put (fun _ => .done) number with same | ⟨rfl, same⟩
    · exact .inl (congrArg (held source.descriptor) same)
    · exact .inl (congrArg (held source.descriptor) same)
  · rw [if_neg refused] at put
    rcases object_after (.ok _) put (fun _ => .done) number with same | ⟨rfl, same⟩
    · exact .inl (congrArg (held source.descriptor) same)
    · have left := congrArg (held source.descriptor) same
      rcases held_place property value (session.object target) with kept | ⟨taken, wraps | stored⟩
      · exact .inl (left.trans kept)
      · have fits : value.isAssignableTo (wrapped source.descriptor) = true := by
          simpa using fun unfit => refused ⟨wraps, unfit⟩
        refine .inr (.inl ?_)
        have shown : held source.descriptor ((session.ask (helperClass source settings) (depth + 1)
            (.set target property value)).1.object target) = value := left.trans taken
        rw [shown]
        exact fits_of_assignable fits
      · exact .inr (.inr ⟨property, stored, congrArg (Request.set target property) (left.trans taken).symm⟩)

theorem ask_typed (session : Session) (request : Request) (number : Nat) :
    Typed source.descriptor request number session
      (session.ask (helperClass source settings) (depth + 2) request).1 := by
  cases request with
  | construct arguments =>
      rw [Session.ask]
      cases built : Execution.construct (helperClass source settings) (depth + 2) session.streams arguments with
      | mk streams result =>
          cases result with
          | error stop => exact .inl rfl
          | ok object =>
              unfold Typed
              rw [object_concat]
              split
              · exact .inr (.inl (construct_fits accepted settings depth built))
              · exact .inl rfl
  | call target method arguments =>
      obtain ⟨outcome, streams, called⟩ := call_keeps_object accepted settings depth method arguments
        ⟨session.streams, session.object target, { member := "" }⟩
      rcases object_after outcome called .value number with same | ⟨rfl, same⟩
      · exact .inl (congrArg (held source.descriptor) same)
      · exact .inl (congrArg (held source.descriptor) same)
  | get target property =>
      have got := get_shown accepted settings (depth + 1) property
        ⟨session.streams, session.object target, { member := "" }⟩
      rcases object_after (.ok _) got .value number with same | ⟨rfl, same⟩
      · exact .inl (congrArg (held source.descriptor) same)
      · exact .inl (congrArg (held source.descriptor) same)
  | set target property value => exact ask_set_typed accepted settings (depth + 1) session target property value number

theorem run_typed (session : Session) (requests : List Request) (number : Nat) :
    let after := session.run (helperClass source settings) (depth + 2) requests
    held source.descriptor (after.object number) = held source.descriptor (session.object number) ∨
      source.descriptor.Fits (held source.descriptor (after.object number)) ∨
      ∃ request ∈ requests,
        source.descriptor.Bypassed request number (held source.descriptor (after.object number)) := by
  induction requests generalizing session with
  | nil => exact .inl rfl
  | cons request rest ih =>
      rw [run_cons]
      rcases ih (session.ask (helperClass source settings) (depth + 2) request).1 with
        same | fits | ⟨later, member, bypassed⟩
      · rcases ask_typed accepted settings depth session request number with kept | fits | bypassed
        · exact .inl (same.trans kept)
        · exact .inr (.inl (same ▸ fits))
        · exact .inr (.inr ⟨request, List.mem_cons_self, same ▸ bypassed⟩)
      · exact .inr (.inl fits)
      · exact .inr (.inr ⟨later, List.mem_cons_of_mem request member, bypassed⟩)

end

/-! ## Saves that find no document -/

theorem saved_of_fits {descriptor : Descriptor} {value : Value} (fits : descriptor.Fits value)
    (streams : Streams) (path found expected : String) :
    (saved streams descriptor.className path value).2 ≠ .error (.invalidCast found expected) := by
  obtain ⟨element, serialized⟩ := serialized_of_fits fits
  unfold saved
  rw [serialized]
  split
  · nofun
  · split <;> nofun

theorem ask_call {cls : Code.Class} {depth : Nat} {session : Session} {number : Nat} {method : String}
    {arguments : List Value} {outcome : Except Fault Value} {streams : Streams} {left : HelperObject}
    {frame : Frame}
    (called : (host cls depth).call method arguments
      ⟨session.streams, session.object number, { member := "" }⟩ = Exec.ofExcept outcome ⟨streams, left, frame⟩) :
    session.ask cls depth (.call number method arguments) =
      (⟨streams, session.objects.set number left⟩, (outcome.mapError Stop.fault).map .value) := by
  rw [Session.ask, Execution.call, Execution.on_object_of_except called]
  rfl

-- A save that ends for want of a document either did nothing or saved a value that does not fit.
theorem ask_save_typed {source : CommentSource} {name : String} (accepted : source.descriptor.Accepted name)
    (settings : ContentSettings) (depth : Nat) {session : Session} {number : Nat} {arguments : List Value}
    {found expected : String}
    (refused : (session.ask (helperClass source settings) (depth + 2) (.call number saveMethod arguments)).2 =
      .error (.fault (.invalidCast found expected))) :
    (session.ask (helperClass source settings) (depth + 2) (.call number saveMethod arguments)).1.streams =
        session.streams ∨
      ¬ source.descriptor.Fits (held source.descriptor (session.object number)) := by
  let context : Context := ⟨session.streams, session.object number, { member := "" }⟩
  cases bound : Frame.ofCall saveMethod [filePath] arguments with
  | error fault =>
      have called : (host (helperClass source settings) (depth + 2)).call saveMethod arguments context =
          Exec.ofExcept (.error fault) context := call_unbound (method_save source settings) bound context
      rw [ask_call called]
      exact .inl rfl
  | ok frame =>
      obtain ⟨argument, rfl, assignable⟩ := path_of_frame bound
      rcases path_of_assignable assignable with rfl | ⟨path, rfl⟩
      · have called : (host (helperClass source settings) (depth + 2)).call saveMethod [.null] context =
            Exec.ofExcept (.error (.nullReference "FileInfo")) _ :=
          call_save_null source settings (depth + 1) context
        rw [ask_call called] at refused
        cases refused
      · refine .inr fun fits => ?_
        rw [ask_save accepted] at refused
        cases ended : (saved session.streams source.descriptor.className path
            (held source.descriptor (session.object number))).2 with
        | ok done =>
            rw [ended] at refused
            cases refused
        | error fault =>
            rw [ended] at refused
            cases refused
            exact saved_of_fits fits session.streams path found expected ended

theorem slot_of_field {descriptor : Descriptor} {field : String} (stored : descriptor.storage = .backingField field) :
    descriptor.slot = field := by
  rw [Descriptor.slot, stored]

-- What goes past the property is what the property then shows.
theorem held_bypassed {source : CommentSource} {name : String} (accepted : source.descriptor.Accepted name)
    (settings : ContentSettings) (depth : Nat) {session : Session} {request : Request} {number : Nat}
    {value : Value} (bypassed : source.descriptor.Bypassed request number value)
    (known : number < session.objects.length) :
    held source.descriptor
      ((session.ask (helperClass source settings) (depth + 1) request).1.object number) = value := by
  obtain ⟨field, stored, rfl⟩ := bypassed
  have other := accepted.field_ne_property stored
  have put := set_shown accepted settings depth field value
    ⟨session.streams, session.object number, { member := "" }⟩
  rw [if_neg fun both => other both.1, place_other other] at put
  have written : Execution.setProperty (helperClass source settings) (depth + 1) session.streams
      (session.object number) field value =
        (session.streams, Bindings.set field value (session.object number), .ok ()) := by
    rw [Execution.setProperty, Execution.onObject, put]
  rw [Session.ask, written, Session.after, object_set, if_pos ⟨rfl, known⟩, held_set,
    if_pos (slot_of_field stored).symm]

theorem build_fielded : build {} fielded = .ok {
    banner := ContentSettings.bannerLines {}
    imports := imports
    cls := helperClass ⟨fielded, "book_HelperClass", "xsdhelper"⟩ {} } := rfl

/-- The property shows null or an element of the wrapped class, and what it shows can be saved, unless a
request wrote something else to the backing field by its own name; that is then what it shows. -/
theorem property_typed {settings : ContentSettings} {descriptor : Descriptor} {model : Code.Model}
    (built : build settings descriptor = .ok model) (depth : Nat) (files : FileSystem)
    (requests : List Request) (number : Nat) :
    let session := (Session.fresh files).run model.cls (depth + 2) requests
    ∃ value,
      (session.ask model.cls (depth + 2) (.get number descriptor.propertyName)).2 = .ok (.value value) ∧
      (descriptor.Fits value ∨ ∃ request ∈ requests, descriptor.Bypassed request number value) ∧
      (∀ arguments found expected,
        let saving := session.ask model.cls (depth + 2) (.call number saveMethod arguments)
        saving.2 = .error (.fault (.invalidCast found expected)) →
          saving.1.streams = session.streams ∨ ¬ descriptor.Fits value) ∧
      ∀ written request, descriptor.Bypassed request number written → number < session.objects.length →
        ((session.ask model.cls (depth + 2) request).1.ask model.cls (depth + 2)
          (.get number descriptor.propertyName)).2 = .ok (.value written) := by
  obtain ⟨name, valid, same⟩ := build_accepted built
  let source : CommentSource := ⟨descriptor, name, settings.generatorName⟩
  have accepted : source.descriptor.Accepted name := valid
  rw [same]
  intro session
  refine ⟨held descriptor (session.object number), ?_, ?_, ?_, ?_⟩
  · exact ask_property accepted settings (depth + 1) session number
  · rcases run_typed accepted settings depth (Session.fresh files) requests number with fresh | typed
    · exact .inl (.inl fresh)
    · exact typed
  · intro arguments found expected saving refused
    exact ask_save_typed accepted settings depth refused
  · intro written request bypassed known
    have shown := held_bypassed accepted settings (depth + 1) bypassed known
    have read := ask_property accepted settings (depth + 1)
      (session.ask (helperClass source settings) (depth + 2) request).1 number
    rw [shown] at read
    exact read

theorem property_typed_book : ∃ model, build {} fielded = .ok model ∧
    ∃ value,
      (((Session.fresh {}).run model.cls 2 [.construct [.object poem], .set 0 "Data" (.text "no book")]).ask
        model.cls 2 (.get 0 "Data")).2 = .ok (.value value) ∧ fielded.Fits value := by
  obtain ⟨value, read, typed, _⟩ := property_typed build_fielded 0 {}
    [.construct [.object poem], .set 0 "Data" (.text "no book")] 0
  refine ⟨_, build_fielded, value, read, ?_⟩
  rcases typed with fits | ⟨request, member, field, stored, rfl⟩
  · exact fits
  · cases stored
    simp at member

-- A file system that holds one file, in the directory from which paths start.
def shelf : FileSystem := .ofTexts [("a.xml", "<")]

theorem bypassing_empties_file : ∃ model, build {} fielded = .ok model ∧
    let session := (Session.fresh shelf).run model.cls 2 [.construct [], .set 0 "bookData" (.text "no book")]
    let saving := session.ask model.cls 2 (.call 0 saveMethod [.text "a.xml"])
    (session.ask model.cls 2 (.get 0 "Data")).2 = .ok (.value (.text "no book")) ∧
      saving.2 = .error (.fault (.invalidCast "string" "Book")) ∧
      session.streams.files.contentAt [Utf8.encode "a.xml"] = .ok [60] ∧
      saving.1.streams.files.contentAt [Utf8.encode "a.xml"] = .ok [] := by
  let source : CommentSource := ⟨fielded, "book_HelperClass", "xsdhelper"⟩
  let bypassed : Session := ⟨{ files := shelf }, [[("bookData", .text "no book")]]⟩
  have ran : (Session.fresh shelf).run (helperClass source {}) 2
      [.construct [], .set 0 "bookData" (.text "no book")] = bypassed := rfl
  have here : shelf.createDirectories (directoryOf "a.xml") = (shelf, .ok ()) := by
    rw [FileSystem.createDirectories]
    rfl
  have ended : saved bypassed.streams source.descriptor.className "a.xml"
      (held source.descriptor (bypassed.object 0)) =
        (Streams.finished { files := shelf } (.ofTexts [("a.xml", "")])
          (.ofString "a.xml") .write saveMethod, .error (.invalidCast "string" "Book")) := by
    rw [saved, here]
    rfl
  obtain ⟨name, accepted, _⟩ := build_accepted build_fielded
  have valid : source.descriptor.Accepted name := accepted
  have asked := ask_save valid {} 0 bypassed 0 "a.xml"
  rw [ended] at asked
  refine ⟨_, build_fielded, ?_⟩
  dsimp only
  rw [ran, asked]
  exact ⟨rfl, rfl, rfl, rfl⟩

end Helper
end Companion
