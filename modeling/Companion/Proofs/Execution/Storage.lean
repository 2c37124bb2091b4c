import Companion.Proofs.Execution.Requests

/-!
Helper classes that differ in where they keep the object that they wrap. Main statement:
`storage_unobservable`, requests that do not name the field get the same answers of both and leave the
same streams.
-/
set_option autoImplicit false

namespace Companion

-- The name under which an object keeps what it shows under a given one.
def Descriptor.place (descriptor : Descriptor) (name : String) : String :=
  if name = descriptor.propertyName then descriptor.slot else name

def Descriptor.shown (descriptor : Descriptor) (object : HelperObject) (name : String) : Value :=
  (object.get? (descriptor.place name)).getD .null

-- Every name but that of the backing field is open to requests.
def Descriptor.Open (descriptor : Descriptor) (name : String) : Prop :=
  descriptor.storage ≠ .backingField name

-- The property that a request names.
def Request.property? : Request → Option String
  | .get _ name => some name
  | .set _ name _ => some name
  | _ => none

-- What each of the requests is answered, with the streams after it.
def Session.answers (cls : Code.Class) (depth : Nat) (session : Session) :
    List Request → List (Except Stop Answer × Streams)
  | [] => []
  | request :: rest =>
    let (after, answer) := session.ask cls depth request
    (answer, after.streams) :: after.answers cls depth rest

namespace Helper

open Execution (host)

variable {descriptor : Descriptor}

@[simp] theorem place_property (descriptor : Descriptor) :
    descriptor.place descriptor.propertyName = descriptor.slot := if_pos rfl

theorem place_other {name : String} (other : name ≠ descriptor.propertyName) : descriptor.place name = name :=
  if_neg other

theorem shown_property (descriptor : Descriptor) (object : HelperObject) :
    descriptor.shown object descriptor.propertyName = held descriptor object := by
  rw [Descriptor.shown, place_property, held]

theorem place_property_ne {name : String} (isOpen : descriptor.Open name) (other : name ≠ descriptor.propertyName) :
    descriptor.slot ≠ name := by
  intro same
  unfold Descriptor.slot at same
  split at same
  · exact other same.symm
  · rename_i field stored
    exact isOpen (same ▸ stored)

-- Names that are open to requests are kept apart.
theorem place_injective {name other : String} (isOpen : descriptor.Open name) (otherOpen : descriptor.Open other)
    (same : descriptor.place name = descriptor.place other) : name = other := by
  by_cases wraps : name = descriptor.propertyName
  · by_cases otherWraps : other = descriptor.propertyName
    · rw [wraps, otherWraps]
    · rw [wraps, place_property, place_other otherWraps] at same
      exact absurd same (place_property_ne otherOpen otherWraps)
  · by_cases otherWraps : other = descriptor.propertyName
    · rw [otherWraps, place_property, place_other wraps] at same
      exact absurd same.symm (place_property_ne isOpen wraps)
    · rw [place_other wraps, place_other otherWraps] at same
      exact same

theorem shown_set {name other : String} (isOpen : descriptor.Open name) (otherOpen : descriptor.Open other)
    (value : Value) (object : HelperObject) :
    descriptor.shown (Bindings.set (descriptor.place name) value object) other =
      if name = other then value else descriptor.shown object other := by
  rw [Descriptor.shown, Bindings.get?_set]
  by_cases same : name = other
  · rw [if_pos same, if_pos (congrArg descriptor.place same)]
    rfl
  · rw [if_neg same, if_neg fun kept => same (place_injective isOpen otherOpen kept)]
    rfl

/-! ## Objects and sessions -/

variable {storage : Storage}

-- Objects of the classes for two storages that show the same under each name that is open in both.
def Similar (descriptor : Descriptor) (storage : Storage) (first second : HelperObject) : Prop :=
  ∀ name, descriptor.Open name → Descriptor.Open { descriptor with storage } name →
    descriptor.shown first name = Descriptor.shown { descriptor with storage } second name

structure Alike (descriptor : Descriptor) (storage : Storage) (first second : Session) : Prop where
  streams : first.streams = second.streams
  count : first.objects.length = second.objects.length
  objects : ∀ number, Similar descriptor storage (first.object number) (second.object number)

theorem similar_nil (descriptor : Descriptor) (storage : Storage) : Similar descriptor storage [] [] :=
  fun _ _ _ => rfl

theorem similar_set {first second : HelperObject} (similar : Similar descriptor storage first second)
    {name : String} (isOpen : descriptor.Open name) (otherOpen : Descriptor.Open { descriptor with storage } name)
    (value : Value) :
    Similar descriptor storage (Bindings.set (descriptor.place name) value first)
      (Bindings.set (Descriptor.place { descriptor with storage } name) value second) := by
  intro other shownFirst shownSecond
  rw [shown_set isOpen shownFirst, shown_set otherOpen shownSecond, similar other shownFirst shownSecond]

theorem object_set (streams : Streams) (objects : List HelperObject) (number other : Nat) (object : HelperObject) :
    Session.object ⟨streams, objects.set number object⟩ other =
      if number = other ∧ number < objects.length then object else Session.object ⟨streams, objects⟩ other := by
  rw [Session.object, Session.object, List.getElem?_set]
  by_cases same : number = other
  · subst same
    by_cases within : number < objects.length
    · simp [within]
    · simp [within]
  · simp [same]

theorem object_concat (streams : Streams) (objects : List HelperObject) (last : HelperObject) (number : Nat) :
    Session.object ⟨streams, objects ++ [last]⟩ number =
      if number = objects.length then last else Session.object ⟨streams, objects⟩ number := by
  by_cases same : number = objects.length
  · simp [Session.object, same]
  · rw [if_neg same, Session.object, Session.object, List.getElem?_append]
    split
    · rfl
    · rename_i beyond
      have further : [last].length ≤ number - objects.length := by
        rw [List.length_singleton]
        omega
      rw [List.getElem?_eq_none further, List.getElem?_eq_none (Nat.le_of_not_lt beyond)]

theorem alike_after {α : Type} {first second : Session} (alike : Alike descriptor storage first second)
    (number : Nat) {firstLeft secondLeft : HelperObject} (similar : Similar descriptor storage firstLeft secondLeft)
    (streams : Streams) (outcome : Except Stop α) (answer : α → Answer) :
    (first.after number (streams, firstLeft, outcome) answer).2 =
        (second.after number (streams, secondLeft, outcome) answer).2 ∧
      Alike descriptor storage (first.after number (streams, firstLeft, outcome) answer).1
        (second.after number (streams, secondLeft, outcome) answer).1 := by
  refine ⟨rfl, rfl, ?_, ?_⟩
  · simp [Session.after, alike.count]
  · intro other
    rw [Session.after, Session.after, object_set, object_set, alike.count]
    split
    · exact similar
    · exact alike.objects other

theorem alike_concat {first second : Session} (alike : Alike descriptor storage first second)
    (streams : Streams) {firstLast secondLast : HelperObject}
    (similar : Similar descriptor storage firstLast secondLast) :
    Alike descriptor storage ⟨streams, first.objects ++ [firstLast]⟩ ⟨streams, second.objects ++ [secondLast]⟩ := by
  refine ⟨rfl, ?_, ?_⟩
  · simp [alike.count]
  · intro number
    rw [object_concat, object_concat, alike.count]
    split
    · exact similar
    · exact alike.objects number

/-! ## Requests -/

section

variable {source : CommentSource} {name : String}

theorem get_shown (accepted : source.descriptor.Accepted name) (settings : ContentSettings) (depth : Nat)
    (property : String) (context : Context) :
    (host (helperClass source settings) (depth + 1)).getProperty property context =
      .ok (source.descriptor.shown context.object property) context := by
  by_cases wraps : property = source.descriptor.propertyName
  · rw [wraps, shown_property]
    exact get_forwarding accepted settings depth context
  · rw [Descriptor.shown, place_other wraps]
    exact get_unlisted _ (property_other source settings wraps) context

-- What writing a property does: nothing if it wraps objects and is given something else.
theorem set_shown (accepted : source.descriptor.Accepted name) (settings : ContentSettings) (depth : Nat)
    (property : String) (value : Value) (context : Context) :
    (host (helperClass source settings) (depth + 1)).setProperty property value context =
      if property = source.descriptor.propertyName ∧ value.isAssignableTo (wrapped source.descriptor) = false then
        .error (.fault (.invalidCast value.typeName source.descriptor.className)) context
      else .ok () { context with
        object := Bindings.set (source.descriptor.place property) value context.object } := by
  by_cases wraps : property = source.descriptor.propertyName
  · subst wraps
    cases fits : value.isAssignableTo (wrapped source.descriptor) with
    | true =>
        rw [if_neg (by simp), place_property]
        exact set_forwarding accepted settings depth fits context
    | false =>
        rw [if_pos ⟨rfl, rfl⟩]
        exact set_forwarding_refused (depth + 1) fits context
  · rw [if_neg fun both => wraps both.1, place_other wraps]
    exact set_unlisted _ (property_other source settings wraps) value context

end

-- The classes for different storages.
def classFor (descriptor : Descriptor) (name : String) (settings : ContentSettings) : Code.Class :=
  helperClass ⟨descriptor, name, settings.generatorName⟩ settings

theorem resolve_storage (descriptor : Descriptor) (storage : Storage) (name : String)
    (settings : ContentSettings) (arguments : List Value) :
    Execution.resolve (classFor { descriptor with storage } name settings) arguments =
      Execution.resolve (classFor descriptor name settings) arguments := rfl

theorem open_property {name : String} (accepted : descriptor.Accepted name) :
    descriptor.Open descriptor.propertyName := by
  intro stored
  exact accepted.field_ne_property stored rfl

-- Both classes answer a request alike, and what they leave behind is alike.
def Agree (descriptor : Descriptor) (storage : Storage) (name : String) (settings : ContentSettings)
    (depth : Nat) (first second : Session) (request : Request) : Prop :=
  (first.ask (classFor descriptor name settings) depth request).2 =
      (second.ask (classFor { descriptor with storage } name settings) depth request).2 ∧
    Alike descriptor storage (first.ask (classFor descriptor name settings) depth request).1
      (second.ask (classFor { descriptor with storage } name settings) depth request).1

section

variable {name : String} {settings : ContentSettings} {depth : Nat} {streams after : Streams}
  {firstObjects secondObjects : List HelperObject}
  (alike : Alike descriptor storage ⟨streams, firstObjects⟩ ⟨streams, secondObjects⟩)

include alike

theorem agree_of_built {arguments : List Value} {first second : HelperObject}
    (built : Execution.construct (classFor descriptor name settings) depth streams arguments = (after, .ok first))
    (otherBuilt : Execution.construct (classFor { descriptor with storage } name settings) depth streams arguments =
      (after, .ok second))
    (similar : Similar descriptor storage first second) :
    Agree descriptor storage name settings depth ⟨streams, firstObjects⟩ ⟨streams, secondObjects⟩
      (.construct arguments) := by
  have count : firstObjects.length = secondObjects.length := alike.count
  unfold Agree
  rw [Session.ask, Session.ask, built, otherBuilt]
  dsimp only
  rw [count]
  exact ⟨rfl, alike_concat alike after similar⟩

theorem agree_of_unbuilt {arguments : List Value} {stop : Stop}
    (built : Execution.construct (classFor descriptor name settings) depth streams arguments = (after, .error stop))
    (otherBuilt : Execution.construct (classFor { descriptor with storage } name settings) depth streams arguments =
      (after, .error stop)) :
    Agree descriptor storage name settings depth ⟨streams, firstObjects⟩ ⟨streams, secondObjects⟩
      (.construct arguments) := by
  unfold Agree
  rw [Session.ask, Session.ask, built, otherBuilt]
  exact ⟨rfl, rfl, alike.count, alike.objects⟩

theorem alike_on_object {α : Type} {number : Nat} {run otherRun : Exec α} (outcome : Except Fault α)
    {left otherLeft : HelperObject} {frame otherFrame : Frame}
    (ran : run ⟨streams, Session.object ⟨streams, firstObjects⟩ number, { member := "" }⟩ =
      Exec.ofExcept outcome ⟨after, left, frame⟩)
    (otherRan : otherRun ⟨streams, Session.object ⟨streams, secondObjects⟩ number, { member := "" }⟩ =
      Exec.ofExcept outcome ⟨after, otherLeft, otherFrame⟩)
    (similar : Similar descriptor storage left otherLeft) (answer : α → Answer) :
    let first : Session := ⟨streams, firstObjects⟩
    let second : Session := ⟨streams, secondObjects⟩
    let firstWorked := Execution.onObject run streams (first.object number)
    let secondWorked := Execution.onObject otherRun streams (second.object number)
    (first.after number firstWorked answer).2 = (second.after number secondWorked answer).2 ∧
      Alike descriptor storage (first.after number firstWorked answer).1
        (second.after number secondWorked answer).1 := by
  dsimp only
  rw [Execution.on_object_of_except ran, Execution.on_object_of_except otherRan]
  exact alike_after alike number similar after _ answer

end

section

variable {name : String} (accepted : descriptor.Accepted name)
  (otherAccepted : Descriptor.Accepted { descriptor with storage } name) (settings : ContentSettings)
  (depth : Nat) {streams : Streams} {firstObjects secondObjects : List HelperObject}
  (alike : Alike descriptor storage ⟨streams, firstObjects⟩ ⟨streams, secondObjects⟩)

include accepted otherAccepted

theorem similar_slot (value : Value) : Similar descriptor storage [(descriptor.slot, value)]
    [(Descriptor.slot { descriptor with storage }, value)] := by
  have set := similar_set (similar_nil descriptor storage) (open_property accepted)
    (open_property otherAccepted) value
  have otherPlace : Descriptor.place { descriptor with storage } descriptor.propertyName =
      Descriptor.slot { descriptor with storage } := place_property { descriptor with storage }
  rw [place_property, otherPlace] at set
  exact set

include alike

theorem held_alike (number : Nat) : held descriptor (Session.object ⟨streams, firstObjects⟩ number) =
    held { descriptor with storage } (Session.object ⟨streams, secondObjects⟩ number) := by
  have shown := alike.objects number descriptor.propertyName (open_property accepted) (open_property otherAccepted)
  rw [shown_property] at shown
  exact shown.trans (shown_property { descriptor with storage } _)

theorem agree_construct (arguments : List Value) :
    Agree descriptor storage name settings (depth + 2) ⟨streams, firstObjects⟩ ⟨streams, secondObjects⟩
      (.construct arguments) := by
  let source : CommentSource := ⟨descriptor, name, settings.generatorName⟩
  let other : CommentSource := ⟨{ descriptor with storage }, name, settings.generatorName⟩
  have valid : source.descriptor.Accepted name := accepted
  have otherValid : other.descriptor.Accepted name := otherAccepted
  by_cases taken : Taken descriptor arguments
  · cases taken with
    | empty =>
        exact agree_of_built alike (construct_empty source settings (depth + 1) streams)
          (construct_empty other settings (depth + 1) streams) (similar_nil descriptor storage)
    | file path =>
        have built : Execution.construct (helperClass source settings) (depth + 2) streams [.text path] = _ :=
          construct_file valid depth streams path
        have otherBuilt : Execution.construct (helperClass other settings) (depth + 2) streams [.text path] = _ :=
          construct_file otherValid depth streams path
        cases direct : loaded streams.files descriptor.className path with
        | error fault =>
            rw [direct] at built otherBuilt
            exact agree_of_unbuilt alike built otherBuilt
        | ok value =>
            rw [direct] at built otherBuilt
            exact agree_of_built alike built otherBuilt (similar_slot accepted otherAccepted value)
    | given element named =>
        exact agree_of_built alike (construct_instance valid depth streams named)
          (construct_instance otherValid depth streams named) (similar_slot accepted otherAccepted _)
  · have refused : ∃ signature, Execution.resolve (helperClass source settings) arguments =
        .error (.noConstructor signature) := resolve_other settings taken
    obtain ⟨signature, unresolved⟩ := refused
    have otherUnresolved := (resolve_storage descriptor storage name settings arguments).trans unresolved
    exact agree_of_unbuilt alike (construct_unresolved unresolved _ streams)
      (construct_unresolved otherUnresolved _ streams)

theorem agree_get (number : Nat) {property : String} (isOpen : descriptor.Open property)
    (otherOpen : Descriptor.Open { descriptor with storage } property) :
    Agree descriptor storage name settings (depth + 1) ⟨streams, firstObjects⟩ ⟨streams, secondObjects⟩
      (.get number property) := by
  let source : CommentSource := ⟨descriptor, name, settings.generatorName⟩
  let other : CommentSource := ⟨{ descriptor with storage }, name, settings.generatorName⟩
  have valid : source.descriptor.Accepted name := accepted
  have otherValid : other.descriptor.Accepted name := otherAccepted
  have similar := alike.objects number
  have got := get_shown valid settings depth property
    ⟨streams, Session.object ⟨streams, firstObjects⟩ number, { member := "" }⟩
  have otherGot := get_shown otherValid settings depth property
    ⟨streams, Session.object ⟨streams, secondObjects⟩ number, { member := "" }⟩
  have same : source.descriptor.shown _ property = other.descriptor.shown _ property :=
    similar property isOpen otherOpen
  rw [← same] at otherGot
  exact alike_on_object alike (.ok _) got otherGot similar .value

theorem agree_set (number : Nat) {property : String} (isOpen : descriptor.Open property)
    (otherOpen : Descriptor.Open { descriptor with storage } property) (value : Value) :
    Agree descriptor storage name settings (depth + 1) ⟨streams, firstObjects⟩ ⟨streams, secondObjects⟩
      (.set number property value) := by
  let source : CommentSource := ⟨descriptor, name, settings.generatorName⟩
  let other : CommentSource := ⟨{ descriptor with storage }, name, settings.generatorName⟩
  have valid : source.descriptor.Accepted name := accepted
  have otherValid : other.descriptor.Accepted name := otherAccepted
  have similar := alike.objects number
  have put := set_shown valid settings depth property value
    ⟨streams, Session.object ⟨streams, firstObjects⟩ number, { member := "" }⟩
  have otherPut := set_shown otherValid settings depth property value
    ⟨streams, Session.object ⟨streams, secondObjects⟩ number, { member := "" }⟩
  by_cases refused : property = descriptor.propertyName ∧ value.isAssignableTo (wrapped descriptor) = false
  · have put := put.trans (if_pos refused)
    have otherPut := otherPut.trans (if_pos refused)
    exact alike_on_object alike (.error _) put otherPut similar fun _ => .done
  · have put := put.trans (if_neg refused)
    have otherPut := otherPut.trans (if_neg refused)
    exact alike_on_object alike (.ok _) put otherPut (similar_set similar isOpen otherOpen value)
      fun _ => .done

theorem agree_call (number : Nat) (method : String) (arguments : List Value) :
    Agree descriptor storage name settings (depth + 2) ⟨streams, firstObjects⟩ ⟨streams, secondObjects⟩
      (.call number method arguments) := by
  let source : CommentSource := ⟨descriptor, name, settings.generatorName⟩
  let other : CommentSource := ⟨{ descriptor with storage }, name, settings.generatorName⟩
  have valid : source.descriptor.Accepted name := accepted
  have otherValid : other.descriptor.Accepted name := otherAccepted
  have similar := alike.objects number
  by_cases isLoad : method = loadMethod
  · subst isLoad
    cases bound : Frame.ofCall loadMethod [filePath] arguments with
    | error fault =>
        exact alike_on_object alike (.error _) (call_unbound (method_load source settings) bound _)
          (call_unbound (method_load other settings) bound _) similar .value
    | ok frame =>
        obtain ⟨argument, rfl, fits⟩ := path_of_frame bound
        rcases path_of_assignable fits with rfl | ⟨path, rfl⟩
        · exact alike_on_object alike (.error _) (call_load_null source settings (depth + 1) _)
            (call_load_null other settings (depth + 1) _) similar .value
        · exact alike_on_object alike _ (call_load source settings (depth + 1) path _)
            (call_load other settings (depth + 1) path _) similar .value
  · by_cases isSave : method = saveMethod
    · subst isSave
      cases bound : Frame.ofCall saveMethod [filePath] arguments with
      | error fault =>
          exact alike_on_object alike (.error _) (call_unbound (method_save source settings) bound _)
            (call_unbound (method_save other settings) bound _) similar .value
      | ok frame =>
          obtain ⟨argument, rfl, fits⟩ := path_of_frame bound
          rcases path_of_assignable fits with rfl | ⟨path, rfl⟩
          · exact alike_on_object alike (.error _) (call_save_null source settings (depth + 1) _)
              (call_save_null other settings (depth + 1) _) similar .value
          · have called := call_save valid settings depth path
              ⟨streams, Session.object ⟨streams, firstObjects⟩ number, { member := "" }⟩
            have otherCalled := call_save otherValid settings depth path
              ⟨streams, Session.object ⟨streams, secondObjects⟩ number, { member := "" }⟩
            have same := held_alike accepted otherAccepted alike number
            dsimp only at called otherCalled
            rw [← same] at otherCalled
            exact alike_on_object alike _ called otherCalled similar .value
    · exact alike_on_object alike (.error _)
        (call_missing (method_other source settings isLoad isSave) arguments _)
        (call_missing (method_other other settings isLoad isSave) arguments _) similar .value

end

section

variable {name : String} (accepted : descriptor.Accepted name)
  (otherAccepted : Descriptor.Accepted { descriptor with storage } name) (settings : ContentSettings)
  (depth : Nat)

include accepted otherAccepted

theorem agree_ask {first second : Session} (alike : Alike descriptor storage first second) {request : Request}
    (opens : ∀ property, request.property? = some property →
      descriptor.Open property ∧ Descriptor.Open { descriptor with storage } property) :
    Agree descriptor storage name settings (depth + 2) first second request := by
  obtain ⟨streams, firstObjects⟩ := first
  obtain ⟨otherStreams, secondObjects⟩ := second
  have same : streams = otherStreams := alike.streams
  subst same
  cases request with
  | construct arguments => exact agree_construct accepted otherAccepted settings depth alike arguments
  | call number method arguments =>
      exact agree_call accepted otherAccepted settings depth alike number method arguments
  | get number property =>
      obtain ⟨isOpen, otherOpen⟩ := opens property rfl
      exact agree_get accepted otherAccepted settings (depth + 1) alike number isOpen otherOpen
  | set number property value =>
      obtain ⟨isOpen, otherOpen⟩ := opens property rfl
      exact agree_set accepted otherAccepted settings (depth + 1) alike number isOpen otherOpen value

theorem answers_alike {first second : Session} (alike : Alike descriptor storage first second)
    {requests : List Request}
    (opens : ∀ request ∈ requests, ∀ property, request.property? = some property →
      descriptor.Open property ∧ Descriptor.Open { descriptor with storage } property) :
    first.answers (classFor descriptor name settings) (depth + 2) requests =
      second.answers (classFor { descriptor with storage } name settings) (depth + 2) requests := by
  induction requests generalizing first second with
  | nil => rfl
  | cons request rest ih =>
      obtain ⟨answer, after⟩ := agree_ask accepted otherAccepted settings depth alike
        (opens request List.mem_cons_self)
      rw [Session.answers, Session.answers]
      dsimp only
      rw [answer, after.streams, ih after fun other member => opens other (List.mem_cons_of_mem request member)]

end

-- Without a field there is one check less.
theorem validate_auto {done : Unit} (valid : descriptor.validate = .ok done) :
    Descriptor.validate { descriptor with storage := .auto } = .ok done := by
  unfold Descriptor.validate at valid ⊢
  obtain ⟨_, className, valid⟩ := ok_of_bind valid
  obtain ⟨_, propertyName, valid⟩ := ok_of_bind valid
  obtain ⟨_, classUnshadowed, valid⟩ := ok_of_bind valid
  obtain ⟨_, propertyUnshadowed, valid⟩ := ok_of_bind valid
  obtain ⟨_, namespaceName, valid⟩ := ok_of_bind valid
  obtain ⟨_, _, valid⟩ := ok_of_bind valid
  rw [className, propertyName, classUnshadowed, propertyUnshadowed, namespaceName]
  exact valid

theorem build_auto {settings : ContentSettings} {model : Code.Model}
    (built : build settings descriptor = .ok model) :
    ∃ other, build settings { descriptor with storage := .auto } = .ok other := by
  obtain ⟨_, valid, rest⟩ := ok_of_bind built
  obtain ⟨name, named, _⟩ := ok_of_bind rest
  have otherNamed : Descriptor.helperClassName { descriptor with storage := .auto } = .ok name := named
  rw [build, validate_auto valid, otherNamed]
  exact ⟨_, rfl⟩

/-- A backing field cannot be told from an automatic property, whatever is asked in whatever order, as long
as the field itself is not named. -/
theorem storage_unobservable {settings : ContentSettings} {descriptor : Descriptor} {model : Code.Model}
    {field : String} (stored : descriptor.storage = .backingField field)
    (built : build settings descriptor = .ok model) (depth : Nat) (files : FileSystem)
    (requests : List Request) (apart : ∀ request ∈ requests, request.property? ≠ some field) :
    ∃ other, build settings { descriptor with storage := .auto } = .ok other ∧
      (Session.fresh files).answers model.cls (depth + 2) requests =
        (Session.fresh files).answers other.cls (depth + 2) requests := by
  obtain ⟨other, otherBuilt⟩ := build_auto built
  obtain ⟨name, accepted, same⟩ := build_accepted built
  obtain ⟨otherName, otherAccepted, otherSame⟩ := build_accepted otherBuilt
  have named : otherName = name := Except.ok.inj (otherAccepted.named.symm.trans accepted.named)
  subst named
  refine ⟨other, otherBuilt, ?_⟩
  rw [same, otherSame]
  refine answers_alike accepted otherAccepted settings depth ?_ ?_
  · exact ⟨rfl, rfl, fun number => similar_nil descriptor .auto⟩
  · intro request member property names
    refine ⟨?_, nofun⟩
    intro hidden
    have isField : field = property := Storage.backingField.inj (stored.symm.trans hidden)
    exact apart request member (isField ▸ names)

def fielded : Descriptor := { Descriptor.book with storage := .backingField "bookData" }

theorem storage_unobservable_book : ∃ model other,
    build {} fielded = .ok model ∧ build {} Descriptor.book = .ok other ∧
      (Session.fresh {}).answers model.cls 2
          [.construct [], .set 0 "Data" (.text "no book"), .call 0 saveMethod [.text "a.xml"], .get 0 "Data"] =
        (Session.fresh {}).answers other.cls 2
          [.construct [], .set 0 "Data" (.text "no book"), .call 0 saveMethod [.text "a.xml"], .get 0 "Data"] := by
  have built : ∃ model, build {} fielded = .ok model := ⟨_, rfl⟩
  obtain ⟨model, built⟩ := built
  obtain ⟨other, otherBuilt, same⟩ := storage_unobservable rfl built 0 {}
    [.construct [], .set 0 "Data" (.text "no book"), .call 0 saveMethod [.text "a.xml"], .get 0 "Data"]
    (by decide)
  exact ⟨model, other, built, otherBuilt, same⟩

end Helper
end Companion
