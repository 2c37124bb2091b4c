import Mathlib.Data.List.Forall2
import Companion.Proofs.Execution.Construct
import Companion.Proofs.Execution.Raised

/-!
The choice of a constructor. Main statement: `constructor_resolved`, the only constructor that takes the arguments is
run, without such a one nothing is, and a helper class takes nothing, a path or an element of the wrapped class.
-/
set_option autoImplicit false

namespace Companion

open Code (Constructor Param TypeRef)

-- The values that fit a type; null fits every type that has values at all.
inductive Takes : TypeRef → Value → Prop
  | null {type : TypeRef} (inhabited : type ≠ .void) : Takes type .null
  | text (text : String) : Takes .string (.text text)
  | object (element : Xml.Element) : Takes (.named element.name) (.object element)
  | stream (id : StreamId) : Takes (.framework .stream) (.stream id)
  | serializer (root : String) : Takes (.framework .xmlSerializer) (.serializer root)
  | fileInfo (path : Path) : Takes (.framework .fileInfo) (.fileInfo path)

theorem takes_iff {type : TypeRef} {value : Value} : Takes type value ↔ value.isAssignableTo type = true := by
  constructor
  · intro takes
    cases takes with
    | null inhabited => cases type <;> first | exact absurd rfl inhabited | rfl
    | object element => simp [Value.isAssignableTo]
    | _ => rfl
  · intro fits
    unfold Value.isAssignableTo at fits
    split at fits
    · cases fits
    · rename_i inhabited
      split at fits
      · exact .null inhabited
      · exact .text _
      · cases of_decide_eq_true fits
        exact .object _
      · exact .stream _
      · exact .serializer _
      · exact .fileInfo _
      · cases fits

namespace Execution

-- The constructor has as many parameters as there are arguments, and each takes its own.
def Applies (constructor : Constructor) (arguments : List Value) : Prop :=
  List.Forall₂ (fun (param : Param) value => Takes param.type value) constructor.params arguments

-- Of all that are declared no other constructor takes the arguments; two that are the same are two.
structure Sole (cls : Code.Class) (arguments : List Value) (constructor : Constructor) : Prop where
  applies : Applies constructor arguments
  alone : ∃ front back, cls.constructors = front ++ constructor :: back ∧
    ∀ other ∈ front ++ back, ¬ Applies other arguments

theorem accepts_iff {constructor : Constructor} {arguments : List Value} :
    accepts constructor arguments = true ↔ Applies constructor arguments := by
  rw [accepts, Applies, List.forall₂_iff_zip, Bool.and_eq_true, decide_eq_true_iff, List.all_eq_true]
  refine and_congr_right fun _ => ⟨fun all param value member => ?_, fun all pair member => ?_⟩
  · exact takes_iff.mpr (all (param, value) member)
  · exact takes_iff.mp (all member)

theorem resolve_iff {cls : Code.Class} {arguments : List Value} {constructor : Constructor} :
    resolve cls arguments = .ok constructor ↔ Sole cls arguments constructor := by
  have only : resolve cls arguments = .ok constructor ↔
      cls.constructors.filter (accepts · arguments) = [constructor] := by
    unfold resolve
    split
    · rename_i other chosen
      simp [chosen]
    · rename_i several
      exact ⟨nofun, fun chosen => absurd chosen (several constructor)⟩
  rw [only, List.filter_eq_cons_iff]
  constructor
  · rintro ⟨front, back, whole, before, applies, behind⟩
    refine ⟨accepts_iff.mp applies, front, back, whole, fun other member applied => ?_⟩
    rw [List.filter_eq_nil_iff] at behind
    rcases List.mem_append.mp member with early | late
    · exact before other early (accepts_iff.mpr applied)
    · exact behind other late (accepts_iff.mpr applied)
  · rintro ⟨applies, front, back, whole, others⟩
    refine ⟨front, back, whole, fun other early accepted => ?_, accepts_iff.mpr applies, ?_⟩
    · exact others other (List.mem_append_left back early) (accepts_iff.mp accepted)
    · rw [List.filter_eq_nil_iff]
      exact fun other late accepted => others other (List.mem_append_right front late) (accepts_iff.mp accepted)

theorem resolve_none {cls : Code.Class} {arguments : List Value}
    (none : ∀ constructor, ¬ Sole cls arguments constructor) :
    resolve cls arguments = .error (.noConstructor (", ".intercalate (arguments.map Value.typeName))) := by
  unfold resolve
  split
  · rename_i constructor chosen
    refine absurd (resolve_iff.mp ?_) (none constructor)
    rw [resolve, chosen]
  · rfl

-- The variables with which a member begins.
def given (params : List Param) (arguments : List Value) : Bindings :=
  (params.zip arguments).foldl (fun locals pair => Bindings.set pair.1.name pair.2 locals) []

theorem bind_all_taken {frame : Frame} {pairs : List (Param × Value)}
    (takes : ∀ pair ∈ pairs, Takes pair.1.type pair.2) :
    frame.bindAll pairs = .ok { frame with
      locals := pairs.foldl (fun locals pair => Bindings.set pair.1.name pair.2 locals) frame.locals } := by
  induction pairs generalizing frame with
  | nil => rfl
  | cons pair rest ih =>
      obtain ⟨first, others⟩ := List.forall_mem_cons.mp takes
      have fits : Frame.checkType pair.1.type pair.2 = .ok () := if_pos (takes_iff.mp first)
      rw [Frame.bindAll, fits]
      exact ih others

theorem frame_of_applies {constructor : Constructor} {arguments : List Value}
    (applies : Applies constructor arguments) (member : String) :
    Frame.ofCall member constructor.params arguments =
      .ok { member := member, locals := given constructor.params arguments } := by
  obtain ⟨lengths, takes⟩ := List.forall₂_iff_zip.mp applies
  rw [Frame.ofCall, if_pos lengths]
  exact bind_all_taken fun pair member => takes member

-- What a constructor makes of its arguments: it begins with an object that holds nothing.
def built (cls : Code.Class) (depth : Nat) (streams : Streams) (constructor : Constructor)
    (arguments : List Value) : Streams × Except Stop HelperObject :=
  let activation : Activation := {
    frame := { member := cls.name, locals := given constructor.params arguments }
    initializers := constructor.initializers
    body := constructor.body }
  match onObject (perform cls depth activation) streams [] with
  | (streams, object, .ok _) => (streams, .ok object)
  | (streams, _, .error stop) => (streams, .error stop)

variable {cls : Code.Class} {arguments : List Value}

theorem construct_sole {constructor : Constructor} (sole : Sole cls arguments constructor) (depth : Nat)
    (streams : Streams) :
    construct cls depth streams arguments = built cls depth streams constructor arguments := by
  have resolved := resolve_iff.mpr sole
  have bound := frame_of_applies sole.applies cls.name
  unfold construct built construction onObject
  simp only [resolved, bound, Exec.of_except_ok, Exec.bind_apply, Exec.pure_apply]
  cases perform cls depth
    { frame := { member := cls.name, locals := given constructor.params arguments }
      initializers := constructor.initializers
      body := constructor.body }
    { streams := streams, object := [], frame := { member := "" } } <;> rfl

-- Once a constructor was chosen, nothing fails for want of one.
theorem built_plain (cls : Code.Class) (depth : Nat) (streams : Streams) (constructor : Constructor)
    (arguments : List Value) (signature : String) :
    (built cls depth streams constructor arguments).2 ≠ .error (.fault (.noConstructor signature)) := by
  let frame : Frame := { member := cls.name, locals := given constructor.params arguments }
  have plain := Host.plain_host cls depth ⟨frame, constructor.initializers, constructor.body⟩ nofun
    ⟨streams, [], { member := "" }⟩ nofun
  rw [host_perform] at plain
  unfold built onObject
  dsimp only
  cases ran : perform cls depth ⟨frame, constructor.initializers, constructor.body⟩
      ⟨streams, [], { member := "" }⟩ with
  | ok flow after => nofun
  | error stop after =>
      rw [ran] at plain
      rintro ⟨⟩
      exact plain.1

end Execution

open Execution

namespace Helper

-- The constructor of a helper class for some arguments, one of the three that it declares.
inductive Chosen (descriptor : Descriptor) (empty file wrapping : Constructor) : List Value → Constructor → Prop
  | empty : Chosen descriptor empty file wrapping [] empty
  | file (path : String) : Chosen descriptor empty file wrapping [.text path] file
  | wrapping (element : Xml.Element) (named : element.name = descriptor.className) :
      Chosen descriptor empty file wrapping [.object element] wrapping

theorem sole_iff (source : CommentSource) (settings : ContentSettings) {arguments : List Value}
    {constructor : Constructor} :
    Sole (helperClass source settings) arguments constructor ↔
      Chosen source.descriptor (emptyConstructor source settings.placeholder) (fileConstructor source)
        (instanceConstructor source) arguments constructor := by
  rw [← resolve_iff]
  constructor
  · intro resolved
    by_cases taken : Taken source.descriptor arguments
    · cases taken with
      | empty =>
          rw [resolve_empty] at resolved
          cases resolved
          exact .empty
      | file path =>
          rw [resolve_file] at resolved
          cases resolved
          exact .file path
      | given element named =>
          rw [resolve_instance named] at resolved
          cases resolved
          exact .wrapping element named
    · obtain ⟨signature, refused⟩ := resolve_other settings taken
      rw [refused] at resolved
      cases resolved
  · intro chosen
    cases chosen with
    | empty => exact resolve_empty source settings
    | file path => exact resolve_file source settings path
    | wrapping element named => exact resolve_instance named

theorem wrapped_reads {source : CommentSource} {name : String} (accepted : source.descriptor.Accepted name)
    (settings : ContentSettings) {element : Xml.Element} (named : element.name = source.descriptor.className)
    (depth : Nat) (streams : Streams) :
    ∃ object, construct (helperClass source settings) (depth + 2) streams [.object element] = (streams, .ok object) ∧
      ∀ room later, getProperty (helperClass source settings) (room + 1) later object
        source.descriptor.propertyName = (later, object, .ok (.object element)) := by
  refine ⟨_, construct_instance accepted depth streams named, fun room later => ?_⟩
  have got := get_forwarding accepted settings room
    ⟨later, [(source.descriptor.slot, .object element)], { member := "" }⟩
  rw [getProperty, onObject, got]
  simp [held, Bindings.get?]

end Helper

open Helper (Chosen build)

/-- A constructor is run just when it is the only one that takes the arguments; otherwise the answer is that there is
none, and nothing was done. A helper class has three, for no arguments, a path and an element of the wrapped class. -/
theorem constructor_resolved :
    (∀ (cls : Code.Class) (depth : Nat) (streams : Streams) (arguments : List Value),
      (∀ constructor, Sole cls arguments constructor →
        construct cls depth streams arguments = built cls depth streams constructor arguments) ∧
      ((∀ constructor, ¬ Sole cls arguments constructor) ↔
        ∃ signature, (construct cls depth streams arguments).2 = .error (.fault (.noConstructor signature))) ∧
      ((∀ constructor, ¬ Sole cls arguments constructor) →
        construct cls depth streams arguments =
          (streams, .error (.fault (.noConstructor (", ".intercalate (arguments.map Value.typeName))))))) ∧
    ∀ (settings : Helper.ContentSettings) (descriptor : Descriptor) (model : Code.Model),
      build settings descriptor = .ok model → ∃ empty file wrapping : Constructor,
        model.cls.constructors = [empty, file, wrapping] ∧ empty.params = [] ∧
        file.params = [⟨Helper.filePathParam, .string⟩] ∧
        wrapping.params = [⟨descriptor.instanceParameterName, .named descriptor.className⟩] ∧
        (∀ arguments constructor, Sole model.cls arguments constructor ↔
          Chosen descriptor empty file wrapping arguments constructor) ∧
        ∀ (element : Xml.Element), element.name = descriptor.className → ∀ (depth : Nat) (streams : Streams),
          ∃ object, construct model.cls (depth + 2) streams [.object element] = (streams, .ok object) ∧
            ∀ room later, getProperty model.cls (room + 1) later object descriptor.propertyName =
              (later, object, .ok (.object element)) := by
  refine ⟨fun cls depth streams arguments => ?_, fun settings descriptor model made => ?_⟩
  · have refused (none : ∀ constructor, ¬ Sole cls arguments constructor) :=
      Helper.construct_unresolved (resolve_none none) depth streams
    refine ⟨fun constructor sole => construct_sole sole depth streams, ⟨fun none => ?_, ?_⟩, refused⟩
    · exact ⟨_, congrArg Prod.snd (refused none)⟩
    · rintro ⟨signature, failed⟩ constructor sole
      rw [construct_sole sole] at failed
      exact built_plain cls depth streams constructor arguments signature failed
  · obtain ⟨name, accepted, same⟩ := Helper.build_accepted made
    rw [same]
    exact ⟨_, _, _, Helper.constructors_eq _ settings, rfl, rfl, rfl, fun _ _ => Helper.sole_iff _ settings,
      fun _ named depth streams => Helper.wrapped_reads accepted settings named depth streams⟩

-- Null fits a path as well as an element, so of the two constructors neither is run.
theorem constructor_resolved_book : ∃ model, build {} Descriptor.book = .ok model ∧
    (∃ signature, (construct model.cls 2 { files := {} } [.null]).2 = .error (.fault (.noConstructor signature))) ∧
    ∃ object, construct model.cls 2 { files := {} } [.object (.node "Book" [])] = ({ files := {} }, .ok object) ∧
      getProperty model.cls 1 { files := {} } object "Data" =
        ({ files := {} }, object, .ok (.object (.node "Book" []))) := by
  obtain ⟨classes, models⟩ := constructor_resolved
  obtain ⟨empty, file, wrapping, _, _, _, _, sole, reads⟩ := models {} Descriptor.book _ Helper.build_book
  obtain ⟨object, constructed, shown⟩ := reads (.node "Book" []) rfl 0 { files := {} }
  refine ⟨_, Helper.build_book, (classes _ 2 { files := {} } [.null]).2.1.mp ?_, object, constructed, shown 0 _⟩
  intro constructor alone
  cases (sole [.null] constructor).mp alone

end Companion
