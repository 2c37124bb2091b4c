import Companion.Proofs.Execution.Levels

/-!
Programs that look up only some names on the object that they belong to. Main statement: `meet_agrees`, a request that
stays with these names is met alike by the members of two classes that share them, whatever else the classes have.
-/
set_option autoImplicit false

namespace Companion

/-! ## Names that a program looks up -/

namespace Code

-- Expressions whose value is never the object itself, as long as no variable holds it.
def Expr.Foreign : Expr → Prop
  | .this => False
  | .incoming => False
  | .property target _ => target.Foreign
  | .invoke target _ _ => target.Foreign
  | _ => True

variable (known : String → Prop)

mutual
-- Only names that are known are looked up on what may be the object itself.
def Expr.Local : Expr → Prop
  | .property target name => target.Local ∧ (target.Foreign ∨ known name)
  | .invoke target method arguments =>
    target.Local ∧ (target.Foreign ∨ known method) ∧ Expr.AllLocal arguments
  | .create _ arguments => Expr.AllLocal arguments
  | .cast _ operand => operand.Local
  | .compare left _ right => left.Local ∧ right.Local
  | _ => True
def Expr.AllLocal : List Expr → Prop
  | [] => True
  | expr :: rest => expr.Local ∧ Expr.AllLocal rest
end

def Expr.OptionLocal : Option Expr → Prop
  | some expr => expr.Local known
  | none => True

-- What an assignment may have on its left for a value from the expression.
def Expr.Takes (value : Expr) : Expr → Prop
  | .variable _ => value.Foreign
  | .property owner name => owner.Local known ∧ (owner.Foreign ∨ known name)
  | _ => True

-- Variables never get the object itself.
def Expr.Declares : Option Expr → Prop
  | some init => init.Foreign
  | none => True

mutual
def Statement.Local : Statement → Prop
  | .declare _ _ init => Expr.OptionLocal known init ∧ Expr.Declares init
  | .assign target value => value.Local known ∧ value.Takes known target
  | .evaluate expr => expr.Local known
  | .branch condition whenTrue whenFalse =>
    condition.Local known ∧ Statement.BlockLocal whenTrue ∧ Statement.BlockLocal whenFalse
  | .attempt body handlers final =>
    Statement.BlockLocal body ∧ Statement.HandlersLocal handlers ∧ Statement.BlockLocal final
  | .leave value => Expr.OptionLocal known value
  | .rethrow => True
  | .comment _ => True
def Statement.BlockLocal : List Statement → Prop
  | [] => True
  | statement :: rest => statement.Local ∧ Statement.BlockLocal rest
def Statement.HandlersLocal : List Handler → Prop
  | [] => True
  | ⟨_, _, body⟩ :: rest => Statement.BlockLocal body ∧ Statement.HandlersLocal rest
end

def Accessors.Local : Accessors → Prop
  | .auto => True
  | .explicit getter setter => Statement.BlockLocal known getter ∧ Statement.BlockLocal known setter

-- Constructors, and the members with a known name, look up nothing else.
structure Class.Local (cls : Class) : Prop where
  constructors : ∀ constructor ∈ cls.constructors,
    Statement.BlockLocal known constructor.initializers ∧ Statement.BlockLocal known constructor.body
  property : ∀ name property, known name → cls.property? name = some property → property.accessors.Local known
  method : ∀ name method, known name → cls.method? name = some method → Statement.BlockLocal known method.body

-- Classes with the same constructors and, by their known names, the same members.
structure Class.Shares (cls other : Class) : Prop where
  name : other.name = cls.name
  constructors : other.constructors = cls.constructors
  property : ∀ name, known name → other.property? name = cls.property? name
  method : ∀ name, known name → other.method? name = cls.method? name

end Code

open Code (Expr Statement Handler Block)

/-! ## Variables that do not hold the object -/

def Frame.Calm (frame : Frame) : Prop := ∀ binding ∈ frame.locals, binding.2 ≠ .this

theorem Bindings.forall_set (holds : Value → Prop) {name : String} {value : Value} {bindings : Bindings}
    (new : holds value) (old : ∀ binding ∈ bindings, holds binding.2) :
    ∀ binding ∈ bindings.set name value, holds binding.2 := by
  induction bindings with
  | nil => exact List.forall_mem_singleton.mpr new
  | cons binding rest ih =>
      obtain ⟨here, behind⟩ := List.forall_mem_cons.mp old
      rw [set]
      split
      · exact List.forall_mem_cons.mpr ⟨new, behind⟩
      · exact List.forall_mem_cons.mpr ⟨here, ih behind⟩

theorem Bindings.holds_of_get (holds : Value → Prop) {name : String} {value : Value} {bindings : Bindings}
    (found : bindings.get? name = some value) (all : ∀ binding ∈ bindings, holds binding.2) : holds value := by
  induction bindings with
  | nil => cases found
  | cons binding rest ih =>
      obtain ⟨here, behind⟩ := List.forall_mem_cons.mp all
      rw [get?, List.lookup_cons] at found
      split at found
      · cases found
        exact here
      · exact ih found behind

-- No parameter has a type for the object itself.
theorem not_this_of_assignable {value : Value} {type : Code.TypeRef} (fits : value.isAssignableTo type = true) :
    value ≠ .this := by
  rintro rfl
  cases type <;> cases fits

namespace Frame

theorem not_this_of_checked {type : Code.TypeRef} {value : Value} {done : Unit}
    (checked : checkType type value = .ok done) : value ≠ .this := by
  rw [checkType] at checked
  by_cases fits : value.isAssignableTo type = true
  · exact not_this_of_assignable fits
  · rw [if_neg fits] at checked
    cases checked

theorem calm_set {frame : Frame} (calm : frame.Calm) (name : String) {value : Value} (other : value ≠ .this) :
    Calm { frame with locals := Bindings.set name value frame.locals } :=
  Bindings.forall_set (· ≠ .this) other calm

theorem calm_bind_all {frame bound : Frame} {given : List (Code.Param × Value)} (calm : frame.Calm)
    (done : frame.bindAll given = .ok bound) : bound.Calm := by
  induction given generalizing frame with
  | nil =>
      cases done
      exact calm
  | cons pair rest ih =>
      obtain ⟨_, checked, behind⟩ := ok_of_bind done
      exact ih (calm_set calm pair.1.name (not_this_of_checked checked)) behind

theorem calm_of_call {member : String} {params : List Code.Param} {arguments : List Value} {frame : Frame}
    (bound : ofCall member params arguments = .ok frame) : frame.Calm := by
  rw [ofCall] at bound
  split at bound
  · have fresh : Calm { member := member } := List.forall_mem_nil _
    exact calm_bind_all fresh bound
  · cases bound

end Frame

/-! ## Runs side by side -/

namespace Exec

variable {α β : Type} {promised : α → Prop}

-- Variables stay as they should, and a value is as promised.
def EndsCalm (promised : α → Prop) : EStateM.Result Stop Context α → Prop
  | .ok value after => promised value ∧ after.frame.Calm
  | .error _ after => after.frame.Calm

-- Where no variable holds the object, both runs are the same one.
def Parallel (promised : α → Prop) (run other : Exec α) : Prop :=
  ∀ context : Context, context.frame.Calm → other context = run context ∧ EndsCalm promised (run context)

theorem parallel_pure {value : α} (kept : promised value) : Parallel promised (pure value) (pure value) :=
  fun _ calm => ⟨rfl, kept, calm⟩

theorem parallel_raise (fault : Fault) : Parallel promised (raise fault : Exec α) (raise fault) :=
  fun _ calm => ⟨rfl, calm⟩

theorem parallel_of_except {outcome : Except Fault α} (kept : ∀ value, outcome = .ok value → promised value) :
    Parallel promised (ofExcept outcome) (ofExcept outcome) := by
  cases outcome with
  | ok value => exact parallel_pure (kept value rfl)
  | error fault => exact parallel_raise fault

theorem parallel_except (outcome : Except Fault α) :
    Parallel (fun _ => True) (ofExcept outcome) (ofExcept outcome) :=
  parallel_of_except fun _ _ => trivial

theorem parallel_bind {wanted : β → Prop} {run other : Exec α} {next behind : α → Exec β}
    (first : Parallel promised run other)
    (second : ∀ value, promised value → Parallel wanted (next value) (behind value)) :
    Parallel wanted (run >>= next) (other >>= behind) := by
  intro context calm
  obtain ⟨same, ends⟩ := first context calm
  rw [bind_apply, bind_apply, same]
  cases ran : run context with
  | ok value after =>
      rw [ran] at ends
      exact second value ends.1 after ends.2
  | error stop after =>
      rw [ran] at ends
      exact ⟨rfl, ends⟩

theorem parallel_weaken {wanted : α → Prop} {run other : Exec α} (parallel : Parallel promised run other)
    (enough : ∀ value, promised value → wanted value) : Parallel wanted run other := by
  intro context calm
  obtain ⟨same, ends⟩ := parallel context calm
  refine ⟨same, ?_⟩
  cases ran : run context with
  | ok value after =>
      rw [ran] at ends
      exact ⟨enough value ends.1, ends.2⟩
  | error stop after =>
      rw [ran] at ends
      exact ends

theorem parallel_frame : Parallel Frame.Calm frame frame := fun _ calm => ⟨rfl, calm, calm⟩

theorem parallel_on_streams (operation : Streams → Streams.Outcome α) :
    Parallel (fun _ => True) (onStreams operation) (onStreams operation) := by
  intro context calm
  refine ⟨rfl, ?_⟩
  rw [onStreams]
  rcases operation context.streams with ⟨streams, outcome⟩
  cases outcome with
  | ok value => exact ⟨trivial, calm⟩
  | error fault => exact calm

theorem parallel_set_local (name : String) {value : Value} (other : value ≠ .this) :
    Parallel (fun _ => True) (setLocal name value) (setLocal name value) :=
  fun _ calm => ⟨rfl, trivial, Frame.calm_set calm name other⟩

theorem parallel_attempt {run other : Exec α} (parallel : Parallel promised run other) :
    Parallel (fun outcome => ∀ value, outcome = .ok value → promised value) (attempt run) (attempt other) := by
  intro context calm
  obtain ⟨same, ends⟩ := parallel context calm
  rw [attempt, attempt, same]
  refine ⟨rfl, ?_⟩
  cases ran : run context with
  | ok value after =>
      rw [ran] at ends
      refine ⟨?_, ends.2⟩
      rintro _ ⟨⟩
      exact ends.1
  | error stop after =>
      rw [ran] at ends
      cases stop with
      | fault fault =>
          refine ⟨?_, ends⟩
          rintro _ ⟨⟩
      | exhausted => exact ends

-- The frame around is not touched.
theorem parallel_within {run other : Exec α} {frame : Frame} (inside : frame.Calm)
    (parallel : Parallel promised run other) : Parallel promised (within frame run) (within frame other) := by
  intro context calm
  obtain ⟨same, ends⟩ := parallel { context with frame } inside
  rw [within, within, same]
  refine ⟨rfl, ?_⟩
  cases ran : run { context with frame } with
  | ok value after =>
      rw [ran] at ends
      exact ⟨ends.1, calm⟩
  | error stop after => exact calm

end Exec

open Exec

theorem Framework.not_this_of_property {target found : Value} {name : String}
    (read : Framework.property target name = .ok found) : found ≠ .this := by
  rintro rfl
  unfold Framework.property at read
  split at read <;> cases read

theorem Framework.not_this_of_create {type : Code.TypeRef} {arguments : List Value} {made : Value}
    (created : Framework.create type arguments = .ok made) : made ≠ .this := by
  rintro rfl
  unfold Framework.create at created
  split at created <;> cases created

theorem Framework.parallel_invoke (target : Value) (method : String) (arguments : List Value) :
    Parallel (· ≠ .this) (Framework.invoke target method arguments) (Framework.invoke target method arguments) := by
  have null {α : Type} (operation : Streams → Streams.Outcome α) :
      Parallel (· ≠ Value.this) (do let _ ← onStreams operation; return .null)
        (do let _ ← onStreams operation; return .null) :=
    parallel_bind (parallel_on_streams operation) fun _ _ => parallel_pure nofun
  unfold Framework.invoke
  split
  · exact parallel_bind (parallel_on_streams _) fun _ _ => parallel_pure nofun
  · exact parallel_bind (parallel_on_streams _) fun _ _ => parallel_pure nofun
  · exact null _
  · exact null _
  · exact null _
  · exact parallel_bind (parallel_except _) fun _ _ => null _
  · refine parallel_bind (parallel_on_streams _) fun text _ => parallel_of_except ?_
    rintro found read rfl
    unfold Framework.deserialized at read
    split at read <;> cases read
  · exact parallel_raise _

namespace Host

structure Agrees (known : String → Prop) (host other : Host) : Prop where
  shares : host.cls.Shares known other.cls
  stays : host.cls.Local known
  perform : ∀ activation : Activation, activation.frame.Calm →
    Statement.BlockLocal known activation.initializers → Statement.BlockLocal known activation.body →
    Parallel (fun _ => True) (host.perform activation) (other.perform activation)

variable {known : String → Prop} {host other : Host}

section

variable (agrees : host.Agrees known other)

include agrees

theorem parallel_call {name : String} (looked : known name) (arguments : List Value) :
    Parallel (fun _ => True) (host.call name arguments) (other.call name arguments) := by
  unfold call
  rw [agrees.shares.method name looked]
  cases found : host.cls.method? name with
  | none => exact parallel_raise _
  | some method =>
      refine parallel_bind (parallel_of_except fun _ bound => Frame.calm_of_call bound) fun frame calm => ?_
      refine parallel_bind (agrees.perform _ calm trivial (agrees.stays.method name method looked found)) ?_
      rintro (_ | value) _
      · exact parallel_pure trivial
      · exact parallel_pure trivial

theorem parallel_get_property {name : String} (looked : known name) :
    Parallel (fun _ => True) (host.getProperty name) (other.getProperty name) := by
  have stored : Parallel (fun _ => True) (stored name) (stored name) := fun _ calm => ⟨rfl, trivial, calm⟩
  unfold getProperty
  rw [agrees.shares.property name looked]
  cases found : host.cls.property? name with
  | none => exact stored
  | some property =>
      have stays := agrees.stays.property name property looked found
      dsimp only
      cases accessors : property.accessors with
      | auto => exact stored
      | explicit getter setter =>
          rw [accessors] at stays
          refine parallel_bind (agrees.perform { frame := { member := name }, body := getter } nofun trivial stays.1) ?_
          rintro (_ | value) _
          · exact parallel_raise _
          · exact parallel_pure trivial

theorem parallel_set_property {name : String} (looked : known name) (value : Value) :
    Parallel (fun _ => True) (host.setProperty name value) (other.setProperty name value) := by
  have store : Parallel (fun _ => True) (store name value) (store name value) := fun _ calm => ⟨rfl, trivial, calm⟩
  unfold setProperty
  rw [agrees.shares.property name looked]
  cases found : host.cls.property? name with
  | none => exact store
  | some property =>
      have stays := agrees.stays.property name property looked found
      refine parallel_bind (parallel_except _) fun _ _ => ?_
      cases accessors : property.accessors with
      | auto => exact store
      | explicit getter setter =>
          rw [accessors] at stays
          exact parallel_bind (agrees.perform { frame := { member := name, incoming := some value }, body := setter }
            nofun trivial stays.2) fun _ _ => parallel_pure trivial

-- A value other than the object has the properties that the class library gives it.
theorem parallel_property_of {target : Value} {name : String} (looked : target = .this → known name) :
    Parallel (fun found => target ≠ .this → found ≠ .this) (host.propertyOf target name)
      (other.propertyOf target name) := by
  unfold propertyOf
  split
  · exact parallel_weaken (parallel_get_property agrees (looked rfl)) fun _ _ impossible => absurd rfl impossible
  · exact parallel_of_except fun _ read _ => Framework.not_this_of_property read

theorem parallel_invoke {target : Value} {method : String} (looked : target = .this → known method)
    (arguments : List Value) : Parallel (fun found => target ≠ .this → found ≠ .this)
      (host.invoke target method arguments) (other.invoke target method arguments) := by
  unfold invoke
  split
  · exact parallel_weaken (parallel_call agrees (looked rfl) arguments) fun _ _ impossible => absurd rfl impossible
  · exact parallel_raise _
  · exact parallel_weaken (Framework.parallel_invoke target method arguments) fun _ kept _ => kept

end

mutual
theorem parallel_evaluate (agrees : host.Agrees known other) {expr : Expr} (stays : expr.Local known) :
    Parallel (fun value => expr.Foreign → value ≠ .this) (host.evaluate expr) (other.evaluate expr) := by
  match expr with
  | .null => exact parallel_pure fun _ => nofun
  | .this => exact parallel_pure nofun
  | .literal text => exact parallel_pure fun _ => nofun
  | .type type => exact parallel_pure fun _ => nofun
  | .typeOf type => exact parallel_pure fun _ => nofun
  | .variable name =>
      rw [evaluate, evaluate]
      refine parallel_bind parallel_frame fun frame calm => ?_
      cases found : frame.locals.get? name with
      | none => exact parallel_raise _
      | some value => exact parallel_pure fun _ => Bindings.holds_of_get (· ≠ .this) found calm
  | .incoming =>
      rw [evaluate, evaluate]
      refine parallel_bind parallel_frame fun frame calm => ?_
      cases frame.incoming with
      | none => exact parallel_raise _
      | some value => exact parallel_pure nofun
  | .property target name =>
      rw [evaluate, evaluate]
      refine parallel_bind (parallel_evaluate agrees stays.1) fun value foreign => ?_
      refine parallel_weaken (parallel_property_of agrees ?_) fun found kept apart => kept (foreign apart)
      rintro rfl
      exact stays.2.resolve_left fun apart => foreign apart rfl
  | .invoke target method arguments =>
      rw [evaluate, evaluate]
      refine parallel_bind (parallel_evaluate agrees stays.1) fun value foreign =>
        parallel_bind (parallel_evaluate_all agrees stays.2.2) fun given _ => ?_
      refine parallel_weaken (parallel_invoke agrees ?_ given) fun found kept apart => kept (foreign apart)
      rintro rfl
      exact stays.2.1.resolve_left fun apart => foreign apart rfl
  | .create type arguments =>
      rw [evaluate, evaluate]
      exact parallel_bind (parallel_evaluate_all agrees stays) fun given _ =>
        parallel_of_except fun _ created _ => Framework.not_this_of_create created
  | .cast type operand =>
      rw [evaluate, evaluate]
      exact parallel_bind (parallel_evaluate agrees stays) fun value _ =>
        parallel_bind (parallel_of_except fun _ checked => Frame.not_this_of_checked checked) fun _ kept =>
          parallel_pure fun _ => kept
  | .compare left comparison right =>
      rw [evaluate, evaluate]
      exact parallel_bind (parallel_evaluate agrees stays.1) fun _ _ =>
        parallel_bind (parallel_evaluate agrees stays.2) fun _ _ => parallel_pure fun _ => nofun

theorem parallel_evaluate_all (agrees : host.Agrees known other) {exprs : List Expr}
    (stay : Expr.AllLocal known exprs) :
    Parallel (fun _ => True) (host.evaluateAll exprs) (other.evaluateAll exprs) := by
  match exprs with
  | [] => exact parallel_pure trivial
  | expr :: rest =>
      rw [evaluateAll, evaluateAll]
      exact parallel_bind (parallel_evaluate agrees stay.1) fun _ _ =>
        parallel_bind (parallel_evaluate_all agrees stay.2) fun _ _ => parallel_pure trivial
end

theorem parallel_evaluate_option (agrees : host.Agrees known other) {expr : Option Expr}
    (stays : Expr.OptionLocal known expr) :
    Parallel (fun value => Expr.Declares expr → value ≠ .this) (host.evaluate? expr) (other.evaluate? expr) := by
  cases expr with
  | none => exact parallel_pure fun _ => nofun
  | some expr => exact parallel_evaluate agrees stays

theorem parallel_assign (agrees : host.Agrees known other) {expr target : Expr} (takes : expr.Takes known target)
    {value : Value} (fits : expr.Foreign → value ≠ .this) :
    Parallel (fun _ => True) (host.assign target value) (other.assign target value) := by
  match target, takes with
  | .variable name, takes =>
      refine parallel_bind parallel_frame fun frame _ => ?_
      by_cases declared : (frame.locals.get? name).isSome = true
      · rw [if_pos declared]
        exact parallel_set_local name (fits takes)
      · rw [if_neg declared]
        exact parallel_raise _
  | .property owner name, takes =>
      refine parallel_bind (parallel_evaluate agrees takes.1) fun found foreign => ?_
      split
      · exact parallel_set_property agrees (takes.2.resolve_left fun apart => foreign apart rfl) value
      · exact parallel_raise _
      · exact parallel_raise _
  | .null, _ | .this, _ | .literal _, _ | .incoming, _ | .type _, _ | .invoke _ _ _, _ | .create _ _, _ | .typeOf _, _
  | .cast _ _, _ | .compare _ _ _, _ => exact parallel_raise _

theorem parallel_handling {run longer : Exec Flow} (parallel : Parallel (fun _ => True) run longer) (fault : Fault)
    (binding : Option String) :
    Parallel (fun _ => True) (handling fault binding run) (handling fault binding longer) := by
  intro context calm
  have inside : (entered fault binding context).frame.Calm := by
    cases binding with
    | none => exact calm
    | some name => exact Frame.calm_set calm name nofun
  obtain ⟨same, ends⟩ := parallel_attempt parallel (entered fault binding context) inside
  rw [handling_apply, handling_apply, same]
  refine ⟨rfl, ?_⟩
  cases ran : attempt run (entered fault binding context) with
  | error stop after =>
      rw [ran] at ends
      exact ends
  | ok outcome after =>
      rw [ran] at ends
      cases outcome with
      | ok flow => exact ⟨trivial, ends.2⟩
      | error raised => exact ends.2

theorem parallel_enter_finally (final : Block) :
    Parallel (fun _ => True) (enterFinally final) (enterFinally final) := by
  intro context calm
  rw [enter_finally_eq]
  refine ⟨rfl, trivial, ?_⟩
  rw [finally_entered_frame]
  exact calm

theorem parallel_rethrow : Parallel (fun _ => True) rethrow rethrow := by
  refine parallel_bind parallel_frame fun frame _ => ?_
  cases frame.caught with
  | nil => exact parallel_raise _
  | cons fault rest =>
      have dropped : Parallel (fun _ => True) (modifyFrame fun frame => { frame with caught := rest })
          (modifyFrame fun frame => { frame with caught := rest }) := fun _ calm => ⟨rfl, trivial, calm⟩
      exact parallel_bind dropped fun _ _ => parallel_raise fault

mutual
theorem parallel_run (agrees : host.Agrees known other) {statement : Statement} (stays : statement.Local known) :
    Parallel (fun _ => True) (host.run statement) (other.run statement) := by
  match statement with
  | .declare type name init =>
      rw [run, run]
      exact parallel_bind (parallel_evaluate_option agrees stays.1) fun value kept =>
        parallel_bind (parallel_set_local name (kept stays.2)) fun _ _ => parallel_pure trivial
  | .assign target value =>
      rw [run, run]
      exact parallel_bind (parallel_evaluate agrees stays.1) fun found fits =>
        parallel_bind (parallel_assign agrees stays.2 fits) fun _ _ => parallel_pure trivial
  | .evaluate expr =>
      rw [run, run]
      exact parallel_bind (parallel_evaluate agrees stays) fun _ _ => parallel_pure trivial
  | .leave value =>
      rw [run, run]
      exact parallel_bind (parallel_evaluate_option agrees stays) fun _ _ => parallel_pure trivial
  | .comment text =>
      rw [run, run]
      exact parallel_pure trivial
  | .rethrow =>
      rw [run, run]
      exact parallel_rethrow
  | .branch condition whenTrue whenFalse =>
      rw [run, run]
      refine parallel_bind (parallel_evaluate agrees stays.1) fun value _ =>
        parallel_bind (parallel_except _) fun chosen _ => ?_
      cases chosen with
      | true => exact parallel_run_block agrees stays.2.1
      | false => exact parallel_run_block agrees stays.2.2
  | .attempt body handlers final =>
      obtain ⟨bodyStays, handlersStay, finalStays⟩ := stays
      have guarded : Parallel (fun _ => True) (protect host body handlers) (protect other body handlers) := by
        refine parallel_bind (parallel_attempt (parallel_run_block agrees bodyStays)) fun tried _ => ?_
        cases tried with
        | ok flow => exact parallel_pure trivial
        | error fault =>
            exact parallel_weaken (parallel_attempt (parallel_handle agrees fault handlersStay)) fun _ _ => trivial
      rw [run_attempt_bind, run_attempt_bind]
      refine parallel_bind guarded fun outcome _ => parallel_bind (parallel_enter_finally final) fun _ _ =>
        parallel_bind (parallel_run_block agrees finalStays) fun flow _ => ?_
      cases flow with
      | leave value => exact parallel_pure trivial
      | next => exact parallel_except _

theorem parallel_run_block (agrees : host.Agrees known other) {block : Block}
    (stays : Statement.BlockLocal known block) :
    Parallel (fun _ => True) (host.runBlock block) (other.runBlock block) := by
  match block with
  | [] => exact parallel_pure trivial
  | statement :: rest =>
      rw [runBlock, runBlock]
      refine parallel_bind (parallel_run agrees stays.1) fun flow _ => ?_
      cases flow with
      | leave value => exact parallel_pure trivial
      | next => exact parallel_run_block agrees stays.2

theorem parallel_handle (agrees : host.Agrees known other) (fault : Fault) {handlers : List Handler}
    (stay : Statement.HandlersLocal known handlers) :
    Parallel (fun _ => True) (host.handle fault handlers) (other.handle fault handlers) := by
  match handlers with
  | [] => exact parallel_raise fault
  | ⟨exception, binding, body⟩ :: rest =>
      rw [handle, handle]
      split
      · exact parallel_handling (parallel_run_block agrees stay.1) fault binding
      · exact parallel_handle agrees fault stay.2
end

theorem agrees_above (agrees : host.Agrees known other) : host.above.Agrees known other.above where
  shares := agrees.shares
  stays := agrees.stays
  perform _ calm initializers body :=
    parallel_within calm (parallel_bind (parallel_run_block agrees initializers) fun _ _ =>
      parallel_run_block agrees body)

theorem agrees_host {cls extended : Code.Class} (shares : cls.Shares known extended) (stays : cls.Local known)
    (depth : Nat) : (Execution.host cls depth).Agrees known (Execution.host extended depth) := by
  induction depth with
  | zero => exact ⟨shares, stays, fun _ _ _ _ _ calm => ⟨rfl, calm⟩⟩
  | succ depth ih => exact agrees_above ih

end Host

/-! ## Requests -/

-- Whether a request names nothing but what is known.
def Request.Stays (known : String → Prop) : Request → Prop
  | .construct _ => True
  | .call _ method _ => known method
  | .get _ name => known name
  | .set _ name _ => known name

theorem Execution.on_object_parallel {α : Type} {promised : α → Prop} {run other : Exec α}
    (parallel : Exec.Parallel promised run other) (streams : Streams) (object : HelperObject) :
    onObject other streams object = onObject run streams object := by
  have calm : Frame.Calm { member := "" } := nofun
  rw [onObject, onObject, (parallel ⟨streams, object, { member := "" }⟩ calm).1]

variable {known : String → Prop} {host other : Host}

theorem Host.parallel_construction (agrees : host.Agrees known other) (arguments : List Value) :
    Exec.Parallel (fun _ => True) (host.construction arguments) (other.construction arguments) := by
  have resolved : Execution.resolve other.cls arguments = Execution.resolve host.cls arguments := by
    rw [Execution.resolve, Execution.resolve, agrees.shares.constructors]
  unfold construction
  rw [resolved, agrees.shares.name]
  have chosen : Exec.Parallel (· ∈ host.cls.constructors) (ofExcept (Execution.resolve host.cls arguments))
      (ofExcept (Execution.resolve host.cls arguments)) := by
    refine parallel_of_except fun constructor found => ?_
    rw [Execution.resolve] at found
    split at found
    · rename_i accepting
      cases found
      exact (List.mem_filter.mp (accepting ▸ List.mem_singleton_self constructor)).1
    · cases found
  refine parallel_bind chosen fun constructor member =>
    parallel_bind (parallel_of_except fun _ bound => Frame.calm_of_call bound) fun frame calm => ?_
  obtain ⟨initializers, body⟩ := agrees.stays.constructors constructor member
  exact parallel_bind (agrees.perform _ calm initializers body) fun _ _ => parallel_pure trivial

theorem Session.meet_agrees (agrees : host.Agrees known other) (session : Session) {request : Request}
    (stays : request.Stays known) : session.meet other request = session.meet host request := by
  cases request with
  | construct arguments => rw [meet, meet, Execution.on_object_parallel (Host.parallel_construction agrees arguments)]
  | call number method arguments =>
      rw [meet, meet, Execution.on_object_parallel (Host.parallel_call agrees stays arguments)]
  | get number name => rw [meet, meet, Execution.on_object_parallel (Host.parallel_get_property agrees stays)]
  | set number name value =>
      rw [meet, meet, Execution.on_object_parallel (Host.parallel_set_property agrees stays value)]

end Companion
