import Companion.Execution.Member
import Companion.Proofs.Execution.Faults

/-!
Kinds of runs to which a whole belongs once its parts do. Main statements: `closed_evaluate`, expressions are of a kind
to which the operations of the class library, the store of the object and the members belong; and `closed_run`, so
are statements if handlers and final blocks are.
-/
set_option autoImplicit false

namespace Companion

open Code (Expr Statement Handler Block)

namespace Exec

variable {allowed : Fault → Prop} {kind : (α : Type) → Exec α → Prop}

-- Runs of the kind, one after the other, are one run of it; what they raise is allowed, as the plain faults are.
structure Closed (allowed : Fault → Prop) (kind : (α : Type) → Exec α → Prop) : Prop where
  plain : ∀ {fault : Fault}, fault.Plain → allowed fault
  get : kind Context get
  pure : ∀ {α : Type} (value : α), kind α (pure value)
  raise : ∀ {α : Type} {fault : Fault}, allowed fault → kind α (raise fault)
  bind : ∀ {α β : Type} {run : Exec α} {next : α → Exec β}, kind α run → (∀ value, kind β (next value)) →
    kind β (run >>= next)

theorem Closed.of_except (closed : Closed allowed kind) {α : Type} {outcome : Except Fault α}
    (held : ∀ fault, outcome = .error fault → allowed fault) : kind α (ofExcept outcome) := by
  cases outcome with
  | ok value => exact closed.pure value
  | error fault => exact closed.raise (held fault rfl)

theorem Closed.of_plain (closed : Closed allowed kind) {α : Type} {outcome : Except Fault α}
    (plain : PlainOutcome outcome) : kind α (ofExcept outcome) := by
  refine closed.of_except ?_
  rintro fault rfl
  exact closed.plain plain

-- What follows an outcome has to be of the kind only where there is a value.
theorem Closed.bind_outcome (closed : Closed allowed kind) {α β : Type} {outcome : Except Fault α} {next : α → Exec β}
    (plain : PlainOutcome outcome) (behind : ∀ value, outcome = .ok value → kind β (next value)) :
    kind β (ofExcept outcome >>= next) := by
  cases outcome with
  | ok value =>
      have same : (ofExcept (.ok value) >>= next : Exec β) = next value := rfl
      rw [same]
      exact behind value rfl
  | error fault =>
      have same : (ofExcept (.error fault) >>= next : Exec β) = Exec.raise fault := rfl
      rw [same]
      exact closed.raise (closed.plain plain)

theorem Closed.frame (closed : Closed allowed kind) : kind Frame frame :=
  closed.bind closed.get fun _ => closed.pure _

-- What the class library does to the streams and to the files below them is of the kind.
structure Operates (kind : (α : Type) → Exec α → Prop) : Prop where
  openRead : ∀ path : Path, kind StreamId (onStreams (·.openRead path))
  create : ∀ path : Path, kind StreamId (onStreams (·.create path))
  directories : ∀ path : Path, kind Unit (Framework.createDirectories path)
  flush : ∀ id, kind Unit (onStreams (·.flush id))
  release : ∀ id, kind Unit (onStreams (·.release id))
  write : ∀ id bytes, kind Unit (onStreams (·.write id bytes))
  readText : ∀ id, kind String (onStreams (·.readText id))

theorem Closed.operation (closed : Closed allowed kind) (operates : Operates kind) (target : Value) (method : String)
    (arguments : List Value) : kind Value (Framework.invoke target method arguments) := by
  unfold Framework.invoke
  split
  · exact closed.bind (operates.openRead _) fun _ => closed.pure _
  · exact closed.bind (operates.create _) fun _ => closed.pure _
  · exact closed.bind (operates.directories _) fun _ => closed.pure _
  · exact closed.bind (operates.flush _) fun _ => closed.pure _
  · exact closed.bind (operates.release _) fun _ => closed.pure _
  · exact closed.bind (closed.of_plain (Framework.plain_serialized _ _)) fun _ =>
      closed.bind (operates.write _ _) fun _ => closed.pure _
  · exact closed.bind (operates.readText _) fun _ => closed.of_plain (Framework.plain_deserialized _ _)
  · exact closed.raise (closed.plain trivial)

end Exec

open Exec

namespace Host

variable {allowed : Fault → Prop} {kind : (α : Type) → Exec α → Prop}

-- What expressions are made of is of the kind; members begin with no fault to raise again.
structure Evaluates (host : Host) (allowed : Fault → Prop) (kind : (α : Type) → Exec α → Prop) : Prop
    extends Closed allowed kind where
  operation : ∀ target method arguments, kind Value (Framework.invoke target method arguments)
  store : ∀ name value, kind Unit (store name value)
  perform : ∀ activation : Activation, activation.frame.caught = [] → kind Flow (host.perform activation)

-- What statements are made of besides is of the kind, too.
structure Runs (host : Host) (allowed : Fault → Prop) (kind : (α : Type) → Exec α → Prop) : Prop
    extends host.Evaluates allowed kind where
  setLocal : ∀ name value, kind Unit (setLocal name value)
  rethrow : kind Flow rethrow
  enterFinally : ∀ final, kind Unit (enterFinally final)
  handling : ∀ {run : Exec Flow} {fault : Fault}, kind Flow run → allowed fault → ∀ binding,
    kind Flow (handling fault binding run)
  attempt : ∀ {α : Type} {run : Exec Flow} {next : Except Fault Flow → Exec α}, kind Flow run →
    (∀ outcome, (∀ fault, outcome = .error fault → allowed fault) → kind α (next outcome)) →
    kind α (attempt run >>= next)

variable {host : Host}

section

variable (evaluates : host.Evaluates allowed kind)

include evaluates

theorem closed_call (name : String) (arguments : List Value) : kind Value (host.call name arguments) := by
  unfold call
  cases host.cls.method? name with
  | none => exact evaluates.raise (evaluates.plain trivial)
  | some method =>
      refine evaluates.bind_outcome (Frame.plain_of_call name method.params arguments) fun frame bound =>
        evaluates.bind (evaluates.perform _ (Frame.called_fresh bound)) fun flow => ?_
      cases flow <;> exact evaluates.pure _

theorem closed_stored (name : String) : kind Value (stored name) :=
  evaluates.bind evaluates.get fun _ => evaluates.pure _

theorem closed_get_property (name : String) : kind Value (host.getProperty name) := by
  unfold getProperty
  cases host.cls.property? name with
  | none => exact closed_stored evaluates name
  | some property =>
      dsimp only
      cases property.accessors with
      | auto => exact closed_stored evaluates name
      | explicit getter setter =>
          refine evaluates.bind (evaluates.perform _ rfl) fun flow => ?_
          cases flow with
          | next => exact evaluates.raise (evaluates.plain trivial)
          | leave value => exact evaluates.pure value

theorem closed_set_property (name : String) (value : Value) : kind Unit (host.setProperty name value) := by
  unfold setProperty
  cases host.cls.property? name with
  | none => exact evaluates.store name value
  | some property =>
      refine evaluates.bind (evaluates.of_plain (plain_check_type property.type value)) fun _ => ?_
      cases property.accessors with
      | auto => exact evaluates.store name value
      | explicit getter setter => exact evaluates.bind (evaluates.perform _ rfl) fun _ => evaluates.pure _

theorem closed_property_of (target : Value) (name : String) : kind Value (host.propertyOf target name) := by
  unfold propertyOf
  split
  · exact closed_get_property evaluates name
  · exact evaluates.of_plain (Framework.plain_property target name)

theorem closed_invoke (target : Value) (method : String) (arguments : List Value) :
    kind Value (host.invoke target method arguments) := by
  unfold invoke
  split
  · exact closed_call evaluates method arguments
  · exact evaluates.raise (evaluates.plain trivial)
  · exact evaluates.operation target method arguments

end

mutual
theorem closed_evaluate (evaluates : host.Evaluates allowed kind) (expr : Expr) :
    kind Value (host.evaluate expr) := by
  match expr with
  | .null => exact evaluates.pure _
  | .this => exact evaluates.pure _
  | .literal text => exact evaluates.pure _
  | .type type => exact evaluates.pure _
  | .typeOf type => exact evaluates.pure _
  | .variable name =>
      rw [evaluate]
      refine evaluates.bind evaluates.frame fun frame => ?_
      cases frame.locals.get? name with
      | none => exact evaluates.raise (evaluates.plain trivial)
      | some value => exact evaluates.pure value
  | .incoming =>
      rw [evaluate]
      refine evaluates.bind evaluates.frame fun frame => ?_
      cases frame.incoming with
      | none => exact evaluates.raise (evaluates.plain trivial)
      | some value => exact evaluates.pure value
  | .property target name =>
      rw [evaluate]
      exact evaluates.bind (closed_evaluate evaluates target) fun value => closed_property_of evaluates value name
  | .invoke target method arguments =>
      rw [evaluate]
      exact evaluates.bind (closed_evaluate evaluates target) fun value =>
        evaluates.bind (closed_evaluate_all evaluates arguments) fun given =>
          closed_invoke evaluates value method given
  | .create type arguments =>
      rw [evaluate]
      exact evaluates.bind (closed_evaluate_all evaluates arguments) fun given =>
        evaluates.of_plain (Framework.plain_create type given)
  | .cast type operand =>
      rw [evaluate]
      exact evaluates.bind (closed_evaluate evaluates operand) fun value =>
        evaluates.bind (evaluates.of_plain (plain_check_type type value)) fun _ => evaluates.pure value
  | .compare left comparison right =>
      rw [evaluate]
      exact evaluates.bind (closed_evaluate evaluates left) fun _ =>
        evaluates.bind (closed_evaluate evaluates right) fun _ => evaluates.pure _

theorem closed_evaluate_all (evaluates : host.Evaluates allowed kind) (exprs : List Expr) :
    kind (List Value) (host.evaluateAll exprs) := by
  match exprs with
  | [] => exact evaluates.pure _
  | expr :: rest =>
      rw [evaluateAll]
      exact evaluates.bind (closed_evaluate evaluates expr) fun _ =>
        evaluates.bind (closed_evaluate_all evaluates rest) fun _ => evaluates.pure _
end

section

variable (evaluates : host.Evaluates allowed kind)

include evaluates

theorem closed_evaluate_option (expr : Option Expr) : kind Value (host.evaluate? expr) := by
  cases expr with
  | none => exact evaluates.pure _
  | some expr => exact closed_evaluate evaluates expr

-- Assignments are of the kind if changing a variable is.
theorem closed_assign (local_kind : ∀ name value, kind Unit (setLocal name value)) (target : Expr) (value : Value) :
    kind Unit (host.assign target value) := by
  unfold assign
  split
  · rename_i name
    refine evaluates.bind evaluates.frame fun frame => ?_
    by_cases declared : (frame.locals.get? name).isSome = true
    · rw [if_pos declared]
      exact local_kind name value
    · rw [if_neg declared]
      exact evaluates.raise (evaluates.plain trivial)
  · rename_i owner name
    refine evaluates.bind (closed_evaluate evaluates owner) fun found => ?_
    split
    · exact closed_set_property evaluates name value
    · exact evaluates.raise (evaluates.plain trivial)
    · exact evaluates.raise (evaluates.plain trivial)
  · exact evaluates.raise (evaluates.plain trivial)

end

/-! ## Statements -/

mutual
theorem closed_run (runs : host.Runs allowed kind) (statement : Statement) : kind Flow (host.run statement) := by
  match statement with
  | .declare type name init =>
      rw [run]
      exact runs.bind (closed_evaluate_option runs.toEvaluates init) fun value =>
        runs.bind (runs.setLocal name value) fun _ => runs.pure _
  | .assign target value =>
      rw [run]
      exact runs.bind (closed_evaluate runs.toEvaluates value) fun found =>
        runs.bind (closed_assign runs.toEvaluates runs.setLocal target found) fun _ => runs.pure _
  | .evaluate expr =>
      rw [run]
      exact runs.bind (closed_evaluate runs.toEvaluates expr) fun _ => runs.pure _
  | .leave value =>
      rw [run]
      exact runs.bind (closed_evaluate_option runs.toEvaluates value) fun _ => runs.pure _
  | .comment text =>
      rw [run]
      exact runs.pure _
  | .rethrow =>
      rw [run]
      exact runs.rethrow
  | .branch condition whenTrue whenFalse =>
      rw [run]
      refine runs.bind (closed_evaluate runs.toEvaluates condition) fun value =>
        runs.bind (runs.of_plain (plain_truth value)) fun chosen => ?_
      cases chosen with
      | true => exact closed_run_block runs whenTrue
      | false => exact closed_run_block runs whenFalse
  | .attempt body handlers final =>
      -- Whatever the block and its handlers came to, the final block runs and leaves it so unless it leaves itself.
      have ended (outcome : Except Fault Flow) (held : ∀ fault, outcome = .error fault → allowed fault) :
          kind Flow (do
            enterFinally final
            match ← host.runBlock final with
            | .leave value => return .leave value
            | .next => ofExcept outcome) := by
        refine runs.bind (runs.enterFinally final) fun _ => runs.bind (closed_run_block runs final) fun flow => ?_
        cases flow with
        | leave value => exact runs.pure _
        | next => exact runs.of_except held
      rw [run]
      refine runs.attempt (closed_run_block runs body) fun tried held => ?_
      cases tried with
      | ok flow =>
          dsimp only
          rw [pure_bind]
          exact ended (.ok flow) nofun
      | error fault => exact runs.attempt (closed_handle runs (held fault rfl) handlers) ended

theorem closed_run_block (runs : host.Runs allowed kind) (block : Block) : kind Flow (host.runBlock block) := by
  match block with
  | [] => exact runs.pure _
  | statement :: rest =>
      rw [runBlock]
      refine runs.bind (closed_run runs statement) fun flow => ?_
      cases flow with
      | leave value => exact runs.pure _
      | next => exact closed_run_block runs rest

theorem closed_handle (runs : host.Runs allowed kind) {fault : Fault} (held : allowed fault)
    (handlers : List Handler) : kind Flow (host.handle fault handlers) := by
  match handlers with
  | [] => exact runs.raise held
  | ⟨exception, binding, body⟩ :: rest =>
      rw [handle]
      split
      · exact runs.handling (closed_run_block runs body) held binding
      · exact closed_handle runs held rest
end

end Host
end Companion
