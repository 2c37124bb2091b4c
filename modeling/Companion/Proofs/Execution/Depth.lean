import Companion.Proofs.Execution.Rethrow

/-!
Runs that are given more room. A run that was not exhausted is the same run however deeply members may be
active within one another, and whatever those do that are active more deeply than it ever went. Main
statements: `extends_above`, hosts that agree as far as one of them goes agree one level above, and so
`deepens_host`, the depth that members may go to shows only where it does not suffice.
-/
set_option autoImplicit false

namespace Companion

open Code (Expr Statement Handler Block)

namespace Exec

variable {α β : Type}

def Finished : EStateM.Result Stop Context α → Prop
  | .error .exhausted _ => False
  | _ => True

-- The first run with more room: where it was not exhausted it is the second one.
def Extends (run longer : Exec α) : Prop := ∀ context, Finished (run context) → longer context = run context

theorem extends_same (run : Exec α) : Extends run run := fun _ _ => rfl

theorem extends_exhausted (longer : Exec α) : Extends (throw .exhausted) longer := fun _ impossible => impossible.elim

theorem finished_of_bind {run : Exec α} {next : α → Exec β} {context : Context}
    (finished : Finished ((run >>= next) context)) : Finished (run context) := by
  rw [bind_apply] at finished
  cases ran : run context with
  | ok value after => trivial
  | error stop after =>
      rw [ran] at finished
      cases stop <;> exact finished

theorem extends_bind {run longer : Exec α} {next behind : α → Exec β} (first : Extends run longer)
    (second : ∀ value, Extends (next value) (behind value)) : Extends (run >>= next) (longer >>= behind) := by
  intro context finished
  have same := first context (finished_of_bind finished)
  rw [bind_apply] at finished
  rw [bind_apply, bind_apply, same]
  cases ran : run context with
  | ok value after =>
      rw [ran] at finished
      exact second value after finished
  | error stop after => rfl

theorem extends_before {run longer : Exec α} (first : Extends run longer) (next : α → Exec β) :
    Extends (run >>= next) (longer >>= next) := extends_bind first fun value => extends_same (next value)

theorem extends_behind (run : Exec α) {next behind : α → Exec β}
    (second : ∀ value, Extends (next value) (behind value)) : Extends (run >>= next) (run >>= behind) :=
  extends_bind (extends_same run) second

theorem finished_of_attempt {run : Exec α} {context : Context} (finished : Finished (attempt run context)) :
    Finished (run context) := by
  rw [attempt] at finished
  cases ran : run context with
  | ok value after => trivial
  | error stop after =>
      cases stop with
      | fault fault => trivial
      | exhausted =>
          rw [ran] at finished
          exact finished

theorem extends_attempt {run longer : Exec α} (extend : Extends run longer) :
    Extends (attempt run) (attempt longer) := by
  intro context finished
  rw [attempt, attempt, extend context (finished_of_attempt finished)]

theorem finished_of_within {run : Exec α} {frame : Frame} {context : Context}
    (finished : Finished (within frame run context)) : Finished (run { context with frame }) := by
  rw [within] at finished
  cases ran : run { context with frame } with
  | ok value after => trivial
  | error stop after =>
      rw [ran] at finished
      cases stop <;> exact finished

theorem extends_within {run longer : Exec α} (extend : Extends run longer) (frame : Frame) :
    Extends (within frame run) (within frame longer) := by
  intro context finished
  rw [within, within, extend _ (finished_of_within finished)]

end Exec

open Exec

namespace Host

-- The host of the members that those of another host are active in.
def above (host : Host) : Host where
  cls := host.cls
  perform activation := within activation.frame do
    let _ ← host.runBlock activation.initializers
    host.runBlock activation.body

structure Deepens (host deeper : Host) : Prop where
  cls : deeper.cls = host.cls
  perform : ∀ activation, Extends (host.perform activation) (deeper.perform activation)

variable {host deeper : Host}

section

variable (deepens : host.Deepens deeper)

include deepens

theorem extends_call (name : String) (arguments : List Value) :
    Extends (host.call name arguments) (deeper.call name arguments) := by
  unfold call
  rw [deepens.cls]
  cases host.cls.method? name with
  | none => exact extends_same _
  | some method => exact extends_behind _ fun frame => extends_before (deepens.perform _) _

theorem extends_get_property (name : String) : Extends (host.getProperty name) (deeper.getProperty name) := by
  unfold getProperty
  rw [deepens.cls]
  cases host.cls.property? name with
  | none => exact extends_same _
  | some property =>
      dsimp only
      cases property.accessors with
      | auto => exact extends_same _
      | explicit getter setter => exact extends_before (deepens.perform _) _

theorem extends_set_property (name : String) (value : Value) :
    Extends (host.setProperty name value) (deeper.setProperty name value) := by
  unfold setProperty
  rw [deepens.cls]
  cases host.cls.property? name with
  | none => exact extends_same _
  | some property =>
      refine extends_behind _ fun _ => ?_
      cases property.accessors with
      | auto => exact extends_same _
      | explicit getter setter => exact extends_before (deepens.perform _) _

theorem extends_property_of (target : Value) (name : String) :
    Extends (host.propertyOf target name) (deeper.propertyOf target name) := by
  cases target with
  | this => exact extends_get_property deepens name
  | _ => exact extends_same _

theorem extends_invoke (target : Value) (method : String) (arguments : List Value) :
    Extends (host.invoke target method arguments) (deeper.invoke target method arguments) := by
  cases target with
  | this => exact extends_call deepens method arguments
  | _ => exact extends_same _

end

mutual
theorem extends_evaluate (deepens : host.Deepens deeper) (expr : Expr) :
    Extends (host.evaluate expr) (deeper.evaluate expr) := by
  match expr with
  | .null => exact extends_same _
  | .this => exact extends_same _
  | .literal text => exact extends_same _
  | .type type => exact extends_same _
  | .typeOf type => exact extends_same _
  | .variable name =>
      rw [evaluate, evaluate]
      exact extends_same _
  | .incoming =>
      rw [evaluate, evaluate]
      exact extends_same _
  | .property target name =>
      rw [evaluate, evaluate]
      exact extends_bind (extends_evaluate deepens target) fun value => extends_property_of deepens value name
  | .invoke target method arguments =>
      rw [evaluate, evaluate]
      exact extends_bind (extends_evaluate deepens target) fun value =>
        extends_bind (extends_evaluate_all deepens arguments) fun given => extends_invoke deepens value method given
  | .create type arguments =>
      rw [evaluate, evaluate]
      exact extends_before (extends_evaluate_all deepens arguments) _
  | .cast type operand =>
      rw [evaluate, evaluate]
      exact extends_before (extends_evaluate deepens operand) _
  | .compare left comparison right =>
      rw [evaluate, evaluate]
      exact extends_bind (extends_evaluate deepens left) fun _ =>
        extends_before (extends_evaluate deepens right) _

theorem extends_evaluate_all (deepens : host.Deepens deeper) (exprs : List Expr) :
    Extends (host.evaluateAll exprs) (deeper.evaluateAll exprs) := by
  match exprs with
  | [] => exact extends_same _
  | expr :: rest =>
      rw [evaluateAll, evaluateAll]
      exact extends_bind (extends_evaluate deepens expr) fun _ =>
        extends_before (extends_evaluate_all deepens rest) _
end

theorem extends_evaluate_option (deepens : host.Deepens deeper) (expr : Option Expr) :
    Extends (host.evaluate? expr) (deeper.evaluate? expr) := by
  cases expr with
  | none => exact extends_same _
  | some expr => exact extends_evaluate deepens expr

theorem extends_assign (deepens : host.Deepens deeper) (target : Expr) (value : Value) :
    Extends (host.assign target value) (deeper.assign target value) := by
  cases target with
  | property owner name =>
      refine extends_bind (extends_evaluate deepens owner) fun found => ?_
      cases found with
      | this => exact extends_set_property deepens name value
      | _ => exact extends_same _
  | _ => exact extends_same _

theorem finished_of_handling {run : Exec Flow} {fault : Fault} {binding : Option String} {context : Context}
    (finished : Finished (handling fault binding run context)) :
    Finished (attempt run (entered fault binding context)) := by
  rw [handling_apply] at finished
  cases ran : attempt run (entered fault binding context) with
  | ok outcome after => trivial
  | error stop after =>
      rw [ran] at finished
      cases exhausted_of_attempt ran
      exact finished

theorem extends_handling {run longer : Exec Flow} (extend : Extends run longer) (fault : Fault)
    (binding : Option String) : Extends (handling fault binding run) (handling fault binding longer) := by
  intro context finished
  rw [handling_apply, handling_apply, extends_attempt extend _ (finished_of_handling finished)]

mutual
theorem extends_run (deepens : host.Deepens deeper) (statement : Statement) :
    Extends (host.run statement) (deeper.run statement) := by
  match statement with
  | .declare type name init =>
      rw [run, run]
      exact extends_before (extends_evaluate_option deepens init) _
  | .assign target value =>
      rw [run, run]
      exact extends_bind (extends_evaluate deepens value) fun found =>
        extends_before (extends_assign deepens target found) _
  | .evaluate expr =>
      rw [run, run]
      exact extends_before (extends_evaluate deepens expr) _
  | .leave value =>
      rw [run, run]
      exact extends_before (extends_evaluate_option deepens value) _
  | .comment text =>
      rw [run, run]
      exact extends_same _
  | .rethrow =>
      rw [run, run]
      exact extends_same _
  | .branch condition whenTrue whenFalse =>
      rw [run, run]
      refine extends_bind (extends_evaluate deepens condition) fun value => extends_behind _ fun chosen => ?_
      cases chosen with
      | true => exact extends_run_block deepens whenTrue
      | false => exact extends_run_block deepens whenFalse
  | .attempt body handlers final =>
      rw [run_attempt_bind, run_attempt_bind]
      have guarded : Extends (protect host body handlers) (protect deeper body handlers) := by
        refine extends_bind (extends_attempt (extends_run_block deepens body)) fun tried => ?_
        cases tried with
        | ok flow => exact extends_same _
        | error fault => exact extends_attempt (extends_handle deepens fault handlers)
      exact extends_bind guarded fun outcome => extends_behind _ fun _ =>
        extends_before (extends_run_block deepens final) _

theorem extends_run_block (deepens : host.Deepens deeper) (block : Block) :
    Extends (host.runBlock block) (deeper.runBlock block) := by
  match block with
  | [] => exact extends_same _
  | statement :: rest =>
      rw [runBlock, runBlock]
      refine extends_bind (extends_run deepens statement) fun flow => ?_
      cases flow with
      | leave value => exact extends_same _
      | next => exact extends_run_block deepens rest

theorem extends_handle (deepens : host.Deepens deeper) (fault : Fault) (handlers : List Handler) :
    Extends (host.handle fault handlers) (deeper.handle fault handlers) := by
  match handlers with
  | [] => exact extends_same _
  | ⟨exception, binding, body⟩ :: rest =>
      rw [handle, handle]
      split
      · exact extends_handling (extends_run_block deepens body) fault binding
      · exact extends_handle deepens fault rest
end

theorem extends_above (deepens : host.Deepens deeper) : host.above.Deepens deeper.above where
  cls := deepens.cls
  perform activation := extends_within (extends_bind (extends_run_block deepens activation.initializers) fun _ =>
    extends_run_block deepens activation.body) activation.frame

-- Members that may not be active at all are exhausted at once, so any others go further.
theorem deepens_nothing {cls : Code.Class} (same : deeper.cls = cls) : (Execution.host cls 0).Deepens deeper where
  cls := same
  perform _ := extends_exhausted _

theorem deepens_host (cls : Code.Class) (depth more : Nat) :
    (Execution.host cls depth).Deepens (Execution.host cls (depth + more)) := by
  induction depth with
  | zero => exact deepens_nothing rfl
  | succ depth ih =>
      rw [Nat.add_right_comm]
      exact extends_above ih

end Host
end Companion
