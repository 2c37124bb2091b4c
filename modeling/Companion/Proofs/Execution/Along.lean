import Companion.Proofs.Execution.Closed
import Companion.Proofs.Execution.Run

/-!
Relations between the context in which a part of a run begins and the one that it leaves. Main statement:
`along_evaluate`, a relation that the operations of the class library, the store of the object and the
members keep holds along every expression.
-/
set_option autoImplicit false

namespace Companion

open Code (Expr)

namespace Exec

variable {α β : Type} {related : Context → Context → Prop}

-- However the run ends.
def Along (related : Context → Context → Prop) (run : Exec α) : Prop :=
  ∀ context, related context (run.left context)

structure Chains (related : Context → Context → Prop) : Prop where
  refl : ∀ context, related context context
  trans : ∀ {before middle after}, related before middle → related middle after → related before after

section

variable (chains : Chains related)

include chains

theorem along_still {run : Exec α} (still : ∀ context, run.left context = context) : Along related run := by
  intro context
  rw [still context]
  exact chains.refl context

theorem along_pure (value : α) : Along related (pure value : Exec α) := along_still chains fun _ => rfl

theorem along_get : Along related (get : Exec Context) := along_still chains fun _ => rfl

theorem along_raise (fault : Fault) : Along related (raise fault : Exec α) := along_still chains fun _ => rfl

theorem along_frame : Along related frame := along_still chains fun _ => rfl

theorem along_of_except (outcome : Except Fault α) : Along related (ofExcept outcome) := by
  cases outcome with
  | ok value => exact along_pure chains value
  | error fault => exact along_raise chains fault

theorem along_bind {run : Exec α} {next : α → Exec β} (first : Along related run)
    (second : ∀ value, Along related (next value)) : Along related (run >>= next) := by
  intro context
  have held := first context
  rw [left, bind_apply]
  cases ran : run context with
  | error stop after =>
      rw [left_error ran] at held
      exact held
  | ok value after =>
      rw [left_ok ran] at held
      exact chains.trans held (second value after)

theorem Chains.closed : Closed (fun _ => True) fun α => @Along α related where
  plain _ := trivial
  get := along_get chains
  pure := along_pure chains
  raise _ := along_raise chains _
  bind := along_bind chains

end

end Exec

open Exec

namespace Host

-- What expressions are made of keeps the relation.
structure Carries (host : Host) (related : Context → Context → Prop) : Prop where
  chains : Chains related
  operation : ∀ target method arguments, Along related (Framework.invoke target method arguments)
  store : ∀ name value, Along related (store name value)
  perform : ∀ activation, Along related (host.perform activation)

variable {host : Host} {related : Context → Context → Prop} (carries : host.Carries related)

include carries

theorem Carries.evaluates : host.Evaluates (fun _ => True) fun α => @Along α related where
  toClosed := carries.chains.closed
  operation := carries.operation
  store := carries.store
  perform activation _ := carries.perform activation

theorem along_call (name : String) (arguments : List Value) : Along related (host.call name arguments) :=
  closed_call carries.evaluates name arguments

theorem along_get_property (name : String) : Along related (host.getProperty name) :=
  closed_get_property carries.evaluates name

theorem along_set_property (name : String) (value : Value) : Along related (host.setProperty name value) :=
  closed_set_property carries.evaluates name value

theorem along_evaluate (expr : Expr) : Along related (host.evaluate expr) := closed_evaluate carries.evaluates expr

theorem along_evaluate_option (expr : Option Expr) : Along related (host.evaluate? expr) :=
  closed_evaluate_option carries.evaluates expr

-- Assignments keep the relation if changing a variable does.
theorem along_assign (local_kept : ∀ name value, Along related (setLocal name value)) (target : Expr)
    (value : Value) : Along related (host.assign target value) :=
  closed_assign carries.evaluates local_kept target value

end Host
end Companion
