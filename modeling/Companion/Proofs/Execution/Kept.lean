import Companion.Proofs.Execution.Along
import Companion.Proofs.Execution.Property

/-!
Parts of a run that leave the frame alone. Main statements: evaluating an expression keeps the whole
frame, since a member that it calls has a frame of its own, and an assignment keeps the caught faults.
-/
set_option autoImplicit false

namespace Companion

open Code (Expr)

namespace Exec

variable {α β γ : Type}

-- Whether the run succeeds or stops, what the view shows of the context stays.
def Keeps (view : Context → γ) (run : Exec α) : Prop :=
  ∀ context, match run context with
    | .ok _ after => view after = view context
    | .error _ after => view after = view context

variable {view : Context → γ}

theorem Keeps.ok {run : Exec α} (keeps : Keeps view run) {context after : Context} {value : α}
    (ran : run context = .ok value after) : view after = view context := by
  have kept := keeps context
  rwa [ran] at kept

theorem Keeps.stop {run : Exec α} (keeps : Keeps view run) {context after : Context} {stop : Stop}
    (ran : run context = .error stop after) : view after = view context := by
  have kept := keeps context
  rwa [ran] at kept

theorem keeps_of_along {run : Exec α} (along : Along (fun before after => view after = view before) run) :
    Keeps view run := by
  intro context
  have kept := along context
  cases ran : run context with
  | ok value after =>
      rw [left_ok ran] at kept
      exact kept
  | error stop after =>
      rw [left_error ran] at kept
      exact kept

theorem Keeps.along {run : Exec α} (keeps : Keeps view run) :
    Along (fun before after => view after = view before) run := by
  intro context
  cases ran : run context with
  | ok value after =>
      rw [left_ok ran]
      exact keeps.ok ran
  | error stop after =>
      rw [left_error ran]
      exact keeps.stop ran

theorem chains_view (view : Context → γ) : Chains fun before after => view after = view before :=
  ⟨fun _ => rfl, fun first second => second.trans first⟩

theorem keeps_pure (value : α) : Keeps view (pure value : Exec α) := fun _ => rfl

theorem keeps_raise (fault : Fault) : Keeps view (raise fault : Exec α) := fun _ => rfl

theorem keeps_bind {run : Exec α} {next : α → Exec β} (first : Keeps view run)
    (second : ∀ value, Keeps view (next value)) : Keeps view (run >>= next) :=
  keeps_of_along (along_bind (chains_view view) first.along fun value => (second value).along)

theorem keeps_on_streams (operation : Streams → Streams.Outcome α) :
    Keeps Context.frame (onStreams operation) := by
  intro context
  rw [onStreams]
  cases operation context.streams with
  | mk streams outcome => cases outcome <;> rfl

theorem keeps_within (frame : Frame) (run : Exec α) : Keeps Context.frame (within frame run) := by
  intro context
  rw [within]
  cases run { context with frame } <;> rfl

theorem keeps_caught {run : Exec α} (keeps : Keeps Context.frame run) :
    Keeps (fun context => context.frame.caught) run := by
  intro context
  cases ran : run context with
  | ok value after => exact congrArg Frame.caught (keeps.ok ran)
  | error stop after => exact congrArg Frame.caught (keeps.stop ran)

end Exec

open Exec

theorem keeps_operations : Operates fun α => @Along α fun before after => after.frame = before.frame where
  openRead _ := (keeps_on_streams _).along
  create _ := (keeps_on_streams _).along
  directories _ := (keeps_on_streams _).along
  flush _ := (keeps_on_streams _).along
  release _ := (keeps_on_streams _).along
  write _ _ := (keeps_on_streams _).along
  readText _ := (keeps_on_streams _).along

theorem Framework.keeps_invoke (target : Value) (method : String) (arguments : List Value) :
    Keeps Context.frame (Framework.invoke target method arguments) :=
  keeps_of_along ((chains_view Context.frame).closed.operation keeps_operations target method arguments)

namespace Host

-- Members run in frames of their own.
def Framed (host : Host) : Prop := ∀ activation, Keeps Context.frame (host.perform activation)

theorem framed_host (cls : Code.Class) (depth : Nat) : Framed (Execution.host cls depth) := by
  intro activation
  cases depth with
  | zero => exact fun _ => rfl
  | succ depth => exact keeps_within _ _

variable {host : Host}

theorem carries_frame (framed : host.Framed) : host.Carries fun before after => after.frame = before.frame where
  chains := chains_view Context.frame
  operation target method arguments := (Framework.keeps_invoke target method arguments).along
  store _ _ _ := rfl
  perform activation := (framed activation).along

theorem carries_caught (framed : host.Framed) :
    host.Carries fun before after => after.frame.caught = before.frame.caught where
  chains := chains_view fun context => context.frame.caught
  operation target method arguments := (keeps_caught (Framework.keeps_invoke target method arguments)).along
  store _ _ _ := rfl
  perform activation := (keeps_caught (framed activation)).along

theorem keeps_evaluate (framed : host.Framed) (expr : Expr) : Keeps Context.frame (host.evaluate expr) :=
  keeps_of_along (along_evaluate (carries_frame framed) expr)

theorem keeps_evaluate_option (framed : host.Framed) (expr : Option Expr) :
    Keeps Context.frame (host.evaluate? expr) :=
  keeps_of_along (along_evaluate_option (carries_frame framed) expr)

theorem keeps_caught_set_local (name : String) (value : Value) :
    Keeps (fun context => context.frame.caught) (setLocal name value) := fun _ => rfl

theorem keeps_caught_assign (framed : host.Framed) (target : Expr) (value : Value) :
    Keeps (fun context => context.frame.caught) (host.assign target value) :=
  keeps_of_along (along_assign (carries_caught framed) (fun _ _ _ => rfl) target value)

end Host
end Companion
