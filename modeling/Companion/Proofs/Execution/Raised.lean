import Companion.Proofs.Execution.Closed
import Companion.Proofs.Execution.Rethrow

/-!
The faults that a member may stop with. Main statement: `plain_host`, members of any class stop with all kinds of
faults but the one for want of a constructor, which comes from no statement.
-/
set_option autoImplicit false

namespace Companion

open Code (Block)

-- The faults that are held for raising them again are plain.
def Frame.Plain (frame : Frame) : Prop := ∀ fault ∈ frame.caught, fault.Plain

namespace Exec

variable {α β : Type}

-- How a run may end: with an answer as said, with a plain fault, or exhausted.
def Ends (answer : α → Prop) : EStateM.Result Stop Context α → Prop
  | .ok value after => answer value ∧ after.frame.Plain
  | .error (.fault fault) after => fault.Plain ∧ after.frame.Plain
  | .error .exhausted _ => True

-- A held fault may be raised again, so those are plain before and after.
def Answers (answer : α → Prop) (run : Exec α) : Prop :=
  ∀ context : Context, context.frame.Plain → Ends answer (run context)

abbrev Plain (run : Exec α) : Prop := Answers (fun _ => True) run

variable {answer : α → Prop} {result : β → Prop}

theorem answers_pure {value : α} (given : answer value) : Answers answer (pure value) :=
  fun _ plain => ⟨given, plain⟩

theorem plain_pure (value : α) : Plain (pure value : Exec α) := answers_pure trivial

theorem answers_raise {fault : Fault} (raised : fault.Plain) : Answers answer (raise fault) :=
  fun _ plain => ⟨raised, plain⟩

theorem plain_of_except {outcome : Except Fault α} (plain : PlainOutcome outcome) : Plain (ofExcept outcome) := by
  cases outcome with
  | ok value => exact plain_pure value
  | error fault => exact answers_raise plain

theorem answers_bind {run : Exec α} {next : α → Exec β} (first : Answers answer run)
    (second : ∀ value, answer value → Answers result (next value)) : Answers result (run >>= next) := by
  intro context plain
  have ends := first context plain
  rw [bind_apply]
  cases ran : run context with
  | ok value after =>
      rw [ran] at ends
      exact second value ends.1 after ends.2
  | error stop after =>
      rw [ran] at ends
      cases stop <;> exact ends

theorem plain_bind {run : Exec α} {next : α → Exec β} (first : Plain run) (second : ∀ value, Plain (next value)) :
    Plain (run >>= next) := answers_bind first fun value _ => second value

theorem plain_attempt {run : Exec α} (plain : Plain run) : Answers PlainOutcome (attempt run) := by
  intro context held
  have ends := plain context held
  rw [attempt]
  cases ran : run context with
  | ok value after =>
      rw [ran] at ends
      exact ends
  | error stop after =>
      rw [ran] at ends
      cases stop <;> exact ends

theorem plain_on_streams {operation : Streams → Streams.Outcome α}
    (plain : ∀ streams, PlainOutcome (operation streams).2) : Plain (onStreams operation) := by
  intro context held
  have outcome := plain context.streams
  rw [onStreams]
  cases ran : operation context.streams with
  | mk streams result =>
      rw [ran] at outcome
      cases result with
      | ok value => exact ⟨trivial, held⟩
      | error fault => exact ⟨outcome, held⟩

theorem plain_within {run : Exec α} (plain : Plain run) {frame : Frame} (own : frame.Plain) :
    Plain (within frame run) := by
  intro context held
  have ends := plain { context with frame } own
  rw [within]
  cases ran : run { context with frame } with
  | ok value after => exact ⟨trivial, held⟩
  | error stop after =>
      rw [ran] at ends
      cases stop with
      | fault fault => exact ⟨ends.1, held⟩
      | exhausted => trivial

end Exec

open Exec

theorem plain_closed : Closed Fault.Plain fun α => @Answers α fun _ => True where
  plain := id
  get := fun _ plain => ⟨trivial, plain⟩
  pure := plain_pure
  raise := answers_raise
  bind := plain_bind

theorem plain_operations : Operates fun α => @Answers α fun _ => True where
  openRead path := plain_on_streams fun streams => streams.plain_open path
  create path := plain_on_streams fun streams => streams.plain_create path
  directories _ := plain_on_streams fun _ => plain_io _
  flush id := plain_on_streams fun streams => streams.plain_flush id
  release id := plain_on_streams fun streams => streams.plain_release id
  write id bytes := plain_on_streams fun streams => streams.plain_write id bytes
  readText id := plain_on_streams fun streams => streams.plain_read id

namespace Host

-- Members that begin with a plain frame stop with plain faults.
def Ordinary (host : Host) : Prop :=
  ∀ activation : Activation, activation.frame.Plain → Exec.Plain (host.perform activation)

variable {host : Host}

theorem plain_fresh {frame : Frame} (fresh : frame.caught = []) : frame.Plain := by
  rw [Frame.Plain, fresh]
  exact nofun

-- What is raised again was held.
theorem plain_rethrow : Exec.Plain rethrow := by
  intro context plain
  cases held : context.frame.caught with
  | nil => simpa [rethrow, held] using ⟨trivial, plain⟩
  | cons fault rest =>
      rw [Frame.Plain, held] at plain
      obtain ⟨first, others⟩ := List.forall_mem_cons.mp plain
      simpa [rethrow, held] using ⟨first, others⟩

theorem plain_entered {fault : Fault} (caught : fault.Plain) (binding : Option String) {context : Context}
    (plain : context.frame.Plain) : (entered fault binding context).frame.Plain :=
  List.forall_mem_cons.mpr ⟨caught, plain⟩

theorem plain_handling {run : Exec Flow} (plain : Exec.Plain run) {fault : Fault} (caught : fault.Plain)
    (binding : Option String) : Exec.Plain (handling fault binding run) := by
  intro context held
  have ends := plain_attempt plain _ (plain_entered caught binding held)
  rw [handling_apply]
  cases ran : attempt run (entered fault binding context) with
  | ok outcome after =>
      rw [ran] at ends
      exact plain_of_except ends.1 _ fun other member => ends.2 other (List.mem_of_mem_drop member)
  | error stop after =>
      rw [exhausted_of_attempt ran]
      trivial

theorem plain_enter_finally (final : Block) : Exec.Plain (enterFinally final) := by
  intro context plain
  rw [enter_finally_eq]
  refine ⟨trivial, ?_⟩
  rw [finally_entered_frame]
  exact plain

theorem runs_plain (ordinary : host.Ordinary) : host.Runs Fault.Plain fun α => @Answers α fun _ => True where
  toClosed := plain_closed
  operation := plain_closed.operation plain_operations
  store _ _ := fun _ plain => ⟨trivial, plain⟩
  perform activation fresh := ordinary activation (plain_fresh fresh)
  setLocal _ _ := fun _ plain => ⟨trivial, plain⟩
  rethrow := plain_rethrow
  enterFinally := plain_enter_finally
  handling plain caught binding := plain_handling plain caught binding
  attempt plain behind := answers_bind (plain_attempt plain) fun outcome held => behind outcome (by
    rintro fault rfl
    exact held)

theorem plain_host (cls : Code.Class) (depth : Nat) : (Execution.host cls depth).Ordinary := by
  induction depth with
  | zero => exact fun _ _ _ _ => trivial
  | succ depth ih =>
      intro activation plain
      exact plain_within (plain_bind (closed_run_block (runs_plain ih) activation.initializers) fun _ =>
        closed_run_block (runs_plain ih) activation.body) plain

end Host
end Companion
