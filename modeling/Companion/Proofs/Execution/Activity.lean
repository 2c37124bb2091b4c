import Companion.Execution.Session
import Companion.Proofs.Execution.Accounts
import Companion.Proofs.Execution.Along

/-!
Whatever runs, in whatever class, acts on the streams through their operations alone. Main statement:
`streams_accounted`, so at every point of a run the accounts of the streams are in order.
-/
set_option autoImplicit false

namespace Companion

open Code (Expr Statement Handler Block)

-- Streams that come from others by their operations.
def Streams.Reaches (before after : Streams) : Prop := ∃ actions, after = before.actAll actions

namespace Streams.Reaches

variable {before middle after : Streams}

theorem refl (streams : Streams) : Reaches streams streams := ⟨[], rfl⟩

theorem act (streams : Streams) (action : Action) : Reaches streams (streams.act action) := ⟨[action], rfl⟩

theorem trans (first : Reaches before middle) (second : Reaches middle after) : Reaches before after := by
  obtain ⟨actions, rfl⟩ := first
  obtain ⟨more, rfl⟩ := second
  exact ⟨actions ++ more, (act_all_append before actions more).symm⟩

end Streams.Reaches

open Streams (Reaches)

namespace Exec

variable {α β : Type}

-- The streams that a run leaves are reached by operations.
def ByOperations (before after : Context) : Prop := Reaches before.streams after.streams

abbrev Acts (run : Exec α) : Prop := Along ByOperations run

theorem chains_operations : Chains ByOperations :=
  ⟨fun context => .refl context.streams, fun first second => first.trans second⟩

theorem acts_pure (value : α) : Acts (pure value : Exec α) := along_pure chains_operations value

theorem acts_raise (fault : Fault) : Acts (raise fault : Exec α) := along_raise chains_operations fault

theorem acts_of_except (outcome : Except Fault α) : Acts (ofExcept outcome) :=
  along_of_except chains_operations outcome

theorem acts_frame : Acts frame := along_frame chains_operations

theorem acts_bind {run : Exec α} {next : α → Exec β} (first : Acts run) (second : ∀ value, Acts (next value)) :
    Acts (run >>= next) := along_bind chains_operations first second

theorem acts_modify_frame (change : Frame → Frame) : Acts (modifyFrame change) :=
  fun context => .refl context.streams

theorem acts_set_local (name : String) (value : Value) : Acts (setLocal name value) :=
  fun context => .refl context.streams

theorem acts_on_streams {operation : Streams → Streams.Outcome α}
    (reaches : ∀ streams, Reaches streams (operation streams).1) : Acts (onStreams operation) := by
  intro context
  rw [left_on_streams]
  exact reaches context.streams

theorem acts_within {run : Exec α} (acts : Acts run) (frame : Frame) : Acts (within frame run) := by
  intro context
  rw [left_within]
  exact acts { context with frame }

theorem acts_attempt {run : Exec α} (acts : Acts run) : Acts (attempt run) := by
  intro context
  rw [left_attempt]
  exact acts context

end Exec

open Exec

theorem acts_operations : Operates fun α => @Along α ByOperations where
  openRead path := acts_on_streams fun streams => .act streams (.openRead path)
  create path := acts_on_streams fun streams => .act streams (.create path)
  directories path := acts_on_streams fun streams => .act streams (.elsewhere (streams.files.createDirectories path).1)
  flush id := acts_on_streams fun streams => .act streams (.flush id)
  release id := acts_on_streams fun streams => .act streams (.release id)
  write id bytes := acts_on_streams fun streams => .act streams (.write id bytes)
  readText id := acts_on_streams fun streams => .act streams (.readText id)

namespace Host

-- Members act on the streams through their operations.
def Active (host : Host) : Prop := ∀ activation, Acts (host.perform activation)

variable {host : Host}

theorem carries_operations (active : host.Active) : host.Carries ByOperations where
  chains := chains_operations
  operation := chains_operations.closed.operation acts_operations
  store _ _ context := .refl context.streams
  perform := active

theorem acts_evaluate (active : host.Active) (expr : Expr) : Acts (host.evaluate expr) :=
  along_evaluate (carries_operations active) expr

theorem acts_rethrow : Acts rethrow := by
  unfold rethrow
  refine acts_bind acts_frame fun frame => ?_
  cases frame.caught with
  | nil => exact acts_raise _
  | cons fault rest => exact acts_bind (acts_modify_frame _) fun _ => acts_raise _

theorem acts_handling {run : Exec Flow} (acts : Acts run) (fault : Fault) (binding : Option String) :
    Acts (handling fault binding run) := by
  have behind (depth : Nat) : Acts (do
      modifyFrame fun frame => { frame with caught := fault :: frame.caught }
      let outcome ← attempt run
      modifyFrame fun frame => { frame with caught := frame.caught.drop (frame.caught.length - depth) }
      ofExcept outcome) :=
    acts_bind (acts_modify_frame _) fun _ => acts_bind (acts_attempt acts) fun outcome =>
      acts_bind (acts_modify_frame _) fun _ => acts_of_except outcome
  cases binding with
  | none => exact acts_bind acts_frame fun frame => behind frame.caught.length
  | some name =>
      exact acts_bind (acts_set_local name _) fun _ => acts_bind acts_frame fun frame => behind frame.caught.length

theorem acts_enter_finally (final : Block) : Acts (enterFinally final) := by
  cases final with
  | nil => exact acts_pure ()
  | cons first rest =>
      exact acts_bind acts_frame fun frame =>
        acts_on_streams fun streams => .act streams (.enterFinally frame.member)

theorem runs_operations (active : host.Active) : host.Runs (fun _ => True) fun α => @Along α ByOperations where
  toEvaluates := (carries_operations active).evaluates
  setLocal := acts_set_local
  rethrow := acts_rethrow
  enterFinally := acts_enter_finally
  handling acts _ := acts_handling acts _
  attempt acts behind := acts_bind (acts_attempt acts) fun outcome => behind outcome fun _ _ => trivial

theorem acts_run_block (active : host.Active) (block : Block) : Acts (host.runBlock block) :=
  closed_run_block (runs_operations active) block

end Host

namespace Execution

theorem active_host (cls : Code.Class) (depth : Nat) : (host cls depth).Active := by
  induction depth with
  | zero => exact fun activation context => .refl context.streams
  | succ depth ih =>
      intro activation
      exact acts_within (acts_bind (Host.acts_run_block ih activation.initializers) fun _ =>
        Host.acts_run_block ih activation.body) activation.frame

theorem acts_construction (cls : Code.Class) (depth : Nat) (arguments : List Value) :
    Acts (construction cls depth arguments) :=
  acts_bind (acts_of_except _) fun _ => acts_bind (acts_of_except _) fun _ =>
    acts_bind (active_host cls depth _) fun _ => acts_pure ()

theorem reaches_on_object {α : Type} {run : Exec α} (acts : Acts run) (streams : Streams)
    (object : HelperObject) : Reaches streams (onObject run streams object).1 := by
  rw [on_object_streams]
  exact acts ⟨streams, object, { member := "" }⟩

theorem construct_streams (cls : Code.Class) (depth : Nat) (streams : Streams) (arguments : List Value) :
    (construct cls depth streams arguments).1 = (onObject (construction cls depth arguments) streams []).1 := by
  rw [construct]
  split <;> simp_all

end Execution

theorem Session.reaches_ask (cls : Code.Class) (depth : Nat) (session : Session) (request : Request) :
    Reaches session.streams (session.ask cls depth request).1.streams := by
  have carries := Host.carries_operations (Execution.active_host cls depth)
  cases request with
  | construct arguments =>
      have reached := Execution.reaches_on_object (Execution.acts_construction cls depth arguments)
        session.streams []
      rw [← Execution.construct_streams] at reached
      rw [Session.ask]
      cases built : Execution.construct cls depth session.streams arguments with
      | mk streams result =>
          rw [built] at reached
          cases result <;> exact reached
  | call number method arguments =>
      exact Execution.reaches_on_object (Host.along_call carries method arguments) session.streams _
  | get number name => exact Execution.reaches_on_object (Host.along_get_property carries name) session.streams _
  | set number name value =>
      exact Execution.reaches_on_object (Host.along_set_property carries name value) session.streams _

theorem Session.reaches_run (cls : Code.Class) (depth : Nat) (session : Session) (requests : List Request) :
    Reaches session.streams (session.run cls depth requests).streams := by
  induction requests generalizing session with
  | nil => exact .refl session.streams
  | cons request rest ih => exact (session.reaches_ask cls depth request).trans (ih _)

-- The accounts of streams after a history of operations, and what they promise for later ones.
structure Streams.InOrder (files : FileSystem) (actions : List Streams.Action) : Prop where
  accounted : (Streams.actAll { files } actions).Accounted
  grows : ∀ more, ∃ events, (Streams.actAll { files } (actions ++ more)).trace =
    (Streams.actAll { files } actions).trace ++ events
  useless : ∀ id, .released id ∈ (Streams.actAll { files } actions).trace →
    ∀ more, ∃ fault, (Streams.actAll { files } (actions ++ more)).Useless id fault
  balanced : (Streams.actAll { files } actions).ledger.isBalanced = true ↔
    (Streams.actAll { files } actions).openCount = 0 ∧ Streams.repeatsAll { files } actions = 0

theorem Streams.in_order (files : FileSystem) (actions : List Streams.Action) :
    Streams.InOrder files actions := by
  have fresh := accounted_fresh files
  have accounted := accounted_all fresh actions
  refine ⟨accounted, ?_, ?_, ?_⟩
  · intro more
    rw [act_all_append]
    exact grown_all accounted more
  · intro id released more
    rw [act_all_append]
    exact useless_after accounted released more
  · have counted := double_released_all fresh actions
    rw [Nat.zero_add] at counted
    rw [balanced_iff accounted, counted]

/-- The accounts of the streams are in order after every history of operations, and whatever a class runs is
such a history at each of its points. -/
theorem streams_accounted (files : FileSystem) :
    (∀ actions, Streams.InOrder files actions) ∧
      ∀ (cls : Code.Class) (depth : Nat),
        (∀ requests, Reaches { files } ((Session.fresh files).run cls depth requests).streams) ∧
        (∀ block context,
          Reaches context.streams (((Execution.host cls depth).runBlock block).left context).streams) ∧
        ∀ expr context,
          Reaches context.streams (((Execution.host cls depth).evaluate expr).left context).streams := by
  refine ⟨Streams.in_order files, ?_⟩
  intro cls depth
  have active := Execution.active_host cls depth
  exact ⟨(Session.fresh files).reaches_run cls depth, Host.acts_run_block active, Host.acts_evaluate active⟩

end Companion
