import Companion.Proofs.Execution.Activity
import Companion.Proofs.Execution.History

/-!
The trace that a run leaves. Main statement: `faithful_chronicle`, whatever a member of a class runs, the trace
grows by the events of its history, and the member stays the executing one.
-/
set_option autoImplicit false

namespace Companion

open Code (Expr Statement Handler Block)
open Watch

namespace Exec

variable {α β : Type}

-- A run has recorded the events of a history, of which its member is the executing one.
structure Tells (before after : Context) (history : History) : Prop where
  trace : after.streams.trace =
    before.streams.trace ++ Happening.eventsAll before.frame.member history
  member : after.frame.member = before.frame.member

def Told (run : Exec α) (watch : Watch) : Prop :=
  ∀ context, Finished (run context) → Tells context (run.left context) (watch context)

-- Nothing is recorded.
def Unnoted (before after : Context) : Prop :=
  after.streams.trace = before.streams.trace ∧ after.frame.member = before.frame.member

theorem chains_unnoted : Chains Unnoted :=
  ⟨fun _ => ⟨rfl, rfl⟩, fun first second => ⟨second.1.trans first.1, second.2.trans first.2⟩⟩

theorem unnoted_pure (value : α) : Along Unnoted (pure value : Exec α) := along_pure chains_unnoted value

theorem unnoted_raise (fault : Fault) : Along Unnoted (raise fault : Exec α) := along_raise chains_unnoted fault

theorem unnoted_of_except (outcome : Except Fault α) : Along Unnoted (ofExcept outcome) :=
  along_of_except chains_unnoted outcome

theorem unnoted_set_local (name : String) (value : Value) : Along Unnoted (setLocal name value) :=
  fun _ => ⟨rfl, rfl⟩

theorem told_silent {run : Exec α} (unnoted : Along Unnoted run) : Told run silent := by
  intro context _
  obtain ⟨trace, member⟩ := unnoted context
  exact ⟨trace.trans (List.append_nil _).symm, member⟩

theorem Tells.trans {before middle after : Context} {first second : History} (one : Tells before middle first)
    (other : Tells middle after second) : Tells before after (first ++ second) where
  trace := by
    rw [other.trace, one.trace, one.member, Happening.events_all_append, List.append_assoc]
  member := other.member.trans one.member

theorem told_bind {run : Exec α} {next : α → Exec β} {first : Watch} {second : α → Watch} (told : Told run first)
    (told_behind : ∀ value, Told (next value) (second value)) : Told (run >>= next) (behind run first second) := by
  intro context finished
  have tells := told context (finished_of_bind finished)
  rw [bind_apply] at finished
  rw [left, bind_apply, behind, Watch.next]
  cases ran : run context with
  | ok value after =>
      rw [ran] at finished
      rw [left_ok ran] at tells
      exact tells.trans (told_behind value after finished)
  | error stop after =>
      rw [left_error ran] at tells
      rw [List.append_nil]
      exact tells

-- What comes behind the run records nothing.
theorem told_before {run : Exec α} {next : α → Exec β} {watch : Watch} (told : Told run watch)
    (unnoted : ∀ value, Along Unnoted (next value)) : Told (run >>= next) watch := by
  intro context finished
  have joined := told_bind told (fun value => told_silent (unnoted value)) context finished
  have same : behind run watch (fun _ => silent) context = watch context := by
    rw [behind, Watch.next]
    cases run context <;> exact List.append_nil _
  rwa [same] at joined

theorem told_attempt {run : Exec α} {watch : Watch} (told : Told run watch) : Told (attempt run) watch := by
  intro context finished
  rw [left_attempt]
  exact told context (finished_of_attempt finished)

-- A run with a frame of its own is told as what its member did.
theorem told_within {run : Exec α} {watch : Watch} (told : Told run watch) (frame : Frame) :
    Told (within frame run) fun context => [.member frame.member (watch { context with frame })] := by
  intro context finished
  have tells := told { context with frame } (finished_of_within finished)
  have spelled : Happening.eventsAll context.frame.member
      [.member frame.member (watch { context with frame })] =
        Happening.eventsAll frame.member (watch { context with frame }) := by
    rw [Happening.eventsAll, Happening.events, Happening.eventsAll, List.append_nil]
  rw [left_within]
  exact ⟨by rw [spelled]; exact tells.trace, rfl⟩

end Exec

/-! ## The class library -/

namespace Streams

-- The trace grew by events of streams.
def Notes (before after : Streams) : Prop :=
  ∃ events, after.trace = before.trace ++ events ∧ ∀ named, Event.finallyEntered named ∉ events

variable {streams : Streams}

theorem notes_same {after : Streams} (same : after.trace = streams.trace) : Notes streams after :=
  ⟨[], same.trans (List.append_nil _).symm, fun _ => List.not_mem_nil⟩

theorem notes_open_read (path : Path) : Notes streams (streams.openRead path).1 := by
  cases resolved : streams.files.resolve path with
  | error error =>
      rw [open_read_of_error resolved]
      exact notes_same rfl
  | ok found =>
      rw [open_read_of_ok resolved]
      exact ⟨[_], rfl, by simp⟩

theorem notes_create (path : Path) : Notes streams (streams.create path).1 := by
  cases made : streams.files.createFile path with
  | error error =>
      rw [create_of_error made]
      exact notes_same rfl
  | ok target =>
      rw [create_of_ok made]
      exact ⟨[_], rfl, by simp⟩

theorem notes_read_text (id : StreamId) : Notes streams (streams.readText id).1 := by
  unfold readText
  split
  · exact notes_same rfl
  · exact notes_same rfl
  · split <;> exact notes_same rfl

theorem notes_write (id : StreamId) (bytes : Bytes) : Notes streams (streams.write id bytes).1 := by
  unfold write
  split <;> exact notes_same rfl

theorem notes_flush (id : StreamId) : Notes streams (streams.flush id).1 := by
  unfold flush
  split <;> exact notes_same rfl

theorem notes_release (id : StreamId) : Notes streams (streams.release id).1 := by
  unfold release
  split
  · exact notes_same rfl
  · exact notes_same rfl
  · exact ⟨[.released id], rfl, by simp⟩

end Streams

namespace Exec

variable {α : Type}

def Noting (before after : Context) : Prop :=
  before.streams.Notes after.streams ∧ after.frame.member = before.frame.member

theorem chains_noting : Chains Noting where
  refl context := ⟨Streams.notes_same rfl, rfl⟩
  trans := by
    rintro before middle after ⟨⟨first, begun, quiet⟩, kept⟩ ⟨⟨second, grown, still⟩, held⟩
    refine ⟨⟨first ++ second, by rw [grown, begun, List.append_assoc], ?_⟩, held.trans kept⟩
    intro named listed
    rcases List.mem_append.mp listed with one | other
    · exact quiet named one
    · exact still named other

theorem noting_on_streams {operation : Streams → Streams.Outcome α}
    (notes : ∀ streams, Streams.Notes streams (operation streams).1) : Along Noting (onStreams operation) := by
  intro context
  rw [left_on_streams]
  exact ⟨notes context.streams, rfl⟩

theorem events_of_events (executing : String) {events : List Event}
    (quiet : ∀ named, Event.finallyEntered named ∉ events) :
    Happening.eventsAll executing (events.filterMap Happening.ofEvent?) = events := by
  induction events with
  | nil => rfl
  | cons event rest ih =>
      have behind := ih fun named listed => quiet named (List.mem_cons_of_mem event listed)
      cases event with
      | opened id path access => exact congrArg _ behind
      | released id => exact congrArg _ behind
      | finallyEntered named => exact absurd List.mem_cons_self (quiet named)

theorem told_recorded {run : Exec α} (noting : Along Noting run) : Told run (recorded run) := by
  intro context _
  obtain ⟨⟨events, grown, quiet⟩, member⟩ := noting context
  refine ⟨?_, member⟩
  rw [recorded, grown, List.drop_left, events_of_events _ quiet]

end Exec

open Exec

theorem noting_operations : Operates fun α => @Along α Noting where
  openRead path := noting_on_streams fun _ => Streams.notes_open_read path
  create path := noting_on_streams fun _ => Streams.notes_create path
  directories _ := noting_on_streams fun _ => Streams.notes_same rfl
  flush id := noting_on_streams fun _ => Streams.notes_flush id
  release id := noting_on_streams fun _ => Streams.notes_release id
  write id bytes := noting_on_streams fun _ => Streams.notes_write id bytes
  readText id := noting_on_streams fun _ => Streams.notes_read_text id

theorem Framework.noting_invoke (target : Value) (method : String) (arguments : List Value) :
    Along Noting (Framework.invoke target method arguments) :=
  chains_noting.closed.operation noting_operations target method arguments

namespace Chronicle

variable {host : Host}

-- What members record is told.
def Faithful (chronicle : Chronicle host) : Prop :=
  ∀ activation, Told (host.perform activation) (chronicle.perform activation)

variable {chronicle : Chronicle host}

theorem unnoted_stored (name : String) : Along Unnoted (Host.stored name) := fun _ => ⟨rfl, rfl⟩

theorem unnoted_store (name : String) (value : Value) : Along Unnoted (Host.store name value) :=
  fun _ => ⟨rfl, rfl⟩

section

variable (faithful : chronicle.Faithful)

include faithful

theorem told_call (name : String) (arguments : List Value) :
    Told (host.call name arguments) (chronicle.call name arguments) := by
  unfold Host.call call
  cases host.cls.method? name with
  | none => exact told_silent (unnoted_raise _)
  | some method =>
      dsimp only
      cases Frame.ofCall name method.params arguments with
      | error fault => exact told_silent (unnoted_raise fault)
      | ok frame =>
          rw [of_except_ok, pure_bind]
          refine told_before (faithful _) fun flow => ?_
          cases flow with
          | next => exact unnoted_pure _
          | leave value => exact unnoted_pure value

theorem told_get_property (name : String) :
    Told (host.getProperty name) (chronicle.getProperty name) := by
  unfold Host.getProperty getProperty
  cases host.cls.property? name with
  | none => exact told_silent (unnoted_stored name)
  | some property =>
      dsimp only
      cases property.accessors with
      | auto => exact told_silent (unnoted_stored name)
      | explicit getter setter =>
          refine told_before (faithful _) fun flow => ?_
          cases flow with
          | next => exact unnoted_raise _
          | leave value => exact unnoted_pure value

theorem told_set_property (name : String) (value : Value) :
    Told (host.setProperty name value) (chronicle.setProperty name value) := by
  unfold Host.setProperty setProperty
  cases host.cls.property? name with
  | none => exact told_silent (unnoted_store name value)
  | some property =>
      dsimp only
      cases Frame.checkType property.type value with
      | error fault => exact told_silent (unnoted_raise fault)
      | ok _ =>
          rw [of_except_ok, pure_bind]
          cases property.accessors with
          | auto => exact told_silent (unnoted_store name value)
          | explicit getter setter => exact told_before (faithful _) fun _ => unnoted_pure _

theorem told_property_of (target : Value) (name : String) :
    Told (host.propertyOf target name) (chronicle.propertyOf target name) := by
  by_cases own : target = .this
  · rw [propertyOf, if_pos own, own]
    exact told_get_property faithful name
  · rw [propertyOf, if_neg own]
    unfold Host.propertyOf
    split
    · exact absurd rfl own
    · exact told_silent (unnoted_of_except _)

theorem told_invoke (target : Value) (method : String) (arguments : List Value) :
    Told (host.invoke target method arguments) (chronicle.invoke target method arguments) := by
  by_cases own : target = .this
  · rw [invoke, if_pos own, own]
    exact told_call faithful method arguments
  · rw [invoke, if_neg own]
    refine told_recorded ?_
    unfold Host.invoke
    split
    · exact absurd rfl own
    · exact along_raise chains_noting _
    · exact Framework.noting_invoke _ method arguments

end

mutual
theorem told_evaluate (faithful : chronicle.Faithful) (expr : Expr) :
    Told (host.evaluate expr) (chronicle.evaluate expr) := by
  match expr with
  | .null => exact told_silent (unnoted_pure _)
  | .this => exact told_silent (unnoted_pure _)
  | .literal text => exact told_silent (unnoted_pure _)
  | .type type => exact told_silent (unnoted_pure _)
  | .typeOf type => exact told_silent (unnoted_pure _)
  | .variable name =>
      rw [Host.evaluate]
      refine told_silent (along_bind chains_unnoted (along_frame chains_unnoted) fun frame => ?_)
      cases frame.locals.get? name with
      | none => exact unnoted_raise _
      | some value => exact unnoted_pure value
  | .incoming =>
      rw [Host.evaluate]
      refine told_silent (along_bind chains_unnoted (along_frame chains_unnoted) fun frame => ?_)
      cases frame.incoming with
      | none => exact unnoted_raise _
      | some value => exact unnoted_pure value
  | .property target name =>
      rw [Host.evaluate, evaluate]
      exact told_bind (told_evaluate faithful target) fun value => told_property_of faithful value name
  | .invoke target method arguments =>
      rw [Host.evaluate, evaluate]
      exact told_bind (told_evaluate faithful target) fun value =>
        told_bind (told_evaluate_all faithful arguments) fun given => told_invoke faithful value method given
  | .create type arguments =>
      rw [Host.evaluate, evaluate]
      exact told_before (told_evaluate_all faithful arguments) fun _ => unnoted_of_except _
  | .cast type operand =>
      rw [Host.evaluate, evaluate]
      exact told_before (told_evaluate faithful operand) fun _ =>
        along_bind chains_unnoted (unnoted_of_except _) fun _ => unnoted_pure _
  | .compare left comparison right =>
      rw [Host.evaluate, evaluate]
      exact told_bind (told_evaluate faithful left) fun _ =>
        told_before (told_evaluate faithful right) fun _ => unnoted_pure _

theorem told_evaluate_all (faithful : chronicle.Faithful) (exprs : List Expr) :
    Told (host.evaluateAll exprs) (chronicle.evaluateAll exprs) := by
  match exprs with
  | [] => exact told_silent (unnoted_pure _)
  | expr :: rest =>
      rw [Host.evaluateAll, evaluateAll]
      exact told_bind (told_evaluate faithful expr) fun _ =>
        told_before (told_evaluate_all faithful rest) fun _ => unnoted_pure _
end

theorem told_evaluate_option (faithful : chronicle.Faithful) (expr : Option Expr) :
    Told (host.evaluate? expr) (chronicle.evaluate? expr) := by
  cases expr with
  | none => exact told_silent (unnoted_pure _)
  | some expr => exact told_evaluate faithful expr

theorem told_assign (faithful : chronicle.Faithful) (target : Expr) (value : Value) :
    Told (host.assign target value) (chronicle.assign target value) := by
  cases target with
  | «variable» name =>
      refine told_silent (along_bind chains_unnoted (along_frame chains_unnoted) fun frame => ?_)
      by_cases declared : (frame.locals.get? name).isSome = true
      · rw [if_pos declared]
        exact unnoted_set_local name value
      · rw [if_neg declared]
        exact unnoted_raise _
  | property owner name =>
      refine told_bind (told_evaluate faithful owner) fun found => ?_
      cases found with
      | this => exact told_set_property faithful name value
      | _ => exact told_silent (unnoted_raise _)
  | _ => exact told_silent (unnoted_raise _)

theorem unnoted_rethrow : Along Unnoted Host.rethrow := by
  refine along_bind chains_unnoted (along_frame chains_unnoted) fun frame => ?_
  cases frame.caught with
  | nil => exact unnoted_raise _
  | cons fault rest => exact along_bind chains_unnoted (fun _ => ⟨rfl, rfl⟩) fun _ => unnoted_raise _

theorem told_handling {run : Exec Flow} {watch : Watch} (told : Told run watch) (fault : Fault)
    (binding : Option String) :
    Told (Host.handling fault binding run) fun context => watch (Host.entered fault binding context) := by
  intro context finished
  have tells := told_attempt told (Host.entered fault binding context) (Host.finished_of_handling finished)
  rw [left, Host.handling_apply]
  cases ran : attempt run (Host.entered fault binding context) with
  | ok outcome after =>
      rw [left_ok ran] at tells
      cases outcome <;> exact ⟨tells.trace, tells.member⟩
  | error stop after =>
      rw [left_error ran] at tells
      exact ⟨tells.trace, tells.member⟩

theorem told_protect {body : Block} {handlers : List Handler}
    (first : Told (host.runBlock body) (chronicle.runBlock body))
    (clauses : ∀ fault, Told (host.handle fault handlers) (chronicle.handle fault handlers)) :
    Told (Host.protect host body handlers) fun context =>
      chronicle.runBlock body context ++ chronicle.handled body handlers context := by
  refine told_bind (told_attempt first) fun tried => ?_
  cases tried with
  | ok flow => exact told_silent (unnoted_pure _)
  | error fault => exact told_attempt (clauses fault)

theorem finally_entered_trace (final : Block) (context : Context) :
    (Host.finallyEntered final context).streams.trace =
      context.streams.trace ++ if !final.isEmpty then [.finallyEntered context.frame.member] else [] := by
  cases final with
  | nil => exact (List.append_nil _).symm
  | cons statement rest => rfl

theorem told_conclusion {final : Block} (told : Told (host.runBlock final) (chronicle.runBlock final))
    (outcome : Except Fault Flow) :
    Told (host.runBlock final >>= Host.conclude outcome) (chronicle.runBlock final) := by
  refine told_before told fun flow => ?_
  cases flow with
  | leave value => exact unnoted_pure _
  | next => exact unnoted_of_except outcome

theorem told_attempt_statement {body final : Block} {handlers : List Handler}
    (first : Told (host.runBlock body) (chronicle.runBlock body))
    (clauses : ∀ fault, Told (host.handle fault handlers) (chronicle.handle fault handlers))
    (last : Told (host.runBlock final) (chronicle.runBlock final)) :
    Told (host.run (.attempt body handlers final)) (chronicle.run (.attempt body handlers final)) := by
  intro context finished
  rw [Host.run_attempt] at finished
  have front := told_protect first clauses context
  rw [run_attempt_history, concluding, Watch.next, left, Host.run_attempt]
  cases guarded : Host.protect host body handlers context with
  | error stop after =>
      rw [guarded] at finished
      cases Host.exhausted_of_protect guarded
      exact finished.elim
  | ok outcome middle =>
      rw [guarded] at finished front
      rw [left_ok guarded] at front
      have behind := told_conclusion last outcome (Host.finallyEntered final middle) finished
      rw [left] at behind
      refine ⟨?_, ?_⟩
      · rw [behind.trace, finally_entered_trace, (front trivial).trace, Host.finally_entered_frame,
          (front trivial).member, Happening.events_all_append, Happening.eventsAll, Happening.events,
          Happening.eventsAll]
        simp only [List.append_assoc, List.append_nil]
      · rw [behind.member, Host.finally_entered_frame, (front trivial).member]

mutual
theorem told_run (faithful : chronicle.Faithful) (statement : Statement) :
    Told (host.run statement) (chronicle.run statement) := by
  match statement with
  | .declare type name init =>
      rw [Host.run, run]
      exact told_before (told_evaluate_option faithful init) fun value =>
        along_bind chains_unnoted (unnoted_set_local name value) fun _ => unnoted_pure _
  | .assign target value =>
      rw [Host.run, run]
      exact told_bind (told_evaluate faithful value) fun found =>
        told_before (told_assign faithful target found) fun _ => unnoted_pure _
  | .evaluate expr =>
      rw [Host.run, run]
      exact told_before (told_evaluate faithful expr) fun _ => unnoted_pure _
  | .leave value =>
      rw [Host.run, run]
      exact told_before (told_evaluate_option faithful value) fun _ => unnoted_pure _
  | .comment text =>
      rw [Host.run, run]
      exact told_silent (unnoted_pure _)
  | .rethrow =>
      rw [Host.run, run]
      exact told_silent unnoted_rethrow
  | .branch condition whenTrue whenFalse =>
      rw [Host.run, run]
      refine told_bind (told_evaluate faithful condition) fun value => ?_
      cases value with
      | bool chosen =>
          rw [Host.truth, of_except_ok, pure_bind]
          cases chosen with
          | true => exact told_run_block faithful whenTrue
          | false => exact told_run_block faithful whenFalse
      | _ => exact told_silent (unnoted_raise _)
  | .attempt body handlers final =>
      exact told_attempt_statement (told_run_block faithful body) (fun fault => told_handle faithful fault handlers)
        (told_run_block faithful final)

theorem told_run_block (faithful : chronicle.Faithful) (block : Block) :
    Told (host.runBlock block) (chronicle.runBlock block) := by
  match block with
  | [] => exact told_silent (unnoted_pure _)
  | statement :: rest =>
      rw [Host.runBlock, runBlock]
      refine told_bind (told_run faithful statement) fun flow => ?_
      cases flow with
      | leave value => exact told_silent (unnoted_pure _)
      | next => exact told_run_block faithful rest

theorem told_handle (faithful : chronicle.Faithful) (fault : Fault) (handlers : List Handler) :
    Told (host.handle fault handlers) (chronicle.handle fault handlers) := by
  match handlers with
  | [] => exact told_silent (unnoted_raise _)
  | ⟨exception, binding, body⟩ :: rest =>
      rw [Host.handle, handle]
      split
      · exact told_handling (told_run_block faithful body) fault binding
      · exact told_handle faithful fault rest
end

theorem faithful_above (faithful : chronicle.Faithful) : chronicle.above.Faithful := by
  intro activation
  exact told_within (told_bind (told_run_block faithful activation.initializers) fun _ =>
    told_run_block faithful activation.body) activation.frame

end Chronicle

namespace Execution

theorem faithful_chronicle (cls : Code.Class) (depth : Nat) : (chronicle cls depth).Faithful := by
  induction depth with
  | zero => exact fun activation context impossible => impossible.elim
  | succ depth ih => exact Chronicle.faithful_above ih

end Execution
end Companion
