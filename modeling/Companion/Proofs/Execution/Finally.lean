import Companion.Proofs.Execution.Trace

/-!
Final blocks. Main statement: `finally_once`, whatever a member runs, each of its protected blocks that has a
final block notes once that it begins, behind all that its body and the clause that was selected do and ahead
of all that the final block does, and ends as they do unless the final block leaves the member or fails.
-/
set_option autoImplicit false

namespace Companion

open Code (Statement Handler Block)
open Exec

namespace Host

-- Where the body of a protected block ends, how it ends together with the clause that is selected, and where.
inductive Guarded (host : Host) (body : Block) (handlers : List Handler) (context : Context) :
    Context → Except Fault Flow → Context → Prop
  | kept {flow : Flow} {between : Context} (ran : host.runBlock body context = .ok flow between) :
      Guarded host body handlers context between (.ok flow) between
  | uncaught {fault : Fault} {between : Context}
      (failed : host.runBlock body context = .error (.fault fault) between)
      (refused : ∀ handler ∈ handlers, fault.isCaughtBy handler.exception.label = false) :
      Guarded host body handlers context between (.error fault) between
  | caught {fault : Fault} {between left : Context} {outcome : Except Fault Flow} {before behind : List Handler}
      {handler : Handler} (failed : host.runBlock body context = .error (.fault fault) between)
      (listed : handlers = before ++ handler :: behind)
      (refused : ∀ earlier ∈ before, fault.isCaughtBy earlier.exception.label = false)
      (catches : fault.isCaughtBy handler.exception.label = true)
      (ran : host.runBlock handler.body (entered fault handler.binding between) = ofExcept outcome left) :
      Guarded host body handlers context between outcome { left with frame := { left.frame with
        caught := left.frame.caught.drop (left.frame.caught.length - between.frame.caught.length) } }

-- How a statement ends when its final block ends.
inductive Completed (outcome : Except Fault Flow) :
    EStateM.Result Stop Context Flow → EStateM.Result Stop Context Flow → Prop
  | left (value : Value) (after : Context) : Completed outcome (.ok (.leave value) after) (.ok (.leave value) after)
  | failed (fault : Fault) (after : Context) :
      Completed outcome (.error (.fault fault) after) (.error (.fault fault) after)
  | passed (after : Context) : Completed outcome (.ok .next after) (ofExcept outcome after)

variable {host : Host} {body final : Block} {handlers : List Handler} {context between middle : Context}
  {outcome : Except Fault Flow}

theorem handle_selects (host : Host) (fault : Fault) (handlers : List Handler) :
    ((∀ handler ∈ handlers, fault.isCaughtBy handler.exception.label = false) ∧
      host.handle fault handlers = raise fault) ∨
    ∃ before handler behind, handlers = before ++ handler :: behind ∧
      (∀ earlier ∈ before, fault.isCaughtBy earlier.exception.label = false) ∧
      fault.isCaughtBy handler.exception.label = true ∧
      host.handle fault handlers = handling fault handler.binding (host.runBlock handler.body) := by
  induction handlers with
  | nil => exact .inl ⟨nofun, rfl⟩
  | cons handler rest ih =>
      obtain ⟨exception, binding, clause⟩ := handler
      by_cases catches : fault.isCaughtBy exception.label = true
      · refine .inr ⟨[], ⟨exception, binding, clause⟩, rest, rfl, nofun, catches, ?_⟩
        rw [handle, if_pos catches]
      · have refuses : fault.isCaughtBy exception.label = false := Bool.eq_false_iff.mpr catches
        rw [handle, if_neg catches]
        rcases ih with ⟨refused, raised⟩ | ⟨before, later, behind, listed, refused, caught, handled⟩
        · exact .inl ⟨List.forall_mem_cons.mpr ⟨refuses, refused⟩, raised⟩
        · refine .inr ⟨⟨exception, binding, clause⟩ :: before, later, behind, ?_,
            List.forall_mem_cons.mpr ⟨refuses, refused⟩, caught, handled⟩
          rw [listed, List.cons_append]

theorem guarded_of_clause {fault : Fault} (failed : host.runBlock body context = .error (.fault fault) between)
    (tried : attempt (host.handle fault handlers) between = .ok outcome middle) :
    Guarded host body handlers context between outcome middle := by
  rcases handle_selects host fault handlers with
    ⟨refused, raised⟩ | ⟨before, handler, behind, listed, refused, catches, handled⟩
  · rw [raised] at tried
    cases tried
    exact .uncaught failed refused
  · rw [handled, attempt, handling_apply] at tried
    cases ran : host.runBlock handler.body (entered fault handler.binding between) with
    | ok flow left =>
        rw [attempt_ok ran] at tried
        cases tried
        exact .caught failed listed refused catches ran
    | error stop left =>
        cases stop with
        | fault raised =>
            rw [attempt_fault ran] at tried
            cases tried
            exact .caught failed listed refused catches ran
        | exhausted =>
            rw [attempt, ran] at tried
            cases tried

theorem completed_of_final (finished : Finished ((host.runBlock final >>= conclude outcome) context)) :
    Completed outcome (host.runBlock final context) ((host.runBlock final >>= conclude outcome) context) := by
  rw [bind_apply] at finished ⊢
  cases ran : host.runBlock final context with
  | ok flow after =>
      cases flow with
      | leave value => exact .left value after
      | next => exact .passed after
  | error stop after =>
      rw [ran] at finished
      cases stop with
      | fault fault => exact .failed fault after
      | exhausted => exact finished.elim

end Host

open Host (Guarded Completed finallyEntered)

namespace Chronicle

-- How one execution of a protected block goes, from its body to what it does behind its final block.
structure Concludes {host : Host} (chronicle : Chronicle host) (body : Block) (handlers : List Handler) (final : Block)
    (context between middle : Context) (outcome : Except Fault Flow) : Prop where
  history : chronicle.run (.attempt body handlers final) context =
    [.attempt (chronicle.runBlock body context) (chronicle.handled body handlers context) true
      (chronicle.concluding body handlers final context)]
  guarded : Guarded host body handlers context between outcome middle
  first : Tells context between (chronicle.runBlock body context)
  clause : Tells between middle (chronicle.handled body handlers context)
  entered : (finallyEntered final middle).streams.trace =
    middle.streams.trace ++ [.finallyEntered context.frame.member]
  last : Tells (finallyEntered final middle) ((host.run (.attempt body handlers final)).left context)
    (chronicle.concluding body handlers final context)
  completed : Completed outcome (host.runBlock final (finallyEntered final middle))
    (host.run (.attempt body handlers final) context)

variable {host : Host} {chronicle : Chronicle host} {body final : Block} {handlers : List Handler} {context : Context}

theorem tells_guarded (faithful : chronicle.Faithful) {outcome : Except Fault Flow} {middle : Context}
    (ended : Host.protect host body handlers context = .ok outcome middle) :
    ∃ between, Guarded host body handlers context between outcome middle ∧
      Tells context between (chronicle.runBlock body context) ∧
      Tells between middle (chronicle.handled body handlers context) := by
  have first := told_run_block faithful body context
  rw [Host.protect, bind_apply] at ended
  rw [handled, Watch.next]
  cases ran : host.runBlock body context with
  | ok flow between =>
      rw [ran, left_ok ran] at first
      rw [attempt_ok ran] at ended ⊢
      cases ended
      exact ⟨middle, .kept ran, first trivial, ⟨(List.append_nil _).symm, rfl⟩⟩
  | error stop between =>
      rw [ran, left_error ran] at first
      cases stop with
      | exhausted =>
          rw [attempt, ran] at ended
          cases ended
      | fault fault =>
          rw [attempt_fault ran] at ended ⊢
          have tried : attempt (host.handle fault handlers) between = .ok outcome middle := ended
          have clause := told_attempt (told_handle faithful fault handlers) between
          rw [left_ok tried, tried] at clause
          exact ⟨between, Host.guarded_of_clause ran tried, first trivial, clause trivial⟩

theorem concludes (faithful : chronicle.Faithful) (some_final : final ≠ [])
    (finished : Finished (host.run (.attempt body handlers final) context)) :
    ∃ between middle outcome, chronicle.Concludes body handlers final context between middle outcome := by
  have noted : final.isEmpty = false := by simpa using some_final
  cases ended : Host.protect host body handlers context with
  | error stop after =>
      rw [Host.run_attempt, ended] at finished
      cases Host.exhausted_of_protect ended
      exact finished.elim
  | ok outcome middle =>
      obtain ⟨between, guarded, first, clause⟩ := tells_guarded faithful ended
      have ran := Host.run_attempt host body final handlers context
      rw [ended] at ran
      rw [ran] at finished
      have last := told_conclusion (told_run_block faithful final) outcome _ finished
      refine ⟨between, middle, outcome, ?_⟩
      exact {
        history := by rw [run_attempt_history, noted, Bool.not_false]
        guarded := guarded
        first := first
        clause := clause
        entered := by
          rw [finally_entered_trace, noted, clause.member, first.member]
          rfl
        last := by
          rw [concluding, Watch.next, ended, left, ran]
          exact last
        completed := by
          rw [ran]
          exact Host.completed_of_final finished }

end Chronicle

open Execution (host chronicle)

/-- The trace that a member leaves grows by the events of its history, among them for each member as many
entries of final blocks as there were executions by it of protected blocks that have one. Each such execution
notes its entry between the events of its body and its clause and those of its final block, and completes as
the final block does if that leaves the member or fails, else as the body or the clause did. -/
theorem finally_once (cls : Code.Class) (depth : Nat) :
    (∀ activation context, Finished ((host cls depth).perform activation context) →
      Tells context (((host cls depth).perform activation).left context)
          ((chronicle cls depth).perform activation context) ∧
        ∀ named, (((host cls depth).perform activation).left context).streams.trace.count (.finallyEntered named) =
          context.streams.trace.count (.finallyEntered named) +
            Happening.concludedAll named context.frame.member ((chronicle cls depth).perform activation context)) ∧
    ∀ body handlers final context, final ≠ [] →
      Finished ((host cls depth).run (.attempt body handlers final) context) →
      ∃ between middle outcome,
        (chronicle cls depth).Concludes body handlers final context between middle outcome := by
  have faithful := Execution.faithful_chronicle cls depth
  constructor
  · intro activation context finished
    have tells := faithful activation context finished
    refine ⟨tells, fun named => ?_⟩
    rw [tells.trace, List.count_append, Happening.count_events_all]
  · intro body handlers final context some_final finished
    exact Chronicle.concludes faithful some_final finished

-- A final block that leaves the member, behind a clause that raises again what came through another one.
def closing : Statement :=
  .attempt [.attempt [.evaluate (.invoke .null "Open" [])] [] [.comment "not opened"]]
    [⟨.framework .exception, none, [.rethrow]⟩] [.leave none]

theorem finally_once_closing :
    (((host Host.probe 1).perform { frame := { member := "Close" }, body := [closing] }).left
        Host.probing).streams.trace.count (.finallyEntered "Close") = 2 ∧
      ∃ between middle outcome, (chronicle Host.probe 0).Concludes
        [.attempt [.evaluate (.invoke .null "Open" [])] [] [.comment "not opened"]]
        [⟨.framework .exception, none, [.rethrow]⟩] [.leave none] Host.probing between middle outcome := by
  obtain ⟨members, _⟩ := finally_once Host.probe 1
  obtain ⟨_, statements⟩ := finally_once Host.probe 0
  have counted := (members { frame := { member := "Close" }, body := [closing] } Host.probing True.intro).2 "Close"
  exact ⟨counted, statements _ _ _ Host.probing nofun True.intro⟩

end Companion
