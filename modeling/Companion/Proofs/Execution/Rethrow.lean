import Companion.Proofs.Execution.Kept

/-!
Raising a caught fault again. Every such statement takes a fault off those that are held, so which
fault it raises depends on how many were taken since its clause was entered. Main statement:
`rethrow_in_clause`, the first one raises the fault of the clause and later ones raise those of the
clauses around it.
-/
set_option autoImplicit false

namespace Companion.Host

open Code (Expr Statement Block Handler)
open Exec

-- The context in which the body of a clause for a fault begins.
def entered (fault : Fault) (binding : Option String) (context : Context) : Context :=
  let locals := match binding with
    | some name => Bindings.set name (.text fault.message) context.frame.locals
    | none => context.frame.locals
  { context with frame := { context.frame with locals, caught := fault :: context.frame.caught } }

-- The context in which a final block begins.
def finallyEntered (final : Block) (context : Context) : Context :=
  if final.isEmpty then context
  else { context with streams := context.streams.enterFinally context.frame.member }

-- A protected block with its clauses, up to its final block.
def protect (host : Host) (body : Block) (handlers : List Handler) : Exec (Except Fault Flow) := do
  let outcome ← attempt (host.runBlock body)
  match outcome with
  | .ok flow => pure (.ok flow)
  | .error fault => attempt (host.handle fault handlers)

mutual
-- How many of the faults that are held a statement takes. A clause takes its own fault first, so
-- of what its body takes all but one come from outside.
def taken (host : Host) : Statement → Context → Nat
  | .rethrow, _ => 1
  | .branch condition whenTrue whenFalse, context =>
    match host.evaluate condition context with
    | .ok (.bool true) after => takenBlock host whenTrue after
    | .ok (.bool false) after => takenBlock host whenFalse after
    | _ => 0
  | .attempt body handlers final, context =>
    let handled := match attempt (host.runBlock body) context with
      | .ok (.error fault) after => takenHandle host fault handlers after
      | _ => 0
    let last := match protect host body handlers context with
      | .ok _ after => takenBlock host final (finallyEntered final after)
      | .error _ _ => 0
    takenBlock host body context + handled + last
  | _, _ => 0
def takenBlock (host : Host) : Block → Context → Nat
  | [], _ => 0
  | statement :: rest, context =>
    let behind := match host.run statement context with
      | .ok .next after => takenBlock host rest after
      | _ => 0
    taken host statement context + behind
def takenHandle (host : Host) (fault : Fault) : List Handler → Context → Nat
  | [], _ => 0
  | ⟨exception, binding, body⟩ :: rest, context =>
    if fault.isCaughtBy exception.label then takenBlock host body (entered fault binding context) - 1
    else takenHandle host fault rest context
end

-- Where a run ended, unless it was exhausted, so many of the faults that were held are gone.
def Drops {α : Type} (count : Nat) (context : Context) : EStateM.Result Stop Context α → Prop
  | .ok _ after => after.frame.caught = context.frame.caught.drop count
  | .error (.fault _) after => after.frame.caught = context.frame.caught.drop count
  | .error .exhausted _ => True

variable {α β : Type} {host : Host} {context : Context}

theorem drops_of_keeps {run : Exec α} (keeps : Keeps (fun context => context.frame.caught) run)
    (context : Context) : Drops 0 context (run context) := by
  cases ran : run context with
  | ok value after => exact keeps.ok ran
  | error stop after =>
      cases stop with
      | fault fault => exact keeps.stop ran
      | exhausted => trivial

-- A part that stopped is as good as a whole that stopped there.
theorem drops_stopped {count : Nat} {stop : Stop} {after : Context}
    (drops : Drops count context (.error stop after : EStateM.Result Stop Context α)) :
    Drops count context (.error stop after : EStateM.Result Stop Context β) := by
  cases stop with
  | fault fault => exact drops
  | exhausted => trivial

theorem drops_attempt {count : Nat} {run : Exec α} (drops : Drops count context (run context)) :
    Drops count context (attempt run context) := by
  rw [attempt]
  cases ran : run context with
  | ok value after =>
      rw [ran] at drops
      exact drops
  | error stop after =>
      rw [ran] at drops
      cases stop with
      | fault fault => exact drops
      | exhausted => trivial

-- What comes behind a part that dropped faults begins without them.
theorem drops_behind {first second : Nat} {middle : Context} {result : EStateM.Result Stop Context α}
    (before : middle.frame.caught = context.frame.caught.drop first) (behind : Drops second middle result) :
    Drops (first + second) context result := by
  cases result with
  | ok value after =>
      have dropped : after.frame.caught = middle.frame.caught.drop second := behind
      rw [before, List.drop_drop] at dropped
      exact dropped
  | error stop after =>
      cases stop with
      | fault fault =>
          have dropped : after.frame.caught = middle.frame.caught.drop second := behind
          rw [before, List.drop_drop] at dropped
          exact dropped
      | exhausted => trivial

theorem enter_finally_eq (final : Block) (context : Context) :
    enterFinally final context = .ok () (finallyEntered final context) := by
  cases final with
  | nil => rfl
  | cons first rest => exact enter_finally_apply first rest context

theorem finally_entered_frame (final : Block) (context : Context) :
    (finallyEntered final context).frame = context.frame := by
  unfold finallyEntered
  split <;> rfl

theorem handling_apply (fault : Fault) (binding : Option String) (run : Exec Flow) (context : Context) :
    handling fault binding run context = match attempt run (entered fault binding context) with
      | .ok outcome after => ofExcept outcome { after with
          frame := { after.frame with
            caught := after.frame.caught.drop
              (after.frame.caught.length - context.frame.caught.length) } }
      | .error stop after => .error stop after := by
  cases ran : attempt run (entered fault binding context) with
  | ok outcome after => cases binding <;> simp_all [handling, entered]
  | error stop after => cases binding <;> simp_all [handling, entered]

theorem exhausted_of_attempt {run : Exec α} {after : Context} {stop : Stop}
    (ran : attempt run context = .error stop after) : stop = .exhausted := by
  unfold attempt at ran
  split at ran
  · cases ran
  · cases ran
  · cases ran
    rfl

-- However many faults the body of a clause took, what is left is a rest of those from outside.
theorem drop_to_outside (fault : Fault) (outside : List Fault) (count : Nat) :
    ((fault :: outside).drop count).drop
        (((fault :: outside).drop count).length - outside.length) = outside.drop (count - 1) := by
  cases count with
  | zero => simp
  | succ more =>
      simp

theorem drops_handling {count : Nat} {fault : Fault} {binding : Option String} {run : Exec Flow}
    (drops : Drops count (entered fault binding context) (run (entered fault binding context))) :
    Drops (count - 1) context (handling fault binding run context) := by
  have attempted := drops_attempt drops
  rw [handling_apply]
  cases ran : attempt run (entered fault binding context) with
  | error stop after =>
      cases exhausted_of_attempt ran
      trivial
  | ok outcome after =>
      rw [ran] at attempted
      have dropped : after.frame.caught = (fault :: context.frame.caught).drop count := attempted
      have outside := drop_to_outside fault context.frame.caught count
      rw [← dropped] at outside
      cases outcome with
      | ok flow => exact outside
      | error raised => exact outside

theorem drops_rethrow (context : Context) : Drops 1 context (rethrow context) := by
  cases held : context.frame.caught with
  | nil => simp [rethrow, held, Drops]
  | cons fault rest => simp [rethrow, held, Drops]

theorem run_rethrow (host : Host) (context : Context) :
    ∃ after, host.run .rethrow context = .error (.fault
      (context.frame.caught.head?.getD (.unsupported "rethrow outside a catch clause"))) after := by
  rw [run]
  cases held : context.frame.caught with
  | nil => exact ⟨context, by simp [rethrow, held]⟩
  | cons fault rest => exact ⟨_, by simp [rethrow, held]; rfl⟩

-- What the protected block and the clause that was entered take together.
def takenProtect (host : Host) (body : Block) (handlers : List Handler) (context : Context) : Nat :=
  let handled := match attempt (host.runBlock body) context with
    | .ok (.error fault) after => takenHandle host fault handlers after
    | _ => 0
  takenBlock host body context + handled

-- How a statement ends behind its final block, which may leave the member by itself.
def conclude (outcome : Except Fault Flow) : Flow → Exec Flow
  | .leave value => pure (.leave value)
  | .next => ofExcept outcome

theorem taken_attempt (host : Host) (body final : Block) (handlers : List Handler) (context : Context) :
    taken host (.attempt body handlers final) context =
      takenProtect host body handlers context + match protect host body handlers context with
        | .ok _ middle => takenBlock host final (finallyEntered final middle)
        | .error _ _ => 0 := by
  rw [taken]
  rfl

theorem run_attempt_bind (host : Host) (body final : Block) (handlers : List Handler) :
    host.run (.attempt body handlers final) = (do
      let outcome ← protect host body handlers
      enterFinally final
      host.runBlock final >>= conclude outcome) := by
  rw [run, protect, bind_assoc]
  congr 1
  funext outcome
  cases outcome <;> rfl

theorem run_attempt (host : Host) (body final : Block) (handlers : List Handler) (context : Context) :
    host.run (.attempt body handlers final) context =
      match protect host body handlers context with
      | .ok outcome middle =>
        (host.runBlock final >>= conclude outcome) (finallyEntered final middle)
      | .error stop after => .error stop after := by
  rw [run_attempt_bind, bind_apply]
  cases protect host body handlers context with
  | error stop after => rfl
  | ok outcome middle => simp only [bind_apply, enter_finally_eq]

theorem exhausted_of_protect {body : Block} {handlers : List Handler} {after : Context} {stop : Stop}
    (ran : protect host body handlers context = .error stop after) : stop = .exhausted := by
  rw [protect, bind_apply] at ran
  cases tried : attempt (host.runBlock body) context with
  | error stopped left =>
      rw [tried] at ran
      cases ran
      exact exhausted_of_attempt tried
  | ok outcome between =>
      rw [tried] at ran
      cases outcome with
      | ok flow => cases ran
      | error fault => exact exhausted_of_attempt ran

theorem drops_protect {body : Block} {handlers : List Handler}
    (first : Drops (takenBlock host body context) context (host.runBlock body context))
    (handled : ∀ fault after,
      Drops (takenHandle host fault handlers after) after (host.handle fault handlers after)) :
    Drops (takenProtect host body handlers context) context (protect host body handlers context) := by
  have attempted := drops_attempt first
  simp only [takenProtect, protect, bind_apply]
  cases ran : attempt (host.runBlock body) context with
  | error stop after =>
      rw [ran] at attempted
      exact attempted
  | ok outcome after =>
      rw [ran] at attempted
      cases outcome with
      | ok flow => exact attempted
      | error fault => exact drops_behind attempted (drops_attempt (handled fault after))

mutual
theorem drops_run (framed : host.Framed) (statement : Statement) (context : Context) :
    Drops (taken host statement context) context (host.run statement context) := by
  match statement with
  | .declare type name init =>
      rw [run]
      exact drops_of_keeps (keeps_bind (keeps_caught (keeps_evaluate_option framed init)) fun value =>
        keeps_bind (keeps_caught_set_local name value) fun _ => keeps_pure _) context
  | .assign target value =>
      rw [run]
      exact drops_of_keeps (keeps_bind (keeps_caught (keeps_evaluate framed value)) fun found =>
        keeps_bind (keeps_caught_assign framed target found) fun _ => keeps_pure _) context
  | .evaluate expr =>
      rw [run]
      exact drops_of_keeps (keeps_bind (keeps_caught (keeps_evaluate framed expr)) fun _ =>
        keeps_pure _) context
  | .leave value =>
      rw [run]
      exact drops_of_keeps (keeps_bind (keeps_caught (keeps_evaluate_option framed value)) fun _ =>
        keeps_pure _) context
  | .comment text =>
      rw [run]
      exact drops_of_keeps (keeps_pure _) context
  | .rethrow =>
      rw [run]
      exact drops_rethrow context
  | .branch condition whenTrue whenFalse =>
      have keeps := keeps_caught (keeps_evaluate framed condition)
      simp only [taken, run, bind_apply]
      cases evaluated : host.evaluate condition context with
      | error stop after =>
          have stopped := drops_of_keeps keeps context
          rw [evaluated] at stopped
          exact drops_stopped stopped
      | ok value after =>
          have kept : after.frame.caught = context.frame.caught.drop 0 := keeps.ok evaluated
          cases value with
          | bool chosen =>
              cases chosen with
              | true => simpa [truth] using drops_behind kept (drops_run_block framed whenTrue after)
              | false => simpa [truth] using drops_behind kept (drops_run_block framed whenFalse after)
          | _ => exact kept
  | .attempt body handlers final =>
      have drops : Drops (takenProtect host body handlers context) context
          (protect host body handlers context) :=
        drops_protect (drops_run_block framed body context) fun fault after =>
          drops_handle framed fault handlers after
      rw [taken_attempt, run_attempt]
      cases guarded : protect host body handlers context with
      | error stop after =>
          rw [guarded] at drops
          exact drops_stopped drops
      | ok outcome middle =>
          rw [guarded] at drops
          have before : (finallyEntered final middle).frame.caught =
              context.frame.caught.drop (takenProtect host body handlers context) :=
            (congrArg Frame.caught (finally_entered_frame final middle)).trans drops
          have last := drops_behind before
            (drops_run_block framed final (finallyEntered final middle))
          simp only [bind_apply]
          cases ended : host.runBlock final (finallyEntered final middle) with
          | error stop after =>
              rw [ended] at last
              exact last
          | ok flow after =>
              rw [ended] at last
              cases flow with
              | leave value => exact last
              | next =>
                  cases outcome with
                  | ok flow => exact last
                  | error fault => exact last

theorem drops_run_block (framed : host.Framed) (block : Block) (context : Context) :
    Drops (takenBlock host block context) context (host.runBlock block context) := by
  match block with
  | [] =>
      rw [takenBlock, runBlock]
      exact drops_of_keeps (keeps_pure _) context
  | statement :: rest =>
      have first := drops_run framed statement context
      simp only [takenBlock, runBlock, bind_apply]
      cases ran : host.run statement context with
      | error stop after =>
          rw [ran] at first
          exact first
      | ok flow after =>
          rw [ran] at first
          cases flow with
          | leave value => exact first
          | next => exact drops_behind first (drops_run_block framed rest after)

theorem drops_handle (framed : host.Framed) (fault : Fault) (handlers : List Handler) (context : Context) :
    Drops (takenHandle host fault handlers context) context (host.handle fault handlers context) := by
  match handlers with
  | [] =>
      rw [takenHandle, handle]
      exact drops_of_keeps (keeps_raise _) context
  | ⟨exception, binding, body⟩ :: rest =>
      rw [takenHandle, handle]
      by_cases catches : fault.isCaughtBy exception.label = true
      · rw [if_pos catches, if_pos catches]
        exact drops_handling (drops_run_block framed body _)
      · rw [if_neg catches, if_neg catches]
        exact drops_handle framed fault rest context
end

-- A run of a block comes to a statement that raises again, outside of every clause of the block,
-- after so many faults were taken since the block began.
inductive Reaches (host : Host) : Block → Context → Nat → Context → Prop
  | here (rest : Block) (context : Context) : Reaches host (.rethrow :: rest) context 0 context
  | later {statement : Statement} {rest : Block} {context middle after : Context} {count : Nat}
      (ran : host.run statement context = .ok .next middle) (reached : Reaches host rest middle count after) :
      Reaches host (statement :: rest) context (taken host statement context + count) after
  | inTrue {condition : Expr} {whenTrue : Block} {context middle after : Context} {count : Nat}
      (whenFalse rest : Block) (holds : host.evaluate condition context = .ok (.bool true) middle)
      (reached : Reaches host whenTrue middle count after) :
      Reaches host (.branch condition whenTrue whenFalse :: rest) context count after
  | inFalse {condition : Expr} {whenFalse : Block} {context middle after : Context} {count : Nat}
      (whenTrue rest : Block) (fails : host.evaluate condition context = .ok (.bool false) middle)
      (reached : Reaches host whenFalse middle count after) :
      Reaches host (.branch condition whenTrue whenFalse :: rest) context count after
  | inBody {body : Block} {context after : Context} {count : Nat} (handlers : List Handler)
      (final rest : Block) (reached : Reaches host body context count after) :
      Reaches host (.attempt body handlers final :: rest) context count after
  | inFinal {body : Block} {handlers : List Handler} {final : Block} {context middle after : Context}
      {outcome : Except Fault Flow} {count : Nat} (rest : Block)
      (ended : protect host body handlers context = .ok outcome middle)
      (reached : Reaches host final (finallyEntered final middle) count after) :
      Reaches host (.attempt body handlers final :: rest) context
        (takenProtect host body handlers context + count) after

theorem reached_caught (framed : host.Framed) {block : Block} {after : Context} {count : Nat}
    (reached : Reaches host block context count after) :
    after.frame.caught = context.frame.caught.drop count := by
  induction reached with
  | here rest context => rfl
  | later ran reached ih =>
      rename_i statement _ context middle _ count
      have drops := drops_run framed statement context
      rw [ran] at drops
      have before : middle.frame.caught = _ := drops
      rw [ih, before, List.drop_drop]
  | inTrue whenFalse rest holds reached ih =>
      rename_i condition _ _ _ _ _
      rw [ih, (keeps_caught (keeps_evaluate framed condition)).ok holds]
  | inFalse whenTrue rest fails reached ih =>
      rename_i condition _ _ _ _ _
      rw [ih, (keeps_caught (keeps_evaluate framed condition)).ok fails]
  | inBody handlers final rest reached ih => exact ih
  | inFinal rest ended reached ih =>
      rename_i body handlers final context middle _ outcome count
      have drops : Drops (takenProtect host body handlers context) context
          (protect host body handlers context) :=
        drops_protect (drops_run_block framed body context) fun fault after =>
          drops_handle framed fault handlers after
      rw [ended] at drops
      have before : middle.frame.caught = _ := drops
      rw [ih, finally_entered_frame, before, List.drop_drop]

/-- The fault of the clause if none was taken since it was entered, else one of those held outside. -/
theorem rethrow_in_clause (cls : Code.Class) (depth : Nat) (fault : Fault) (binding : Option String)
    {body : Block} {context after : Context} {count : Nat}
    (reached : Reaches (Execution.host cls depth) body (entered fault binding context) count after) :
    ∃ raised left, (Execution.host cls depth).run .rethrow after = .error (.fault raised) left ∧
      (count = 0 → raised = fault) ∧
      ∀ before, count = before + 1 → raised = (context.frame.caught[before]?).getD
        (.unsupported "rethrow outside a catch clause") := by
  obtain ⟨left, raises⟩ := run_rethrow (Execution.host cls depth) after
  have held := reached_caught (framed_host cls depth) reached
  refine ⟨_, left, raises, ?_, ?_⟩
  · intro first
    rw [held, first]
    rfl
  · intro before later
    rw [held, later]
    simp [entered]

-- A statement whose inner clause swallows what its body raises again.
def swallowing : Statement := .attempt [.rethrow] [⟨.framework .exception, none, []⟩] []

def probe : Code.Class where
  name := "Probe"
  regions := [⟨"", [.method {
    name := "Probe"
    params := []
    returns := .void
    body := [.attempt [.evaluate (.invoke .null "Open" [])]
      [⟨.framework .exception, none, [swallowing, .rethrow]⟩] []] }]⟩]

def probing : Context where
  streams := { files := {} }
  object := []
  frame := { member := "Probe" }

theorem reaches_after_swallowing (fault : Fault) :
    Reaches (Execution.host probe 0) [swallowing, .rethrow] (entered fault none probing) 1 probing :=
  .later rfl (.here [] probing)

theorem rethrow_in_clause_probe : ∃ raised left,
    (Execution.host probe 0).run .rethrow probing = .error (.fault raised) left ∧
      raised = .unsupported "rethrow outside a catch clause" := by
  obtain ⟨raised, left, raises, _, later⟩ := rethrow_in_clause probe 0 (.nullReference "Open") none
    (reaches_after_swallowing (.nullReference "Open"))
  exact ⟨raised, left, raises, later 0 rfl⟩

theorem rethrow_not_transparent : ¬ ∀ (fault : Fault) (block : Block) (context after : Context)
    (count : Nat), Reaches (Execution.host probe 0) block (entered fault none context) count after →
      ∃ left, (Execution.host probe 0).run .rethrow after = .error (.fault fault) left := by
  intro transparent
  obtain ⟨left, raises⟩ := transparent (.nullReference "Open") _ _ _ _ (reaches_after_swallowing _)
  have lost : (Execution.host probe 0).run .rethrow probing =
      .error (.fault (.unsupported "rethrow outside a catch clause")) probing := rfl
  cases lost.symm.trans raises

example : (Execution.call probe 1 { files := {} } [] "Probe" []).2.2 =
    .error (.fault (.unsupported "rethrow outside a catch clause")) := rfl

end Companion.Host
