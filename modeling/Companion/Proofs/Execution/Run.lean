import Companion.Execution.Member

/-!
Parts of a run on a context: what each of them answers and what it leaves behind.
-/
set_option autoImplicit false

namespace Companion

namespace Exec

variable {α β : Type}

@[simp] theorem pure_apply (value : α) (context : Context) :
    (pure value : Exec α) context = .ok value context := rfl

@[simp] theorem bind_apply (run : Exec α) (next : α → Exec β) (context : Context) :
    (run >>= next) context = match run context with
      | .ok value after => next value after
      | .error stop after => .error stop after := by
  cases ran : run context <;> simp [bind, EStateM.bind, ran]

@[simp] theorem map_apply (change : α → β) (run : Exec α) (context : Context) :
    (change <$> run) context = match run context with
      | .ok value after => .ok (change value) after
      | .error stop after => .error stop after := by
  cases ran : run context <;> simp [Functor.map, EStateM.map, ran]

@[simp] theorem get_apply (context : Context) : (get : Exec Context) context = .ok context context := rfl

@[simp] theorem modify_apply (change : Context → Context) (context : Context) :
    (modify change : Exec Unit) context = .ok () (change context) := rfl

@[simp] theorem raise_apply (fault : Fault) (context : Context) :
    (raise fault : Exec α) context = .error (.fault fault) context := rfl

@[simp] theorem of_except_ok (value : α) : ofExcept (.ok value) = (pure value : Exec α) := rfl

@[simp] theorem of_except_error (fault : Fault) : ofExcept (.error fault) = (raise fault : Exec α) := rfl

@[simp] theorem frame_apply (context : Context) : frame context = .ok context.frame context := rfl

@[simp] theorem modify_frame_apply (change : Frame → Frame) (context : Context) :
    modifyFrame change context = .ok () { context with frame := change context.frame } := rfl

@[simp] theorem set_local_apply (name : String) (value : Value) (context : Context) :
    setLocal name value context =
      .ok () { context with frame := { context.frame with
        locals := Bindings.set name value context.frame.locals } } := rfl

theorem attempt_ok {run : Exec α} {context after : Context} {value : α}
    (ran : run context = .ok value after) : attempt run context = .ok (.ok value) after := by
  rw [attempt, ran]

theorem attempt_fault {run : Exec α} {context after : Context} {fault : Fault}
    (ran : run context = .error (.fault fault) after) :
    attempt run context = .ok (.error fault) after := by
  rw [attempt, ran]

-- The context that a run leaves, however it ends.
def left (run : Exec α) (context : Context) : Context :=
  match run context with
  | .ok _ after => after
  | .error _ after => after

theorem left_ok {run : Exec α} {context after : Context} {value : α}
    (ran : run context = .ok value after) : left run context = after := by
  rw [left, ran]

theorem left_error {run : Exec α} {context after : Context} {stop : Stop}
    (ran : run context = .error stop after) : left run context = after := by
  rw [left, ran]

theorem left_attempt (run : Exec α) (context : Context) : left (attempt run) context = left run context := by
  rw [left, left, attempt]
  cases run context with
  | ok value after => rfl
  | error stop after => cases stop <;> rfl

theorem left_within (frame : Frame) (run : Exec α) (context : Context) :
    left (within frame run) context = { left run { context with frame } with frame := context.frame } := by
  rw [left, left, within]
  cases run { context with frame } <;> rfl

theorem left_on_streams (operation : Streams → Streams.Outcome α) (context : Context) :
    left (onStreams operation) context = { context with streams := (operation context.streams).1 } := by
  rw [left, onStreams]
  cases operation context.streams with
  | mk streams outcome => cases outcome <;> rfl

theorem left_of_except {run : Exec α} {context after : Context} {outcome : Except Fault α}
    (ran : run context = ofExcept outcome after) : left run context = after := by
  cases outcome with
  | ok value => exact left_ok ran
  | error fault => exact left_error ran

end Exec

theorem Execution.on_object_streams {α : Type} (run : Exec α) (streams : Streams) (object : HelperObject) :
    (Execution.onObject run streams object).1 = (run.left ⟨streams, object, { member := "" }⟩).streams := by
  rw [Execution.onObject, Exec.left]
  split <;> simp_all

theorem Execution.on_object_of_except {α : Type} {run : Exec α} {streams after : Streams} {object left : HelperObject}
    {frame : Frame} {outcome : Except Fault α}
    (ran : run ⟨streams, object, { member := "" }⟩ = Exec.ofExcept outcome ⟨after, left, frame⟩) :
    Execution.onObject run streams object = (after, left, outcome.mapError Stop.fault) := by
  rw [Execution.onObject, ran]
  cases outcome <;> rfl

namespace Bindings

theorem get?_set (name other : String) (value : Value) (bindings : Bindings) :
    (set name value bindings).get? other =
      if name = other then some value else bindings.get? other := by
  induction bindings with
  | nil =>
      by_cases same : name = other
      · simp [set, get?, same]
      · have different : (other == name) = false := by simpa using Ne.symm same
        simp [set, get?, List.lookup_cons, same, different]
  | cons binding rest ih =>
      obtain ⟨known, old⟩ := binding
      by_cases here : known = name
      · subst here
        by_cases same : known = other
        · simp [set, get?, same]
        · have different : (other == known) = false := by simpa using Ne.symm same
          simp [set, get?, List.lookup_cons, same, different]
      · by_cases there : known = other
        · subst there
          simp [set, get?, here, Ne.symm here]
        · have different : (other == known) = false := by simpa using Ne.symm there
          simp only [get?] at ih
          simp [set, get?, List.lookup_cons, here, different, ih]

@[simp] theorem get?_set_same (name : String) (value : Value) (bindings : Bindings) :
    (set name value bindings).get? name = some value := by
  rw [get?_set, if_pos rfl]

theorem get?_set_other {name other : String} (different : name ≠ other) (value : Value)
    (bindings : Bindings) : (set name value bindings).get? other = bindings.get? other := by
  rw [get?_set, if_neg different]

end Bindings

namespace Host

variable {host : Host} {statement : Code.Statement} {rest : Code.Block} {context after : Context}

theorem run_block_next (ran : host.run statement context = .ok .next after) :
    host.runBlock (statement :: rest) context = host.runBlock rest after := by
  simp [runBlock, ran]

theorem run_block_stop {stop : Stop} (ran : host.run statement context = .error stop after) :
    host.runBlock (statement :: rest) context = .error stop after := by
  simp [runBlock, ran]

@[simp] theorem run_block_nil (host : Host) (context : Context) :
    host.runBlock [] context = .ok .next context := by
  simp [runBlock]

theorem enter_finally_apply (first : Code.Statement) (rest : Code.Block) (context : Context) :
    enterFinally (first :: rest) context =
      .ok () { context with streams := context.streams.enterFinally context.frame.member } := by
  simp [enterFinally, Exec.onStreams]

end Host
end Companion
