import Companion.Proofs.Execution.Depth

/-!
Histories: what happens during a run as a tree, in which every execution of a protected block stands with
what happened in its parts. Main statement: `count_events_all`, among the events of a history a final block
is entered as often as the history holds executions of protected blocks that have one.
-/
set_option autoImplicit false

namespace Companion

open Code (Expr Statement Handler Block)

inductive Happening
  | opened (id : StreamId) (path : Path) (access : Access)
  | released (id : StreamId)
  -- Another member was active.
  | member (name : String) (inside : List Happening)
  -- A protected block, the clause that was selected, whether there is a final block, and that block.
  | attempt (guarded handled : List Happening) (concluding : Bool) (last : List Happening)

abbrev History := List Happening

namespace Happening

def ofEvent? : Event → Option Happening
  | .opened id path access => some (.opened id path access)
  | .released id => some (.released id)
  | .finallyEntered _ => none

mutual
-- The events of a history of which a member is the executing one.
def events (executing : String) : Happening → List Event
  | .opened id path access => [.opened id path access]
  | .released id => [.released id]
  | .member name inside => eventsAll name inside
  | .attempt guarded handled concluding last =>
    eventsAll executing guarded ++ eventsAll executing handled ++
      (if concluding then [.finallyEntered executing] else []) ++ eventsAll executing last
def eventsAll (executing : String) : List Happening → List Event
  | [] => []
  | first :: rest => events executing first ++ eventsAll executing rest
end

mutual
-- The executions by the named member of protected blocks that have a final block.
def concluded (named executing : String) : Happening → Nat
  | .opened .. => 0
  | .released _ => 0
  | .member name inside => concludedAll named name inside
  | .attempt guarded handled concluding last =>
    concludedAll named executing guarded + concludedAll named executing handled +
      (if concluding ∧ executing = named then 1 else 0) + concludedAll named executing last
def concludedAll (named executing : String) : List Happening → Nat
  | [] => 0
  | first :: rest => concluded named executing first + concludedAll named executing rest
end

theorem events_all_append (executing : String) (first second : History) :
    eventsAll executing (first ++ second) = eventsAll executing first ++ eventsAll executing second := by
  induction first with
  | nil => rfl
  | cons happening rest ih => rw [List.cons_append, eventsAll, eventsAll, ih, List.append_assoc]

mutual
theorem count_events (named executing : String) (happening : Happening) :
    (events executing happening).count (.finallyEntered named) = concluded named executing happening := by
  match happening with
  | .opened id path access => simp [events, concluded]
  | .released id => simp [events, concluded]
  | .member name inside =>
      rw [events, concluded]
      exact count_events_all named name inside
  | .attempt guarded handled concluding last =>
      have entry : (if concluding then [Event.finallyEntered executing] else []).count (.finallyEntered named) =
          if concluding ∧ executing = named then 1 else 0 := by
        cases concluding <;> simp [List.count_singleton]
      rw [events, concluded, List.count_append, List.count_append, List.count_append, entry,
        count_events_all named executing guarded, count_events_all named executing handled,
        count_events_all named executing last]

theorem count_events_all (named executing : String) (history : History) :
    (eventsAll executing history).count (.finallyEntered named) = concludedAll named executing history := by
  match history with
  | [] => rfl
  | first :: rest =>
      rw [eventsAll, concludedAll, List.count_append, count_events named executing first,
        count_events_all named executing rest]
end

end Happening

open Exec

-- What happens in a run that begins in a context.
abbrev Watch := Context → History

namespace Watch

def silent : Watch := fun _ => []

-- The operations of the class library are watched by the events that they record.
def recorded {α : Type} (run : Exec α) : Watch := fun context =>
  ((run.left context).streams.trace.drop context.streams.trace.length).filterMap Happening.ofEvent?

-- What happens in what comes behind a run.
def next {α : Type} (run : Exec α) (second : α → Watch) : Watch := fun context =>
  match run context with
  | .ok value after => second value after
  | .error _ _ => []

-- What happens in a run and then in what comes behind it.
def behind {α : Type} (run : Exec α) (first : Watch) (second : α → Watch) : Watch := fun context =>
  first context ++ next run second context

end Watch

open Watch

-- What happens while the members of a host are active.
structure Chronicle (host : Host) where
  perform : Activation → Watch

namespace Chronicle

variable {host : Host}

def call (chronicle : Chronicle host) (name : String) (arguments : List Value) : Watch :=
  match host.cls.method? name with
  | none => silent
  | some method =>
    match Frame.ofCall name method.params arguments with
    | .ok frame => chronicle.perform { frame, body := method.body }
    | .error _ => silent

def getProperty (chronicle : Chronicle host) (name : String) : Watch :=
  match host.cls.property? name with
  | none => silent
  | some property =>
    match property.accessors with
    | .auto => silent
    | .explicit getter _ => chronicle.perform { frame := { member := name }, body := getter }

def setProperty (chronicle : Chronicle host) (name : String) (value : Value) : Watch :=
  match host.cls.property? name with
  | none => silent
  | some property =>
    match Frame.checkType property.type value, property.accessors with
    | .ok (), .explicit _ setter =>
      chronicle.perform { frame := { member := name, incoming := some value }, body := setter }
    | _, _ => silent

def propertyOf (chronicle : Chronicle host) (target : Value) (name : String) : Watch :=
  if target = .this then chronicle.getProperty name else silent

def invoke (chronicle : Chronicle host) (target : Value) (method : String) (arguments : List Value) : Watch :=
  if target = .this then chronicle.call method arguments else recorded (host.invoke target method arguments)

mutual
def evaluate (chronicle : Chronicle host) : Expr → Watch
  | .property target name =>
    behind (host.evaluate target) (chronicle.evaluate target) fun value => chronicle.propertyOf value name
  | .invoke target method arguments =>
    behind (host.evaluate target) (chronicle.evaluate target) fun value =>
      behind (host.evaluateAll arguments) (chronicle.evaluateAll arguments) fun given =>
        chronicle.invoke value method given
  | .create _ arguments => chronicle.evaluateAll arguments
  | .cast _ operand => chronicle.evaluate operand
  | .compare left _ right =>
    behind (host.evaluate left) (chronicle.evaluate left) fun _ => chronicle.evaluate right
  | _ => silent
def evaluateAll (chronicle : Chronicle host) : List Expr → Watch
  | [] => silent
  | expr :: rest =>
    behind (host.evaluate expr) (chronicle.evaluate expr) fun _ => chronicle.evaluateAll rest
end

def evaluate? (chronicle : Chronicle host) : Option Expr → Watch
  | some expr => chronicle.evaluate expr
  | none => silent

def assign (chronicle : Chronicle host) (target : Expr) (value : Value) : Watch :=
  match target with
  | .property owner name =>
    behind (host.evaluate owner) (chronicle.evaluate owner) fun
      | .this => chronicle.setProperty name value
      | _ => silent
  | _ => silent

mutual
def run (chronicle : Chronicle host) : Statement → Watch
  | .declare _ _ init => chronicle.evaluate? init
  | .assign target value =>
    behind (host.evaluate value) (chronicle.evaluate value) fun found => chronicle.assign target found
  | .evaluate expr => chronicle.evaluate expr
  | .branch condition whenTrue whenFalse =>
    behind (host.evaluate condition) (chronicle.evaluate condition) fun
      | .bool true => chronicle.runBlock whenTrue
      | .bool false => chronicle.runBlock whenFalse
      | _ => silent
  | .attempt body handlers final => fun context =>
    let handled := next (attempt (host.runBlock body)) fun
      | .ok _ => silent
      | .error fault => chronicle.handle fault handlers
    let last := next (Host.protect host body handlers) fun _ middle =>
      chronicle.runBlock final (Host.finallyEntered final middle)
    [.attempt (chronicle.runBlock body context) (handled context) (!final.isEmpty) (last context)]
  | .leave value => chronicle.evaluate? value
  | .rethrow => silent
  | .comment _ => silent
def runBlock (chronicle : Chronicle host) : List Statement → Watch
  | [] => silent
  | statement :: rest =>
    behind (host.run statement) (chronicle.run statement) fun
      | .next => chronicle.runBlock rest
      | .leave _ => silent
def handle (chronicle : Chronicle host) (fault : Fault) : List Handler → Watch
  | [] => silent
  | ⟨exception, binding, body⟩ :: rest =>
    if fault.isCaughtBy exception.label then fun context =>
      chronicle.runBlock body (Host.entered fault binding context)
    else chronicle.handle fault rest
end

-- What happens in the clause that a protected block selects, and in its final block.
def handled (chronicle : Chronicle host) (body : Block) (handlers : List Handler) : Watch :=
  next (attempt (host.runBlock body)) fun
    | .ok _ => silent
    | .error fault => chronicle.handle fault handlers

def concluding (chronicle : Chronicle host) (body : Block) (handlers : List Handler) (final : Block) : Watch :=
  next (Host.protect host body handlers) fun _ middle =>
    chronicle.runBlock final (Host.finallyEntered final middle)

theorem run_attempt_history (chronicle : Chronicle host) (body final : Block) (handlers : List Handler)
    (context : Context) :
    chronicle.run (.attempt body handlers final) context =
      [.attempt (chronicle.runBlock body context) (chronicle.handled body handlers context) (!final.isEmpty)
        (chronicle.concluding body handlers final context)] := by
  rw [run]
  rfl

-- The chronicle of the members that those of another chronicle are active in.
def above (chronicle : Chronicle host) : Chronicle host.above where
  perform activation context :=
    [.member activation.frame.member
      (behind (host.runBlock activation.initializers) (chronicle.runBlock activation.initializers)
        (fun _ => chronicle.runBlock activation.body) { context with frame := activation.frame })]

end Chronicle

-- What happens in the members of a class that may be active within one another so deeply.
def Execution.chronicle (cls : Code.Class) : (depth : Nat) → Chronicle (host cls depth)
  | 0 => ⟨fun _ => silent⟩
  | depth + 1 => (chronicle cls depth).above

end Companion
