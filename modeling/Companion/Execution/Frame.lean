import Companion.Code.Class
import Companion.Execution.Streams

/-!
Frames: what a member sees while it runs, and how it comes to an end.
-/
set_option autoImplicit false

namespace Companion

-- Values by name; of two for one name the first counts.
abbrev Bindings := List (String × Value)

namespace Bindings

def get? (bindings : Bindings) (name : String) : Option Value := bindings.lookup name

-- The bindings with a value for a name, in the position that the name had.
def set (name : String) (value : Value) : Bindings → Bindings
  | [] => [(name, value)]
  | (other, old) :: rest =>
    if other = name then (name, value) :: rest else (other, old) :: set name value rest

end Bindings

abbrev HelperObject := Bindings

structure Frame where
  member : String
  locals : Bindings := []
  incoming : Option Value := none
  -- The faults of the handlers that run, the innermost one first.
  caught : List Fault := []

namespace Frame

def noSuchCall (name : String) (arguments : List Value) : Fault :=
  .missingMember (name ++ "(" ++ toString arguments.length ++ " argument(s))")

def checkType (type : Code.TypeRef) (value : Value) : Except Fault Unit :=
  if value.isAssignableTo type then .ok () else .error (.invalidCast value.typeName type.label)

def bindAll (frame : Frame) : List (Code.Param × Value) → Except Fault Frame
  | [] => .ok frame
  | (param, value) :: rest => do
    checkType param.type value
    { frame with locals := Bindings.set param.name value frame.locals }.bindAll rest

def ofCall (member : String) (params : List Code.Param) (arguments : List Value) :
    Except Fault Frame :=
  if params.length = arguments.length then
    Frame.bindAll { member := member } (params.zip arguments)
  else .error (noSuchCall member arguments)

end Frame

inductive Stop
  | fault (fault : Fault)
  -- Members called one another more deeply than was allowed.
  | exhausted
deriving DecidableEq

structure Context where
  streams : Streams
  object : HelperObject
  frame : Frame

-- A part of a run; what it changed stays when it stops.
abbrev Exec := EStateM Stop Context

namespace Exec

def raise {α : Type} (fault : Fault) : Exec α := throw (.fault fault)

def ofExcept {α : Type} : Except Fault α → Exec α
  | .ok value => pure value
  | .error fault => raise fault

def onStreams {α : Type} (operation : Streams → Streams.Outcome α) : Exec α := fun context =>
  match operation context.streams with
  | (streams, .ok value) => .ok value { context with streams }
  | (streams, .error fault) => .error (.fault fault) { context with streams }

def frame : Exec Frame := return (← get).frame

def modifyFrame (change : Frame → Frame) : Exec Unit :=
  modify fun context => { context with frame := change context.frame }

def setLocal (name : String) (value : Value) : Exec Unit :=
  modifyFrame fun frame => { frame with locals := Bindings.set name value frame.locals }

-- Runs with a frame of its own; afterwards the frame is what it was.
def within {α : Type} (frame : Frame) (run : Exec α) : Exec α := fun context =>
  match run { context with frame } with
  | .ok value after => .ok value { after with frame := context.frame }
  | .error stop after => .error stop { after with frame := context.frame }

def attempt {α : Type} (run : Exec α) : Exec (Except Fault α) := fun context =>
  match run context with
  | .ok value after => .ok (.ok value) after
  | .error (.fault fault) after => .ok (.error fault) after
  | .error .exhausted after => .error .exhausted after

end Exec

-- How a block ended: at its last statement, or by leaving the member with a value.
inductive Flow
  | next
  | leave (value : Value)
deriving DecidableEq

end Companion
