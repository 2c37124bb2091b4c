import Companion.Code.Shown
import Companion.Execution.Framework

/-!
Statements and expressions at work. A handler catches faults by the type of the exception, the
final block runs on every way out, and raising again gives the fault that was caught.
-/
set_option autoImplicit false

namespace Companion

open Code (Expr Statement Handler Block)

structure Activation where
  frame : Frame
  -- Statements run ahead of the body; leaving them is not leaving the member.
  initializers : Block := []
  body : Block

structure Host where
  cls : Code.Class
  perform : Activation → Exec Flow

namespace Host

def call (host : Host) (name : String) (arguments : List Value) : Exec Value := do
  match host.cls.method? name with
  | none => Exec.raise (.missingMember name)
  | some method =>
    let frame ← Exec.ofExcept (Frame.ofCall name method.params arguments)
    match ← host.perform { frame, body := method.body } with
    | .leave value => return value
    | .next => return .null

-- What the helper object holds under a name; what was never stored is null.
def stored (name : String) : Exec Value := do
  return ((← get).object.get? name).getD .null

def store (name : String) (value : Value) : Exec Unit :=
  modify fun context => { context with object := Bindings.set name value context.object }

def getProperty (host : Host) (name : String) : Exec Value := do
  match host.cls.property? name with
  | none => stored name
  | some property =>
    match property.accessors with
    | .auto => stored name
    | .explicit getter _ =>
      match ← host.perform { frame := { member := name }, body := getter } with
      | .leave value => return value
      | .next => Exec.raise (.unsupported ("getter of '" ++ name ++ "' returned no value"))

def setProperty (host : Host) (name : String) (value : Value) : Exec Unit := do
  match host.cls.property? name with
  | none => store name value
  | some property =>
    Exec.ofExcept (Frame.checkType property.type value)
    match property.accessors with
    | .auto => store name value
    | .explicit _ setter =>
      let frame := { member := name, incoming := some value }
      let _ ← host.perform { frame, body := setter }
      return ()

def propertyOf (host : Host) (target : Value) (name : String) : Exec Value :=
  match target with
  | .this => host.getProperty name
  | other => Exec.ofExcept (Framework.property other name)

def invoke (host : Host) (target : Value) (method : String) (arguments : List Value) :
    Exec Value :=
  match target with
  | .this => host.call method arguments
  | .null => Exec.raise (.nullReference method)
  | other => Framework.invoke other method arguments

/-! ## Expressions -/

def compared (left : Value) (comparison : Code.Comparison) (right : Value) : Bool :=
  match comparison with
  | .same => left.isIdentical right
  | .different => !left.isIdentical right

mutual
def evaluate (host : Host) : Expr → Exec Value
  | .null => return .null
  | .this => return .this
  | .literal text => return .text text
  | .variable name => do
    match (← Exec.frame).locals.get? name with
    | some value => return value
    | none => Exec.raise (.missingMember name)
  | .incoming => do
    match (← Exec.frame).incoming with
    | some value => return value
    | none => Exec.raise (.unsupported "setter value outside a setter")
  | .type type => return .type type
  | .typeOf type => return .type type
  | .property target name => do host.propertyOf (← host.evaluate target) name
  | .invoke target method arguments => do
    let target ← host.evaluate target
    host.invoke target method (← host.evaluateAll arguments)
  | .create type arguments => do
    Exec.ofExcept (Framework.create type (← host.evaluateAll arguments))
  | .cast type operand => do
    let value ← host.evaluate operand
    Exec.ofExcept (Frame.checkType type value)
    return value
  | .compare left comparison right => do
    let left ← host.evaluate left
    let right ← host.evaluate right
    return .bool (compared left comparison right)
def evaluateAll (host : Host) : List Expr → Exec (List Value)
  | [] => return []
  | expr :: rest => do
    let value ← host.evaluate expr
    return value :: (← host.evaluateAll rest)
end

def evaluate? (host : Host) : Option Expr → Exec Value
  | some expr => host.evaluate expr
  | none => return .null

def assign (host : Host) (target : Expr) (value : Value) : Exec Unit := do
  match target with
  | .variable name =>
    if ((← Exec.frame).locals.get? name).isSome then Exec.setLocal name value
    else Exec.raise (.missingMember name)
  | .property owner name =>
    match ← host.evaluate owner with
    | .this => host.setProperty name value
    | .null => Exec.raise (.nullReference name)
    | other => Exec.raise (.unsupported ("assigning '" ++ name ++ "' on " ++ other.typeName))
  | other => Exec.raise (.unsupported ("assignment to " ++ other.shown))

/-! ## Statements -/

def truth : Value → Except Fault Bool
  | .bool value => .ok value
  | other => .error (.invalidCast other.typeName "bool")

def rethrow : Exec Flow := do
  match (← Exec.frame).caught with
  | [] => Exec.raise (.unsupported "rethrow outside a catch clause")
  | fault :: rest =>
    Exec.modifyFrame fun frame => { frame with caught := rest }
    Exec.raise fault

-- Runs a handler for a fault; afterwards the fault and what came after it are forgotten.
def handling (fault : Fault) (binding : Option String) (run : Exec Flow) : Exec Flow := do
  if let some name := binding then Exec.setLocal name (.text fault.message)
  let depth := (← Exec.frame).caught.length
  Exec.modifyFrame fun frame => { frame with caught := fault :: frame.caught }
  let outcome ← Exec.attempt run
  Exec.modifyFrame fun frame =>
    { frame with caught := frame.caught.drop (frame.caught.length - depth) }
  Exec.ofExcept outcome

-- Notes that the final block begins, unless it is empty.
def enterFinally (final : Block) : Exec Unit := do
  if !final.isEmpty then
    let frame ← Exec.frame
    Exec.onStreams fun streams => (streams.enterFinally frame.member, .ok ())

mutual
def run (host : Host) : Statement → Exec Flow
  | .declare _ name init => do
    Exec.setLocal name (← host.evaluate? init)
    return .next
  | .assign target value => do
    let value ← host.evaluate value
    host.assign target value
    return .next
  | .evaluate expr => do
    let _ ← host.evaluate expr
    return .next
  | .branch condition whenTrue whenFalse => do
    if ← Exec.ofExcept (truth (← host.evaluate condition)) then host.runBlock whenTrue
    else host.runBlock whenFalse
  | .attempt body handlers final => do
    let outcome ← Exec.attempt (host.runBlock body)
    let outcome ← match outcome with
      | .ok flow => pure (.ok flow)
      | .error fault => Exec.attempt (host.handle fault handlers)
    enterFinally final
    match ← host.runBlock final with
    | .leave value => return .leave value
    | .next => Exec.ofExcept outcome
  | .leave value => do return .leave (← host.evaluate? value)
  | .rethrow => rethrow
  | .comment _ => return .next
def runBlock (host : Host) : List Statement → Exec Flow
  | [] => return .next
  | statement :: rest => do
    match ← host.run statement with
    | .leave value => return .leave value
    | .next => host.runBlock rest
def handle (host : Host) (fault : Fault) : List Handler → Exec Flow
  | [] => Exec.raise fault
  | ⟨exception, binding, body⟩ :: rest =>
    if fault.isCaughtBy exception.label then handling fault binding (host.runBlock body)
    else host.handle fault rest
end

end Host
end Companion
