import Companion.Execution.Statement

/-!
Members at work: constructing helper objects, calling their methods, reading and writing their
properties. A run is given the number of members that may be active within one another.
-/
set_option autoImplicit false

namespace Companion.Execution

-- Runs a member in which members are active down to the given depth.
def perform (cls : Code.Class) : Nat → Activation → Exec Flow
  | 0, _ => throw .exhausted
  | depth + 1, activation =>
    let host : Host := ⟨cls, perform cls depth⟩
    Exec.within activation.frame do
      let _ ← host.runBlock activation.initializers
      host.runBlock activation.body

def host (cls : Code.Class) (depth : Nat) : Host := ⟨cls, perform cls depth⟩

def onObject {α : Type} (run : Exec α) (streams : Streams) (object : HelperObject) :
    Streams × HelperObject × Except Stop α :=
  match run { streams, object, frame := { member := "" } } with
  | .ok value context => (context.streams, context.object, .ok value)
  | .error stop context => (context.streams, context.object, .error stop)

def accepts (constructor : Code.Constructor) (arguments : List Value) : Bool :=
  constructor.params.length = arguments.length
    && (constructor.params.zip arguments).all fun (param, value) => value.isAssignableTo param.type

-- The only constructor that takes the arguments.
def resolve (cls : Code.Class) (arguments : List Value) : Except Fault Code.Constructor :=
  match cls.constructors.filter (accepts · arguments) with
  | [constructor] => .ok constructor
  | _ => .error (.noConstructor (", ".intercalate (arguments.map Value.typeName)))

def construction (cls : Code.Class) (depth : Nat) (arguments : List Value) : Exec Unit := do
  let constructor ← Exec.ofExcept (resolve cls arguments)
  let frame ← Exec.ofExcept (Frame.ofCall cls.name constructor.params arguments)
  let _ ← perform cls depth
    { frame, initializers := constructor.initializers, body := constructor.body }
  return ()

def construct (cls : Code.Class) (depth : Nat) (streams : Streams) (arguments : List Value) :
    Streams × Except Stop HelperObject :=
  match onObject (construction cls depth arguments) streams [] with
  | (streams, object, .ok ()) => (streams, .ok object)
  | (streams, _, .error stop) => (streams, .error stop)

def call (cls : Code.Class) (depth : Nat) (streams : Streams) (object : HelperObject)
    (method : String) (arguments : List Value) : Streams × HelperObject × Except Stop Value :=
  onObject ((host cls depth).call method arguments) streams object

def getProperty (cls : Code.Class) (depth : Nat) (streams : Streams) (object : HelperObject)
    (name : String) : Streams × HelperObject × Except Stop Value :=
  onObject ((host cls depth).getProperty name) streams object

def setProperty (cls : Code.Class) (depth : Nat) (streams : Streams) (object : HelperObject)
    (name : String) (value : Value) : Streams × HelperObject × Except Stop Unit :=
  onObject ((host cls depth).setProperty name value) streams object

end Companion.Execution
