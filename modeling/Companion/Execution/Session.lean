import Companion.Execution.Member

/-!
Sessions: the helper objects that were constructed, the streams that they share, and the requests
made of them one after the other.
-/
set_option autoImplicit false

namespace Companion

structure Session where
  streams : Streams
  -- The objects, where the position is the number.
  objects : List HelperObject := []

inductive Request
  | construct (arguments : List Value)
  | call (object : Nat) (method : String) (arguments : List Value)
  | get (object : Nat) (name : String)
  | set (object : Nat) (name : String) (value : Value)

inductive Answer
  | object (number : Nat)
  | value (value : Value)
  | done
deriving DecidableEq

namespace Session

def fresh (files : FileSystem) : Session := { streams := { files } }

-- The object with a number; one that was never constructed holds nothing.
def object (session : Session) (number : Nat) : HelperObject := session.objects[number]?.getD []

def after {α : Type} (session : Session) (number : Nat)
    (worked : Streams × HelperObject × Except Stop α) (answer : α → Answer) :
    Session × Except Stop Answer :=
  (⟨worked.1, session.objects.set number worked.2.1⟩, worked.2.2.map answer)

-- Meets a request; members may be active within one another down to the given depth.
def ask (cls : Code.Class) (depth : Nat) (session : Session) : Request → Session × Except Stop Answer
  | .construct arguments =>
    match Execution.construct cls depth session.streams arguments with
    | (streams, .ok object) =>
      (⟨streams, session.objects ++ [object]⟩, .ok (.object session.objects.length))
    | (streams, .error stop) => ({ session with streams }, .error stop)
  | .call number method arguments =>
    session.after number
      (Execution.call cls depth session.streams (session.object number) method arguments) .value
  | .get number name =>
    session.after number
      (Execution.getProperty cls depth session.streams (session.object number) name) .value
  | .set number name value =>
    session.after number
      (Execution.setProperty cls depth session.streams (session.object number) name value)
      fun _ => .done

def run (cls : Code.Class) (depth : Nat) (session : Session) (requests : List Request) : Session :=
  requests.foldl (fun session request => (session.ask cls depth request).1) session

end Session
end Companion
