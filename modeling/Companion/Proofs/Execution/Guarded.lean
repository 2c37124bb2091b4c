import Companion.Helper.Build
import Companion.Proofs.Execution.Run
import Companion.Proofs.Execution.Streams

/-!
Statements that release a stream on every way out. Main statement: `run_guarded`, a guarded body
ends as it would without the guard, with its stream released.
-/
set_option autoImplicit false

namespace Companion

open Code (Statement Block Handler)

namespace Host

-- The clause of a guard takes every fault and raises it again, with nothing changed by it.
theorem handle_and_raise (host : Host) (fault : Fault) (context : Context) :
    host.handle fault [⟨.framework .exception, none, [.rethrow]⟩] context =
      .error (.fault fault) context := by
  have caught : fault.isCaughtBy "Exception" = true := rfl
  simp [handle, Code.TypeRef.label, Code.Framework.name, caught, handling, runBlock, run, rethrow,
    Exec.attempt]

end Host

namespace Helper

def heldStream : Option StreamId → Value
  | none => .null
  | some id => .stream id

-- What the final block of a guard does to the streams.
def settle (streams : Streams) (member : String) : Option StreamId → Streams.Outcome Unit
  | none => (streams.enterFinally member, .ok ())
  | some id => (streams.enterFinally member).release id

theorem run_release (host : Host) {context : Context} {opened : Option StreamId} {streams : Streams}
    (held : context.frame.locals.get? streamVariable = some (heldStream opened))
    (settled : settle context.streams context.frame.member opened = (streams, .ok ())) :
    host.runBlock [releaseStream]
        { context with streams := context.streams.enterFinally context.frame.member } =
      .ok .next { context with streams } := by
  cases opened with
  | none =>
      cases settled
      simp [Host.runBlock, Host.run, releaseStream, stream, Host.evaluate, held, heldStream,
        Host.compared, Value.isIdentical, Host.truth]
  | some id =>
      have released : (context.streams.enterFinally context.frame.member).release id = (streams, .ok ()) :=
        settled
      simp [Host.runBlock, Host.run, releaseStream, stream, Host.evaluate, Host.evaluateAll, held,
        heldStream, Host.compared, Value.isIdentical, Host.truth, Host.invoke, Framework.invoke,
        Exec.onStreams, released]

theorem run_guarded {host : Host} {body : Block} {context after : Context}
    {outcome : Except Fault Flow} {opened : Option StreamId} {streams : Streams}
    (ran : Exec.attempt (host.runBlock body) context = .ok outcome after)
    (held : after.frame.locals.get? streamVariable = some (heldStream opened))
    (settled : settle after.streams after.frame.member opened = (streams, .ok ())) :
    host.run (guarded body) context = Exec.ofExcept outcome { after with streams } := by
  have closed := run_release host held settled
  cases outcome with
  | ok flow =>
      simp only [guarded, Host.run, Exec.bind_apply, ran, Exec.pure_apply, Host.enter_finally_apply, closed]
  | error fault =>
      have raised := Exec.attempt_fault (host.handle_and_raise fault after)
      simp only [guarded, Host.run, Exec.bind_apply, ran, raised, Host.enter_finally_apply, closed]

end Helper
end Companion
