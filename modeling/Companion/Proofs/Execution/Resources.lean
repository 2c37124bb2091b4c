import Companion.Proofs.Execution.Requests

/-!
Streams over whole sessions. Main statement: `resources_released`, after any requests every stream
is released, and the trace of a load or a save is the opening of at most one stream, the final block
and the release of that stream.
-/
set_option autoImplicit false

namespace Companion

structure Streams.Settled (streams : Streams) : Prop where
  unopened : streams.openCount = 0
  balanced : streams.ledger.acquired = streams.ledger.released
  once : streams.ledger.doubleReleased = 0

-- What the body of a load or of a save does to the streams.
inductive Streams.Activated (member : String) (before : Streams) : Streams → Prop
  | unopened (files : FileSystem) : Activated member before ({ before with files }.enterFinally member)
  | opened (files : FileSystem) (path : Path) (access : Access) :
      Activated member before (before.finished files path access member)

inductive ActivationEvents (member : String) : List Event → Prop
  | unopened : ActivationEvents member [.finallyEntered member]
  | opened (id : StreamId) (path : Path) (access : Access) :
      ActivationEvents member [.opened id path access, .finallyEntered member, .released id]

namespace Streams

variable {member : String} {before after : Streams}

theorem settled_fresh (files : FileSystem) : Settled { files } := ⟨rfl, rfl, rfl⟩

theorem Activated.settled (activated : Activated member before after) (settled : before.Settled) :
    after.Settled := by
  cases activated with
  | unopened files => exact ⟨settled.unopened, settled.balanced, settled.once⟩
  | opened files path access =>
      refine ⟨?_, ?_, settled.once⟩
      · simpa [openCount, finished] using settled.unopened
      · simp only [finished, settled.balanced]

theorem Activated.traced (activated : Activated member before after) :
    ∃ events, ActivationEvents member events ∧ after.trace = before.trace ++ events := by
  cases activated with
  | unopened files => exact ⟨_, .unopened, rfl⟩
  | opened files path access => exact ⟨_, .opened before.table.length path access, rfl⟩

end Streams

namespace Helper

open Streams (Activated Settled)
open Execution (host)

theorem activated_load (streams : Streams) (path : String) :
    Activated loadMethod streams (loadStreams streams path) := by
  unfold loadStreams
  split
  · exact .opened streams.files (.ofString path) .read
  · exact .unopened streams.files

theorem activated_save (streams : Streams) (root path : String) (value : Value) :
    Activated saveMethod streams (saved streams root path value).1 := by
  unfold saved
  split
  · exact .unopened _
  · split
    · exact .unopened _
    · split
      · exact .opened _ _ _
      · exact .opened _ _ _

theorem left_load {argument : Value} (fits : argument.isAssignableTo .string = true) (source : CommentSource)
    (settings : ContentSettings) (depth : Nat) (context : Context) :
    Activated loadMethod context.streams
      (((host (helperClass source settings) (depth + 1)).call loadMethod [argument]).left context).streams := by
  rcases path_of_assignable fits with rfl | ⟨path, rfl⟩
  · rw [Exec.left_error (call_load_null source settings depth context)]
    exact .unopened context.streams.files
  · rw [Exec.left_of_except (call_load source settings depth path context)]
    exact activated_load context.streams path

theorem left_save {argument : Value} (fits : argument.isAssignableTo .string = true)
    {source : CommentSource} {name : String} (accepted : source.descriptor.Accepted name)
    (settings : ContentSettings) (depth : Nat) (context : Context) :
    Activated saveMethod context.streams
      (((host (helperClass source settings) (depth + 2)).call saveMethod [argument]).left context).streams := by
  rcases path_of_assignable fits with rfl | ⟨path, rfl⟩
  · rw [Exec.left_error (call_save_null source settings (depth + 1) context)]
    exact .unopened context.streams.files
  · rw [Exec.left_of_except (call_save accepted settings depth path context)]
    exact activated_save context.streams _ path _

-- The one member that a request let run did what it does alone; without one nothing changed.
theorem activated_of_worked {descriptor : Descriptor} {session : Session} {request : Request}
    {after : Streams} (worked : Worked descriptor session request after) :
    (request.activates = none ∧ after = session.streams) ∨
      ∃ member, request.activates = some member ∧ Activated member session.streams after := by
  cases worked with
  | idle passive => exact .inl ⟨passive, rfl⟩
  | refused member active => exact .inr ⟨member, active, .unopened session.streams.files⟩
  | load path active => exact .inr ⟨loadMethod, active, activated_load session.streams path⟩
  | save number path same =>
      subst same
      exact .inr ⟨saveMethod, activates_call number (.inr rfl) rfl, activated_save _ _ path _⟩

theorem run_settled {source : CommentSource} {name : String} (accepted : source.descriptor.Accepted name)
    (settings : ContentSettings) (depth : Nat) {session : Session} (settled : session.streams.Settled)
    (requests : List Request) :
    (session.run (helperClass source settings) (depth + 2) requests).streams.Settled := by
  induction requests generalizing session with
  | nil => exact settled
  | cons request rest ih =>
      refine ih ?_
      rcases activated_of_worked (ask_worked accepted settings depth session request) with
        ⟨_, same⟩ | ⟨member, _, activated⟩
      · rw [same]
        exact settled
      · exact activated.settled settled

-- What a request adds to the trace.
def Traced (request : Request) (before after : Streams) : Prop :=
  ∃ events, after.trace = before.trace ++ events ∧
    match request.activates with
    | some member => ActivationEvents member events
    | none => events = []

theorem traced_of_worked {descriptor : Descriptor} {session : Session} {request : Request}
    {after : Streams} (worked : Worked descriptor session request after) :
    Traced request session.streams after := by
  rcases activated_of_worked worked with ⟨passive, same⟩ | ⟨member, active, activated⟩
  · refine ⟨[], ?_, ?_⟩
    · rw [same, List.append_nil]
    · rw [passive]
  · obtain ⟨events, shape, grown⟩ := activated.traced
    refine ⟨events, grown, ?_⟩
    rw [active]
    exact shape

-- Levels of nesting that let a member run to its end: saving reads the property on its way.
def levels (member : String) : Nat := if member = saveMethod then 2 else 1

theorem activation_traced {source : CommentSource} {name : String}
    (accepted : source.descriptor.Accepted name) (settings : ContentSettings) {member : String}
    (known : member = loadMethod ∨ member = saveMethod) {level : Nat} (deep : levels member ≤ level)
    {arguments : List Value} {frame : Frame}
    (bound : Frame.ofCall member [filePath] arguments = .ok frame) (context : Context) :
    ∃ events, ActivationEvents member events ∧
      (((host (helperClass source settings) level).call member arguments).left context).streams.trace =
        context.streams.trace ++ events := by
  obtain ⟨argument, rfl, fits⟩ := path_of_frame bound
  rcases known with rfl | rfl
  · obtain ⟨depth, rfl⟩ : ∃ depth, level = depth + 1 := ⟨level - 1, by
      have enough : 1 ≤ level := deep
      omega⟩
    exact (left_load fits source settings depth context).traced
  · obtain ⟨depth, rfl⟩ : ∃ depth, level = depth + 2 := ⟨level - 2, by
      have enough : 2 ≤ level := deep
      omega⟩
    exact (left_save fits accepted settings depth context).traced

/-- Between requests no stream is open; a load or a save releases what it opened in its final block. -/
theorem resources_released {settings : ContentSettings} {descriptor : Descriptor} {model : Code.Model}
    (built : build settings descriptor = .ok model) (depth : Nat) (files : FileSystem)
    (requests : List Request) :
    let session := (Session.fresh files).run model.cls (depth + 2) requests
    session.streams.Settled ∧
      (∀ request,
        Traced request session.streams (session.ask model.cls (depth + 2) request).1.streams) ∧
      ∀ member level method arguments frame context, member = loadMethod ∨ member = saveMethod →
        levels member ≤ level → model.cls.method? member = some method →
        Frame.ofCall member method.params arguments = .ok frame →
        ∃ events, ActivationEvents member events ∧
          (((host model.cls level).call member arguments).left context).streams.trace =
            context.streams.trace ++ events := by
  obtain ⟨name, accepted, same⟩ := build_accepted built
  let source : CommentSource := ⟨descriptor, name, settings.generatorName⟩
  have valid : source.descriptor.Accepted name := accepted
  rw [same]
  refine ⟨?_, ?_, ?_⟩
  · exact run_settled valid settings depth (Streams.settled_fresh files) requests
  · intro request
    exact traced_of_worked (ask_worked valid settings depth _ request)
  · intro member level method arguments frame context known deep found bound
    have params : method.params = [filePath] := by
      rcases known with rfl | rfl
      · rw [method_load] at found
        cases found
        rfl
      · rw [method_save] at found
        cases found
        rfl
    rw [params] at bound
    exact activation_traced valid settings known deep bound context

theorem resources_released_book : ∃ model, build {} Descriptor.book = .ok model ∧
    ((Session.fresh {}).run model.cls 2
      [.construct [.text "book.xml"], .construct [], .call 0 saveMethod [.text "book.xml"]]).streams.Settled :=
  ⟨_, build_book, (resources_released build_book 0 {} _).1⟩

end Helper
end Companion
