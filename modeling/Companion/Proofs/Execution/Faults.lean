import Companion.Execution.Statement
import Companion.Proofs.Outcome

/-!
The faults that the class library, calls and conditions give by themselves: all kinds but the one for want of a
constructor, `Fault.Plain`.
-/
set_option autoImplicit false

namespace Companion

namespace Fault

-- All faults but the one that not exactly one constructor takes the arguments.
def Plain : Fault → Prop
  | .noConstructor _ => False
  | _ => True

end Fault

-- An outcome that is no fault or a plain one.
def PlainOutcome {α : Type} : Except Fault α → Prop
  | .ok _ => True
  | .error fault => fault.Plain

/-! ## The class library -/

theorem plain_io {α : Type} (outcome : Except IoError α) : PlainOutcome (outcome.mapError .io) := by
  cases outcome <;> trivial

theorem plain_check_type (type : Code.TypeRef) (value : Value) : PlainOutcome (Frame.checkType type value) := by
  unfold Frame.checkType
  split <;> trivial

namespace Streams

variable (streams : Streams) (id : StreamId)

theorem plain_handle : PlainOutcome (streams.handle id) := by
  unfold handle
  split <;> trivial

theorem plain_open (path : Path) : PlainOutcome (streams.openRead path).2 := by
  unfold openRead
  split <;> trivial

theorem plain_create (path : Path) : PlainOutcome (streams.create path).2 := by
  unfold create
  split <;> trivial

-- What a stream refuses without its handle it refuses with the fault for that.
theorem plain_of_handle {α : Type} {fault : Fault} (missing : streams.handle id = .error fault) :
    PlainOutcome (.error fault : Except Fault α) := by
  have plain := streams.plain_handle id
  rw [missing] at plain
  exact plain

theorem plain_read : PlainOutcome (streams.readText id).2 := by
  unfold readText
  split
  · exact streams.plain_of_handle id ‹_›
  · trivial
  · split
    · trivial
    · exact plain_io _

theorem plain_write (bytes : Bytes) : PlainOutcome (streams.write id bytes).2 := by
  unfold write
  split
  · exact streams.plain_of_handle id ‹_›
  · trivial
  · trivial

theorem plain_flush : PlainOutcome (streams.flush id).2 := by
  unfold flush
  split
  · exact streams.plain_of_handle id ‹_›
  · trivial
  · trivial

theorem plain_release : PlainOutcome (streams.release id).2 := by
  unfold release
  split <;> trivial

end Streams

namespace Framework

theorem plain_serialized (root : String) (value : Value) : PlainOutcome (serialized root value) := by
  unfold serialized
  split
  · trivial
  · split <;> trivial
  · trivial

theorem plain_deserialized (root text : String) : PlainOutcome (deserialized root text) := by
  unfold deserialized
  split
  · trivial
  · trivial
  · rename_i error refused
    cases error <;> trivial

theorem plain_create (type : Code.TypeRef) (arguments : List Value) : PlainOutcome (create type arguments) := by
  unfold create
  split <;> trivial

theorem plain_property (target : Value) (name : String) : PlainOutcome (property target name) := by
  unfold property
  split <;> trivial

end Framework

/-! ## Calls -/

namespace Frame

theorem bind_all_caught {frame bound : Frame} {given : List (Code.Param × Value)}
    (done : frame.bindAll given = .ok bound) : bound.caught = frame.caught := by
  induction given generalizing frame with
  | nil =>
      cases done
      rfl
  | cons binding rest ih =>
      obtain ⟨_, _, behind⟩ := ok_of_bind done
      rw [ih behind]

theorem plain_bind_all (frame : Frame) (given : List (Code.Param × Value)) : PlainOutcome (frame.bindAll given) := by
  induction given generalizing frame with
  | nil => trivial
  | cons binding rest ih =>
      rw [bindAll]
      have checked := plain_check_type binding.1.type binding.2
      cases fits : checkType binding.1.type binding.2 with
      | error fault =>
          rw [fits] at checked
          exact checked
      | ok done => exact ih _

theorem plain_of_call (member : String) (params : List Code.Param) (arguments : List Value) :
    PlainOutcome (ofCall member params arguments) := by
  unfold ofCall
  split
  · exact plain_bind_all _ _
  · trivial

-- The frame of a call holds no fault yet.
theorem called_fresh {member : String} {params : List Code.Param} {arguments : List Value} {frame : Frame}
    (bound : ofCall member params arguments = .ok frame) : frame.caught = [] := by
  unfold ofCall at bound
  split at bound
  · exact bind_all_caught bound
  · cases bound

end Frame

theorem Host.plain_truth (value : Value) : PlainOutcome (truth value) := by
  cases value <;> trivial

end Companion
