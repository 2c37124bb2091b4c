import Companion.Execution.Streams
import Companion.Proofs.FileSystem.Kept

/-!
A stream from its opening to its release: the table with one more stream that is open, and with one
more that was used and released; and what of written bytes is sent on and what is held back.
-/
set_option autoImplicit false

namespace Companion

namespace Streams

variable {streams : Streams} {files : FileSystem} {path : Path} {access : Access}

def opening (streams : Streams) (files : FileSystem) (path : Path) (access : Access)
    (handle : Handle) : Streams where
  files := files
  table := streams.table ++ [⟨path, access, some handle⟩]
  ledger := { streams.ledger with acquired := streams.ledger.acquired + 1 }
  trace := streams.trace ++ [.opened streams.table.length path access]

def finished (streams : Streams) (files : FileSystem) (path : Path) (access : Access)
    (member : String) : Streams where
  files := files
  table := streams.table ++ [⟨path, access, none⟩]
  ledger := {
    streams.ledger with
    acquired := streams.ledger.acquired + 1
    released := streams.ledger.released + 1 }
  trace := streams.trace ++ [.opened streams.table.length path access, .finallyEntered member,
    .released streams.table.length]

theorem open_read_of_ok {place : Location} {node : Node}
    (resolved : streams.files.resolve path = .ok (place, node)) :
    streams.openRead path =
      (streams.opening streams.files path .read (.reader place 0), .ok streams.table.length) := by
  rw [openRead, resolved]
  rfl

theorem open_read_of_error {error : IoError} (refused : streams.files.resolve path = .error error) :
    streams.openRead path = (streams, .error (.io error)) := by
  rw [openRead, refused]
  rfl

theorem create_of_ok {place : Location} (made : streams.files.createFile path = .ok (files, place)) :
    streams.create path =
      (streams.opening files path .write (.writer place 0 []), .ok streams.table.length) := by
  rw [create, made]
  rfl

theorem create_of_error {error : IoError} (refused : streams.files.createFile path = .error error) :
    streams.create path = (streams, .error (.io error)) := by
  rw [create, refused]
  rfl

theorem modify_last (entries : List StreamEntry) (last : StreamEntry) (change : StreamEntry → StreamEntry) :
    (entries ++ [last]).modify entries.length change = entries ++ [change last] :=
  List.modifyTailIdx_add _ 0 entries [last]

theorem handle_opening (handle : Handle) :
    (streams.opening files path access handle).handle streams.table.length = .ok handle := by
  simp [Streams.handle, opening]

theorem with_handle_opening (streams : Streams) (files after : FileSystem) (path : Path)
    (access : Access) (handle other : Handle) :
    { streams.opening files path access handle with files := after }.withHandle streams.table.length
      (some other) = streams.opening after path access other := by
  simp [withHandle, opening, modify_last]

theorem release_opening (streams : Streams) (files : FileSystem) (path : Path) (access : Access)
    (member : String) (handle : Handle) :
    ((streams.opening files path access handle).enterFinally member).release streams.table.length =
      (streams.finished (closed files handle) path access member, .ok ()) := by
  simp [release, enterFinally, record, withHandle, opening, finished, modify_last]

theorem read_text_opening (streams : Streams) (files : FileSystem) (path : Path) (place : Location) :
    ∃ offset, (streams.opening files path .read (.reader place 0)).readText streams.table.length =
      (streams.opening files path .read (.reader place offset),
        (files.contentAt place >>= FileSystem.asText).mapError .io) := by
  have there : (streams.opening files path .read (.reader place 0)).files = files := rfl
  cases held : files.contentAt place with
  | error error =>
      refine ⟨0, ?_⟩
      simp [readText, handle_opening, there, held, fail]
      rfl
  | ok content =>
      have kept : (streams.opening files path .read (.reader place 0)).withHandle streams.table.length
          (some (.reader place content.length)) =
            streams.opening files path .read (.reader place content.length) :=
        with_handle_opening streams files files path .read _ _
      refine ⟨content.length, ?_⟩
      simp [readText, handle_opening, there, held, kept]
      rfl

@[simp] theorem closed_drained (files : FileSystem) (place : Location) (offset : Nat) :
    closed files (.writer place offset []) = files := by
  simp [closed, drained]

-- What a writer that holds bytes back sends on when more are written to it: what it held, if they do not fit behind,
-- and they themselves, if they fill a buffer alone.
def sent (held bytes : Bytes) : Bytes :=
  (if held.length + bytes.length > capacity then held else []) ++ if bytes.length < capacity then [] else bytes

def stays (held bytes : Bytes) : Bytes :=
  (if held.length + bytes.length > capacity then [] else held) ++ if bytes.length < capacity then bytes else []

theorem sent_stays (held bytes : Bytes) : sent held bytes ++ stays held bytes = held ++ bytes := by
  rw [sent, stays]
  by_cases full : held.length + bytes.length > capacity
  · rw [if_pos full, if_pos full]
    split <;> simp
  · rw [if_neg full, if_neg full]
    split
    · rfl
    · -- Bytes that fill the buffer alone fit only if nothing is held.
      have empty : held = [] := List.eq_nil_of_length_eq_zero (by omega)
      simp [empty]

theorem append_eq (files : FileSystem) (place : Location) (offset : Nat) (held bytes : Bytes) :
    append files place offset held bytes =
      (files.writeAt place offset (sent held bytes),
        .writer place (offset + (sent held bytes).length) (stays held bytes)) := by
  rw [append, sent, stays]
  by_cases full : held.length + bytes.length > capacity
  · rw [if_pos full, if_pos full, if_pos full]
    by_cases small : bytes.length < capacity
    · simp only [drained, if_pos small, List.append_nil]
    · simp only [drained, if_neg small, FileSystem.write_at_append, List.length_append, Nat.add_assoc, List.append_nil]
  · rw [if_neg full, if_neg full, if_neg full]
    by_cases small : bytes.length < capacity
    · simp only [if_pos small, List.append_nil, FileSystem.write_at_nothing, List.length_nil, Nat.add_zero]
    · simp only [drained, if_neg small, List.nil_append, List.append_nil]

-- Whether the bytes fit into the buffer or not, the file holds them once the stream is flushed.
theorem flush_append (files : FileSystem) (place : Location) (offset : Nat) (bytes : Bytes) :
    ∃ after last pending, append files place offset [] bytes = (after, .writer place last pending) ∧
      drained after place last pending = (files.writeAt place offset bytes, offset + bytes.length) := by
  refine ⟨_, _, _, append_eq files place offset [] bytes, ?_⟩
  rw [drained, FileSystem.write_at_append, Nat.add_assoc, ← List.length_append, sent_stays, List.nil_append]

theorem write_flush_opening (streams : Streams) (files : FileSystem) (path : Path) (place : Location)
    (bytes : Bytes) :
    ∃ written, (streams.opening files path .write (.writer place 0 [])).write streams.table.length bytes =
        (written, .ok ()) ∧
      written.flush streams.table.length =
        (streams.opening (files.writeAt place 0 bytes) path .write (.writer place bytes.length []), .ok ()) := by
  obtain ⟨after, last, pending, appended, flushed⟩ :=
    flush_append files place 0 bytes
  have there : (streams.opening files path .write (.writer place 0 [])).files = files := rfl
  refine ⟨streams.opening after path .write (.writer place last pending), ?_, ?_⟩
  · simp only [write, handle_opening, there, appended]
    rw [with_handle_opening streams files after path .write]
  · have held : (streams.opening after path .write (.writer place last pending)).files = after := rfl
    simp only [flush, handle_opening, held, flushed, Nat.zero_add]
    rw [with_handle_opening streams after _ path .write]

end Streams
end Companion
