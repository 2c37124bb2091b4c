import Companion.Execution.Fault
import Companion.Execution.Value
import Companion.FileSystem.Operations

/-!
Streams: files opened for reading or writing, numbered in the order of opening. A ledger counts
what was opened and released, and a trace lists what happened. What is written reaches the file
once it fills the buffer, or when the stream is flushed or released.
-/
set_option autoImplicit false

namespace Companion

inductive Access
  | read
  | write
deriving DecidableEq

inductive Event
  | opened (id : StreamId) (path : Path) (access : Access)
  | released (id : StreamId)
  | finallyEntered (member : String)
deriving DecidableEq

structure Ledger where
  acquired : Nat := 0
  released : Nat := 0
  -- Requests to release a stream that was released before.
  doubleReleased : Nat := 0
deriving DecidableEq

def Ledger.isBalanced (ledger : Ledger) : Bool :=
  ledger.acquired = ledger.released ∧ ledger.doubleReleased = 0

-- An open file: its place, and how far it was read or written.
inductive Handle
  | reader (place : Location) (offset : Nat)
  | writer (place : Location) (offset : Nat) (pending : Bytes)
deriving DecidableEq

structure StreamEntry where
  path : Path
  access : Access
  -- There is none once the stream was released.
  handle : Option Handle
deriving DecidableEq

structure Streams where
  files : FileSystem
  -- The streams, where the position is the number.
  table : List StreamEntry := []
  ledger : Ledger := {}
  trace : List Event := []

namespace Streams

abbrev Outcome (α : Type) := Streams × Except Fault α

def fail {α : Type} (streams : Streams) (fault : Fault) : Outcome α := (streams, .error fault)

def openCount (streams : Streams) : Nat :=
  (streams.table.filter fun entry => entry.handle.isSome).length

def record (streams : Streams) (event : Event) : Streams :=
  { streams with trace := streams.trace ++ [event] }

def register (streams : Streams) (path : Path) (access : Access) (handle : Handle) :
    Outcome StreamId :=
  let id := streams.table.length
  let entry : StreamEntry := ⟨path, access, some handle⟩
  let streams := { streams with
    table := streams.table ++ [entry]
    ledger := { streams.ledger with acquired := streams.ledger.acquired + 1 } }
  (streams.record (.opened id path access), .ok id)

-- Opens a file for reading; that it is a directory shows only when it is read.
def openRead (streams : Streams) (path : Path) : Outcome StreamId :=
  match streams.files.resolve path with
  | .error error => streams.fail (.io error)
  | .ok (place, _) => streams.register path .read (.reader place 0)

def create (streams : Streams) (path : Path) : Outcome StreamId :=
  match streams.files.createFile path with
  | .error error => streams.fail (.io error)
  | .ok (files, place) => { streams with files := files }.register path .write (.writer place 0 [])

def handle (streams : Streams) (id : StreamId) : Except Fault Handle :=
  match streams.table[id]? with
  | none => .error (.missingMember ("stream #" ++ toString id))
  | some ⟨path, _, none⟩ =>
    .error (.unsupported ("stream on '" ++ path.display ++ "' is closed"))
  | some ⟨_, _, some handle⟩ => .ok handle

def withHandle (streams : Streams) (id : StreamId) (handle : Option Handle) : Streams :=
  { streams with table := streams.table.modify id fun entry => { entry with handle } }

def readText (streams : Streams) (id : StreamId) : Outcome String :=
  match streams.handle id with
  | .error fault => streams.fail fault
  | .ok (.writer ..) => streams.fail (.unsupported "reading from a write stream")
  | .ok (.reader place offset) =>
    match streams.files.contentAt place with
    | .error error => streams.fail (.io error)
    | .ok content =>
      let after := streams.withHandle id (some (.reader place (max offset content.length)))
      (after, (FileSystem.asText (content.drop offset)).mapError .io)

-- The number of bytes that are held back before they reach the file.
def capacity : Nat := 8192

-- A writer that holds nothing back, and the files with what it held.
def drained (files : FileSystem) (place : Location) (offset : Nat) (pending : Bytes) :
    FileSystem × Nat :=
  (files.writeAt place offset pending, offset + pending.length)

def append (files : FileSystem) (place : Location) (offset : Nat) (pending bytes : Bytes) :
    FileSystem × Handle :=
  let (files, offset, pending) :=
    if pending.length + bytes.length > capacity then
      let (files, offset) := drained files place offset pending
      (files, offset, [])
    else (files, offset, pending)
  if bytes.length < capacity then (files, .writer place offset (pending ++ bytes))
  else
    let (files, offset) := drained files place offset bytes
    (files, .writer place offset pending)

def write (streams : Streams) (id : StreamId) (bytes : Bytes) : Outcome Unit :=
  match streams.handle id with
  | .error fault => streams.fail fault
  | .ok (.reader ..) => streams.fail (.unsupported "writing to a read stream")
  | .ok (.writer place offset pending) =>
    let (files, handle) := append streams.files place offset pending bytes
    ({ streams with files }.withHandle id (some handle), .ok ())

def flush (streams : Streams) (id : StreamId) : Outcome Unit :=
  match streams.handle id with
  | .error fault => streams.fail fault
  | .ok (.reader ..) => (streams, .ok ())
  | .ok (.writer place offset pending) =>
    let (files, offset) := drained streams.files place offset pending
    ({ streams with files }.withHandle id (some (.writer place offset [])), .ok ())

def closed (files : FileSystem) : Handle → FileSystem
  | .reader .. => files
  | .writer place offset pending => (drained files place offset pending).1

-- Releases a stream; a second release is counted and nothing else.
def release (streams : Streams) (id : StreamId) : Outcome Unit :=
  match streams.table[id]? with
  | none => streams.fail (.missingMember ("stream #" ++ toString id))
  | some ⟨_, _, none⟩ =>
    let ledger := streams.ledger
    ({ streams with ledger := { ledger with doubleReleased := ledger.doubleReleased + 1 } }, .ok ())
  | some ⟨_, _, some handle⟩ =>
    let ledger := streams.ledger
    let streams := { streams with
      files := closed streams.files handle
      ledger := { ledger with released := ledger.released + 1 } }
    ((streams.withHandle id none).record (.released id), .ok ())

def enterFinally (streams : Streams) (member : String) : Streams :=
  streams.record (.finallyEntered member)

end Streams
end Companion
