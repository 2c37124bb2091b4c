import Companion.FileSystem.Basic
import Companion.Path.Parent

/-!
Operations on files and directories: reading, creating, and making the directories that a file
needs.
-/
set_option autoImplicit false

namespace Companion.FileSystem

def content : Node → Except IoError Bytes
  | .file bytes => .ok bytes
  | .directory => .error .isADirectory

def contentAt (files : FileSystem) (place : Location) : Except IoError Bytes :=
  match files.node? place with
  | some node => content node
  | none => .error .notFound

def asText (bytes : Bytes) : Except IoError String :=
  match Utf8.decode? bytes with
  | some text => .ok text
  | none => .error .invalidData

def readText (files : FileSystem) (path : Path) : Except IoError String := do
  let (_, node) ← files.resolve path
  asText (← content node)

-- The last part of a path whose target may not be there yet.
inductive Target (files : FileSystem)
  -- The path ends in the root, a dot or two dots: such a target is always there.
  | given
  | name (parent : Location) (above : files.node? parent = some .directory) (name : Bytes)
    (trailingSlash : Bool)

-- Whether a last segment names something new rather than a place passed before.
def isProper (segment : Bytes) : Bool := !Path.isIdle segment && segment ≠ Path.twoDots

def target (files : FileSystem) (path : Path) : Except IoError files.Target := do
  let (place, segments) ← files.departure path
  let kept := (segments.reverse.dropWhile List.isEmpty).reverse
  match kept.getLast? with
  | none => return .given
  | some last =>
    let parent ← files.walk place kept.dropLast
    if above : files.node? parent = some .directory then
      return if isProper last then .name parent above last (kept.length < segments.length)
        else .given
    else .error (if files.node? parent = none then .notFound else .notADirectory)

def createFile (files : FileSystem) (path : Path) : Except IoError (FileSystem × Location) := do
  match ← files.target path with
  | .given | .name _ _ _ true => .error .isADirectory
  | .name parent above name false =>
    if there : files.node? (name :: parent) = some .directory then .error .isADirectory
    else return (files.put (name :: parent) (.file []) ⟨above, (absurd · there)⟩, name :: parent)

def createDirectory (files : FileSystem) (path : Path) : Except IoError FileSystem := do
  match ← files.target path with
  | .given => .error .alreadyExists
  | .name parent above name _ =>
    match files.node? (name :: parent) with
    | some _ => .error .alreadyExists
    | none => return files.put (name :: parent) .directory ⟨above, fun _ => rfl⟩

def ensureDirectory (files : FileSystem) (path : Path) : FileSystem × Except IoError Unit :=
  match files.createDirectory path with
  | .ok files => (files, .ok ())
  | .error error => (files, if files.isDirectory path then .ok () else .error error)

-- Makes the directory of a path, and before it those above it where they are missing. What was
-- made stays when a later step fails.
def createDirectories (files : FileSystem) (path : Path) : FileSystem × Except IoError Unit :=
  if path.bytes = [] then (files, .ok ())
  else if files.createDirectory path matches .error ⟨.notFound, _⟩ then
    match _ : path.parent? with
    | none => (files, .error .notFound)
    | some above =>
      match files.createDirectories above with
      | (files, .ok ()) => files.ensureDirectory path
      | failed => failed
  else files.ensureDirectory path
termination_by path.bytes.length
decreasing_by exact Path.length_parent?_lt ‹_›

-- Bytes put into a content at an offset; a gap in front of them is filled with zeros.
def overwrite (content : Bytes) (offset : Nat) (bytes : Bytes) : Bytes :=
  if bytes.isEmpty then content
  else
    content.take offset ++ List.replicate (offset - content.length) 0 ++ bytes
      ++ content.drop (offset + bytes.length)

-- Nothing written changes nothing, not even behind the end.
@[simp] theorem overwrite_nil (content : Bytes) (offset : Nat) :
    overwrite content offset [] = content := rfl

-- The file at a place, if there is one, with a content made from its old one.
def modify (files : FileSystem) (place : Location) (change : Bytes → Bytes) : FileSystem :=
  match there : files.node? place with
  | some (.file content) => files.put place (.file (change content)) (fits_of_file there _)
  | _ => files

def writeAt (files : FileSystem) (place : Location) (offset : Nat) (bytes : Bytes) :
    FileSystem :=
  files.modify place fun content => overwrite content offset bytes

def writeFile (files : FileSystem) (path : Path) (bytes : Bytes) : Except IoError FileSystem := do
  let (files, place) ← files.createFile path
  return files.writeAt place 0 bytes

end Companion.FileSystem
