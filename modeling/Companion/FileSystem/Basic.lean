import Companion.FileSystem.Error
import Companion.Path

/-!
File systems: which places below the root hold a file or a directory, and the place from which
paths start. Each node stands in a directory, and paths start from one, in every file system. Links,
limits on the length of names and paths, and permissions are not modelled. Main statement: after a
node was put at a place, that place holds it and all others hold what they held before.
-/
set_option autoImplicit false

namespace Companion

-- A place: the names that lead to it from the root, the last one first.
abbrev Location := List Bytes

inductive Node
  | file (content : Bytes)
  | directory
deriving DecidableEq

namespace FileSystem

def lookup (place : Location) : List (Location × Node) → Option Node
  | [] => none
  | (other, node) :: rest => if other = place then some node else lookup place rest

-- The list with the node at a place, in the position that the place had.
def insert (place : Location) (node : Node) : List (Location × Node) → List (Location × Node)
  | [] => [(place, node)]
  | (other, old) :: rest =>
    if other = place then (place, node) :: rest else (other, old) :: insert place node rest

-- What entries hold at a place; the root is a directory.
def nodeIn (entries : List (Location × Node)) (place : Location) : Option Node :=
  if place = [] then some .directory else lookup place entries

-- Without entries a file system is the root alone.
theorem rooted_nothing :
    ∀ entry ∈ ([] : List (Location × Node)), nodeIn [] entry.1.tail = some .directory := nofun

theorem standing_nothing : nodeIn [] [] = some .directory := rfl

end FileSystem

structure FileSystem where
  -- The nodes below the root; of two for one place the first counts.
  entries : List (Location × Node) := []
  start : Location := []
  -- Every node stands in a directory, and paths start from one.
  rooted : ∀ entry ∈ entries, FileSystem.nodeIn entries entry.1.tail = some .directory := by
    exact FileSystem.rooted_nothing
  standing : FileSystem.nodeIn entries start = some .directory := by
    exact FileSystem.standing_nothing

namespace FileSystem

section
variable {place other : Location} {node : Node} {entries : List (Location × Node)}

theorem mem_of_lookup (there : lookup place entries = some node) : (place, node) ∈ entries := by
  induction entries with
  | nil => cases there
  | cons entry rest ih =>
    obtain ⟨other, old⟩ := entry
    by_cases same : other = place
    · simp only [lookup, if_pos same, Option.some.injEq] at there
      rw [same, there]
      exact List.mem_cons_self
    · rw [lookup, if_neg same] at there
      exact List.mem_cons_of_mem (other, old) (ih there)

theorem mem_insert {entry : Location × Node} (member : entry ∈ insert place node entries) :
    entry = (place, node) ∨ entry ∈ entries := by
  induction entries with
  | nil => exact .inl (List.mem_singleton.mp member)
  | cons first rest ih =>
    rw [insert] at member
    split at member
    · exact (List.mem_cons.mp member).imp_right (List.mem_cons_of_mem first)
    · rcases List.mem_cons.mp member with rfl | behind
      · exact .inr List.mem_cons_self
      · exact (ih behind).imp_right (List.mem_cons_of_mem first)

theorem lookup_insert (place other : Location) (node : Node) (entries : List (Location × Node)) :
    lookup other (insert place node entries)
      = if place = other then some node else lookup other entries := by
  induction entries with
  | nil => simp [insert, lookup]
  | cons entry rest ih =>
    by_cases here : entry.1 = place
    · by_cases same : place = other
      · simp [insert, lookup, here, same]
      · simp [insert, lookup, here, same]
    · by_cases there : entry.1 = other
      · subst there
        simp [insert, lookup, here, Ne.symm here]
      · simp [insert, lookup, here, there, ih]

theorem node_in_insert (free : nodeIn entries place = some .directory → node = .directory)
    (other : Location) : nodeIn (insert place node entries) other
      = if place = other then some node else nodeIn entries other := by
  by_cases root : other = []
  · by_cases here : place = []
    · simp [nodeIn, root, here, free (if_pos here)]
    · simp [nodeIn, root, here]
  · simp [nodeIn, root, lookup_insert]

-- A directory stays where only a directory takes the place of one.
theorem directory_insert (free : nodeIn entries place = some .directory → node = .directory)
    (there : nodeIn entries other = some .directory) :
    nodeIn (insert place node entries) other = some .directory := by
  rw [node_in_insert free]
  split
  · rename_i same
    rw [free (same ▸ there)]
  · exact there

end

variable {files : FileSystem} {place : Location} {node : Node}

def node? (files : FileSystem) (place : Location) : Option Node := nodeIn files.entries place

-- A node fits where it stands in a directory, and a directory gives way to none but a directory.
structure Fits (files : FileSystem) (place : Location) (node : Node) : Prop where
  above : files.node? place.tail = some .directory
  free : files.node? place = some .directory → node = .directory

def put (files : FileSystem) (place : Location) (node : Node) (fits : files.Fits place node) :
    FileSystem where
  entries := insert place node files.entries
  start := files.start
  rooted := by
    intro entry member
    rcases mem_insert member with rfl | before
    · exact directory_insert fits.free fits.above
    · exact directory_insert fits.free (files.rooted entry before)
  standing := directory_insert fits.free files.standing

theorem node?_put (fits : files.Fits place node) (other : Location) :
    (files.put place node fits).node? other
      = if place = other then some node else files.node? other :=
  node_in_insert fits.free other

theorem directory_of_node {name : Bytes} {parent : Location}
    (there : files.node? (name :: parent) = some node) :
    files.node? parent = some .directory := by
  rw [node?, nodeIn, if_neg (List.cons_ne_nil name parent)] at there
  exact files.rooted _ (mem_of_lookup there)

theorem fits_of_file {old : Bytes} (there : files.node? place = some (.file old)) (new : Bytes) :
    files.Fits place (.file new) := by
  refine ⟨?_, fun directory => ?_⟩
  · cases place with
    | nil => cases there
    | cons name parent => exact directory_of_node there
  · rw [there] at directory
    cases directory

def enter (place : Location) (segment : Bytes) : Location :=
  if Path.isIdle segment then place
  else if segment = Path.twoDots then place.tail
  else segment :: place

-- The place to which segments lead from a given one; each needs a directory to start from.
def walk (files : FileSystem) : Location → List Bytes → Except IoError Location
  | place, [] => .ok place
  | place, segment :: rest =>
    match files.node? place with
    | none => .error .notFound
    | some (.file _) => .error .notADirectory
    | some .directory => walk files (enter place segment) rest

def departure (files : FileSystem) (path : Path) : Except IoError (Location × List Bytes) :=
  if path.bytes.contains 0 then .error .invalidInput
  else
    match path.segments with
    | [] | [[]] => .error .notFound
    | [] :: rest => .ok ([], rest)
    | segments => .ok (files.start, segments)

def resolve (files : FileSystem) (path : Path) : Except IoError (Location × Node) := do
  let (place, segments) ← files.departure path
  let place ← files.walk place segments
  match files.node? place with
  | none => .error .notFound
  | some node => .ok (place, node)

def pathExists (files : FileSystem) (path : Path) : Bool :=
  match files.resolve path with
  | .ok _ => true
  | .error _ => false

def isDirectory (files : FileSystem) (path : Path) : Bool :=
  match files.resolve path with
  | .ok (_, .directory) => true
  | _ => false

end FileSystem
end Companion
