import Companion.Text.Segments
import Companion.Text.Utf8

/-!
Paths of files: a text of names between slashes, read in two ways. As components it says how to
walk to a file; as text it is what is shown, cut and extended.
-/
set_option autoImplicit false

namespace Companion

-- The spelling of a path; it need not be text.
structure Path where
  bytes : Bytes
deriving DecidableEq, Inhabited

namespace Path

def slash : UInt8 := 47

def dot : UInt8 := 46

def ofString (text : String) : Path := ⟨Utf8.encode text⟩

def display (path : Path) : String := Utf8.decodeReplacing path.bytes

def segments (path : Path) : List Bytes := Text.segments slash path.bytes

def ofSegments (names : List Bytes) : Path := ⟨Text.joinSegments slash names⟩

inductive Component
  | root
  | current
  | parent
  | name (bytes : Bytes)
deriving DecidableEq

def twoDots : Bytes := [dot, dot]

-- A segment that leads nowhere: nothing, or a single dot.
def isIdle (segment : Bytes) : Bool := segment = [] ∨ segment = [dot]

def step? (segment : Bytes) : Option Component :=
  if isIdle segment then none
  else if segment = twoDots then some .parent
  else some (.name segment)

-- The first segment also tells apart paths from the root and paths that begin with a dot.
def firstStep? (first : Bytes) (rest : List Bytes) : Option Component :=
  if first = [] then (if rest = [] then none else some .root)
  else if first = [dot] then some .current
  else step? first

-- The steps of a path; segments that lead nowhere count only in front.
def components (path : Path) : List Component :=
  match path.segments with
  | [] => []
  | first :: rest => (firstStep? first rest).toList ++ rest.filterMap step?

def fileName? (path : Path) : Option Bytes :=
  match path.components.getLast? with
  | some (.name bytes) => some bytes
  | _ => none

-- A name up to its last dot; the whole name if that dot comes first or there is none.
def stemOf (name : Bytes) : Bytes :=
  match (Text.segments dot name).dropLast with
  | [] | [[]] => name
  | before => Text.joinSegments dot before

def fileStem? (path : Path) : Option Bytes := path.fileName?.map stemOf

-- The segments without the idle ones at the end; the first one stays.
def trimIdle : List Bytes → List Bytes
  | [] => []
  | first :: rest => first :: (rest.reverse.dropWhile isIdle).reverse

def leading (names : List Bytes) : List Bytes := trimIdle (trimIdle names).dropLast

-- The path of the given leading segments of another path: a lone empty one is the root.
def ofLeading : List Bytes → Path
  | [[]] => ⟨[slash]⟩
  | names => ofSegments names

def parent? (path : Path) : Option Path :=
  match path.components.getLast? with
  | none | some .root => none
  | some _ => some (ofLeading (leading path.segments))

-- A name put below a path, with one slash between them unless the path is empty or has it.
def join (path : Path) (name : Bytes) : Path :=
  if path.bytes = [] ∨ path.bytes.getLast? = some slash then ⟨path.bytes ++ name⟩
  else ⟨path.bytes ++ slash :: name⟩

def withFileName (path : Path) (name : Bytes) : Path :=
  match path.fileName? with
  | some _ => (path.parent?.getD ⟨[]⟩).join name
  | none => path.join name

end Path
end Companion
