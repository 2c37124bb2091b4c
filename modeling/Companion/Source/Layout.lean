import Companion.Code.Class

/-!
Layout of source text: a list of steps says which lines come at which level. Main statement: the
text of two layouts, one after the other, is that of the first followed by that of the second.
-/
set_option autoImplicit false

namespace Companion.Source

inductive Step
  | line (text : String)
  | blank
  | indent
  | dedent
deriving DecidableEq

abbrev Layout := List Step

namespace Layout

def margin (unit : String) : Nat → String
  | 0 => ""
  | level + 1 => unit ++ margin unit level

-- A line at a level; an empty one stays empty.
def lineAt (unit : String) (level : Nat) (text : String) : String :=
  if text.isEmpty then "\n" else margin unit level ++ text ++ "\n"

-- The level after the steps; below the outermost level there is none.
def levelAfter (level : Nat) : Layout → Nat
  | [] => level
  | .line _ :: rest => levelAfter level rest
  | .blank :: rest => levelAfter level rest
  | .indent :: rest => levelAfter (level + 1) rest
  | .dedent :: rest => levelAfter (level - 1) rest

def text (unit : String) (level : Nat) : Layout → String
  | [] => ""
  | .line line :: rest => lineAt unit level line ++ text unit level rest
  | .blank :: rest => "\n" ++ text unit level rest
  | .indent :: rest => text unit (level + 1) rest
  | .dedent :: rest => text unit (level - 1) rest

theorem text_append (unit : String) (level : Nat) (first second : Layout) :
    text unit level (first ++ second)
      = text unit level first ++ text unit (levelAfter level first) second := by
  induction first generalizing level with
  | nil => simp [text, levelAfter]
  | cons step rest ih => cases step <;> simp [text, levelAfter, ih, String.append_assoc]

def nested (body : Layout) : Layout := .indent :: body ++ [.dedent]

def spaced (layouts : List Layout) : Layout := [Step.blank].intercalate layouts

end Layout

structure RegionMarks where
  opening : String → String
  closing : String

def regionLayout (marks : Option RegionMarks) (member : Code.Member → Layout)
    (region : Code.Region) : Layout :=
  let members := Layout.spaced (region.members.map member)
  match marks with
  | none => members
  | some marks =>
    [.line (marks.opening region.label), .blank] ++ members ++ [.blank, .line marks.closing]

def regionsLayout (marks : Option RegionMarks) (member : Code.Member → Layout)
    (regions : List Code.Region) : Layout :=
  Layout.spaced (regions.map (regionLayout marks member))

end Companion.Source
