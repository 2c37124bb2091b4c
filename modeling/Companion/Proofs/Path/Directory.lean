import Companion.Execution.Framework
import Companion.Proofs.Text.Utf8

/-!
The directory of a file by its path. Main statements: the way up from a path that is text leads
through paths that are text, so the directory that the class library names is the path above.
-/
set_option autoImplicit false

namespace Companion.Path

open Utf8 (spelled)

-- The first path lies on the way up from the second one.
inductive Above : Path → Path → Prop
  | parent {path above : Path} (up : path.parent? = some above) : Above above path
  | beyond {path next above : Path} (up : path.parent? = some next) (further : Above above next) :
      Above above path

-- The path itself, or one on the way up from it.
def UpFrom (path above : Path) : Prop := above = path ∨ Above above path

theorem above_of_up_from {path next above : Path} (up : path.parent? = some next)
    (from_next : UpFrom next above) : Above above path := by
  rcases from_next with rfl | further
  · exact .parent up
  · exact .beyond up further

theorem up_from_parent {path next above : Path} (up : path.parent? = some next)
    (from_next : UpFrom next above) : UpFrom path above := .inr (above_of_up_from up from_next)

-- The path above; a dot if there is none or if it is empty.
def directory (path : Path) : Path :=
  match path.parent? with
  | some above => if above.bytes = [] then ⟨[dot]⟩ else above
  | none => ⟨[dot]⟩

@[simp] theorem display_of_string (text : String) : (ofString text).display = text :=
  Utf8.decode_replacing_encode text

theorem segments_of_string (text : String) :
    (ofString text).segments = (Text.segments '/' text.toList).map spelled := by
  rw [segments, ofString, Utf8.encode_eq]
  exact Utf8.segments_spelled '/' (by decide) text.toList

theorem of_leading_spelled (names : List (List Char)) :
    ∃ text, ofLeading (names.map spelled) = ofString text := by
  unfold ofLeading
  split
  · exact ⟨"/", rfl⟩
  · refine ⟨String.ofList (Text.joinSegments '/' names), ?_⟩
    rw [ofSegments, ofString, Utf8.encode_of_list]
    exact congrArg Path.mk (Utf8.join_spelled '/' (by decide) names)

-- Cutting the end off a text at a slash leaves a text.
theorem text_of_parent {text : String} {above : Path} (up : (ofString text).parent? = some above) :
    ∃ shorter, above = ofString shorter := by
  have begun : (ofString text).segments ≠ [] := Text.segments_ne_nil slash _
  obtain ⟨tail, _, split⟩ := leading_append begun
  rw [segments_of_string] at split
  obtain ⟨front, back, _, names, _⟩ := List.map_eq_append_iff.mp split
  obtain ⟨shorter, joined⟩ := of_leading_spelled front
  refine ⟨shorter, ?_⟩
  rw [eq_of_parent? up, segments_of_string, ← names, joined]

theorem directory_of_string (path : String) :
    ofString (Framework.directoryName (ofString path)) = (ofString path).directory := by
  have current : ofString "." = ⟨[dot]⟩ := rfl
  unfold Framework.directoryName directory
  cases up : (ofString path).parent? with
  | none => exact current
  | some above =>
      obtain ⟨shorter, rfl⟩ := text_of_parent up
      by_cases empty : (ofString shorter).bytes = []
      · simp [empty, current]
      · simp [empty]

end Companion.Path
