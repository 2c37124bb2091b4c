/-!
Lists cut at a separator, and put together again. Main statement: joining the pieces gives back
the list that was cut.
-/
set_option autoImplicit false

namespace Companion.Text

variable {α : Type} [DecidableEq α]

-- The pieces between the separators; always one more than there are separators.
def segments (separator : α) : List α → List (List α)
  | [] => [[]]
  | item :: rest =>
    if item = separator then [] :: segments separator rest
    else
      match segments separator rest with
      | [] => [[item]]
      | piece :: pieces => (item :: piece) :: pieces

def joinSegments (separator : α) : List (List α) → List α
  | [] => []
  | [piece] => piece
  | piece :: next :: pieces => piece ++ separator :: joinSegments separator (next :: pieces)

theorem segments_ne_nil (separator : α) (items : List α) : segments separator items ≠ [] := by
  cases items with
  | nil => simp [segments]
  | cons item rest =>
    unfold segments
    split
    · simp
    · split <;> simp

theorem joinSegments_segments (separator : α) (items : List α) :
    joinSegments separator (segments separator items) = items := by
  induction items with
  | nil => rfl
  | cons item rest ih =>
    unfold segments
    cases pieces : segments separator rest with
    | nil => exact absurd pieces (segments_ne_nil separator rest)
    | cons piece more =>
      rw [pieces] at ih
      by_cases same : item = separator
      · rw [if_pos same]
        simp [joinSegments, ih, same]
      · rw [if_neg same]
        cases more with
        | nil => simpa [joinSegments] using ih
        | cons next others => simpa [joinSegments] using ih

def splitText (separator : Char) (text : String) : List String :=
  (segments separator text.toList).map String.ofList

end Companion.Text
