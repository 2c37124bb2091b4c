import Companion.Path

/-!
The way up from a path. Main statement: a parent is shorter than its path, so the way up ends.
-/
set_option autoImplicit false

namespace Companion.Path

open Text (joinSegments joinSegments_segments segments_ne_nil)

theorem length_joinSegments_lt {α : Type} (separator : α) {front back : List (List α)}
    (begun : front ≠ []) (more : back ≠ []) :
    (joinSegments separator front).length < (joinSegments separator (front ++ back)).length := by
  induction front with
  | nil => exact absurd rfl begun
  | cons piece rest ih =>
    cases rest with
    | nil =>
      cases back with
      | nil => exact absurd rfl more
      | cons next others => simp [joinSegments]
    | cons next others =>
      have shorter := ih (by simp)
      simp [joinSegments] at shorter ⊢
      omega

theorem trimIdle_prefix (names : List Bytes) : trimIdle names <+: names := by
  cases names with
  | nil => exact List.prefix_rfl
  | cons first rest =>
    refine (List.cons_prefix_cons).2 ⟨rfl, ?_⟩
    have suffix := List.dropWhile_suffix isIdle (l := rest.reverse)
    simpa using List.reverse_prefix.2 suffix

theorem trimIdle_ne_nil {names : List Bytes} (begun : names ≠ []) : trimIdle names ≠ [] := by
  cases names with
  | nil => exact absurd rfl begun
  | cons first rest => simp [trimIdle]

theorem leading_append {names : List Bytes} (begun : names ≠ []) :
    ∃ tail, tail ≠ [] ∧ names = leading names ++ tail := by
  obtain ⟨idle, trimmed⟩ := trimIdle_prefix names
  obtain ⟨more, front⟩ := trimIdle_prefix (trimIdle names).dropLast
  have last := List.dropLast_concat_getLast (trimIdle_ne_nil begun)
  refine ⟨more ++ [(trimIdle names).getLast (trimIdle_ne_nil begun)] ++ idle, by simp, ?_⟩
  rw [leading, ← List.append_assoc, ← List.append_assoc, front, last, trimmed]

theorem bytes_eq (path : Path) : path.bytes = joinSegments slash path.segments :=
  (joinSegments_segments slash path.bytes).symm

-- A path made of slashes alone has no parent.
theorem components_root {path : Path} (empty : path.segments = [[], []]) :
    path.components = [.root] := by
  simp [components, empty, firstStep?, step?, isIdle]

theorem components_empty {path : Path} (empty : path.segments = [[]]) :
    path.components = [] := by
  simp [components, empty, firstStep?]

theorem eq_of_parent? {path parent : Path} (found : path.parent? = some parent) :
    parent = ofLeading (leading path.segments) := by
  unfold parent? at found
  split at found
  · simp at found
  · simp at found
  · exact (Option.some.inj found).symm

theorem length_parent?_lt {path parent : Path} (found : path.parent? = some parent) :
    parent.bytes.length < path.bytes.length := by
  have begun : path.segments ≠ [] := segments_ne_nil slash path.bytes
  obtain ⟨tail, more, split⟩ := leading_append begun
  have joined := path.bytes_eq
  rw [split] at joined
  rw [eq_of_parent? found]
  unfold ofLeading
  split
  · rename_i front
    rw [front] at joined split
    cases tail with
    | nil => exact absurd rfl more
    | cons next others =>
      cases rest : joinSegments slash (next :: others) with
      | cons byte bytes => simp [joined, joinSegments, rest]
      | nil =>
        cases others with
        | cons third others =>  simp [joinSegments] at rest
        | nil =>
          have empty : next = [] := by simpa [joinSegments] using rest
          subst empty
          simp [parent?, components_root split] at found
  · by_cases front : leading path.segments = []
    · rw [front]
      cases empty : path.bytes with
      | cons byte bytes => simp [ofSegments, joinSegments]
      | nil =>
        have alone : path.segments = [[]] := by simp [segments, empty, Text.segments]
        simp [parent?, components_empty alone] at found
    · rw [joined]
      exact length_joinSegments_lt slash front more

end Companion.Path
