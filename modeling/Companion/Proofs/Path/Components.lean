import Mathlib.Data.List.DropRight
import Companion.Proofs.Path.FileName

/-!
Paths component by component. Main statements: `components_of_file_name`, a path that has a file name is the path
above and, behind it, that name; and `parent_with_file_name`, another file name stands below the same path.
-/
set_option autoImplicit false

namespace Companion.Path

open FileSystem (isProper)

theorem step_of_idle {segment : Bytes} (idle : isIdle segment = true) : step? segment = none := by
  rw [step?, if_pos idle]

theorem moves_of_proper {name : Bytes} (proper : isProper name = true) :
    isIdle name = false ∧ name ≠ twoDots := by
  simpa [isProper] using proper

theorem step_of_proper {name : Bytes} (proper : isProper name = true) : step? name = some (.name name) := by
  obtain ⟨moves, down⟩ := moves_of_proper proper
  rw [step?, moves, if_neg Bool.false_ne_true, if_neg down]

theorem first_step_of_proper {name : Bytes} (proper : isProper name = true) (rest : List Bytes) :
    firstStep? name rest = some (.name name) := by
  have moves := (moves_of_proper proper).1
  rw [isIdle, decide_eq_false_iff_not, not_or] at moves
  rw [firstStep?, if_neg moves.1, if_neg moves.2, step_of_proper proper]

-- What follows the first segment counts only if that is empty.
theorem first_step_same {first : Bytes} {rest others : List Bytes}
    (same : first = [] → (rest = [] ↔ others = [])) : firstStep? first rest = firstStep? first others := by
  rw [firstStep?, firstStep?]
  by_cases empty : first = []
  · rw [if_pos empty, if_pos empty]
    simp only [same empty]
  · rw [if_neg empty, if_neg empty]

theorem components_of_segments {path : Path} {first : Bytes} {rest : List Bytes}
    (whole : path.segments = first :: rest) :
    path.components = (firstStep? first rest).toList ++ rest.filterMap step? := by
  rw [components, whole]

/-! ## Idle segments at the end -/

theorem trim_cons (first : Bytes) (rest : List Bytes) :
    trimIdle (first :: rest) = first :: rest.rdropWhile isIdle := rfl

theorem steps_of_idle {idle : List Bytes} (idles : ∀ segment ∈ idle, isIdle segment = true) :
    idle.filterMap step? = [] :=
  List.filterMap_eq_nil_iff.mpr fun segment member => step_of_idle (idles segment member)

theorem trimmed_steps (names : List Bytes) : (names.rdropWhile isIdle).filterMap step? = names.filterMap step? := by
  have idles : (names.rtakeWhile isIdle).filterMap step? = [] :=
    steps_of_idle fun segment member => List.mem_rtakeWhile_imp member
  have whole : names.rdropWhile isIdle ++ names.rtakeWhile isIdle = names := List.rdropWhile_append_rtakeWhile
  have split := congrArg (List.filterMap step?) whole
  rwa [List.filterMap_append, idles, List.append_nil] at split

theorem trimmed_behind (front : List Bytes) {idle : List Bytes} {name : Bytes}
    (idles : ∀ segment ∈ idle, isIdle segment = true) (moves : isIdle name = false) :
    (front ++ name :: idle).rdropWhile isIdle = front ++ [name] := by
  induction idle using List.reverseRecOn with
  | nil => exact List.rdropWhile_concat_neg isIdle front name (by simp [moves])
  | append_singleton others last ih =>
      rw [List.forall_mem_append, List.forall_mem_singleton] at idles
      rw [← List.cons_append, ← List.append_assoc, List.rdropWhile_concat_pos _ _ _ idles.2, ih idles.1]

theorem trim_behind {front idle : List Bytes} {name : Bytes} (idles : ∀ segment ∈ idle, isIdle segment = true)
    (moves : isIdle name = false) : trimIdle (front ++ name :: idle) = front ++ [name] := by
  cases front with
  | nil => rw [List.nil_append, trim_cons, List.rdropWhile_eq_nil_iff.mpr idles, List.nil_append]
  | cons first rest => rw [List.cons_append, trim_cons, trimmed_behind rest idles moves, List.cons_append]

theorem trim_trimmed (names : List Bytes) : trimIdle (trimIdle names) = trimIdle names := by
  cases names with
  | nil => rfl
  | cons first rest => rw [trim_cons, trim_cons, List.rdropWhile_idempotent]

theorem leading_behind {front idle : List Bytes} {name : Bytes} (idles : ∀ segment ∈ idle, isIdle segment = true)
    (moves : isIdle name = false) : leading (front ++ name :: idle) = trimIdle front := by
  rw [leading, trim_behind idles moves, List.dropLast_concat]

/-! ## The path above -/

theorem free_of_segments {path : Path} {front back : List Bytes} (whole : path.segments = front ++ back) :
    ∀ segment ∈ front, slash ∉ segment := by
  intro segment member
  have among : segment ∈ path.segments := by
    rw [whole]
    exact List.mem_append_left back member
  exact Text.free_of_mem_segments among

-- Leading segments spell a path of just these segments, unless only the root is left of them.
theorem segments_of_leading {first : Bytes} {rest : List Bytes} (free : ∀ segment ∈ first :: rest, slash ∉ segment)
    (below : ¬(first = [] ∧ rest.rdropWhile isIdle = [])) :
    (ofLeading (trimIdle (first :: rest))).segments = first :: rest.rdropWhile isIdle := by
  have spelled : ofLeading (first :: rest.rdropWhile isIdle) = ofSegments (first :: rest.rdropWhile isIdle) := by
    rw [ofLeading]
    intro alone
    exact below (List.cons.inj alone)
  have inside : ∀ segment ∈ first :: rest.rdropWhile isIdle, slash ∉ segment := by
    intro segment member
    rcases List.mem_cons.mp member with rfl | among
    · exact free segment List.mem_cons_self
    · exact free segment (List.mem_cons_of_mem first ((List.rdropWhile_prefix isIdle rest).subset among))
  rw [trim_cons, spelled]
  exact Text.segments_join (List.cons_ne_nil _ _) inside

theorem components_of_leading {first : Bytes} {rest : List Bytes} (free : ∀ segment ∈ first :: rest, slash ∉ segment)
    {more : List Bytes} (behind : more ≠ []) :
    (ofLeading (trimIdle (first :: rest))).components =
      (firstStep? first (rest ++ more)).toList ++ rest.filterMap step? := by
  have below : rest ++ more ≠ [] := List.append_ne_nil_of_right_ne_nil rest behind
  have steps := trimmed_steps rest
  by_cases root : first = [] ∧ rest.rdropWhile isIdle = []
  · -- Only the root is left: one empty segment, which is spelled as a slash.
    obtain ⟨rfl, nothing⟩ := root
    rw [nothing] at steps
    rw [trim_cons, nothing, ← steps, firstStep?, if_pos rfl, if_neg below]
    exact components_root rfl
  · -- An empty first segment has others behind it in both, so it is a root in both.
    have begun : firstStep? first (rest.rdropWhile isIdle) = firstStep? first (rest ++ more) := by
      refine first_step_same fun empty => ?_
      exact ⟨fun nothing => absurd ⟨empty, nothing⟩ root, fun nothing => absurd nothing below⟩
    rw [components_of_segments (segments_of_leading free root), begun, steps]

theorem components_of_ends {path : Path} {name : Bytes} (ends : Ends path name) :
    path.components = (ofLeading (leading path.segments)).components ++ [.name name] := by
  obtain ⟨front, idle, whole, idles, proper⟩ := ends
  have free : ∀ segment ∈ front, slash ∉ segment := free_of_segments whole
  rw [whole, leading_behind idles (moves_of_proper proper).1]
  cases front with
  | nil =>
      rw [components_of_segments whole, first_step_of_proper proper, steps_of_idle idles]
      rfl
  | cons first rest =>
      rw [List.cons_append] at whole
      rw [components_of_segments whole, components_of_leading free (List.cons_ne_nil name idle),
        List.filterMap_append, List.filterMap_cons, step_of_proper proper, steps_of_idle idles, List.append_assoc]

theorem components_of_file_name {path : Path} {name : Bytes} (named : path.fileName? = some name) :
    ∃ parent, path.parent? = some parent ∧ path.components = parent.components ++ [.name name] :=
  ⟨_, parent_of_file_name named, components_of_ends (ends_of_file_name named)⟩

theorem file_name_of_ends {path : Path} {name : Bytes} (ends : Ends path name) : path.fileName? = some name := by
  rw [fileName?, components_of_ends ends, List.getLast?_concat]

/-! ## Another file name -/

theorem parent_with_file_name {path : Path} {old name : Bytes} (named : path.fileName? = some old)
    (free : slash ∉ name) (proper : isProper name = true) :
    (path.withFileName name).fileName? = some name ∧ (path.withFileName name).parent? = path.parent? := by
  have whole := segments_with_file_name named free
  have given : (path.withFileName name).fileName? = some name :=
    file_name_of_ends ⟨leading path.segments, [], whole, by simp, proper⟩
  have above : leading (path.withFileName name).segments = leading path.segments := by
    rw [whole, leading_behind (by simp) (moves_of_proper proper).1, leading, trim_trimmed]
  exact ⟨given, by rw [parent_of_file_name given, parent_of_file_name named, above]⟩

end Companion.Path
