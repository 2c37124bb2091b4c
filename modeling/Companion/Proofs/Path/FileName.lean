import Companion.FileSystem.Operations
import Companion.Proofs.Text.Utf8

/-!
The names of files in paths. Main statements: `ends_of_file_name`, the file name of a path is the last of its
segments that leads anywhere, and `segments_with_file_name`, another file name takes its place.
-/
set_option autoImplicit false

namespace Companion.Text

theorem join_concat {α : Type} (separator : α) {front : List (List α)} (begun : front ≠ []) (last : List α) :
    joinSegments separator (front ++ [last]) = joinSegments separator front ++ separator :: last := by
  induction front with
  | nil => exact absurd rfl begun
  | cons piece rest ih =>
      cases rest with
      | nil => rfl
      | cons next others =>
          have behind := ih (List.cons_ne_nil next others)
          rw [List.cons_append] at behind
          rw [List.cons_append, List.cons_append, joinSegments, behind, joinSegments, List.append_assoc,
            List.cons_append]

variable {α : Type} [DecidableEq α] {separator : α}

theorem free_of_mem_segments {items piece : List α} (member : piece ∈ segments separator items) :
    separator ∉ piece := by
  induction items generalizing piece with
  | nil =>
      rw [List.mem_singleton.mp member]
      exact List.not_mem_nil
  | cons item rest ih =>
      by_cases same : item = separator
      · rw [segments, if_pos same] at member
        rcases List.mem_cons.mp member with rfl | among
        · exact List.not_mem_nil
        · exact ih among
      · rw [segments_cons_other same] at member
        cases pieces : segments separator rest with
        | nil => exact absurd pieces (segments_ne_nil separator rest)
        | cons first more =>
            rw [pieces, List.modifyHead_cons] at member
            rw [pieces] at ih
            rcases List.mem_cons.mp member with rfl | among
            · intro inside
              rcases List.mem_cons.mp inside with here | later
              · exact same here.symm
              · exact ih List.mem_cons_self later
            · exact ih (List.mem_cons_of_mem first among)

theorem segments_free {items : List α} (free : separator ∉ items) : segments separator items = [items] := by
  have joined := segments_append free []
  rw [List.append_nil] at joined
  rw [joined]
  simp [segments]

theorem segments_divided (front last : List α) :
    segments separator (front ++ separator :: last) = segments separator front ++ segments separator last := by
  induction front with
  | nil => simp [segments]
  | cons item rest ih =>
      rw [List.cons_append, segments]
      by_cases same : item = separator
      · rw [if_pos same, ih, segments, if_pos same, List.cons_append]
      · rw [segments_cons_other same]
        cases pieces : segments separator rest with
        | nil => exact absurd pieces (segments_ne_nil separator rest)
        | cons first more =>
            rw [if_neg same, ih, pieces]
            rfl

theorem segments_join {pieces : List (List α)} (begun : pieces ≠ []) (free : ∀ piece ∈ pieces, separator ∉ piece) :
    segments separator (joinSegments separator pieces) = pieces := by
  induction pieces with
  | nil => exact absurd rfl begun
  | cons piece rest ih =>
      cases rest with
      | nil => exact segments_free (free piece List.mem_cons_self)
      | cons next others =>
          have behind := ih (List.cons_ne_nil next others) fun other member =>
            free other (List.mem_cons_of_mem piece member)
          rw [joinSegments, segments_divided, behind, segments_free (free piece List.mem_cons_self),
            List.singleton_append]

end Companion.Text

namespace Companion.Path

open Text (segments_ne_nil joinSegments)
open FileSystem (isProper)

-- A name is the last segment of a path that leads anywhere.
def Ends (path : Path) (name : Bytes) : Prop :=
  ∃ front idle, path.segments = front ++ name :: idle ∧ (∀ segment ∈ idle, isIdle segment = true) ∧
    isProper name = true

-- A name with anything but dots in it leads to something.
theorem proper_of_mem {name : Bytes} {byte : UInt8} (member : byte ∈ name) (solid : byte ≠ dot) :
    isProper name = true := by
  have dots (count : Nat) : name ≠ List.replicate count dot := by
    intro same
    rw [same] at member
    exact solid (List.eq_of_mem_replicate member)
  have moves : isIdle name = false := by
    rw [isIdle, decide_eq_false_iff_not, not_or]
    exact ⟨dots 0, dots 1⟩
  rw [isProper, moves, Bool.not_false, Bool.true_and]
  exact decide_eq_true (dots 2)

theorem proper_of_step {segment name : Bytes} (step : step? segment = some (.name name)) :
    segment = name ∧ isProper name = true := by
  rw [step?] at step
  split at step
  · cases step
  · rename_i moves
    split at step
    · cases step
    · rename_i down
      cases step
      exact ⟨rfl, by simp [isProper, moves, down]⟩

theorem idle_of_no_step {segment : Bytes} (step : step? segment = none) : isIdle segment = true := by
  rw [step?] at step
  split at step
  · assumption
  · split at step <;> cases step

theorem ends_of_file_name {path : Path} {name : Bytes} (named : path.fileName? = some name) : Ends path name := by
  have last : path.components.getLast? = some (.name name) := by
    rw [fileName?] at named
    split at named
    · rename_i found
      cases named
      exact found
    · cases named
  rw [components] at last
  cases whole : path.segments with
  | nil => exact absurd whole (segments_ne_nil slash path.bytes)
  | cons first rest =>
      rw [whole] at last
      dsimp only at last
      cases behind : (rest.filterMap step?).getLast? with
      | some component =>
          rw [List.getLast?_append, behind, Option.some_or] at last
          rw [last, List.getLast?_filterMap] at behind
          obtain ⟨idle, segment, front, same, step, idles⟩ := List.findSome?_eq_some_iff.mp behind
          obtain ⟨rfl, proper⟩ := proper_of_step step
          refine ⟨first :: front.reverse, idle.reverse, ?_, ?_, proper⟩
          · rw [whole, ← List.reverse_reverse rest, same]
            simp
          · intro other member
            exact idle_of_no_step (idles other (List.mem_reverse.mp member))
      | none =>
          rw [List.getLast?_append, behind, Option.none_or] at last
          have idles : ∀ segment ∈ rest, isIdle segment = true := by
            intro segment member
            have empty := List.getLast?_eq_none_iff.mp behind
            exact idle_of_no_step (List.filterMap_eq_nil_iff.mp empty segment member)
          have begun : firstStep? first rest = some (.name name) := by
            cases step : firstStep? first rest with
            | none =>
                rw [step] at last
                cases last
            | some component =>
                rw [step] at last
                exact last
          rw [firstStep?] at begun
          split at begun
          · split at begun <;> cases begun
          · split at begun
            · cases begun
            · obtain ⟨rfl, proper⟩ := proper_of_step begun
              exact ⟨[], rest, whole, idles, proper⟩

theorem parent_of_file_name {path : Path} {name : Bytes} (named : path.fileName? = some name) :
    path.parent? = some (ofLeading (leading path.segments)) := by
  rw [fileName?] at named
  rw [parent?]
  split at named
  · rename_i found
    rw [found]
  · cases named

theorem mem_of_leading {path : Path} {segment : Bytes} (member : segment ∈ leading path.segments) :
    segment ∈ path.segments := by
  have begun : path.segments ≠ [] := segments_ne_nil slash path.bytes
  obtain ⟨tail, _, whole⟩ := leading_append begun
  rw [whole]
  exact List.mem_append_left tail member

-- Trimmed segments end with one that leads somewhere, unless there is only one.
theorem trimmed_end {names front : List Bytes} {last : Bytes} (trimmed : trimIdle names = front ++ [last])
    (more : front ≠ []) : isIdle last = false := by
  cases names with
  | nil =>
      rw [trimIdle] at trimmed
      exact absurd trimmed.symm (by simp)
  | cons first rest =>
      cases front with
      | nil => exact absurd rfl more
      | cons other others =>
          rw [trimIdle, List.cons_append] at trimmed
          have behind := (List.cons.inj trimmed).2
          have reversed := congrArg List.reverse behind
          rw [List.reverse_reverse, List.reverse_append, List.reverse_singleton, List.singleton_append] at reversed
          have head := List.head?_dropWhile_not isIdle rest.reverse
          rw [reversed] at head
          simpa using head

theorem segments_of_name {name : Bytes} (free : slash ∉ name) : (⟨name⟩ : Path).segments = [name] :=
  Text.segments_free free

theorem segments_join_name {path : Path} {name : Bytes} (free : slash ∉ name)
    (open_end : path.bytes ≠ [] ∧ path.bytes.getLast? ≠ some slash) :
    (path.join name).segments = path.segments ++ [name] := by
  rw [join, if_neg (by simpa using open_end), segments, segments, Text.segments_divided, Text.segments_free free]

-- Below segments of which the last one is not empty, a name is one more.
theorem segments_below {front : List Bytes} {last name : Bytes} (some_last : last ≠ [])
    (pieces : ∀ segment ∈ front ++ [last], slash ∉ segment) (free : slash ∉ name) :
    ((ofSegments (front ++ [last])).join name).segments = front ++ [last] ++ [name] := by
  have whole : (ofSegments (front ++ [last])).segments = front ++ [last] := Text.segments_join (by simp) pieces
  rw [segments_join_name free ?_, whole]
  obtain ⟨before, joined⟩ : ∃ before, joinSegments slash (front ++ [last]) = before ++ last := by
    by_cases begun : front = []
    · exact ⟨[], by rw [begun]; rfl⟩
    · refine ⟨joinSegments slash front ++ [slash], ?_⟩
      rw [Text.join_concat slash begun, List.append_assoc, List.singleton_append]
  rw [ofSegments, joined]
  refine ⟨by simp [some_last], ?_⟩
  intro slashed
  have ends : (before ++ last).getLast? = last.getLast? := by
    cases tail : last.getLast? with
    | none => exact absurd (List.getLast?_eq_none_iff.mp tail) some_last
    | some byte => rw [List.getLast?_append, tail, Option.some_or]
  exact pieces last (by simp) (List.mem_of_getLast? (ends.symm.trans slashed))

theorem segments_with_file_name {path : Path} {old name : Bytes} (named : path.fileName? = some old)
    (free : slash ∉ name) : (path.withFileName name).segments = leading path.segments ++ [name] := by
  have pieces : ∀ segment ∈ leading path.segments, slash ∉ segment :=
    fun segment member => Text.free_of_mem_segments (mem_of_leading member)
  have trimmed {front : List Bytes} {last : Bytes} (same : leading path.segments = front ++ [last])
      (more : front ≠ []) : isIdle last = false := trimmed_end same more
  rw [withFileName, named]
  dsimp only
  rw [parent_of_file_name named, Option.getD_some]
  generalize leading path.segments = names at pieces trimmed
  rcases List.eq_nil_or_concat names with rfl | ⟨front, last, rfl⟩
  · exact segments_of_name free
  · rw [List.concat_eq_append] at pieces trimmed ⊢
    by_cases root : front = [] ∧ last = []
    · obtain ⟨rfl, rfl⟩ := root
      have divided : Text.segments slash ([] ++ slash :: name) = [[]] ++ Text.segments slash name :=
        Text.segments_divided [] name
      rw [Text.segments_free free] at divided
      exact divided
    · have some_last : last ≠ [] := by
        intro empty
        have more : front ≠ [] := fun alone => root ⟨alone, empty⟩
        have moving := trimmed rfl more
        rw [empty] at moving
        cases moving
      have spelled : ofLeading (front ++ [last]) = ofSegments (front ++ [last]) := by
        rw [ofLeading]
        intro alone
        rcases List.append_eq_singleton_iff.mp alone with ⟨_, single⟩ | ⟨_, single⟩
        · exact some_last (List.cons.inj single).1
        · cases single
      rw [spelled]
      exact segments_below some_last pieces free

/-! ## Stems -/

theorem stem_extended {front extension : Bytes} (begun : front ≠ []) (free : dot ∉ extension) :
    stemOf (front ++ dot :: extension) = front := by
  have joined := Text.joinSegments_segments dot front
  rw [stemOf, Text.segments_divided, Text.segments_free free, List.dropLast_concat]
  split
  · rename_i none
    exact absurd none (segments_ne_nil dot front)
  · rename_i alone
    rw [alone] at joined
    exact absurd joined.symm begun
  · exact joined

theorem mem_of_stem {name : Bytes} {byte : UInt8} (member : byte ∈ stemOf name) : byte ∈ name := by
  rw [stemOf] at member
  split at member
  · exact member
  · exact member
  · rename_i pieces more _
    have begun : (Text.segments dot name).dropLast ≠ [] := more
    obtain ⟨front, last, whole⟩ : ∃ front last, Text.segments dot name = front ++ [last] :=
      ⟨_, _, (List.dropLast_concat_getLast (segments_ne_nil dot name)).symm⟩
    have joined := Text.joinSegments_segments dot name
    rw [whole, List.dropLast_concat] at member begun
    rw [whole, Text.join_concat dot begun] at joined
    rw [← joined]
    exact List.mem_append_left _ member

end Companion.Path

theorem Companion.Utf8.encode_of_decode {bytes : Bytes} {text : String} (read : decode? bytes = some text) :
    encode text = bytes := by
  unfold decode? String.fromUTF8? at read
  split at read
  · cases read
    rfl
  · cases read
