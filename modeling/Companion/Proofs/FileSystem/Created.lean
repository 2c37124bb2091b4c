import Companion.Proofs.FileSystem.Kept

/-!
Files that were created. Main statements: what is written into a new file is found under its path,
and two paths made of names alone never lead to one place.
-/
set_option autoImplicit false

namespace Companion.FileSystem

variable {files after : FileSystem} {path : Path}

-- What it says of a path that a new file can be made there.
structure Makes (files : FileSystem) (path : Path) (parent : Location) (name : Bytes) : Prop where
  led : ∃ start front, files.departure path = .ok (start, front ++ [name]) ∧
    files.walk start front = .ok parent
  directory : files.node? parent = some .directory
  proper : isProper name = true

-- The segments of a path up to those that are empty at its end, of which slashes leave many.
theorem segments_trimmed (segments : List Bytes) :
    ∃ idle, segments = (segments.reverse.dropWhile List.isEmpty).reverse ++ idle ∧
      ∀ segment ∈ idle, segment = [] := by
  refine ⟨(segments.reverse.takeWhile List.isEmpty).reverse, ?_, ?_⟩
  · rw [← List.reverse_append, List.takeWhile_append_dropWhile, List.reverse_reverse]
  · intro segment member
    have empty := List.all_eq_true.mp List.all_takeWhile segment (List.mem_reverse.mp member)
    exact List.isEmpty_iff.mp empty

theorem led_of_target {parent : Location} {name : Bytes} {slash : Bool}
    {above : files.node? parent = some .directory} (found : files.target path = .ok (.name parent above name slash)) :
    ∃ start front idle, files.departure path = .ok (start, front ++ name :: idle) ∧
      (∀ segment ∈ idle, segment = []) ∧ files.walk start front = .ok parent ∧
      isProper name = true ∧ (slash = false → idle = []) := by
  obtain ⟨⟨start, segments⟩, departed, rest⟩ := ok_of_bind found
  obtain ⟨idle, whole, empty⟩ := segments_trimmed segments
  dsimp only at rest
  generalize (segments.reverse.dropWhile List.isEmpty).reverse = kept at rest whole
  subst whole
  split at rest
  · cases rest
  · rename_i last isLast
    obtain ⟨front, rfl⟩ := List.getLast?_eq_some_iff.mp isLast
    rw [List.dropLast_concat] at rest
    obtain ⟨place, walked, named⟩ := ok_of_bind rest
    split at named
    · by_cases proper : isProper last = true
      · rw [if_pos proper] at named
        obtain ⟨rfl, rfl, slashed⟩ := Target.name.inj (Except.ok.inj named)
        rw [List.append_assoc] at departed
        refine ⟨start, front, idle, departed, empty, walked, proper, ?_⟩
        rintro rfl
        have whole := of_decide_eq_false slashed
        simp only [List.length_append] at whole
        exact List.eq_nil_of_length_eq_zero (by omega)
      · rw [if_neg proper] at named
        cases named
    · cases named

theorem makes_of_target {parent : Location} {name : Bytes} {above : files.node? parent = some .directory}
    (found : files.target path = .ok (.name parent above name false)) : Makes files path parent name := by
  obtain ⟨start, front, idle, departed, _, walked, proper, whole⟩ := led_of_target found
  rw [whole rfl] at departed
  exact ⟨⟨start, front, departed, walked⟩, above, proper⟩

theorem makes_of_create {place : Location} (made : files.createFile path = .ok (after, place)) :
    ∃ parent name, Makes files path parent name ∧ place = name :: parent ∧
      ∃ fits, after = files.put place (.file []) fits := by
  obtain ⟨target, found, rest⟩ := ok_of_bind made
  split at rest
  · cases rest
  · cases rest
  · rename_i parent above name
    split at rest
    · cases rest
    · cases rest
      exact ⟨parent, name, makes_of_target found, rfl, _, rfl⟩

theorem kept_but_create {place : Location} (made : files.createFile path = .ok (after, place)) :
    KeptBut place files after := by
  obtain ⟨_, _, _, rfl, fits, rfl⟩ := makes_of_create made
  exact kept_but_put fits

theorem walk_append (files : FileSystem) (place : Location) (front back : List Bytes) :
    files.walk place (front ++ back) = files.walk place front >>= fun parent =>
      files.walk parent back := by
  induction front generalizing place with
  | nil => rfl
  | cons segment rest ih =>
      rw [List.cons_append, walk, walk]
      split
      · rfl
      · rfl
      · exact ih _

theorem enter_proper {segment : Bytes} (proper : isProper segment = true) (place : Location) :
    enter place segment = segment :: place := by
  simp only [isProper, Bool.and_eq_true, Bool.not_eq_true', decide_eq_true_eq] at proper
  simp [enter, proper.1, proper.2]

theorem walk_makes {parent : Location} {name : Bytes} (makes : Makes files path parent name)
    (kept : KeptBut (name :: parent) files after) :
    ∃ start segments, after.departure path = .ok (start, segments) ∧
      after.walk start segments = .ok (name :: parent) := by
  obtain ⟨start, front, departed, walked⟩ := makes.led
  refine ⟨start, front ++ [name], ?_, ?_⟩
  · rw [departure_of_start kept.start, departed]
  · rw [walk_append, walk_kept kept front walked]
    simp [bind, Except.bind, walk, kept.directory parent makes.directory, enter_proper makes.proper]

theorem overwrite_empty (bytes : Bytes) : overwrite [] 0 bytes = bytes := by
  cases bytes with
  | nil => rfl
  | cons byte rest => simp [overwrite]

-- What a file that was created holds is what is then written into it, and no other node changes.
theorem node?_written {place : Location} (made : files.createFile path = .ok (after, place))
    (bytes : Bytes) (other : Location) : (after.writeAt place 0 bytes).node? other =
      if place = other then some (.file bytes) else files.node? other := by
  obtain ⟨_, _, _, _, fits, rfl⟩ := makes_of_create made
  have emptied : (files.put place (.file []) fits).node? place = some (.file []) := by
    rw [node?_put, if_pos rfl]
  rw [writeAt, node?_modify emptied, overwrite_empty]
  split
  · rfl
  · rename_i apart
    rw [node?_put, if_neg apart]

-- A file that was created is found under its path, with what was then written into it.
theorem resolve_written {place : Location} (made : files.createFile path = .ok (after, place))
    (bytes : Bytes) : (after.writeAt place 0 bytes).resolve path = .ok (place, .file bytes) := by
  have kept := (kept_but_create made).trans (kept_but_write after place 0 bytes)
  have held := (node?_written made bytes place).trans (if_pos rfl)
  obtain ⟨parent, name, makes, rfl, _⟩ := makes_of_create made
  obtain ⟨start, segments, departed, walked⟩ := walk_makes makes kept
  exact resolve_eq_ok.mpr ⟨start, segments, departed, walked, held⟩

-- Paths that lead down from the start by names alone.
def Plain (path : Path) : Prop := ∀ segment ∈ path.segments, isProper segment = true

theorem walk_proper {segments : List Bytes} (proper : ∀ segment ∈ segments, isProper segment = true)
    {place target : Location} (walked : files.walk place segments = .ok target) :
    target = segments.reverse ++ place := by
  induction segments generalizing place with
  | nil =>
      cases walked
      rfl
  | cons segment rest ih =>
      rw [walk] at walked
      split at walked
      · cases walked
      · cases walked
      · rw [enter_proper (proper segment (List.mem_cons_self))] at walked
        have behind := ih (fun other member => proper other (List.mem_cons_of_mem segment member)) walked
        rw [behind, List.reverse_cons, List.append_assoc]
        rfl

theorem departure_plain (plain : Plain path) {start : Location} {segments : List Bytes}
    (departed : files.departure path = .ok (start, segments)) :
    start = files.start ∧ segments = path.segments := by
  rw [departure] at departed
  split at departed
  · cases departed
  · split at departed
    · cases departed
    · cases departed
    · rename_i rest _ same
      have idle := plain [] (by rw [same]; exact List.mem_cons_self)
      cases idle
    · cases departed
      exact ⟨rfl, rfl⟩

theorem create_plain (plain : Plain path) {place : Location}
    (made : files.createFile path = .ok (after, place)) : place = path.segments.reverse ++ files.start := by
  obtain ⟨parent, name, makes, rfl, _⟩ := makes_of_create made
  obtain ⟨start, front, departed, walked⟩ := makes.led
  obtain ⟨rfl, same⟩ := departure_plain plain departed
  have proper : ∀ segment ∈ front, isProper segment = true := by
    intro segment member
    exact plain segment (by rw [← same]; exact List.mem_append_left [name] member)
  rw [walk_proper proper walked, ← same, List.reverse_append]
  rfl

theorem segments_injective {first second : Path} (same : first.segments = second.segments) :
    first = second := by
  have bytes : first.bytes = second.bytes := by
    rw [first.bytes_eq, second.bytes_eq, same]
  cases first
  cases second
  cases bytes
  rfl

-- From one start, different paths made of names lead to different places.
theorem places_apart {first second : Path} (different : first ≠ second) (start : Location) :
    first.segments.reverse ++ start ≠ second.segments.reverse ++ start := by
  intro same
  have reversed := List.append_cancel_right same
  exact different (segments_injective (List.reverse_inj.mp reversed))

end Companion.FileSystem
