import Companion.FileSystem.Operations
import Companion.Proofs.Outcome

/-!
What operations on files leave alone. Main statements: making directories keeps every node that was
there, creating or writing a file keeps all directories and every node but the one at its place, and
bytes written one behind the other are written as a whole (`write_at_append`).
-/
set_option autoImplicit false

namespace Companion.FileSystem

variable {files after later : FileSystem} {place : Location} {path : Path}

theorem insert_same (place : Location) (node : Node) (entries : List (Location × Node))
    (there : lookup place entries = some node) : insert place node entries = entries := by
  induction entries with
  | nil => cases there
  | cons entry rest ih =>
      obtain ⟨other, old⟩ := entry
      by_cases same : other = place
      · simp only [lookup, if_pos same, Option.some.injEq] at there
        simp [insert, same, there]
      · simp only [lookup, if_neg same] at there
        simp [insert, same, ih there]

theorem insert_insert (place : Location) (first second : Node) (entries : List (Location × Node)) :
    insert place second (insert place first entries) = insert place second entries := by
  induction entries with
  | nil => simp [insert]
  | cons entry rest ih =>
      by_cases same : entry.1 = place
      · simp [insert, same]
      · simp [insert, same, ih]

theorem put_same {node : Node} (fits : files.Fits place node) (below : place ≠ [])
    (there : files.node? place = some node) : files.put place node fits = files := by
  rw [node?, nodeIn, if_neg below] at there
  cases files
  simp only [put, insert_same place node _ there]

theorem root_directory (files : FileSystem) : files.node? [] = some .directory := rfl

theorem below_of_file {content : Bytes} (there : files.node? place = some (.file content)) :
    place ≠ [] := by
  intro root
  rw [root, root_directory] at there
  cases there

@[simp] theorem write_at_nothing (files : FileSystem) (place : Location) (offset : Nat) :
    files.writeAt place offset [] = files := by
  rw [writeAt, modify]
  split
  · rename_i there
    exact put_same _ (below_of_file there) there
  · rfl

theorem modify_file {content : Bytes} (there : files.node? place = some (.file content))
    (change : Bytes → Bytes) :
    files.modify place change = files.put place (.file (change content)) (fits_of_file there _) := by
  rw [modify]
  split
  · rename_i found
    cases there.symm.trans found
    rfl
  · rename_i absent
    exact absurd there (absent content)

theorem node?_modify {content : Bytes} (there : files.node? place = some (.file content))
    (change : Bytes → Bytes) (other : Location) : (files.modify place change).node? other =
      if place = other then some (.file (change content)) else files.node? other := by
  rw [modify_file there]
  exact node?_put _ other

theorem modify_modify (files : FileSystem) (place : Location) (first second : Bytes → Bytes) :
    (files.modify place first).modify place second = files.modify place (second ∘ first) := by
  by_cases file : ∃ content, files.node? place = some (.file content)
  · obtain ⟨content, there⟩ := file
    have held := (node?_modify there first place).trans (if_pos rfl)
    rw [modify_file held]
    simp only [modify_file there, put, insert_insert, Function.comp_apply]
  · have idle (change : Bytes → Bytes) : files.modify place change = files := by
      rw [modify]
      split
      · rename_i content there
        exact absurd ⟨content, there⟩ file
      · rfl
    rw [idle first, idle second, idle]

theorem overwrite_overwrite (content first second : Bytes) (offset : Nat) :
    overwrite (overwrite content offset first) (offset + first.length) second =
      overwrite content offset (first ++ second) := by
  by_cases nothing : first = []
  · rw [nothing, overwrite_nil, List.nil_append, List.length_nil, Nat.add_zero]
  by_cases last : second = []
  · rw [last, overwrite_nil, List.append_nil]
  obtain ⟨front, filled, long⟩ : ∃ front, content.take offset ++ List.replicate (offset - content.length) 0 = front ∧
      front.length = offset := by
    refine ⟨_, rfl, ?_⟩
    simp only [List.length_append, List.length_take, List.length_replicate]
    omega
  have written (bytes : Bytes) (some_bytes : bytes ≠ []) :
      overwrite content offset bytes = front ++ bytes ++ content.drop (offset + bytes.length) := by
    rw [overwrite, if_neg (by simpa using some_bytes), filled]
  have reached : (front ++ first).length = offset + first.length := by rw [List.length_append, long]
  have gap : offset + first.length - (front ++ first ++ content.drop (offset + first.length)).length = 0 := by
    rw [List.length_append, reached]
    omega
  rw [written first nothing, written (first ++ second) (by simp [nothing]), overwrite, if_neg (by simpa using last), gap,
    List.take_left' reached, List.replicate_zero, List.append_nil, ← reached, List.drop_length_add_append,
    reached, List.drop_drop, List.length_append, List.append_assoc front, Nat.add_assoc]

theorem write_at_append (files : FileSystem) (place : Location) (offset : Nat) (first second : Bytes) :
    (files.writeAt place offset first).writeAt place (offset + first.length) second =
      files.writeAt place offset (first ++ second) := by
  rw [writeAt, writeAt, modify_modify, writeAt]
  congr 1
  funext content
  exact overwrite_overwrite content first second offset

-- Directories stay, and so does every node outside of one place.
structure KeptBut (changed : Location) (files after : FileSystem) : Prop where
  start : after.start = files.start
  directory : ∀ place, files.node? place = some .directory → after.node? place = some .directory
  node : ∀ place node, place ≠ changed → files.node? place = some node → after.node? place = some node

namespace KeptBut

variable {changed : Location}

theorem refl (changed : Location) (files : FileSystem) : KeptBut changed files files :=
  ⟨rfl, fun _ there => there, fun _ _ _ there => there⟩

theorem trans (first : KeptBut changed files after) (second : KeptBut changed after later) :
    KeptBut changed files later :=
  ⟨second.start.trans first.start, fun place there => second.directory place (first.directory place there),
    fun place node apart there => second.node place node apart (first.node place node apart there)⟩

end KeptBut

-- A node that is put somewhere changes that place alone.
theorem kept_but_put {node : Node} (fits : files.Fits place node) :
    KeptBut place files (files.put place node fits) := by
  refine ⟨rfl, fun other there => directory_insert fits.free there, ?_⟩
  intro other found apart there
  rw [node?_put, if_neg (Ne.symm apart)]
  exact there

theorem kept_but_modify (files : FileSystem) (place : Location) (change : Bytes → Bytes) :
    KeptBut place files (files.modify place change) := by
  rw [modify]
  split
  · exact kept_but_put _
  · exact .refl place files

-- Nothing that was there is gone or changed.
structure Grown (files after : FileSystem) : Prop where
  start : after.start = files.start
  node : ∀ place node, files.node? place = some node → after.node? place = some node

namespace Grown

theorem refl (files : FileSystem) : Grown files files := ⟨rfl, fun _ _ there => there⟩

theorem trans (first : Grown files after) (second : Grown after later) : Grown files later :=
  ⟨second.start.trans first.start, fun place node there => second.node place node (first.node place node there)⟩

theorem kept_but (grown : Grown files after) (changed : Location) : KeptBut changed files after :=
  ⟨grown.start, fun place there => grown.node place .directory there,
    fun place node _ there => grown.node place node there⟩

end Grown

theorem grown_create_directory (made : files.createDirectory path = .ok after) : Grown files after := by
  obtain ⟨target, _, put⟩ := ok_of_bind made
  cases target with
  | given => cases put
  | name parent above last trailing =>
      dsimp only at put
      cases there : files.node? (last :: parent) with
      | some node =>
          rw [there] at put
          cases put
      | none =>
          rw [there] at put
          cases put
          have fits : files.Fits (last :: parent) .directory := ⟨above, fun _ => rfl⟩
          have kept := kept_but_put fits
          refine ⟨kept.start, ?_⟩
          intro place node found
          refine kept.node place node ?_ found
          intro same
          rw [same, there] at found
          cases found

theorem grown_ensure_directory (files : FileSystem) (path : Path) :
    Grown files (files.ensureDirectory path).1 := by
  rw [ensureDirectory]
  cases made : files.createDirectory path with
  | ok after => exact grown_create_directory made
  | error error => exact .refl files

theorem grown_create_directories (files : FileSystem) (path : Path) :
    Grown files (files.createDirectories path).1 := by
  fun_induction createDirectories files path with
  | case1 path => exact .refl files
  | case2 path => exact .refl files
  | case3 path begun missing above up after made ih =>
      rw [made] at ih
      exact ih.trans (grown_ensure_directory after path)
  | case4 path begun missing above up failed ih => exact ih
  | case5 path begun present => exact grown_ensure_directory files path

theorem kept_but_write (files : FileSystem) (place : Location) (offset : Nat) (bytes : Bytes) :
    KeptBut place files (files.writeAt place offset bytes) :=
  kept_but_modify files place _

theorem departure_of_start (same : after.start = files.start) (path : Path) :
    after.departure path = files.departure path := by
  simp only [departure, same]

theorem walk_kept {changed : Location} (kept : KeptBut changed files after) (segments : List Bytes)
    {place target : Location} (walked : files.walk place segments = .ok target) :
    after.walk place segments = .ok target := by
  induction segments generalizing place with
  | nil => exact walked
  | cons segment rest ih =>
      rw [walk] at walked ⊢
      cases there : files.node? place with
      | none =>
          rw [there] at walked
          cases walked
      | some node =>
          rw [there] at walked
          cases node with
          | file content => cases walked
          | directory =>
              rw [kept.directory place there]
              exact ih walked

theorem resolve_eq_ok {node : Node} : files.resolve path = .ok (place, node) ↔
    ∃ start segments, files.departure path = .ok (start, segments) ∧ files.walk start segments = .ok place ∧
      files.node? place = some node := by
  rw [resolve, bind_eq_ok]
  constructor
  · rintro ⟨⟨start, segments⟩, departed, rest⟩
    obtain ⟨target, walked, found⟩ := ok_of_bind rest
    cases there : files.node? target with
    | none =>
        rw [there] at found
        cases found
    | some held =>
        rw [there] at found
        cases found
        exact ⟨start, segments, departed, walked, there⟩
  · rintro ⟨start, segments, departed, walked, there⟩
    refine ⟨(start, segments), departed, bind_eq_ok.mpr ⟨place, walked, ?_⟩⟩
    rw [there]

theorem node_of_resolve {node : Node} (resolved : files.resolve path = .ok (place, node)) :
    files.node? place = some node := by
  obtain ⟨_, _, _, _, there⟩ := resolve_eq_ok.mp resolved
  exact there

theorem content_at_of_resolve {node : Node}
    (resolved : files.resolve path = .ok (place, node)) : files.contentAt place = content node := by
  rw [contentAt, node_of_resolve resolved]

theorem resolve_kept {changed place : Location} {node : Node} (kept : KeptBut changed files after)
    (apart : place ≠ changed) (resolved : files.resolve path = .ok (place, node)) :
    after.resolve path = .ok (place, node) := by
  obtain ⟨start, segments, departed, walked, there⟩ := resolve_eq_ok.mp resolved
  refine resolve_eq_ok.mpr ⟨start, segments, ?_, walk_kept kept segments walked, kept.node place node apart there⟩
  rw [departure_of_start kept.start, departed]

/-! ## Files to start with -/

-- Files with a name and a text each, in the directory from which paths start.
def ofTexts (texts : List (String × String)) : FileSystem where
  entries := texts.map fun (name, text) => ([Utf8.encode name], .file (Utf8.encode text))
  rooted := by
    intro entry member
    obtain ⟨_, _, rfl⟩ := List.mem_map.mp member
    rfl
  standing := rfl

end Companion.FileSystem
