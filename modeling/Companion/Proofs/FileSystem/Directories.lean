import Companion.Proofs.FileSystem.Created
import Companion.Proofs.Path.Directory

/-!
Directories that are made, and a file that is written below them. Main statements:
`raised_create_directories`, whatever the outcome, every node that is new is a directory to which the
path itself or one on the way up from it leads; `placed_write`, writing a file below changes nothing
but the file of its path.
-/
set_option autoImplicit false

namespace Companion.FileSystem

open Companion.Path (Above UpFrom)

variable {files after later : FileSystem} {path : Path}

theorem walk_idle {place : Location} (there : files.node? place = some .directory) {idle : List Bytes}
    (idles : ∀ segment ∈ idle, Path.isIdle segment = true) : files.walk place idle = .ok place := by
  induction idle with
  | nil => rfl
  | cons segment rest ih =>
      rw [walk, there]
      dsimp only
      rw [enter, if_pos (idles segment List.mem_cons_self)]
      exact ih fun other member => idles other (List.mem_cons_of_mem segment member)

-- A directory that was made is where its path leads.
theorem resolve_created (made : files.createDirectory path = .ok after) :
    ∃ place fits, files.node? place = none ∧ after = files.put place .directory fits ∧
      after.node? place = some .directory ∧ after.resolve path = .ok (place, .directory) := by
  have grown := grown_create_directory made
  obtain ⟨target, found, put⟩ := ok_of_bind made
  cases target with
  | given => cases put
  | name parent above name slash =>
      obtain ⟨start, front, idle, departed, empty, walked, proper, _⟩ := led_of_target found
      dsimp only at put
      cases free : files.node? (name :: parent) with
      | some node =>
          rw [free] at put
          cases put
      | none =>
          rw [free] at put
          cases put
          have fits : files.Fits (name :: parent) .directory := ⟨above, fun _ => rfl⟩
          have there : (files.put (name :: parent) .directory fits).node? (name :: parent) = some .directory := by
            rw [node?_put, if_pos rfl]
          refine ⟨name :: parent, fits, free, rfl, there, ?_⟩
          have behind : (files.put (name :: parent) .directory fits).walk parent (name :: idle) =
              .ok (name :: parent) := by
            rw [walk, grown.node parent .directory above]
            dsimp only
            rw [enter_proper proper]
            exact walk_idle there fun segment member => by rw [empty segment member]; rfl
          have led : (files.put (name :: parent) .directory fits).walk start (front ++ name :: idle) =
              .ok (name :: parent) := by
            rw [walk_append, walk_kept (grown.kept_but []) front walked]
            exact behind
          refine resolve_eq_ok.mpr ⟨start, front ++ name :: idle, ?_, led, there⟩
          rw [departure_of_start grown.start, departed]

-- What making directories may add: directories to which some of the leading paths lead.
structure Raised (leading : Path → Prop) (files after : FileSystem) : Prop where
  grown : Grown files after
  added : ∀ place node, after.node? place = some node → files.node? place = some node ∨
    files.node? place = none ∧ node = .directory ∧
      ∃ above, leading above ∧ after.resolve above = .ok (place, .directory)

theorem resolve_grown {place : Location} {node : Node} (grown : Grown files after)
    (resolved : files.resolve path = .ok (place, node)) : after.resolve path = .ok (place, node) :=
  resolve_kept (grown.kept_but ([] :: place)) (fun same => List.cons_ne_self [] place same.symm) resolved

namespace Raised

variable {leading further : Path → Prop}

theorem refl (leading : Path → Prop) (files : FileSystem) : Raised leading files files :=
  ⟨.refl files, fun _ _ there => .inl there⟩

theorem mono (wider : ∀ above, leading above → further above) (raised : Raised leading files after) :
    Raised further files after := by
  refine ⟨raised.grown, ?_⟩
  intro place node there
  rcases raised.added place node there with before | ⟨free, rfl, above, led, resolved⟩
  · exact .inl before
  · exact .inr ⟨free, rfl, above, wider above led, resolved⟩

theorem trans (first : Raised leading files after) (second : Raised leading after later) :
    Raised leading files later := by
  refine ⟨first.grown.trans second.grown, ?_⟩
  intro place node there
  rcases second.added place node there with before | ⟨free, rfl, below⟩
  · rcases first.added place node before with earlier | ⟨free, rfl, above, led, resolved⟩
    · exact .inl earlier
    · exact .inr ⟨free, rfl, above, led, resolve_grown second.grown resolved⟩
  · refine .inr ⟨?_, rfl, below⟩
    cases earlier : files.node? place with
    | none => rfl
    | some held => exact absurd (first.grown.node place held earlier) (by simp [free])

end Raised

theorem raised_create_directory (made : files.createDirectory path = .ok after) :
    Raised (UpFrom path) files after := by
  obtain ⟨fresh, fits, free, put, there, led⟩ := resolve_created made
  refine ⟨grown_create_directory made, ?_⟩
  intro place node held
  by_cases here : fresh = place
  · subst here
    rw [there] at held
    cases held
    exact .inr ⟨free, rfl, path, .inl rfl, led⟩
  · rw [put, node?_put, if_neg here] at held
    exact .inl held

theorem raised_ensure_directory (files : FileSystem) (path : Path) :
    Raised (UpFrom path) files (files.ensureDirectory path).1 := by
  rw [ensureDirectory]
  cases made : files.createDirectory path with
  | ok after => exact raised_create_directory made
  | error error => exact .refl (UpFrom path) files

theorem raised_create_directories (files : FileSystem) (path : Path) :
    Raised (UpFrom path) files (files.createDirectories path).1 := by
  fun_induction createDirectories files path with
  | case1 path => exact .refl (UpFrom path) files
  | case2 path => exact .refl (UpFrom path) files
  | case3 path begun missing above up after made ih =>
      rw [made] at ih
      exact (ih.mono fun _ => Path.up_from_parent up).trans (raised_ensure_directory after path)
  | case4 path begun missing above up failed ih => exact ih.mono fun _ => Path.up_from_parent up
  | case5 path begun present => exact raised_ensure_directory files path

-- A dot stands for a directory that is there or cannot be made.
theorem ensure_directory_dot (files : FileSystem) : (files.ensureDirectory ⟨[Path.dot]⟩).1 = files := by
  rw [ensureDirectory]
  cases made : files.createDirectory ⟨[Path.dot]⟩ with
  | error error => rfl
  | ok after =>
      obtain ⟨target, found, put⟩ := ok_of_bind made
      cases target with
      | given => cases put
      | name parent above name slash =>
          obtain ⟨start, front, idle, departed, _, _, proper, _⟩ := led_of_target found
          have dotted : files.departure ⟨[Path.dot]⟩ = .ok (files.start, [[Path.dot]]) := rfl
          have same := (Prod.mk.inj (Except.ok.inj (dotted.symm.trans departed))).2
          have member : name ∈ [[Path.dot]] := by
            rw [same]
            exact List.mem_append_right front List.mem_cons_self
          rw [List.mem_singleton.mp member] at proper
          cases proper

theorem create_directories_dot (files : FileSystem) :
    (files.createDirectories ⟨[Path.dot]⟩).1 = files := by
  generalize named : (⟨[Path.dot]⟩ : Path) = path
  fun_induction createDirectories files path with
  | case1 path => rfl
  | case2 path => rfl
  | case3 path begun missing above up after made ih =>
      subst named
      have root : above = ⟨[]⟩ := Option.some.inj (up.symm.trans rfl)
      subst root
      rw [createDirectories, if_pos rfl] at made
      cases made
      exact ensure_directory_dot files
  | case4 path begun missing above up failed ih =>
      subst named
      have root : above = ⟨[]⟩ := Option.some.inj (up.symm.trans rfl)
      subst root
      rw [createDirectories, if_pos rfl]
  | case5 path begun present =>
      subst named
      exact ensure_directory_dot files

theorem raised_directory (files : FileSystem) (path : Path) :
    Raised (Above · path) files (files.createDirectories path.directory).1 := by
  unfold Path.directory
  cases up : path.parent? with
  | none =>
      simp only [create_directories_dot]
      exact .refl _ files
  | some above =>
      dsimp only
      split
      · rw [create_directories_dot]
        exact .refl _ files
      · exact (raised_create_directories files above).mono fun _ => Path.above_of_up_from up

/-! ## A file below -/

-- What writing the file of a path, with the directories that it needs, may change.
structure Placed (path : Path) (files after : FileSystem) : Prop where
  start : after.start = files.start
  directory : ∀ place, files.node? place = some .directory → after.node? place = some .directory
  file : ∀ place content, files.node? place = some (.file content) →
    after.node? place = some (.file content) ∨ ∃ new, after.resolve path = .ok (place, .file new)
  added : ∀ place node, files.node? place = none → after.node? place = some node →
    (node = .directory ∧ ∃ above, Above above path ∧ after.resolve above = .ok (place, .directory)) ∨
      ∃ new, node = .file new ∧ after.resolve path = .ok (place, .file new)

theorem placed_of_raised (raised : Raised (Above · path) files after) : Placed path files after := by
  refine ⟨raised.grown.start, fun place => raised.grown.node place .directory, ?_, ?_⟩
  · exact fun place content there => .inl (raised.grown.node place _ there)
  · intro place node free there
    rcases raised.added place node there with before | ⟨_, rfl, above, led, resolved⟩
    · rw [free] at before
      cases before
    · exact .inl ⟨rfl, above, led, resolved⟩

-- A file that was written is found under its path, and nothing else has changed.
structure Wrote (path : Path) (bytes : Bytes) (place : Location) (files after : FileSystem) : Prop where
  kept : KeptBut place files after
  others : ∀ other, other ≠ place → after.node? other = files.node? other
  held : after.node? place = some (.file bytes)
  resolved : after.resolve path = .ok (place, .file bytes)

theorem wrote_of_write_file {bytes : Bytes} (written : files.writeFile path bytes = .ok after) :
    ∃ place, Wrote path bytes place files after := by
  obtain ⟨⟨created, place⟩, made, rest⟩ := ok_of_bind written
  cases rest
  refine ⟨place, (kept_but_create made).trans (kept_but_write created place 0 bytes), ?_, ?_,
    resolve_written made bytes⟩
  · intro other apart
    rw [node?_written made, if_neg apart.symm]
  · rw [node?_written made, if_pos rfl]

/-- Writing the file of a path, after directories above it were made, removes nothing, changes no other
file, and adds only that file and those directories. -/
theorem placed_write {between : FileSystem} {bytes : Bytes} (raised : Raised (Above · path) files between)
    (written : between.writeFile path bytes = .ok after) : Placed path files after := by
  obtain ⟨target, wrote⟩ := wrote_of_write_file written
  refine ⟨wrote.kept.start.trans raised.grown.start, ?_, ?_, ?_⟩
  · intro place there
    exact wrote.kept.directory place (raised.grown.node place .directory there)
  · intro place content there
    by_cases same : place = target
    · subst same
      exact .inr ⟨bytes, wrote.resolved⟩
    · exact .inl (wrote.kept.node place _ same (raised.grown.node place _ there))
  · intro place node free there
    by_cases same : place = target
    · subst same
      rw [wrote.held] at there
      cases there
      exact .inr ⟨bytes, rfl, wrote.resolved⟩
    · rw [wrote.others place same] at there
      rcases raised.added place node there with before | ⟨_, rfl, above, led, resolved⟩
      · rw [free] at before
        cases before
      · exact .inl ⟨rfl, above, led, resolve_kept wrote.kept same resolved⟩

end Companion.FileSystem
