import Companion.Proofs.FileSystem.Directories
import Companion.Proofs.Path.FileName

/-!
Where paths lead. Main statements: `named_of_resolve`, a path leads to a place of its own file name, and
`resolved_before`, a path without two dots that leads to a file led there before, if the file was there.
-/
set_option autoImplicit false

namespace Companion

-- A path that never leads up.
def Path.Onward (path : Path) : Prop := Path.twoDots ∉ path.segments

namespace FileSystem

open Companion.Path (Ends)

variable {files after : FileSystem} {path : Path}

theorem departure_segments {start : Location} {segments : List Bytes}
    (departed : files.departure path = .ok (start, segments)) :
    path.segments = segments ∨ path.segments = [] :: segments := by
  rw [departure] at departed
  split at departed
  · cases departed
  · split at departed
    · cases departed
    · cases departed
    · rename_i whole
      cases departed
      exact .inr whole
    · cases departed
      exact .inl rfl

theorem walk_through_idle {idle : List Bytes} (idles : ∀ segment ∈ idle, Path.isIdle segment = true)
    {place target : Location} (walked : files.walk place idle = .ok target) : target = place := by
  induction idle with
  | nil =>
      cases walked
      rfl
  | cons segment rest ih =>
      rw [walk] at walked
      split at walked
      · cases walked
      · cases walked
      · rw [enter, if_pos (idles segment List.mem_cons_self)] at walked
        exact ih (fun other member => idles other (List.mem_cons_of_mem segment member)) walked

theorem named_of_resolve {name : Bytes} (ends : Ends path name) {place : Location} {node : Node}
    (resolved : files.resolve path = .ok (place, node)) : ∃ parent, place = name :: parent := by
  obtain ⟨front, idle, whole, idles, proper⟩ := ends
  obtain ⟨start, segments, departed, walked, _⟩ := resolve_eq_ok.mp resolved
  obtain ⟨before, same⟩ : ∃ before, segments = before ++ name :: idle := by
    rcases departure_segments departed with alone | rooted
    · exact ⟨front, alone.symm.trans whole⟩
    · cases front with
      | nil =>
          rw [whole, List.nil_append] at rooted
          rw [(List.cons.inj rooted).1] at proper
          cases proper
      | cons first others =>
          rw [whole, List.cons_append] at rooted
          exact ⟨others, (List.cons.inj rooted).2.symm⟩
  rw [same, walk_append] at walked
  obtain ⟨parent, _, further⟩ := ok_of_bind walked
  rw [walk] at further
  split at further
  · cases further
  · cases further
  · rw [enter_proper proper] at further
    exact ⟨parent, walk_through_idle idles further⟩

/-! ## What was there before -/

theorem directory_above {front : List Bytes} {place : Location} {node : Node}
    (there : files.node? (front ++ place) = some node) (below : front ≠ []) :
    files.node? place = some .directory := by
  induction front generalizing node with
  | nil => exact absurd rfl below
  | cons name rest ih =>
      have above := directory_of_node there
      by_cases last : rest = []
      · rw [last] at above
        exact above
      · exact ih above last

-- Onward to a file, a walk leads where it led before, if the file was there.
theorem walk_before {target : Location} {content new : Bytes}
    (there : files.node? target = some (.file content)) (still : after.node? target = some (.file new))
    {segments : List Bytes} (onward : Path.twoDots ∉ segments) {place : Location}
    (walked : after.walk place segments = .ok target) :
    files.walk place segments = .ok target ∧ ∃ front, target = front ++ place := by
  induction segments generalizing place with
  | nil =>
      cases walked
      exact ⟨rfl, [], rfl⟩
  | cons segment rest ih =>
      rw [walk] at walked ⊢
      cases held : after.node? place with
      | none =>
          rw [held] at walked
          cases walked
      | some node =>
          rw [held] at walked
          cases node with
          | file other => cases walked
          | directory =>
              have up : segment ≠ Path.twoDots := fun same => onward (same ▸ List.mem_cons_self)
              obtain ⟨further, front, same⟩ := ih (fun among => onward (List.mem_cons_of_mem segment among)) walked
              obtain ⟨names, below⟩ : ∃ names, target = names ++ place := by
                rw [enter, if_neg up] at same
                split at same
                · exact ⟨front, same⟩
                · exact ⟨front ++ [segment], by rw [same, List.append_assoc]; rfl⟩
              have passed : names ≠ [] := by
                intro none
                rw [below, none, List.nil_append, held] at still
                cases still
              rw [below] at there
              rw [directory_above there passed]
              exact ⟨further, names, below⟩

theorem resolved_before (onward : path.Onward) (start : after.start = files.start)
    {place : Location} {content new : Bytes} (there : files.node? place = some (.file content))
    (resolved : after.resolve path = .ok (place, .file new)) :
    files.resolve path = .ok (place, .file content) := by
  obtain ⟨begun, segments, departed, walked, still⟩ := resolve_eq_ok.mp resolved
  have ahead : Path.twoDots ∉ segments := by
    intro among
    rcases departure_segments departed with alone | below
    · exact onward (alone ▸ among)
    · exact onward (below ▸ List.mem_cons_of_mem [] among)
  obtain ⟨further, _⟩ := walk_before there still ahead walked
  rw [departure_of_start start] at departed
  exact resolve_eq_ok.mpr ⟨begun, segments, departed, further, there⟩

end FileSystem
end Companion
