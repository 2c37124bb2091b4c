import Companion.Proofs.Source.Texts

/-!
Layouts whose indents have their dedents. Main statement: `Balanced.text_indented`, such a layout at some level is its
text at the outermost one with the margin in front of each line that is not empty.
-/
set_option autoImplicit false

namespace Companion.Source

open Code

-- Each line but the empty ones with the margin in front of it.
def indented (margin text : String) : String :=
  String.ofList ((lines Layout.endsLine text.toList).flatMap fun line =>
    if line = ['\n'] then line else margin.toList ++ line)

namespace Layout

-- Lines, and layouts between an indent and its dedent; where the condition holds, no line has a line end in it.
inductive Balanced (flat : Prop) : Layout → Prop
  | nil : Balanced flat []
  | line {text : String} {rest : Layout} (single : flat → OneLine text) (balanced : Balanced flat rest) :
    Balanced flat (.line text :: rest)
  | blank {rest : Layout} (balanced : Balanced flat rest) : Balanced flat (.blank :: rest)
  | nested {body rest : Layout} (inner : Balanced flat body) (balanced : Balanced flat rest) :
    Balanced flat (.indent :: body ++ .dedent :: rest)

-- What is written at any level as at the outermost one, but for the margins, and leaves the level as it is.
structure Movable (flat : Prop) (layout : Layout) : Prop where
  back : ∀ level, levelAfter level layout = level
  above : ∀ {front rest : Layout}, layout = front ++ .dedent :: rest → ∀ level, level < levelAfter level front
  text : flat → ∀ {unit : String}, OneLine unit → ∀ level,
    layout.text unit level = indented (margin unit level) (layout.text unit 0)

variable {flat : Prop} {layout first second body : Layout}

theorem level_append (level : Nat) :
    levelAfter level (first ++ second) = levelAfter (levelAfter level first) second := by
  induction first generalizing level with
  | nil => rfl
  | cons step rest ih => cases step <;> exact ih _

theorem spaced_one (layout : Layout) : Layout.spaced [layout] = layout := List.intercalate_singleton

theorem spaced_cons (layout next : Layout) (rest : List Layout) :
    Layout.spaced (layout :: next :: rest) = layout ++ .blank :: Layout.spaced (next :: rest) := by
  rw [Layout.spaced, List.intercalate_cons_cons, List.append_assoc]
  rfl

namespace Balanced

theorem append (balanced : Balanced flat first) (behind : Balanced flat second) : Balanced flat (first ++ second) := by
  induction balanced with
  | nil => exact behind
  | line single _ ih => exact .line single ih
  | blank _ ih => exact .blank ih
  | nested inner _ _ ih =>
      rw [List.append_assoc]
      exact .nested inner ih

theorem nest (inner : Balanced flat body) : Balanced flat (Layout.nested body) := .nested inner .nil

theorem one {text : String} (single : flat → OneLine text) : Balanced flat [.line text] := .line single .nil

theorem of_lines {α : Type} {spell : α → String} {items : List α}
    (single : flat → ∀ item ∈ items, OneLine (spell item)) :
    Balanced flat (items.map fun item => .line (spell item)) := by
  induction items with
  | nil => exact .nil
  | cons item rest ih =>
      exact .line (fun holds => single holds item List.mem_cons_self)
        (ih fun holds other member => single holds other (List.mem_cons_of_mem item member))

theorem spaced {layouts : List Layout} (each : ∀ layout ∈ layouts, Balanced flat layout) :
    Balanced flat (Layout.spaced layouts) := by
  induction layouts with
  | nil => exact .nil
  | cons first rest ih =>
      obtain ⟨balanced, others⟩ := List.forall_mem_cons.mp each
      cases rest with
      | nil =>
          rw [spaced_one]
          exact balanced
      | cons next more =>
          rw [spaced_cons]
          exact balanced.append (.blank (ih others))

theorem back (balanced : Balanced flat layout) (level : Nat) : levelAfter level layout = level := by
  induction balanced generalizing level with
  | nil => rfl
  | line _ _ ih => exact ih level
  | blank _ ih => exact ih level
  | nested _ _ inner ih =>
      rw [level_append, levelAfter, inner, levelAfter, Nat.add_sub_cancel]
      exact ih level

-- A dedent stands behind the indent that it belongs to.
theorem above (balanced : Balanced flat layout) {front rest : Layout} (split : layout = front ++ .dedent :: rest)
    (level : Nat) : level < levelAfter level front := by
  induction balanced generalizing front rest level with
  | nil => cases front <;> cases split
  | line _ _ ih =>
      cases front with
      | nil => cases split
      | cons step others =>
          obtain ⟨rfl, behind⟩ := List.cons.inj split
          exact ih behind level
  | blank _ ih =>
      cases front with
      | nil => cases split
      | cons step others =>
          obtain ⟨rfl, behind⟩ := List.cons.inj split
          exact ih behind level
  | @nested inside after within balanced inner ih =>
      cases front with
      | nil => cases split
      | cons step others =>
          rw [List.cons_append, List.cons_append] at split
          obtain ⟨rfl, behind⟩ := List.cons.inj split
          rw [levelAfter]
          rcases List.append_eq_append_iff.mp behind with ⟨more, rfl, later⟩ | ⟨more, whole, later⟩
          · rw [level_append, within.back]
            cases more with
            | nil => exact Nat.lt_succ_self level
            | cons step more =>
                obtain ⟨rfl, deeper⟩ := List.cons.inj later
                rw [levelAfter, Nat.add_sub_cancel]
                exact ih deeper level
          · cases more with
            | nil =>
                rw [List.append_nil] at whole
                rw [← whole, within.back]
                exact Nat.lt_succ_self level
            | cons step more =>
                obtain ⟨rfl, _⟩ := List.cons.inj later
                exact Nat.lt_of_succ_lt (inner whole (level + 1))

end Balanced

/-! ## Margins -/

theorem margin_add (unit : String) (level further : Nat) :
    margin unit (level + further) = margin unit level ++ margin unit further := by
  induction level with
  | zero => rw [Nat.zero_add, margin, String.empty_append]
  | succ level ih => rw [Nat.succ_add, margin, ih, margin, String.append_assoc]

theorem one_line_margin {unit : String} (single : OneLine unit) (level : Nat) : OneLine (margin unit level) := by
  induction level with
  | zero => exact List.not_mem_nil
  | succ level ih => exact one_line_append.mpr ⟨single, ih⟩

theorem indented_append {margin first : String} (closed : Closed endsLine first.toList) (second : String) :
    indented margin (first ++ second) = indented margin first ++ indented margin second := by
  rw [indented, String.toList_append, lines_append closed, List.flatMap_append, String.ofList_append]
  rfl

theorem indented_line (margin : String) {text : String} (single : OneLine text) :
    indented margin (text ++ "\n") = if text.isEmpty then "\n" else margin ++ text ++ "\n" := by
  have line : lines endsLine (text ++ "\n").toList = [text.toList ++ ['\n']] := by
    rw [String.toList_append]
    exact lines_line single []
  rw [indented, line, List.flatMap_singleton]
  by_cases empty : text.isEmpty = true
  · rw [if_pos empty, String.isEmpty_iff.mp empty]
    rfl
  · have solid : text.toList ++ ['\n'] ≠ ['\n'] := by
      intro same
      exact empty (String.isEmpty_iff.mpr (String.toList_inj.mp (List.append_left_eq_self.mp same)))
    rw [if_neg empty, if_neg solid, String.ofList_append, String.ofList_append, String.ofList_toList,
      String.ofList_toList, String.append_assoc]

-- A line at a level within a level is that line with the outer margin in front.
theorem indented_line_at {unit text : String} (single : OneLine unit) (flat : OneLine text) (level further : Nat) :
    lineAt unit (level + further) text = indented (margin unit level) (lineAt unit further text) := by
  by_cases empty : text.isEmpty = true
  · rw [lineAt, lineAt, if_pos empty, if_pos empty]
    exact (indented_line _ (by decide : OneLine "")).symm
  · have inner : (margin unit further ++ text).isEmpty = false := by
      simpa using fun _ => empty
    rw [lineAt, lineAt, if_neg empty, if_neg empty,
      indented_line _ (one_line_append.mpr ⟨one_line_margin single further, flat⟩), inner, if_neg Bool.false_ne_true,
      margin_add]
    simp only [String.append_assoc]

/-- A layout of which each indent has its dedent is written at a level further in as before, with the margin of that
level in front of its lines. -/
theorem Balanced.text_indented (balanced : Balanced flat layout) (holds : flat) {unit : String} (single : OneLine unit)
    (level further : Nat) :
    layout.text unit (level + further) = indented (margin unit level) (layout.text unit further) := by
  have feed : endsLine '\n' = true := rfl
  induction balanced generalizing further with
  | nil => rfl
  | line one _ ih =>
      rw [text, text, indented_append (closed_line_at feed unit further _), ih,
        indented_line_at single (one holds)]
  | blank _ ih =>
      have empty : indented (margin unit level) "\n" = "\n" := indented_line _ (by decide : OneLine "")
      have closed : Closed endsLine "\n".toList := closed_line_at feed unit further ""
      rw [text, text, indented_append closed, ih, empty]
  | @nested inside after within _ inner ih =>
      rw [text_append, text_append, text, text, indented_append (closed_text feed unit _ _), Nat.add_assoc, inner,
        levelAfter, levelAfter, within.back, within.back, text, text, Nat.add_sub_cancel, Nat.add_sub_cancel, ih]

theorem Balanced.movable (balanced : Balanced flat layout) : Movable flat layout where
  back := balanced.back
  above := balanced.above
  text holds _ single level := balanced.text_indented holds single level 0

end Layout
end Companion.Source
