import Companion.Proofs.Source.Comments

/-!
The lines of a layout, found again in its text: whatever the level and the unit of the margin are, the margin can
be told from the lines. Main statement: `texts_of_text`.
-/
set_option autoImplicit false

namespace Companion.Source

namespace Layout

-- The texts of the lines, without their levels.
def texts (layout : Layout) : List String :=
  layout.filterMap fun
    | .line text => some text
    | _ => none

theorem texts_append (front back : Layout) : (front ++ back).texts = front.texts ++ back.texts :=
  List.filterMap_append

theorem texts_line (text : String) (rest : Layout) : texts (.line text :: rest) = text :: rest.texts := rfl

theorem texts_nested (body : Layout) : (nested body).texts = body.texts := by
  simp [nested, texts]

-- A character that a margin can be made of.
def isMargin (c : Char) : Bool := c = ' ' ∨ c = '\t'

-- A line that is not taken for a part of its margin, nor for several lines.
structure IsLine (text : String) : Prop where
  begins : ∃ c ∈ text.toList.head?, isMargin c = false
  single : '\n' ∉ text.toList

-- Lines at their levels, and no others.
def Plain (layout : Layout) : Prop := ∀ step ∈ layout, step ≠ .blank ∧ ∀ text, step = .line text → IsLine text

theorem plain_of_texts {layout : Layout} (none : .blank ∉ layout) (lines : ∀ text ∈ layout.texts, IsLine text) :
    Plain layout := by
  intro step member
  refine ⟨fun blank => none (blank ▸ member), ?_⟩
  rintro text rfl
  exact lines text (List.mem_filterMap.mpr ⟨_, member, rfl⟩)

def endsLine (c : Char) : Bool := c = '\n'

-- What a text shows of its lines when their margins are taken away.
def shown (text : String) : List (List Char) := (lines endsLine text.toList).map (List.dropWhile isMargin)

theorem margin_of_unit {unit : String} (blank : ∀ c ∈ unit.toList, isMargin c = true) (level : Nat) :
    ∀ c ∈ (margin unit level).toList, isMargin c = true := by
  induction level with
  | zero => exact nofun
  | succ level ih =>
      rw [margin, String.toList_append]
      exact List.forall_mem_append.mpr ⟨blank, ih⟩

theorem lines_line {chars : List Char} (single : '\n' ∉ chars) (rest : List Char) :
    lines endsLine (chars ++ '\n' :: rest) = (chars ++ ['\n']) :: lines endsLine rest := by
  have within : ∀ c ∈ chars, endsLine c = false := by
    intro c member
    rw [endsLine, decide_eq_false_iff_not]
    rintro rfl
    exact single member
  have ended : lines endsLine ('\n' :: rest) = ['\n'] :: lines endsLine rest := by
    have newline : endsLine '\n' = true := rfl
    rw [lines, if_pos newline]
  exact lines_within within ended

theorem line_at_of_ne {text : String} (solid : text.isEmpty = false) (unit : String) (level : Nat) :
    (lineAt unit level text).toList = (margin unit level ++ text).toList ++ ['\n'] := by
  rw [lineAt, solid, if_neg Bool.false_ne_true, String.toList_append]
  rfl

theorem solid_of_begun {text : String} {c : Char} (begun : text.toList.head? = some c) : text.isEmpty = false := by
  rw [Bool.eq_false_iff, ne_eq, String.isEmpty_iff]
  rintro rfl
  cases begun

-- A line without its margin.
theorem trimmed_line {unit text : String} (blank : ∀ c ∈ unit.toList, isMargin c = true) {c : Char}
    (begun : text.toList.head? = some c) (begins : isMargin c = false) (level : Nat) :
    (lineAt unit level text).toList.dropWhile isMargin = text.toList ++ ['\n'] := by
  obtain ⟨rest, spelled⟩ := List.head?_eq_some_iff.mp begun
  rw [line_at_of_ne (solid_of_begun begun), String.toList_append, List.append_assoc,
    List.dropWhile_append_of_pos (margin_of_unit blank level), spelled, List.cons_append,
    List.dropWhile_cons_of_neg (by simp [begins])]

theorem shown_line {unit text : String} (blank : ∀ c ∈ unit.toList, isMargin c = true) (line : IsLine text)
    (level : Nat) (rest : String) :
    shown (lineAt unit level text ++ rest) = (text.toList ++ ['\n']) :: shown rest := by
  obtain ⟨c, begun, begins⟩ := line.begins
  have trimmed := trimmed_line blank begun begins level
  have spelled := line_at_of_ne (solid_of_begun begun) unit level
  have single : '\n' ∉ (margin unit level ++ text).toList := by
    rw [String.toList_append, List.mem_append, not_or]
    refine ⟨fun member => ?_, line.single⟩
    have odd := margin_of_unit blank level '\n' member
    cases odd
  rw [spelled] at trimmed
  rw [shown, String.toList_append, spelled, List.append_assoc, List.singleton_append, lines_line single, List.map_cons,
    trimmed]
  rfl

theorem shown_text {unit : String} (blank : ∀ c ∈ unit.toList, isMargin c = true) {layout : Layout}
    (plain : Plain layout) (level : Nat) :
    shown (layout.text unit level) = layout.texts.map fun text => text.toList ++ ['\n'] := by
  induction layout generalizing level with
  | nil => rfl
  | cons step rest ih =>
      obtain ⟨⟨notBlank, line⟩, others⟩ := List.forall_mem_cons.mp plain
      cases step with
      | line text =>
          rw [Layout.text, shown_line blank (line text rfl), ih others]
          rfl
      | blank => exact absurd rfl notBlank
      | indent => exact ih others (level + 1)
      | dedent => exact ih others (level - 1)

/-- Layouts with the same text have the same lines. -/
theorem texts_of_text {unit : String} (blank : ∀ c ∈ unit.toList, isMargin c = true) {layout other : Layout}
    (plain : Plain layout) (otherPlain : Plain other) {level : Nat}
    (same : layout.text unit level = other.text unit level) : layout.texts = other.texts := by
  have lines := shown_text blank plain level
  rw [same, shown_text blank otherPlain level] at lines
  refine (List.map_inj_right ?_).mp lines.symm
  intro text more spelled
  exact String.toList_inj.mp (List.append_cancel_right spelled)

end Layout
end Companion.Source
