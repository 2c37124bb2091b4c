import Companion.Proofs.Source.Openings

/-!
The marks of regions, taken out of a text again. Main statement: `regions_only_marked`, without them a file is what it
is if regions are not marked at all.
-/
set_option autoImplicit false

namespace Companion.Source

open Code Layout

def regionMarks : Language → RegionMarks
  | .csharp => CSharp.regionMarks
  | .visualBasic => VisualBasic.regionMarks

/-! ## Marks in a text -/

def openingWord : Language → String
  | .csharp => "#region "
  | .visualBasic => "#Region "

-- A line that begins a region, behind its margin.
def opensRegion (language : Language) (line : List Char) : Bool :=
  (openingWord language).toList.isPrefixOf (line.dropWhile isMargin)

def closesRegion (language : Language) (line : List Char) : Bool :=
  line.dropWhile isMargin = (regionMarks language).closing.toList ++ ['\n']

-- Lines that are written for the sake of a region: its marks, each with an empty line at its inner side.
def areMark (language : Language) (first second : List Char) : Bool :=
  opensRegion language first && second = ['\n'] || first = ['\n'] && closesRegion language second

def withoutMarks (language : Language) : List (List Char) → List (List Char)
  | first :: second :: rest =>
    if areMark language first second then withoutMarks language rest
    else first :: withoutMarks language (second :: rest)
  | rest => rest

-- A text without the marks of its regions and the empty lines that belong to them.
def withoutRegions (language : Language) (text : String) : String :=
  String.ofList (withoutMarks language (lines endsLine text.toList)).flatten

-- The marks among lines, without their margins.
def marksIn (lines : List (List Char)) : List (List Char) :=
  (lines.map (List.dropWhile isMargin)).filter fun line => line.head? = some '#'

def marksOf (text : String) : List (List Char) := marksIn (lines endsLine text.toList)

/-! ## Lines at their levels -/

namespace Layout

def written (unit : String) (level : Nat) : Layout → List (List Char)
  | [] => []
  | .line text :: rest => (lineAt unit level text).toList :: written unit level rest
  | .blank :: rest => ['\n'] :: written unit level rest
  | .indent :: rest => written unit (level + 1) rest
  | .dedent :: rest => written unit (level - 1) rest

theorem flatten_written (unit : String) (level : Nat) (layout : Layout) :
    (layout.written unit level).flatten = (layout.text unit level).toList := by
  induction layout generalizing level with
  | nil => rfl
  | cons step rest ih =>
      cases step with
      | line text => rw [written, Layout.text, List.flatten_cons, ih, String.toList_append]
      | blank =>
          rw [written, Layout.text, List.flatten_cons, ih, String.toList_append]
          rfl
      | indent => exact ih (level + 1)
      | dedent => exact ih (level - 1)

theorem lines_written {unit : String} (single : OneLine unit) {layout : Layout}
    (flat : ∀ text ∈ layout.texts, OneLine text) (level : Nat) :
    lines endsLine (layout.text unit level).toList = layout.written unit level := by
  have blank (rest : List Char) : lines endsLine ('\n' :: rest) = ['\n'] :: lines endsLine rest :=
    lines_line List.not_mem_nil rest
  induction layout generalizing level with
  | nil => rfl
  | cons step rest ih =>
      cases step with
      | line text =>
          obtain ⟨own, others⟩ := List.forall_mem_cons.mp flat
          rw [written, Layout.text, String.toList_append, ← ih others]
          cases empty : text.isEmpty with
          | true =>
              rw [lineAt, empty, if_pos rfl]
              exact blank _
          | false =>
              have line := lines_line (one_line_append.mpr ⟨one_line_margin single level, own⟩)
                (Layout.text unit level rest).toList
              rw [line_at_of_ne empty, List.append_assoc]
              exact line
      | blank =>
          rw [written, Layout.text, String.toList_append, ← ih flat]
          exact blank _
      | indent => exact ih flat (level + 1)
      | dedent => exact ih flat (level - 1)

theorem one_line_of_balanced {flat : Prop} {layout : Layout} (balanced : Balanced flat layout) (holds : flat) :
    ∀ text ∈ layout.texts, OneLine text := by
  induction balanced with
  | nil => exact nofun
  | line single _ ih => exact List.forall_mem_cons.mpr ⟨single holds, ih⟩
  | blank _ ih => exact ih
  | nested _ _ inner ih =>
      rw [texts_append]
      exact List.forall_mem_append.mpr ⟨inner, ih⟩

end Layout

/-! ## One line after the other -/

section

variable {language : Language}

theorem opening_spelled (language : Language) (label : String) :
    ∃ rest, ((regionMarks language).opening label).toList = (openingWord language).toList ++ rest := by
  cases language with
  | csharp => exact ⟨label.toList, String.toList_append⟩
  | visualBasic => exact ⟨(VisualBasic.literal label).toList, String.toList_append⟩

theorem opening_begun (language : Language) (label : String) :
    ((regionMarks language).opening label).toList.head? = some '#' := by
  obtain ⟨rest, spelled⟩ := opening_spelled language label
  rw [spelled]
  cases language <;> rfl

theorem closing_begun (language : Language) : (regionMarks language).closing.toList.head? = some '#' := by
  cases language <;> rfl

theorem opening_ne_closing (language : Language) (label : String) :
    ((regionMarks language).opening label).toList ≠ (regionMarks language).closing.toList := by
  obtain ⟨rest, spelled⟩ := opening_spelled language label
  intro same
  have second := congrArg (fun chars => chars[1]?) (spelled.symm.trans same)
  cases language <;> simp [openingWord, regionMarks, CSharp.regionMarks, VisualBasic.regionMarks] at second

variable {unit : String} (blank : ∀ c ∈ unit.toList, isMargin c = true) (level : Nat)

include blank

theorem trimmed_opening (language : Language) (label : String) :
    (lineAt unit level ((regionMarks language).opening label)).toList.dropWhile isMargin =
      ((regionMarks language).opening label).toList ++ ['\n'] :=
  trimmed_line blank (opening_begun language label) (by decide) level

theorem trimmed_closing (language : Language) :
    (lineAt unit level (regionMarks language).closing).toList.dropWhile isMargin =
      (regionMarks language).closing.toList ++ ['\n'] :=
  trimmed_line blank (closing_begun language) (by decide) level

theorem opening_mark (language : Language) (label : String) :
    areMark language (lineAt unit level ((regionMarks language).opening label)).toList ['\n'] = true := by
  obtain ⟨rest, spelled⟩ := opening_spelled language label
  rw [areMark, opensRegion, trimmed_opening blank, spelled, List.append_assoc,
    List.isPrefixOf_iff_prefix.mpr (List.prefix_append _ _)]
  rfl

theorem closing_mark (language : Language) :
    areMark language ['\n'] (lineAt unit level (regionMarks language).closing).toList = true := by
  rw [areMark, closesRegion, trimmed_closing blank, decide_eq_true rfl, decide_eq_true rfl, Bool.and_self, Bool.or_true]

theorem opening_not_closes (language : Language) (label : String) :
    closesRegion language (lineAt unit level ((regionMarks language).opening label)).toList = false := by
  rw [closesRegion, trimmed_opening blank, decide_eq_false_iff_not]
  exact fun same => opening_ne_closing language label (List.append_cancel_right same)

theorem trimmed_begun {text : String} (begins : Begins text) :
    ∃ c rest, (lineAt unit level text).toList.dropWhile isMargin = c :: rest ∧ c ∉ ['\n', '#'] := by
  obtain ⟨c, begun, other⟩ := begins
  obtain ⟨rest, spelled⟩ := List.head?_eq_some_iff.mp begun
  have solid : isMargin c = false := by
    simp only [List.mem_cons, not_or] at other
    simp [isMargin, other]
  refine ⟨c, rest ++ ['\n'], ?_, fun member => other (List.mem_cons_of_mem ' ' (List.mem_cons_of_mem '\t' member))⟩
  rw [trimmed_line blank begun solid, spelled]
  rfl

-- The sign of marks is what they begin with in both languages.
theorem begun_not_mark {text : String} (begins : Begins text) (language : Language) (second : List Char) :
    areMark language (lineAt unit level text).toList second = false ∧
      closesRegion language (lineAt unit level text).toList = false := by
  obtain ⟨c, rest, trimmed, other⟩ := trimmed_begun blank level begins
  simp only [List.mem_cons, List.not_mem_nil, or_false, not_or] at other
  have sign : c ≠ '#' := other.2
  have opens : opensRegion language (lineAt unit level text).toList = false := by
    rw [opensRegion, trimmed]
    cases language <;> simp [openingWord, List.isPrefixOf, Ne.symm sign]
  have closes : closesRegion language (lineAt unit level text).toList = false := by
    rw [closesRegion, trimmed, decide_eq_false_iff_not]
    cases language <;> simp [regionMarks, CSharp.regionMarks, VisualBasic.regionMarks, sign]
  have solid : (lineAt unit level text).toList ≠ ['\n'] := by
    intro empty
    rw [empty] at trimmed
    exact other.1 (List.cons.inj trimmed).1.symm
  rw [areMark, opens, decide_eq_false solid]
  exact ⟨rfl, closes⟩

omit blank in
theorem blank_not_mark {language : Language} {second : List Char} (apart : closesRegion language second = false) :
    areMark language ['\n'] second = false ∧ closesRegion language ['\n'] = false := by
  have opens : opensRegion language ['\n'] = false := by cases language <;> rfl
  rw [areMark, opens, apart]
  cases language <;> exact ⟨rfl, rfl⟩

end

theorem without_kept {language : Language} {first : List Char} {rest : List (List Char)}
    (kept : ∀ second ∈ rest.head?, areMark language first second = false) :
    withoutMarks language (first :: rest) = first :: withoutMarks language rest := by
  cases rest with
  | nil => rfl
  | cons second others => rw [withoutMarks, kept second rfl, if_neg Bool.false_ne_true]

theorem without_mark {language : Language} {first second : List Char} (mark : areMark language first second = true)
    (rest : List (List Char)) : withoutMarks language (first :: second :: rest) = withoutMarks language rest := by
  rw [withoutMarks, mark, if_pos rfl]

theorem marks_in_mark {line text : List Char} (trimmed : line.dropWhile isMargin = text)
    (begun : text.head? = some '#') (rest : List (List Char)) : marksIn (line :: rest) = text :: marksIn rest := by
  rw [marksIn, List.map_cons, trimmed, List.filter_cons_of_pos (by simpa using begun)]
  rfl

theorem marks_in_other {line : List Char} (other : (line.dropWhile isMargin).head? ≠ some '#')
    (rest : List (List Char)) : marksIn (line :: rest) = marksIn rest := by
  rw [marksIn, List.map_cons, List.filter_cons_of_neg (by simpa using other)]
  rfl

/-! ## Layouts with marks and without -/

def marksOfRegions (language : Language) (regions : List Region) : List String :=
  regions.flatMap fun region => [(regionMarks language).opening region.label, (regionMarks language).closing]

-- The first layout has the marks of some regions, each with a blank at its inner side, and is the second one otherwise.
inductive Marked (language : Language) : List String → Layout → Layout → Prop
  | nothing : Marked language [] [] []
  | same {marks : List String} {layout other : Layout} (step : Step) (behind : Marked language marks layout other) :
      Marked language marks (step :: layout) (step :: other)
  | opening {marks : List String} {layout other : Layout} (label : String)
      (behind : Marked language marks layout other) :
      Marked language ((regionMarks language).opening label :: marks)
        (.line ((regionMarks language).opening label) :: .blank :: layout) other
  | closing {marks : List String} {layout other : Layout} (behind : Marked language marks layout other) :
      Marked language ((regionMarks language).closing :: marks)
        (.blank :: .line (regionMarks language).closing :: layout) other

namespace Marked

variable {language : Language} {marks more : List String} {layout other first second : Layout}

theorem refl (language : Language) : (layout : Layout) → Marked language [] layout layout
  | [] => .nothing
  | step :: rest => .same step (refl language rest)

theorem append (marked : Marked language marks layout other) (behind : Marked language more first second) :
    Marked language (marks ++ more) (layout ++ first) (other ++ second) := by
  induction marked with
  | nothing => exact behind
  | same step _ ih => exact .same step ih
  | opening label _ ih => exact .opening label ih
  | closing _ ih => exact .closing ih

theorem around (front back : Layout) (marked : Marked language marks layout other) :
    Marked language marks (front ++ layout ++ back) (front ++ other ++ back) := by
  have whole := ((refl language front).append marked).append (refl language back)
  rwa [List.nil_append, List.append_nil] at whole

-- No layout begins with the end of a region.
theorem first_not_closing (marked : Marked language marks layout other) {unit : String}
    (blank : ∀ c ∈ unit.toList, isMargin c = true) (begun : Begun other) (level : Nat) :
    ∀ line ∈ (layout.written unit level).head?, closesRegion language line = false := by
  induction marked generalizing level with
  | nothing => exact nofun
  | same step behind ih =>
      cases step with
      | line text =>
          rintro line ⟨⟩
          exact (begun_not_mark blank level (begun text List.mem_cons_self) language []).2
      | blank =>
          rintro line ⟨⟩
          cases language <;> rfl
      | indent => exact ih begun (level + 1)
      | dedent => exact ih begun (level - 1)
  | opening label behind ih =>
      rintro line ⟨⟩
      exact opening_not_closes blank level language label
  | closing behind ih =>
      rintro line ⟨⟩
      cases language <;> rfl

-- By the marks that are left: each is taken out with its blank, and no other line is.
theorem without_written (marked : Marked language marks layout other) {unit : String}
    (blank : ∀ c ∈ unit.toList, isMargin c = true) (begun : Begun other) (level : Nat) :
    withoutMarks language (layout.written unit level) = other.written unit level := by
  induction marked generalizing level with
  | nothing => rfl
  | same step behind ih =>
      cases step with
      | line text =>
          obtain ⟨own, others⟩ := List.forall_mem_cons.mp begun
          rw [written, written, without_kept fun next _ => (begun_not_mark blank level own language next).1,
            ih others level]
      | blank =>
          have apart := behind.first_not_closing blank begun level
          rw [written, written, without_kept fun next member => (blank_not_mark (apart next member)).1,
            ih begun level]
      | indent => exact ih begun (level + 1)
      | dedent => exact ih begun (level - 1)
  | opening label behind ih =>
      rw [written, written, without_mark (opening_mark blank level language label), ih begun level]
  | closing behind ih =>
      rw [written, written, without_mark (closing_mark blank level language), ih begun level]

theorem marks_written (marked : Marked language marks layout other) {unit : String}
    (blank : ∀ c ∈ unit.toList, isMargin c = true) (begun : Begun other) (level : Nat) :
    marksIn (layout.written unit level) = marks.map fun text => text.toList ++ ['\n'] := by
  have ended {text : String} (mark : text.toList.head? = some '#') : (text.toList ++ ['\n']).head? = some '#' := by
    rw [List.head?_append, mark]
    rfl
  induction marked generalizing level with
  | nothing => rfl
  | same step behind ih =>
      cases step with
      | line text =>
          obtain ⟨own, others⟩ := List.forall_mem_cons.mp begun
          obtain ⟨c, rest, trimmed, other⟩ := trimmed_begun blank level own
          rw [written, marks_in_other, ih others level]
          rw [trimmed]
          rintro ⟨⟩
          exact other (List.mem_cons_of_mem '\n' (List.mem_singleton_self '#'))
      | blank => exact ih begun level
      | indent => exact ih begun (level + 1)
      | dedent => exact ih begun (level - 1)
  | opening label behind ih =>
      rw [written, marks_in_mark (trimmed_opening blank level language label) (ended (opening_begun language label)),
        written, marks_in_other (by decide), ih begun level]
      rfl
  | closing behind ih =>
      rw [written, marks_in_other (by decide), written,
        marks_in_mark (trimmed_closing blank level language) (ended (closing_begun language)), ih begun level]
      rfl

-- A region has its marks around its members, of which there may be none.
theorem region (member : Member → Layout) (region : Region) :
    Marked language [(regionMarks language).opening region.label, (regionMarks language).closing]
      (regionLayout (some (regionMarks language)) member region) (regionLayout none member region) := by
  have members := refl language (Layout.spaced (region.members.map member))
  have closed := members.append (.closing .nothing)
  rw [List.append_nil] at closed
  exact .opening region.label closed

theorem regions (member : Member → Layout) (regions : List Region) :
    Marked language (marksOfRegions language regions) (regionsLayout (some (regionMarks language)) member regions)
      (regionsLayout none member regions) := by
  induction regions with
  | nil => exact .nothing
  | cons first rest ih =>
      have own : Marked language _ _ _ := region member first
      cases rest with
      | nil =>
          rw [regionsLayout, regionsLayout, List.map_singleton, List.map_singleton, spaced_one, spaced_one]
          exact own
      | cons next more =>
          rw [regionsLayout, regionsLayout, List.map_cons, List.map_cons, List.map_cons, List.map_cons, spaced_cons,
            spaced_cons]
          exact own.append (.same .blank ih)

theorem nest (marked : Marked language marks layout other) :
    Marked language marks (Layout.nested layout) (Layout.nested other) := marked.around [.indent] [.dedent]

theorem brace (marked : Marked language marks layout other) :
    Marked language marks (CSharp.braced layout) (CSharp.braced other) :=
  marked.nest.around [.line "\x7b"] [.line "\x7d"]

section

variable (settings : Helper.LayoutSettings)

theorem class_layout (language : Language) (cls : Code.Class) :
    Marked language (marksOfRegions language cls.regions) (classLayout language { settings with regions := true } cls)
      (classLayout language { settings with regions := false } cls) := by
  cases language with
  | csharp =>
      have inner : Marked .csharp _ _ _ := (regions (CSharp.member cls.name) cls.regions).brace
      exact (refl .csharp (CSharp.doc cls.doc)).append (.same _ inner)
  | visualBasic =>
      have inner : Marked .visualBasic _ _ _ := (regions VisualBasic.member cls.regions).nest
      exact Marked.around (VisualBasic.doc cls.doc) [.line "End Class"] (.same _ inner)

theorem file_layout (language : Language) (model : Model) :
    Marked language (marksOfRegions language model.cls.regions)
      (fileLayout language { settings with regions := true } model)
      (fileLayout language { settings with regions := false } model) := by
  have cls := class_layout settings language model.cls
  cases language with
  | csharp =>
      refine (refl .csharp (CSharp.banner model.banner ++ CSharp.imports model.imports)).append ?_
      by_cases outside : model.namespaceName.isEmpty = true
      · rw [if_pos outside, if_pos outside]
        exact cls
      · rw [if_neg outside, if_neg outside]
        exact .same _ cls.brace
  | visualBasic =>
      refine (refl .visualBasic (VisualBasic.banner model.banner ++ VisualBasic.options ++
        VisualBasic.imports model.imports)).append ?_
      by_cases outside : model.namespaceName.isEmpty = true
      · rw [if_pos outside, if_pos outside]
        exact cls
      · rw [if_neg outside, if_neg outside]
        exact cls.nest.around [.line ("Namespace " ++ VisualBasic.namespaceName model.namespaceName), .blank]
          [.line "End Namespace"]

end

end Marked

/-! ## Files -/

theorem balanced_file (language : Language) (settings : Helper.LayoutSettings) (model : Model) :
    Balanced model.Flat (fileLayout language settings model) := by
  cases language with
  | csharp => exact CSharp.balanced_file settings id
  | visualBasic => exact VisualBasic.balanced_file settings id

theorem lines_of_file (language : Language) (settings : Helper.LayoutSettings) {model : Model} (flat : model.Flat)
    (single : OneLine settings.indent) : lines endsLine (fileText language settings model).toList =
      (fileLayout language settings model).written settings.indent 0 :=
  lines_written single (one_line_of_balanced (balanced_file language settings model) flat) 0

/-- A file whose names are identifiers and whose texts have no line end is the same with regions as without, once the
marks of regions are taken out of it, each with the empty line at its inner side. These marks are those of its regions,
in their order, and without regions there are none. -/
theorem regions_only_marked (language : Language) (settings : Helper.LayoutSettings)
    (blank : ∀ c ∈ settings.indent.toList, c = ' ' ∨ c = '\t') {model : Model} (flat : model.Flat)
    (valid : ∀ name ∈ model.names, Identifier.isValid name = true) :
    withoutRegions language (fileText language { settings with regions := true } model) =
        fileText language { settings with regions := false } model ∧
      marksOf (fileText language { settings with regions := true } model) =
        (marksOfRegions language model.cls.regions).map (fun text => text.toList ++ ['\n']) ∧
      marksOf (fileText language { settings with regions := false } model) = [] := by
  have margin : ∀ c ∈ settings.indent.toList, isMargin c = true := fun c member => decide_eq_true (blank c member)
  have single : OneLine settings.indent := fun member => absurd (margin '\n' member) (by decide)
  have begun : Begun (fileLayout language { settings with regions := false } model) :=
    begun_file language rfl flat valid
  have marked := Marked.file_layout settings language model
  have bare := Marked.refl language (fileLayout language { settings with regions := false } model)
  have lines (regions : Bool) := lines_of_file language { settings with regions } flat single
  refine ⟨?_, ?_, ?_⟩
  · rw [withoutRegions, lines true, marked.without_written margin begun, flatten_written, String.ofList_toList]
    rfl
  · rw [marksOf, lines true, marked.marks_written margin begun]
  · rw [marksOf, lines false, bare.marks_written margin begun]
    rfl

-- A class with a region that holds nothing.
def shelf : Model where
  banner := ["  "]
  imports := ["System"]
  namespaceName := "Shop"
  cls := {
    name := "Shelf"
    regions := [
      ⟨"Empty", []⟩,
      ⟨"Say \"shelf\"", [.method { name := "Clear", params := [], returns := .void, body := [.comment "#region"] }]⟩] }

theorem regions_only_marked_shelf :
    withoutRegions .visualBasic (fileText .visualBasic { indent := "\t" } shelf) =
        fileText .visualBasic { indent := "\t", regions := false } shelf ∧
      marksOf (fileText .visualBasic { indent := "\t" } shelf) =
        ["#Region \"Empty\"\n".toList, "#End Region\n".toList, "#Region \"Say \"\"shelf\"\"\"\n".toList,
          "#End Region\n".toList] := by
  have flat : shelf.Flat := by
    refine ⟨by decide, by decide, by decide, by decide, ⟨by decide, by decide, nofun, nofun⟩, ?_⟩
    refine List.forall_mem_cons.mpr ⟨⟨by decide, nofun⟩, List.forall_mem_singleton.mpr ⟨by decide, ?_⟩⟩
    exact List.forall_mem_singleton.mpr
      ⟨⟨by decide, by decide, nofun, nofun⟩, by decide, nofun, trivial, (by decide : OneLine "#region"), trivial⟩
  have valid : ∀ name ∈ shelf.names, Identifier.isValid name = true := by decide +kernel
  obtain ⟨without, marks, _⟩ := regions_only_marked .visualBasic { indent := "\t" }
    (List.forall_mem_singleton.mpr (.inr rfl)) flat valid
  exact ⟨without, marks.trans (by decide +kernel)⟩

end Companion.Source
