import Companion.Generation
import Companion.Proofs.Helper.Members

/-!
What is left of a source text without its comments. Main statement: `code_of_schema`, of two schemas for
one helper class the texts differ, comments apart, by what their names put behind a line end and by
nothing else.
-/
set_option autoImplicit false

namespace Companion.Source

/-! ## Lines -/

-- The characters that may be taken for the end of a line.
def lineEnds : List Char := ['\n', '\r', '\x85', '\u2028', '\u2029']

-- The lines of a text, each with the character that ends it.
def lines (ends : Char → Bool) : List Char → List (List Char)
  | [] => []
  | c :: rest =>
    if ends c then [c] :: lines ends rest
    else
      match lines ends rest with
      | [] => [[c]]
      | line :: others => (c :: line) :: others

-- A text that is empty or ends with a line end.
def Closed (ends : Char → Bool) (text : List Char) : Prop :=
  ∀ last, text.getLast? = some last → ends last = true

variable {ends : Char → Bool}

theorem closed_nil : Closed ends [] := nofun

theorem closed_append {first second : List Char} (closed_first : Closed ends first)
    (closed_second : Closed ends second) : Closed ends (first ++ second) := by
  intro last found
  rw [List.getLast?_append] at found
  cases behind : second.getLast? with
  | none =>
      rw [behind] at found
      exact closed_first last found
  | some other =>
      rw [behind] at found
      cases found
      exact closed_second last behind

theorem lines_ne_nil {text : List Char} (begun : text ≠ []) : lines ends text ≠ [] := by
  cases text with
  | nil => exact absurd rfl begun
  | cons c rest =>
      rw [lines]
      split
      · exact List.cons_ne_nil _ _
      · split <;> exact List.cons_ne_nil _ _

-- A line end stands between the lines of what is in front of it and of what is behind.
theorem lines_append {front : List Char} (closed : Closed ends front) (back : List Char) :
    lines ends (front ++ back) = lines ends front ++ lines ends back := by
  induction front with
  | nil => rfl
  | cons c rest ih =>
      rw [List.cons_append, lines, lines]
      by_cases ended : ends c = true
      · have behind : Closed ends rest := by
          intro last found
          refine closed last ?_
          rw [List.getLast?_cons, found]
          rfl
        rw [if_pos ended, if_pos ended, ih behind, List.cons_append]
      · cases rest with
        | nil => exact absurd (closed c rfl) ended
        | cons next others =>
            have behind : Closed ends (next :: others) := by
              intro last found
              refine closed last ?_
              rw [List.getLast?_cons_cons, found]
            rw [if_neg ended, if_neg ended, ih behind]
            cases split : lines ends (next :: others) with
            | nil => exact absurd split (lines_ne_nil (List.cons_ne_nil next others))
            | cons line more => rfl

theorem lines_within {opening : List Char} (within : ∀ c ∈ opening, ends c = false) {text first : List Char}
    {others : List (List Char)} (split : lines ends text = first :: others) :
    lines ends (opening ++ text) = (opening ++ first) :: others := by
  induction opening with
  | nil => exact split
  | cons c rest ih =>
      rw [List.cons_append, lines, within c List.mem_cons_self,
        ih fun other member => within other (List.mem_cons_of_mem c member)]
      rfl

/-! ## Comments -/

-- What a comment begins with.
def commentMark : Language → List Char
  | .csharp => "//".toList
  | .visualBasic => "'".toList

def isComment (language : Language) (line : List Char) : Bool :=
  (commentMark language).isPrefixOf (line.dropWhile Text.isBlank)

def withoutComments (language : Language) (lines : List (List Char)) : List Char :=
  (lines.filter fun line => !isComment language line).flatten

-- A text without the lines that are comments.
def code (ends : Char → Bool) (language : Language) (text : List Char) : List Char :=
  withoutComments language (lines ends text)

-- What a comment leaves behind if its text does not stay on one line.
def leaked (ends : Char → Bool) (language : Language) (comment : List Char) : List Char :=
  withoutComments language (lines ends (comment ++ ['\n'])).tail

theorem code_append {front : List Char} (closed : Closed ends front) (language : Language)
    (back : List Char) : code ends language (front ++ back) =
      code ends language front ++ code ends language back := by
  simp [code, withoutComments, lines_append closed]

theorem leaked_one_line {comment : List Char} (within : ∀ c ∈ comment, ends c = false)
    (language : Language) : leaked ends language comment = [] := by
  have last : lines ends ['\n'] = [['\n']] := by
    rw [lines]
    split <;> rfl
  rw [leaked, lines_within within last]
  rfl

/-! ## Layouts -/

def docMark : Language → String
  | .csharp => "/// "
  | .visualBasic => "''' "

def docLayout : Language → Code.Doc → Layout
  | .csharp => CSharp.doc
  | .visualBasic => VisualBasic.doc

def classLayout : Language → Helper.LayoutSettings → Code.Class → Layout
  | .csharp => CSharp.classLayout
  | .visualBasic => VisualBasic.classLayout

theorem doc_layout (language : Language) (doc : Code.Doc) :
    docLayout language doc = doc.xmlLines.map fun line => .line (docMark language ++ line) := by
  cases language <;> rfl

-- The comment of the class stands in one place of the file.
theorem class_layout_doc (language : Language) (settings : Helper.LayoutSettings) (cls : Code.Class) :
    ∃ rest, ∀ doc, classLayout language settings { cls with doc } = docLayout language doc ++ rest := by
  cases language with
  | csharp =>
      let marks := if settings.regions then some CSharp.regionMarks else none
      exact ⟨.line ("public " ++ (if cls.isPartial then "partial " else "") ++ "class " ++
        CSharp.identifier cls.name) :: CSharp.braced (regionsLayout marks (CSharp.member cls.name) cls.regions),
        fun _ => rfl⟩
  | visualBasic =>
      let marks := if settings.regions then some VisualBasic.regionMarks else none
      exact ⟨.line ((if cls.isPartial then "Partial " else "") ++ "Public Class " ++
        VisualBasic.identifier cls.name) :: Layout.nested (regionsLayout marks VisualBasic.member cls.regions) ++
        [.line "End Class"], fun _ => List.append_assoc _ _ _⟩

theorem file_layout_class (language : Language) (settings : Helper.LayoutSettings) (model : Code.Model) :
    ∃ before after, ∀ cls, fileLayout language settings { model with cls } =
      before ++ (classLayout language settings cls ++ after) := by
  by_cases outside : model.namespaceName.isEmpty = true
  · cases language with
    | csharp =>
        refine ⟨CSharp.banner model.banner ++ CSharp.imports model.imports, [], ?_⟩
        intro cls
        simp [fileLayout, CSharp.file, outside, classLayout]
    | visualBasic =>
        refine ⟨VisualBasic.banner model.banner ++ VisualBasic.options ++ VisualBasic.imports model.imports,
          [], ?_⟩
        intro cls
        simp [fileLayout, VisualBasic.file, outside, classLayout]
  · cases language with
    | csharp =>
        refine ⟨CSharp.banner model.banner ++ CSharp.imports model.imports ++
          [.line ("namespace " ++ CSharp.namespaceName model.namespaceName), .line "\x7b", .indent],
          [.dedent, .line "\x7d"], ?_⟩
        intro cls
        simp [fileLayout, CSharp.file, outside, classLayout, CSharp.braced, Layout.nested]
    | visualBasic =>
        refine ⟨VisualBasic.banner model.banner ++ VisualBasic.options ++ VisualBasic.imports model.imports ++
          [.line ("Namespace " ++ VisualBasic.namespaceName model.namespaceName), .blank, .indent],
          [.dedent, .line "End Namespace"], ?_⟩
        intro cls
        simp [fileLayout, VisualBasic.file, outside, classLayout, Layout.nested]

-- The model with another comment on its class.
def documented (model : Code.Model) (doc : Code.Doc) : Code.Model :=
  { model with cls := { model.cls with doc } }

theorem file_layout_doc (language : Language) (settings : Helper.LayoutSettings) (model : Code.Model) :
    ∃ before after, ∀ doc, fileLayout language settings (documented model doc) =
      before ++ (docLayout language doc ++ after) := by
  obtain ⟨before, after, file⟩ := file_layout_class language settings model
  obtain ⟨rest, cls⟩ := class_layout_doc language settings model.cls
  refine ⟨before, rest ++ after, ?_⟩
  intro doc
  rw [documented, file, cls, List.append_assoc]

section

variable (feed : ends '\n' = true)

include feed

theorem closed_line_at (unit : String) (level : Nat) (text : String) :
    Closed ends (Layout.lineAt unit level text).toList := by
  have line (text : String) : Closed ends (text ++ "\n").toList := by
    intro last found
    rw [String.toList_append, List.getLast?_append] at found
    cases found
    exact feed
  rw [Layout.lineAt]
  split
  · exact line ""
  · exact line _

theorem closed_text (unit : String) (level : Nat) (layout : Layout) :
    Closed ends (layout.text unit level).toList := by
  induction layout generalizing level with
  | nil => exact closed_nil
  | cons step rest ih =>
      cases step with
      | line text =>
          rw [Layout.text, String.toList_append]
          exact closed_append (closed_line_at feed unit level text) (ih level)
      | blank =>
          rw [Layout.text, String.toList_append]
          exact closed_append (closed_line_at feed unit level "") (ih level)
      | indent => exact ih (level + 1)
      | dedent => exact ih (level - 1)

theorem code_layout_append (language : Language) (unit : String) (level : Nat) (front back : Layout) :
    code ends language ((front ++ back).text unit level).toList =
      code ends language (front.text unit level).toList ++
        code ends language (back.text unit (front.levelAfter level)).toList := by
  rw [Layout.text_append, String.toList_append, code_append (closed_text feed unit level front)]

end

theorem not_ended (only : ∀ c, ends c = true → c ∈ lineEnds) {text : List Char}
    (plain : ∀ c ∈ text, c ∉ lineEnds) : ∀ c ∈ text, ends c = false := by
  intro c member
  cases ended : ends c with
  | false => rfl
  | true => exact absurd (only c ended) (plain c member)

theorem plain_of_all {text : List Char} (free : text.all (fun c => !lineEnds.contains c) = true) :
    ∀ c ∈ text, c ∉ lineEnds := by
  intro c member ended
  have absent := List.all_eq_true.mp free c member
  rw [List.contains_iff_mem.mpr ended] at absent
  cases absent

theorem doc_mark_plain (language : Language) : ∀ c ∈ (docMark language).toList, c ∉ lineEnds := by
  cases language <;> exact plain_of_all rfl

section

variable {unit : String} (blank : ∀ c ∈ unit.toList, Text.isBlank c = true ∧ c ∉ lineEnds)

include blank

theorem margin_blank (level : Nat) :
    ∀ c ∈ (Layout.margin unit level).toList, Text.isBlank c = true ∧ c ∉ lineEnds := by
  induction level with
  | zero => exact nofun
  | succ level ih =>
      intro c member
      rw [Layout.margin, String.toList_append] at member
      rcases List.mem_append.mp member with inUnit | inMargin
      · exact blank c inUnit
      · exact ih c inMargin

theorem is_comment_doc (language : Language) (level : Nat) (rest : List Char) :
    isComment language ((Layout.margin unit level).toList ++ (docMark language).toList ++ rest) = true := by
  have skipped : ((Layout.margin unit level).toList ++ (docMark language).toList ++ rest).dropWhile Text.isBlank =
      (docMark language).toList ++ rest := by
    rw [List.append_assoc, List.dropWhile_append_of_pos fun c member => (margin_blank blank level c member).1]
    cases language <;> rfl
  rw [isComment, skipped]
  cases language <;> rfl

theorem code_doc_line (only : ∀ c, ends c = true → c ∈ lineEnds) (language : Language) (level : Nat)
    (text : String) : code ends language (Layout.lineAt unit level (docMark language ++ text)).toList =
      leaked ends language text.toList := by
  have marked : (docMark language ++ text).isEmpty = false := by
    cases language <;> simp [docMark]
  have spelled : (Layout.lineAt unit level (docMark language ++ text)).toList =
      (Layout.margin unit level).toList ++ (docMark language).toList ++ (text.toList ++ ['\n']) := by
    rw [Layout.lineAt, marked]
    simp
  have within : ∀ c ∈ (Layout.margin unit level).toList ++ (docMark language).toList, ends c = false := by
    refine not_ended only ?_
    intro c member
    rcases List.mem_append.mp member with inMargin | inMark
    · exact (margin_blank blank level c inMargin).2
    · exact doc_mark_plain language c inMark
  have begun : lines ends (text.toList ++ ['\n']) ≠ [] := lines_ne_nil (by simp)
  obtain ⟨first, others, split⟩ := List.exists_cons_of_ne_nil begun
  have commented := is_comment_doc blank language level first
  rw [code, spelled, lines_within within split, leaked, split, withoutComments,
    List.filter_cons_of_neg (by simpa using commented)]
  rfl

theorem code_doc (feed : ends '\n' = true) (only : ∀ c, ends c = true → c ∈ lineEnds) (language : Language)
    (level : Nat) (summary : String) :
    code ends language ((docLayout language { summary }).text unit level).toList =
      leaked ends language summary.toList := by
  have opened : leaked ends language "<summary>".toList = [] :=
    leaked_one_line (not_ended only (plain_of_all rfl)) language
  have closed : leaked ends language "</summary>".toList = [] :=
    leaked_one_line (not_ended only (plain_of_all rfl)) language
  have spelled : ((docLayout language { summary }).text unit level).toList =
      (Layout.lineAt unit level (docMark language ++ "<summary>")).toList ++
        ((Layout.lineAt unit level (docMark language ++ summary)).toList ++
          (Layout.lineAt unit level (docMark language ++ "</summary>")).toList) := by
    simp [doc_layout, Code.Doc.xmlLines, Layout.text]
  rw [spelled, code_append (closed_line_at feed unit level _), code_append (closed_line_at feed unit level _),
    code_doc_line blank only, code_doc_line blank only, code_doc_line blank only, opened, closed,
    List.nil_append, List.append_nil]

end

/-! ## Helper classes -/

theorem indent_blank : ∀ c ∈ (Helper.LayoutSettings.indent {}).toList, Text.isBlank c = true ∧ c ∉ lineEnds := by
  intro c member
  have spaces : (Helper.LayoutSettings.indent {}).toList = List.replicate 4 ' ' := rfl
  rw [spaces] at member
  rw [List.eq_of_mem_replicate member]
  exact ⟨rfl, by decide⟩

-- What the comment of the class leaves of the name of the schema.
def leakedName (ends : Char → Bool) (language : Language) (descriptor : Descriptor) : List Char :=
  leaked ends language (Helper.CommentSource.classDoc ⟨descriptor, "", ""⟩).summary.toList

theorem level_after_doc (language : Language) (level : Nat) (doc : Code.Doc) :
    (docLayout language doc).levelAfter level = level := by
  rw [doc_layout]
  induction doc.xmlLines with
  | nil => rfl
  | cons line rest ih => exact ih

theorem code_documented (feed : ends '\n' = true) (only : ∀ c, ends c = true → c ∈ lineEnds)
    (language : Language) (model : Code.Model) :
    ∃ before after, ∀ summary : String,
      code ends language (fileText language {} (documented model { summary })).toList =
        before ++ leaked ends language summary.toList ++ after := by
  obtain ⟨front, back, file⟩ := file_layout_doc language {} model
  refine ⟨code ends language (front.text (Helper.LayoutSettings.indent {}) 0).toList,
    code ends language (back.text (Helper.LayoutSettings.indent {}) (front.levelAfter 0)).toList, ?_⟩
  intro summary
  rw [fileText, file, code_layout_append feed, code_layout_append feed, level_after_doc,
    code_doc indent_blank feed only, List.append_assoc]

theorem class_name_of_build {settings : Helper.ContentSettings} {descriptor : Descriptor} {model : Code.Model}
    (built : Helper.build settings descriptor = .ok model) :
    ∃ helperName, Helper.className? descriptor.inputFile = some helperName := by
  obtain ⟨helperName, accepted, _⟩ := Helper.build_accepted built
  exact ⟨helperName, Descriptor.class_name_of_named accepted.named⟩

-- The model for one schema is that for another one with another comment on its class.
theorem model_of_build {descriptor : Descriptor} {model : Code.Model} {helperName : String}
    (named : Helper.className? descriptor.inputFile = some helperName)
    (built : Helper.build {} descriptor = .ok model) (base : Descriptor)
    (same : { base with inputFile := descriptor.inputFile, kind := descriptor.kind } = descriptor) :
    model = documented {
      banner := Helper.ContentSettings.bannerLines {}
      imports := Helper.imports
      namespaceName := base.namespaceName
      cls := Helper.helperClass ⟨base, helperName, "xsdhelper"⟩ {} }
      (Helper.CommentSource.classDoc ⟨descriptor, "", ""⟩) := by
  obtain ⟨_, _, rest⟩ := ok_of_bind built
  obtain ⟨name, found, made⟩ := ok_of_bind rest
  rw [Descriptor.helperClassName, named] at found
  cases found
  cases made
  rw [← same]
  rfl

theorem mem_escape {c : Char} {text : String} (member : c ∈ (Helper.escapeMarkup text).toList) :
    c ∈ text.toList ∨ c ∉ lineEnds := by
  rw [Helper.escapeMarkup, String.toList_ofList] at member
  obtain ⟨letter, inText, escaped⟩ := List.mem_flatMap.mp member
  unfold Helper.escapeMarkupChar at escaped
  split at escaped
  · exact .inr (plain_of_all rfl c escaped)
  · exact .inr (plain_of_all rfl c escaped)
  · exact .inr (plain_of_all rfl c escaped)
  · rw [List.mem_singleton.mp escaped]
    exact .inl inText

-- Apart from the name of the schema no text in the comment of a class ends a line.
theorem mem_class_doc {c : Char} {descriptor : Descriptor}
    (member : c ∈ (Helper.CommentSource.classDoc ⟨descriptor, "", ""⟩).summary.toList) :
    c ∈ descriptor.inputFileName.toList ∨ c ∉ lineEnds := by
  have fixed : ∀ c ∈ "Helper class to ease working with ".toList ++ " autogenerated ".toList, c ∉ lineEnds :=
    plain_of_all rfl
  have word : ∀ c ∈ descriptor.kind.word.toList, c ∉ lineEnds := by
    cases descriptor.kind <;> exact plain_of_all rfl
  have spelled : (Helper.CommentSource.classDoc ⟨descriptor, "", ""⟩).summary =
      "Helper class to ease working with " ++ Helper.escapeMarkup descriptor.inputFileName ++
        " autogenerated " ++ descriptor.kind.word := rfl
  rw [spelled, String.toList_append, String.toList_append, String.toList_append] at member
  rcases List.mem_append.mp member with before | inWord
  · rcases List.mem_append.mp before with before | inMiddle
    · rcases List.mem_append.mp before with inOpening | inName
      · exact .inr (fixed c (List.mem_append_left _ inOpening))
      · exact mem_escape inName
    · exact .inr (fixed c (List.mem_append_right _ inMiddle))
  · exact .inr (word c inWord)

-- A name that ends no line stays on the line of its comment.
theorem leaked_name_within (only : ∀ c, ends c = true → c ∈ lineEnds) (language : Language)
    {descriptor : Descriptor} (within : ∀ c ∈ descriptor.inputFileName.toList, ends c = false) :
    leakedName ends language descriptor = [] := by
  refine leaked_one_line ?_ language
  intro c member
  rcases mem_class_doc member with inName | plain
  · exact within c inName
  · cases ended : ends c with
    | false => rfl
    | true => exact absurd (only c ended) plain

section

variable (feed : ends '\n' = true) (only : ∀ c, ends c = true → c ∈ lineEnds) (language : Language)
  (first second : Descriptor)
  (same : second = { first with inputFile := second.inputFile, kind := second.kind })
  (named : Helper.className? first.inputFile = Helper.className? second.inputFile)
  {firstText secondText : String}
  (firstMade : Generation.sourceText {} language first = .ok firstText)
  (secondMade : Generation.sourceText {} language second = .ok secondText)

include feed only same named firstMade secondMade

theorem code_eq_iff_leaked : code ends language firstText.toList = code ends language secondText.toList ↔
    leakedName ends language first = leakedName ends language second := by
  obtain ⟨firstModel, firstBuilt, written⟩ := ok_of_bind firstMade
  cases written
  obtain ⟨secondModel, secondBuilt, written⟩ := ok_of_bind secondMade
  cases written
  obtain ⟨helperName, helper⟩ := class_name_of_build firstBuilt
  have firstSame := model_of_build helper firstBuilt first rfl
  have secondSame := model_of_build (named ▸ helper) secondBuilt first same.symm
  obtain ⟨before, after, cut⟩ := code_documented feed only language {
    banner := Helper.ContentSettings.bannerLines {}
    imports := Helper.imports
    namespaceName := first.namespaceName
    cls := Helper.helperClass ⟨first, helperName, "xsdhelper"⟩ {} }
  have firstCut := cut (Helper.CommentSource.classDoc ⟨first, "", ""⟩).summary
  have secondCut := cut (Helper.CommentSource.classDoc ⟨second, "", ""⟩).summary
  rw [firstSame, secondSame]
  constructor
  · intro equal
    have joined := firstCut.symm.trans (equal.trans secondCut)
    exact List.append_cancel_left (List.append_cancel_right joined)
  · intro equal
    refine firstCut.trans (Eq.trans ?_ secondCut.symm)
    exact congrArg (fun part => before ++ part ++ after) equal

/-- Two schemas for one helper class give texts that differ, comments apart, exactly if what their names
leak differs. Names that end no line leak nothing. -/
theorem code_of_schema :
    (code ends language firstText.toList = code ends language secondText.toList ↔
        leakedName ends language first = leakedName ends language second) ∧
      ((∀ c ∈ first.inputFileName.toList, ends c = false) →
        (∀ c ∈ second.inputFileName.toList, ends c = false) →
        code ends language firstText.toList = code ends language secondText.toList) := by
  have differ := code_eq_iff_leaked feed only language first second same named firstMade secondMade
  refine ⟨differ, ?_⟩
  intro firstWithin secondWithin
  rw [differ, leaked_name_within only language firstWithin, leaked_name_within only language secondWithin]

end

def wrapping (schema : String) (kind : SchemaKind) : Descriptor :=
  { Descriptor.book with inputFile := .ofString schema, kind }

theorem code_of_schema_book : ∃ classText dataText,
    Generation.sourceText {} .csharp (wrapping "book.xsd" .plainClass) = .ok classText ∧
    Generation.sourceText {} .csharp (wrapping "data/book.xml" .dataSet) = .ok dataText ∧
    code (lineEnds.contains ·) .csharp classText.toList = code (lineEnds.contains ·) .csharp dataText.toList := by
  have only : ∀ c, lineEnds.contains c = true → c ∈ lineEnds := fun c ended => List.contains_iff_mem.mp ended
  have within {text : List Char} (free : text.all (fun c => !lineEnds.contains c) = true) :
      ∀ c ∈ text, lineEnds.contains c = false := by
    intro c member
    simpa using List.all_eq_true.mp free c member
  obtain ⟨_, equal⟩ := code_of_schema (by decide) only .csharp (wrapping "book.xsd" .plainClass)
    (wrapping "data/book.xml" .dataSet) rfl rfl rfl rfl
  exact ⟨_, _, rfl, rfl, equal (within rfl) (within rfl)⟩

-- Two schemas for one helper class whose texts differ in more than their comments.
def Leaks (language : Language) (first second : Descriptor) : Prop :=
  second = { first with inputFile := second.inputFile, kind := second.kind } ∧
    Helper.className? first.inputFile = Helper.className? second.inputFile ∧
    ∃ firstText secondText, Generation.sourceText {} language first = .ok firstText ∧
      Generation.sourceText {} language second = .ok secondText ∧
      code (· = '\n') language firstText.toList ≠ code (· = '\n') language secondText.toList

theorem leaks_line_feed (language : Language) :
    Leaks language (wrapping "a\nb.xsd" .plainClass) (wrapping "a_b.xsd" .plainClass) := by
  have only : ∀ c, decide (c = '\n') = true → c ∈ lineEnds := by
    intro c ended
    rw [of_decide_eq_true ended]
    decide
  have split : Helper.className? (wrapping "a\nb.xsd" .plainClass).inputFile = some "a_b_HelperClass" := rfl
  have whole : Helper.className? (wrapping "a_b.xsd" .plainClass).inputFile = some "a_b_HelperClass" := rfl
  have named := split.trans whole.symm
  refine ⟨rfl, named, _, _, rfl, rfl, ?_⟩
  rw [Ne, code_eq_iff_leaked (by decide) only language (wrapping "a\nb.xsd" .plainClass)
    (wrapping "a_b.xsd" .plainClass) rfl named rfl rfl]
  have leaks : leakedName (· = '\n') language (wrapping "a\nb.xsd" .plainClass) =
      "b.xsd autogenerated class\n".toList := by
    cases language <;> rfl
  have stays : leakedName (· = '\n') language (wrapping "a_b.xsd" .plainClass) = [] := by
    cases language <;> rfl
  rw [leaks, stays]
  decide

-- A line feed in the name of a schema ends its comment, in either language.
theorem schema_name_leaks :
    Leaks .csharp (wrapping "a\nb.xsd" .plainClass) (wrapping "a_b.xsd" .plainClass) ∧
      Leaks .visualBasic (wrapping "a\nb.xsd" .plainClass) (wrapping "a_b.xsd" .plainClass) :=
  ⟨leaks_line_feed .csharp, leaks_line_feed .visualBasic⟩

end Companion.Source
