import Companion.Proofs.Source.Indentation

/-!
Source of either language, at any level. Main statement: `source_movable`, statements, members and files leave the
level as they find it, and are written further in by a margin in front of their lines.
-/
set_option autoImplicit false

namespace Companion.Source

open Code Layout

/-! ## Statements -/

namespace Framing

-- Lines that stay on their line if what they say does.
def Keeps (line : Item → String) : Prop := ∀ item : Item, item.Flat → OneLine (line item)

variable {framing : Framing} {line : Item → String} {flat : Prop}

theorem balanced_markers (keeps : Keeps line) (kinds : List Marker) :
    Balanced flat (lineSteps line (kinds.map .marker)) := by
  rw [lineSteps, List.map_map]
  exact .of_lines fun _ kind _ => keeps (.marker kind) trivial

theorem balanced_enclosed (keeps : Keeps line) {body : Layout} (inner : Balanced flat body) :
    Balanced flat (framing.enclosedLayout line body) :=
  ((balanced_markers keeps _).append inner.nest).append (balanced_markers keeps _)

theorem balanced_marked (keeps : Keeps line) (kind : Marker) {body : Layout} (inner : Balanced flat body) :
    Balanced flat (.line (line (.marker kind)) :: framing.enclosedLayout line body) :=
  .line (fun _ => keeps (.marker kind) trivial) (balanced_enclosed keeps inner)

theorem balanced_optional (keeps : Keeps line) (kind : Marker) (block : Block) {body : Layout}
    (inner : Balanced flat body) : Balanced flat (framing.optionalLayout line kind block body) := by
  rw [optionalLayout]
  by_cases empty : block.isEmpty = true
  · rw [if_pos empty]
    exact .nil
  · rw [if_neg empty]
    exact balanced_marked keeps kind inner

-- By the recursion of the printers: each part with blocks in it is made of enclosed layouts.
mutual
theorem balanced_statement (keeps : Keeps line) : (statement : Statement) → (flat → statement.Flat) →
    Balanced flat (framing.statementLayout line statement)
  | .branch condition whenTrue whenFalse, within => by
      have first := balanced_block keeps whenTrue fun holds => (within holds).2.1
      have second := balanced_block keeps whenFalse fun holds => (within holds).2.2
      rw [statementLayout]
      apply Balanced.append
      · apply Balanced.append
        · exact .line (fun holds => keeps (.condition condition) (within holds).1) (balanced_enclosed keeps first)
        · exact balanced_optional keeps .otherwise whenFalse second
      · exact balanced_markers keeps _
  | .attempt body handlers final, within => by
      have first := balanced_block keeps body fun holds => (within holds).1
      have second := balanced_handlers keeps handlers fun holds => (within holds).2.1
      have third := balanced_block keeps final fun holds => (within holds).2.2
      rw [statementLayout]
      apply Balanced.append
      · apply Balanced.append
        · exact (balanced_marked keeps .attempt first).append second
        · exact balanced_optional keeps .final final third
      · exact balanced_markers keeps _
  | .declare _ _ _, within | .assign _ _, within | .evaluate _, within | .leave _, within | .rethrow, within
  | .comment _, within => .one fun holds => keeps (.single _) (within holds)
theorem balanced_block (keeps : Keeps line) : (block : Block) → (flat → BlockFlat block) →
    Balanced flat (framing.layout line block)
  | [], _ => .nil
  | first :: rest, within => by
      rw [layout]
      exact (balanced_statement keeps first fun holds => (within holds).1).append
        (balanced_block keeps rest fun holds => (within holds).2)
theorem balanced_handlers (keeps : Keeps line) : (handlers : List Handler) → (flat → HandlersFlat handlers) →
    Balanced flat (framing.handlersLayout line handlers)
  | [], _ => .nil
  | ⟨exception, binding, body⟩ :: rest, within => by
      have first := balanced_block keeps body fun holds => (within holds).1.2.2
      have caught : flat → Item.Flat (.handle exception binding) :=
        fun holds => ⟨(within holds).1.1, (within holds).1.2.1⟩
      rw [handlersLayout]
      exact (Balanced.line (fun holds => keeps _ (caught holds)) (balanced_enclosed keeps first)).append
        (balanced_handlers keeps rest fun holds => (within holds).2)
end

end Framing

/-! ## Members -/

section

variable {flat : Prop}

theorem one_line_xml {doc : Doc} (whole : doc.Flat) : ∀ line ∈ doc.xmlLines, OneLine line := by
  have tag {opening closing : String} (around : OneLine opening ∧ OneLine closing) {text : Option String}
      (each : ∀ line ∈ text, OneLine line) :
      ∀ line ∈ text.toList.map fun line => opening ++ line ++ closing, OneLine line := by
    rw [List.forall_mem_map]
    intro line member
    exact one_line_around around.1 (each line (Option.mem_toList.mp member)) around.2
  rw [Doc.xmlLines, List.forall_mem_append, List.forall_mem_append, List.forall_mem_append, List.forall_mem_map]
  refine ⟨⟨⟨?_, ?_⟩, tag (by decide) whole.returns⟩, tag (by decide) whole.remarks⟩
  · rw [List.forall_mem_cons, List.forall_mem_cons, List.forall_mem_singleton]
    exact ⟨by decide, whole.summary, by decide⟩
  · intro param member
    obtain ⟨name, text⟩ := whole.params param member
    have opening := one_line_around (by decide : OneLine "<param name=\"") name (by decide : OneLine "\">")
    exact one_line_around opening text (by decide)

theorem balanced_doc (language : Language) {doc : Doc} (whole : flat → doc.Flat) :
    Balanced flat (docLayout language doc) := by
  have mark : OneLine (docMark language) := by cases language <;> decide
  rw [doc_layout]
  exact .of_lines fun holds line member => one_line_append.mpr ⟨mark, one_line_xml (whole holds) line member⟩

theorem balanced_region {marks : Option RegionMarks}
    (closed : ∀ own ∈ marks, (∀ {label : String}, OneLine label → OneLine (own.opening label)) ∧ OneLine own.closing)
    {member : Member → Layout} {region : Region} (labelled : flat → OneLine region.label)
    (inner : ∀ value ∈ region.members, Balanced flat (member value)) :
    Balanced flat (regionLayout marks member region) := by
  have members : Balanced flat (Layout.spaced (region.members.map member)) :=
    .spaced (List.forall_mem_map.mpr inner)
  cases marks with
  | none => exact members
  | some own =>
      obtain ⟨opening, closing⟩ := closed own rfl
      exact .line (fun holds => opening (labelled holds)) (.blank (members.append (.blank (.one fun _ => closing))))

theorem balanced_regions {marks : Option RegionMarks}
    (closed : ∀ own ∈ marks, (∀ {label : String}, OneLine label → OneLine (own.opening label)) ∧ OneLine own.closing)
    {member : Member → Layout} {regions : List Region} (whole : flat → ∀ region ∈ regions, region.Flat)
    (inner : ∀ region ∈ regions, ∀ value ∈ region.members, (flat → value.Flat) → Balanced flat (member value)) :
    Balanced flat (regionsLayout marks member regions) := by
  refine .spaced (List.forall_mem_map.mpr fun region among => ?_)
  refine balanced_region closed (fun holds => (whole holds region among).label) ?_
  intro value member
  exact inner region among value member fun holds => (whole holds region among).members value member

-- Lines that a mark stands in front of, and an empty one behind them.
theorem balanced_banner {mark : String} (own : OneLine mark) {texts : List String}
    (whole : flat → ∀ text ∈ texts, OneLine text) :
    Balanced flat
      (texts.map (fun text => .line (Text.trimEnd (mark ++ text))) ++ if texts.isEmpty then [] else [.blank]) := by
  have lines : Balanced flat (texts.map fun text => .line (Text.trimEnd (mark ++ text))) :=
    .of_lines fun holds text member => one_line_trimmed (one_line_append.mpr ⟨own, whole holds text member⟩)
  by_cases empty : texts.isEmpty = true
  · rw [if_pos empty]
    exact lines.append .nil
  · rw [if_neg empty]
    exact lines.append (.blank .nil)

end

namespace CSharp

variable {flat : Prop}

theorem balanced_braced {body : Layout} (inner : Balanced flat body) : Balanced flat (braced body) := by
  rw [braced_layout]
  exact Framing.balanced_enclosed line_flat inner

theorem balanced_statement {value : Statement} (whole : flat → value.Flat) :
    Balanced flat (CSharp.statement value) := by
  rw [statement_layout]
  exact Framing.balanced_statement line_flat value whole

theorem balanced_block {value : Block} (whole : flat → BlockFlat value) : Balanced flat (CSharp.block value) := by
  rw [block_layout]
  exact Framing.balanced_block line_flat value whole

theorem one_line_params {values : List Param} (whole : ∀ param ∈ values, param.Flat) : OneLine (params values) := by
  rw [params]
  refine one_line_intercalate (by decide) (List.forall_mem_map.mpr fun param member => ?_)
  obtain ⟨name, type⟩ := whole param member
  exact one_line_append.mpr ⟨one_line_append.mpr ⟨type_flat type, by decide⟩, identifier_flat name⟩

theorem one_line_called {opening : String} (front : OneLine opening) {values : List Param}
    (whole : ∀ param ∈ values, param.Flat) : OneLine (opening ++ parenthesized (params values)) :=
  one_line_append.mpr ⟨front, one_line_around (by decide) (one_line_params whole) (by decide)⟩

theorem balanced_constructor {className : String} (named : flat → OneLine className) {value : Constructor}
    (whole : flat → value.Flat) : Balanced flat (constructor className value) := by
  have header : flat → OneLine ("public " ++ identifier className ++ parenthesized (params value.params)) :=
    fun holds => one_line_called (one_line_append.mpr ⟨by decide, identifier_flat (named holds)⟩) (whole holds).params
  have body : Balanced flat (CSharp.block value.initializers ++ CSharp.block value.body) :=
    (balanced_block fun holds => (whole holds).initializers).append (balanced_block fun holds => (whole holds).body)
  exact (balanced_doc .csharp fun holds => (whole holds).doc).append (.line header (balanced_braced body))

theorem balanced_property {value : Property} (whole : flat → value.Flat) : Balanced flat (property value) := by
  have doc := balanced_doc .csharp fun holds => (whole holds).doc
  have header : flat → OneLine ("public " ++ typeName value.type ++ " " ++ identifier value.name) :=
    fun holds => one_line_append.mpr
      ⟨one_line_around (by decide) (type_flat (whole holds).type) (by decide), identifier_flat (whole holds).name⟩
  rw [property]
  cases accessors : value.accessors with
  | auto => exact doc.append (.one fun holds => one_line_append.mpr ⟨header holds, by decide⟩)
  | explicit getter setter =>
      have own : flat → BlockFlat getter ∧ BlockFlat setter := fun holds => (whole holds).explicit accessors
      have get : Balanced flat (.line "get" :: braced (CSharp.block getter)) :=
        .line (fun _ => by decide) (balanced_braced (balanced_block fun holds => (own holds).1))
      have set : Balanced flat (.line "set" :: braced (CSharp.block setter)) :=
        .line (fun _ => by decide) (balanced_braced (balanced_block fun holds => (own holds).2))
      exact doc.append (.line header (balanced_braced (get.append set)))

theorem balanced_method {value : Method} (whole : flat → value.Flat) : Balanced flat (method value) := by
  have header : flat → OneLine ("public " ++ typeName value.returns ++ " " ++ identifier value.name ++
      parenthesized (params value.params)) := by
    intro holds
    have type := one_line_around (by decide : OneLine "public ") (type_flat (whole holds).returns)
      (by decide : OneLine " ")
    exact one_line_called (one_line_append.mpr ⟨type, identifier_flat (whole holds).name⟩) (whole holds).params
  exact (balanced_doc .csharp fun holds => (whole holds).doc).append
    (.line header (balanced_braced (balanced_block fun holds => (whole holds).body)))

theorem balanced_class (settings : Helper.LayoutSettings) {cls : Code.Class} (whole : flat → cls.Flat) :
    Balanced flat (CSharp.classLayout settings cls) := by
  have header : flat → OneLine ("public " ++ (if cls.isPartial then "partial " else "") ++ "class " ++
      identifier cls.name) := by
    intro holds
    have partial_one : OneLine (if cls.isPartial then "partial " else "") := by split <;> decide
    exact one_line_append.mpr ⟨one_line_around (by decide) partial_one (by decide), identifier_flat (whole holds).name⟩
  refine (balanced_doc .csharp fun holds => (whole holds).doc).append (.line header (balanced_braced ?_))
  refine balanced_regions ?_ (fun holds => (whole holds).regions) ?_
  · intro own among
    split at among
    · cases among
      exact ⟨fun label => one_line_append.mpr ⟨by decide, label⟩, by decide⟩
    · cases among
  · intro region _ value _ whole_value
    cases value with
    | constructor value => exact balanced_constructor (fun holds => (whole holds).name) whole_value
    | property value => exact balanced_property whole_value
    | method value => exact balanced_method whole_value

theorem balanced_file (settings : Helper.LayoutSettings) {model : Model} (whole : flat → model.Flat) :
    Balanced flat (file settings model) := by
  have cls := balanced_class settings fun holds => (whole holds).cls
  have imported : Balanced flat (imports model.imports) := by
    refine Balanced.append (.of_lines fun holds name member => ?_) (.blank .nil)
    exact one_line_around (by decide) ((whole holds).imports name member) (by decide)
  have front := (balanced_banner (by decide : OneLine "// ") fun holds => (whole holds).banner).append imported
  have namespaced : flat → OneLine ("namespace " ++ namespaceName model.namespaceName) :=
    fun holds => one_line_append.mpr ⟨by decide, one_line_parts identifier_flat (whole holds).namespaceName⟩
  rw [file]
  by_cases outside : model.namespaceName.isEmpty = true
  · rw [if_pos outside]
    exact front.append cls
  · rw [if_neg outside]
    exact front.append (.line namespaced (balanced_braced cls))

end CSharp

namespace VisualBasic

variable {flat : Prop}

theorem balanced_statement {value : Statement} (whole : flat → value.Flat) :
    Balanced flat (VisualBasic.statement value) := by
  rw [statement_layout]
  exact Framing.balanced_statement line_flat value whole

theorem balanced_block {value : Block} (whole : flat → BlockFlat value) : Balanced flat (VisualBasic.block value) := by
  rw [block_layout]
  exact Framing.balanced_block line_flat value whole

-- What stands between a line that opens it and one that closes it, behind its comment.
theorem balanced_between {doc : Doc} (documented : flat → doc.Flat) {opening closing : String}
    (first : flat → OneLine opening) {body : Layout} (inner : Balanced flat body) (last : OneLine closing) :
    Balanced flat (VisualBasic.doc doc ++ .line opening :: Layout.nested body ++ [.line closing]) := by
  rw [List.append_assoc]
  exact (balanced_doc .visualBasic documented).append (.line first (inner.nest.append (.one fun _ => last)))

theorem one_line_typed {name : String} (named : OneLine name) {type : TypeRef} (whole : type.Flat) :
    OneLine (typed name type) :=
  one_line_append.mpr ⟨one_line_append.mpr ⟨identifier_flat named, by decide⟩, type_flat whole⟩

theorem one_line_params {values : List Param} (whole : ∀ param ∈ values, param.Flat) : OneLine (params values) := by
  rw [params]
  refine one_line_intercalate (by decide) (List.forall_mem_map.mpr fun param member => ?_)
  obtain ⟨name, type⟩ := whole param member
  exact one_line_append.mpr ⟨by decide, one_line_typed name type⟩

theorem one_line_called {opening : String} (front : OneLine opening) {values : List Param}
    (whole : ∀ param ∈ values, param.Flat) : OneLine (opening ++ parenthesized (params values)) :=
  one_line_append.mpr ⟨front, one_line_around (by decide) (one_line_params whole) (by decide)⟩

theorem balanced_constructor {value : Constructor} (whole : flat → value.Flat) :
    Balanced flat (constructor value) := by
  have body : Balanced flat (VisualBasic.block value.initializers ++ VisualBasic.block value.body) :=
    (balanced_block fun holds => (whole holds).initializers).append (balanced_block fun holds => (whole holds).body)
  exact balanced_between (fun holds => (whole holds).doc)
    (fun holds => one_line_called (by decide) (whole holds).params) body (by decide)

theorem balanced_accessors {type : TypeRef} (typed : flat → type.Flat) {getter setter : Block}
    (whole : flat → BlockFlat getter ∧ BlockFlat setter) : Balanced flat (accessorLayout type getter setter) := by
  have get : Balanced flat (Layout.nested (VisualBasic.block getter)) :=
    (balanced_block fun holds => (whole holds).1).nest
  have set : Balanced flat (Layout.nested (VisualBasic.block setter)) :=
    (balanced_block fun holds => (whole holds).2).nest
  have header : flat → OneLine ("Set" ++ parenthesized ("ByVal value As " ++ typeName type)) := by
    intro holds
    have param := one_line_append.mpr ⟨(by decide : OneLine "ByVal value As "), type_flat (typed holds)⟩
    exact one_line_append.mpr ⟨by decide, one_line_around (by decide) param (by decide)⟩
  have between : Balanced flat [.line "End Get", .line ("Set" ++ parenthesized ("ByVal value As " ++ typeName type))] :=
    .line (fun _ => by decide) (.one header)
  exact .line (fun _ => by decide) (((get.append between).append set).append (.one fun _ => by decide))

theorem balanced_property {value : Property} (whole : flat → value.Flat) : Balanced flat (property value) := by
  have opening : flat → OneLine ("Public Property " ++ identifier value.name) :=
    fun holds => one_line_append.mpr ⟨by decide, identifier_flat (whole holds).name⟩
  rw [property]
  cases accessors : value.accessors with
  | auto =>
      refine (balanced_doc .visualBasic fun holds => (whole holds).doc).append (.one fun holds => ?_)
      exact one_line_append.mpr ⟨one_line_append.mpr ⟨opening holds, by decide⟩, type_flat (whole holds).type⟩
  | explicit getter setter =>
      have own : flat → BlockFlat getter ∧ BlockFlat setter := fun holds => (whole holds).explicit accessors
      have header : flat → OneLine ("Public Property " ++ identifier value.name ++ "() As " ++ typeName value.type) :=
        fun holds => one_line_append.mpr
          ⟨one_line_append.mpr ⟨opening holds, by decide⟩, type_flat (whole holds).type⟩
      exact balanced_between (fun holds => (whole holds).doc) header
        (balanced_accessors (fun holds => (whole holds).type) own) (by decide)

theorem balanced_method {value : Method} (whole : flat → value.Flat) : Balanced flat (method value) := by
  have body : Balanced flat (VisualBasic.block value.body) := balanced_block fun holds => (whole holds).body
  have header : flat → OneLine (identifier value.name ++ parenthesized (params value.params)) :=
    fun holds => one_line_called (identifier_flat (whole holds).name) (whole holds).params
  rw [method]
  by_cases silent : value.returns = .void
  · rw [if_pos silent]
    exact balanced_between (fun holds => (whole holds).doc) (fun holds => one_line_append.mpr ⟨by decide, header holds⟩)
      body (by decide)
  · rw [if_neg silent]
    refine balanced_between (fun holds => (whole holds).doc) (fun holds => ?_) body (by decide)
    exact one_line_append.mpr
      ⟨one_line_around (by decide) (header holds) (by decide), type_flat (whole holds).returns⟩

theorem balanced_class (settings : Helper.LayoutSettings) {cls : Code.Class} (whole : flat → cls.Flat) :
    Balanced flat (VisualBasic.classLayout settings cls) := by
  have header : flat → OneLine ((if cls.isPartial then "Partial " else "") ++ "Public Class " ++
      identifier cls.name) := by
    intro holds
    have partial_one : OneLine (if cls.isPartial then "Partial " else "") := by split <;> decide
    exact one_line_append.mpr ⟨one_line_append.mpr ⟨partial_one, by decide⟩, identifier_flat (whole holds).name⟩
  refine balanced_between (fun holds => (whole holds).doc) header ?_ (by decide)
  refine balanced_regions ?_ (fun holds => (whole holds).regions) ?_
  · intro own among
    split at among
    · cases among
      exact ⟨fun label => one_line_append.mpr ⟨by decide, expr_flat (.literal _) label⟩, by decide⟩
    · cases among
  · intro region _ value _ whole_value
    cases value with
    | constructor value => exact balanced_constructor whole_value
    | property value => exact balanced_property whole_value
    | method value => exact balanced_method whole_value

theorem balanced_file (settings : Helper.LayoutSettings) {model : Model} (whole : flat → model.Flat) :
    Balanced flat (file settings model) := by
  have cls := balanced_class settings fun holds => (whole holds).cls
  have imported : Balanced flat (imports model.imports) := by
    refine Balanced.append (.of_lines fun holds name member => ?_) (.blank .nil)
    exact one_line_append.mpr ⟨by decide, (whole holds).imports name member⟩
  have options_only : Balanced flat options :=
    .line (fun _ => by decide) (.line (fun _ => by decide) (.blank .nil))
  have front := ((balanced_banner (by decide : OneLine "' ") fun holds => (whole holds).banner).append
    options_only).append imported
  have namespaced : flat → OneLine ("Namespace " ++ namespaceName model.namespaceName) :=
    fun holds => one_line_append.mpr ⟨by decide, one_line_parts identifier_flat (whole holds).namespaceName⟩
  rw [file]
  by_cases outside : model.namespaceName.isEmpty = true
  · rw [if_pos outside]
    exact front.append cls
  · rw [if_neg outside]
    exact front.append (.line namespaced (.blank (cls.nest.append (.one fun _ => by decide))))

end VisualBasic

/-! ## Either language -/

def statementLayout : Language → Statement → Layout
  | .csharp => CSharp.statement
  | .visualBasic => VisualBasic.statement

def constructorLayout : Language → String → Constructor → Layout
  | .csharp => CSharp.constructor
  | .visualBasic => fun _ => VisualBasic.constructor

def propertyLayout : Language → Property → Layout
  | .csharp => CSharp.property
  | .visualBasic => VisualBasic.property

def methodLayout : Language → Method → Layout
  | .csharp => CSharp.method
  | .visualBasic => VisualBasic.method

/-- Every statement, member and file leaves the level as it finds it and never goes below it, and, if neither its
texts nor the unit have a line end, is written at a level as at the outermost one with the margin in front of each
line that is not empty. A file ends at the outermost level. -/
theorem source_movable (language : Language) :
    (∀ value : Statement, Movable value.Flat (statementLayout language value)) ∧
    (∀ (className : String) (value : Constructor),
      Movable ((language = .csharp → OneLine className) ∧ value.Flat) (constructorLayout language className value)) ∧
    (∀ value : Property, Movable value.Flat (propertyLayout language value)) ∧
    (∀ value : Method, Movable value.Flat (methodLayout language value)) ∧
    ∀ (settings : Helper.LayoutSettings) (model : Model), Movable model.Flat (fileLayout language settings model) ∧
      levelAfter 0 (fileLayout language settings model) = 0 := by
  cases language with
  | csharp =>
      have file (settings : Helper.LayoutSettings) (model : Model) := CSharp.balanced_file settings (@id model.Flat)
      exact ⟨fun _ => (CSharp.balanced_statement id).movable,
        fun _ _ => (CSharp.balanced_constructor (fun holds => holds.1 rfl) And.right).movable,
        fun _ => (CSharp.balanced_property id).movable, fun _ => (CSharp.balanced_method id).movable,
        fun settings model => ⟨(file settings model).movable, (file settings model).back 0⟩⟩
  | visualBasic =>
      have file (settings : Helper.LayoutSettings) (model : Model) :=
        VisualBasic.balanced_file settings (@id model.Flat)
      exact ⟨fun _ => (VisualBasic.balanced_statement id).movable,
        fun _ _ => (VisualBasic.balanced_constructor And.right).movable,
        fun _ => (VisualBasic.balanced_property id).movable, fun _ => (VisualBasic.balanced_method id).movable,
        fun settings model => ⟨(file settings model).movable, (file settings model).back 0⟩⟩

-- The lines of a branch and of a protected block move with them; a comment with a line end in it leaves its second
-- line behind.
theorem source_movable_branch :
    (statementLayout .csharp (.branch .null [.comment "read", .leave none] [])).text "\t" 2 =
        "\t\tif (null)\n\t\t\x7b\n\t\t\t// read\n\t\t\treturn;\n\t\t\x7d\n" ∧
      (statementLayout .visualBasic (.attempt [.leave none] [] [.comment "done"])).text "\t" 1 =
        "\tTry\n\t\tReturn\n\tFinally\n\t\t'done\n\tEnd Try\n" ∧
      (statementLayout .csharp (.comment "a\nb")).text "\t" 1 ≠
        indented (margin "\t" 1) ((statementLayout .csharp (.comment "a\nb")).text "\t" 0) := by
  have flat : Statement.Flat (.branch .null [.comment "read", .leave none] []) :=
    ⟨trivial, ⟨(by decide : OneLine "read"), nofun, trivial⟩, trivial⟩
  have still : Statement.Flat (.attempt [.leave none] [] [.comment "done"]) :=
    ⟨⟨nofun, trivial⟩, trivial, (by decide : OneLine "done"), trivial⟩
  refine ⟨?_, ?_, by decide +kernel⟩
  · rw [((source_movable .csharp).1 _).text flat (by decide) 2]
    decide +kernel
  · rw [((source_movable .visualBasic).1 _).text still (by decide) 1]
    decide +kernel

end Companion.Source
