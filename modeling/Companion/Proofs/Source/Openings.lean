import Companion.Proofs.Helper.Identifiers
import Companion.Proofs.Source.Nesting

/-!
What the lines of a file begin with. Main statement: `begun_file`, if the names in it are identifiers, then no line but
the marks of its regions begins with the sign of these marks.
-/
set_option autoImplicit false

namespace Companion

namespace Code

/-! ## Names -/

theorem type_named {type : TypeRef} (valid : ∀ name ∈ type.names, Identifier.isValid name = true) : type.Named := by
  cases type with
  | named name => exact valid name (List.mem_singleton_self name)
  | _ => trivial

-- Texts without line ends and names that are identifiers can be spelled.
mutual
theorem expr_named : (expr : Expr) → expr.Flat → (∀ name ∈ expr.names, Identifier.isValid name = true) → expr.Named
  | .null, _, _ | .this, _, _ | .incoming, _, _ => trivial
  | .variable name, _, valid => valid name (List.mem_singleton_self name)
  | .literal _, flat, _ => flat
  | .type _, _, valid | .typeOf _, _, valid => type_named valid
  | .property target _, flat, valid => by
      obtain ⟨own, others⟩ := List.forall_mem_cons.mp valid
      exact ⟨expr_named target flat.1 others, own⟩
  | .invoke target method arguments, flat, valid => by
      simp only [Expr.names, List.forall_mem_append, List.forall_mem_cons] at valid
      obtain ⟨⟨own, inner⟩, given⟩ := valid
      exact ⟨expr_named target flat.1 inner, own, all_named arguments flat.2.2 given⟩
  | .create _ arguments, flat, valid => by
      obtain ⟨type, given⟩ := List.forall_mem_append.mp valid
      exact ⟨type_named type, all_named arguments flat.2 given⟩
  | .cast _ operand, flat, valid => by
      obtain ⟨type, inner⟩ := List.forall_mem_append.mp valid
      exact ⟨type_named type, expr_named operand flat.2 inner⟩
  | .compare left _ right, flat, valid => by
      obtain ⟨first, second⟩ := List.forall_mem_append.mp valid
      exact ⟨expr_named left flat.1 first, expr_named right flat.2 second⟩
theorem all_named : (exprs : List Expr) → AllFlat exprs →
    (∀ name ∈ namesOfAll exprs, Identifier.isValid name = true) → AllNamed exprs
  | [], _, _ => trivial
  | first :: rest, flat, valid => by
      obtain ⟨own, others⟩ := List.forall_mem_append.mp valid
      exact ⟨expr_named first flat.1 own, all_named rest flat.2 others⟩
end

theorem value_named {value : Option Expr} (flat : ∀ expr ∈ value, expr.Flat)
    (valid : ∀ name ∈ namesOfValue value, Identifier.isValid name = true) : ∀ expr ∈ value, expr.Named := by
  rintro expr ⟨⟩
  exact expr_named expr (flat expr rfl) valid

mutual
theorem statement_named : (statement : Statement) → statement.Flat →
    (∀ name ∈ statement.names, Identifier.isValid name = true) → statement.Named
  | .declare _ _ _, flat, valid => by
      simp only [Statement.names, List.forall_mem_append, List.forall_mem_cons] at valid
      obtain ⟨⟨own, type⟩, init⟩ := valid
      exact ⟨type_named type, own, value_named flat.2.2 init⟩
  | .assign target value, flat, valid => by
      obtain ⟨first, second⟩ := List.forall_mem_append.mp valid
      exact ⟨expr_named target flat.1 first, expr_named value flat.2 second⟩
  | .evaluate expr, flat, valid => expr_named expr flat valid
  | .branch condition whenTrue whenFalse, flat, valid => by
      simp only [Statement.names, List.forall_mem_append] at valid
      obtain ⟨⟨asked, first⟩, second⟩ := valid
      exact ⟨expr_named condition flat.1 asked, block_named whenTrue flat.2.1 first,
        block_named whenFalse flat.2.2 second⟩
  | .attempt body handlers final, flat, valid => by
      simp only [Statement.names, List.forall_mem_append] at valid
      obtain ⟨⟨tried, handled⟩, last⟩ := valid
      exact ⟨block_named body flat.1 tried, handlers_named handlers flat.2.1 handled, block_named final flat.2.2 last⟩
  | .leave _, flat, valid => value_named flat valid
  | .rethrow, _, _ => trivial
  | .comment _, flat, _ => flat
theorem block_named : (block : Block) → BlockFlat block →
    (∀ name ∈ namesOfBlock block, Identifier.isValid name = true) → BlockNamed block
  | [], _, _ => trivial
  | first :: rest, flat, valid => by
      obtain ⟨own, others⟩ := List.forall_mem_append.mp valid
      exact ⟨statement_named first flat.1 own, block_named rest flat.2 others⟩
theorem handlers_named : (handlers : List Handler) → HandlersFlat handlers →
    (∀ name ∈ namesOfHandlers handlers, Identifier.isValid name = true) → HandlersNamed handlers
  | [], _, _ => trivial
  | ⟨exception, binding, body⟩ :: rest, flat, valid => by
      simp only [namesOfHandlers, List.forall_mem_append] at valid
      obtain ⟨⟨⟨bound, type⟩, inner⟩, others⟩ := valid
      refine ⟨⟨type_named type, ?_, block_named body flat.1.2.2 inner⟩, handlers_named rest flat.2 others⟩
      exact fun name member => bound name (Option.mem_toList.mpr member)
end

theorem member_valid {cls : Class} (valid : ∀ name ∈ cls.names, Identifier.isValid name = true) {region : Region}
    (among : region ∈ cls.regions) {value : Member} (member : value ∈ region.members) :
    ∀ name ∈ value.names, Identifier.isValid name = true := by
  have listed : value ∈ cls.members := List.mem_flatMap.mpr ⟨region, among, member⟩
  exact fun name own => valid name (List.mem_cons_of_mem cls.name (List.mem_flatMap.mpr ⟨value, listed, own⟩))

end Code

namespace Source

open Code Layout

/-! ## Lines -/

-- A text that is told from its margin and is neither an empty line nor a mark.
def Begins (text : String) : Prop := ∃ c ∈ text.toList.head?, c ∉ [' ', '\t', '\n', '#']

instance (text : String) : Decidable (Begins text) :=
  decidable_of_iff (text.toList.head?.any (· ∉ [' ', '\t', '\n', '#']) = true) (by simp [Begins, Option.any_eq_true])

theorem begins_append {first : String} (begins : Begins first) (second : String) : Begins (first ++ second) := by
  obtain ⟨c, begun, other⟩ := begins
  obtain ⟨rest, spelled⟩ := List.head?_eq_some_iff.mp begun
  refine ⟨c, ?_, other⟩
  rw [String.toList_append, spelled]
  rfl

def Begun (layout : Layout) : Prop := ∀ text ∈ layout.texts, Begins text

theorem begun_nil : Begun [] := nofun

theorem begun_line {text : String} {rest : Layout} (begins : Begins text) (behind : Begun rest) :
    Begun (.line text :: rest) := List.forall_mem_cons.mpr ⟨begins, behind⟩

theorem begun_one {text : String} (begins : Begins text) : Begun [.line text] := begun_line begins begun_nil

theorem begun_append {first second : Layout} (begun : Begun first) (behind : Begun second) :
    Begun (first ++ second) := by
  rw [Begun, texts_append]
  exact List.forall_mem_append.mpr ⟨begun, behind⟩

theorem begun_nested {body : Layout} (begun : Begun body) : Begun (Layout.nested body) := by
  rw [Begun, texts_nested]
  exact begun

theorem begun_lines {α : Type} {spell : α → String} (begins : ∀ item, Begins (spell item)) (items : List α) :
    Begun (items.map fun item => .line (spell item)) := by
  induction items with
  | nil => exact begun_nil
  | cons item rest ih => exact begun_line (begins item) ih

theorem begun_spaced {layouts : List Layout} (each : ∀ layout ∈ layouts, Begun layout) :
    Begun (Layout.spaced layouts) := by
  induction layouts with
  | nil => exact begun_nil
  | cons first rest ih =>
      obtain ⟨begun, others⟩ := List.forall_mem_cons.mp each
      cases rest with
      | nil =>
          rw [spaced_one]
          exact begun
      | cons next more =>
          rw [spaced_cons]
          exact begun_append begun (ih others)

theorem begun_doc (language : Language) (doc : Doc) : Begun (docLayout language doc) := by
  have mark : Begins (docMark language) := by cases language <;> decide
  rw [doc_layout]
  exact begun_lines (fun line => begins_append mark line) _

-- A comment is not trimmed down to its first sign.
theorem begun_banner (mark : String) (c : Char) (begun : mark.toList.head? = some c) (solid : Text.isBlank c = false)
    (other : c ∉ [' ', '\t', '\n', '#']) (texts : List String) :
    Begun (texts.map (fun text => .line (Text.trimEnd (mark ++ text))) ++
      if texts.isEmpty then [] else [.blank]) := by
  have begins (text : String) : Begins (Text.trimEnd (mark ++ text)) := by
    obtain ⟨rest, spelled⟩ := List.head?_eq_some_iff.mp begun
    refine ⟨c, ?_, other⟩
    have kept : ((rest ++ text.toList).reverse ++ [c]).dropWhile Text.isBlank =
        (rest ++ text.toList).reverse.dropWhile Text.isBlank ++ [c] := by
      rw [List.dropWhile_append]
      split
      · rename_i dropped
        rw [List.dropWhile_cons_of_neg (by simp [solid]), List.isEmpty_iff.mp dropped]
        rfl
      · rfl
    rw [Text.trimEnd, String.toList_ofList, Text.dropTrailingBlanks, String.toList_append, spelled, List.cons_append,
      List.reverse_cons, kept, List.reverse_append]
    rfl
  refine begun_append (begun_lines begins texts) ?_
  split <;> exact begun_nil

theorem begun_regions {member : Member → Layout} {regions : List Region}
    (each : ∀ region ∈ regions, ∀ value ∈ region.members, Begun (member value)) :
    Begun (regionsLayout none member regions) :=
  begun_spaced (List.forall_mem_map.mpr fun region among => begun_spaced (List.forall_mem_map.mpr (each region among)))

namespace Grammar

variable {grammar : Grammar}

-- The sign is in no word, and none that opens or closes something.
theorem begins (readable : grammar.Readable) (unworded : grammar.dialect.isWord '#' = false) {item : Item}
    (proper : item.Proper grammar.framing) : Begins (grammar.line item) := by
  cases comment : item.comment? with
  | none =>
      obtain ⟨c, begun, opening⟩ := code_opening readable proper comment
      rw [← line_code comment] at begun
      refine ⟨c, begun, ?_⟩
      rcases opening with word | sign
      · have apart : ∀ other ∈ [' ', '\t', '\n', '#'], grammar.dialect.isWord other = false := by
          have blanks (other : Char) (blank : other ∈ outside) := grammar.dialect.unworded other blank
          simp [blanks ' ' (by decide), blanks '\t' (by decide), blanks '\n' (by decide), unworded]
        intro member
        rw [apart c member] at word
        cases word
      · have signs : ∀ c ∈ ['"', '(', '\x7b', '\x7d'], c ∉ [' ', '\t', '\n', '#'] :=
          List.all_iff_forall_prop.mp (by decide)
        exact signs c sign
  | some text =>
      obtain ⟨c, begun, opening⟩ := readable.comment_opens
      have signs : ∀ c ∈ ['/', '\''], c ∉ [' ', '\t', '\n', '#'] := List.all_iff_forall_prop.mp (by decide)
      rw [line_comment comment]
      exact begins_append ⟨c, begun, signs c opening⟩ text

theorem begun_layout (readable : grammar.Readable) (unworded : grammar.dialect.isWord '#' = false) {block : Block}
    (named : BlockNamed block) : Begun (grammar.layout block) := by
  rw [Begun, layout, Framing.texts_layout, List.forall_mem_map]
  exact fun item member => begins readable unworded (Framing.proper_items block named item member)

end Grammar

namespace CSharp

theorem begun_block {block : Block} (flat : BlockFlat block)
    (valid : ∀ name ∈ namesOfBlock block, Identifier.isValid name = true) : Begun (CSharp.block block) := by
  rw [block_layout]
  exact Grammar.begun_layout readable (by decide +kernel) (block_named block flat valid)

theorem begun_braced {body : Layout} (begun : Begun body) : Begun (braced body) :=
  begun_append (begun_line (by decide) (begun_nested begun)) (begun_one (by decide))

theorem begun_member (className : String) {value : Member} (flat : value.Flat)
    (valid : ∀ name ∈ value.names, Identifier.isValid name = true) : Begun (CSharp.member className value) := by
  cases value with
  | constructor value =>
      simp only [Member.names, List.forall_mem_append] at valid
      obtain ⟨⟨_, initializers⟩, body⟩ := valid
      exact begun_append (begun_doc .csharp value.doc) (begun_line (begins_append (begins_append (by decide) _) _)
        (begun_braced (begun_append (begun_block flat.initializers initializers) (begun_block flat.body body))))
  | property value =>
      simp only [Member.names, List.forall_mem_append] at valid
      obtain ⟨_, bodies⟩ := valid
      have header : Begins ("public " ++ typeName value.type ++ " " ++ identifier value.name) :=
        begins_append (begins_append (begins_append (by decide) _) _) _
      rw [CSharp.member, property]
      cases accessors : value.accessors with
      | auto => exact begun_append (begun_doc .csharp value.doc) (begun_one (begins_append header _))
      | explicit getter setter =>
          obtain ⟨flatGetter, flatSetter⟩ := flat.explicit accessors
          rw [accessors] at bodies
          obtain ⟨first, second⟩ := List.forall_mem_append.mp bodies
          have get := begun_line (by decide : Begins "get") (begun_braced (begun_block flatGetter first))
          have set := begun_line (by decide : Begins "set") (begun_braced (begun_block flatSetter second))
          exact begun_append (begun_doc .csharp value.doc) (begun_line header (begun_braced (begun_append get set)))
  | method value =>
      simp only [Member.names, List.forall_mem_append] at valid
      exact begun_append (begun_doc .csharp value.doc) (begun_line
        (begins_append (begins_append (begins_append (begins_append (by decide) _) _) _) _)
        (begun_braced (begun_block flat.body valid.2)))

theorem begun_class {settings : Helper.LayoutSettings} (bare : settings.regions = false) {cls : Code.Class}
    (flat : cls.Flat) (valid : ∀ name ∈ cls.names, Identifier.isValid name = true) :
    Begun (CSharp.classLayout settings cls) := by
  have header : Begins ("public " ++ (if cls.isPartial then "partial " else "") ++ "class " ++ identifier cls.name) :=
    begins_append (begins_append (begins_append (by decide) _) _) _
  rw [CSharp.classLayout, bare]
  exact begun_append (begun_doc .csharp cls.doc) (begun_line header (begun_braced (begun_regions
    fun region among value member => begun_member cls.name ((flat.regions region among).members value member)
      (member_valid valid among member))))

theorem begun_file {settings : Helper.LayoutSettings} (bare : settings.regions = false) {model : Model}
    (flat : model.Flat) (valid : ∀ name ∈ model.names, Identifier.isValid name = true) :
    Begun (file settings model) := by
  have cls := begun_class bare flat.cls (List.forall_mem_append.mp valid).2
  have imported : Begun (imports model.imports) :=
    begun_append (begun_lines (fun name => begins_append (begins_append (by decide : Begins "using ") name) ";") _)
      begun_nil
  have front := begun_append (begun_banner "// " '/' rfl (by decide +kernel) (by decide) model.banner) imported
  rw [file]
  refine begun_append front ?_
  split
  · exact cls
  · exact begun_line (begins_append (by decide) _) (begun_braced cls)

end CSharp

namespace VisualBasic

theorem begun_block {block : Block} (flat : BlockFlat block)
    (valid : ∀ name ∈ namesOfBlock block, Identifier.isValid name = true) : Begun (VisualBasic.block block) := by
  rw [block_layout]
  exact Grammar.begun_layout readable (by decide +kernel) (block_named block flat valid)

-- What stands between a line that opens it and one that closes it, behind its comment.
theorem begun_between (doc : Doc) {opening closing : String} (first : Begins opening) {body : Layout}
    (begun : Begun body) (last : Begins closing) :
    Begun (VisualBasic.doc doc ++ .line opening :: Layout.nested body ++ [.line closing]) :=
  begun_append (begun_append (begun_doc .visualBasic doc) (begun_line first (begun_nested begun))) (begun_one last)

theorem begun_member {value : Member} (flat : value.Flat)
    (valid : ∀ name ∈ value.names, Identifier.isValid name = true) : Begun (VisualBasic.member value) := by
  cases value with
  | constructor value =>
      simp only [Member.names, List.forall_mem_append] at valid
      obtain ⟨⟨_, initializers⟩, body⟩ := valid
      exact begun_between value.doc (begins_append (by decide) _)
        (begun_append (begun_block flat.initializers initializers) (begun_block flat.body body)) (by decide)
  | property value =>
      simp only [Member.names, List.forall_mem_append] at valid
      obtain ⟨_, bodies⟩ := valid
      have header : Begins ("Public Property " ++ identifier value.name) := begins_append (by decide) _
      rw [VisualBasic.member, property]
      cases accessors : value.accessors with
      | auto =>
          exact begun_append (begun_doc .visualBasic value.doc)
            (begun_one (begins_append (begins_append header _) _))
      | explicit getter setter =>
          obtain ⟨flatGetter, flatSetter⟩ := flat.explicit accessors
          rw [accessors] at bodies
          obtain ⟨first, second⟩ := List.forall_mem_append.mp bodies
          have get := begun_line (by decide : Begins "Get") (begun_nested (begun_block flatGetter first))
          have between : Begun [.line "End Get",
              .line ("Set" ++ parenthesized ("ByVal value As " ++ typeName value.type))] :=
            begun_line (by decide) (begun_one (begins_append (by decide) _))
          have set := begun_nested (begun_block flatSetter second)
          have inner : Begun (accessorLayout value.type getter setter) :=
            begun_append (begun_append (begun_append get between) set) (begun_one (by decide))
          exact begun_between value.doc (begins_append (begins_append header _) _) inner (by decide)
  | method value =>
      simp only [Member.names, List.forall_mem_append] at valid
      have body := begun_block flat.body valid.2
      rw [VisualBasic.member, method]
      split
      · exact begun_between value.doc (begins_append (by decide) _) body (by decide)
      · exact begun_between value.doc (begins_append (begins_append (begins_append (by decide) _) _) _) body
          (by decide)

theorem begun_class {settings : Helper.LayoutSettings} (bare : settings.regions = false) {cls : Code.Class}
    (flat : cls.Flat) (valid : ∀ name ∈ cls.names, Identifier.isValid name = true) :
    Begun (VisualBasic.classLayout settings cls) := by
  have header : Begins ((if cls.isPartial then "Partial " else "") ++ "Public Class " ++ identifier cls.name) := by
    refine begins_append ?_ _
    split <;> decide
  rw [VisualBasic.classLayout, bare]
  exact begun_between cls.doc header (begun_regions
    fun region among value member => begun_member ((flat.regions region among).members value member)
      (member_valid valid among member)) (by decide)

theorem begun_file {settings : Helper.LayoutSettings} (bare : settings.regions = false) {model : Model}
    (flat : model.Flat) (valid : ∀ name ∈ model.names, Identifier.isValid name = true) :
    Begun (file settings model) := by
  have cls := begun_class bare flat.cls (List.forall_mem_append.mp valid).2
  have imported : Begun (imports model.imports) :=
    begun_append (begun_lines (begins_append (by decide : Begins "Imports ")) _) begun_nil
  have options_only : Begun options := begun_line (by decide) (begun_one (by decide))
  have front := begun_append
    (begun_append (begun_banner "' " '\'' rfl (by decide +kernel) (by decide) model.banner) options_only) imported
  rw [file]
  refine begun_append front ?_
  split
  · exact cls
  · exact begun_append (begun_append (begun_one (begins_append (by decide) _)) (begun_nested cls))
      (begun_one (by decide))

end VisualBasic

/-- If the names in a file are identifiers and none of its texts has a line end, no line of it is taken for a mark of a
region, as long as regions are not marked. -/
theorem begun_file (language : Language) {settings : Helper.LayoutSettings} (bare : settings.regions = false)
    {model : Model} (flat : model.Flat) (valid : ∀ name ∈ model.names, Identifier.isValid name = true) :
    Begun (fileLayout language settings model) := by
  cases language with
  | csharp => exact CSharp.begun_file bare flat valid
  | visualBasic => exact VisualBasic.begun_file bare flat valid

end Source
end Companion
