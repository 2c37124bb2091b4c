import Companion.Proofs.Source.CSharp
import Companion.Proofs.Source.VisualBasic

/-!
Programs whose texts have no line end. Main statements: `CSharp.line_flat` and `VisualBasic.line_flat`, the lines of
their blocks have none either.
-/
set_option autoImplicit false

namespace Companion

namespace Text

theorem mem_join {α : Type} {separator : α} {pieces : List (List α)} {piece : List α} (among : piece ∈ pieces)
    {item : α} (inside : item ∈ piece) : item ∈ joinSegments separator pieces := by
  induction pieces with
  | nil => cases among
  | cons first rest ih =>
      cases rest with
      | nil =>
          rw [List.mem_singleton.mp among] at inside
          exact inside
      | cons next others =>
          rw [joinSegments, List.mem_append, List.mem_cons]
          rcases List.mem_cons.mp among with rfl | later
          · exact .inl inside
          · exact .inr (.inr (ih later))

theorem mem_of_mem_segments {α : Type} [DecidableEq α] {separator : α} {items piece : List α}
    (among : piece ∈ segments separator items) {item : α} (inside : item ∈ piece) : item ∈ items := by
  rw [← joinSegments_segments separator items]
  exact mem_join among inside

end Text

namespace Code

def OneLine (text : String) : Prop := '\n' ∉ text.toList

instance (text : String) : Decidable (OneLine text) := inferInstanceAs (Decidable ('\n' ∉ text.toList))

def TypeRef.Flat : TypeRef → Prop
  | .named name => OneLine name
  | _ => True

-- No name and no text in quotes has a line end.
mutual
def Expr.Flat : Expr → Prop
  | .null | .this | .incoming => True
  | .variable name => OneLine name
  | .literal text => OneLine text
  | .type type | .typeOf type => type.Flat
  | .property target name => target.Flat ∧ OneLine name
  | .invoke target method arguments => target.Flat ∧ OneLine method ∧ AllFlat arguments
  | .create type arguments => type.Flat ∧ AllFlat arguments
  | .cast type operand => type.Flat ∧ operand.Flat
  | .compare left _ right => left.Flat ∧ right.Flat
def AllFlat : List Expr → Prop
  | [] => True
  | first :: rest => first.Flat ∧ AllFlat rest
end

-- The same for statements, and no comment has a line end either.
mutual
def Statement.Flat : Statement → Prop
  | .declare type name init => type.Flat ∧ OneLine name ∧ ∀ value ∈ init, value.Flat
  | .assign target value => target.Flat ∧ value.Flat
  | .evaluate expr => expr.Flat
  | .branch condition whenTrue whenFalse => condition.Flat ∧ BlockFlat whenTrue ∧ BlockFlat whenFalse
  | .attempt body handlers final => BlockFlat body ∧ HandlersFlat handlers ∧ BlockFlat final
  | .leave value => ∀ expr ∈ value, expr.Flat
  | .rethrow => True
  | .comment text => OneLine text
def BlockFlat : Block → Prop
  | [] => True
  | first :: rest => first.Flat ∧ BlockFlat rest
def HandlersFlat : List Handler → Prop
  | [] => True
  | ⟨exception, binding, body⟩ :: rest =>
    (exception.Flat ∧ (∀ name ∈ binding, OneLine name) ∧ BlockFlat body) ∧ HandlersFlat rest
end

def Param.Flat (param : Param) : Prop := OneLine param.name ∧ param.type.Flat

structure Doc.Flat (doc : Doc) : Prop where
  summary : OneLine doc.summary
  params : ∀ param ∈ doc.params, OneLine param.1 ∧ OneLine param.2
  returns : ∀ text ∈ doc.returns, OneLine text
  remarks : ∀ text ∈ doc.remarks, OneLine text

structure Constructor.Flat (value : Constructor) : Prop where
  doc : value.doc.Flat
  params : ∀ param ∈ value.params, param.Flat
  initializers : BlockFlat value.initializers
  body : BlockFlat value.body

def Accessors.Flat : Accessors → Prop
  | .auto => True
  | .explicit getter setter => BlockFlat getter ∧ BlockFlat setter

structure Property.Flat (value : Property) : Prop where
  doc : value.doc.Flat
  name : OneLine value.name
  type : value.type.Flat
  accessors : value.accessors.Flat

theorem Property.Flat.explicit {value : Property} (flat : value.Flat) {getter setter : Block}
    (bodies : value.accessors = .explicit getter setter) : BlockFlat getter ∧ BlockFlat setter := by
  have both := flat.accessors
  rw [bodies] at both
  exact both

structure Method.Flat (value : Method) : Prop where
  doc : value.doc.Flat
  name : OneLine value.name
  params : ∀ param ∈ value.params, param.Flat
  returns : value.returns.Flat
  body : BlockFlat value.body

def Member.Flat : Member → Prop
  | .constructor value => value.Flat
  | .property value => value.Flat
  | .method value => value.Flat

structure Region.Flat (region : Region) : Prop where
  label : OneLine region.label
  members : ∀ member ∈ region.members, member.Flat

structure Class.Flat (cls : Class) : Prop where
  name : OneLine cls.name
  doc : cls.doc.Flat
  regions : ∀ region ∈ cls.regions, region.Flat

structure Model.Flat (model : Model) : Prop where
  banner : ∀ line ∈ model.banner, OneLine line
  imports : ∀ name ∈ model.imports, OneLine name
  namespaceName : OneLine model.namespaceName
  cls : model.cls.Flat

/-! ## Texts put together -/

theorem one_line_append {first second : String} : OneLine (first ++ second) ↔ OneLine first ∧ OneLine second := by
  rw [OneLine, String.toList_append, List.mem_append, not_or]
  rfl

theorem one_line_around {opening text closing : String} (front : OneLine opening) (flat : OneLine text)
    (back : OneLine closing) : OneLine (opening ++ text ++ closing) :=
  one_line_append.mpr ⟨one_line_append.mpr ⟨front, flat⟩, back⟩

-- The characters of texts with something between them.
theorem mem_intercalate {α : Type} {item : α} {between : List α} {pieces : List (List α)}
    (member : item ∈ between.intercalate pieces) : item ∈ between ∨ ∃ piece ∈ pieces, item ∈ piece := by
  induction pieces with
  | nil => cases member
  | cons first rest ih =>
      cases rest with
      | nil =>
          rw [List.intercalate_singleton] at member
          exact .inr ⟨first, List.mem_cons_self, member⟩
      | cons next others =>
          rw [List.intercalate_cons_cons, List.mem_append, List.mem_append] at member
          rcases member with (inFirst | inBetween) | later
          · exact .inr ⟨first, List.mem_cons_self, inFirst⟩
          · exact .inl inBetween
          · rcases ih later with inBetween | ⟨piece, among, inside⟩
            · exact .inl inBetween
            · exact .inr ⟨piece, List.mem_cons_of_mem first among, inside⟩

theorem one_line_intercalate {between : String} (flat : OneLine between) {texts : List String}
    (each : ∀ text ∈ texts, OneLine text) : OneLine (between.intercalate texts) := by
  intro member
  rw [String.toList_intercalate] at member
  rcases mem_intercalate member with inBetween | ⟨piece, among, inside⟩
  · exact flat inBetween
  · obtain ⟨text, found, rfl⟩ := List.mem_map.mp among
    exact each text found inside

end Code

namespace Source

open Code

/-! ## Tokens -/

theorem Token.Flat.blank : (Token.mark ' ').Flat := by decide

theorem Token.Flat.comma : (Token.mark ',').Flat := by decide

theorem Token.Flat.dot : (Token.mark '.').Flat := by decide

namespace Dialect

variable {dialect : Dialect}

theorem flat_own (dialect : Dialect) {word : String} (own : word ∈ dialect.own) : (Token.word word).Flat :=
  Spelling.flat_of_token (dialect.of_own own).1

theorem flat_parenthesized {tokens : List Token} (flat : ∀ token ∈ tokens, token.Flat) :
    ∀ token ∈ parenthesized tokens, token.Flat := by
  have opening : (Token.mark '(').Flat := by decide
  have closing : (Token.mark ')').Flat := by decide
  rw [parenthesized, List.forall_mem_append, List.forall_mem_cons, List.forall_mem_singleton]
  exact ⟨⟨opening, flat⟩, closing⟩

theorem flat_operand {expr : Expr} {tokens : List Token} (flat : ∀ token ∈ tokens, token.Flat) :
    ∀ token ∈ dialect.asOperand expr tokens, token.Flat := by
  rw [asOperand]
  by_cases enclosed : dialect.isEnclosed expr = true
  · rw [if_pos enclosed]
    exact flat_parenthesized flat
  · rw [if_neg enclosed]
    exact flat

theorem flat_listed : (items : List (List Token)) → (∀ item ∈ items, ∀ token ∈ item, token.Flat) →
    ∀ token ∈ listed items, token.Flat
  | [], _ => nofun
  | [item], flat => flat item List.mem_cons_self
  | item :: next :: rest, flat => by
      obtain ⟨first, others⟩ := List.forall_mem_cons.mp flat
      rw [listed, List.forall_mem_append, List.forall_mem_cons, List.forall_mem_cons]
      exact ⟨first, .comma, .blank, flat_listed (next :: rest) others⟩

theorem flat_compared (comparison : Comparison) : ∀ token ∈ dialect.compared comparison, token.Flat :=
  fun token member => Spelling.flat_of_token ((dialect.compared_separated comparison).1.each token member)

variable (dialect) in
-- An identifier stays on its line if its name does.
def Keeps : Prop := ∀ {name : String}, OneLine name → OneLine (dialect.identifier name)

theorem flat_type (keeps : dialect.Keeps) {type : TypeRef} (flat : type.Flat) :
    (Token.word (dialect.typeName type)).Flat := by
  cases type with
  | void => exact flat_own dialect (by simp [Words.own, typeName])
  | string => exact flat_own dialect (by simp [Words.own, typeName])
  | framework type =>
      have each : ∀ type : Framework, OneLine type.name := by
        intro type
        cases type <;> decide
      exact each type
  | named name => exact keeps flat

-- The tokens of an expression stay on its line.
mutual
theorem flat_tokens (keeps : dialect.Keeps) : (expr : Expr) → expr.Flat → ∀ token ∈ dialect.tokens expr, token.Flat
  | .null, _ => List.forall_mem_singleton.mpr (flat_own dialect (by simp [Words.own]))
  | .this, _ => List.forall_mem_singleton.mpr (flat_own dialect (by simp [Words.own]))
  | .variable _, flat => List.forall_mem_singleton.mpr (keeps flat)
  | .literal _, flat => List.forall_mem_singleton.mpr flat
  | .incoming, _ => List.forall_mem_singleton.mpr (by decide)
  | .type _, flat => List.forall_mem_singleton.mpr (flat_type keeps flat)
  | .property target _, flat => by
      rw [tokens, List.forall_mem_append, List.forall_mem_cons, List.forall_mem_singleton]
      exact ⟨flat_operand (flat_tokens keeps target flat.1), .dot, keeps flat.2⟩
  | .invoke target _ arguments, flat => by
      rw [tokens, List.forall_mem_append, List.forall_mem_append, List.forall_mem_cons, List.forall_mem_singleton]
      exact ⟨⟨flat_operand (flat_tokens keeps target flat.1), .dot, keeps flat.2.1⟩,
        flat_parenthesized (flat_listed _ (flat_all keeps arguments flat.2.2))⟩
  | .create _ arguments, flat => by
      rw [tokens, List.forall_mem_append, List.forall_mem_cons, List.forall_mem_cons, List.forall_mem_singleton]
      exact ⟨⟨flat_own dialect (by simp [Words.own]), .blank, flat_type keeps flat.1⟩,
        flat_parenthesized (flat_listed _ (flat_all keeps arguments flat.2))⟩
  | .typeOf _, flat => by
      rw [tokens, List.forall_mem_cons]
      have type := List.forall_mem_singleton.mpr (flat_type keeps flat)
      exact ⟨flat_own dialect (by simp [Words.own]), flat_parenthesized type⟩
  | .cast _ operand, flat => by
      have inner := flat_tokens keeps operand flat.2
      have type := flat_type keeps flat.1
      rw [tokens]
      cases own : dialect.cast with
      | none =>
          rw [List.forall_mem_append]
          exact ⟨flat_parenthesized (List.forall_mem_singleton.mpr type), flat_operand inner⟩
      | some word =>
          rw [List.forall_mem_cons]
          refine ⟨flat_own dialect (by simp [Words.own, own]), flat_parenthesized ?_⟩
          rw [List.forall_mem_append, List.forall_mem_cons, List.forall_mem_cons, List.forall_mem_singleton]
          exact ⟨inner, .comma, .blank, type⟩
  | .compare left comparison right, flat => by
      rw [tokens, List.forall_mem_append, List.forall_mem_append]
      exact ⟨⟨flat_operand (flat_tokens keeps left flat.1), flat_compared comparison⟩,
        flat_operand (flat_tokens keeps right flat.2)⟩
theorem flat_all (keeps : dialect.Keeps) : (arguments : List Expr) → AllFlat arguments →
    ∀ item ∈ dialect.allTokens arguments, ∀ token ∈ item, token.Flat
  | [], _ => nofun
  | first :: rest, flat => List.forall_mem_cons.mpr ⟨flat_tokens keeps first flat.1, flat_all keeps rest flat.2⟩
end

theorem flat_assigned {tokens : List Token} (flat : ∀ token ∈ tokens, token.Flat) :
    ∀ token ∈ assigned tokens, token.Flat := by
  have sign : (Token.mark '=').Flat := by decide
  rw [assigned, List.forall_mem_cons, List.forall_mem_cons, List.forall_mem_cons]
  exact ⟨.blank, sign, .blank, flat⟩

theorem flat_init (keeps : dialect.Keeps) {init : Option Expr} (flat : ∀ value ∈ init, value.Flat) :
    ∀ token ∈ dialect.initTokens init, token.Flat := by
  cases init with
  | none => exact nofun
  | some value => exact flat_assigned (flat_tokens keeps value (flat value rfl))

theorem flat_value (keeps : dialect.Keeps) {value : Option Expr} (flat : ∀ expr ∈ value, expr.Flat) :
    ∀ token ∈ dialect.valueTokens value, token.Flat := by
  cases value with
  | none => exact nofun
  | some expr =>
      rw [valueTokens, List.forall_mem_cons]
      exact ⟨.blank, flat_tokens keeps expr (flat expr rfl)⟩

end Dialect

/-! ## Lines -/

def Item.Flat : Item → Prop
  | .single statement => statement.Flat
  | .condition expr => expr.Flat
  | .handle exception binding => exception.Flat ∧ ∀ name ∈ binding, OneLine name
  | .marker _ => True

theorem Grammar.flat_line {grammar : Grammar} (comment : OneLine grammar.comment)
    (code : ∀ item : Item, item.Flat → ∀ token ∈ grammar.code item, token.Flat) {item : Item} (flat : item.Flat) :
    OneLine (grammar.line item) := by
  cases commented : item.comment? with
  | none =>
      rw [OneLine, Grammar.line_code commented]
      exact Spelling.spell_flat (code item flat)
  | some text =>
      rw [Item.comment_of_some commented] at flat
      rw [Grammar.line_comment commented]
      exact one_line_append.mpr ⟨comment, flat⟩

-- The parts of a name, spelled one by one.
theorem one_line_parts {identifier : String → String}
    (keeps : ∀ {name : String}, OneLine name → OneLine (identifier name)) {name : String} (flat : OneLine name) :
    OneLine (".".intercalate ((Text.splitText '.' name).map identifier)) := by
  refine one_line_intercalate (by decide) ?_
  rw [List.forall_mem_map, Text.splitText, List.forall_mem_map]
  intro piece among
  apply keeps
  rw [OneLine, String.toList_ofList]
  intro inside
  exact flat (Text.mem_of_mem_segments among inside)

theorem one_line_trimmed {text : String} (flat : OneLine text) : OneLine (Text.trimEnd text) := by
  rw [OneLine, Text.trimEnd, String.toList_ofList, Text.dropTrailingBlanks, List.mem_reverse]
  intro member
  exact flat (List.mem_reverse.mp (List.dropWhile_subset _ member))

namespace CSharp

theorem identifier_flat : dialect.Keeps := by
  intro name flat
  show OneLine (identifier name)
  rw [identifier]
  by_cases keyword : keywords.contains name = true
  · rw [if_pos keyword]
    exact one_line_append.mpr ⟨by decide, flat⟩
  · rw [if_neg keyword]
    exact flat

theorem type_flat {type : TypeRef} (flat : type.Flat) : OneLine (typeName type) := by
  rw [type_spelled]
  exact Dialect.flat_type identifier_flat flat

theorem flat_code (item : Item) (flat : item.Flat) : ∀ token ∈ code item, token.Flat := by
  have close : ∀ token ∈ [Token.mark ';'], token.Flat := List.forall_mem_singleton.mpr (by decide)
  cases item with
  | single statement =>
      cases statement with
      | declare type name init =>
          rw [code, List.forall_mem_append, List.forall_mem_append, List.forall_mem_cons, List.forall_mem_cons,
            List.forall_mem_singleton]
          exact ⟨⟨⟨Dialect.flat_type identifier_flat flat.1, .blank, identifier_flat flat.2.1⟩,
            Dialect.flat_init identifier_flat flat.2.2⟩, close⟩
      | assign target value =>
          rw [code, List.forall_mem_append, List.forall_mem_append]
          exact ⟨⟨Dialect.flat_tokens identifier_flat target flat.1,
            Dialect.flat_assigned (Dialect.flat_tokens identifier_flat value flat.2)⟩, close⟩
      | evaluate expr =>
          rw [code, List.forall_mem_append]
          exact ⟨Dialect.flat_tokens identifier_flat expr flat, close⟩
      | leave value =>
          rw [code, List.forall_mem_append, List.forall_mem_cons]
          exact ⟨⟨by decide, Dialect.flat_value identifier_flat flat⟩, close⟩
      | rethrow => exact List.all_iff_forall_prop.mp (by decide)
      | branch condition whenTrue whenFalse => exact nofun
      | attempt body handlers final => exact nofun
      | comment text => exact nofun
  | condition expr =>
      rw [code, List.forall_mem_append, List.forall_mem_cons, List.forall_mem_singleton]
      exact ⟨⟨by decide, .blank⟩, Dialect.flat_parenthesized (Dialect.flat_tokens identifier_flat expr flat)⟩
  | handle exception binding =>
      have binds : ∀ token ∈ bound binding, token.Flat := by
        cases binding with
        | none => exact nofun
        | some name =>
            rw [bound, List.forall_mem_cons, List.forall_mem_singleton]
            exact ⟨.blank, identifier_flat (flat.2 name rfl)⟩
      rw [code, List.forall_mem_append, List.forall_mem_cons, List.forall_mem_singleton]
      exact ⟨⟨by decide, .blank⟩, Dialect.flat_parenthesized
        (List.forall_mem_cons.mpr ⟨Dialect.flat_type identifier_flat flat.1, binds⟩)⟩
  | marker kind => cases kind <;> exact List.all_iff_forall_prop.mp (by decide)

theorem line_flat (item : Item) (flat : item.Flat) : OneLine (grammar.line item) :=
  Grammar.flat_line (by decide) flat_code flat

end CSharp

namespace VisualBasic

theorem identifier_flat : dialect.Keeps := by
  intro name flat
  show OneLine (identifier name)
  rw [identifier]
  by_cases keyword : keywords.any (Text.sameIgnoringCase name) = true
  · rw [if_pos keyword]
    exact one_line_around (by decide) flat (by decide)
  · rw [if_neg keyword]
    exact flat

theorem type_flat {type : TypeRef} (flat : type.Flat) : OneLine (typeName type) := by
  rw [type_spelled]
  exact Dialect.flat_type identifier_flat flat

theorem flat_typed {name : String} (flatName : OneLine name) {type : TypeRef} (flat : type.Flat) :
    ∀ token ∈ typedTokens name type, token.Flat := by
  rw [typedTokens, List.forall_mem_cons, List.forall_mem_cons, List.forall_mem_cons, List.forall_mem_cons,
    List.forall_mem_singleton]
  exact ⟨identifier_flat flatName, by decide, by decide, by decide, Dialect.flat_type identifier_flat flat⟩

theorem flat_caught {exception : TypeRef} (flat : exception.Flat) {binding : Option String}
    (binds : ∀ name ∈ binding, OneLine name) : ∀ token ∈ bound exception (caught exception binding).2, token.Flat := by
  have variable_flat : OneLine (binding.getD faultVariable) := by
    cases binding with
    | none => decide
    | some name => exact binds name rfl
  rcases caught_cases exception binding with ⟨_, _, seen⟩ | seen
  · rw [seen]
    exact nofun
  · rw [seen, bound, List.forall_mem_cons]
    exact ⟨by decide, flat_typed variable_flat flat⟩

theorem flat_code (item : Item) (flat : item.Flat) : ∀ token ∈ code item, token.Flat := by
  cases item with
  | single statement =>
      cases statement with
      | declare type name init =>
          rw [code, List.forall_mem_append, List.forall_mem_append, List.forall_mem_cons, List.forall_mem_singleton]
          exact ⟨⟨⟨by decide, .blank⟩, flat_typed flat.2.1 flat.1⟩, Dialect.flat_init identifier_flat flat.2.2⟩
      | assign target value =>
          rw [code, List.forall_mem_append]
          exact ⟨Dialect.flat_tokens identifier_flat target flat.1,
            Dialect.flat_assigned (Dialect.flat_tokens identifier_flat value flat.2)⟩
      | evaluate expr => exact Dialect.flat_tokens identifier_flat expr flat
      | leave value =>
          rw [code, List.forall_mem_cons]
          exact ⟨by decide, Dialect.flat_value identifier_flat flat⟩
      | rethrow => exact List.forall_mem_singleton.mpr (by decide)
      | branch condition whenTrue whenFalse => exact nofun
      | attempt body handlers final => exact nofun
      | comment text => exact nofun
  | condition expr =>
      have opening : ∀ token ∈ [Token.word "If", .mark ' '], token.Flat := List.all_iff_forall_prop.mp (by decide)
      have closing : ∀ token ∈ [Token.mark ' ', .word "Then"], token.Flat := List.all_iff_forall_prop.mp (by decide)
      rw [code, List.forall_mem_append, List.forall_mem_append]
      exact ⟨⟨opening, Dialect.flat_tokens identifier_flat expr flat⟩, closing⟩
  | handle exception binding =>
      rw [code, List.forall_mem_cons]
      exact ⟨by decide, flat_caught flat.1 flat.2⟩
  | marker kind => cases kind <;> exact List.all_iff_forall_prop.mp (by decide)

theorem line_flat (item : Item) (flat : item.Flat) : OneLine (grammar.line item) :=
  Grammar.flat_line (by decide) flat_code flat

theorem expr_flat (expr : Expr) (flat : expr.Flat) : OneLine (VisualBasic.expr expr) := by
  rw [OneLine, expr_spelled]
  exact Spelling.spell_flat (Dialect.flat_tokens identifier_flat expr flat)

end VisualBasic
end Source
end Companion
