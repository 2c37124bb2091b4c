import Companion.Proofs.Source.Grammar

/-!
Statements on one line as tokens, and a reader for the lines of a language. Main statements: `read_simple`, an
expression, an assignment or a declaration is read as what it is, and `read_line_simple`, none of them is taken
for a line that begins with a word of the language.
-/
set_option autoImplicit false

namespace Companion.Source

open Code

namespace Dialect

variable (dialect : Dialect)

/-! ## What is spelled alike -/

variable {dialect}

theorem type_name_plain (type : TypeRef) : dialect.typeName type.plain = dialect.typeName type := by
  cases type with
  | framework type => exact dialect.framework_name type
  | _ => rfl

theorem tokens_target (type : TypeRef) : dialect.tokens type.asTarget = [.word (dialect.typeName type)] := by
  cases type with
  | framework type =>
      rw [TypeRef.asTarget, tokens, dialect.framework_name]
      rfl
  | _ => rfl

theorem enclosed_plain (expr : Expr) : dialect.isEnclosed expr.plain = dialect.isEnclosed expr := by
  cases expr with
  | type type => cases type <;> rfl
  | _ => rfl

theorem operand_plain (expr : Expr) (tokens : List Token) :
    dialect.asOperand expr.plain tokens = dialect.asOperand expr tokens := by
  rw [asOperand, asOperand, enclosed_plain]

-- What an expression is seen as is spelled as the expression is.
mutual
theorem tokens_plain : (expr : Expr) → dialect.tokens expr.plain = dialect.tokens expr
  | .null | .this | .variable _ | .literal _ => rfl
  | .incoming => by
      rw [Expr.plain, tokens, dialect.value_name]
      rfl
  | .type type => tokens_target type
  | .property target name => by rw [Expr.plain, tokens, tokens, tokens_plain target, operand_plain]
  | .invoke target method arguments => by
      rw [Expr.plain, tokens, tokens, tokens_plain target, operand_plain, all_tokens_plain arguments]
  | .create type arguments => by
      rw [Expr.plain, tokens, tokens, type_name_plain, all_tokens_plain arguments]
  | .typeOf type => by rw [Expr.plain, tokens, tokens, type_name_plain]
  | .cast type operand => by
      rw [Expr.plain, tokens, tokens, type_name_plain, tokens_plain operand, operand_plain]
  | .compare left comparison right => by
      rw [Expr.plain, tokens, tokens, tokens_plain left, tokens_plain right, operand_plain, operand_plain]
theorem all_tokens_plain : (arguments : List Expr) →
    dialect.allTokens (plainAll arguments) = dialect.allTokens arguments
  | [] => rfl
  | first :: rest => by rw [plainAll, allTokens, allTokens, tokens_plain first, all_tokens_plain rest]
end

/-- Expressions have the same text exactly if they are the same, but for what is spelled alike. -/
theorem spell_same_iff {expr other : Expr} (named : expr.Named) (otherNamed : other.Named) :
    dialect.spell (dialect.tokens expr) = dialect.spell (dialect.tokens other) ↔ expr.plain = other.plain := by
  constructor
  · intro same
    exact plain_of_tokens named otherNamed
      (Spelling.spell_injective (separated_tokens expr named) (separated_tokens other otherNamed) same)
  · intro same
    rw [← tokens_plain expr, same, tokens_plain]

/-! ## The first word -/

variable (dialect) in
-- A line that begins with a word of the language begins with one that stands in expressions.
def Leads (tokens : List Token) : Prop :=
  ∀ word, tokens.head? = some (.word word) → word ∈ dialect.reserved → word ∈ dialect.own

theorem leads_own {word : String} (own : word ∈ dialect.own) (rest : List Token) :
    dialect.Leads (.word word :: rest) := by
  intro other begun _
  cases begun
  exact own

theorem leads_name {name : String} (valid : Identifier.isValid name = true) (rest : List Token) :
    dialect.Leads (.word (dialect.identifier name) :: rest) := by
  intro word begun reserved
  cases begun
  exact absurd reserved (dialect.of_name valid).2.1

theorem leads_mark (c : Char) (rest : List Token) : dialect.Leads (.mark c :: rest) := fun _ begun => nomatch begun

theorem leads_type {type : TypeRef} (named : type.Named) (rest : List Token) :
    dialect.Leads (.word (dialect.typeName type) :: rest) := by
  cases type with
  | void => exact leads_own (by simp [Words.own, typeName]) rest
  | string => exact leads_own (by simp [Words.own, typeName]) rest
  | framework type =>
      rw [typeName, ← dialect.framework_name]
      exact leads_name (framework_valid type) rest
  | named name => exact leads_name named rest

theorem leads_append {tokens : List Token} (begins : Begins tokens) (leads : dialect.Leads tokens)
    (others : List Token) : dialect.Leads (tokens ++ others) := by
  obtain ⟨first, rest, rfl, _⟩ := begins
  exact leads

theorem leads_operand {expr : Expr} {tokens : List Token} (leads : dialect.Leads tokens) :
    dialect.Leads (dialect.asOperand expr tokens) := by
  rw [asOperand]
  by_cases enclosed : dialect.isEnclosed expr = true
  · rw [if_pos enclosed]
    exact leads_mark '(' _
  · rw [if_neg enclosed]
    exact leads

theorem leads_tokens : (expr : Expr) → expr.Named → dialect.Leads (dialect.tokens expr)
  | .null, _ => leads_own (by simp [Words.own]) []
  | .this, _ => leads_own (by simp [Words.own]) []
  | .variable _, named => leads_name named []
  | .literal _, _ => nofun
  | .incoming, _ => by
      have leads : dialect.Leads [.word (dialect.identifier "value")] := leads_name (by decide +kernel) []
      rw [dialect.value_name] at leads
      exact leads
  | .type _, named => leads_type named []
  | .create _ _, _ => leads_own (by simp [Words.own]) _
  | .typeOf _, _ => leads_own (by simp [Words.own]) _
  | .property target _, named =>
      leads_append (begins_operand (begins_tokens target)) (leads_operand (leads_tokens target named.1)) _
  | .invoke target _ _, named =>
      leads_append (begins_append (begins_operand (begins_tokens target)) _)
        (leads_append (begins_operand (begins_tokens target)) (leads_operand (leads_tokens target named.1)) _) _
  | .compare left _ _, named =>
      leads_append (begins_append (begins_operand (begins_tokens left)) _)
        (leads_append (begins_operand (begins_tokens left)) (leads_operand (leads_tokens left named.1)) _) _
  | .cast type operand, _ => by
      rw [tokens]
      cases own : dialect.cast with
      | none => exact leads_mark '(' _
      | some word => exact leads_own (by simp [Words.own, own]) _

/-! ## Statements on one line -/

def assigned (tokens : List Token) : List Token := .mark ' ' :: .mark '=' :: .mark ' ' :: tokens

variable (dialect) in
def initTokens : Option Expr → List Token
  | none => []
  | some value => assigned (dialect.tokens value)

variable (dialect) in
def valueTokens : Option Expr → List Token
  | none => []
  | some value => .mark ' ' :: dialect.tokens value

theorem separated_assigned {front tokens : List Token} (separatedFront : dialect.Separated front)
    (separated : dialect.Separated tokens) : dialect.Separated (front ++ assigned tokens) :=
  separated_blank separatedFront
    (Spelling.separated_behind (is_mark (by decide)) (separated_blank Spelling.separated_nil separated))

theorem separated_init {front : List Token} (separated : dialect.Separated front) {init : Option Expr}
    (named : ∀ value ∈ init, value.Named) : dialect.Separated (front ++ dialect.initTokens init) := by
  cases init with
  | none =>
      rw [initTokens, List.append_nil]
      exact separated
  | some value => exact separated_assigned separated (separated_tokens value (named value rfl))

theorem separated_value {front : List Token} (separated : dialect.Separated front) {value : Option Expr}
    (named : ∀ expr ∈ value, expr.Named) : dialect.Separated (front ++ dialect.valueTokens value) := by
  cases value with
  | none =>
      rw [valueTokens, List.append_nil]
      exact separated
  | some expr => exact separated_blank separated (separated_tokens expr (named expr rfl))

theorem init_tokens_plain (init : Option Expr) :
    dialect.initTokens (init.map Expr.plain) = dialect.initTokens init := by
  cases init with
  | none => rfl
  | some value => rw [Option.map_some, initTokens, initTokens, tokens_plain]

theorem value_tokens_plain (value : Option Expr) :
    dialect.valueTokens (value.map Expr.plain) = dialect.valueTokens value := by
  cases value with
  | none => rfl
  | some expr => rw [Option.map_some, valueTokens, valueTokens, tokens_plain]

variable (dialect) in
-- The first value of a variable, if it is given one.
def readInit (tokens : List Token) : Option (Option Expr) :=
  match tokens with
  | .mark ' ' :: .mark '=' :: .mark ' ' :: rest => do
    let (value, _) ← dialect.readExpr rest
    return some value
  | _ => some none

variable (dialect) in
-- The value that is returned, if there is one.
def readValue (tokens : List Token) : Option (Option Expr) :=
  match tokens with
  | .mark ' ' :: rest => do
    let (value, _) ← dialect.readExpr rest
    return some value
  | _ => some none

variable (dialect) in
-- An assignment, an expression by itself, or a type in front of the name that it declares.
def readSimple (tokens : List Token) : Option Item := do
  let (front, rest) ← dialect.readExpr tokens
  match rest with
  | .mark ' ' :: .mark '=' :: .mark ' ' :: rest =>
    let (value, _) ← dialect.readExpr rest
    return .single (.assign front value)
  | .mark ' ' :: .word name :: rest =>
    let type ← typeOf? front
    let init ← dialect.readInit rest
    return .single (.declare type (dialect.nameOf name) init)
  | _ => return .single (.evaluate front)

-- What stands at the end of a statement that is written on one line.
structure Closes (dialect : Dialect) (closing : List Token) : Prop where
  ends : dialect.Ends closing
  unspaced : closing.head? ≠ some (.mark ' ')
  assigned : ∀ rest, dialect.Ends (assigned rest)

section
variable {closing : List Token} (closes : dialect.Closes closing)
include closes

theorem read_whole {expr : Expr} (named : expr.Named) :
    dialect.readExpr (dialect.tokens expr ++ closing) = some (expr.plain, closing) :=
  (reads expr named).whole closing closes.ends

theorem read_init {init : Option Expr} (named : ∀ value ∈ init, value.Named) :
    dialect.readInit (dialect.initTokens init ++ closing) = some (init.map Expr.plain) := by
  cases init with
  | none =>
      rw [initTokens, List.nil_append]
      unfold readInit
      split
      · exact absurd rfl closes.unspaced
      · rfl
  | some value =>
      have read := read_whole closes (named value rfl)
      rw [initTokens, assigned, List.cons_append, List.cons_append, List.cons_append, readInit, read]
      rfl

theorem read_value {value : Option Expr} (named : ∀ expr ∈ value, expr.Named) :
    dialect.readValue (dialect.valueTokens value ++ closing) = some (value.map Expr.plain) := by
  cases value with
  | none =>
      rw [valueTokens, List.nil_append]
      unfold readValue
      split
      · exact absurd rfl closes.unspaced
      · rfl
  | some expr =>
      have read := read_whole closes (named expr rfl)
      rw [valueTokens, List.cons_append, readValue, read]
      rfl

theorem read_evaluate {expr : Expr} (named : expr.Named) :
    dialect.readSimple (dialect.tokens expr ++ closing) = some (.single (.evaluate expr.plain)) := by
  rw [readSimple, read_whole closes named]
  simp only [Option.bind_eq_bind, Option.bind_some]
  split
  · exact absurd rfl closes.unspaced
  · exact absurd rfl closes.unspaced
  · rfl

theorem read_assign {target value : Expr} (named : target.Named) (valueNamed : value.Named) :
    dialect.readSimple (dialect.tokens target ++ assigned (dialect.tokens value) ++ closing) =
      some (.single (.assign target.plain value.plain)) := by
  have read := (dialect.reads target named).whole _ (closes.assigned (dialect.tokens value ++ closing))
  have spelled : assigned (dialect.tokens value) ++ closing = assigned (dialect.tokens value ++ closing) := rfl
  rw [List.append_assoc, spelled, readSimple, read]
  simp [assigned, read_whole closes valueNamed]

theorem read_declare {type : TypeRef} {name : String} {init : Option Expr} (named : type.Named)
    (valid : Identifier.isValid name = true) (initNamed : ∀ value ∈ init, value.Named)
    (ends : ∀ rest, dialect.Ends (.mark ' ' :: .word (dialect.identifier name) :: rest)) :
    dialect.readSimple (.word (dialect.typeName type) :: .mark ' ' :: .word (dialect.identifier name) ::
      (dialect.initTokens init ++ closing)) = some (.single (.declare type.plain name (init.map Expr.plain))) := by
  have read : dialect.readExpr (.word (dialect.typeName type) :: .mark ' ' :: .word (dialect.identifier name) ::
      (dialect.initTokens init ++ closing)) = some (type.asTarget, .mark ' ' :: .word (dialect.identifier name) ::
        (dialect.initTokens init ++ closing)) := by
    apply read_expr_alone (ends _)
    rw [read_operand_word (type_apart named), read_word_type named]
  rw [readSimple, read]
  simp [type_of_target, read_init closes initNamed, (dialect.of_name valid).2.2]

end

/-! ## Lines -/

variable (dialect) in
-- A line that begins with one of some words is read by that word; a brace stands alone on its line.
def readLine (leading : List String) (led : String → List Token → Option Item) (tokens : List Token) : Option Item :=
  match tokens with
  | .word word :: rest => if word ∈ leading then led word rest else dialect.readSimple (.word word :: rest)
  | .mark c :: rest =>
    if c = '\x7b' then some (.marker .opening)
    else if c = '\x7d' then some (.marker .closing)
    else dialect.readSimple (.mark c :: rest)
  | rest => dialect.readSimple rest

theorem read_line_simple {leading : List String} {led : String → List Token → Option Item}
    (proper : ∀ word ∈ leading, word ∈ dialect.reserved ∧ word ∉ dialect.own) {tokens : List Token}
    (begins : Begins tokens) (leads : dialect.Leads tokens) :
    dialect.readLine leading led tokens = dialect.readSimple tokens := by
  obtain ⟨first, rest, rfl, opening⟩ := begins
  cases first with
  | literal text => rfl
  | word text =>
      have other : text ∉ leading := fun member =>
        (proper text member).2 (leads text rfl (proper text member).1)
      rw [readLine, if_neg other]
  | mark c =>
      have parenthesis : c = '(' := by simpa [Token.isMark] using opening
      subst parenthesis
      rfl

section
variable {leading : List String} {led : String → List Token → Option Item}
  (proper : ∀ word ∈ leading, word ∈ dialect.reserved ∧ word ∉ dialect.own)
  {closing : List Token} (closes : dialect.Closes closing)
include proper closes

theorem read_line_evaluate {expr : Expr} (named : expr.Named) :
    dialect.readLine leading led (dialect.tokens expr ++ closing) = some (.single (.evaluate expr.plain)) := by
  have begins : Begins (dialect.tokens expr) := begins_tokens expr
  rw [read_line_simple proper (begins_append begins _) (leads_append begins (leads_tokens expr named) _)]
  exact read_evaluate closes named

theorem read_line_assign {target value : Expr} (named : target.Named) (valueNamed : value.Named) :
    dialect.readLine leading led (dialect.tokens target ++ assigned (dialect.tokens value) ++ closing) =
      some (.single (.assign target.plain value.plain)) := by
  have begins : Begins (dialect.tokens target) := begins_tokens target
  have leads := leads_append begins (leads_tokens target named)
  rw [read_line_simple proper (begins_append (begins_append begins _) _)
    (leads_append (begins_append begins _) (leads _) _)]
  exact read_assign closes named valueNamed

end

end Dialect
end Companion.Source
