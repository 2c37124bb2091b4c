import Companion.Proofs.Source.Plain
import Companion.Proofs.Source.Tokens
import Companion.Proofs.Xml.Tags

/-!
Expressions as they are spelled in either language: as tokens, from the words of the language. Main statement:
`separated_tokens`, these tokens are known by their text.
-/
set_option autoImplicit false

namespace Companion.Source

open Code

-- What one language spells expressions with.
structure Words extends Spelling where
  identifier : String → String
  -- The name that an identifier spells.
  nameOf : String → String
  null : String
  this : String
  void : String
  string : String
  create : String
  typeOf : String
  -- The word of a conversion; without one the type stands in parentheses in front of the operand.
  cast : Option String
  -- Words that no identifier is spelled as.
  reserved : List String
  compared : Comparison → List Token
  comparison? : List Token → Option (Comparison × List Token)

def Words.own (words : Words) : List String :=
  [words.null, words.this, words.void, words.string, words.create, words.typeOf] ++ words.cast.toList

-- A language that can be read: names are told from the words of the language, and these from each other.
structure Dialect extends Words where
  of_name : ∀ {name : String}, Identifier.isValid name = true →
    toSpelling.IsWord (identifier name) ∧ identifier name ∉ reserved ∧ nameOf (identifier name) = name
  framework_name : ∀ type : Framework, identifier type.name = type.name
  value_name : identifier "value" = "value"
  of_own : ∀ {word : String}, word ∈ toWords.own → toSpelling.IsWord word ∧ word ∈ reserved
  own_distinct : toWords.own.Nodup
  compared_read : ∀ (comparison : Comparison) (rest : List Token),
    comparison? (compared comparison ++ rest) = some (comparison, rest)
  compared_spaced : ∀ tokens : List Token, tokens.head? ≠ some (.mark ' ') → comparison? tokens = none
  compared_separated : ∀ comparison, toSpelling.Separated (compared comparison) ∧
    (compared comparison).head? = some (.mark ' ') ∧ (compared comparison).getLast? = some (.mark ' ')

-- Names are words where the characters of identifiers are characters of words.
theorem Spelling.word_of_valid {spelling : Spelling}
    (later : ∀ {c : Char}, Identifier.isLater c = true → spelling.isWord c = true) {name : String}
    (valid : Identifier.isValid name = true) : spelling.IsWord name := by
  obtain ⟨nonempty, inside⟩ := Xml.later_of_valid name valid
  exact ⟨nonempty, fun c member => later (inside c member)⟩

namespace Dialect

variable (dialect : Dialect)

def typeName : TypeRef → String
  | .void => dialect.void
  | .string => dialect.string
  | .framework type => type.name
  | .named name => dialect.identifier name

def isEnclosed : Expr → Bool
  | .cast _ _ => dialect.cast.isNone
  | .create _ _ => dialect.cast.isSome
  | .compare _ _ _ => true
  | _ => false

def parenthesized (tokens : List Token) : List Token := .mark '(' :: tokens ++ [.mark ')']

def asOperand (expr : Expr) (tokens : List Token) : List Token :=
  if dialect.isEnclosed expr then parenthesized tokens else tokens

-- A list in which a comma and a blank stand between the items.
def listed : List (List Token) → List Token
  | [] => []
  | [item] => item
  | item :: next :: rest => item ++ .mark ',' :: .mark ' ' :: listed (next :: rest)

mutual
def tokens : Expr → List Token
  | .null => [.word dialect.null]
  | .this => [.word dialect.this]
  | .variable name => [.word (dialect.identifier name)]
  | .literal text => [.literal text]
  | .incoming => [.word "value"]
  | .type type => [.word (dialect.typeName type)]
  | .property target name =>
    dialect.asOperand target (tokens target) ++ [.mark '.', .word (dialect.identifier name)]
  | .invoke target method arguments =>
    dialect.asOperand target (tokens target) ++ [.mark '.', .word (dialect.identifier method)]
      ++ parenthesized (listed (allTokens arguments))
  | .create type arguments =>
    [.word dialect.create, .mark ' ', .word (dialect.typeName type)]
      ++ parenthesized (listed (allTokens arguments))
  | .typeOf type => .word dialect.typeOf :: parenthesized [.word (dialect.typeName type)]
  | .cast type operand =>
    match dialect.cast with
    | none => parenthesized [.word (dialect.typeName type)] ++ dialect.asOperand operand (tokens operand)
    | some word =>
      .word word :: parenthesized (tokens operand ++ [.mark ',', .mark ' ', .word (dialect.typeName type)])
  | .compare left comparison right =>
    dialect.asOperand left (tokens left) ++ dialect.compared comparison
      ++ dialect.asOperand right (tokens right)
def allTokens : List Expr → List (List Token)
  | [] => []
  | first :: rest => tokens first :: allTokens rest
end

theorem spell_listed (spelling : Spelling) (items : List (List Token)) :
    spelling.spell (listed items) = [',', ' '].intercalate (items.map spelling.spell) := by
  induction items with
  | nil => rfl
  | cons item rest ih =>
      cases rest with
      | nil => rw [listed, List.map_cons, List.map_nil, List.intercalate_singleton]
      | cons next others =>
          rw [listed, List.map_cons, List.map_cons, List.intercalate_cons_cons, ← List.map_cons, ← ih]
          simp [Spelling.spellOne]

theorem spell_call (spelling : Spelling) {arguments : List String} {items : List (List Token)}
    (spelled : arguments.map String.toList = items.map spelling.spell) :
    ("(" ++ ", ".intercalate arguments ++ ")").toList = spelling.spell (parenthesized (listed items)) := by
  rw [parenthesized, String.toList_append, String.toList_append, String.toList_intercalate, spelled,
    Spelling.spell_append, Spelling.spell_cons, spell_listed]
  rfl

/-! ## Words -/

variable {dialect}

theorem framework_valid (type : Framework) : Identifier.isValid type.name = true := by
  cases type <;> decide +kernel

theorem name_ne {name word : String} (valid : Identifier.isValid name = true) (own : word ∈ dialect.own) :
    dialect.identifier name ≠ word := by
  intro same
  exact (dialect.of_name valid).2.1 (same ▸ (dialect.of_own own).2)

-- An expression begins with a word, with quoted text or with a parenthesis.
def Begins (tokens : List Token) : Prop :=
  ∃ first rest, tokens = first :: rest ∧ (first.isMark = false ∨ first = .mark '(')

theorem begins_append {tokens : List Token} (begins : Begins tokens) (others : List Token) :
    Begins (tokens ++ others) := by
  obtain ⟨first, rest, rfl, opening⟩ := begins
  exact ⟨first, rest ++ others, rfl, opening⟩

theorem begins_operand {expr : Expr} {tokens : List Token} (begins : Begins tokens) :
    Begins (dialect.asOperand expr tokens) := by
  rw [asOperand]
  by_cases enclosed : dialect.isEnclosed expr = true
  · rw [if_pos enclosed]
    exact ⟨_, _, rfl, .inr rfl⟩
  · rw [if_neg enclosed]
    exact begins

theorem begins_tokens : (expr : Expr) → Begins (dialect.tokens expr)
  | .null | .this | .variable _ | .literal _ | .incoming | .type _ | .create _ _ | .typeOf _ =>
      ⟨_, _, rfl, .inl rfl⟩
  | .property target _ => begins_append (begins_operand (begins_tokens target)) _
  | .invoke target _ _ => begins_append (begins_append (begins_operand (begins_tokens target)) _) _
  | .compare left _ _ => begins_append (begins_append (begins_operand (begins_tokens left)) _) _
  | .cast type operand => by
      rw [tokens]
      cases dialect.cast with
      | none => exact ⟨_, _, rfl, .inr rfl⟩
      | some word => exact ⟨_, _, rfl, .inl rfl⟩

/-! ## Spelling -/

theorem word_of_name {name : String} (valid : Identifier.isValid name = true) :
    dialect.IsWord (dialect.identifier name) := (dialect.of_name valid).1

theorem separated_own {word : String} (own : word ∈ dialect.own) : dialect.Separated [.word word] :=
  Spelling.separated_one (dialect.of_own own).1

theorem word_of_type {type : TypeRef} (named : type.Named) : dialect.IsWord (dialect.typeName type) := by
  cases type with
  | void => exact (dialect.of_own (by simp [Words.own, typeName])).1
  | string => exact (dialect.of_own (by simp [Words.own, typeName])).1
  | framework type =>
      rw [typeName, ← dialect.framework_name]
      exact word_of_name (framework_valid type)
  | named name => exact word_of_name named

theorem separated_name {name : String} (valid : Identifier.isValid name = true) :
    dialect.Separated [.word (dialect.identifier name)] := Spelling.separated_one (word_of_name valid)

theorem separated_type {type : TypeRef} (named : type.Named) : dialect.Separated [.word (dialect.typeName type)] :=
  Spelling.separated_one (word_of_type named)

theorem is_mark {c : Char} (member : c ∈ [' ', '(', ')', '.', ',', '=', '!', ';', '\x7b', '\x7d']) :
    dialect.IsToken (.mark c) := by
  have proper : ∀ c ∈ [' ', '(', ')', '.', ',', '=', '!', ';', '\x7b', '\x7d'], c ∈ outside ∧ c ≠ '"' ∧ c ≠ '\n' :=
    List.all_iff_forall_prop.mp (by decide)
  exact proper c member

-- A blank can stand between any tokens.
theorem separated_blank {front tokens : List Token} (separatedFront : dialect.Separated front)
    (separated : dialect.Separated tokens) : dialect.Separated (front ++ .mark ' ' :: tokens) :=
  Spelling.separated_mark (is_mark (by decide)) separatedFront separated

theorem separated_call {front tokens : List Token} (separatedFront : dialect.Separated front)
    (separated : dialect.Separated tokens) : dialect.Separated (front ++ parenthesized tokens) :=
  Spelling.separated_mark (is_mark (by decide)) separatedFront
    (Spelling.separated_mark (is_mark (by decide)) separated Spelling.separated_nil)

theorem separated_parenthesized {tokens : List Token} (separated : dialect.Separated tokens) :
    dialect.Separated (parenthesized tokens) := separated_call Spelling.separated_nil separated

theorem separated_operand {expr : Expr} {tokens : List Token} (separated : dialect.Separated tokens) :
    dialect.Separated (dialect.asOperand expr tokens) := by
  rw [asOperand]
  by_cases enclosed : dialect.isEnclosed expr = true
  · rw [if_pos enclosed]
    exact separated_parenthesized separated
  · rw [if_neg enclosed]
    exact separated

theorem separated_access {tokens : List Token} {name : String} (separated : dialect.Separated tokens)
    (valid : Identifier.isValid name = true) :
    dialect.Separated (tokens ++ [.mark '.', .word (dialect.identifier name)]) :=
  Spelling.separated_mark (is_mark (by decide)) separated (separated_name valid)

theorem separated_listed : (items : List (List Token)) → (∀ item ∈ items, dialect.Separated item) →
    dialect.Separated (listed items)
  | [], _ => Spelling.separated_nil
  | [item], separated => separated item List.mem_cons_self
  | item :: next :: rest, separated => by
      obtain ⟨first, others⟩ := List.forall_mem_cons.mp separated
      exact Spelling.separated_mark (is_mark (by decide)) first
        (separated_blank Spelling.separated_nil (separated_listed (next :: rest) others))

theorem separated_compare {left right : List Token} (comparison : Comparison) (separatedLeft : dialect.Separated left)
    (separatedRight : dialect.Separated right) :
    dialect.Separated (left ++ dialect.compared comparison ++ right) := by
  obtain ⟨separated, head, last⟩ := dialect.compared_separated comparison
  refine Spelling.separated_append (Spelling.separated_append separatedLeft separated ?_) separatedRight ?_
  · rw [head]
    intro _ _ first begun
    cases begun
    exact .inr rfl
  · rw [List.getLast?_append, last]
    intro final ended _ _
    cases ended
    exact .inl rfl

mutual
theorem separated_tokens : (expr : Expr) → expr.Named → dialect.Separated (dialect.tokens expr)
  | .null, _ => separated_own (by simp [Words.own])
  | .this, _ => separated_own (by simp [Words.own])
  | .variable name, named => separated_name named
  | .literal text, named => Spelling.separated_one named
  | .incoming, _ => by
      have word : dialect.IsWord (dialect.identifier "value") := word_of_name (by decide +kernel)
      rw [dialect.value_name] at word
      exact Spelling.separated_one word
  | .type type, named => separated_type named
  | .property target name, named => separated_access (separated_operand (separated_tokens target named.1)) named.2
  | .invoke target method arguments, named =>
      separated_call (separated_access (separated_operand (separated_tokens target named.1)) named.2.1)
        (separated_listed _ (separated_all arguments named.2.2))
  | .create type arguments, named => by
      refine separated_call ?_ (separated_listed _ (separated_all arguments named.2))
      exact separated_blank (separated_own (by simp [Words.own])) (separated_type named.1)
  | .typeOf type, named =>
      separated_call (separated_own (by simp [Words.own])) (separated_type named)
  | .cast type operand, named => by
      have inner := separated_tokens operand named.2
      have typed : dialect.Separated [.word (dialect.typeName type)] := separated_type named.1
      rw [tokens]
      cases own : dialect.cast with
      | none =>
          exact Spelling.separated_mark (is_mark (by decide)) (Spelling.separated_behind (is_mark (by decide)) typed)
            (separated_operand inner)
      | some word =>
          refine separated_call (separated_own (by simp [Words.own, own])) ?_
          exact Spelling.separated_mark (is_mark (by decide)) inner (separated_blank Spelling.separated_nil typed)
  | .compare left comparison right, named =>
      separated_compare comparison (separated_operand (separated_tokens left named.1))
        (separated_operand (separated_tokens right named.2))
theorem separated_all : (arguments : List Expr) → AllNamed arguments →
    ∀ item ∈ dialect.allTokens arguments, dialect.Separated item
  | [], _ => nofun
  | first :: rest, named =>
      List.forall_mem_cons.mpr ⟨separated_tokens first named.1, separated_all rest named.2⟩
end

end Dialect
end Companion.Source
