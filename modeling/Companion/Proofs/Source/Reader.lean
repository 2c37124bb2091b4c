import Companion.Proofs.Source.Dialect

/-!
A reader of expressions: it finds the expression that tokens spell, in whatever it is nested. Main statement:
`plain_of_tokens`, expressions with the same tokens are the same, but for what is spelled alike.
-/
set_option autoImplicit false

namespace Companion.Source

open Code

namespace Dialect

variable (dialect : Dialect)

def readType (word : String) : TypeRef :=
  if word = dialect.void then .void
  else if word = dialect.string then .string
  else .named (dialect.nameOf word)

-- What a word by itself stands for.
def readWord (word : String) : Expr :=
  if word = dialect.null then .null
  else if word = dialect.this then .this
  else (dialect.readType word).asTarget

-- The type that an expression would be if it stood alone in parentheses.
def typeOf? : Expr → Option TypeRef
  | .variable name => some (.named name)
  | .type type => some type
  | _ => none

def expect (token : Token) : List Token → Option (List Token)
  | [] => none
  | first :: rest => if first = token then some rest else none

def takeWord : List Token → Option (String × List Token)
  | .word word :: rest => some (word, rest)
  | _ => none

mutual
def readAtom (dialect : Dialect) (tokens : List Token) : Option (Expr × List Token) :=
  match tokens with
  | .literal text :: rest => some (.literal text, rest)
  | .mark '(' :: rest => do
    let (inner, rest) ← dialect |>.readExpr rest
    let rest ← expect (.mark ')') rest
    match typeOf? inner with
    | none => return (inner, rest)
    | some type =>
      let (operand, rest) ← dialect |>.readOperand rest
      return (.cast type operand, rest)
  | .word word :: rest =>
    if word = dialect.create then do
      let rest ← expect (.mark ' ') rest
      let (type, rest) ← takeWord rest
      let rest ← expect (.mark '(') rest
      let (arguments, rest) ← dialect |>.readArguments rest
      return (.create (dialect.readType type) arguments, rest)
    else if word = dialect.typeOf then do
      let rest ← expect (.mark '(') rest
      let (type, rest) ← takeWord rest
      let rest ← expect (.mark ')') rest
      return (.typeOf (dialect.readType type), rest)
    else if some word = dialect.cast then do
      let rest ← expect (.mark '(') rest
      let (operand, rest) ← dialect |>.readExpr rest
      let rest ← expect (.mark ',') rest
      let rest ← expect (.mark ' ') rest
      let (type, rest) ← takeWord rest
      let rest ← expect (.mark ')') rest
      return (.cast (dialect.readType type) operand, rest)
    else some (dialect.readWord word, rest)
  | _ => none
partial_fixpoint
def readOperand (dialect : Dialect) (tokens : List Token) : Option (Expr × List Token) := do
  let (atom, rest) ← dialect |>.readAtom tokens
  dialect |>.readMembers atom rest
partial_fixpoint
-- The members that are accessed one after the other, from a target on.
def readMembers (dialect : Dialect) (target : Expr) (tokens : List Token) : Option (Expr × List Token) :=
  match tokens with
  | .mark '.' :: .word name :: .mark '(' :: rest => do
    let (arguments, rest) ← dialect |>.readArguments rest
    dialect |>.readMembers (.invoke target (dialect.nameOf name) arguments) rest
  | .mark '.' :: .word name :: rest => dialect |>.readMembers (.property target (dialect.nameOf name)) rest
  | rest => some (target, rest)
partial_fixpoint
def readExpr (dialect : Dialect) (tokens : List Token) : Option (Expr × List Token) := do
  let (left, rest) ← dialect |>.readOperand tokens
  match dialect.comparison? rest with
  | none => return (left, rest)
  | some (comparison, rest) =>
    let (right, rest) ← dialect |>.readOperand rest
    return (.compare left comparison right, rest)
partial_fixpoint
def readArguments (dialect : Dialect) (tokens : List Token) : Option (List Expr × List Token) :=
  match tokens with
  | .mark ')' :: rest => some ([], rest)
  | rest => do
    let (first, rest) ← dialect |>.readExpr rest
    match rest with
    | .mark ',' :: .mark ' ' :: rest =>
      let (others, rest) ← dialect |>.readArguments rest
      return (first :: others, rest)
    | rest =>
      let rest ← expect (.mark ')') rest
      return ([first], rest)
partial_fixpoint
end

/-! ## Words -/

variable {dialect}

-- The words of a language by what they are taken for: a value or a type, or the beginning of something longer.
structure Distinct (words : Words) : Prop where
  this_null : words.this ≠ words.null
  void_value : words.void ≠ words.null ∧ words.void ≠ words.this
  string_value : words.string ≠ words.null ∧ words.string ≠ words.this
  string_void : words.string ≠ words.void
  typeOf_create : words.typeOf ≠ words.create
  cast_create : ∀ {word : String}, words.cast = some word → word ≠ words.create ∧ word ≠ words.typeOf
  alone : ∀ {word : String}, word ∈ [words.null, words.this, words.void, words.string] →
    word ≠ words.create ∧ word ≠ words.typeOf ∧ some word ≠ words.cast

theorem distinct : Distinct dialect.toWords := by
  have distinct := dialect.own_distinct
  simp only [Words.own, List.cons_append, List.nil_append, List.nodup_cons, List.mem_cons, Option.mem_toList,
    not_or] at distinct
  obtain ⟨null, this, void, string, create, typeOf, _⟩ := distinct
  refine ⟨Ne.symm null.1, ⟨Ne.symm null.2.1, Ne.symm this.1⟩, ⟨Ne.symm null.2.2.1, Ne.symm this.2.1⟩,
    Ne.symm void.1, Ne.symm create.1, fun {word} same => ⟨?_, ?_⟩, fun {word} member => ?_⟩
  · rintro rfl
    exact create.2 same
  · rintro rfl
    exact typeOf same
  · simp only [List.mem_cons, List.not_mem_nil, or_false] at member
    rcases member with rfl | rfl | rfl | rfl
    · exact ⟨null.2.2.2.1, null.2.2.2.2.1, fun same => null.2.2.2.2.2 same.symm⟩
    · exact ⟨this.2.2.1, this.2.2.2.1, fun same => this.2.2.2.2 same.symm⟩
    · exact ⟨void.2.1, void.2.2.1, fun same => void.2.2.2 same.symm⟩
    · exact ⟨string.1, string.2.1, fun same => string.2.2 same.symm⟩

theorem read_type_name {name : String} (valid : Identifier.isValid name = true) :
    dialect.readType (dialect.identifier name) = .named name := by
  rw [readType, if_neg (name_ne valid (by simp [Words.own])), if_neg (name_ne valid (by simp [Words.own])),
    (dialect.of_name valid).2.2]

theorem read_type {type : TypeRef} (named : type.Named) : dialect.readType (dialect.typeName type) = type.plain := by
  cases type with
  | void => exact if_pos rfl
  | string =>
      rw [readType, typeName, if_neg dialect.distinct.string_void, if_pos rfl]
      rfl
  | framework type =>
      rw [typeName, ← dialect.framework_name, read_type_name (framework_valid type)]
      rfl
  | named name => exact read_type_name named

theorem read_word_name {name : String} (valid : Identifier.isValid name = true) :
    dialect.readWord (dialect.identifier name) = .variable name := by
  rw [readWord, if_neg (name_ne valid (by simp [Words.own])), if_neg (name_ne valid (by simp [Words.own])),
    read_type_name valid]
  rfl

theorem read_word_type {type : TypeRef} (named : type.Named) :
    dialect.readWord (dialect.typeName type) = type.asTarget := by
  cases type with
  | void =>
      obtain ⟨null, this⟩ := dialect.distinct.void_value
      have read : dialect.readType dialect.void = .void := if_pos rfl
      rw [readWord, typeName, if_neg null, if_neg this, read]
  | string =>
      obtain ⟨null, this⟩ := dialect.distinct.string_value
      rw [readWord, typeName, if_neg null, if_neg this, readType, if_neg dialect.distinct.string_void, if_pos rfl]
  | framework type =>
      rw [typeName, ← dialect.framework_name, read_word_name (framework_valid type)]
      rfl
  | named name => exact read_word_name named

/-! ## Atoms -/

@[simp] theorem expect_cons (token : Token) (rest : List Token) : expect token (token :: rest) = some rest :=
  if_pos rfl

theorem read_atom_word {word : String} (apart : word ≠ dialect.create ∧ word ≠ dialect.typeOf ∧
    some word ≠ dialect.cast) (rest : List Token) :
    dialect.readAtom (.word word :: rest) = some (dialect.readWord word, rest) := by
  rw [readAtom, if_neg apart.1, if_neg apart.2.1, if_neg apart.2.2]

theorem name_apart {name : String} (valid : Identifier.isValid name = true) :
    dialect.identifier name ≠ dialect.create ∧ dialect.identifier name ≠ dialect.typeOf ∧
      some (dialect.identifier name) ≠ dialect.cast :=
  ⟨name_ne valid (by simp [Words.own]), name_ne valid (by simp [Words.own]),
    fun same => @name_ne dialect name _ valid (by simp [Words.own, same.symm]) rfl⟩

theorem type_apart {type : TypeRef} (named : type.Named) :
    dialect.typeName type ≠ dialect.create ∧ dialect.typeName type ≠ dialect.typeOf ∧
      some (dialect.typeName type) ≠ dialect.cast := by
  cases type with
  | void => exact dialect.distinct.alone (by simp [typeName])
  | string => exact dialect.distinct.alone (by simp [typeName])
  | framework type =>
      rw [typeName, ← dialect.framework_name]
      exact name_apart (framework_valid type)
  | named name => exact name_apart named

/-! ## Members -/

-- What stands behind an expression and is no part of it.
structure Ends (dialect : Dialect) (tail : List Token) : Prop where
  call : tail.head? ≠ some (.mark '(')
  access : tail.head? ≠ some (.mark '.')
  comparison : dialect.comparison? tail = none

theorem read_members_end {target : Expr} {tail : List Token} (access : tail.head? ≠ some (.mark '.')) :
    dialect.readMembers target tail = some (target, tail) := by
  unfold readMembers
  split
  · exact absurd rfl access
  · exact absurd rfl access
  · rfl

theorem read_property {name : String} (valid : Identifier.isValid name = true) (target : Expr) {tail : List Token}
    (call : tail.head? ≠ some (.mark '(')) :
    dialect.readMembers target (.mark '.' :: .word (dialect.identifier name) :: tail) =
      dialect.readMembers (.property target name) tail := by
  rw [readMembers, (dialect.of_name valid).2.2]
  rintro rest rfl
  exact call rfl

theorem read_invoke {name : String} (valid : Identifier.isValid name = true) (target : Expr)
    {arguments : List Expr} {tokens tail : List Token}
    (read : dialect.readArguments (tokens ++ .mark ')' :: tail) = some (arguments, tail)) :
    dialect.readMembers target
        (.mark '.' :: .word (dialect.identifier name) :: .mark '(' :: (tokens ++ .mark ')' :: tail)) =
      dialect.readMembers (.invoke target name arguments) tail := by
  rw [readMembers, read, (dialect.of_name valid).2.2]
  rfl

/-! ## Expressions -/

-- An expression is read as it is meant, by itself and as a part of others.
structure Reads (dialect : Dialect) (expr : Expr) : Prop where
  operand : ∀ tail : List Token, tail.head? ≠ some (.mark '(') →
    dialect.readOperand (dialect.asOperand expr (dialect.tokens expr) ++ tail) = dialect.readMembers expr.plain tail
  whole : ∀ tail : List Token, dialect.Ends tail →
    dialect.readExpr (dialect.tokens expr ++ tail) = some (expr.plain, tail)

theorem read_expr_alone {expr : Expr} {tokens tail : List Token} (ends : dialect.Ends tail)
    (read : dialect.readOperand tokens = dialect.readMembers expr tail) :
    dialect.readExpr tokens = some (expr, tail) := by
  rw [readExpr, read, read_members_end ends.access]
  simp [ends.comparison]

theorem ends_closing (rest : List Token) : dialect.Ends (.mark ')' :: rest) :=
  ⟨by simp, by simp, dialect.compared_spaced _ (by simp)⟩

theorem ends_comma (rest : List Token) : dialect.Ends (.mark ',' :: rest) :=
  ⟨by simp, by simp, dialect.compared_spaced _ (by simp)⟩

theorem ends_nothing : dialect.Ends [] := ⟨nofun, nofun, dialect.compared_spaced _ nofun⟩

-- Parentheses around anything but a type hold an expression.
theorem read_parenthesized {expr : Expr} {tokens : List Token} (noType : typeOf? expr = none)
    (read : ∀ tail, dialect.Ends tail → dialect.readExpr (tokens ++ tail) = some (expr, tail)) (tail : List Token) :
    dialect.readOperand (parenthesized tokens ++ tail) = dialect.readMembers expr tail := by
  have inner := read (.mark ')' :: tail) (ends_closing tail)
  have spelled : parenthesized tokens ++ tail = .mark '(' :: (tokens ++ .mark ')' :: tail) := by
    simp [parenthesized]
  rw [readOperand, spelled, readAtom, inner]
  simp [noType]

theorem reads_of_primary {expr : Expr} (noType : dialect.isEnclosed expr = true → typeOf? expr.plain = none)
    (read : ∀ tail : List Token, tail.head? ≠ some (.mark '(') →
      dialect.readOperand (dialect.tokens expr ++ tail) = dialect.readMembers expr.plain tail) :
    dialect.Reads expr := by
  have whole : ∀ tail : List Token, dialect.Ends tail →
      dialect.readExpr (dialect.tokens expr ++ tail) = some (expr.plain, tail) :=
    fun tail ends => read_expr_alone ends (read tail ends.call)
  refine ⟨fun tail call => ?_, whole⟩
  rw [asOperand]
  by_cases enclosed : dialect.isEnclosed expr = true
  · rw [if_pos enclosed]
    exact read_parenthesized (noType enclosed) whole tail
  · rw [if_neg enclosed]
    exact read tail call

theorem reads_of_enclosed {expr : Expr} (enclosed : dialect.isEnclosed expr = true) (noType : typeOf? expr.plain = none)
    (read : ∀ tail : List Token, dialect.Ends tail →
      dialect.readExpr (dialect.tokens expr ++ tail) = some (expr.plain, tail)) : dialect.Reads expr := by
  refine ⟨fun tail call => ?_, read⟩
  rw [asOperand, if_pos enclosed]
  exact read_parenthesized noType read tail

theorem read_operand_word {word : String} (apart : word ≠ dialect.create ∧ word ≠ dialect.typeOf ∧
    some word ≠ dialect.cast) (tail : List Token) :
    dialect.readOperand (.word word :: tail) = dialect.readMembers (dialect.readWord word) tail := by
  rw [readOperand, read_atom_word apart]
  rfl

theorem reads_word {expr : Expr} {word : String} (apart : word ≠ dialect.create ∧ word ≠ dialect.typeOf ∧
    some word ≠ dialect.cast) (spelled : dialect.tokens expr = [.word word])
    (means : dialect.readWord word = expr.plain) (bare : dialect.isEnclosed expr = false) : dialect.Reads expr := by
  refine reads_of_primary (fun enclosed => by simp [bare] at enclosed) fun tail _ => ?_
  rw [spelled, List.singleton_append, read_operand_word apart, means]

theorem type_of_target (type : TypeRef) : typeOf? type.asTarget = some type.plain := by
  cases type <;> rfl

theorem read_arguments_last {tokens tail : List Token} {expr : Expr} (begins : Begins tokens)
    (read : dialect.readExpr tokens = some (expr, .mark ')' :: tail)) :
    dialect.readArguments tokens = some ([expr], tail) := by
  obtain ⟨first, rest, rfl, opening⟩ := begins
  rw [readArguments, read]
  · rfl
  · rintro _ same
    cases same
    simp [Token.isMark] at opening

theorem read_arguments_next {tokens rest tail : List Token} {expr : Expr} {others : List Expr} (begins : Begins tokens)
    (read : dialect.readExpr tokens = some (expr, .mark ',' :: .mark ' ' :: rest))
    (readOthers : dialect.readArguments rest = some (others, tail)) :
    dialect.readArguments tokens = some (expr :: others, tail) := by
  obtain ⟨first, more, rfl, opening⟩ := begins
  rw [readArguments, read]
  · simp [readOthers]
  · rintro _ same
    cases same
    simp [Token.isMark] at opening

-- A type in parentheses in front of an operand is a conversion.
theorem read_cast {type : TypeRef} (named : type.Named) {operand : Expr} {tokens tail : List Token}
    (read : dialect.readOperand tokens = some (operand, tail)) :
    dialect.readOperand (parenthesized [.word (dialect.typeName type)] ++ tokens) =
      dialect.readMembers (.cast type.plain operand) tail := by
  have inner : dialect.readExpr (.word (dialect.typeName type) :: .mark ')' :: tokens) =
      some (type.asTarget, .mark ')' :: tokens) := by
    apply read_expr_alone (ends_closing tokens)
    rw [read_operand_word (type_apart named), read_word_type named]
  have spelled : parenthesized [.word (dialect.typeName type)] ++ tokens =
      .mark '(' :: .word (dialect.typeName type) :: .mark ')' :: tokens := by
    simp [parenthesized]
  rw [spelled, readOperand, readAtom, inner]
  simp [type_of_target, read]

theorem read_cast_word {type : TypeRef} (named : type.Named) {word : String} (own : dialect.cast = some word)
    {operand : Expr} {tokens tail : List Token}
    (read : ∀ rest, dialect.Ends rest → dialect.readExpr (tokens ++ rest) = some (operand, rest)) :
    dialect.readOperand (.word word ::
        parenthesized (tokens ++ [.mark ',', .mark ' ', .word (dialect.typeName type)]) ++ tail) =
      dialect.readMembers (.cast type.plain operand) tail := by
  have apart := dialect.distinct.cast_create own
  have inner := read (.mark ',' :: .mark ' ' :: .word (dialect.typeName type) :: .mark ')' :: tail) (ends_comma _)
  have spelled : .word word :: parenthesized (tokens ++ [.mark ',', .mark ' ', .word (dialect.typeName type)]) ++ tail =
      .word word :: .mark '(' ::
        (tokens ++ .mark ',' :: .mark ' ' :: .word (dialect.typeName type) :: .mark ')' :: tail) := by
    simp [parenthesized]
  rw [spelled, readOperand, readAtom, if_neg apart.1, if_neg apart.2, if_pos own.symm]
  simp [inner, takeWord, read_type named]

theorem read_compare {left right : Expr} {comparison : Comparison} (readsLeft : dialect.Reads left)
    (readsRight : dialect.Reads right) {tail : List Token} (ends : dialect.Ends tail) :
    dialect.readExpr (dialect.tokens (.compare left comparison right) ++ tail) =
      some (.compare left.plain comparison right.plain, tail) := by
  obtain ⟨_, spaced, _⟩ := dialect.compared_separated comparison
  have head (rest : List Token) : (dialect.compared comparison ++ rest).head? = some (.mark ' ') := by
    rw [List.head?_append, spaced]
    rfl
  have read := readsLeft.operand
    (dialect.compared comparison ++ (dialect.asOperand right (dialect.tokens right) ++ tail)) (by simp [head])
  rw [read_members_end (by simp [head])] at read
  have readRight := readsRight.operand tail ends.call
  rw [read_members_end ends.access] at readRight
  rw [tokens, List.append_assoc, List.append_assoc, readExpr, read]
  simp [dialect.compared_read, readRight]

mutual
theorem reads : (expr : Expr) → expr.Named → dialect.Reads expr
  | .null, _ => reads_word (dialect.distinct.alone (by simp)) rfl (if_pos rfl) rfl
  | .this, _ => by
      refine reads_word (dialect.distinct.alone (by simp)) rfl ?_ rfl
      rw [readWord, if_neg dialect.distinct.this_null, if_pos rfl, Expr.plain]
  | .variable name, named => reads_word (name_apart named) rfl (read_word_name named) rfl
  | .literal text, _ => by
      refine reads_of_primary nofun fun tail _ => ?_
      rw [tokens, List.singleton_append, readOperand, readAtom]
      rfl
  | .incoming, _ => by
      have valid : Identifier.isValid "value" = true := by decide +kernel
      have spelled : dialect.tokens .incoming = [.word (dialect.identifier "value")] := by
        rw [dialect.value_name]
        rfl
      exact reads_word (name_apart valid) spelled (read_word_name valid) rfl
  | .type type, named => reads_word (type_apart named) rfl (read_word_type named) rfl
  | .property target name, named => by
      refine reads_of_primary nofun fun tail call => ?_
      rw [tokens, List.append_assoc, (reads target named.1).operand _ (by simp)]
      exact read_property named.2 target.plain call
  | .invoke target method arguments, named => by
      refine reads_of_primary nofun fun tail _ => ?_
      have read := reads_all arguments named.2.2 tail
      have spelled : dialect.tokens (.invoke target method arguments) ++ tail =
          dialect.asOperand target (dialect.tokens target) ++ .mark '.' :: .word (dialect.identifier method) ::
            .mark '(' :: (listed (dialect.allTokens arguments) ++ .mark ')' :: tail) := by
        simp [tokens, parenthesized]
      rw [spelled, (reads target named.1).operand _ (by simp)]
      exact read_invoke named.2.1 target.plain read
  | .create type arguments, named => by
      refine reads_of_primary (fun _ => rfl) fun tail _ => ?_
      have read := reads_all arguments named.2 tail
      have spelled : dialect.tokens (.create type arguments) ++ tail =
          .word dialect.create :: .mark ' ' :: .word (dialect.typeName type) :: .mark '(' ::
            (listed (dialect.allTokens arguments) ++ .mark ')' :: tail) := by
        simp [tokens, parenthesized]
      rw [spelled, readOperand, readAtom, if_pos rfl]
      simp [takeWord, read, read_type named.1, Expr.plain]
  | .typeOf type, named => by
      refine reads_of_primary nofun fun tail _ => ?_
      have spelled : dialect.tokens (.typeOf type) ++ tail =
          .word dialect.typeOf :: .mark '(' :: .word (dialect.typeName type) :: .mark ')' :: tail := by
        simp [tokens, parenthesized]
      rw [spelled, readOperand, readAtom, if_neg dialect.distinct.typeOf_create, if_pos rfl]
      simp [takeWord, read_type named, Expr.plain]
  | .cast type operand, named => by
      have inner := reads operand named.2
      cases own : dialect.cast with
      | none =>
          refine reads_of_enclosed (by simp [isEnclosed, own]) rfl fun tail ends => ?_
          have read := inner.operand tail ends.call
          rw [read_members_end ends.access] at read
          rw [tokens, own, List.append_assoc]
          exact read_expr_alone ends (read_cast named.1 read)
      | some word =>
          refine reads_of_primary (fun _ => rfl) fun tail _ => ?_
          rw [tokens, own]
          exact read_cast_word named.1 own inner.whole
  | .compare left comparison right, named => by
      exact reads_of_enclosed rfl rfl fun tail ends => read_compare (reads left named.1) (reads right named.2) ends
theorem reads_all : (arguments : List Expr) → AllNamed arguments → ∀ tail : List Token,
    dialect.readArguments (listed (dialect.allTokens arguments) ++ .mark ')' :: tail) = some (plainAll arguments, tail)
  | [], _, tail => by
      rw [allTokens, listed, List.nil_append, readArguments]
      rfl
  | [only], named, tail => by
      have read := (reads only named.1).whole _ (ends_closing tail)
      exact read_arguments_last (begins_append (begins_tokens only) _) read
  | first :: next :: rest, named, tail => by
      have readOthers := reads_all (next :: rest) named.2 tail
      have read := (reads first named.1).whole (.mark ',' :: .mark ' ' ::
        (listed (dialect.allTokens (next :: rest)) ++ .mark ')' :: tail)) (ends_comma _)
      have spelled : listed (dialect.allTokens (first :: next :: rest)) ++ .mark ')' :: tail =
          dialect.tokens first ++ .mark ',' :: .mark ' ' ::
            (listed (dialect.allTokens (next :: rest)) ++ .mark ')' :: tail) := by
        simp [allTokens, listed]
      rw [spelled]
      exact read_arguments_next (begins_append (begins_tokens first) _) read readOthers
end

/-- Expressions with the same tokens are the same, but for what is spelled alike. -/
theorem plain_of_tokens {expr other : Expr} (named : expr.Named) (otherNamed : other.Named)
    (same : dialect.tokens expr = dialect.tokens other) : expr.plain = other.plain := by
  have read := (dialect.reads expr named).whole [] ends_nothing
  rw [same, (dialect.reads other otherNamed).whole [] ends_nothing] at read
  exact (Prod.mk.inj (Option.some.inj read)).1.symm

end Dialect
end Companion.Source
