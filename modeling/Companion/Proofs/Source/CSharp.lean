import Companion.Proofs.Source.Simple
import Companion.Source.CSharp

/-!
C# source as a language that can be read. Main statement: `csharp_source_known`, expressions and blocks have the same
source exactly if they are the same, but for what is spelled alike.
-/
set_option autoImplicit false

namespace Companion.Source.CSharp

open Code

/-! ## Words -/

-- The characters of identifiers, and the sign that escapes keywords.
def isWord (c : Char) : Bool := Identifier.isLater c || c = '@'

def nameOf (word : String) : String :=
  match word.toList with
  | '@' :: rest => String.ofList rest
  | _ => word

theorem literal_char_eq (c : Char) : literalChar c = Spelling.escaped '\\' ['\\', '"'] c := by
  unfold literalChar Spelling.escaped
  split <;> simp_all

def spelling : Spelling where
  isWord := isWord
  quoted := Spelling.escaped '\\' ['\\', '"']
  unworded := List.all_iff_forall_prop.mp (by decide +kernel)
  onOneLine _ := Spelling.escaped_one_line (by decide)
  known := Spelling.escaped_known (by decide)
  inner := Spelling.escaped_inner (by decide) (by decide)

theorem later_word {c : Char} (later : Identifier.isLater c = true) : spelling.isWord c = true := by
  show isWord c = true
  rw [isWord, later, Bool.true_or]

theorem word_of_keyword {word : String} (member : word ∈ keywords) : spelling.IsWord word := by
  have words : ∀ word ∈ keywords, Identifier.isValid word = true := by decide +kernel
  exact Spelling.word_of_valid later_word (words word member)

-- An identifier is a word that is no keyword, and its name can be found in it.
theorem identifier_known {name : String} (valid : Identifier.isValid name = true) :
    spelling.IsWord (identifier name) ∧ identifier name ∉ keywords ∧ nameOf (identifier name) = name := by
  obtain ⟨nonempty, inside⟩ := Spelling.word_of_valid later_word valid
  obtain ⟨_, later⟩ := Xml.later_of_valid name valid
  by_cases keyword : keywords.contains name = true
  · have escaped : ("@" ++ name).toList = '@' :: name.toList := String.toList_append
    have unescaped : ∀ word ∈ keywords, word.toList.head? ≠ some '@' := by decide +kernel
    rw [identifier, if_pos keyword]
    refine ⟨⟨by simp [escaped], ?_⟩, fun member => ?_, ?_⟩
    · rw [escaped]
      exact List.forall_mem_cons.mpr ⟨rfl, inside⟩
    · exact unescaped _ member (by rw [escaped]; rfl)
    · rw [nameOf, escaped]
      exact String.ofList_toList
  · rw [identifier, if_neg keyword]
    refine ⟨⟨nonempty, inside⟩, fun member => keyword (List.contains_iff_mem.mpr member), ?_⟩
    unfold nameOf
    split
    · next rest spelled =>
        have sign := later '@' (by rw [spelled]; exact List.mem_cons_self)
        have other : Identifier.isLater '@' = false := by decide +kernel
        rw [other] at sign
        cases sign
    · rfl

def compared : Comparison → List Token
  | .same => [.mark ' ', .mark '=', .mark '=', .mark ' ']
  | .different => [.mark ' ', .mark '!', .mark '=', .mark ' ']

def comparison? : List Token → Option (Comparison × List Token)
  | .mark ' ' :: .mark '=' :: .mark '=' :: .mark ' ' :: rest => some (.same, rest)
  | .mark ' ' :: .mark '!' :: .mark '=' :: .mark ' ' :: rest => some (.different, rest)
  | _ => none

def words : Words where
  toSpelling := spelling
  identifier := identifier
  nameOf := nameOf
  null := "null"
  this := "this"
  void := "void"
  string := "string"
  create := "new"
  typeOf := "typeof"
  cast := none
  reserved := keywords
  compared := compared
  comparison? := comparison?

def dialect : Dialect where
  toWords := words
  of_name := identifier_known
  framework_name := by
    intro type
    cases type <;> decide
  value_name := by decide
  of_own := by
    intro word own
    have proper : ∀ word ∈ words.own, word ∈ keywords := by decide
    exact ⟨word_of_keyword (proper word own), proper word own⟩
  own_distinct := by decide
  compared_read := by
    intro comparison rest
    cases comparison <;> rfl
  compared_spaced := by
    intro tokens unspaced
    show comparison? tokens = none
    unfold comparison?
    split
    · exact absurd rfl unspaced
    · exact absurd rfl unspaced
    · rfl
  compared_separated := by
    intro comparison
    cases comparison with
    | same =>
        have separated : spelling.Separated ([' ', '=', '=', ' '].map .mark) :=
          Spelling.separated_marks (List.all_iff_forall_prop.mp (by decide))
        exact ⟨separated, rfl, rfl⟩
    | different =>
        have separated : spelling.Separated ([' ', '!', '=', ' '].map .mark) :=
          Spelling.separated_marks (List.all_iff_forall_prop.mp (by decide))
        exact ⟨separated, rfl, rfl⟩

/-! ## Expressions -/

theorem operand_spelled (inner : Expr) {text : String} {tokens : List Token}
    (spelled : text.toList = spelling.spell tokens) :
    (asOperand inner text).toList = spelling.spell (dialect.asOperand inner tokens) := by
  cases inner <;>
    simp [asOperand, Dialect.asOperand, Dialect.isEnclosed, dialect, words, parenthesized, Dialect.parenthesized,
      Spelling.spellOne, spelled]

theorem type_spelled (type : TypeRef) : typeName type = dialect.typeName type := by
  cases type <;> rfl

-- An expression is written as its tokens are spelled.
mutual
theorem expr_spelled : (expr : Expr) → (CSharp.expr expr).toList = spelling.spell (dialect.tokens expr)
  | .null | .this | .variable _ | .incoming => by
      simp [CSharp.expr, Dialect.tokens, Spelling.spellOne, dialect, words]
  | .type type => by simp [CSharp.expr, Dialect.tokens, Spelling.spellOne, type_spelled]
  | .literal text => by
      simp [CSharp.expr, Dialect.tokens, Spelling.spellOne, literal, spelling, funext literal_char_eq]
  | .property target name => by
      have spelled := operand_spelled target (expr_spelled target)
      simp [CSharp.expr, Dialect.tokens, Spelling.spellOne, spelled, dialect, words]
  | .invoke target method arguments => by
      have spelled := operand_spelled target (expr_spelled target)
      have call := Dialect.spell_call spelling (exprs_spelled arguments)
      simp [CSharp.expr, Dialect.tokens, Spelling.spellOne, parenthesized, spelled, call, dialect, words]
  | .create type arguments => by
      have call := Dialect.spell_call spelling (exprs_spelled arguments)
      simp [CSharp.expr, Dialect.tokens, Spelling.spellOne, parenthesized, call, type_spelled, dialect, words]
  | .typeOf type => by
      simp [CSharp.expr, Dialect.tokens, Spelling.spellOne, parenthesized, Dialect.parenthesized, type_spelled,
        dialect, words]
  | .cast type operand => by
      have spelled := operand_spelled operand (expr_spelled operand)
      simp [CSharp.expr, Dialect.tokens, Spelling.spellOne, parenthesized, Dialect.parenthesized, spelled,
        type_spelled, dialect, words]
  | .compare left comparison right => by
      have spelledLeft := operand_spelled left (expr_spelled left)
      have spelledRight := operand_spelled right (expr_spelled right)
      cases comparison <;>
        simp [CSharp.expr, Dialect.tokens, Spelling.spellOne, spelledLeft, spelledRight, operator, compared,
          dialect, words]
theorem exprs_spelled : (arguments : List Expr) →
    (exprs arguments).map String.toList = (dialect.allTokens arguments).map spelling.spell
  | [] => rfl
  | first :: rest => by
      rw [exprs, Dialect.allTokens, List.map_cons, List.map_cons, expr_spelled first, exprs_spelled rest]
end

/-! ## Lines -/

def marked : Marker → List Token
  | .otherwise => [.word "else"]
  | .attempt => [.word "try"]
  | .final => [.word "finally"]
  | .opening => [.mark '\x7b']
  | .closing => [.mark '\x7d']
  | .endBranch | .endAttempt => []

def bound : Option String → List Token
  | none => []
  | some name => [.mark ' ', .word (identifier name)]

def code : Item → List Token
  | .single (.declare type name init) =>
    [.word (dialect.typeName type), .mark ' ', .word (identifier name)] ++ dialect.initTokens init ++ [.mark ';']
  | .single (.assign target value) =>
    dialect.tokens target ++ Dialect.assigned (dialect.tokens value) ++ [.mark ';']
  | .single (.evaluate expr) => dialect.tokens expr ++ [.mark ';']
  | .single (.leave value) => .word "return" :: dialect.valueTokens value ++ [.mark ';']
  | .single .rethrow => [.word "throw", .mark ';']
  | .single _ => []
  | .condition expr => [.word "if", .mark ' '] ++ Dialect.parenthesized (dialect.tokens expr)
  | .handle exception binding =>
    [.word "catch", .mark ' '] ++ Dialect.parenthesized (.word (dialect.typeName exception) :: bound binding)
  | .marker kind => marked kind

def leading : List String := ["return", "throw", "if", "catch", "else", "try", "finally"]

def readBound : List Token → Option String
  | .mark ' ' :: .word name :: _ => some (nameOf name)
  | _ => none

-- What a line says behind the word that it begins with.
def led (word : String) (tokens : List Token) : Option Item :=
  match word, tokens with
  | "return", rest => (dialect.readValue rest).map fun value => .single (.leave value)
  | "throw", _ => some (.single .rethrow)
  | "if", .mark ' ' :: .mark '(' :: rest => (dialect.readExpr rest).map fun read => .condition read.1
  | "catch", .mark ' ' :: .mark '(' :: .word type :: rest => some (.handle (dialect.readType type) (readBound rest))
  | "else", _ => some (.marker .otherwise)
  | "try", _ => some (.marker .attempt)
  | "finally", _ => some (.marker .final)
  | _, _ => none

def grammar : Grammar where
  dialect := dialect
  framing := .braces
  caught := Caught.plain
  comment := "// "
  code := code
  readCode := dialect.readLine leading led

theorem closes : dialect.Closes [.mark ';'] where
  ends := ⟨by decide, by decide, rfl⟩
  unspaced := by decide
  assigned _ := ⟨by simp [Dialect.assigned], by simp [Dialect.assigned], rfl⟩

theorem separated_closed {tokens : List Token} (separated : dialect.Separated tokens) :
    dialect.Separated (tokens ++ [.mark ';']) :=
  Spelling.separated_mark (Dialect.is_mark (by decide)) separated Spelling.separated_nil

theorem separated_keyword {word : String} (member : word ∈ keywords) : dialect.Separated [.word word] :=
  Spelling.separated_one (word_of_keyword member)

theorem separated_spaced {word : String} (member : word ∈ keywords) {tokens : List Token}
    (separated : dialect.Separated tokens) :
    dialect.Separated ([.word word, .mark ' '] ++ Dialect.parenthesized tokens) :=
  Dialect.separated_call (Dialect.separated_blank (separated_keyword member) Spelling.separated_nil) separated

theorem separated_bound {front : List Token} (separated : dialect.Separated front) {binding : Option String}
    (valid : ∀ name ∈ binding, Identifier.isValid name = true) : dialect.Separated (front ++ bound binding) := by
  cases binding with
  | none =>
      rw [bound, List.append_nil]
      exact separated
  | some name => exact Dialect.separated_blank separated (Dialect.separated_name (valid name rfl))

theorem separated_marked (kind : Marker) : dialect.Separated (marked kind) := by
  cases kind with
  | otherwise => exact separated_keyword (by decide)
  | attempt => exact separated_keyword (by decide)
  | final => exact separated_keyword (by decide)
  | opening => exact Spelling.separated_one (Dialect.is_mark (by decide))
  | closing => exact Spelling.separated_one (Dialect.is_mark (by decide))
  | endBranch => exact Spelling.separated_nil
  | endAttempt => exact Spelling.separated_nil

theorem separated_code {item : Item} (proper : item.Proper .braces) : dialect.Separated (code item) := by
  have returns : dialect.Separated [.word "return"] := separated_keyword (by decide)
  have throws : dialect.Separated [.word "throw"] := separated_keyword (by decide)
  cases item with
  | single statement =>
      obtain ⟨_, named⟩ := proper
      cases statement with
      | declare type name init =>
          have front : dialect.Separated [.word (dialect.typeName type), .mark ' ', .word (identifier name)] :=
            Dialect.separated_blank (Dialect.separated_type named.1) (Dialect.separated_name named.2.1)
          exact separated_closed (Dialect.separated_init front named.2.2)
      | assign target value =>
          exact separated_closed (Dialect.separated_assigned (Dialect.separated_tokens target named.1)
            (Dialect.separated_tokens value named.2))
      | evaluate expr => exact separated_closed (Dialect.separated_tokens expr named)
      | leave value => exact separated_closed (Dialect.separated_value returns named)
      | rethrow => exact separated_closed throws
      | branch condition whenTrue whenFalse => exact Spelling.separated_nil
      | attempt body handlers final => exact Spelling.separated_nil
      | comment text => exact Spelling.separated_nil
  | condition expr => exact separated_spaced (by decide) (Dialect.separated_tokens expr proper)
  | handle exception binding =>
      exact separated_spaced (by decide) (separated_bound (Dialect.separated_type proper.1) proper.2)
  | marker kind => exact separated_marked kind

theorem opens_code {item : Item} (proper : item.Proper .braces) (solid : item.comment? = none) :
    Grammar.Opens (code item) := by
  cases item with
  | single statement =>
      cases statement with
      | assign target value =>
          exact Grammar.opens_of_begins
            (Dialect.begins_append (Dialect.begins_append (Dialect.begins_tokens target) _) _)
      | evaluate expr => exact Grammar.opens_of_begins (Dialect.begins_append (Dialect.begins_tokens expr) _)
      | declare type name init => exact Grammar.opens_word _ _
      | leave value => exact Grammar.opens_word _ _
      | rethrow => exact Grammar.opens_word _ _
      | branch condition whenTrue whenFalse => cases proper.1
      | attempt body handlers final => cases proper.1
      | comment text => cases solid
  | condition expr => exact Grammar.opens_word _ _
  | handle exception binding => exact Grammar.opens_word _ _
  | marker kind =>
      cases kind with
      | otherwise => exact Grammar.opens_word _ _
      | attempt => exact Grammar.opens_word _ _
      | final => exact Grammar.opens_word _ _
      | opening => exact ⟨_, _, rfl, by simp⟩
      | closing => exact ⟨_, _, rfl, by simp⟩
      | endBranch => simp [Item.Proper, Framing.markers, Framing.brace, Framing.ending] at proper
      | endAttempt => simp [Item.Proper, Framing.markers, Framing.brace, Framing.ending] at proper

theorem leading_proper : ∀ word ∈ leading, word ∈ dialect.reserved ∧ word ∉ dialect.own := by decide

theorem read_led {word : String} (member : word ∈ leading) (rest : List Token) :
    grammar.readCode (.word word :: rest) = led word rest := if_pos member

theorem read_bound {binding : Option String} (valid : ∀ name ∈ binding, Identifier.isValid name = true) :
    readBound (bound binding ++ [.mark ')']) = binding := by
  cases binding with
  | none => rfl
  | some name =>
      rw [bound, List.cons_append, List.cons_append, readBound, (identifier_known (valid name rfl)).2.2]

theorem read_code {item : Item} (proper : item.Proper .braces) (solid : item.comment? = none) :
    grammar.readCode (code item) = some (item.plain Caught.plain) := by
  cases item with
  | single statement =>
      obtain ⟨single, named⟩ := proper
      cases statement with
      | declare type name init =>
          have ends (rest : List Token) : dialect.Ends (.mark ' ' :: .word (identifier name) :: rest) :=
            ⟨by simp, by simp, rfl⟩
          have read := Dialect.read_declare closes named.1 named.2.1 named.2.2 ends
          rw [code, List.append_assoc]
          have leads := dialect.leads_type named.1
          exact (Dialect.read_line_simple leading_proper ⟨_, _, rfl, .inl rfl⟩ (leads _)).trans read
      | assign target value => exact Dialect.read_line_assign leading_proper closes named.1 named.2
      | evaluate expr => exact Dialect.read_line_evaluate leading_proper closes named
      | leave value =>
          rw [code, List.cons_append, read_led (by decide), led, Dialect.read_value closes named]
          rfl
      | rethrow => rfl
      | branch condition whenTrue whenFalse => cases single
      | attempt body handlers final => cases single
      | comment text => cases solid
  | condition expr =>
      have spelled : code (.condition expr) =
          .word "if" :: .mark ' ' :: .mark '(' :: (dialect.tokens expr ++ [.mark ')']) := by
        simp [code, Dialect.parenthesized]
      rw [spelled, read_led (by decide), led, (dialect.reads expr proper).whole _ (Dialect.ends_closing [])]
      rfl
  | handle exception binding =>
      have spelled : code (.handle exception binding) = .word "catch" :: .mark ' ' :: .mark '(' ::
          .word (dialect.typeName exception) :: (bound binding ++ [.mark ')']) := by
        simp [code, Dialect.parenthesized]
      rw [spelled, read_led (by decide), led, dialect.read_type proper.1, read_bound proper.2]
      rfl
  | marker kind =>
      cases kind with
      | endBranch => simp [Item.Proper, Framing.markers, Framing.brace, Framing.ending] at proper
      | endAttempt => simp [Item.Proper, Framing.markers, Framing.brace, Framing.ending] at proper
      | _ => rfl

theorem code_plain (item : Item) : code (item.plain Caught.plain) = code item := by
  cases item with
  | single statement =>
      cases statement with
      | declare type name init =>
          simp [Item.plain, Statement.plain, code, Dialect.type_name_plain, Dialect.init_tokens_plain]
      | assign target value => simp [Item.plain, Statement.plain, code, Dialect.tokens_plain]
      | evaluate expr => simp [Item.plain, Statement.plain, code, Dialect.tokens_plain]
      | leave value => simp [Item.plain, Statement.plain, code, Dialect.value_tokens_plain]
      | _ => rfl
  | condition expr => rw [Item.plain, code, code, Dialect.tokens_plain]
  | handle exception binding => simp [Item.plain, Caught.plain, code, Dialect.type_name_plain]
  | marker kind => rfl

theorem readable : grammar.Readable where
  comment_single := by decide
  comment_opens := ⟨'/', rfl, by decide⟩
  separated := separated_code
  opens := opens_code
  read := read_code
  spelled := code_plain

/-! ## Layout -/

theorem line_of_code {item : Item} (solid : item.comment? = none) {text : String}
    (spelled : text.toList = spelling.spell (code item)) : text = grammar.line item :=
  Grammar.line_of_code solid spelled

theorem condition_line (condition : Expr) :
    "if " ++ parenthesized (CSharp.expr condition) = grammar.line (.condition condition) :=
  line_of_code rfl (by simp [code, parenthesized, Dialect.parenthesized, Spelling.spellOne, expr_spelled])

theorem handle_line (exception : TypeRef) (binding : Option String) :
    "catch " ++ parenthesized (caught exception binding) = grammar.line (.handle exception binding) := by
  apply line_of_code rfl
  cases binding <;>
    simp [code, parenthesized, caught, bound, Dialect.parenthesized, Spelling.spellOne, type_spelled]

theorem marker_lines :
    grammar.line (.marker .otherwise) = "else" ∧ grammar.line (.marker .attempt) = "try" ∧
      grammar.line (.marker .final) = "finally" ∧ grammar.line (.marker .opening) = "\x7b" ∧
      grammar.line (.marker .closing) = "\x7d" := by
  refine ⟨?_, ?_, ?_, ?_, ?_⟩ <;> exact (line_of_code rfl (by decide)).symm

theorem braced_layout (body : Layout) : braced body = Framing.braces.enclosedLayout grammar.line body := by
  obtain ⟨_, _, _, opening, closing⟩ := marker_lines
  simp [braced, Framing.enclosedLayout, Framing.lineSteps, Framing.brace, opening, closing]

mutual
theorem statement_layout : (statement : Statement) →
    CSharp.statement statement = Framing.braces.statementLayout grammar.line statement
  | .declare type name none =>
      congrArg (fun text => [Step.line text])
        (line_of_code rfl (by simp [code, Dialect.initTokens, Spelling.spellOne, type_spelled]))
  | .declare type name (some init) =>
      congrArg (fun text => [Step.line text]) (line_of_code rfl (by
        simp [code, Dialect.initTokens, Dialect.assigned, Spelling.spellOne, type_spelled, expr_spelled]))
  | .assign target value =>
      congrArg (fun text => [Step.line text])
        (line_of_code rfl (by simp [code, Dialect.assigned, Spelling.spellOne, expr_spelled]))
  | .evaluate value =>
      congrArg (fun text => [Step.line text]) (line_of_code rfl (by simp [code, Spelling.spellOne, expr_spelled]))
  | .leave none => congrArg (fun text => [Step.line text]) (line_of_code rfl (by decide))
  | .leave (some value) =>
      congrArg (fun text => [Step.line text])
        (line_of_code rfl (by simp [code, Dialect.valueTokens, Spelling.spellOne, expr_spelled]))
  | .rethrow => congrArg (fun text => [Step.line text]) (line_of_code rfl (by decide))
  | .comment text => rfl
  | .branch condition whenTrue whenFalse => by
      obtain ⟨otherwise, _⟩ := marker_lines
      simp [CSharp.statement, Framing.statementLayout, Framing.optionalLayout, Framing.lineSteps, Framing.ending,
        block_layout whenTrue, block_layout whenFalse, braced_layout, condition_line, otherwise]
  | .attempt body handlers final => by
      obtain ⟨_, attempt, last, _⟩ := marker_lines
      simp [CSharp.statement, Framing.statementLayout, Framing.optionalLayout, Framing.lineSteps, Framing.ending,
        block_layout body, block_layout final, handlers_layout handlers, braced_layout, attempt, last]
theorem block_layout : (block : Block) → CSharp.block block = Framing.braces.layout grammar.line block
  | [] => rfl
  | first :: rest => by rw [CSharp.block, Framing.layout, statement_layout first, block_layout rest]
theorem handlers_layout : (handlers : List Handler) →
    handlerLayouts handlers = Framing.braces.handlersLayout grammar.line handlers
  | [] => rfl
  | ⟨exception, binding, body⟩ :: rest => by
      rw [handlerLayouts, Framing.handlersLayout, handle_line, braced_layout, block_layout body, handlers_layout rest]
end

/-- Source is unambiguous: expressions have the same text exactly if they are the same, but for what is spelled
alike, and so have blocks at one level with one unit of blanks. -/
theorem csharp_source_known :
    (∀ {expr other : Expr}, expr.Named → other.Named →
      (CSharp.expr expr = CSharp.expr other ↔ expr.plain = other.plain)) ∧
    ∀ {block other : Block} {unit : String} {level : Nat}, BlockNamed block → BlockNamed other →
      (∀ c ∈ unit.toList, c = ' ' ∨ c = '\t') →
      ((CSharp.block block).text unit level = (CSharp.block other).text unit level ↔
        plainBlock Caught.plain block = plainBlock Caught.plain other) := by
  constructor
  · intro expr other named otherNamed
    rw [← String.toList_inj, expr_spelled, expr_spelled]
    exact @Dialect.spell_same_iff dialect _ _ named otherNamed
  · intro block other unit level named otherNamed blank
    rw [block_layout, block_layout]
    exact Grammar.text_same_iff readable named otherNamed fun c member => decide_eq_true (blank c member)

-- A conversion of a member is told from a member of what is converted, and a handler from what follows it.
theorem csharp_source_known_book :
    CSharp.expr (.cast (.named "Book") (.property .incoming "Title")) ≠
        CSharp.expr (.property (.cast (.named "Book") .incoming) "Title") ∧
      (CSharp.block [.attempt [] [⟨.named "Fault", none, [.comment "\x7d", .leave none]⟩] []]).text "\t" 1 ≠
        (CSharp.block [.attempt [] [⟨.named "Fault", none, [.comment "\x7d"]⟩] [], .leave none]).text "\t" 1 := by
  have book : Identifier.isValid "Book" = true := by decide +kernel
  have title : Identifier.isValid "Title" = true := by decide +kernel
  have fault : Identifier.isValid "Fault" = true := by decide +kernel
  constructor
  · intro same
    have plain := (csharp_source_known.1 (by simp [Expr.Named, TypeRef.Named, book, title])
      (by simp [Expr.Named, TypeRef.Named, book, title])).mp same
    simp [Expr.plain] at plain
  · intro same
    have plain := (csharp_source_known.2 (by simp [BlockNamed, HandlersNamed, Statement.Named, TypeRef.Named, fault])
      (by simp [BlockNamed, HandlersNamed, Statement.Named, TypeRef.Named, fault]) (by simp)).mp same
    simp [plainBlock, plainHandlers, Statement.plain] at plain

end Companion.Source.CSharp
