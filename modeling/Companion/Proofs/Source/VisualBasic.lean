import Companion.Proofs.Source.Simple
import Companion.Source.VisualBasic

/-!
Visual Basic source as a language that can be read. Main statement: `visual_basic_source_known`, expressions and
blocks have the same source exactly if they are the same, but for what is spelled alike.
-/
set_option autoImplicit false

namespace Companion.Source.VisualBasic

open Code

/-! ## Words -/

-- The characters of identifiers, and the brackets that keywords are escaped with.
def isWord (c : Char) : Bool := Identifier.isLater c || c = '[' || c = ']'

def nameOf (word : String) : String :=
  match word.toList with
  | '[' :: rest => String.ofList rest.dropLast
  | _ => word

theorem literal_char_eq (c : Char) : literalChar c = Spelling.escaped '"' ['"'] c := by
  unfold literalChar Spelling.escaped
  split <;> simp_all

def spelling : Spelling where
  isWord := isWord
  quoted := Spelling.escaped '"' ['"']
  unworded := List.all_iff_forall_prop.mp (by decide +kernel)
  onOneLine _ := Spelling.escaped_one_line (by decide)
  known := Spelling.escaped_known (by decide)
  inner := Spelling.escaped_inner (by decide) (by decide)

theorem later_word {c : Char} (later : Identifier.isLater c = true) : spelling.isWord c = true := by
  show isWord c = true
  rw [isWord, later, Bool.true_or, Bool.true_or]

theorem word_of_keyword {word : String} (member : word ∈ keywords) : spelling.IsWord word := by
  have words : ∀ word ∈ keywords, Identifier.isValid word = true := by decide +kernel
  exact Spelling.word_of_valid later_word (words word member)

-- An identifier is a word that is no keyword, and its name can be found in it.
theorem identifier_known {name : String} (valid : Identifier.isValid name = true) :
    spelling.IsWord (identifier name) ∧ identifier name ∉ keywords ∧ nameOf (identifier name) = name := by
  obtain ⟨nonempty, inside⟩ := Spelling.word_of_valid later_word valid
  obtain ⟨_, later⟩ := Xml.later_of_valid name valid
  by_cases keyword : keywords.any (Text.sameIgnoringCase name) = true
  · have escaped : ("[" ++ name ++ "]").toList = '[' :: (name.toList ++ [']']) := by simp
    have unescaped : ∀ word ∈ keywords, word.toList.head? ≠ some '[' := by decide +kernel
    rw [identifier, if_pos keyword]
    refine ⟨⟨by simp [escaped], ?_⟩, fun member => ?_, ?_⟩
    · rw [escaped, List.forall_mem_cons, List.forall_mem_append, List.forall_mem_singleton]
      exact ⟨rfl, inside, rfl⟩
    · exact unescaped _ member (by rw [escaped]; rfl)
    · rw [nameOf, escaped]
      simp
  · rw [identifier, if_neg keyword]
    refine ⟨⟨nonempty, inside⟩, fun member => keyword ?_, ?_⟩
    · exact List.any_eq_true.mpr ⟨name, member, decide_eq_true rfl⟩
    · unfold nameOf
      split
      · next rest spelled =>
          have sign := later '[' (by rw [spelled]; exact List.mem_cons_self)
          have other : Identifier.isLater '[' = false := by decide +kernel
          rw [other] at sign
          cases sign
      · rfl

theorem unescaped {name : String} (member : name ∈ "value" :: Framework.all.map Framework.name) :
    identifier name = name := by
  have free : ∀ name ∈ "value" :: Framework.all.map Framework.name,
      keywords.any (Text.sameIgnoringCase name) = false := by decide +kernel
  rw [identifier, free name member, if_neg Bool.false_ne_true]

def compared : Comparison → List Token
  | .same => [.mark ' ', .word "Is", .mark ' ']
  | .different => [.mark ' ', .word "IsNot", .mark ' ']

def comparison? : List Token → Option (Comparison × List Token)
  | .mark ' ' :: .word "Is" :: .mark ' ' :: rest => some (.same, rest)
  | .mark ' ' :: .word "IsNot" :: .mark ' ' :: rest => some (.different, rest)
  | _ => none

def words : Words where
  toSpelling := spelling
  identifier := identifier
  nameOf := nameOf
  null := "Nothing"
  this := "Me"
  void := "Object"
  string := "String"
  create := "New"
  typeOf := "GetType"
  cast := some "CType"
  reserved := keywords
  compared := compared
  comparison? := comparison?

theorem separated_between {word : String} (member : word ∈ keywords) :
    spelling.Separated [.mark ' ', .word word, .mark ' '] := by
  have blank : spelling.IsToken (.mark ' ') := ⟨by decide, by decide, by decide⟩
  have own : spelling.Separated [.word word] := Spelling.separated_one (word_of_keyword member)
  exact Spelling.separated_behind blank
    (Spelling.separated_mark blank own Spelling.separated_nil)

def dialect : Dialect where
  toWords := words
  of_name := identifier_known
  framework_name type := unescaped (by cases type <;> decide)
  value_name := unescaped List.mem_cons_self
  of_own := by
    intro word own
    have proper : ∀ word ∈ words.own, word ∈ keywords := by decide
    exact ⟨word_of_keyword (proper word own), proper word own⟩
  own_distinct := by decide
  compared_read := by
    intro comparison rest
    cases comparison <;> rfl
  compared_spaced := by
    intro tokens unspaced
    show comparison? tokens = none
    unfold comparison?
    split
    · exact absurd rfl unspaced
    · exact absurd rfl unspaced
    · rfl
  compared_separated := by
    intro comparison
    cases comparison with
    | same => exact ⟨separated_between (by decide), rfl, rfl⟩
    | different => exact ⟨separated_between (by decide), rfl, rfl⟩

/-! ## Expressions -/

theorem operand_spelled (inner : Expr) {text : String} {tokens : List Token}
    (spelled : text.toList = spelling.spell tokens) :
    (asOperand inner text).toList = spelling.spell (dialect.asOperand inner tokens) := by
  cases inner <;>
    simp [asOperand, Dialect.asOperand, Dialect.isEnclosed, dialect, words, parenthesized, Dialect.parenthesized,
      Spelling.spellOne, spelled]

theorem type_spelled (type : TypeRef) : typeName type = dialect.typeName type := by
  cases type <;> rfl

-- An expression is written as its tokens are spelled.
mutual
theorem expr_spelled : (expr : Expr) → (VisualBasic.expr expr).toList = spelling.spell (dialect.tokens expr)
  | .null | .this | .variable _ | .incoming => by
      simp [VisualBasic.expr, Dialect.tokens, Spelling.spellOne, dialect, words]
  | .type type => by simp [VisualBasic.expr, Dialect.tokens, Spelling.spellOne, type_spelled]
  | .literal text => by
      simp [VisualBasic.expr, Dialect.tokens, Spelling.spellOne, literal, spelling, funext literal_char_eq]
  | .property target name => by
      have spelled := operand_spelled target (expr_spelled target)
      simp [VisualBasic.expr, Dialect.tokens, Spelling.spellOne, spelled, dialect, words]
  | .invoke target method arguments => by
      have spelled := operand_spelled target (expr_spelled target)
      have call := Dialect.spell_call spelling (exprs_spelled arguments)
      simp [VisualBasic.expr, Dialect.tokens, Spelling.spellOne, parenthesized, spelled, call, dialect, words]
  | .create type arguments => by
      have call := Dialect.spell_call spelling (exprs_spelled arguments)
      simp [VisualBasic.expr, Dialect.tokens, Spelling.spellOne, parenthesized, call, type_spelled, dialect, words]
  | .typeOf type => by
      simp [VisualBasic.expr, Dialect.tokens, Spelling.spellOne, parenthesized, Dialect.parenthesized, type_spelled,
        dialect, words]
  | .cast type operand => by
      have spelled := expr_spelled operand
      simp [VisualBasic.expr, Dialect.tokens, Spelling.spellOne, parenthesized, Dialect.parenthesized, spelled,
        type_spelled, dialect, words]
  | .compare left comparison right => by
      have spelledLeft := operand_spelled left (expr_spelled left)
      have spelledRight := operand_spelled right (expr_spelled right)
      cases comparison <;>
        simp [VisualBasic.expr, Dialect.tokens, Spelling.spellOne, spelledLeft, spelledRight, operator, compared,
          dialect, words]
theorem exprs_spelled : (arguments : List Expr) →
    (exprs arguments).map String.toList = (dialect.allTokens arguments).map spelling.spell
  | [] => rfl
  | first :: rest => by
      rw [exprs, Dialect.allTokens, List.map_cons, List.map_cons, expr_spelled first, exprs_spelled rest]
end

/-! ## Lines -/

-- A handler without a variable is seen as one with the variable that is written for it, unless it catches everything.
def caught : Caught := fun exception binding =>
  if exception = .framework .exception ∧ binding = none then (exception, none)
  else (exception.plain, some (binding.getD faultVariable))

def typedTokens (name : String) (type : TypeRef) : List Token :=
  [.word (identifier name), .mark ' ', .word "As", .mark ' ', .word (dialect.typeName type)]

def marked : Marker → List Token
  | .otherwise => [.word "Else"]
  | .attempt => [.word "Try"]
  | .final => [.word "Finally"]
  | .endBranch => [.word "End", .mark ' ', .word "If"]
  | .endAttempt => [.word "End", .mark ' ', .word "Try"]
  | .opening | .closing => []

def bound (exception : TypeRef) : Option String → List Token
  | none => []
  | some name => .mark ' ' :: typedTokens name exception

def code : Item → List Token
  | .single (.declare type name init) =>
    [.word "Dim", .mark ' '] ++ typedTokens name type ++ dialect.initTokens init
  | .single (.assign target value) => dialect.tokens target ++ Dialect.assigned (dialect.tokens value)
  | .single (.evaluate expr) => dialect.tokens expr
  | .single (.leave value) => .word "Return" :: dialect.valueTokens value
  | .single .rethrow => [.word "Throw"]
  | .single _ => []
  | .condition expr => [.word "If", .mark ' '] ++ dialect.tokens expr ++ [.mark ' ', .word "Then"]
  | .handle exception binding => .word "Catch" :: bound exception (caught exception binding).2
  | .marker kind => marked kind

def leading : List String := ["Dim", "Return", "Throw", "If", "Catch", "Else", "Try", "Finally", "End"]

-- What a line says behind the word that it begins with.
def led (word : String) (tokens : List Token) : Option Item :=
  match word, tokens with
  | "Dim", .mark ' ' :: .word name :: .mark ' ' :: .word _ :: .mark ' ' :: .word type :: rest =>
    (dialect.readInit rest).map fun init => .single (.declare (dialect.readType type) (nameOf name) init)
  | "Return", rest => (dialect.readValue rest).map fun value => .single (.leave value)
  | "Throw", _ => some (.single .rethrow)
  | "If", .mark ' ' :: rest => (dialect.readExpr rest).map fun read => .condition read.1
  | "Catch", .mark ' ' :: .word name :: .mark ' ' :: .word _ :: .mark ' ' :: .word type :: _ =>
    some (.handle (dialect.readType type) (some (nameOf name)))
  | "Catch", _ => some (.handle (.framework .exception) none)
  | "Else", _ => some (.marker .otherwise)
  | "Try", _ => some (.marker .attempt)
  | "Finally", _ => some (.marker .final)
  | "End", [.mark ' ', .word "If"] => some (.marker .endBranch)
  | "End", _ => some (.marker .endAttempt)
  | _, _ => none

def grammar : Grammar where
  dialect := dialect
  framing := .words
  caught := caught
  comment := "'"
  code := code
  readCode := dialect.readLine leading led

theorem closes : dialect.Closes [] where
  ends := Dialect.ends_nothing
  unspaced := by decide
  assigned _ := ⟨by simp [Dialect.assigned], by simp [Dialect.assigned], rfl⟩

theorem separated_keyword {word : String} (member : word ∈ keywords) : dialect.Separated [.word word] :=
  Spelling.separated_one (word_of_keyword member)

-- A keyword stands in front of what it is about, with a blank between them.
theorem separated_behind_keyword {word : String} (member : word ∈ keywords) {tokens : List Token}
    (separated : dialect.Separated tokens) : dialect.Separated ([.word word, .mark ' '] ++ tokens) :=
  Dialect.separated_blank (separated_keyword member) separated

theorem separated_typed {name : String} (valid : Identifier.isValid name = true) {type : TypeRef}
    (named : type.Named) : dialect.Separated (typedTokens name type) :=
  Dialect.separated_blank (Dialect.separated_name valid)
    (separated_behind_keyword (by decide) (Dialect.separated_type named))

theorem separated_marked (kind : Marker) : dialect.Separated (marked kind) := by
  cases kind with
  | otherwise => exact separated_keyword (by decide)
  | attempt => exact separated_keyword (by decide)
  | final => exact separated_keyword (by decide)
  | endBranch => exact separated_behind_keyword (by decide) (separated_keyword (by decide))
  | endAttempt => exact separated_behind_keyword (by decide) (separated_keyword (by decide))
  | opening => exact Spelling.separated_nil
  | closing => exact Spelling.separated_nil

theorem caught_cases (exception : TypeRef) (binding : Option String) :
    (exception = .framework .exception ∧ binding = none ∧ caught exception binding = (exception, none)) ∨
      caught exception binding = (exception.plain, some (binding.getD faultVariable)) := by
  by_cases everything : exception = .framework .exception ∧ binding = none
  · exact .inl ⟨everything.1, everything.2, if_pos everything⟩
  · exact .inr (if_neg everything)

theorem valid_bound {binding : Option String} (valid : ∀ name ∈ binding, Identifier.isValid name = true) :
    Identifier.isValid (binding.getD faultVariable) = true := by
  cases binding with
  | none => decide +kernel
  | some name => exact valid name rfl

theorem separated_code {item : Item} (proper : item.Proper .words) : dialect.Separated (code item) := by
  cases item with
  | single statement =>
      obtain ⟨_, named⟩ := proper
      cases statement with
      | declare type name init =>
          have front : dialect.Separated ([.word "Dim", .mark ' '] ++ typedTokens name type) :=
            separated_behind_keyword (by decide) (separated_typed named.2.1 named.1)
          exact Dialect.separated_init front named.2.2
      | assign target value =>
          exact Dialect.separated_assigned (Dialect.separated_tokens target named.1)
            (Dialect.separated_tokens value named.2)
      | evaluate expr => exact Dialect.separated_tokens expr named
      | leave value =>
          have returns : dialect.Separated [.word "Return"] := separated_keyword (by decide)
          exact Dialect.separated_value returns named
      | rethrow => exact separated_keyword (by decide)
      | branch condition whenTrue whenFalse => exact Spelling.separated_nil
      | attempt body handlers final => exact Spelling.separated_nil
      | comment text => exact Spelling.separated_nil
  | condition expr =>
      exact Dialect.separated_blank
        (separated_behind_keyword (by decide) (Dialect.separated_tokens expr proper)) (separated_keyword (by decide))
  | handle exception binding =>
      have first : dialect.Separated [.word "Catch"] := separated_keyword (by decide)
      rcases caught_cases exception binding with ⟨_, _, seen⟩ | seen
      · rw [code, seen]
        exact first
      · rw [code, seen]
        exact separated_behind_keyword (by decide) (separated_typed (valid_bound proper.2) proper.1)
  | marker kind => exact separated_marked kind

theorem opens_code {item : Item} (proper : item.Proper .words) (solid : item.comment? = none) :
    Grammar.Opens (code item) := by
  cases item with
  | single statement =>
      cases statement with
      | assign target value =>
          exact Grammar.opens_of_begins (Dialect.begins_append (Dialect.begins_tokens target) _)
      | evaluate expr => exact Grammar.opens_of_begins (Dialect.begins_tokens expr)
      | declare type name init => exact Grammar.opens_word _ _
      | leave value => exact Grammar.opens_word _ _
      | rethrow => exact Grammar.opens_word _ _
      | branch condition whenTrue whenFalse => cases proper.1
      | attempt body handlers final => cases proper.1
      | comment text => cases solid
  | condition expr => exact Grammar.opens_word _ _
  | handle exception binding => exact Grammar.opens_word _ _
  | marker kind =>
      cases kind with
      | opening => simp [Item.Proper, Framing.markers, Framing.brace, Framing.ending] at proper
      | closing => simp [Item.Proper, Framing.markers, Framing.brace, Framing.ending] at proper
      | _ => exact Grammar.opens_word _ _

theorem leading_proper : ∀ word ∈ leading, word ∈ dialect.reserved ∧ word ∉ dialect.own := by decide

theorem read_led {word : String} (member : word ∈ leading) (rest : List Token) :
    grammar.readCode (.word word :: rest) = led word rest := if_pos member

theorem read_code {item : Item} (proper : item.Proper .words) (solid : item.comment? = none) :
    grammar.readCode (code item) = some (item.plain caught) := by
  cases item with
  | single statement =>
      obtain ⟨single, named⟩ := proper
      cases statement with
      | declare type name init =>
          have spelled : code (.single (.declare type name init)) = .word "Dim" :: .mark ' ' ::
              .word (identifier name) :: .mark ' ' :: .word "As" :: .mark ' ' :: .word (dialect.typeName type) ::
                (dialect.initTokens init ++ []) := by
            simp [code, typedTokens]
          rw [spelled, read_led (by decide), led, Dialect.read_init closes named.2.2, dialect.read_type named.1,
            (identifier_known named.2.1).2.2]
          rfl
      | assign target value =>
          rw [code, ← List.append_nil (_ ++ _)]
          exact Dialect.read_line_assign leading_proper closes named.1 named.2
      | evaluate expr =>
          rw [code, ← List.append_nil (dialect.tokens expr)]
          exact Dialect.read_line_evaluate leading_proper closes named
      | leave value =>
          rw [code, ← List.append_nil (dialect.valueTokens value), read_led (by decide), led,
            Dialect.read_value closes named]
          rfl
      | rethrow => rfl
      | branch condition whenTrue whenFalse => cases single
      | attempt body handlers final => cases single
      | comment text => cases solid
  | condition expr =>
      have ends : dialect.Ends [.mark ' ', .word "Then"] := ⟨by decide, by decide, rfl⟩
      have spelled : code (.condition expr) =
          .word "If" :: .mark ' ' :: (dialect.tokens expr ++ [.mark ' ', .word "Then"]) := by
        simp [code]
      rw [spelled, read_led (by decide), led, (dialect.reads expr proper).whole _ ends]
      rfl
  | handle exception binding =>
      rcases caught_cases exception binding with ⟨everything, unbound, seen⟩ | seen
      · rw [code, Item.plain, seen, everything]
        rfl
      · rw [code, Item.plain, seen, read_led (by decide), bound, typedTokens, led, dialect.read_type proper.1,
          (identifier_known (valid_bound proper.2)).2.2]
  | marker kind =>
      cases kind with
      | opening => simp [Item.Proper, Framing.markers, Framing.brace, Framing.ending] at proper
      | closing => simp [Item.Proper, Framing.markers, Framing.brace, Framing.ending] at proper
      | _ => rfl

theorem typed_plain (name : String) (type : TypeRef) : typedTokens name type.plain = typedTokens name type := by
  rw [typedTokens, typedTokens, Dialect.type_name_plain]

theorem code_plain (item : Item) : code (item.plain caught) = code item := by
  cases item with
  | single statement =>
      cases statement with
      | declare type name init => simp [Item.plain, Statement.plain, code, typed_plain, Dialect.init_tokens_plain]
      | assign target value => simp [Item.plain, Statement.plain, code, Dialect.tokens_plain]
      | evaluate expr => simp [Item.plain, Statement.plain, code, Dialect.tokens_plain]
      | leave value => simp [Item.plain, Statement.plain, code, Dialect.value_tokens_plain]
      | _ => rfl
  | condition expr => rw [Item.plain, code, code, Dialect.tokens_plain]
  | handle exception binding =>
      rcases caught_cases exception binding with ⟨everything, unbound, seen⟩ | seen
      · rw [Item.plain, seen, unbound]
      · have again (name : String) : (caught exception.plain (some name)).2 = some name := by simp [caught]
        rw [Item.plain, code, code, seen, again, bound, bound, typed_plain]
  | marker kind => rfl

theorem readable : grammar.Readable where
  comment_single := by decide
  comment_opens := ⟨'\'', rfl, by decide⟩
  separated := separated_code
  opens := opens_code
  read := read_code
  spelled := code_plain

/-! ## Layout -/

theorem line_of_code {item : Item} (solid : item.comment? = none) {text : String}
    (spelled : text.toList = spelling.spell (code item)) : text = grammar.line item :=
  Grammar.line_of_code solid spelled

theorem typed_spelled (name : String) (type : TypeRef) :
    (typed name type).toList = spelling.spell (typedTokens name type) := by
  simp [typed, typedTokens, Spelling.spellOne, type_spelled]

theorem condition_line (condition : Expr) :
    "If " ++ VisualBasic.expr condition ++ " Then" = grammar.line (.condition condition) :=
  line_of_code rfl (by simp [code, Spelling.spellOne, expr_spelled])

theorem catch_line (exception : TypeRef) (binding : Option String) :
    catchLine exception binding = grammar.line (.handle exception binding) := by
  apply line_of_code rfl
  cases binding with
  | some name => simp [catchLine, code, caught, bound, Spelling.spellOne, typed_spelled]
  | none =>
      by_cases everything : exception = .framework .exception
      · rw [everything]
        decide
      · simp [catchLine, code, caught, bound, Spelling.spellOne, typed_spelled, everything]

theorem marker_lines :
    grammar.line (.marker .otherwise) = "Else" ∧ grammar.line (.marker .attempt) = "Try" ∧
      grammar.line (.marker .final) = "Finally" ∧ grammar.line (.marker .endBranch) = "End If" ∧
      grammar.line (.marker .endAttempt) = "End Try" := by
  refine ⟨?_, ?_, ?_, ?_, ?_⟩ <;> exact (line_of_code rfl (by decide)).symm

theorem nested_layout (body : Layout) : Layout.nested body = Framing.words.enclosedLayout grammar.line body := by
  simp [Framing.enclosedLayout, Framing.lineSteps, Framing.brace]

mutual
theorem statement_layout : (statement : Statement) →
    VisualBasic.statement statement = Framing.words.statementLayout grammar.line statement
  | .declare type name none =>
      congrArg (fun text => [Step.line text])
        (line_of_code rfl (by simp [code, Dialect.initTokens, Spelling.spellOne, typed_spelled]))
  | .declare type name (some init) =>
      congrArg (fun text => [Step.line text]) (line_of_code rfl (by
        simp [code, Dialect.initTokens, Dialect.assigned, Spelling.spellOne, typed_spelled, expr_spelled]))
  | .assign target value =>
      congrArg (fun text => [Step.line text])
        (line_of_code rfl (by simp [code, Dialect.assigned, Spelling.spellOne, expr_spelled]))
  | .evaluate value => congrArg (fun text => [Step.line text]) (line_of_code rfl (expr_spelled value))
  | .leave none => congrArg (fun text => [Step.line text]) (line_of_code rfl (by decide))
  | .leave (some value) =>
      congrArg (fun text => [Step.line text])
        (line_of_code rfl (by simp [code, Dialect.valueTokens, Spelling.spellOne, expr_spelled]))
  | .rethrow => congrArg (fun text => [Step.line text]) (line_of_code rfl (by decide))
  | .comment text => rfl
  | .branch condition whenTrue whenFalse => by
      obtain ⟨otherwise, _, _, ending, _⟩ := marker_lines
      simp [VisualBasic.statement, Framing.statementLayout, Framing.optionalLayout, Framing.lineSteps, Framing.ending,
        block_layout whenTrue, block_layout whenFalse, nested_layout, condition_line, otherwise, ending]
  | .attempt body handlers final => by
      obtain ⟨_, attempt, last, _, ending⟩ := marker_lines
      simp [VisualBasic.statement, Framing.statementLayout, Framing.optionalLayout, Framing.lineSteps, Framing.ending,
        block_layout body, block_layout final, handlers_layout handlers, nested_layout, attempt, last, ending]
theorem block_layout : (block : Block) → VisualBasic.block block = Framing.words.layout grammar.line block
  | [] => rfl
  | first :: rest => by rw [VisualBasic.block, Framing.layout, statement_layout first, block_layout rest]
theorem handlers_layout : (handlers : List Handler) →
    handlerLayouts handlers = Framing.words.handlersLayout grammar.line handlers
  | [] => rfl
  | ⟨exception, binding, body⟩ :: rest => by
      rw [handlerLayouts, Framing.handlersLayout, catch_line, nested_layout, block_layout body, handlers_layout rest]
end

/-- Source is unambiguous: expressions have the same text exactly if they are the same, but for what is spelled
alike, and so have blocks at one level with one unit of blanks. -/
theorem visual_basic_source_known :
    (∀ {expr other : Expr}, expr.Named → other.Named →
      (VisualBasic.expr expr = VisualBasic.expr other ↔ expr.plain = other.plain)) ∧
    ∀ {block other : Block} {unit : String} {level : Nat}, BlockNamed block → BlockNamed other →
      (∀ c ∈ unit.toList, c = ' ' ∨ c = '\t') →
      ((VisualBasic.block block).text unit level = (VisualBasic.block other).text unit level ↔
        plainBlock caught block = plainBlock caught other) := by
  constructor
  · intro expr other named otherNamed
    rw [← String.toList_inj, expr_spelled, expr_spelled]
    exact @Dialect.spell_same_iff dialect _ _ named otherNamed
  · intro block other unit level named otherNamed blank
    rw [block_layout, block_layout]
    exact Grammar.text_same_iff readable named otherNamed fun c member => decide_eq_true (blank c member)

-- A conversion of a member is told from a member of what is converted, and a line that ends a branch from a
-- statement in it; a handler without a variable is not told from one with the variable that is written for it.
theorem visual_basic_source_known_book :
    VisualBasic.expr (.cast (.named "Book") (.property .incoming "Title")) ≠
        VisualBasic.expr (.property (.cast (.named "Book") .incoming) "Title") ∧
      (VisualBasic.block [.branch .null [.evaluate (.variable "End")] [], .leave none]).text "\t" 1 ≠
        (VisualBasic.block [.branch .null [.evaluate (.variable "End"), .leave none] []]).text "\t" 1 ∧
      (VisualBasic.block [.attempt [] [⟨.named "Fault", none, [.rethrow]⟩] []]).text "\t" 1 =
        (VisualBasic.block [.attempt [] [⟨.named "Fault", some "ex", [.rethrow]⟩] []]).text "\t" 1 := by
  have book : Identifier.isValid "Book" = true := by decide +kernel
  have title : Identifier.isValid "Title" = true := by decide +kernel
  have ending : Identifier.isValid "End" = true := by decide +kernel
  have fault : Identifier.isValid "Fault" = true := by decide +kernel
  have ex : Identifier.isValid "ex" = true := by decide +kernel
  refine ⟨fun same => ?_, fun same => ?_, ?_⟩
  · have plain := (visual_basic_source_known.1 (by simp [Expr.Named, TypeRef.Named, book, title])
      (by simp [Expr.Named, TypeRef.Named, book, title])).mp same
    simp [Expr.plain] at plain
  · have plain := (visual_basic_source_known.2 (by simp [BlockNamed, Statement.Named, Expr.Named, ending])
      (by simp [BlockNamed, Statement.Named, Expr.Named, ending]) (by simp)).mp same
    simp [plainBlock, Statement.plain] at plain
  · exact (visual_basic_source_known.2 (by simp [BlockNamed, HandlersNamed, Statement.Named, TypeRef.Named, fault])
      (by simp [BlockNamed, HandlersNamed, Statement.Named, TypeRef.Named, fault, ex]) (by simp)).mpr rfl

end Companion.Source.VisualBasic
