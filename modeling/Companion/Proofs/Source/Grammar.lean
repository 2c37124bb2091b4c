import Companion.Proofs.Source.Items
import Companion.Proofs.Source.Lines
import Companion.Proofs.Source.Reader

/-!
Languages that write blocks line by line, and can read each line. Main statement: `text_same_iff`, blocks have
the same text exactly if they are the same, but for what is spelled alike.
-/
set_option autoImplicit false

namespace Companion.Source

open Code

-- Statements on one line.
def isSingle : Statement → Bool
  | .branch _ _ _ | .attempt _ _ _ => false
  | _ => true

namespace Item

def plain (caught : Caught) : Item → Item
  | .single statement => .single (statement.plain caught)
  | .condition expr => .condition expr.plain
  | .handle exception binding => .handle (caught exception binding).1 (caught exception binding).2
  | .marker kind => .marker kind

def comment? : Item → Option String
  | .single (.comment text) => some text
  | _ => none

-- The lines that a block is written in, if its names can be spelled.
def Proper (framing : Framing) : Item → Prop
  | .single statement => isSingle statement = true ∧ statement.Named
  | .condition expr => expr.Named
  | .handle exception binding => exception.Named ∧ ∀ name ∈ binding, Identifier.isValid name = true
  | .marker kind => kind ∈ framing.markers

theorem comment_of_some {item : Item} {text : String} (comment : item.comment? = some text) :
    item = .single (.comment text) := by
  unfold comment? at comment
  split at comment
  · cases comment
    rfl
  · cases comment

end Item

namespace Framing

variable {framing : Framing}

theorem plain_optional (caught : Caught) (kind : Marker) (block : Block) (items : List Item) :
    framing.optional kind (plainBlock caught block) (items.map (Item.plain caught)) =
      (framing.optional kind block items).map (Item.plain caught) := by
  cases block with
  | nil => rfl
  | cons first rest => simp [optional, plainBlock, enclosed, Item.plain, Function.comp_def]

mutual
theorem statement_items_plain (caught : Caught) : (statement : Statement) →
    framing.statementItems (statement.plain caught) = (framing.statementItems statement).map (Item.plain caught)
  | .branch condition whenTrue whenFalse => by
      simp [Statement.plain, statementItems, items_plain caught, plain_optional, enclosed, Item.plain,
        Function.comp_def]
  | .attempt body handlers final => by
      simp [Statement.plain, statementItems, items_plain caught, handler_items_plain caught, plain_optional, enclosed,
        Item.plain, Function.comp_def]
  | .declare _ _ _ | .assign _ _ | .evaluate _ | .leave _ | .rethrow | .comment _ => rfl
-- The lines of a block are seen as the block is.
theorem items_plain (caught : Caught) : (block : Block) →
    framing.items (plainBlock caught block) = (framing.items block).map (Item.plain caught)
  | [] => rfl
  | first :: rest => by
      rw [plainBlock, items, items, List.map_append, statement_items_plain caught first, items_plain caught rest]
theorem handler_items_plain (caught : Caught) : (handlers : List Handler) →
    framing.handlerItems (plainHandlers caught handlers) = (framing.handlerItems handlers).map (Item.plain caught)
  | [] => rfl
  | ⟨exception, binding, body⟩ :: rest => by
      simp [plainHandlers, handlerItems, items_plain caught body, handler_items_plain caught rest, enclosed, Item.plain,
        Function.comp_def]
end

theorem proper_enclosed {items : List Item} (proper : ∀ item ∈ items, item.Proper framing) :
    ∀ item ∈ framing.enclosed items, item.Proper framing := by
  intro item member
  rw [enclosed, List.mem_append, List.mem_append, List.mem_map, List.mem_map] at member
  rcases member with (⟨kind, own, rfl⟩ | inner) | ⟨kind, own, rfl⟩
  · simp [Item.Proper, markers, own]
  · exact proper item inner
  · simp [Item.Proper, markers, own]

theorem proper_optional {kind : Marker} (own : kind ∈ framing.markers) (block : Block) {items : List Item}
    (proper : ∀ item ∈ items, item.Proper framing) :
    ∀ item ∈ framing.optional kind block items, item.Proper framing := by
  rw [optional]
  by_cases empty : block.isEmpty = true
  · rw [if_pos empty]
    exact List.forall_mem_nil _
  · rw [if_neg empty]
    exact List.forall_mem_cons.mpr ⟨own, proper_enclosed proper⟩

theorem proper_ending {kind : Marker} (last : kind = .endBranch ∨ kind = .endAttempt) :
    ∀ item ∈ (framing.ending kind).map Item.marker, item.Proper framing := by
  rw [List.forall_mem_map]
  intro other own
  rcases last with rfl | rfl
  · simp [Item.Proper, markers, own]
  · simp [Item.Proper, markers, own]

mutual
theorem proper_statement : (statement : Statement) → statement.Named →
    ∀ item ∈ framing.statementItems statement, item.Proper framing
  | .branch condition whenTrue whenFalse, named => by
      have other : Marker.otherwise ∈ framing.markers := by simp [markers]
      rw [statementItems, List.forall_mem_append, List.forall_mem_append, List.forall_mem_cons]
      exact ⟨⟨⟨named.1, proper_enclosed (proper_items whenTrue named.2.1)⟩,
        proper_optional other whenFalse (proper_items whenFalse named.2.2)⟩, proper_ending (.inl rfl)⟩
  | .attempt body handlers final, named => by
      have attempt : Marker.attempt ∈ framing.markers := by simp [markers]
      have last : Marker.final ∈ framing.markers := by simp [markers]
      rw [statementItems, List.forall_mem_append, List.forall_mem_append, List.forall_mem_append, List.forall_mem_cons]
      exact ⟨⟨⟨⟨attempt, proper_enclosed (proper_items body named.1)⟩, proper_handlers handlers named.2.1⟩,
        proper_optional last final (proper_items final named.2.2)⟩, proper_ending (.inr rfl)⟩
  | .declare _ _ _, named | .assign _ _, named | .evaluate _, named | .leave _, named | .rethrow, named
  | .comment _, named => List.forall_mem_singleton.mpr ⟨rfl, named⟩
-- A block is written in proper lines.
theorem proper_items : (block : Block) → BlockNamed block → ∀ item ∈ framing.items block, item.Proper framing
  | [], _ => nofun
  | first :: rest, named =>
      List.forall_mem_append.mpr ⟨proper_statement first named.1, proper_items rest named.2⟩
theorem proper_handlers : (handlers : List Handler) → HandlersNamed handlers →
    ∀ item ∈ framing.handlerItems handlers, item.Proper framing
  | [], _ => nofun
  | ⟨exception, binding, body⟩ :: rest, named => by
      obtain ⟨⟨type, bound, inner⟩, others⟩ := named
      rw [handlerItems, List.forall_mem_append, List.forall_mem_cons]
      exact ⟨⟨⟨type, bound⟩, proper_enclosed (proper_items body inner)⟩, proper_handlers rest others⟩
end

/-! ## Layout -/

section
variable (framing) (line : Item → String)

def lineSteps (items : List Item) : Layout := items.map fun item => .line (line item)

def enclosedLayout (body : Layout) : Layout :=
  lineSteps line ((framing.brace .opening).map .marker) ++ Layout.nested body
    ++ lineSteps line ((framing.brace .closing).map .marker)

def optionalLayout (marker : Marker) (block : Block) (body : Layout) : Layout :=
  if block.isEmpty then [] else .line (line (.marker marker)) :: framing.enclosedLayout line body

-- The lines of a block, with their margins.
mutual
def statementLayout : Statement → Layout
  | .branch condition whenTrue whenFalse =>
    .line (line (.condition condition)) :: framing.enclosedLayout line (layout whenTrue)
      ++ framing.optionalLayout line .otherwise whenFalse (layout whenFalse)
      ++ lineSteps line ((framing.ending .endBranch).map .marker)
  | .attempt body handlers final =>
    .line (line (.marker .attempt)) :: framing.enclosedLayout line (layout body)
      ++ handlersLayout handlers
      ++ framing.optionalLayout line .final final (layout final)
      ++ lineSteps line ((framing.ending .endAttempt).map .marker)
  | statement => [.line (line (.single statement))]
def layout : Block → Layout
  | [] => []
  | first :: rest => statementLayout first ++ layout rest
def handlersLayout : List Handler → Layout
  | [] => []
  | ⟨exception, binding, body⟩ :: rest =>
    .line (line (.handle exception binding)) :: framing.enclosedLayout line (layout body) ++ handlersLayout rest
end

variable {framing line}

theorem texts_lines (items : List Item) : (lineSteps line items).texts = items.map line := by
  simp [lineSteps, Layout.texts]

theorem texts_enclosed {body : Layout} {items : List Item} (texts : body.texts = items.map line) :
    (framing.enclosedLayout line body).texts = (framing.enclosed items).map line := by
  rw [enclosedLayout, Layout.texts_append, Layout.texts_append, Layout.texts_nested, texts_lines, texts_lines, texts,
    enclosed, List.map_append, List.map_append]

theorem texts_optional {marker : Marker} {block : Block} {body : Layout} {items : List Item}
    (texts : body.texts = items.map line) :
    (framing.optionalLayout line marker block body).texts = (framing.optional marker block items).map line := by
  rw [optionalLayout, optional]
  by_cases empty : block.isEmpty = true
  · rw [if_pos empty, if_pos empty]
    rfl
  · rw [if_neg empty, if_neg empty, Layout.texts_line, texts_enclosed texts, List.map_cons]

mutual
theorem texts_statement : (statement : Statement) →
    (framing.statementLayout line statement).texts = (framing.statementItems statement).map line
  | .branch condition whenTrue whenFalse => by
      simp [statementLayout, statementItems, Layout.texts_append, Layout.texts_line, texts_lines,
        texts_enclosed (texts_layout whenTrue), texts_optional (texts_layout whenFalse)]
  | .attempt body handlers final => by
      simp [statementLayout, statementItems, Layout.texts_append, Layout.texts_line, texts_lines,
        texts_enclosed (texts_layout body), texts_handlers handlers, texts_optional (texts_layout final)]
  | .declare _ _ _ | .assign _ _ | .evaluate _ | .leave _ | .rethrow | .comment _ => rfl
theorem texts_layout : (block : Block) → (framing.layout line block).texts = (framing.items block).map line
  | [] => rfl
  | first :: rest => by
      rw [layout, items, Layout.texts_append, List.map_append, texts_statement first, texts_layout rest]
theorem texts_handlers : (handlers : List Handler) →
    (framing.handlersLayout line handlers).texts = (framing.handlerItems handlers).map line
  | [] => rfl
  | ⟨exception, binding, body⟩ :: rest => by
      simp [handlersLayout, handlerItems, Layout.texts_append, Layout.texts_line,
        texts_enclosed (texts_layout body), texts_handlers rest]
end

theorem blank_enclosed {body : Layout} (none : .blank ∉ body) : .blank ∉ framing.enclosedLayout line body := by
  simp [enclosedLayout, lineSteps, Layout.nested, none]

theorem blank_optional {marker : Marker} {block : Block} {body : Layout} (none : .blank ∉ body) :
    .blank ∉ framing.optionalLayout line marker block body := by
  rw [optionalLayout]
  by_cases empty : block.isEmpty = true
  · rw [if_pos empty]
    exact List.not_mem_nil
  · rw [if_neg empty]
    simp [blank_enclosed none]

mutual
theorem blank_statement : (statement : Statement) → .blank ∉ framing.statementLayout line statement
  | .branch condition whenTrue whenFalse => by
      simp [statementLayout, blank_enclosed (blank_layout whenTrue), blank_optional (blank_layout whenFalse), lineSteps]
  | .attempt body handlers final => by
      simp [statementLayout, blank_enclosed (blank_layout body), blank_handlers handlers,
        blank_optional (blank_layout final), lineSteps]
  | .declare _ _ _ | .assign _ _ | .evaluate _ | .leave _ | .rethrow | .comment _ => by simp [statementLayout]
theorem blank_layout : (block : Block) → .blank ∉ framing.layout line block
  | [] => List.not_mem_nil
  | first :: rest => by simp [layout, blank_statement first, blank_layout rest]
theorem blank_handlers : (handlers : List Handler) → .blank ∉ framing.handlersLayout line handlers
  | [] => List.not_mem_nil
  | ⟨exception, binding, body⟩ :: rest => by
      simp [handlersLayout, blank_enclosed (blank_layout body), blank_handlers rest]
end

theorem optional_layout_plain (caught : Caught) (marker : Marker) (block : Block) (body : Layout) :
    framing.optionalLayout line marker (plainBlock caught block) body =
      framing.optionalLayout line marker block body := by
  cases block with
  | nil => rfl
  | cons first rest => rfl

-- Lines that are spelled as what they are seen as give the same layout.
mutual
theorem statement_layout_plain {caught : Caught} (same : ∀ item : Item, line (item.plain caught) = line item) :
    (statement : Statement) →
      framing.statementLayout line (statement.plain caught) = framing.statementLayout line statement
  | .branch condition whenTrue whenFalse => by
      have first := same (.condition condition)
      rw [Item.plain] at first
      simp [Statement.plain, statementLayout, layout_plain same whenTrue, layout_plain same whenFalse,
        optional_layout_plain, first]
  | .attempt body handlers final => by
      simp [Statement.plain, statementLayout, layout_plain same body, handlers_layout_plain same handlers,
        layout_plain same final, optional_layout_plain]
  | .declare _ _ _ | .assign _ _ | .evaluate _ | .leave _ | .rethrow | .comment _ =>
      congrArg (fun text => [Step.line text]) (same (.single _))
theorem layout_plain {caught : Caught} (same : ∀ item : Item, line (item.plain caught) = line item) :
    (block : Block) → framing.layout line (plainBlock caught block) = framing.layout line block
  | [] => rfl
  | first :: rest => by
      rw [plainBlock, layout, layout, statement_layout_plain same first, layout_plain same rest]
theorem handlers_layout_plain {caught : Caught} (same : ∀ item : Item, line (item.plain caught) = line item) :
    (handlers : List Handler) →
      framing.handlersLayout line (plainHandlers caught handlers) = framing.handlersLayout line handlers
  | [] => rfl
  | ⟨exception, binding, body⟩ :: rest => by
      have first := same (.handle exception binding)
      rw [Item.plain] at first
      simp [plainHandlers, handlersLayout, layout_plain same body, handlers_layout_plain same rest, first]
end

end

end Framing

/-! ## Languages -/

-- What one language writes its lines with, and how it reads them.
structure Grammar where
  dialect : Dialect
  framing : Framing
  caught : Caught
  -- What a comment begins with.
  comment : String
  code : Item → List Token
  readCode : List Token → Option Item

namespace Grammar

variable (grammar : Grammar)

def line (item : Item) : String :=
  match item.comment? with
  | some text => grammar.comment ++ text
  | none => String.ofList (grammar.dialect.spell (grammar.code item))

-- A line of code begins with a word, with quoted text, with a parenthesis or with a brace.
def Opens (tokens : List Token) : Prop :=
  ∃ first rest, tokens = first :: rest ∧ ∀ c, first = .mark c → c ∈ ['(', '\x7b', '\x7d']

theorem opens_word (word : String) (rest : List Token) : Opens (.word word :: rest) := ⟨_, _, rfl, nofun⟩

theorem opens_of_begins {tokens : List Token} (begins : Dialect.Begins tokens) : Opens tokens := by
  obtain ⟨first, rest, rfl, opening⟩ := begins
  refine ⟨first, rest, rfl, ?_⟩
  rintro c rfl
  have parenthesis : c = '(' := by simpa [Token.isMark] using opening
  rw [parenthesis]
  exact List.mem_cons_self

-- A language that can be read line by line.
structure Readable : Prop where
  comment_single : '\n' ∉ grammar.comment.toList
  comment_opens : ∃ c ∈ grammar.comment.toList.head?, c ∈ ['/', '\'']
  separated : ∀ {item : Item}, item.Proper grammar.framing → grammar.dialect.Separated (grammar.code item)
  opens : ∀ {item : Item}, item.Proper grammar.framing → item.comment? = none → Opens (grammar.code item)
  read : ∀ {item : Item}, item.Proper grammar.framing → item.comment? = none →
    grammar.readCode (grammar.code item) = some (item.plain grammar.caught)
  spelled : ∀ item : Item, grammar.code (item.plain grammar.caught) = grammar.code item

variable {grammar}

-- What a line of code begins with: a character of words, or a sign that opens or closes something.
theorem code_opening (readable : grammar.Readable) {item : Item} (proper : item.Proper grammar.framing)
    (code : item.comment? = none) :
    ∃ c ∈ (grammar.dialect.spell (grammar.code item)).head?,
      grammar.dialect.isWord c = true ∨ c ∈ ['"', '(', '\x7b', '\x7d'] := by
  obtain ⟨first, rest, spelled, mark⟩ := readable.opens proper code
  have separated := readable.separated proper
  rw [spelled] at separated
  obtain ⟨c, more, whole, begins⟩ :=
    Spelling.begins_of_token (Spelling.separated_cons separated).1 (grammar.dialect.spell rest)
  rw [spelled, Spelling.spell_cons, whole]
  refine ⟨c, rfl, ?_⟩
  cases first with
  | literal text =>
      cases begins
      exact .inr List.mem_cons_self
  | mark own =>
      cases begins
      exact .inr (List.mem_cons_of_mem '"' (mark c rfl))
  | word text => exact .inl begins

-- A line of code is told from a comment by its first character.
theorem code_begins (readable : grammar.Readable) {item : Item} (proper : item.Proper grammar.framing)
    (code : item.comment? = none) :
    ∃ c ∈ (grammar.dialect.spell (grammar.code item)).head?, Layout.isMargin c = false ∧ c ∉ ['/', '\''] := by
  obtain ⟨c, begun, word | sign⟩ := code_opening readable proper code
  · have apart : ∀ other ∈ outside, c ≠ other := by
      rintro other member rfl
      rw [grammar.dialect.unworded c member] at word
      cases word
    have margin : c ≠ ' ' ∧ c ≠ '\t' := ⟨apart ' ' (by decide), apart '\t' (by decide)⟩
    have comment : c ≠ '/' ∧ c ≠ '\'' := ⟨apart '/' (by decide), apart '\'' (by decide)⟩
    exact ⟨c, begun, by simp [Layout.isMargin, margin], by simp [comment]⟩
  · have signs : ∀ c ∈ ['"', '(', '\x7b', '\x7d'], Layout.isMargin c = false ∧ c ∉ ['/', '\''] :=
      List.all_iff_forall_prop.mp (by decide)
    exact ⟨c, begun, signs c sign⟩

theorem line_comment {item : Item} {text : String} (comment : item.comment? = some text) :
    grammar.line item = grammar.comment ++ text := by
  rw [line, comment]

theorem line_code {item : Item} (code : item.comment? = none) :
    (grammar.line item).toList = grammar.dialect.spell (grammar.code item) := by
  rw [line, code, String.toList_ofList]

theorem line_of_code {item : Item} (code : item.comment? = none) {text : String}
    (spelled : text.toList = grammar.dialect.spell (grammar.code item)) : text = grammar.line item := by
  rw [← String.toList_inj, line_code code, spelled]

theorem is_line (readable : grammar.Readable) {item : Item} (proper : item.Proper grammar.framing) :
    Layout.IsLine (grammar.line item) := by
  cases comment : item.comment? with
  | none =>
      obtain ⟨c, begun, margin, _⟩ := code_begins readable proper comment
      refine ⟨⟨c, ?_, margin⟩, ?_⟩
      · rw [line_code comment]
        exact begun
      · rw [line_code comment]
        exact Spelling.spell_one_line (readable.separated proper).each
  | some text =>
      obtain ⟨c, begun, opening⟩ := readable.comment_opens
      obtain ⟨rest, spelled⟩ := List.head?_eq_some_iff.mp begun
      have solid : ∀ c ∈ ['/', '\''], Layout.isMargin c = false := List.all_iff_forall_prop.mp (by decide)
      rw [Item.comment_of_some comment] at proper
      rw [line_comment comment]
      refine ⟨⟨c, ?_, solid c opening⟩, ?_⟩
      · rw [String.toList_append, spelled]
        rfl
      · rw [String.toList_append, List.mem_append, not_or]
        exact ⟨readable.comment_single, proper.2⟩

theorem comment_ne_code (readable : grammar.Readable) {item other : Item} (proper : item.Proper grammar.framing)
    (code : item.comment? = none) {text : String} (comment : other.comment? = some text) :
    grammar.line item ≠ grammar.line other := by
  obtain ⟨c, begun, _, apart⟩ := code_begins readable proper code
  obtain ⟨d, opened, opening⟩ := readable.comment_opens
  obtain ⟨rest, spelled⟩ := List.head?_eq_some_iff.mp opened
  intro same
  rw [← line_code code, same, line_comment comment, String.toList_append, spelled] at begun
  cases begun
  exact apart opening

-- A line is known, but for what is spelled alike.
theorem plain_of_line (readable : grammar.Readable) {item other : Item} (proper : item.Proper grammar.framing)
    (otherProper : other.Proper grammar.framing) (same : grammar.line item = grammar.line other) :
    item.plain grammar.caught = other.plain grammar.caught := by
  cases comment : item.comment? with
  | none =>
      cases otherComment : other.comment? with
      | none =>
          have spelled : grammar.dialect.spell (grammar.code item) = grammar.dialect.spell (grammar.code other) := by
            rw [← line_code comment, ← line_code otherComment, same]
          have code := Spelling.spell_injective (readable.separated proper) (readable.separated otherProper) spelled
          have read := readable.read proper comment
          rw [code, readable.read otherProper otherComment] at read
          exact (Option.some.inj read).symm
      | some text => exact absurd same (comment_ne_code readable proper comment otherComment)
  | some text =>
      cases otherComment : other.comment? with
      | none => exact absurd same.symm (comment_ne_code readable otherProper otherComment comment)
      | some otherText =>
          rw [line_comment comment, line_comment otherComment] at same
          have chars := congrArg String.toList same
          rw [String.toList_append, String.toList_append] at chars
          rw [Item.comment_of_some comment, Item.comment_of_some otherComment,
            String.toList_inj.mp (List.append_cancel_left chars)]

theorem line_plain (readable : grammar.Readable) (item : Item) :
    grammar.line (item.plain grammar.caught) = grammar.line item := by
  have kept : (item.plain grammar.caught).comment? = item.comment? := by
    cases item with
    | single statement => cases statement <;> rfl
    | _ => rfl
  rw [line, line, kept]
  cases comment : item.comment? with
  | none => rw [readable.spelled]
  | some text => rfl

variable (grammar) in
def layout (block : Block) : Layout := grammar.framing.layout grammar.line block

theorem plain_layout (readable : grammar.Readable) {block : Block} (named : BlockNamed block) :
    Layout.Plain (grammar.layout block) := by
  refine Layout.plain_of_texts (Framing.blank_layout block) ?_
  rw [layout, Framing.texts_layout, List.forall_mem_map]
  exact fun item member => is_line readable (Framing.proper_items block named item member)

-- Lines that are spelled alike, one by one.
theorem plain_of_lines (readable : grammar.Readable) {items others : List Item}
    (proper : ∀ item ∈ items, item.Proper grammar.framing) (otherProper : ∀ item ∈ others, item.Proper grammar.framing)
    (same : items.map grammar.line = others.map grammar.line) :
    items.map (Item.plain grammar.caught) = others.map (Item.plain grammar.caught) := by
  induction items generalizing others with
  | nil =>
      cases others with
      | nil => rfl
      | cons other more => cases same
  | cons item rest ih =>
      cases others with
      | nil => cases same
      | cons other more =>
          obtain ⟨first, behind⟩ := List.cons.inj same
          obtain ⟨properFirst, properRest⟩ := List.forall_mem_cons.mp proper
          obtain ⟨otherFirst, otherRest⟩ := List.forall_mem_cons.mp otherProper
          rw [List.map_cons, List.map_cons, plain_of_line readable properFirst otherFirst first,
            ih properRest otherRest behind]

/-- Blocks have the same text exactly if they are the same, but for what is spelled alike. -/
theorem text_same_iff (readable : grammar.Readable) {block other : Block} (named : BlockNamed block)
    (otherNamed : BlockNamed other) {unit : String} (blank : ∀ c ∈ unit.toList, Layout.isMargin c = true)
    {level : Nat} :
    (grammar.layout block).text unit level = (grammar.layout other).text unit level ↔
      plainBlock grammar.caught block = plainBlock grammar.caught other := by
  constructor
  · intro same
    have texts := Layout.texts_of_text blank (plain_layout readable named) (plain_layout readable otherNamed) same
    rw [layout, layout, Framing.texts_layout, Framing.texts_layout] at texts
    have items := plain_of_lines readable (Framing.proper_items block named) (Framing.proper_items other otherNamed)
      texts
    rw [← Framing.items_plain, ← Framing.items_plain] at items
    exact Framing.items_injective items
  · intro same
    rw [layout, layout, ← Framing.layout_plain (line_plain readable) block, same,
      Framing.layout_plain (line_plain readable) other]

end Grammar
end Companion.Source
