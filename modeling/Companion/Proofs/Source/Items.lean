import Companion.Proofs.Source.Plain

/-!
Blocks of statements as the lines that they are written in, and a reader for them. Main statement:
`items_injective`, a block is known by its lines, whether braces or words close its parts.
-/
set_option autoImplicit false

namespace Companion.Source

open Code

-- A line that is the same wherever it stands.
inductive Marker
  | otherwise
  | attempt
  | final
  | opening
  | closing
  | endBranch
  | endAttempt
deriving DecidableEq

-- What a line says.
inductive Item
  | single (statement : Statement)
  | condition (expr : Expr)
  | handle (exception : TypeRef) (binding : Option String)
  | marker (kind : Marker)

-- Each block stands between braces, or a statement with blocks in it ends with a line of its own.
inductive Framing
  | braces
  | words

namespace Framing

variable (framing : Framing)

-- A line that only braces need.
def brace (kind : Marker) : List Marker :=
  match framing with
  | .braces => [kind]
  | .words => []

-- A line that only words need.
def ending (kind : Marker) : List Marker :=
  match framing with
  | .braces => []
  | .words => [kind]

-- The markers that lines can be.
def markers : List Marker :=
  [.otherwise, .attempt, .final] ++ framing.brace .opening ++ framing.brace .closing ++ framing.ending .endBranch
    ++ framing.ending .endAttempt

def enclosed (items : List Item) : List Item :=
  (framing.brace .opening).map .marker ++ items ++ (framing.brace .closing).map .marker

-- A part that is left out with its marker if it is empty.
def optional (marker : Marker) (block : Block) (items : List Item) : List Item :=
  if block.isEmpty then [] else .marker marker :: framing.enclosed items

mutual
def statementItems : Statement → List Item
  | .branch condition whenTrue whenFalse =>
    .condition condition :: framing.enclosed (items whenTrue)
      ++ framing.optional .otherwise whenFalse (items whenFalse)
      ++ (framing.ending .endBranch).map .marker
  | .attempt body handlers final =>
    .marker .attempt :: framing.enclosed (items body)
      ++ handlerItems handlers
      ++ framing.optional .final final (items final)
      ++ (framing.ending .endAttempt).map .marker
  | statement => [.single statement]
def items : Block → List Item
  | [] => []
  | first :: rest => statementItems first ++ items rest
def handlerItems : List Handler → List Item
  | [] => []
  | ⟨exception, binding, body⟩ :: rest =>
    .handle exception binding :: framing.enclosed (items body) ++ handlerItems rest
end

/-! ## Reading -/

def expectAll : List Marker → List Item → Option (List Item)
  | [], items => some items
  | marker :: markers, .marker found :: rest => if found = marker then expectAll markers rest else none
  | _, _ => none

mutual
def readBlock (framing : Framing) (items : List Item) : Option (Block × List Item) :=
  match items with
  | .single statement :: rest => do
    let (block, rest) ← framing |>.readBlock rest
    return (statement :: block, rest)
  | .condition condition :: rest => do
    let (whenTrue, rest) ← framing |>.readEnclosed rest
    let (whenFalse, rest) ← framing |>.readOptional .otherwise rest
    let rest ← expectAll (framing.ending .endBranch) rest
    let (block, rest) ← framing |>.readBlock rest
    return (.branch condition whenTrue whenFalse :: block, rest)
  | .marker .attempt :: rest => do
    let (body, rest) ← framing |>.readEnclosed rest
    let (handlers, rest) ← framing |>.readHandlers rest
    let (final, rest) ← framing |>.readOptional .final rest
    let rest ← expectAll (framing.ending .endAttempt) rest
    let (block, rest) ← framing |>.readBlock rest
    return (.attempt body handlers final :: block, rest)
  | rest => some ([], rest)
partial_fixpoint
def readEnclosed (framing : Framing) (items : List Item) : Option (Block × List Item) := do
  let rest ← expectAll (framing.brace .opening) items
  let (block, rest) ← framing |>.readBlock rest
  let rest ← expectAll (framing.brace .closing) rest
  return (block, rest)
partial_fixpoint
-- The block behind a marker, or none where the marker is missing.
def readOptional (framing : Framing) (marker : Marker) (items : List Item) : Option (Block × List Item) :=
  match items with
  | .marker found :: rest => if found = marker then framing |>.readEnclosed rest else some ([], .marker found :: rest)
  | rest => some ([], rest)
partial_fixpoint
def readHandlers (framing : Framing) (items : List Item) : Option (List Handler × List Item) :=
  match items with
  | .handle exception binding :: rest => do
    let (body, rest) ← framing |>.readEnclosed rest
    let (handlers, rest) ← framing |>.readHandlers rest
    return (⟨exception, binding, body⟩ :: handlers, rest)
  | rest => some ([], rest)
partial_fixpoint
end

variable {framing}

theorem expect_all (markers : List Marker) (rest : List Item) :
    expectAll markers (markers.map .marker ++ rest) = some rest := by
  induction markers with
  | nil => rfl
  | cons marker others ih =>
      rw [List.map_cons, List.cons_append, expectAll, if_pos rfl]
      exact ih

end Framing

-- Whether a statement begins with a line.
def Item.starts : Item → Bool
  | .single _ | .condition _ => true
  | .handle _ _ => false
  | .marker kind => kind = .attempt

-- Whether a line goes on with the statement that stands in front of it.
def Item.continues : Item → Bool
  | .single _ | .condition _ => false
  | .handle _ _ => true
  | .marker kind => kind = .otherwise ∨ kind = .final

def Item.isHandle : Item → Bool
  | .handle _ _ => true
  | _ => false

-- The first line is none of a kind.
def Without (kind : Item → Bool) (items : List Item) : Prop := ∀ item ∈ items.head?, kind item = false

theorem without_behind {kind : Item → Bool} {item : Item} (other : kind item = false) (rest : List Item) :
    Without kind (item :: rest) := fun _ head => Option.some.inj head ▸ other

-- No statement begins.
abbrev Stops (items : List Item) : Prop := Without Item.starts items

-- No statement goes on.
abbrev Apart (items : List Item) : Prop := Without Item.continues items

namespace Framing

variable {framing : Framing}

-- What can stand behind a block. With braces it is closed before a statement goes on around it.
structure Ends (framing : Framing) (tail : List Item) : Prop where
  stops : Stops tail
  apart : framing = .braces → Apart tail

theorem read_block_end {tail : List Item} (stops : Stops tail) : framing.readBlock tail = some ([], tail) := by
  unfold readBlock
  split
  · cases stops _ rfl
  · cases stops _ rfl
  · cases stops _ rfl
  · rfl

-- A block is read, whatever stands behind it.
def Read (framing : Framing) (block : Block) : Prop :=
  ∀ tail, framing.Ends tail → framing.readBlock (framing.items block ++ tail) = some (block, tail)

theorem read_enclosed {block : Block} (read : framing.Read block) {tail : List Item}
    (stops : framing = .words → Stops tail) :
    framing.readEnclosed (framing.enclosed (framing.items block) ++ tail) = some (block, tail) := by
  have ends : framing.Ends ((framing.brace .closing).map .marker ++ tail) := by
    cases framing with
    | braces => exact ⟨fun item head => by cases head; rfl, fun _ item head => by cases head; rfl⟩
    | words => exact ⟨stops rfl, nofun⟩
  rw [readEnclosed, enclosed, List.append_assoc, List.append_assoc, expect_all]
  simp [read _ ends, expect_all]

theorem read_optional (marker : Marker) (part : (Item.marker marker).continues = true) {block : Block}
    (read : framing.Read block) {tail : List Item} (apart : Apart tail) (stops : framing = .words → Stops tail) :
    framing.readOptional marker (framing.optional marker block (framing.items block) ++ tail) =
      some (block, tail) := by
  rw [optional]
  by_cases empty : block.isEmpty = true
  · rw [if_pos empty, List.nil_append, List.isEmpty_iff.mp empty]
    unfold readOptional
    split
    · next found rest =>
        have other : found ≠ marker := by
          rintro rfl
          rw [apart _ rfl] at part
          cases part
        rw [if_neg other]
    · rfl
  · rw [if_neg empty, List.cons_append, readOptional, if_pos rfl]
    exact read_enclosed read stops

theorem without_optional (framing : Framing) {kind : Item → Bool} {marker : Marker}
    (other : kind (.marker marker) = false) (block : Block) {items tail : List Item} (without : Without kind tail) :
    Without kind (framing.optional marker block items ++ tail) := by
  rw [optional]
  by_cases empty : block.isEmpty = true
  · rw [if_pos empty]
    exact without
  · rw [if_neg empty]
    exact without_behind other _

theorem stops_handlers (framing : Framing) (handlers : List Handler) {tail : List Item} (stops : Stops tail) :
    Stops (framing.handlerItems handlers ++ tail) := by
  cases handlers with
  | nil => exact stops
  | cons handler rest =>
      obtain ⟨exception, binding, body⟩ := handler
      rw [handlerItems]
      exact without_behind rfl _

-- A block begins with the beginning of a statement.
theorem apart_items (block : Block) {tail : List Item} (apart : Apart tail) : Apart (framing.items block ++ tail) := by
  cases block with
  | nil => exact apart
  | cons first rest =>
      intro item head
      cases first <;> (cases head; rfl)

-- Behind the parts of a statement stands the line that ends it; with braces, the next statement.
theorem apart_ending {marker : Marker} (past : (Item.marker marker).continues = false) {rest : List Item}
    (apart : framing = .braces → Apart rest) : Apart ((framing.ending marker).map .marker ++ rest) := by
  cases framing with
  | braces => exact apart rfl
  | words => exact without_behind past rest

theorem stops_ending {marker : Marker} (past : (Item.marker marker).starts = false) (rest : List Item)
    (words : framing = .words) : Stops ((framing.ending marker).map .marker ++ rest) := by
  rw [words]
  exact without_behind past rest

theorem no_handler {items : List Item} (apart : Apart items) : Without Item.isHandle items := by
  intro item head
  have past := apart item head
  cases item with
  | handle exception binding => cases past
  | _ => rfl

theorem read_single (statement : Statement) {items tail : List Item} {block : Block}
    (read : framing.readBlock items = some (block, tail)) :
    framing.readBlock (.single statement :: items) = some (statement :: block, tail) := by
  rw [readBlock, read]
  rfl

mutual
theorem read_statement : (statement : Statement) → ∀ {rest tail : List Item} {after : Block},
    (framing = .braces → Apart rest) → framing.readBlock rest = some (after, tail) →
    framing.readBlock (framing.statementItems statement ++ rest) = some (statement :: after, tail)
  | .branch condition whenTrue whenFalse, rest, tail, after, apart, read => by
      have past : Apart ((framing.ending .endBranch).map .marker ++ rest) := apart_ending rfl apart
      have ended : framing = .words → Stops ((framing.ending .endBranch).map .marker ++ rest) := stops_ending rfl rest
      have readFalse := read_optional .otherwise rfl (read_items whenFalse) past ended
      have stops (words : framing = .words) : Stops (framing.optional .otherwise whenFalse (framing.items whenFalse) ++
          ((framing.ending .endBranch).map .marker ++ rest)) := without_optional framing rfl whenFalse (ended words)
      have readTrue := read_enclosed (read_items whenTrue) stops
      rw [statementItems, List.append_assoc, List.append_assoc, List.cons_append, readBlock, readTrue]
      simp [readFalse, expect_all, read]
  | .attempt body handlers final, rest, tail, after, apart, read => by
      have past : Apart ((framing.ending .endAttempt).map .marker ++ rest) := apart_ending rfl apart
      have ended : framing = .words → Stops ((framing.ending .endAttempt).map .marker ++ rest) :=
        stops_ending rfl rest
      have stops (words : framing = .words) : Stops (framing.optional .final final (framing.items final) ++
          ((framing.ending .endAttempt).map .marker ++ rest)) := without_optional framing rfl final (ended words)
      have readFinal := read_optional .final rfl (read_items final) past ended
      have readHandlers := read_handlers handlers (without_optional framing rfl final (no_handler past)) stops
      have readBody := read_enclosed (read_items body) fun words => stops_handlers framing handlers (stops words)
      rw [statementItems, List.append_assoc, List.append_assoc, List.append_assoc, List.cons_append, readBlock,
        readBody]
      simp [readHandlers, readFinal, expect_all, read]
  | .declare _ _ _, _, _, _, _, read => read_single _ read
  | .assign _ _, _, _, _, _, read => read_single _ read
  | .evaluate _, _, _, _, _, read => read_single _ read
  | .leave _, _, _, _, _, read => read_single _ read
  | .rethrow, _, _, _, _, read => read_single _ read
  | .comment _, _, _, _, _, read => read_single _ read
theorem read_items : (block : Block) → framing.Read block
  | [], tail, ends => read_block_end ends.stops
  | first :: rest, tail, ends => by
      rw [items, List.append_assoc]
      exact read_statement first (fun braces => apart_items rest (ends.apart braces)) (read_items rest tail ends)
theorem read_handlers : (handlers : List Handler) → ∀ {tail : List Item},
    Without Item.isHandle tail → (framing = .words → Stops tail) →
    framing.readHandlers (framing.handlerItems handlers ++ tail) = some (handlers, tail)
  | [], tail, head, _ => by
      rw [handlerItems, List.nil_append]
      unfold readHandlers
      split
      · cases head _ rfl
      · rfl
  | ⟨exception, binding, body⟩ :: rest, tail, head, stops => by
      have readBody := read_enclosed (read_items body) fun words => stops_handlers framing rest (stops words)
      rw [handlerItems, List.cons_append, List.cons_append, List.append_assoc, readHandlers, readBody]
      simp [read_handlers rest head stops]
end

/-- A block is known by its lines. -/
theorem items_injective {block other : Block} (same : framing.items block = framing.items other) : block = other := by
  have ends : framing.Ends [] := ⟨nofun, fun _ => nofun⟩
  have read := read_items block [] ends
  rw [same, read_items other [] ends] at read
  exact (Prod.mk.inj (Option.some.inj read)).1.symm

end Framing
end Companion.Source
