import Companion.Xml.LineEnd
import Companion.Xml.Namespace
import Companion.Xml.Scan

/-!
Events: what a document holds in order, with the text between two tags in one piece. A reader has
looked at what follows the last event: if that is a tag then its bindings hold already, and what
is wrong with it comes out when it is taken. Main statement: less is left behind an event than in
front of it, so reading ends.
-/
set_option autoImplicit false

namespace Companion.Xml

/-! ## Pieces -/

inductive Piece
  | start (content : List Char)
  | stop (name : List Char)
  | text (content : Except EscapeError (List Char))
  | doctype

namespace Piece

-- The pieces of a token: an element without content both starts and stops.
def ofToken : Token → List Piece
  | .text content | .cdata content => [.text (.ok (lineFeeds content))]
  | .reference name => [.text ((resolveAt 0 name).map ([·]))]
  | .doctype => [.doctype]
  | .start content => [.start content]
  | .empty content => [.start content, .stop (tagName content)]
  | .stop name => [.stop name]

def leadingText : List Piece → Except EscapeError (List Char × List Piece)
  | .text content :: rest => do
    let first ← content
    let (more, behind) ← leadingText rest
    return (first ++ more, behind)
  | pieces => .ok ([], pieces)

theorem leadingText_of_cons {content : Except EscapeError (List Char)} {rest behind : List Piece}
    {text : List Char} (read : leadingText (.text content :: rest) = .ok (text, behind)) :
    ∃ more, leadingText rest = .ok (more, behind) := by
  unfold leadingText at read
  cases content with
  | error error => simp [bind, Except.bind] at read
  | ok first =>
    cases inner : leadingText rest with
    | error error => simp [bind, Except.bind, inner] at read
    | ok value =>
      obtain ⟨more, left⟩ := value
      simp only [bind, Except.bind, inner, pure, Except.pure, Except.ok.injEq,
        Prod.mk.injEq] at read
      exact ⟨more, by rw [read.2]⟩

theorem length_of_leadingText {pieces behind : List Piece} {text : List Char}
    (read : leadingText pieces = .ok (text, behind)) : behind.length ≤ pieces.length := by
  fun_induction leadingText pieces generalizing text with
  | case1 content rest ih =>
    obtain ⟨more, inner⟩ := leadingText_of_cons (by simpa [leadingText] using read)
    exact Nat.le_succ_of_le (ih inner)
  | case2 =>
    simp only [Except.ok.injEq, Prod.mk.injEq] at read
    simp [← read.2]

theorem length_of_leadingText_cons {content : Except EscapeError (List Char)}
    {rest behind : List Piece} {text : List Char}
    (read : leadingText (.text content :: rest) = .ok (text, behind)) :
    behind.length ≤ rest.length :=
  (leadingText_of_cons read).elim fun _ inner => length_of_leadingText inner

-- What follows the end of the element with the given name, in which `depth` more elements of that
-- name are open. Other names do not count.
def behindEnd? (name : List Char) : Nat → List Piece → Option (List Piece)
  | _, [] => none
  | depth, .start content :: rest =>
    behindEnd? name (if tagName content = name then depth + 1 else depth) rest
  | depth, .stop other :: rest =>
    if other ≠ name then behindEnd? name depth rest
    else
      match depth with
      | 0 => some rest
      | depth + 1 => behindEnd? name depth rest
  | depth, _ :: rest => behindEnd? name depth rest

theorem length_of_behindEnd? {name : List Char} {depth : Nat} {pieces behind : List Piece}
    (found : behindEnd? name depth pieces = some behind) : behind.length < pieces.length := by
  fun_induction behindEnd? name depth pieces <;> simp_all <;> omega

def startsWith (name : List Char) : List Piece → Bool
  | .start content :: _ => tagName content = name
  | _ => false

end Piece

namespace Scope

-- The scope at the first of the pieces: a start tag binds at once.
def enter (scope : Scope) : List Piece → Except NamespaceError Scope
  | .start content :: _ => (Binding.ofTag content).map (· :: scope)
  | _ => .ok scope

end Scope

/-! ## Readers -/

inductive Event
  | start (content : List Char)
  | stop
  | text (content : List Char)
  | ended

structure Reader where
  pieces : List Piece
  failure : Option Error
  scope : Except NamespaceError Scope

namespace Reader

def before (failure : Option Error) (scope : Scope) (pieces : List Piece) : Reader :=
  ⟨pieces, failure, scope.enter pieces⟩

def ofText (text : String) : Reader :=
  let scan := Scan.ofText text
  before scan.failure [] (scan.tokens.flatMap Piece.ofToken)

def take (failure : Option Error) :
    Except NamespaceError Scope → List Piece → Except Error (Event × Reader)
  | .error error, _ => .error (.nameBinding error)
  | .ok _, [] =>
    match failure with
    | some error => .error error
    | none => .ok (.ended, before none [] [])
  | .ok scope, .start content :: rest => .ok (.start content, before failure scope rest)
  | .ok scope, .stop _ :: rest => .ok (.stop, before failure scope.tail rest)
  | .ok scope, .doctype :: rest => take failure (scope.enter rest) rest
  | .ok scope, .text content :: rest =>
    match Piece.leadingText (.text content :: rest) with
    | .error error => .error (.escape error)
    | .ok (text, behind) => .ok (.text text, before failure scope behind)

def next (reader : Reader) : Except Error (Event × Reader) :=
  take reader.failure reader.scope reader.pieces

theorem length_of_take {failure : Option Error} {scope : Except NamespaceError Scope}
    {pieces : List Piece} {event : Event} {behind : Reader}
    (taken : take failure scope pieces = .ok (event, behind)) :
    behind.pieces.length ≤ pieces.length ∧
      (event ≠ .ended → behind.pieces.length < pieces.length) := by
  fun_induction take failure scope pieces <;>
    simp_all [before] <;> grind [Piece.length_of_leadingText_cons]

theorem length_of_next {reader behind : Reader} {event : Event}
    (taken : reader.next = .ok (event, behind)) :
    behind.pieces.length ≤ reader.pieces.length :=
  (length_of_take taken).1

theorem length_of_next_of_ne {reader behind : Reader} {event : Event}
    (taken : reader.next = .ok (event, behind)) (more : event ≠ .ended) :
    behind.pieces.length < reader.pieces.length :=
  (length_of_take taken).2 more

def unclosed (name : List Char) : Error := .structure (.unclosed (String.ofList name))

-- The reader behind the end of an element. If the reader has looked at the start of another one
-- then the bindings of that are dropped, and those of the element stay.
def skip (name : List Char) (reader : Reader) : Except Error Reader :=
  match reader.scope, Piece.behindEnd? name 0 reader.pieces with
  | .error error, _ => .error (.nameBinding error)
  | .ok _, none => .error (reader.failure.getD (unclosed name))
  | .ok scope, some behind =>
    let dropped := if Piece.startsWith name reader.pieces then 2 else 1
    .ok (before reader.failure (scope.drop dropped) behind)

theorem length_of_skip {name : List Char} {reader behind : Reader}
    (skipped : reader.skip name = .ok behind) :
    behind.pieces.length ≤ reader.pieces.length := by
  unfold skip at skipped
  split at skipped
  · simp at skipped
  · simp at skipped
  · rename_i found
    simp only [Except.ok.injEq] at skipped
    rw [← skipped]
    exact Nat.le_of_lt (Piece.length_of_behindEnd? found)

def skipElement (name : List Char) (reader : Reader) : Except Error Reader := do
  let (event, behind) ← reader.next
  match event with
  | .start content => (← behind.skip (tagName content)).skip name
  | .stop => return behind
  | .text _ | .ended => behind.skip name

theorem length_of_skipElement {name : List Char} {reader behind : Reader}
    (skipped : reader.skipElement name = .ok behind) :
    behind.pieces.length ≤ reader.pieces.length := by
  unfold skipElement at skipped
  cases taken : reader.next with
  | error error => simp [taken, bind, Except.bind] at skipped
  | ok value =>
    obtain ⟨event, after⟩ := value
    have shorter := length_of_next taken
    simp only [taken, bind, Except.bind] at skipped
    split at skipped
    · split at skipped
      · simp at skipped
      · rename_i inner
        have := length_of_skip inner
        have := length_of_skip skipped
        omega
    · simp only [pure, Except.pure, Except.ok.injEq] at skipped
      rwa [← skipped]
    · exact Nat.le_trans (length_of_skip skipped) shorter
    · exact Nat.le_trans (length_of_skip skipped) shorter

end Reader
end Companion.Xml
