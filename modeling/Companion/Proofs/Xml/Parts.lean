import Companion.Proofs.Xml.Step
import Companion.Proofs.Xml.Tags

/-!
The parts of a document: character data and elements, as trees. Comments, processing instructions and
the declaration are no parts. Main statement: `parts_of_read`, the tokens of a document that was read are
the tokens of parts.
-/
set_option autoImplicit false

namespace Companion.Xml

inductive Part
  | text (content : List Char)
  | cdata (content : List Char)
  | reference (name : List Char)
  | doctype
  | empty (content : List Char)
  -- What stands between a start tag and the end tag with its name.
  | element (content : List Char) (inside : List Part)

namespace Part

mutual
def tokens : Part → List Token
  | .text content => [.text content]
  | .cdata content => [.cdata content]
  | .reference name => [.reference name]
  | .doctype => [.doctype]
  | .empty content => [.empty content]
  | .element content inside => .start content :: tokensOf inside ++ [.stop (tagName content)]
def tokensOf : List Part → List Token
  | [] => []
  | part :: rest => part.tokens ++ tokensOf rest
end

-- The tag that begins an element; character data has none.
def tag? : Part → Option (List Char)
  | .empty content | .element content _ => some content
  | _ => none

def name? (part : Part) : Option String := part.tag?.map fun content => String.ofList (tagName content)

def isElement (part : Part) : Bool := part.tag?.isSome

-- The character data that a part is, whichever form it takes.
def characters : Part → List Char
  | .text content | .cdata content => content
  | .reference name => (Document.resolve name).toOption.toList
  | _ => []

def charactersOf (parts : List Part) : List Char := parts.flatMap characters

-- An element of a name with text and elements inside; text beside elements is dropped.
def filled (name : String) (text : List Char) : List Element → Element
  | [] => .text name (String.ofList text)
  | first :: rest => .node name (first :: rest)

mutual
def element? : Part → Option Element
  | .empty content => some (.node (String.ofList (tagName content)) [])
  | .element content inside =>
    some (filled (String.ofList (tagName content)) (charactersOf inside) (elementsOf inside))
  | _ => none
def elementsOf : List Part → List Element
  | [] => []
  | part :: rest => part.element?.toList ++ elementsOf rest
end

-- No element inside has both elements and text that is not blank.
mutual
def Unmixed : Part → Prop
  | .element _ inside =>
    (inside.any isElement = true → (charactersOf inside).all Text.isBlank = true) ∧ AllUnmixed inside
  | _ => True
def AllUnmixed : List Part → Prop
  | [] => True
  | part :: rest => part.Unmixed ∧ AllUnmixed rest
end

@[simp] theorem tokens_of_text (content : List Char) (rest : List Part) :
    tokensOf (.text content :: rest) = .text content :: tokensOf rest := rfl

@[simp] theorem tokens_of_reference (name : List Char) (rest : List Part) :
    tokensOf (.reference name :: rest) = .reference name :: tokensOf rest := rfl

theorem tokens_of_append (front back : List Part) : tokensOf (front ++ back) = tokensOf front ++ tokensOf back := by
  induction front with
  | nil => rfl
  | cons part rest ih => rw [List.cons_append, tokensOf, tokensOf, ih, List.append_assoc]

theorem elements_of_append (front back : List Part) :
    elementsOf (front ++ back) = elementsOf front ++ elementsOf back := by
  induction front with
  | nil => rfl
  | cons part rest ih => rw [List.cons_append, elementsOf, elementsOf, ih, List.append_assoc]

theorem unmixed_append (front back : List Part) :
    AllUnmixed (front ++ back) ↔ AllUnmixed front ∧ AllUnmixed back := by
  induction front with
  | nil => simp [AllUnmixed]
  | cons part rest ih => rw [List.cons_append, AllUnmixed, AllUnmixed, ih, and_assoc]

theorem is_some_element (part : Part) : part.element?.isSome = part.isElement := by
  cases part <;> simp [element?, isElement, tag?]

theorem element_of_data {part : Part} (data : part.tag? = none) : part.element? = none := by
  cases part <;> simp_all [element?, tag?]

theorem element_of_tag {part : Part} {content : List Char} (tag : part.tag? = some content) :
    ∃ element, part.element? = some element ∧ part.characters = [] := by
  cases part <;> simp_all [element?, tag?, characters]

theorem any_is_element (parts : List Part) : parts.any isElement = !(elementsOf parts).isEmpty := by
  induction parts with
  | nil => rfl
  | cons part rest ih =>
      rw [List.any_cons, elementsOf, ih, ← is_some_element]
      cases part.element? <;> rfl

theorem name_of_filled (name : String) (text : List Char) (elements : List Element) :
    (filled name text elements).name = name := by
  cases elements <;> rfl

theorem name_of_element (part : Part) : part.name? = part.element?.map Element.name := by
  cases part with
  | element content inside =>
      rw [element?, Option.map_some, name_of_filled]
      rfl
  | _ => simp [name?, tag?, element?, Element.name]

theorem names_of_elements (parts : List Part) :
    parts.filterMap name? = (elementsOf parts).map Element.name := by
  induction parts with
  | nil => rfl
  | cons part rest ih =>
      rw [List.filterMap_cons, elementsOf, List.map_append, ← ih, name_of_element]
      cases part.element? <;> rfl

/-! ## Matching tags -/

-- A part of one token neither opens nor closes an element.
theorem balance_alone {part : Part} {token : Token} (alone : part.tokens = [token]) (failure : Option Error)
    (opened : List (List Char)) (rest : List Token) :
    Scan.balance failure opened (token :: rest) = Scan.cons token (Scan.balance failure opened rest) := by
  cases part with
  | element content inside => simp [tokens] at alone
  | _ =>
      rw [tokens] at alone
      cases alone
      rw [Scan.balance] <;> nofun

-- What a token does to the names of the open elements.
inductive Moves : Token → List (List Char) → List (List Char) → Prop
  | start (content : List Char) (opened : List (List Char)) :
      Moves (.start content) opened (tagName content :: opened)
  | stop (name : List Char) (opened : List (List Char)) : Moves (.stop name) (name :: opened) opened
  | alone (part : Part) (token : Token) (alone : part.tokens = [token]) (opened : List (List Char)) :
      Moves token opened opened

theorem balance_moves {token : Token} {opened inner : List (List Char)} (moves : Moves token opened inner)
    (failure : Option Error) (rest : List Token) :
    Scan.balance failure opened (token :: rest) = Scan.cons token (Scan.balance failure inner rest) := by
  cases moves with
  | start content => rw [Scan.balance]
  | stop name => rw [Scan.balance, if_pos rfl]
  | alone part _ alone => exact balance_alone alone failure opened rest

theorem moves_of_balance {failure : Option Error} {opened : List (List Char)} {token : Token} {rest : List Token}
    (matched : (Scan.balance failure opened (token :: rest)).failure = none) :
    ∃ inner, Moves token opened inner := by
  cases token with
  | start content => exact ⟨_, .start content opened⟩
  | stop name =>
      cases opened with
      | nil => simp [Scan.balance, Scan.failed] at matched
      | cons expected opened =>
          by_cases same : name = expected
          · subst same
            exact ⟨_, .stop name opened⟩
          · simp [Scan.balance, same, Scan.failed] at matched
  | text content => exact ⟨_, .alone (.text content) _ rfl opened⟩
  | cdata content => exact ⟨_, .alone (.cdata content) _ rfl opened⟩
  | reference name => exact ⟨_, .alone (.reference name) _ rfl opened⟩
  | doctype => exact ⟨_, .alone .doctype _ rfl opened⟩
  | empty content => exact ⟨_, .alone (.empty content) _ rfl opened⟩

theorem balance_of_ok {failure : Option Error} {opened : List (List Char)} {tokens : List Token}
    (matched : (Scan.balance failure opened tokens).failure = none) :
    Scan.balance failure opened tokens = ⟨tokens, failure⟩ ∧ failure = none := by
  induction tokens generalizing opened with
  | nil =>
      rw [Scan.balance] at matched ⊢
      exact ⟨rfl, matched⟩
  | cons token rest ih =>
      obtain ⟨inner, moves⟩ := moves_of_balance matched
      rw [balance_moves moves] at matched ⊢
      obtain ⟨same, clean⟩ := ih matched
      rw [same]
      exact ⟨rfl, clean⟩

mutual
theorem balance_tokens (failure : Option Error) (opened : List (List Char)) (more : List Token) : (part : Part) →
    Scan.balance failure opened (part.tokens ++ more) =
      Scan.prepend part.tokens (Scan.balance failure opened more)
  | .element content inside => by
      rw [tokens, List.cons_append, List.cons_append, List.append_assoc, balance_moves (.start content opened),
        balance_tokens_of failure _ _ inside, List.singleton_append, balance_moves (.stop _ opened)]
      simp
  | .text content => balance_moves (.alone (.text content) _ rfl opened) failure more
  | .cdata content => balance_moves (.alone (.cdata content) _ rfl opened) failure more
  | .reference name => balance_moves (.alone (.reference name) _ rfl opened) failure more
  | .doctype => balance_moves (.alone .doctype _ rfl opened) failure more
  | .empty content => balance_moves (.alone (.empty content) _ rfl opened) failure more
theorem balance_tokens_of (failure : Option Error) (opened : List (List Char)) (more : List Token) :
    (parts : List Part) → Scan.balance failure opened (tokensOf parts ++ more) =
      Scan.prepend (tokensOf parts) (Scan.balance failure opened more)
  | [] => rfl
  | part :: rest => by
      rw [tokensOf, List.append_assoc, balance_tokens failure opened _ part, balance_tokens_of failure opened more rest,
        Scan.prepend_append]
end

-- Tokens that go on with parts and close the open elements, the innermost one first.
def Closes : List (List Char) → List Token → Prop
  | [], tokens => ∃ parts, tokens = tokensOf parts
  | name :: opened, tokens =>
    ∃ parts rest, tokens = tokensOf parts ++ .stop name :: rest ∧ Closes opened rest

theorem closes_part (part : Part) {opened : List (List Char)} {tokens : List Token} (closes : Closes opened tokens) :
    Closes opened (part.tokens ++ tokens) := by
  cases opened with
  | nil =>
      obtain ⟨parts, rfl⟩ := closes
      exact ⟨part :: parts, by rw [tokensOf]⟩
  | cons name opened =>
      obtain ⟨parts, rest, rfl, outer⟩ := closes
      exact ⟨part :: parts, rest, by rw [tokensOf, List.append_assoc], outer⟩

theorem closes_element (content : List Char) {opened : List (List Char)} {tokens : List Token}
    (closes : Closes (tagName content :: opened) tokens) : Closes opened (.start content :: tokens) := by
  obtain ⟨inside, rest, rfl, outer⟩ := closes
  have whole := closes_part (.element content inside) outer
  simpa [Part.tokens] using whole

end Part

namespace Document

open Companion.Xml.Part (Moves Closes tokensOf)

variable {root : String}

-- The names of the open elements move as the scan has them.
theorem names_of_next {reading after : Reading} {token : Token} {inner : List (List Char)}
    (moves : Moves token reading.names inner) (read : reading.next root token = .ok after) :
    after.names = inner := by
  generalize before : reading.names = opened at moves
  cases moves with
  | start content =>
      obtain ⟨entered, entrance, rfl⟩ := next_start_eq_ok.mp read
      rw [← before, ← names_enter_root entrance]
      rfl
  | stop name =>
      obtain ⟨opened, isNil, object⟩ := reading
      cases opened with
      | nil => cases before
      | cons opening rest =>
          obtain ⟨element, _, rfl⟩ := next_stop_eq_ok.mp read
          rw [names_add_element]
          exact (List.cons.inj before).2
  | alone part _ alone =>
      rw [← before]
      cases part with
      | element content inside => simp [Part.tokens] at alone
      | text content =>
          cases alone
          obtain ⟨_, rfl⟩ := next_text_eq_ok.mp read
          exact names_add_text reading content
      | cdata content =>
          cases alone
          cases read
          exact names_add_text reading content
      | reference name =>
          cases alone
          obtain ⟨c, _, rfl⟩ := next_reference_eq_ok.mp read
          exact names_add_text reading [c]
      | doctype =>
          cases alone
          cases read
          rfl
      | empty content =>
          cases alone
          obtain ⟨entered, entrance, rfl⟩ := next_empty_eq_ok.mp read
          rw [names_add_element, names_enter_root entrance]

theorem closes_of_read {failure : Option Error} {tokens : List Token} (reading : Reading) {last : Reading}
    (matched : (Scan.balance failure reading.names tokens).failure = none)
    (read : tokens.foldlM (Reading.next root) reading = .ok last) (closed : last.opened = []) :
    Closes reading.names tokens := by
  induction tokens generalizing reading with
  | nil =>
      cases read
      rw [Reading.names, closed]
      exact ⟨[], rfl⟩
  | cons token rest ih =>
      rw [List.foldlM_cons] at read
      obtain ⟨next, stepped, behind⟩ := ok_of_bind read
      obtain ⟨inner, moves⟩ := Part.moves_of_balance matched
      have names := names_of_next moves stepped
      rw [Part.balance_moves moves, ← names] at matched
      have closes := ih next matched behind
      rw [names] at closes
      generalize reading.names = opened at moves
      cases moves with
      | start content => exact Part.closes_element content closes
      | stop name => exact ⟨[], rest, rfl, closes⟩
      | alone part _ alone =>
          have whole := Part.closes_part part closes
          rw [alone] at whole
          exact whole

theorem parts_of_read {failure : Option Error} {tokens : List Token} {last : Reading}
    (matched : (Scan.balance failure [] tokens).failure = none)
    (read : tokens.foldlM (Reading.next root) {} = .ok last) (closed : last.opened = []) :
    ∃ parts, tokens = tokensOf parts :=
  closes_of_read {} matched read closed

end Document
end Companion.Xml
