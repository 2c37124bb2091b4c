import Companion.Descriptor.Document.Error
import Companion.Xml.Event

/-!
The fields in a descriptor document: the attributes of the root and the elements directly in it.
No field may come twice. Main statement: each element leaves less to read, so the content of the
root ends.
-/
set_option autoImplicit false

namespace Companion.Descriptor.Document

open Xml (Reader tagName)

abbrev Read := Except FormError

theorem eq_ok_of_map_eq_ok {α β : Type} {f : α → β} {result : Read α} {mapped : β}
    (read : result.map f = .ok mapped) : ∃ found, result = .ok found ∧ f found = mapped := by
  cases result with
  | error error => simp [Except.map] at read
  | ok found => exact ⟨found, rfl, Except.ok.inj read⟩

-- Where there should be an end of an element there is the end of the document.
def unclosed {α : Type} (name : List Char) : Read α := .error (.xml (Reader.unclosed name))

def root (reader : Reader) : Read (List Char × Reader) :=
  match _ : reader.next with
  | .error error => .error (.xml error)
  | .ok (.start tag, behind) => .ok (tag, behind)
  | .ok (.text text, behind) =>
    if text.all Xml.isSpace then root behind else .error (.textInstead (String.ofList text))
  | .ok (.stop, _) | .ok (.ended, _) => .error .ended
termination_by reader.pieces.length
decreasing_by exact Reader.length_of_next_of_ne ‹_› (by simp)

-- The fields that were read; an element may say that its field has no value.
abbrev Entries := List (Key × Option String)

namespace Entries

def has (entries : Entries) (key : Key) : Bool := entries.any fun entry => entry.1 = key

def value? (entries : Entries) (key : Key) : Option String :=
  (entries.find? fun entry => entry.1 = key).bind Prod.snd

def add (entries : Entries) (key : Key) (value : Option String) : Entries :=
  entries ++ [(key, value)]

end Entries

def split (name : List Char) : Option (List Char) × List Char :=
  match Text.cutAt? [':'] name with
  | some (before, localName) => (some before, localName)
  | none => (none, name)

-- The field of an attribute: what stands before a colon does not count, unless reserved.
def attributeKey? (name : List Char) : Option Key :=
  let (before, localName) := split name
  if before = some "xml".toList ∨ before = some "xmlns".toList then none
  else Key.all.find? fun key => key.name.toList = localName

def attributes (before : Entries) : List Xml.Attribute.Item → Read Entries
  | [] => .ok before
  | .error error :: _ => .error (.xml (.attribute error))
  | .ok found :: rest =>
    match attributeKey? found.key with
    | none => attributes before rest
    | some key =>
      if before.has key then .error (.duplicate key)
      else
        match Xml.unescapeValue found.value with
        | .error error => .error (.xml (.escape error))
        | .ok value => attributes (before.add key (some (String.ofList value))) rest

/-! ## The content of the root -/

-- The field of an element: an at sign and the name of the field, after any colon.
def elementKey? (name : List Char) : Option Key :=
  Key.all.find? fun key => '@' :: key.name.toList = (split name).2

def value (name : List Char) (reader : Reader) : Read (List Char × Reader) :=
  match _ : reader.next with
  | .error error => .error (.xml error)
  | .ok (.start tag, _) => .error (.unexpectedStart (tagName tag))
  | .ok (.stop, behind) => .ok ([], behind)
  | .ok (.text text, behind) =>
    (value name behind).map fun (more, behind) => (text ++ more, behind)
  | .ok (.ended, _) => unclosed name
termination_by reader.pieces.length
decreasing_by exact Reader.length_of_next_of_ne ‹_› (by simp)

theorem length_of_value {name text : List Char} {reader behind : Reader}
    (read : value name reader = .ok (text, behind)) :
    behind.pieces.length ≤ reader.pieces.length := by
  fun_induction value name reader generalizing text behind with
  | case1 | case2 | case5 => simp [unclosed] at read
  | case3 reader after taken =>
    simp only [Except.ok.injEq, Prod.mk.injEq] at read
    rw [← read.2]
    exact Reader.length_of_next taken
  | case4 reader first after taken ih =>
    obtain ⟨⟨more, left⟩, inner, same⟩ := eq_ok_of_map_eq_ok read
    rw [← (Prod.mk.inj same).2]
    exact Nat.le_trans (ih inner) (Reader.length_of_next taken)

def isNil (tags : List (List Char)) (reader : Reader) : Bool :=
  match reader.scope with
  | .ok scope => tags.any scope.tagIsNil
  | .error _ => false

-- The reader behind an element that says nothing.
def pass (name : List Char) (reader : Reader) : Read Reader :=
  match reader.skipElement name with
  | .error error => .error (.xml error)
  | .ok behind => .ok behind

theorem length_of_pass {name : List Char} {reader behind : Reader}
    (read : pass name reader = .ok behind) : behind.pieces.length ≤ reader.pieces.length := by
  unfold pass at read
  split at read
  · simp at read
  · rename_i skipped
    simp only [Except.ok.injEq] at read
    rw [← read]
    exact Reader.length_of_skipElement skipped

def element (root : List Char) (entries : Entries) (tag : List Char) (reader : Reader) :
    Read (Entries × Reader) :=
  let name := tagName tag
  match elementKey? name with
  | none => (pass name reader).map fun behind => (entries, behind)
  | some key =>
    if entries.has key then .error (.duplicate key)
    else if key.isOptional && isNil [root, tag] reader then
      (pass name reader).map fun behind => (entries.add key none, behind)
    else
      (value name reader).map fun (text, behind) =>
        (entries.add key (some (String.ofList text)), behind)

theorem length_of_element {root tag : List Char} {entries more : Entries}
    {reader behind : Reader} (read : element root entries tag reader = .ok (more, behind)) :
    behind.pieces.length ≤ reader.pieces.length := by
  unfold element at read
  dsimp only at read
  split at read
  · obtain ⟨after, inner, same⟩ := eq_ok_of_map_eq_ok read
    rw [← (Prod.mk.inj same).2]
    exact length_of_pass inner
  · split at read
    · simp at read
    · split at read
      · obtain ⟨after, inner, same⟩ := eq_ok_of_map_eq_ok read
        rw [← (Prod.mk.inj same).2]
        exact length_of_pass inner
      · obtain ⟨⟨text, after⟩, inner, same⟩ := eq_ok_of_map_eq_ok read
        rw [← (Prod.mk.inj same).2]
        exact length_of_value inner

def content (root : List Char) (entries : Entries) (reader : Reader) : Read Entries :=
  match _ : reader.next with
  | .error error => .error (.xml error)
  | .ok (.stop, _) => .ok entries
  | .ok (.ended, _) => unclosed (tagName root)
  | .ok (.text _, behind) => content root entries behind
  | .ok (.start tag, behind) =>
    match _ : element root entries tag behind with
    | .error error => .error error
    | .ok (entries, behind) => content root entries behind
termination_by reader.pieces.length
decreasing_by
  · exact Reader.length_of_next_of_ne ‹_› (by simp)
  · exact Nat.lt_of_le_of_lt (length_of_element ‹_›)
      (Reader.length_of_next_of_ne ‹_› (by simp))

def read (text : String) : Read Entries := do
  let (tag, reader) ← root (.ofText text)
  content tag (← attributes [] (Xml.Attribute.ofTag true tag)) reader

end Companion.Descriptor.Document
