import Companion.Text.Blank
import Companion.Xml.Attribute
import Companion.Xml.Element
import Companion.Xml.Reference
import Companion.Xml.Scan

/-!
Documents: elements written as XML and read back. The root has the name of the type of the
object; an object that is not there is a root marked as nil.
-/
set_option autoImplicit false

namespace Companion.Xml

/-! ## Writing -/

mutual
def Element.written (name : List Char) : Element → List Char
  | .text _ content =>
    '<' :: name ++ ['>'] ++ escape content.toList ++ '<' :: '/' :: name ++ ['>']
  | .node _ [] => '<' :: name ++ ['/', '>']
  | .node _ (first :: rest) =>
    '<' :: name ++ ['>'] ++ writtenAll (first :: rest) ++ '<' :: '/' :: name ++ ['>']
def writtenAll : List Element → List Char
  | [] => []
  | element :: rest => element.written element.name.toList ++ writtenAll rest
end

namespace Document

-- The first line of every document; no line end follows it.
def declaration : String := "<?xml version=\"1.0\" encoding=\"utf-8\"?>"

def nilMark : String :=
  " xmlns:xsi=\"http://www.w3.org/2001/XMLSchema-instance\" xsi:nil=\"true\"/>"

def writtenRoot (root : String) : Option Element → List Char
  | none => '<' :: root.toList ++ nilMark.toList
  | some element => element.written root.toList

def text (root : String) (object : Option Element) : String :=
  String.ofList (declaration.toList ++ writtenRoot root object)

/-! ## Reading -/

inductive ContentError
  | noRoot
  | secondRoot
  | otherRoot (expected found : String)
  | textOutside
  | mixed (name : String)
  | unopened
  | unfinished
  | badNumber (name : String)
  | unknownEntity (name : String)
deriving DecidableEq

def ContentError.message : ContentError → String
  | .noRoot => "document has no root element"
  | .secondRoot => "more than one root element"
  | .otherRoot expected found => "expected root '" ++ expected ++ "', found '" ++ found ++ "'"
  | .textOutside => "text outside root element"
  | .mixed name => "element '" ++ name ++ "' mixes text and elements"
  | .unopened => "unbalanced end tag"
  | .unfinished => "unexpected end of document"
  | .badNumber name => "invalid character reference '" ++ name ++ "'"
  | .unknownEntity name => "unknown entity '" ++ name ++ "'"

inductive ReadError
  | xml (error : Error)
  | content (error : ContentError)
deriving DecidableEq

def resolve (name : List Char) : Except ContentError Char :=
  match name with
  | '#' :: code =>
    match numbered? code with
    | some c => .ok c
    | none => .error (.badNumber (String.ofList name))
  | _ =>
    match entity? name with
    | some c => .ok c
    | none => .error (.unknownEntity (String.ofList name))

def nilKey : List Char := "xsi:nil".toList

-- Whether the first attribute of that name marks the tag as nil; erroneous ones do not count.
def isNil (content : List Char) : Bool :=
  let attributes := (Attribute.ofTag true content).filterMap Except.toOption
  (attributes.find? fun found => found.key = nilKey).any fun found => found.value = "true".toList

-- An element that was opened: its text so far and its elements so far, the last one first.
structure Open where
  name : List Char
  text : List Char := []
  children : List Element := []

-- The element is complete; one with elements inside has no other text than blanks.
def Open.close (element : Open) : Except ContentError Element :=
  let name := String.ofList element.name
  if element.children.isEmpty then .ok (.text name (String.ofList element.text))
  else if element.text.all Text.isBlank then .ok (.node name element.children.reverse)
  else .error (.mixed name)

structure Reading where
  opened : List Open := []
  isNil : Bool := false
  object : Option (Option Element) := none

namespace Reading

-- The reading with text in the innermost open element; outside the root it is dropped.
def addText (reading : Reading) (text : List Char) : Reading :=
  match reading.opened with
  | [] => reading
  | element :: rest =>
    { reading with opened := { element with text := element.text ++ text } :: rest }

def addElement (reading : Reading) (element : Element) : Reading :=
  match reading.opened with
  | [] => { reading with object := some (if reading.isNil then none else some element) }
  | parent :: rest =>
    { reading with opened := { parent with children := element :: parent.children } :: rest }

-- A tag outside all elements opens the root, which has a name that it must have.
def enterRoot (root : String) (reading : Reading) (content : List Char) :
    Except ContentError Reading := do
  if !reading.opened.isEmpty then return reading
  if reading.object.isSome then throw .secondRoot
  let name := String.ofList (tagName content)
  if name ≠ root then throw (.otherRoot root name)
  return { reading with isNil := Document.isNil content }

def next (root : String) (reading : Reading) : Token → Except ContentError Reading
  | .start content => do
    let reading ← reading.enterRoot root content
    return { reading with opened := ⟨tagName content, [], []⟩ :: reading.opened }
  | .empty content => do
    let reading ← reading.enterRoot root content
    return reading.addElement (.node (String.ofList (tagName content)) [])
  | .stop _ =>
    match reading.opened with
    | [] => .error .unopened
    | element :: rest => do return { reading with opened := rest }.addElement (← element.close)
  | .text content =>
    if reading.opened.isEmpty && !content.all Text.isBlank then .error .textOutside
    else .ok (reading.addText content)
  | .cdata content => .ok (reading.addText content)
  | .reference name => do return reading.addText [← resolve name]
  | .doctype => .ok reading

def finish (reading : Reading) : Except ContentError (Option Element) :=
  match reading.opened, reading.object with
  | _ :: _, _ => .error .unfinished
  | [], none => .error .noRoot
  | [], some object => .ok object

end Reading

-- The object of a scan; an error of the scan counts once all before it was read.
def ofScan (root : String) (scan : Scan) : Except ReadError (Option Element) := do
  let reading ← (scan.tokens.foldlM (Reading.next root) {}).mapError .content
  match scan.failure with
  | some error => throw (.xml error)
  | none => reading.finish.mapError .content

def read (root : String) (text : String) : Except ReadError (Option Element) :=
  ofScan root (Scan.ofText text)

end Document
end Companion.Xml
