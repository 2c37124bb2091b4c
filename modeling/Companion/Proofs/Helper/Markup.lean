import Mathlib.Data.Bool.AllAny
import Mathlib.Data.List.Forall2
import Companion.Proofs.Helper.Members
import Companion.Proofs.Text.Letters
import Companion.Proofs.Text.Utf8
import Companion.Proofs.Xml.Tags

/-!
The documentation comments of a helper class as XML. Main statement: `comments_well_formed`, their tags are balanced
and, with the entities replaced, their texts are fixed sentences around the name of the schema's file, as far as it is
text, and that of the generator.
-/
set_option autoImplicit false

namespace Companion.Markup

open Helper (escapeMarkupChar)

def signs : List Char := ['<', '>', '&']

-- What a text means once its entities are replaced; it must have no other markup.
def meaning? : List Char → Option (List Char)
  | [] => some []
  | '&' :: 'a' :: 'm' :: 'p' :: ';' :: rest => (meaning? rest).map ('&' :: ·)
  | '&' :: 'l' :: 't' :: ';' :: rest => (meaning? rest).map ('<' :: ·)
  | '&' :: 'g' :: 't' :: ';' :: rest => (meaning? rest).map ('>' :: ·)
  | c :: rest => if c ∈ signs then none else (meaning? rest).map (c :: ·)

def Free (text : String) : Prop := ∀ c ∈ text.toList, c ∉ signs

instance (text : String) : Decidable (Free text) := List.decidableBAll _ _

-- A name that can stand in quotes.
def Bare (name : String) : Prop := ∀ c ∈ name.toList, c ∉ '"' :: signs

inductive Fragment
  | text (meant : String)
  | empty (tag name : String)
  | element (tag : String) (name : Option String) (content : List Fragment)

def quoted (name : String) : String := " name=\"" ++ name ++ "\""

def opening (tag : String) (name : Option String) : String :=
  "<" ++ tag ++ (name.map quoted).getD "" ++ ">"

def closing (tag : String) : String := "</" ++ tag ++ ">"

-- The tags that have no name, those that have one, and those that hold nothing but a name.
def bareTags : List String := ["summary", "returns", "remarks"]

def namedTags : List String := ["param"]

def emptyTags : List String := ["typeparamref", "paramref"]

-- Texts without any markup but entities, and elements, each with its own end.
inductive Spells : String → List Fragment → Prop
  | nil : Spells "" []
  | text {written meant rest : String} {fragments : List Fragment} (means : meaning? written.toList = some meant.toList)
    (behind : Spells rest fragments) : Spells (written ++ rest) (.text meant :: fragments)
  | empty {tag name rest : String} {fragments : List Fragment} (known : tag ∈ emptyTags) (bare : Bare name)
    (behind : Spells rest fragments) : Spells ("<" ++ tag ++ quoted name ++ "/>" ++ rest) (.empty tag name :: fragments)
  | element {tag content rest : String} {name : Option String} {inner fragments : List Fragment}
    (known : tag ∈ if name.isSome then namedTags else bareTags) (bare : ∀ own ∈ name, Bare own)
    (within : Spells content inner) (behind : Spells rest fragments) :
    Spells (opening tag name ++ content ++ closing tag ++ rest) (.element tag name inner :: fragments)

theorem meaning_append {text meant : List Char} (means : meaning? text = some meant) (behind : List Char) :
    meaning? (text ++ behind) = (meaning? behind).map (meant ++ ·) := by
  fun_induction meaning? text generalizing meant with
  | case1 =>
      cases means
      simp
  | case2 rest ih =>
      obtain ⟨inner, read, rfl⟩ := Option.map_eq_some_iff.mp means
      simp [meaning?, ih read, Function.comp_def]
  | case3 rest ih =>
      obtain ⟨inner, read, rfl⟩ := Option.map_eq_some_iff.mp means
      simp [meaning?, ih read, Function.comp_def]
  | case4 rest ih =>
      obtain ⟨inner, read, rfl⟩ := Option.map_eq_some_iff.mp means
      simp [meaning?, ih read, Function.comp_def]
  | case5 c rest _ _ _ odd => cases means
  | case6 c rest _ _ _ free ih =>
      obtain ⟨inner, read, rfl⟩ := Option.map_eq_some_iff.mp means
      have plain : c ≠ '&' := by
        rintro rfl
        exact free (by decide)
      simp [meaning?, ih read, Function.comp_def, free, plain]

theorem meaning_one {c : Char} (free : c ∉ signs) : meaning? [c] = some [c] := by
  simp [meaning?, free]

theorem meaning_free {text : List Char} (free : ∀ c ∈ text, c ∉ signs) : meaning? text = some text := by
  induction text with
  | nil => rfl
  | cons c rest ih =>
      obtain ⟨first, others⟩ := List.forall_mem_cons.mp free
      rw [← List.singleton_append, meaning_append (meaning_one first), ih others]
      rfl

theorem meaning_escaped (text : List Char) : meaning? (text.flatMap escapeMarkupChar) = some text := by
  induction text with
  | nil => rfl
  | cons c rest ih =>
      have first : meaning? (escapeMarkupChar c) = some [c] := by
        unfold escapeMarkupChar
        split
        · rfl
        · rfl
        · rfl
        · rename_i less greater ampersand
          exact meaning_one (by simpa [signs] using ⟨less, greater, ampersand⟩)
      rw [List.flatMap_cons, meaning_append first, ih]
      rfl

theorem free_append {first second : String} (front : Free first) (back : Free second) : Free (first ++ second) := by
  rw [Free, String.toList_append, List.forall_mem_append]
  exact ⟨front, back⟩

theorem free_of_bare {name : String} (bare : Bare name) : Free name :=
  fun c member among => bare c member (List.mem_cons_of_mem '"' among)

namespace Spells

theorem append {first second : String} {front back : List Fragment} (spells : Spells first front)
    (behind : Spells second back) : Spells (first ++ second) (front ++ back) := by
  induction spells with
  | nil =>
      rw [String.empty_append]
      exact behind
  | text means _ ih =>
      rw [String.append_assoc]
      exact .text means ih
  | empty known bare _ ih =>
      rw [String.append_assoc]
      exact .empty known bare ih
  | element known bare within _ _ ih =>
      rw [String.append_assoc]
      exact .element known bare within ih

theorem one_text {written meant : String} (means : meaning? written.toList = some meant.toList) :
    Spells written [.text meant] := by
  have spells := Spells.text means .nil
  rw [String.append_empty] at spells
  exact spells

theorem of_free {text : String} (free : Free text) : Spells text [.text text] :=
  one_text (meaning_free free)

theorem one_empty {tag name : String} (known : tag ∈ emptyTags) (bare : Bare name) :
    Spells ("<" ++ tag ++ quoted name ++ "/>") [.empty tag name] := by
  have spells := Spells.empty known bare .nil
  rw [String.append_empty] at spells
  exact spells

theorem one_element {tag content : String} {name : Option String} {inner : List Fragment}
    (known : tag ∈ if name.isSome then namedTags else bareTags) (bare : ∀ own ∈ name, Bare own)
    (within : Spells content inner) :
    Spells (opening tag name ++ content ++ closing tag) [.element tag name inner] := by
  have spells := Spells.element known bare within .nil
  rw [String.append_empty] at spells
  exact spells

end Spells

end Companion.Markup

namespace Companion.Helper

open Code (Doc)
open Markup

/-! ## Comments -/

-- Lines one below the other.
def linesText : List String → String
  | [] => ""
  | line :: rest => line ++ "\n" ++ linesText rest

-- What a comment says, part by part.
structure Content where
  summary : List Fragment
  params : List (String × List Fragment) := []
  returns : Option (List Fragment) := none
  remarks : Option (List Fragment) := none

namespace Content

-- The elements of a comment; the summary has lines of its own for its tags.
def elements (content : Content) : List Fragment :=
  [.element "summary" none (.text "\n" :: content.summary ++ [.text "\n"])]
    ++ content.params.map (fun param => .element "param" (some param.1) param.2)
    ++ content.returns.toList.map (.element "returns" none)
    ++ content.remarks.toList.map (.element "remarks" none)

def fragments (content : Content) : List Fragment := content.elements.flatMap fun element => [element, .text "\n"]

-- The parts of a comment are spelled as they stand in it.
structure Within (content : Content) (doc : Doc) : Prop where
  summary : Spells doc.summary content.summary
  params : List.Forall₂ (fun param said => param.1 = said.1 ∧ Bare param.1 ∧ Spells param.2 said.2)
    doc.params content.params
  returns : List.Forall₂ Spells doc.returns.toList content.returns.toList
  remarks : List.Forall₂ Spells doc.remarks.toList content.remarks.toList

end Content

theorem lines_text_append (front back : List String) :
    linesText (front ++ back) = linesText front ++ linesText back := by
  induction front with
  | nil => exact (String.empty_append).symm
  | cons line rest ih => rw [List.cons_append, linesText, ih, linesText, ← String.append_assoc]

theorem line_end : Spells "\n" [.text "\n"] := .of_free (by decide)

theorem spells_lines {lines : List String} {elements : List Fragment}
    (each : List.Forall₂ (fun line element => Spells line [element]) lines elements) :
    Spells (linesText lines) (elements.flatMap fun element => [element, .text "\n"]) := by
  induction each with
  | nil => exact .nil
  | cons first _ ih => exact (first.append line_end).append ih

theorem spells_summary {summary : String} {said : List Fragment} (spells : Spells summary said) :
    Spells (linesText ["<summary>", summary, "</summary>"])
      [.element "summary" none (.text "\n" :: said ++ [.text "\n"]), .text "\n"] := by
  have element : Spells (opening "summary" none ++ ("\n" ++ summary ++ "\n") ++ closing "summary")
      [.element "summary" none (.text "\n" :: said ++ [.text "\n"])] :=
    .one_element (by decide) nofun ((line_end.append spells).append line_end)
  have opened : opening "summary" none = "<summary>" := by decide
  have closed : closing "summary" = "</summary>" := by decide
  have spelled : linesText ["<summary>", summary, "</summary>"] =
      opening "summary" none ++ ("\n" ++ summary ++ "\n") ++ closing "summary" ++ "\n" := by
    rw [opened, closed]
    simp only [linesText, String.append_assoc, String.append_empty]
  rw [spelled]
  exact element.append line_end

-- An element with a name, from what is written before and behind its name and its content.
theorem spells_named {tag before behind name content : String} {inner : List Fragment} (known : tag ∈ namedTags)
    (bare : Bare name) (within : Spells content inner) (led : before = "<" ++ tag ++ " name=\"")
    (closed : behind = closing tag) :
    Spells (before ++ name ++ "\">" ++ content ++ behind) [.element tag (some name) inner] := by
  have ended : "\"" ++ ">" = "\">" := by decide
  have opened : opening tag (some name) = before ++ name ++ "\">" := by
    simp only [led, opening, Option.map_some, Option.getD_some, quoted, String.append_assoc, ended]
  rw [← opened, closed]
  refine .one_element known ?_ within
  rintro own ⟨⟩
  exact bare

theorem spells_param {param : String × String} {said : List Fragment} (bare : Bare param.1)
    (spells : Spells param.2 said) : Spells (Doc.paramLine param) [.element "param" (some param.1) said] :=
  spells_named (by decide) bare spells (by decide) (by decide)

-- Texts in one tag each.
theorem spells_tagged {tag before behind : String} (known : tag ∈ bareTags) (opened : before = opening tag none)
    (closed : behind = closing tag) {texts : List String} {said : List (List Fragment)}
    (each : List.Forall₂ Spells texts said) :
    List.Forall₂ (fun line element => Spells line [element]) (texts.map fun text => before ++ text ++ behind)
      (said.map (.element tag none)) := by
  rw [List.forall₂_map_left_iff, List.forall₂_map_right_iff]
  refine each.imp fun text inner spells => ?_
  rw [opened, closed]
  exact .one_element known nofun spells

theorem spells_doc {doc : Doc} {content : Content} (within : content.Within doc) :
    Spells (linesText doc.xmlLines) content.fragments := by
  have params : List.Forall₂ (fun line element => Spells line [element]) (doc.params.map Doc.paramLine)
      (content.params.map fun param => .element "param" (some param.1) param.2) := by
    rw [List.forall₂_map_left_iff, List.forall₂_map_right_iff]
    refine within.params.imp ?_
    rintro param said ⟨named, bare, spells⟩
    rw [← named]
    exact spells_param bare spells
  have returns := spells_tagged (by decide : "returns" ∈ bareTags) (by decide : "<returns>" = opening "returns" none)
    (by decide : "</returns>" = closing "returns") within.returns
  have remarks := spells_tagged (by decide : "remarks" ∈ bareTags) (by decide : "<remarks>" = opening "remarks" none)
    (by decide : "</remarks>" = closing "remarks") within.remarks
  have others := spells_lines (List.rel_append (List.rel_append params returns) remarks)
  have whole := (spells_summary within.summary).append others
  rw [← lines_text_append] at whole
  simpa [Doc.xmlLines, Content.fragments, Content.elements] using whole

/-! ## Names -/

theorem bare_of_later {name : String} (later : ∀ c ∈ name.toList, Identifier.isLater c = true) : Bare name := by
  have odd : ∀ c ∈ '"' :: signs, Identifier.isLater c = false := List.all_iff_forall_prop.mp (by decide +kernel)
  intro c member among
  exact Xml.later_ne (later c member) (odd c among) rfl

theorem bare_of_valid {name : String} (valid : Identifier.isValid name = true) : Bare name :=
  bare_of_later (Xml.later_of_valid name valid).2

-- A property that begins with the capital I with a dot gives the parameter a dot above, which is no markup either.
theorem bare_lower_first {name : String} (valid : Identifier.isValid name = true) :
    Bare (Identifier.lowerFirst name) := by
  by_cases plain : name.toList.head? = some '\u0130'
  · obtain ⟨rest, spelled⟩ := List.head?_eq_some_iff.mp plain
    have later := (Xml.later_of_valid name valid).2
    rw [spelled] at later
    have behind : Bare (String.ofList rest) := by
      apply bare_of_later
      rw [String.toList_ofList]
      exact (List.forall_mem_cons.mp later).2
    have lowered : Text.lowercase '\u0130' = ['i', '\u0307'] := rfl
    have begun : ∀ c ∈ ['i', '\u0307'], c ∉ '"' :: signs := by simp [signs]
    rw [Bare, String.toList_ofList] at behind
    rw [Bare, Identifier.lower_first_of_cons spelled, lowered, String.toList_ofList, List.forall_mem_append]
    exact ⟨begun, behind⟩
  · exact bare_of_valid (Identifier.lower_first_valid valid plain)

/-! ## The seven comments -/

namespace CommentSource

variable (source : CommentSource)

def wrappedReference : Fragment := .empty "typeparamref" source.descriptor.className

def madeBy : List Fragment := [.text ("This code was generated by " ++ source.generatorName ++ ".")]

def readFile : String × List Fragment := (filePathParam, [.text "This XML file to read into the class object"])

def classContent : Content where
  summary := [.text ("Helper class to ease working with " ++ source.descriptor.inputFileName ++ " autogenerated "
    ++ source.descriptor.kind.word)]

def emptyConstructorContent : Content where
  summary := [.text ("Construct a new instance of the " ++ source.helperClass ++ " object.")]

def fileConstructorContent : Content where
  summary := [.text ("Construct a new instance of the " ++ source.helperClass
    ++ " object by Deserializing an XML file.")]
  params := [readFile]

def instanceConstructorContent : Content where
  summary := [.text ("Construct a new instance of the " ++ source.helperClass ++ " object from an existing "),
    source.wrappedReference, .text " object."]
  params := [(source.descriptor.instanceParameterName,
    [.text "A pre-existing ", source.wrappedReference, .text " object."])]

def propertyContent : Content where
  summary := [.text "The ", source.wrappedReference, .text " object wrapped by this helper."]

def loadContent : Content where
  summary := [.text "Load a file path and produce a Deserialized ", source.wrappedReference, .text " Object"]
  params := [readFile]
  returns := some [.text "A new ", source.wrappedReference, .text " object"]
  remarks := some source.madeBy

def saveContent : Content where
  summary := [.text ("This method will take the " ++ source.descriptor.className
    ++ " object, create an XML serializer for it, and write the XML to the "), .empty "paramref" filePathParam]
  params := [(filePathParam, [.text "Destination file path to save the file into."])]
  remarks := some source.madeBy

-- What the comments say, in their order.
def contents : List Content := [
  source.classContent,
  source.emptyConstructorContent,
  source.fileConstructorContent,
  source.instanceConstructorContent,
  source.propertyContent,
  source.loadContent,
  source.saveContent]

-- The names that stand in the comments as they are.
structure Named : Prop where
  helperClass : Bare source.helperClass
  className : Bare source.descriptor.className
  parameter : Bare source.descriptor.instanceParameterName

variable {source}

theorem spells_around {front back : String} (free : Free front) (behind : Free back) (text : String) :
    Spells (front ++ escapeMarkup text ++ back) [.text (front ++ text ++ back)] := by
  apply Spells.one_text
  rw [String.toList_append, String.toList_append, List.append_assoc, meaning_append (meaning_free free),
    escapeMarkup, String.toList_ofList, meaning_append (meaning_escaped text.toList), meaning_free behind]
  simp

theorem spells_reference {tag : String} (known : tag ∈ emptyTags) {name : String} (bare : Bare name) :
    Spells ("<" ++ tag ++ " name=\"" ++ name ++ "\"/>") [.empty tag name] := by
  have spelled : "<" ++ tag ++ " name=\"" ++ name ++ "\"/>" = "<" ++ tag ++ quoted name ++ "/>" := by
    rw [← String.toList_inj]
    simp [quoted]
  rw [spelled]
  exact .one_empty known bare

-- A reference that begins within the text before it.
theorem spells_led {before text literal tag name : String} (cut : literal = text ++ ("<" ++ tag ++ " name=\""))
    (free : Free (before ++ text)) (known : tag ∈ emptyTags) (bare : Bare name) :
    Spells (before ++ literal ++ name ++ "\"/>") [.text (before ++ text), .empty tag name] := by
  have spelled : before ++ literal ++ name ++ "\"/>" =
      before ++ text ++ ("<" ++ tag ++ " name=\"" ++ name ++ "\"/>") := by
    rw [cut]
    simp only [String.append_assoc]
  rw [spelled]
  exact (Spells.of_free free).append (spells_reference known bare)

theorem spells_wrapped (named : source.Named) : Spells source.wrappedType [source.wrappedReference] := by
  have known : "typeparamref" ∈ emptyTags := by decide
  exact spells_reference known named.className

-- A reference to the wrapped class within a sentence.
theorem spells_sentence (named : source.Named) {front back : String} (free : Free front) (behind : Free back) :
    Spells (front ++ source.wrappedType ++ back) [.text front, source.wrappedReference, .text back] :=
  ((Spells.of_free free).append (spells_wrapped named)).append (.of_free behind)

theorem bare_file_path : Bare filePathParam := bare_of_valid (by decide +kernel)

theorem spells_made_by : List.Forall₂ Spells [source.generatedBy] [source.madeBy] :=
  .cons (spells_around (by decide) (by decide) source.generatorName) .nil

theorem spells_read_file : List.Forall₂
    (fun param said => param.1 = said.1 ∧ Bare param.1 ∧ Spells param.2 said.2) [readsFile] [readFile] :=
  .cons ⟨rfl, bare_file_path, .of_free (by decide)⟩ .nil

theorem free_word (kind : SchemaKind) : Free (" autogenerated " ++ kind.word) := by
  cases kind <;> decide

theorem within_class : source.classContent.Within source.classDoc where
  summary := by
    have spells := spells_around (by decide : Free "Helper class to ease working with ")
      (free_word source.descriptor.kind) source.descriptor.inputFileName
    rw [← String.append_assoc, ← String.append_assoc] at spells
    exact spells
  params := .nil
  returns := .nil
  remarks := .nil

theorem within_empty_constructor (named : source.Named) :
    source.emptyConstructorContent.Within source.emptyConstructorDoc where
  summary := .of_free (free_append (free_append (by decide) (free_of_bare named.helperClass)) (by decide))
  params := .nil
  returns := .nil
  remarks := .nil

theorem within_file_constructor (named : source.Named) :
    source.fileConstructorContent.Within source.fileConstructorDoc where
  summary := .of_free (free_append (free_append (by decide) (free_of_bare named.helperClass)) (by decide))
  params := spells_read_file
  returns := .nil
  remarks := .nil

theorem within_instance_constructor (named : source.Named) :
    source.instanceConstructorContent.Within source.instanceConstructorDoc where
  summary := by
    have free : Free ("Construct a new instance of the " ++ source.helperClass ++ " object from an existing ") :=
      free_append (free_append (by decide) (free_of_bare named.helperClass)) (by decide)
    exact spells_sentence named free (by decide)
  params := .cons ⟨rfl, named.parameter, spells_sentence named (by decide) (by decide)⟩ .nil
  returns := .nil
  remarks := .nil

theorem within_property (named : source.Named) : source.propertyContent.Within source.propertyDoc where
  summary := spells_sentence named (by decide) (by decide)
  params := .nil
  returns := .nil
  remarks := .nil

theorem within_load (named : source.Named) : source.loadContent.Within source.loadDoc where
  summary := spells_sentence named (by decide) (by decide)
  params := spells_read_file
  returns := by
    have free : Free "A new " := by decide
    have behind : Free " object" := by decide
    exact .cons (spells_sentence named free behind) .nil
  remarks := spells_made_by

theorem within_save (named : source.Named) : source.saveContent.Within source.saveDoc where
  summary := by
    have free : Free ("This method will take the " ++ source.descriptor.className
        ++ " object, create an XML serializer for it, and write the XML to the ") :=
      free_append (free_append (by decide) (free_of_bare named.className)) (by decide)
    have known : "paramref" ∈ emptyTags := by decide
    exact spells_led rfl free known bare_file_path
  params := .cons ⟨rfl, bare_file_path, .of_free (by decide)⟩ .nil
  returns := .nil
  remarks := spells_made_by

theorem all_within (named : source.Named) :
    List.Forall₂ (fun doc (content : Content) => content.Within doc) source.all source.contents :=
  .cons within_class (.cons (within_empty_constructor named) (.cons (within_file_constructor named)
    (.cons (within_instance_constructor named) (.cons (within_property named) (.cons (within_load named)
      (.cons (within_save named) .nil))))))

end CommentSource

open CommentSource (contents)

theorem names_bare {descriptor : Descriptor} {name : String} (accepted : descriptor.Accepted name)
    (generator : String) : CommentSource.Named ⟨descriptor, name, generator⟩ where
  helperClass := bare_of_valid (Identifier.class_name_valid (Descriptor.class_name_of_named accepted.named))
  className := bare_of_valid accepted.className
  parameter := bare_lower_first accepted.propertyName

theorem input_file_name {descriptor : Descriptor} {text : String}
    (named : descriptor.inputFile.fileName? = some (Utf8.encode text)) : descriptor.inputFileName = text := by
  rw [Descriptor.inputFileName, named]
  exact Utf8.decode_replacing_encode text

/-- The comments of a helper class are well-formed whatever the schema's file and the generator are called: each is
spelled by the elements that it should have, with both names among their texts. The name of the generator is there as
it is, and so is that of the file if it is text; of another one the bytes that are no text are replaced. -/
theorem comments_well_formed {descriptor : Descriptor} (valid : descriptor.validate = .ok ()) (generator : String) :
    ∃ name, descriptor.helperClassName = .ok name ∧
      List.Forall₂ (fun doc (content : Content) => Spells (linesText doc.xmlLines) content.fragments)
        (CommentSource.all ⟨descriptor, name, generator⟩) (contents ⟨descriptor, name, generator⟩) ∧
      ∀ text, descriptor.inputFile.fileName? = some (Utf8.encode text) → descriptor.inputFileName = text := by
  obtain ⟨name, accepted⟩ := Descriptor.accepted_of_validate valid
  have within := CommentSource.all_within (names_bare accepted generator)
  exact ⟨name, accepted.named, within.imp fun _ _ => spells_doc, fun _ => input_file_name⟩

def marked : Descriptor := { Descriptor.book with inputFile := .ofString "R&D<1>.xsd" }

theorem comments_well_formed_marked : marked.validate = .ok () ∧ marked.inputFileName = "R&D<1>.xsd" ∧
    ∃ name, marked.helperClassName = .ok name ∧
      List.Forall₂ (fun doc (content : Content) => Spells (linesText doc.xmlLines) content.fragments)
        (CommentSource.all ⟨marked, name, "<&>"⟩) (contents ⟨marked, name, "<&>"⟩) := by
  have valid : marked.validate = .ok () := by decide +kernel
  have called : marked.inputFile.fileName? = some (Utf8.encode "R&D<1>.xsd") := by decide +kernel
  obtain ⟨name, named, spells, kept⟩ := comments_well_formed valid "<&>"
  exact ⟨valid, kept _ called, name, named, spells⟩

end Companion.Helper
