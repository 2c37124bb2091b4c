import Mathlib.Data.List.Nodup
import Companion.Descriptor.Document
import Companion.Proofs.Descriptor.Clashes
import Companion.Proofs.Xml.Attributes

/-!
Descriptors written as documents. Main statement: `document_faithful`, an element that carries the fields of a
descriptor is read as that descriptor, or refused for what is wrong with the descriptor.
-/
set_option autoImplicit false

namespace Companion.Descriptor

namespace Document

open Xml (Reader)
open Xml.Attribute (Spelling Blanks)

/-! ## The fields of a document -/

theorem key_of_name (key : Key) : attributeKey? key.name.toList = some key := by
  cases key <;> decide

theorem name_inj {key other : Key} (same : key.name.toList = other.name.toList) : key = other := by
  have found := key_of_name key
  rw [same, key_of_name] at found
  exact (Option.some.inj found).symm

theorem unbound_name (key : Key) : Xml.Binding.prefixOf? key.name.toList = none := by
  cases key <;> decide

-- An attribute that gives a field a value.
structure Field where
  key : Key
  value : String
  spelling : Spelling
  keyed : spelling.key = key.name.toList
  valued : spelling.value = value.toList

def Field.entry (field : Field) : Key × Option String := (field.key, some field.value)

-- A document of one element without content, whose attributes are fields that come once.
structure Written where
  fields : List Field
  tail : List Char
  blank : Blanks tail
  closing : Xml.Closing
  once : (fields.map Field.key).Nodup

namespace Written

variable (written : Written)

def rootName : List Char := "helperClass".toList

def spellings : List Spelling := written.fields.map Field.spelling

def content : List Char := Xml.Attribute.tagText rootName written.spellings written.tail

def text : String := String.ofList ('<' :: (written.content ++ written.closing.text rootName))

def value? (key : Key) : Option String := (written.fields.find? fun field => field.key = key).map Field.value

end Written

/-! ## Reading the fields -/

theorem has_add (entries : Entries) (key other : Key) (value : Option String) :
    (entries.add key value).has other = (entries.has other || decide (key = other)) := by
  simp [Entries.has, Entries.add, List.any_append]

theorem attributes_written {fields : List Field} {before : Entries} (once : (fields.map Field.key).Nodup)
    (fresh : ∀ field ∈ fields, before.has field.key = false) :
    attributes before (fields.map fun field => field.spelling.item) = .ok (before ++ fields.map Field.entry) := by
  induction fields generalizing before with
  | nil => rw [List.map_nil, attributes, List.map_nil, List.append_nil]
  | cons field rest ih =>
      rw [List.map_cons, List.nodup_cons] at once
      rw [List.forall_mem_cons] at fresh
      have value : Xml.unescapeValue field.spelling.raw = .ok field.value.toList := by
        rw [Xml.unescapeValue, Xml.Attribute.unescape_spelled field.spelling.spelled, field.valued]
      -- No other field has this key, so the rest is as fresh behind it as before.
      have behind : ∀ other ∈ rest, (before.add field.key (some field.value)).has other.key = false := by
        intro other among
        have different : field.key ≠ other.key := fun same => once.1 (List.mem_map.mpr ⟨other, among, same.symm⟩)
        rw [has_add, fresh.2 other among, Bool.false_or]
        exact decide_eq_false different
      rw [List.map_cons, Spelling.item, attributes]
      dsimp only
      rw [field.keyed, key_of_name]
      dsimp only
      rw [fresh.1, if_neg Bool.false_ne_true, value]
      dsimp only
      rw [String.ofList_toList, ih once.2 behind, Entries.add, List.append_assoc]
      rfl

theorem root_of_start {reader behind : Reader} {tag : List Char} (taken : reader.next = .ok (.start tag, behind)) :
    root reader = .ok (tag, behind) := by
  rw [root]
  split <;> simp_all

theorem content_of_stop {reader behind : Reader} (taken : reader.next = .ok (.stop, behind)) (tag : List Char)
    (entries : Entries) : content tag entries reader = .ok entries := by
  rw [content]
  split <;> simp_all

namespace Written

variable (written : Written)

theorem root_named : Xml.IsTagName rootName := Xml.tag_name_of_valid "helperClass" (by decide +kernel)

theorem keys_once : (written.spellings.map Spelling.key).Nodup := by
  have keys : written.spellings.map Spelling.key = (written.fields.map Field.key).map fun key => key.name.toList := by
    rw [spellings, List.map_map, List.map_map]
    exact List.map_congr_left fun field _ => field.keyed
  rw [keys]
  exact List.Nodup.map (fun _ _ => name_inj) written.once

theorem unbound : ∀ spelling ∈ written.spellings, Xml.Binding.prefixOf? spelling.key = none := by
  refine List.forall_mem_map.mpr fun field _ => ?_
  rw [field.keyed]
  exact unbound_name field.key

theorem read_text : read written.text = .ok (written.fields.map Field.entry) := by
  have opens := Xml.opens_of_text root_named written.blank written.spellings
  have binds := Xml.Binding.of_tag_written root_named.spaceless written.blank written.unbound
  have items : Xml.Attribute.ofTag true written.content = written.fields.map fun field => field.spelling.item := by
    rw [content, Xml.Attribute.of_tag_written root_named.spaceless written.blank fun _ => written.keys_once,
      spellings, List.map_map]
    rfl
  have begun : root (.ofText written.text) = .ok (written.content, ⟨[.stop rootName], none, .ok [[]]⟩) := by
    apply root_of_start
    rw [text, content, opens.reader root_named binds written.closing]
    rfl
  have fields : attributes [] (written.fields.map fun field => field.spelling.item) =
      .ok (written.fields.map Field.entry) := attributes_written written.once fun _ _ => rfl
  have ended : Reader.next ⟨[.stop rootName], none, .ok [[]]⟩ = .ok (.stop, ⟨[], none, .ok []⟩) := rfl
  simp only [read, begun, items, fields, bind, Except.bind]
  exact content_of_stop ended _ _

theorem value_entries (key : Key) : Entries.value? (written.fields.map Field.entry) key = written.value? key := by
  rw [Entries.value?, List.find?_map, Option.bind_map, value?, Option.map_eq_bind]
  rfl

end Written

/-! ## Descriptors as fields -/

-- A document gives a descriptor its fields; it may leave out what the descriptor has anyway.
structure Carries (descriptor : Descriptor) (written : Written) : Prop where
  className : written.value? .className = some descriptor.className
  propertyName : written.value? .propertyName = some descriptor.propertyName
  inputFile : ∃ file, written.value? .inputFile = some file ∧ descriptor.inputFile = .ofString file
  namespaceName : (written.value? .namespaceName).getD "" = descriptor.namespaceName
  backingField : written.value? .backingField = descriptor.storage.field?
  kind : written.value? .kind = some descriptor.kind.word ∨
    written.value? .kind = none ∧ descriptor.kind = .plainClass

theorem kind_of_word (kind : SchemaKind) : kindOf (some kind.word) = .ok kind := by
  cases kind <;> rfl

theorem Carries.kind_of {descriptor : Descriptor} {written : Written} (carries : Carries descriptor written) :
    kindOf (written.value? .kind) = .ok descriptor.kind := by
  rcases carries.kind with given | ⟨missing, plain⟩
  · rw [given, kind_of_word]
  · rw [missing, plain]
    rfl

theorem Carries.describe {descriptor : Descriptor} {written : Written} (carries : Carries descriptor written) :
    describe (written.fields.map Field.entry) descriptor.kind = descriptor := by
  obtain ⟨file, given, same⟩ := carries.inputFile
  have stored := carries.backingField
  simp only [Document.describe, written.value_entries, carries.className, carries.propertyName, given, ← same,
    carries.namespaceName, stored, Option.getD_some]
  cases descriptor with
  | mk namespaceName className propertyName storage inputFile kind => cases storage <;> rfl

theorem bare_name (key : Key) :
    ∀ c ∈ key.name.toList, Xml.Attribute.isKeyChar c = true ∧ c ≠ '>' ∧ Xml.Attribute.isQuote c = false := by
  have all : (key.name.toList.all fun c =>
      Xml.Attribute.isKeyChar c && c != '>' && !Xml.Attribute.isQuote c) = true := by
    cases key <;> decide
  intro c among
  simpa [and_assoc] using List.all_eq_true.mp all c among

-- A field with its value escaped, between quotes of one kind.
def Field.escaped {quote : Char} (quoted : Xml.Attribute.isQuote quote = true) (key : Key) (value : String) :
    Field where
  key := key
  value := value
  spelling := {
    gap := [' ']
    key := key.name.toList
    ahead := []
    behind := []
    quote := quote
    raw := Xml.escape value.toList
    value := value.toList
    apart := List.cons_ne_nil _ _
    gapBlank := by decide
    named := by cases key <;> decide
    bare := bare_name key
    aheadBlank := nofun
    behindBlank := nofun
    quoted := quoted
    spelled := Xml.Attribute.spelled_escape quoted value.toList }
  keyed := rfl
  valued := rfl

section
variable {quote : Char} (quoted : Xml.Attribute.isQuote quote = true) (descriptor : Descriptor) (file : String)

def fieldsOf : List Field :=
  [.escaped quoted .namespaceName descriptor.namespaceName,
    .escaped quoted .className descriptor.className,
    .escaped quoted .propertyName descriptor.propertyName] ++
  (descriptor.storage.field?.map (Field.escaped quoted .backingField)).toList ++
  [.escaped quoted .inputFile file, .escaped quoted .kind descriptor.kind.word]

theorem fields_once : ((fieldsOf quoted descriptor file).map Field.key).Nodup := by
  cases stored : descriptor.storage <;> simp [fieldsOf, Field.escaped, stored, Storage.field?]

-- A descriptor with all its fields, between quotes of one kind.
def Written.ofDescriptor (closing : Xml.Closing) : Written where
  fields := fieldsOf quoted descriptor file
  tail := []
  blank := nofun
  closing := closing
  once := fields_once quoted descriptor file

theorem value_of_descriptor (closing : Xml.Closing) (key : Key) :
    (Written.ofDescriptor quoted descriptor file closing).value? key =
      match key with
      | .namespaceName => some descriptor.namespaceName
      | .className => some descriptor.className
      | .propertyName => some descriptor.propertyName
      | .backingField => descriptor.storage.field?
      | .inputFile => some file
      | .kind => some descriptor.kind.word := by
  cases stored : descriptor.storage <;> cases key <;>
    simp [Written.value?, Written.ofDescriptor, fieldsOf, Field.escaped, stored, Storage.field?]

end

-- Every descriptor whose file has a name that is text can be written.
theorem carries_of_descriptor {quote : Char} (quoted : Xml.Attribute.isQuote quote = true) {descriptor : Descriptor}
    {file : String} (named : descriptor.inputFile = .ofString file) (closing : Xml.Closing) :
    Carries descriptor (.ofDescriptor quoted descriptor file closing) where
  className := value_of_descriptor quoted descriptor file closing .className
  propertyName := value_of_descriptor quoted descriptor file closing .propertyName
  inputFile := ⟨file, value_of_descriptor quoted descriptor file closing .inputFile, named⟩
  namespaceName := by
    rw [value_of_descriptor]
    rfl
  backingField := value_of_descriptor quoted descriptor file closing .backingField
  kind := .inl (value_of_descriptor quoted descriptor file closing .kind)

end Document

/-- A document of one element without content carries a descriptor: its class, its property and its file, its
namespace and its kind unless they are the ones that a descriptor has anyway, and its backing field if there is one,
in any order and spelling. Read, it gives the descriptor if that passes validation, and else the error that the
descriptor has. -/
theorem document_faithful {descriptor : Descriptor} {written : Document.Written}
    (carries : Document.Carries descriptor written) :
    (descriptor.validate = .ok () → ofDocument written.text = .ok descriptor) ∧
      ∀ error, descriptor.validate = .error error → ofDocument written.text = .error (.invalid error) := by
  have read : ofDocument written.text = (descriptor.validate.mapError .invalid).map fun _ => descriptor := by
    simp only [ofDocument, written.read_text, Except.mapError, bind, Except.bind, written.value_entries,
      carries.kind_of, carries.describe]
    cases descriptor.validate <;> rfl
  rw [read]
  constructor
  · intro valid
    rw [valid]
    rfl
  · intro error refused
    rw [refused]
    rfl

-- A class of which only the file has an odd name.
def oddFile : Descriptor where
  className := "Book"
  propertyName := "Data"
  storage := .backingField "held"
  inputFile := .ofString "<Tom's> & \"co\".xsd"

def oddDocument : Document.Written :=
  .ofDescriptor (by decide : Xml.Attribute.isQuote '\'' = true) oddFile "<Tom's> & \"co\".xsd"
    (.long ['\n'] (by decide))

-- The same class with a field for the property that only case tells from it.
def clashing : Descriptor := { oddFile with storage := .backingField "DATA" }

def clashingDocument : Document.Written :=
  .ofDescriptor (by decide : Xml.Attribute.isQuote '"' = true) clashing "<Tom's> & \"co\".xsd" .short

theorem document_faithful_odd_file :
    (oddFile.validate = .ok () ∧ ofDocument oddDocument.text = .ok oddFile ∧
      oddDocument.text = "<helperClass namespace='' className='Book' propertyName='Data' backingField='held' " ++
        "inputFile='&lt;Tom&apos;s&gt; &amp; &quot;co&quot;.xsd' kind='class'></helperClass\n>") ∧
    clashing.validate = .error (.memberClash "Data" "DATA") ∧
      ofDocument clashingDocument.text = .error (.invalid (.memberClash "Data" "DATA")) := by
  have carries : Document.Carries oddFile oddDocument := Document.carries_of_descriptor _ rfl _
  have valid : oddFile.validate = .ok () := rfl
  have clashes : Document.Carries clashing clashingDocument := Document.carries_of_descriptor _ rfl _
  have refused : clashing.validate = .error (.memberClash "Data" "DATA") := by decide +kernel
  exact ⟨⟨valid, (document_faithful carries).1 valid, by decide +kernel⟩, refused,
    (document_faithful clashes).2 _ refused⟩

end Companion.Descriptor
