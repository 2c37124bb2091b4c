import Companion.Proofs.Helper.Members

/-!
Names that meet in a helper class. Main statement: `names_apart`, validation keeps the helper class, the
property and the methods apart in every pair, but of a backing field it looks at the property alone, and of
the wrapped class at the framework types alone.
-/
set_option autoImplicit false

namespace Companion

open Text (sameIgnoringCase)

def Storage.field? : Storage → Option String
  | .auto => none
  | .backingField field => some field

namespace Descriptor

-- Up to the case of letters, which not every language heeds.
abbrev Unlike (first second : String) : Prop := sameIgnoringCase first second = false

abbrev Unshadowing (name : String) : Prop := ∀ type ∈ Code.Framework.all, Unlike type.name name

-- The names that a helper class gives by itself.
def givenNames (helperClass : String) : List String := [helperClass, Helper.loadMethod, Helper.saveMethod]

-- No name of the helper class stands in the way of another one or of a framework type.
structure Clear (descriptor : Descriptor) (helperClass : String) : Prop where
  members : (descriptor.propertyName :: givenNames helperClass ++
    descriptor.storage.field?.toList).Pairwise Unlike
  wrapped : Unlike descriptor.className helperClass
  unshadowing : ∀ name ∈ descriptor.className :: descriptor.propertyName :: descriptor.storage.field?.toList,
    Unshadowing name

-- What is left to ask of a backing field once it differs from the property.
structure FieldClear (helperClass field : String) : Prop where
  members : ∀ name ∈ givenNames helperClass, Unlike name field
  unshadowing : Unshadowing field

theorem unlike_of_last {first second : String}
    (last : (first.toList.map Char.toLower).getLast? ≠ (second.toList.map Char.toLower).getLast?) :
    Unlike first second := by
  refine decide_eq_false ?_
  intro same
  exact last (congrArg List.getLast? same)

theorem unshadowing_of_shadowed {name : String} (unshadowed : shadowed? name = none) : Unshadowing name := by
  intro type listed
  have passed := List.find?_eq_none.mp unshadowed type listed
  simpa using passed

-- The end that every helper class has keeps it apart from the methods.
theorem last_of_helper_class {descriptor : Descriptor} {helperClass : String}
    (named : descriptor.helperClassName = .ok helperClass) :
    (helperClass.toList.map Char.toLower).getLast? = some 's' := by
  obtain ⟨stem, _, rfl⟩ := Option.map_eq_some_iff.mp (class_name_of_named named)
  have ending : (Helper.nameEnding.toList.map Char.toLower).getLast? = some 's' := by decide
  rw [String.toList_append, List.map_append, List.getLast?_append, ending]
  rfl

theorem unlike_field {property field : String} (checked : checkStorage property (.backingField field) = .ok ()) :
    Unlike property field := by
  obtain ⟨_, _, apart⟩ := ok_of_bind checked
  exact of_check_member apart

variable {descriptor : Descriptor} {helperClass : String}

theorem given_names_unlike (accepted : Accepted descriptor helperClass) :
    (descriptor.propertyName :: givenNames helperClass).Pairwise Unlike := by
  have load : Unlike helperClass Helper.loadMethod := by
    apply unlike_of_last
    rw [last_of_helper_class accepted.named]
    decide
  have save : Unlike helperClass Helper.saveMethod := by
    apply unlike_of_last
    rw [last_of_helper_class accepted.named]
    decide
  have methods : Unlike Helper.loadMethod Helper.saveMethod := by decide
  have property : ∀ name ∈ givenNames helperClass, Unlike descriptor.propertyName name := by
    simpa [givenNames] using ⟨accepted.apartFromClass, accepted.apartFromLoad, accepted.apartFromSave⟩
  refine List.pairwise_cons.mpr ⟨property, ?_⟩
  simpa [givenNames] using ⟨⟨load, save⟩, methods⟩

theorem clear_iff (accepted : Accepted descriptor helperClass) :
    descriptor.Clear helperClass ↔ Unlike descriptor.className helperClass ∧
      ∀ field, descriptor.storage = .backingField field → FieldClear helperClass field := by
  have given := given_names_unlike accepted
  have wrappedType := unshadowing_of_shadowed accepted.classUnshadowed
  have property := unshadowing_of_shadowed accepted.propertyUnshadowed
  constructor
  · intro clear
    refine ⟨clear.wrapped, ?_⟩
    intro field stored
    have members := clear.members
    have unshadowing := clear.unshadowing
    rw [stored] at members unshadowing
    have listed : field ∈ (Storage.backingField field).field?.toList := List.mem_cons_self
    obtain ⟨_, _, apart⟩ := List.pairwise_append.mp members
    refine ⟨?_, unshadowing field (List.mem_cons_of_mem _ (List.mem_cons_of_mem _ listed))⟩
    intro name member
    exact apart name (List.mem_cons_of_mem _ member) field listed
  · rintro ⟨wrapped, fields⟩
    cases stored : descriptor.storage with
    | auto =>
        refine ⟨?_, wrapped, ?_⟩
        · rw [stored]
          simpa [Storage.field?] using given
        · rw [stored]
          simpa [Storage.field?] using ⟨wrappedType, property⟩
    | backingField field =>
        obtain ⟨members, unshadowing⟩ := fields field stored
        refine ⟨?_, wrapped, ?_⟩
        · rw [stored]
          refine List.pairwise_append.mpr ⟨given, List.pairwise_singleton _ field, ?_⟩
          intro name member other isField
          cases List.mem_singleton.mp isField
          rcases List.mem_cons.mp member with isProperty | isGiven
          · rw [isProperty]
            exact unlike_field (stored ▸ accepted.storage)
          · exact members name isGiven
        · rw [stored]
          simpa [Storage.field?] using ⟨wrappedType, property, unshadowing⟩

/-- Of an accepted descriptor the fixed names differ in every pair, the property and its field differ, and
neither the wrapped class nor the property is named like a framework type. No name is in the way of another
exactly if, besides, the wrapped class is not named like its helper, and the field like neither the helper, a
method nor a framework type. -/
theorem names_apart {descriptor : Descriptor} (valid : descriptor.validate = .ok ()) :
    ∃ helperClass, descriptor.helperClassName = .ok helperClass ∧
      (descriptor.propertyName :: givenNames helperClass).Pairwise Unlike ∧
      (∀ field, descriptor.storage = .backingField field → Unlike descriptor.propertyName field) ∧
      Unshadowing descriptor.className ∧ Unshadowing descriptor.propertyName ∧
      (descriptor.Clear helperClass ↔ Unlike descriptor.className helperClass ∧
        ∀ field, descriptor.storage = .backingField field → FieldClear helperClass field) := by
  obtain ⟨helperClass, accepted⟩ := accepted_of_validate valid
  refine ⟨helperClass, accepted.named, given_names_unlike accepted, ?_,
    unshadowing_of_shadowed accepted.classUnshadowed, unshadowing_of_shadowed accepted.propertyUnshadowed,
    clear_iff accepted⟩
  intro field stored
  exact unlike_field (stored ▸ accepted.storage)

def storedIn (field : String) : Descriptor := { book with storage := .backingField field }

theorem names_apart_book_data : (storedIn "bookData").validate = .ok () ∧
    ∃ helperClass, (storedIn "bookData").helperClassName = .ok helperClass ∧
      (storedIn "bookData").Clear helperClass := by
  have valid : (storedIn "bookData").validate = .ok () := rfl
  obtain ⟨helperClass, named, _, _, _, _, clear⟩ := names_apart valid
  refine ⟨valid, helperClass, named, clear.mpr ⟨?_, ?_⟩⟩
  · cases named
    decide
  · intro field stored
    cases stored
    cases named
    exact ⟨by decide, by decide⟩

theorem method_name_accepted : ¬ ∀ (descriptor : Descriptor) (helperClass : String),
    descriptor.validate = .ok () → descriptor.helperClassName = .ok helperClass →
      descriptor.Clear helperClass := by
  intro clear
  have members := (clear (storedIn Helper.loadMethod) "book_HelperClass" rfl rfl).members
  have same : ¬ Unlike Helper.loadMethod Helper.loadMethod := by decide
  obtain ⟨_, _, apart⟩ := List.pairwise_append.mp members
  have given : Helper.loadMethod ∈ givenNames "book_HelperClass" := by decide
  exact same (apart _ (List.mem_cons_of_mem _ given) _ List.mem_cons_self)

end Descriptor
end Companion
