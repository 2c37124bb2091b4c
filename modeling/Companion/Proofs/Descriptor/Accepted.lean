import Companion.Descriptor.Validation
import Companion.Proofs.Outcome

/-!
Descriptors that pass validation. Main statement: `accepted_of_validate`, all that the checks say of
such a descriptor.
-/
set_option autoImplicit false

namespace Companion.Descriptor

open Text (sameIgnoringCase)

structure Accepted (descriptor : Descriptor) (helperClass : String) : Prop where
  className : Identifier.isValid descriptor.className = true
  propertyName : Identifier.isValid descriptor.propertyName = true
  classUnshadowed : shadowed? descriptor.className = none
  propertyUnshadowed : shadowed? descriptor.propertyName = none
  namespaceName : Identifier.isValidNamespace descriptor.namespaceName = true
  storage : checkStorage descriptor.propertyName descriptor.storage = .ok ()
  named : descriptor.helperClassName = .ok helperClass
  apartFromClass : sameIgnoringCase descriptor.propertyName helperClass = false
  apartFromLoad : sameIgnoringCase descriptor.propertyName Helper.loadMethod = false
  apartFromSave : sameIgnoringCase descriptor.propertyName Helper.saveMethod = false

theorem of_require {condition : Bool} {error : Error} {done : Unit}
    (passed : require condition error = .ok done) : condition = true := by
  cases condition with
  | true => rfl
  | false => cases passed

theorem of_check_identifier {field : Field} {value : String} {done : Unit}
    (passed : checkIdentifier field value = .ok done) : Identifier.isValid value = true := by
  obtain ⟨_, _, valid⟩ := ok_of_bind passed
  exact of_require valid

theorem of_check_framework {field : Field} {value : String} {done : Unit}
    (passed : checkFramework field value = .ok done) : shadowed? value = none := by
  unfold checkFramework at passed
  split at passed
  · cases passed
  · assumption

theorem of_check_member {property member : String} {done : Unit}
    (passed : checkMember property member = .ok done) : sameIgnoringCase property member = false := by
  have apart := of_require passed
  simpa using apart

theorem class_name_of_named {descriptor : Descriptor} {name : String}
    (named : descriptor.helperClassName = .ok name) : Helper.className? descriptor.inputFile = some name := by
  rw [helperClassName] at named
  split at named
  · rename_i read
    cases named
    exact read
  · cases named

theorem accepted_of_validate {descriptor : Descriptor} (valid : descriptor.validate = .ok ()) :
    ∃ helperClass, Accepted descriptor helperClass := by
  unfold validate at valid
  obtain ⟨_, className, valid⟩ := ok_of_bind valid
  obtain ⟨_, propertyName, valid⟩ := ok_of_bind valid
  obtain ⟨_, classUnshadowed, valid⟩ := ok_of_bind valid
  obtain ⟨_, propertyUnshadowed, valid⟩ := ok_of_bind valid
  obtain ⟨_, namespaceName, valid⟩ := ok_of_bind valid
  obtain ⟨_, storage, valid⟩ := ok_of_bind valid
  obtain ⟨helperClass, named, valid⟩ := ok_of_bind valid
  obtain ⟨_, apartFromClass, valid⟩ := ok_of_bind valid
  obtain ⟨_, apartFromLoad, apartFromSave⟩ := ok_of_bind valid
  exact ⟨helperClass, of_check_identifier className, of_check_identifier propertyName,
    of_check_framework classUnshadowed, of_check_framework propertyUnshadowed, of_require namespaceName,
    storage, named, of_check_member apartFromClass, of_check_member apartFromLoad,
    of_check_member apartFromSave⟩

namespace Accepted

variable {descriptor : Descriptor} {helperClass : String}

theorem field_ne_property (accepted : Accepted descriptor helperClass) {field : String}
    (stored : descriptor.storage = .backingField field) : field ≠ descriptor.propertyName := by
  intro same
  have checked := accepted.storage
  rw [stored] at checked
  obtain ⟨_, _, apart⟩ := ok_of_bind checked
  have different := of_check_member apart
  simp [sameIgnoringCase, same] at different

end Accepted
end Companion.Descriptor
