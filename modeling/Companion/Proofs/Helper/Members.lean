import Companion.Helper.Build
import Companion.Proofs.Descriptor.Accepted

/-!
The members of a helper class by name, and the name under which its objects keep what they wrap.
-/
set_option autoImplicit false

namespace Companion

def Descriptor.slot (descriptor : Descriptor) : String :=
  match descriptor.storage with
  | .auto => descriptor.propertyName
  | .backingField field => field

-- A class that is wrapped in the plainest way.
def Descriptor.book : Descriptor where
  className := "Book"
  propertyName := "Data"
  inputFile := .ofString "book.xsd"

namespace Helper

variable (source : CommentSource) (settings : ContentSettings)

theorem build_accepted {settings : ContentSettings} {descriptor : Descriptor} {model : Code.Model}
    (built : build settings descriptor = .ok model) :
    ∃ name, Descriptor.Accepted descriptor name ∧
      model.cls = helperClass ⟨descriptor, name, settings.generatorName⟩ settings := by
  obtain ⟨_, valid, rest⟩ := ok_of_bind built
  obtain ⟨name, named, made⟩ := ok_of_bind rest
  obtain ⟨helperName, accepted⟩ := Descriptor.accepted_of_validate valid
  have same : helperName = name := Except.ok.inj (accepted.named.symm.trans named)
  subst same
  cases made
  exact ⟨helperName, accepted, rfl⟩

theorem build_book : build {} Descriptor.book = .ok {
    banner := ContentSettings.bannerLines {}
    imports := imports
    cls := helperClass ⟨Descriptor.book, "book_HelperClass", "xsdhelper"⟩ {} } := rfl

theorem constructors_eq : (helperClass source settings).constructors =
    [emptyConstructor source settings.placeholder, fileConstructor source, instanceConstructor source] :=
  rfl

theorem method_load : (helperClass source settings).method? loadMethod = some (load source) := rfl

theorem method_save : (helperClass source settings).method? saveMethod = some (save source) := rfl

theorem method_other {name : String} (notLoad : name ≠ loadMethod) (notSave : name ≠ saveMethod) :
    (helperClass source settings).method? name = none := by
  have methods : (helperClass source settings).methods = [load source, save source] := rfl
  simp [Code.Class.method?, methods, load, save, Ne.symm notLoad, Ne.symm notSave]

theorem property_forwarding : (helperClass source settings).property? source.descriptor.propertyName =
    some (forwardingProperty source) := by
  have properties : (helperClass source settings).properties = [forwardingProperty source] := rfl
  simp [Code.Class.property?, properties, forwardingProperty]

theorem property_other {name : String} (other : name ≠ source.descriptor.propertyName) :
    (helperClass source settings).property? name = none := by
  have properties : (helperClass source settings).properties = [forwardingProperty source] := rfl
  simp [Code.Class.property?, properties, forwardingProperty, Ne.symm other]

end Helper
end Companion
