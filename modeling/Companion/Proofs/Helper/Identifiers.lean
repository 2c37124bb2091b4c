import Companion.Proofs.Descriptor.Clashes
import Companion.Proofs.Text.Letters

/-!
The names in a helper class. Main statement: `identifiers_of_build`, they are all identifiers but for the parameter
that takes an object over, and that one is too unless the property begins with the capital I with a dot.
-/
set_option autoImplicit false

namespace Companion

namespace Code

@[simp] def TypeRef.names : TypeRef → List String
  | .named name => [name]
  | .framework type => [type.name]
  | .void | .string => []

-- The variables and members that an expression reads, and the types that it names.
mutual
@[simp] def Expr.names : Expr → List String
  | .null | .this | .incoming | .literal _ => []
  | .variable name => [name]
  | .type type | .typeOf type => type.names
  | .property target name => name :: target.names
  | .invoke target method arguments => method :: target.names ++ namesOfAll arguments
  | .create type arguments => type.names ++ namesOfAll arguments
  | .cast type operand => type.names ++ operand.names
  | .compare left _ right => left.names ++ right.names
@[simp] def namesOfAll : List Expr → List String
  | [] => []
  | first :: rest => first.names ++ namesOfAll rest
end

@[simp] def namesOfValue : Option Expr → List String
  | none => []
  | some value => value.names

mutual
@[simp] def Statement.names : Statement → List String
  | .declare type name init => name :: type.names ++ namesOfValue init
  | .assign target value => target.names ++ value.names
  | .evaluate expr => expr.names
  | .branch condition whenTrue whenFalse => condition.names ++ namesOfBlock whenTrue ++ namesOfBlock whenFalse
  | .attempt body handlers final => namesOfBlock body ++ namesOfHandlers handlers ++ namesOfBlock final
  | .leave value => namesOfValue value
  | .rethrow | .comment _ => []
@[simp] def namesOfBlock : Block → List String
  | [] => []
  | first :: rest => first.names ++ namesOfBlock rest
@[simp] def namesOfHandlers : List Handler → List String
  | [] => []
  | ⟨exception, binding, body⟩ :: rest =>
    binding.toList ++ exception.names ++ namesOfBlock body ++ namesOfHandlers rest
end

@[simp] def Param.names (param : Param) : List String := param.name :: param.type.names

@[simp] def Accessors.names : Accessors → List String
  | .auto => []
  | .explicit getter setter => namesOfBlock getter ++ namesOfBlock setter

@[simp] def Member.names : Member → List String
  | .constructor value => value.params.flatMap Param.names ++ namesOfBlock value.initializers ++ namesOfBlock value.body
  | .property value => value.name :: value.type.names ++ value.accessors.names
  | .method value => value.name :: value.params.flatMap Param.names ++ value.returns.names ++ namesOfBlock value.body

def Class.names (cls : Class) : List String := cls.name :: cls.members.flatMap Member.names

-- The parts of a namespace between its dots, if there is one.
def namespaceNames (name : String) : List String := if name.isEmpty then [] else Text.splitText '.' name

-- All names that a program is made of, in the places of identifiers.
def Model.names (model : Model) : List String := namespaceNames model.namespaceName ++ model.cls.names

end Code

namespace Helper

open Code

-- What holds of the names that are the same in every helper class.
structure Fixed (P : String → Prop) : Prop where
  framework : ∀ type : Framework, P type.name
  parameter : P filePathParam
  methods : P loadMethod ∧ P saveMethod
  locals : P resultVariable ∧ P streamVariable ∧ P serializerVariable
  called : P "OpenRead" ∧ P "Deserialize" ∧ P "CreateDirectory" ∧ P "Create" ∧ P "Serialize" ∧ P "Flush" ∧ P "Dispose"
  read : P "DirectoryName"

theorem fixed_of_valid {P : String → Prop} (identifiers : ∀ name, Identifier.isValid name = true → P name) :
    Fixed P where
  framework type := identifiers _ (by cases type <;> decide +kernel)
  parameter := identifiers _ (by decide +kernel)
  methods := ⟨identifiers _ (by decide +kernel), identifiers _ (by decide +kernel)⟩
  locals := ⟨identifiers _ (by decide +kernel), identifiers _ (by decide +kernel), identifiers _ (by decide +kernel)⟩
  called := by
    refine ⟨?_, ?_, ?_, ?_, ?_, ?_, ?_⟩ <;> exact identifiers _ (by decide +kernel)
  read := identifiers _ (by decide +kernel)

namespace Fixed

variable {P : String → Prop} (fixed : Fixed P) (source : CommentSource)

include fixed

theorem guarded_block (body : Block) :
    (∀ name ∈ (guarded body).names, P name) ↔ ∀ name ∈ namesOfBlock body, P name := by
  simp [guarded, releaseStream, stream, or_imp, forall_and, fixed.framework, fixed.locals, fixed.called]

theorem file_constructor :
    (∀ name ∈ (Member.constructor (fileConstructor source)).names, P name) ↔ P source.descriptor.propertyName := by
  simp [fileConstructor, filePath, heldObject, fixed.parameter, fixed.methods]

theorem load_method : (∀ name ∈ (Member.method (load source)).names, P name) ↔ P source.descriptor.className := by
  simp [load, filePath, wrapped, declareStream, or_imp, forall_and, fixed.guarded_block, openFile, declareSerializer,
    deserialize, stream, fixed.framework, fixed.parameter, fixed.methods, fixed.locals, fixed.called]

theorem save_method :
    (∀ name ∈ (Member.method (save source)).names, P name) ↔
      P source.descriptor.className ∧ P source.descriptor.propertyName := by
  simp [save, filePath, declareStream, fixed.guarded_block, createDirectory, directoryName, createFile,
    declareSerializer, wrapped, serialize, heldObject, flushStream, stream, fixed.framework, fixed.parameter,
    fixed.methods, fixed.locals, fixed.called, fixed.read]

end Fixed

section
variable {P : String → Prop} (source : CommentSource)

theorem instance_constructor_names :
    (∀ name ∈ (Member.constructor (instanceConstructor source)).names, P name) ↔
      P source.descriptor.instanceParameterName ∧ P source.descriptor.className ∧ P source.descriptor.propertyName := by
  simpa [instanceConstructor, wrapped, heldObject] using fun given _ _ => given

theorem property_names :
    (∀ name ∈ (Member.property (forwardingProperty source)).names, P name) ↔
      P source.descriptor.propertyName ∧ P source.descriptor.className ∧
        ∀ field ∈ source.descriptor.storage.field?, P field := by
  cases stored : source.descriptor.storage <;>
    simp [forwardingProperty, wrapped, accessors, stored, Storage.field?]

-- The names of a helper class are the fixed ones, those that it takes over and the two that are made for it.
theorem names_all (fixed : Fixed P) (settings : ContentSettings) :
    (∀ name ∈ (helperClass source settings).names, P name) ↔
      P source.helperClass ∧ P source.descriptor.instanceParameterName ∧ P source.descriptor.className ∧
        P source.descriptor.propertyName ∧ ∀ field ∈ source.descriptor.storage.field?, P field := by
  have members : (helperClass source settings).members = [
      .constructor (emptyConstructor source settings.placeholder), .constructor (fileConstructor source),
      .constructor (instanceConstructor source), .property (forwardingProperty source), .method (load source),
      .method (save source)] := rfl
  have empty : (Member.constructor (emptyConstructor source settings.placeholder)).names = [] := rfl
  rw [Class.names, members, List.forall_mem_cons, List.forall_mem_flatMap]
  simp only [List.forall_mem_cons, empty, fixed.file_constructor, instance_constructor_names,
    property_names, fixed.load_method, fixed.save_method]
  constructor
  · rintro ⟨cls, _, _, ⟨param, wrapped, property⟩, ⟨_, _, field⟩, _⟩
    exact ⟨cls, param, wrapped, property, field⟩
  · rintro ⟨cls, param, wrapped, property, field⟩
    exact ⟨cls, nofun, property, ⟨param, wrapped, property⟩, ⟨property, wrapped, field⟩, wrapped,
      ⟨wrapped, property⟩, nofun⟩

end

theorem namespace_names_valid {name : String} (valid : Identifier.isValidNamespace name = true) :
    ∀ part ∈ namespaceNames name, Identifier.isValid part = true := by
  rw [namespaceNames]
  split
  · exact fun part among => absurd among List.not_mem_nil
  · rename_i some_name
    rw [Identifier.isValidNamespace, Bool.or_eq_true, List.all_eq_true] at valid
    exact valid.resolve_left some_name

theorem field_valid {property : String} {storage : Storage}
    (checked : Descriptor.checkStorage property storage = .ok ()) :
    ∀ field ∈ storage.field?, Identifier.isValid field = true := by
  cases storage with
  | auto => exact fun field held => nomatch held
  | backingField name =>
      obtain ⟨_, identifier, _⟩ := ok_of_bind checked
      intro field held
      cases held
      exact Descriptor.of_check_identifier identifier

theorem build_of_accepted (settings : ContentSettings) {descriptor : Descriptor} {helperClassName : String}
    (valid : descriptor.validate = .ok ()) (named : descriptor.helperClassName = .ok helperClassName) :
    build settings descriptor = .ok {
      banner := settings.bannerLines
      imports := imports
      namespaceName := descriptor.namespaceName
      cls := helperClass ⟨descriptor, helperClassName, settings.generatorName⟩ settings } := by
  rw [build, valid, named]
  rfl

/-- A descriptor that passes validation has a helper class. All names in it are identifiers but for the parameter
that takes an object over, and they all are exactly if the name of the property does not begin with the capital I
with a dot, whose small form is two characters. -/
theorem identifiers_of_build (settings : ContentSettings) (descriptor : Descriptor)
    (valid : descriptor.validate = .ok ()) :
    ∃ model, build settings descriptor = .ok model ∧
      (∀ name ∈ model.names, Identifier.isValid name = true ∨ name = descriptor.instanceParameterName) ∧
      ((∀ name ∈ model.names, Identifier.isValid name = true) ↔
        descriptor.propertyName.toList.head? ≠ some '\u0130') := by
  obtain ⟨helperName, accepted⟩ := Descriptor.accepted_of_validate valid
  have class_valid : Identifier.isValid helperName = true := by
    have named := accepted.named
    rw [Descriptor.helperClassName] at named
    split at named
    · rename_i found
      cases named
      exact Identifier.class_name_valid found
    · cases named
  have parts := namespace_names_valid accepted.namespaceName
  have field := field_valid accepted.storage
  refine ⟨_, build_of_accepted settings valid accepted.named, ?_, ?_⟩
  · refine List.forall_mem_append.mpr ⟨fun part among => .inl (parts part among), ?_⟩
    refine (names_all _ (fixed_of_valid fun _ => .inl) settings).mpr ?_
    exact ⟨.inl class_valid, .inr rfl, .inl accepted.className, .inl accepted.propertyName,
      fun name held => .inl (field name held)⟩
  · rw [← Identifier.lower_first_valid_iff accepted.propertyName]
    refine List.forall_mem_append.trans ((and_iff_right parts).trans ?_)
    refine (names_all _ (fixed_of_valid fun _ => id) settings).trans ?_
    exact ⟨fun all => all.2.1, fun param => ⟨class_valid, param, accepted.className, accepted.propertyName, field⟩⟩

-- A book whose property begins with the given character.
def letteredBook (first : Char) : Descriptor :=
  { Descriptor.book with
    propertyName := String.ofList [first, 'd']
    storage := .backingField "data"
    namespaceName := "Shop.Größe" }

-- The capital I without a dot is no exception.
theorem identifiers_of_build_dotless :
    (letteredBook 'I').validate = .ok () ∧
      ∃ model, build {} (letteredBook 'I') = .ok model ∧ "id" ∈ model.names ∧
        ∀ name ∈ model.names, Identifier.isValid name = true := by
  have valid : (letteredBook 'I').validate = .ok () := rfl
  obtain ⟨model, built, _, all⟩ := identifiers_of_build {} (letteredBook 'I') valid
  have named : "id" ∈ model.names := by
    cases built
    decide +kernel
  exact ⟨valid, model, built, named, all.mpr (by decide)⟩

-- With a dot, the parameter of a valid descriptor has the dot behind its first letter.
theorem identifiers_not_of_build :
    ¬∀ (settings : ContentSettings) (descriptor : Descriptor) (model : Model), descriptor.validate = .ok () →
      build settings descriptor = .ok model → ∀ name ∈ model.names, Identifier.isValid name = true := by
  intro all
  have valid : (letteredBook '\u0130').validate = .ok () := rfl
  have parameter := all {} (letteredBook '\u0130') _ valid rfl "i\u0307d"
  revert parameter
  decide +kernel

end Helper
end Companion
