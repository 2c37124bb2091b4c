import Companion.Proofs.Execution.Locality

/-!
Helper classes with members of others between their own. Main statement: `generated_undisturbed`, requests to the
generated members get the same answers and leave the same streams and objects, whatever the other members do.
-/
set_option autoImplicit false

namespace Companion

namespace Code

-- The members with others put anywhere between them.
inductive Inserted (others : Member → Prop) : List Member → List Member → Prop
  | nothing : Inserted others [] []
  | kept {members more : List Member} (member : Member) (behind : Inserted others members more) :
      Inserted others (member :: members) (member :: more)
  | put {members more : List Member} {member : Member} (other : others member) (behind : Inserted others members more) :
      Inserted others members (member :: more)

variable {others : Member → Prop} {members more : List Member} {α : Type} {part : Member → Option α}

theorem filter_map_inserted (inserted : Inserted others members more)
    (apart : ∀ member, others member → part member = none) : more.filterMap part = members.filterMap part := by
  induction inserted with
  | nothing => rfl
  | kept member _ ih => rw [List.filterMap_cons, List.filterMap_cons, ih]
  | put other _ ih => rw [List.filterMap_cons, apart _ other, ih]

theorem find_inserted {wanted : α → Bool} (inserted : Inserted others members more)
    (apart : ∀ member found, others member → part member = some found → wanted found = false) :
    (more.filterMap part).find? wanted = (members.filterMap part).find? wanted := by
  induction inserted with
  | nothing => rfl
  | kept member _ ih =>
      rw [List.filterMap_cons, List.filterMap_cons]
      cases part member with
      | none => exact ih
      | some found => rw [List.find?_cons, List.find?_cons, ih]
  | @put _ _ member other _ ih =>
      rw [List.filterMap_cons]
      cases taken : part member with
      | none => exact ih
      | some found =>
          rw [List.find?_cons, apart member found other taken]
          exact ih

theorem Inserted.refl (others : Member → Prop) : (members : List Member) → Inserted others members members
  | [] => .nothing
  | member :: rest => .kept member (refl others rest)

theorem Inserted.append {first second : List Member} (inserted : Inserted others members more)
    (behind : Inserted others first second) : Inserted others (members ++ first) (more ++ second) := by
  induction inserted with
  | nothing => exact behind
  | kept member _ ih => exact .kept member ih
  | put other _ ih => exact .put other ih

theorem inserted_all {extra : List Member} (each : ∀ member ∈ extra, others member) : Inserted others [] extra := by
  induction extra with
  | nil => exact .nothing
  | cons member rest ih =>
      obtain ⟨own, behind⟩ := List.forall_mem_cons.mp each
      exact .put own (ih behind)

theorem inserted_extra (model : Model) {extra : List Member} (each : ∀ member ∈ extra, others member) :
    Inserted others model.cls.members (model.withExtraMembers extra).cls.members := by
  rw [Class.members, Class.members, Model.withExtraMembers]
  split
  · exact .refl others _
  · rename_i first rest regions
    rw [regions, List.flatMap_cons, List.flatMap_cons]
    have own := (Inserted.refl others first.members).append (inserted_all each)
    rw [List.append_nil] at own
    exact own.append (.refl others _)

theorem extra_regions (model : Model) (extra : List Member) : (model.withExtraMembers extra).cls =
    { model.cls with regions := (model.withExtraMembers extra).cls.regions } := by
  rw [Model.withExtraMembers]
  split <;> rfl

-- Members whose names are not looked up can be put into a class.
theorem shares_of_inserted {cls : Class} {regions : List Region} {known : String → Prop}
    (inserted : Inserted (fun member => ∃ name, member.name? = some name ∧ ¬known name) cls.members
      (regions.flatMap Region.members)) : cls.Shares known { cls with regions } where
  name := rfl
  constructors := by
    refine filter_map_inserted inserted ?_
    rintro (constructor | property | method) ⟨name, named, _⟩
    · cases named
    · rfl
    · rfl
  property name looked := by
    refine find_inserted inserted ?_
    rintro (constructor | property | method) found ⟨other, named, unknown⟩ taken
    · cases taken
    · cases taken
      cases named
      exact decide_eq_false fun same => unknown (same ▸ looked)
    · cases taken
  method name looked := by
    refine find_inserted inserted ?_
    rintro (constructor | property | method) found ⟨other, named, unknown⟩ taken
    · cases taken
    · cases taken
    · cases taken
      cases named
      exact decide_eq_false fun same => unknown (same ▸ looked)

end Code

-- The names that the generated members have and use.
inductive Descriptor.Own (descriptor : Descriptor) : String → Prop
  | property : Own descriptor descriptor.propertyName
  | field {field : String} (stored : descriptor.storage = .backingField field) : Own descriptor field
  | load : Own descriptor Helper.loadMethod
  | save : Own descriptor Helper.saveMethod

-- A property or a method with another name.
def Descriptor.Addition (descriptor : Descriptor) (member : Code.Member) : Prop :=
  ∃ name, member.name? = some name ∧ ¬descriptor.Own name

namespace Helper

open Code (Expr Statement)

/-! ## The bodies of the generated members -/

section

variable (source : CommentSource) (settings : ContentSettings)

theorem local_accessors : (accessors source.descriptor.storage).Local source.descriptor.Own := by
  cases stored : source.descriptor.storage with
  | auto => trivial
  | backingField field =>
      have own : source.descriptor.Own field := .field stored
      simp [accessors, Code.Accessors.Local, Statement.BlockLocal, Statement.Local, Expr.OptionLocal, Expr.Local,
        Expr.Takes, own]

theorem local_load : Statement.BlockLocal source.descriptor.Own (load source).body := by
  simp [load, declareStream, guarded, openFile, declareSerializer, deserialize, releaseStream, stream,
    Statement.BlockLocal, Statement.HandlersLocal, Statement.Local, Expr.OptionLocal, Expr.Declares, Expr.Takes,
    Expr.AllLocal, Expr.Local, Expr.Foreign]

theorem local_save : Statement.BlockLocal source.descriptor.Own (save source).body := by
  have own : source.descriptor.Own source.descriptor.propertyName := .property
  simp [save, declareStream, guarded, createDirectory, directoryName, createFile, declareSerializer, serialize,
    flushStream, heldObject, releaseStream, stream, Statement.BlockLocal, Statement.HandlersLocal, Statement.Local,
    Expr.OptionLocal, Expr.Declares, Expr.Takes, Expr.AllLocal, Expr.Local, Expr.Foreign, own]

theorem local_constructors : ∀ constructor ∈ (helperClass source settings).constructors,
    Statement.BlockLocal source.descriptor.Own constructor.initializers ∧
      Statement.BlockLocal source.descriptor.Own constructor.body := by
  have own : source.descriptor.Own source.descriptor.propertyName := .property
  have loads : source.descriptor.Own loadMethod := .load
  rw [constructors_eq]
  simp [emptyConstructor, fileConstructor, instanceConstructor, heldObject, Statement.BlockLocal, Statement.Local,
    Expr.Takes, Expr.AllLocal, Expr.Local, own, loads]

-- The generated members look up only names of their own on the object.
theorem local_helper_class : (helperClass source settings).Local source.descriptor.Own where
  constructors := local_constructors source settings
  property name property _ found := by
    by_cases forwarding : name = source.descriptor.propertyName
    · rw [forwarding, property_forwarding] at found
      cases found
      exact local_accessors source
    · rw [property_other source settings forwarding] at found
      cases found
  method name method _ found := by
    by_cases loads : name = loadMethod
    · rw [loads, method_load] at found
      cases found
      exact local_load source
    · by_cases saves : name = saveMethod
      · rw [saves, method_save] at found
        cases found
        exact local_save source
      · rw [method_other source settings loads saves] at found
        cases found

end

/-! ## Requests -/

section

variable {cls extended : Code.Class} {depth : Nat}

theorem answers_of_asks {requests : List Request}
    (same : ∀ request ∈ requests, ∀ session : Session,
      session.ask extended depth request = session.ask cls depth request) (session : Session) :
    session.answers extended depth requests = session.answers cls depth requests := by
  induction requests generalizing session with
  | nil => rfl
  | cons request rest ih =>
      obtain ⟨here, behind⟩ := List.forall_mem_cons.mp same
      rw [Session.answers, Session.answers, here session]
      dsimp only
      rw [ih behind]

theorem run_of_asks {requests : List Request}
    (same : ∀ request ∈ requests, ∀ session : Session,
      session.ask extended depth request = session.ask cls depth request) (session : Session) :
    session.run extended depth requests = session.run cls depth requests := by
  induction requests generalizing session with
  | nil => rw [Session.run, Session.run, List.foldl_nil, List.foldl_nil]
  | cons request rest ih =>
      obtain ⟨here, behind⟩ := List.forall_mem_cons.mp same
      rw [run_cons, run_cons, here session, ih behind]

end

/-- Properties and methods with names of their own, put anywhere into a built class, change nothing for requests to
the generated members: construction, loading, saving, and reading and writing the property have the same answers,
after each of which the streams are the same, and they leave the same session. -/
theorem generated_undisturbed {settings : ContentSettings} {descriptor : Descriptor} {model : Code.Model}
    (built : build settings descriptor = .ok model) {regions : List Code.Region}
    (inserted : Code.Inserted descriptor.Addition model.cls.members (regions.flatMap Code.Region.members))
    (depth : Nat) (session : Session) {requests : List Request}
    (own : ∀ request ∈ requests, request.Stays descriptor.Own) :
    session.answers { model.cls with regions } depth requests = session.answers model.cls depth requests ∧
      session.run { model.cls with regions } depth requests = session.run model.cls depth requests := by
  obtain ⟨name, _, same⟩ := build_accepted built
  have stays : model.cls.Local descriptor.Own := by
    rw [same]
    exact local_helper_class ⟨descriptor, name, settings.generatorName⟩ settings
  have shares : model.cls.Shares descriptor.Own { model.cls with regions } := Code.shares_of_inserted inserted
  have asks (request : Request) (member : request ∈ requests) (session : Session) :
      session.ask { model.cls with regions } depth request = session.ask model.cls depth request := by
    rw [Session.ask_eq_meet, Session.ask_eq_meet]
    exact Session.meet_agrees (Host.agrees_host shares stays depth) session (own request member)
  exact ⟨answers_of_asks asks session, run_of_asks asks session⟩

-- Members with names that the generated ones use on streams and on files.
def additions : List Code.Member := [
  .method { name := "Dispose", params := [], returns := .void, body := [.assign (.property .this "Data") .null] },
  .property { name := "DirectoryName", type := .string, accessors := .explicit [.rethrow] [] }]

theorem generated_undisturbed_dispose : ∃ model, build {} fielded = .ok model ∧
    (Session.fresh {}).answers (model.withExtraMembers additions).cls 2
        [.construct [], .set 0 "Data" .null, .call 0 saveMethod [.text "a.xml"], .get 0 "Data"] =
      (Session.fresh {}).answers model.cls 2
        [.construct [], .set 0 "Data" .null, .call 0 saveMethod [.text "a.xml"], .get 0 "Data"] := by
  have apart (name : String) (others : name ≠ "Data" ∧ name ≠ "bookData" ∧ name ≠ loadMethod ∧ name ≠ saveMethod) :
      ¬fielded.Own name := by
    intro own
    cases own with
    | property => exact others.1 rfl
    | field stored =>
        cases stored
        exact others.2.1 rfl
    | load => exact others.2.2.1 rfl
    | save => exact others.2.2.2 rfl
  have own : ∀ request ∈ [Request.construct [], .set 0 "Data" .null, .call 0 saveMethod [.text "a.xml"],
      .get 0 "Data"], request.Stays fielded.Own := by
    simp only [List.forall_mem_cons, Request.Stays]
    exact ⟨trivial, .property, .save, .property, nofun⟩
  have each : ∀ member ∈ additions, fielded.Addition member := by
    refine List.forall_mem_cons.mpr ⟨⟨"Dispose", rfl, apart _ (by decide)⟩, List.forall_mem_singleton.mpr ?_⟩
    exact ⟨"DirectoryName", rfl, apart _ (by decide)⟩
  obtain ⟨model, built⟩ : ∃ model, build {} fielded = .ok model := ⟨_, build_fielded⟩
  refine ⟨model, built, ?_⟩
  rw [Code.extra_regions]
  exact (generated_undisturbed built (Code.inserted_extra model each) 2 (Session.fresh {}) own).1

end Helper
end Companion
