import Companion.Proofs.Execution.Run

/-!
Identity of values, and what comparing variables answers. Main statement: `identity_of_locals`, identity is symmetric and
transitive, and a variable is the same as itself exactly if its value is of a kind that identity has a case for.
-/
set_option autoImplicit false

namespace Companion

open Code (Expr Comparison)

namespace Value

-- The kinds of values that identity has a case for.
def IsComparable : Value → Prop
  | .null | .this | .bool _ | .text _ | .object _ | .stream _ => True
  | .serializer _ | .fileInfo _ | .type _ => False

instance (value : Value) : Decidable value.IsComparable :=
  match value with
  | .null | .this | .bool _ | .text _ | .object _ | .stream _ => isTrue trivial
  | .serializer _ | .fileInfo _ | .type _ => isFalse id

variable {first second third : Value}

theorem identical_self (value : Value) : value.isIdentical value = decide value.IsComparable := by
  cases value with
  | null | this => rfl
  | bool | text | object | stream => exact decide_eq_true rfl
  | serializer | fileInfo | type => rfl

theorem eq_of_identical (same : first.isIdentical second = true) : first = second := by
  unfold isIdentical at same
  split at same
  · rfl
  · rfl
  · rw [of_decide_eq_true same]
  · rw [of_decide_eq_true same]
  · rw [of_decide_eq_true same]
  · rw [of_decide_eq_true same]
  · cases same

theorem identical_iff : first.isIdentical second = true ↔ first = second ∧ first.IsComparable := by
  constructor
  · intro same
    obtain rfl := eq_of_identical same
    rw [identical_self] at same
    exact ⟨rfl, of_decide_eq_true same⟩
  · rintro ⟨rfl, comparable⟩
    rw [identical_self]
    exact decide_eq_true comparable

theorem identical_symm (first second : Value) : first.isIdentical second = second.isIdentical first := by
  rw [Bool.eq_iff_iff, identical_iff, identical_iff]
  constructor
  · rintro ⟨rfl, comparable⟩
    exact ⟨rfl, comparable⟩
  · rintro ⟨rfl, comparable⟩
    exact ⟨rfl, comparable⟩

theorem identical_trans (same : first.isIdentical second = true) (next : second.isIdentical third = true) :
    first.isIdentical third = true := by
  rw [eq_of_identical same]
  exact next

-- Null is the same as nothing else, whatever the kind of the other value.
theorem identical_null (value : Value) : value.isIdentical .null = value.isNull := by
  cases value <;> rfl

end Value

namespace Host

variable {host : Host} {context : Context} {name : String} {value : Value}

theorem evaluate_local (held : context.frame.locals.get? name = some value) :
    host.evaluate (.variable name) context = .ok value context := by
  simp [evaluate, held]

theorem evaluate_compare {left right : Expr} {first second : Value} (comparison : Comparison)
    (leftIs : host.evaluate left context = .ok first context)
    (rightIs : host.evaluate right context = .ok second context) :
    host.evaluate (.compare left comparison right) context = .ok (.bool (compared first comparison second)) context := by
  simp [evaluate, leftIs, rightIs]

/-- Identity is symmetric and transitive. A variable is the same as itself, and not different, exactly if its value is
of a kind that can be compared; whether it is null is answered right for every kind. -/
theorem identity_of_locals (a b c : Value) (host : Host)
    (held : context.frame.locals.get? name = some value) :
    (a.isIdentical a = true ↔ a.IsComparable) ∧
      a.isIdentical b = b.isIdentical a ∧
      (a.isIdentical b = true → b.isIdentical c = true → a.isIdentical c = true) ∧
      host.evaluate (.compare (.variable name) .same (.variable name)) context =
        .ok (.bool (decide value.IsComparable)) context ∧
      host.evaluate (.compare (.variable name) .different (.variable name)) context =
        .ok (.bool (!decide value.IsComparable)) context ∧
      host.evaluate (.compare (.variable name) .different .null) context = .ok (.bool (!value.isNull)) context := by
  have read : host.evaluate (.variable name) context = .ok value context := evaluate_local held
  have null : host.evaluate .null context = .ok .null context := by simp [evaluate]
  refine ⟨?_, Value.identical_symm a b, Value.identical_trans, ?_, ?_, ?_⟩
  · rw [Value.identical_self, decide_eq_true_iff]
  · rw [evaluate_compare .same read read, compared, Value.identical_self]
  · rw [evaluate_compare .different read read, compared, Value.identical_self]
  · rw [evaluate_compare .different read null, compared, Value.identical_null]

-- A state in which one variable holds the value.
def holding (value : Value) : Context where
  streams := { files := {} }
  object := []
  frame := { member := "Probe", locals := [("it", value)] }

-- A method that compares a serializer with itself.
def comparing : Code.Class where
  name := "Probe"
  regions := [⟨"", [.method {
    name := "Probe"
    params := []
    returns := .string
    body := [
      .declare (.framework .xmlSerializer) "it"
        (some (.create (.framework .xmlSerializer) [.typeOf (.named "Book")])),
      .branch (.compare (.variable "it") .same (.variable "it")) [.leave (some (.literal "same"))]
        [.leave (some (.literal "other"))]] }]⟩]

-- A file info is neither the same as itself nor null; streams with one number are the same.
theorem identity_of_locals_file_info :
    let context := holding (.fileInfo (.ofString "a/b"))
    let host := Execution.host comparing 0
    context.frame.locals.get? "it" = some (.fileInfo (.ofString "a/b")) ∧
      (Value.stream 3).isIdentical (.stream 3) = true ∧
      host.evaluate (.compare (.variable "it") .same (.variable "it")) context = .ok (.bool false) context ∧
      host.evaluate (.compare (.variable "it") .different (.variable "it")) context = .ok (.bool true) context ∧
      host.evaluate (.compare (.variable "it") .different .null) context = .ok (.bool true) context := by
  intro context host
  have held : context.frame.locals.get? "it" = some (.fileInfo (.ofString "a/b")) := rfl
  obtain ⟨itself, _, next, same, different, present⟩ :=
    identity_of_locals (.stream 3) (.stream 3) (.stream 3) host held
  have alike := itself.mpr trivial
  exact ⟨held, next alike alike, same, different, present⟩

-- A serializer is not, and a branch on that goes the other way.
theorem serializer_unlike_itself :
    (Value.serializer "Book").isIdentical (.serializer "Book") = false ∧
      (Execution.call comparing 1 { files := {} } [] "Probe" []).2.2 = .ok (.text "other") ∧
      ¬∀ (host : Host) (context : Context) (name : String) (value : Value),
        context.frame.locals.get? name = some value →
          host.evaluate (.compare (.variable name) .same (.variable name)) context = .ok (.bool true) context := by
  refine ⟨rfl, rfl, ?_⟩
  intro reflexive
  have same := reflexive (Execution.host comparing 0) (holding (.serializer "Book")) "it" (.serializer "Book") rfl
  have differs : (Execution.host comparing 0).evaluate (.compare (.variable "it") .same (.variable "it"))
      (holding (.serializer "Book")) = .ok (.bool false) (holding (.serializer "Book")) := rfl
  cases differs.symm.trans same

end Host
end Companion
