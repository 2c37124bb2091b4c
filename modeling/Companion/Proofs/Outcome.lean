/-!
Outcomes that may be errors: what a sequence that succeeded says of its parts.
-/
set_option autoImplicit false

namespace Companion

variable {ε α β : Type}

theorem ok_of_bind {first : Except ε α} {next : α → Except ε β} {result : β}
    (ran : (first >>= next) = .ok result) : ∃ value, first = .ok value ∧ next value = .ok result := by
  cases first with
  | error error => cases ran
  | ok value => exact ⟨value, rfl, ran⟩

theorem bind_eq_ok {first : Except ε α} {next : α → Except ε β} {result : β} :
    (first >>= next) = .ok result ↔ ∃ value, first = .ok value ∧ next value = .ok result := by
  constructor
  · exact ok_of_bind
  · rintro ⟨value, done, behind⟩
    rw [done]
    exact behind

@[simp] theorem map_error_ok (change : ε → α) (value : β) :
    (Except.ok value : Except ε β).mapError change = .ok value := rfl

@[simp] theorem map_error_error (change : ε → α) (error : ε) :
    (Except.error error : Except ε β).mapError change = .error (change error) := rfl

theorem map_error_eq_ok {change : ε → α} {outcome : Except ε β} {result : β} :
    outcome.mapError change = .ok result ↔ outcome = .ok result := by
  cases outcome with
  | error error => simp
  | ok value => simp

theorem fold_append_eq_ok {step : β → α → Except ε β} {front back : List α} {state last : β} :
    (front ++ back).foldlM step state = .ok last ↔
      ∃ between, front.foldlM step state = .ok between ∧ back.foldlM step between = .ok last := by
  rw [List.foldlM_append, bind_eq_ok]

end Companion
