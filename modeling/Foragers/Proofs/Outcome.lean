import Foragers.Fault

/-! # Outcomes

What a computation that may fail came to tells what its parts came to.
-/

namespace Foragers

variable {ε α β : Type}

theorem bind_eq_ok {first : Except ε α} {next : α → Except ε β} {result : β}
    (bound : first >>= next = .ok result) :
    ∃ value, first = .ok value ∧ next value = .ok result := by
  cases first with
  | error error => cases bound
  | ok value => exact ⟨value, rfl, bound⟩

theorem bind_eq_error {first : Except ε α} {next : α → Except ε β} {error : ε}
    (bound : first >>= next = .error error) :
    first = .error error ∨ ∃ value, first = .ok value ∧ next value = .error error := by
  cases first with
  | error other =>
      cases bound
      exact .inl rfl
  | ok value => exact .inr ⟨value, rfl, bound⟩

theorem exists_of_isOk {result : Except Fault α} (ok : result.isOk = true) :
    ∃ value, result = .ok value := by
  cases result with
  | error fault => cases ok
  | ok value => exact ⟨value, rfl⟩

theorem isOk_map (result : Except ε α) (change : α → β) :
    (result.map change).isOk = result.isOk := by
  cases result <;> rfl

theorem exists_of_isSome {result : Except Fault (Option α)}
    (found : result.toOption.join.isSome = true) : ∃ value, result = .ok (some value) := by
  cases result with
  | error fault => cases found
  | ok value =>
      cases value with
      | none => cases found
      | some value => exact ⟨value, rfl⟩

end Foragers
