/-
This file takes apart computations that may fail: where a computation made of parts succeeds, its
parts do.
-/

namespace ChatFlow

variable {α β ε : Type}

theorem exists_of_map_eq_ok {change : α → β} {result : Except ε α} {value : β}
    (mapped : change <$> result = .ok value) :
    ∃ found, result = .ok found ∧ change found = value := by
  cases result with
  | error reason => cases mapped
  | ok found => exact ⟨found, rfl, Except.ok.inj mapped⟩

theorem exists_of_bind_eq_ok {result : Except ε α} {next : α → Except ε β} {value : β}
    (bound : result >>= next = .ok value) :
    ∃ found, result = .ok found ∧ next found = .ok value := by
  cases result with
  | error reason => cases bound
  | ok found => exact ⟨found, rfl, bound⟩

theorem of_mapError_eq_ok {φ : Type} {change : ε → φ} {result : Except ε α} {value : α}
    (mapped : result.mapError change = .ok value) : result = .ok value := by
  cases result with
  | error reason => cases mapped
  | ok found => exact congrArg Except.ok (Except.ok.inj mapped)

end ChatFlow
