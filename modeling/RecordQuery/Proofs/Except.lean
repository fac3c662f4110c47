/-!
# Programs that may fail

`bind_eq_ok` takes a program that succeeds apart into its steps.
-/

namespace RecordQuery

variable {ε α β : Type}

/-- A program succeeds if its first step does and the rest succeeds on what that returns. -/
theorem bind_eq_ok {x : Except ε α} {f : α → Except ε β} {b : β} :
    x >>= f = .ok b ↔ ∃ a, x = .ok a ∧ f a = .ok b := by
  cases x with
  | error e => exact ⟨nofun, nofun⟩
  | ok a =>
    constructor
    · exact fun h => ⟨a, rfl, h⟩
    · rintro ⟨_, ha, h⟩
      cases ha
      exact h

end RecordQuery
