import Ghostwriter.Failure.Basic

/-!
How results are taken apart: one step after another, or a failure that is told in other words.
-/

namespace Ghostwriter

variable {α β ε : Type} {result : Except ε α}

theorem ok_of_toOption {a : α} (h : result.toOption = some a) : result = .ok a := by
  cases result with
  | error e => cases h
  | ok b => rw [Option.some.inj h]

variable {next : α → Except ε β}

theorem bind_eq_ok {b : β} : result >>= next = .ok b ↔ ∃ a, result = .ok a ∧ next a = .ok b := by
  cases result with
  | error e => simp [bind, Except.bind]
  | ok a => simp [bind, Except.bind]

-- A failure comes from the first step, or from the next one.
theorem bind_eq_error {e : ε} :
    result >>= next = .error e ↔ result = .error e ∨ ∃ a, result = .ok a ∧ next a = .error e := by
  cases result with
  | error e' => simp [bind, Except.bind]
  | ok a => simp [bind, Except.bind]

variable {ε' : Type} {words : ε → ε'}

theorem mapError_eq_ok {a : α} : result.mapError words = .ok a ↔ result = .ok a := by
  constructor
  · intro h
    cases result with
    | error e => cases h
    | ok b => rw [Except.ok.inj h]
  · rintro rfl
    rfl

theorem mapError_eq_error {e' : ε'} :
    result.mapError words = .error e' ↔ ∃ e, result = .error e ∧ words e = e' := by
  constructor
  · intro h
    cases result with
    | error e => exact ⟨e, rfl, Except.error.inj h⟩
    | ok a => cases h
  · rintro ⟨e, rfl, rfl⟩
    rfl

end Ghostwriter
