/-!
# Results that may be errors

What the parts of a computation gave when the whole gave a value, or failed.
-/
namespace Phrasebook

variable {ε ε' α β : Type}

theorem bind_eq_ok {first : Except ε α} {next : α → Except ε β} {b : β}
    (done : (first >>= next) = .ok b) : ∃ a, first = .ok a ∧ next a = .ok b := by
  cases first with
  | error e => cases done
  | ok a => exact ⟨a, rfl, done⟩

theorem map_eq_ok_iff {result : Except ε α} {f : α → β} {b : β} :
    result.map f = .ok b ↔ ∃ a, result = .ok a ∧ f a = b := by
  cases result <;> simp [Except.map]

theorem map_eq_error_iff {result : Except ε α} {f : α → β} {e : ε} :
    result.map f = .error e ↔ result = .error e := by
  cases result <;> simp [Except.map]

/-- Wording an error anew leaves values as they are. -/
theorem mapError_eq_ok_iff {result : Except ε α} {f : ε → ε'} {a : α} :
    result.mapError f = .ok a ↔ result = .ok a := by
  cases result with
  | error fault => exact ⟨nofun, nofun⟩
  | ok b =>
    constructor
    · rintro ⟨⟩
      rfl
    · rintro ⟨⟩
      rfl

theorem mapError_eq_error_iff {result : Except ε α} {f : ε → ε'} {e : ε'} :
    result.mapError f = .error e ↔ ∃ fault, result = .error fault ∧ f fault = e := by
  cases result with
  | error fault =>
    constructor
    · intro failed
      exact ⟨fault, rfl, Except.error.inj failed⟩
    · rintro ⟨_, ⟨⟩, rfl⟩
      rfl
  | ok a =>
    constructor
    · exact nofun
    · rintro ⟨_, ⟨⟩, -⟩

end Phrasebook
