namespace Daybook

variable {ε α β : Type}

/-- A sequence of two computations succeeds where both do. -/
theorem bind_eq_ok_iff {x : Except ε α} {f : α → Except ε β} {b : β} :
    (x >>= f) = .ok b ↔ ∃ a, x = .ok a ∧ f a = .ok b := by
  cases x <;> simp [bind, Except.bind]

/-- A result that is changed on the way out is there exactly if it was there before. -/
theorem map_eq_ok_iff {x : Except ε α} {f : α → β} {b : β} :
    x.map f = .ok b ↔ ∃ a, x = .ok a ∧ f a = b := by
  cases x <;> simp [Except.map]

/-- Errors under another name leave results as they are. -/
theorem mapError_eq_ok_iff {δ : Type} {x : Except ε α} {f : ε → δ} {a : α} :
    x.mapError f = .ok a ↔ x = .ok a := by
  cases x with
  | ok b =>
    change Except.ok b = Except.ok a ↔ Except.ok b = Except.ok a
    rw [Except.ok.injEq, Except.ok.injEq]
  | error cause => exact iff_of_false (fun h => by cases h) nofun

theorem toOption_eq_some_iff {x : Except ε α} {a : α} : x.toOption = some a ↔ x = .ok a := by
  cases x <;> simp [Except.toOption]

section Guards

variable {p : Prop} [Decidable p] {a b : α} {cause other : ε}

/-- A guarded result is there exactly if the guard holds. -/
theorem ite_eq_ok_iff :
    (if p then Except.ok a else Except.error cause) = Except.ok b ↔ p ∧ b = a := by
  by_cases hp : p <;> simp [hp, eq_comm]

/-- A guard that fails gives its own cause and no other. -/
theorem ite_eq_error_iff :
    (if p then Except.ok a else Except.error cause) = Except.error other ↔ ¬ p ∧ other = cause := by
  by_cases hp : p <;> simp [hp, eq_comm]

end Guards

end Daybook
