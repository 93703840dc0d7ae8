import Daybook.Proofs.Occurrence.Weekly

namespace Daybook.Occurrence

open Calendar

variable {reference anchor : Date}

/-- The last day of the year 9999 has the number 3652059. -/
theorem dayNumber_le_of_year_le {d : Date} (hyear : d.year ≤ 9999) : d.dayNumber ≤ 3652059 := by
  have hordinal := d.ordinal_le_yearLength
  have hnext := daysBeforeYear_succ d.year
  have hmono := daysBeforeYear_mono (show d.year + 1 ≤ 10000 by omega)
  have hend : daysBeforeYear 10000 = 3652059 := by decide
  unfold Date.dayNumber
  omega

private theorem exists_annual (hanchor : anchor.year ≤ 9999) (hreference : reference.year ≤ 9999) :
    ∃ d, Rule.FallsOn .annual anchor d ∧ reference < d := by
  have hlow := anchor.isDate.1.1
  have hyears : minYear ≤ max anchor.year reference.year + 1 ∧
      max anchor.year reference.year + 1 ≤ maxYear := by
    simp only [maxYear]
    omega
  refine ⟨⟨_, _, _, anchor.isDate_anniversary hyears⟩, ⟨?_, rfl⟩, .inl ?_⟩ <;> dsimp only <;> omega

private theorem exists_interval {days : Nat} (hrule : Rule.WellFormed (.interval days))
    (hanchor : anchor.dayNumber ≤ 3652059) (hreference : reference.dayNumber ≤ 3652059) :
    ∃ d, Rule.FallsOn (.interval days) anchor d ∧ reference < d := by
  obtain ⟨hpos, hmax⟩ := hrule
  simp only [Rule.maxInterval] at hmax
  have hlast := Date.dayNumber_last
  obtain ⟨elapsed, helapsed⟩ : ∃ elapsed : Nat, elapsed = (anchor.daysUntil reference).toNat := ⟨_, rfl⟩
  have hpast := Nat.lt_mul_div_succ elapsed hpos
  have hstep : days * (elapsed / days + 1) ≤ elapsed + days := by
    have hquotient := Nat.mul_div_le elapsed days
    rw [Nat.mul_succ]
    omega
  unfold Date.daysUntil at helapsed
  obtain ⟨d, hd⟩ := anchor.exists_dayNumber (days * (elapsed / days + 1)) (by omega)
  refine ⟨d, ⟨elapsed / days + 1, Nat.le_add_left 1 _, ?_⟩, ?_⟩
  · rw [hd, Nat.mul_comm]
    push_cast
    rfl
  · rw [Date.lt_iff_dayNumber]
    omega

/-- A weekly rule is never searched to the end. -/
theorem exists_weekly {weekdays : NumberSet} (hrule : Rule.WellFormed (.weekly weekdays))
    (hanchor : anchor.dayNumber ≤ 3652059) (hreference : reference.dayNumber ≤ 3652059) :
    ∃ d, Rule.FallsOn (.weekly weekdays) anchor d ∧ reference < d ∧
      d ∈ Date.run weeklySearchDays (anchor.later reference) := by
  obtain ⟨hsome, hrange⟩ := hrule
  obtain ⟨weekday, hweekday⟩ := List.exists_mem_of_ne_nil _ hsome
  have hstart := Date.dayNumber_later anchor reference
  have hlast := Date.dayNumber_last
  obtain ⟨d, hfalls, hafter, hmem, _⟩ :=
    exists_listed_near reference anchor hweekday (hrange weekday hweekday) (by omega)
  exact ⟨d, hfalls, hafter, hmem⟩

/-- A rule that is not monthly has a date after the reference that is found. -/
theorem exists_fallsOn {rule : Rule} (hrule : rule.WellFormed)
    (hmonthly : ∀ days months, rule ≠ .monthly days months)
    (hanchor : anchor.year ≤ 9999) (hreference : reference.year ≤ 9999) :
    ∃ d, rule.FallsOn anchor d ∧ reference < d ∧ rule.Reaches (anchor.later reference) d := by
  have hanchorNumber := dayNumber_le_of_year_le hanchor
  have hreferenceNumber := dayNumber_le_of_year_le hreference
  cases rule with
  | annual =>
    obtain ⟨d, hfalls, hafter⟩ := exists_annual hanchor hreference
    exact ⟨d, hfalls, hafter, fun count hcount => nomatch hcount⟩
  | interval days =>
    obtain ⟨d, hfalls, hafter⟩ := exists_interval hrule hanchorNumber hreferenceNumber
    exact ⟨d, hfalls, hafter, fun count hcount => nomatch hcount⟩
  | weekly weekdays =>
    obtain ⟨d, hfalls, hafter, hmem⟩ := exists_weekly hrule hanchorNumber hreferenceNumber
    refine ⟨d, hfalls, hafter, fun count hcount => ?_⟩
    cases hcount
    exact hmem
  | monthly days months => exact absurd rfl (hmonthly days months)

end Daybook.Occurrence
