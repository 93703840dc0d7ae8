import Daybook.Proofs.Occurrence.Dates
import Mathlib.Order.Bounds.Defs

namespace Daybook.Occurrence

open Calendar

/-- A step forward comes to the date with the number so much larger, if the calendar has it. No step
within the calendar is too wide. -/
theorem addDays?_eq_some_iff {d e : Date} {days : Nat} :
    d.addDays? days = some e ↔ e.dayNumber = d.dayNumber + days := by
  unfold Date.addDays?
  split
  · rw [Date.ofDayNumber?_eq_some_iff]
  · rename_i hwide
    have hfirst := d.lt_dayNumber
    have hlast := e.le_last
    have hmin : daysBeforeYear minYear = -95746130 := by decide
    have hmax := Date.dayNumber_last
    simp only [reduceCtorEq, false_iff]
    simp only [maxStep] at hwide
    omega

/-- The steps that lead past a reference are counted right: they do lead past it, and no fewer than
them do. -/
theorem intervalSteps_spec {elapsed : Int} {interval : Nat} (hmoves : ¬ (interval = 0 ∧ 0 ≤ elapsed)) :
    1 ≤ intervalSteps elapsed interval ∧
      elapsed < intervalSteps elapsed interval * interval ∧
      ∀ steps : Int, 1 ≤ steps → elapsed < steps * interval → intervalSteps elapsed interval ≤ steps := by
  unfold intervalSteps
  split
  · rename_i hneg
    exact ⟨Int.le_refl 1, by omega, fun steps hsteps _ => hsteps⟩
  · have hpos : (0 : Int) < interval := by omega
    have hquotient : 0 ≤ elapsed / interval := Int.ediv_nonneg (by omega) (by omega)
    refine ⟨by omega, Int.lt_ediv_add_one_mul_self elapsed hpos, fun steps _ hafter => ?_⟩
    have hlt := Int.ediv_lt_of_lt_mul hpos hafter
    omega

/-- The next occurrence of an interval rule is as many intervals from the anchor as are the fewest, but at
least one, that lead past the reference, if the calendar reaches so far. -/
theorem nextInterval_eq {reference anchor : Date} {interval : Nat}
    (hmoves : ¬ (interval = 0 ∧ 0 ≤ anchor.daysUntil reference)) :
    ∃ steps : Nat,
      IsLeast {steps : Nat | 1 ≤ steps ∧ reference.dayNumber < anchor.dayNumber + steps * interval} steps ∧
        nextInterval reference anchor interval =
          match anchor.addDays? (steps * interval) with
          | some next => .ok next
          | none => .error (.internal (.stepOutside (steps * interval) anchor)) := by
  have helapsed : anchor.daysUntil reference = reference.dayNumber - anchor.dayNumber := rfl
  obtain ⟨hone, hpast, hfewest⟩ := intervalSteps_spec hmoves
  unfold nextInterval
  dsimp only
  rw [if_neg hmoves]
  generalize intervalSteps (anchor.daysUntil reference) interval = steps at *
  obtain ⟨steps, rfl⟩ := Int.eq_ofNat_of_zero_le (show 0 ≤ steps by omega)
  have hoffset : ((steps : Int) * interval).toNat = steps * interval := by
    rw [← Int.natCast_mul, Int.toNat_natCast]
  rw [hoffset]
  refine ⟨steps, ⟨⟨by omega, by omega⟩, ?_⟩, rfl⟩
  rintro others ⟨hothers, hafter⟩
  have hle := hfewest others (by omega) (by omega)
  exact Int.ofNat_le.mp hle

/-- The next occurrence of an interval rule is its next date, and there is none only where the rule has
no date after the reference. -/
theorem nextInterval_spec (reference anchor : Date) (interval : Nat) :
    (∃ d, nextInterval reference anchor interval = .ok d ∧
        Rule.IsNext (.interval interval) reference anchor d) ∨
      (∃ cause, nextInterval reference anchor interval = .error cause ∧
        ∀ d, Rule.FallsOn (.interval interval) anchor d → ¬ reference < d) := by
  by_cases hstays : interval = 0 ∧ 0 ≤ anchor.daysUntil reference
  · right
    refine ⟨.internal .zeroInterval, if_pos hstays, ?_⟩
    obtain ⟨rfl, helapsed⟩ := hstays
    rintro d ⟨steps, _, hnumber⟩ hafter
    rw [Int.natCast_zero, Int.mul_zero, Int.add_zero, Date.dayNumber_inj] at hnumber
    subst hnumber
    exact Int.not_lt.mpr helapsed (Date.daysUntil_neg_iff.mpr hafter)
  · obtain ⟨steps, ⟨⟨hone, hpast⟩, hfewest⟩, hnext⟩ := nextInterval_eq hstays
    have hfirst (e : Date) (he : Rule.FallsOn (.interval interval) anchor e) (hre : reference < e) :
        anchor.dayNumber + (steps * interval : Nat) ≤ e.dayNumber := by
      obtain ⟨others, hothers, hnumber⟩ := he
      rw [Date.lt_iff_dayNumber, hnumber] at hre
      have hmul := Nat.mul_le_mul_right interval (hfewest ⟨hothers, hre⟩)
      rw [hnumber]
      exact_mod_cast Int.add_le_add_left (Int.ofNat_le.mpr hmul) anchor.dayNumber
    rw [hnext]
    cases hmove : anchor.addDays? (steps * interval) with
    | some d =>
      left
      have hnumber := addDays?_eq_some_iff.mp hmove
      refine ⟨d, rfl, ⟨steps, hone, by rw [hnumber]; push_cast; rfl⟩, ?_, fun e he hre => ?_⟩
      · rw [Date.lt_iff_dayNumber, hnumber]
        exact_mod_cast hpast
      · rw [Date.le_iff_dayNumber, hnumber]
        exact hfirst e he hre
    | none =>
      right
      refine ⟨_, rfl, fun e he hre => ?_⟩
      have hlast := e.le_last
      have hbound := hfirst e he hre
      obtain ⟨d, hd⟩ := Date.exists_dayNumber anchor (steps * interval) (by omega)
      rw [addDays?_eq_some_iff.mpr hd] at hmove
      cases hmove

end Daybook.Occurrence
