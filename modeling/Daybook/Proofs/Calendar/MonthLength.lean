import Daybook.Proofs.Calendar.Succession

namespace Daybook

namespace Calendar

/-- All months but February have the same length in any two years. -/
theorem monthLength_eq_of_ne_two (year other : Int) {month : Nat} (hmonth : month ≠ 2) :
    monthLength year month = monthLength other month := by
  unfold monthLength
  split <;> grind

/-- The day before the first of the next month is the last of the month. -/
theorem daysInMonth?_eq_some {year : Int} {month : Nat} (hyear : minYear ≤ year ∧ year ≤ maxYear)
    (hmonth : 1 ≤ month ∧ month ≤ 12) (hlast : ¬ (year = maxYear ∧ month = 12)) :
    daysInMonth? year month = some (monthLength year month) := by
  unfold daysInMonth?
  rw [if_pos hmonth]
  by_cases hdecember : month = 12
  · subst hdecember
    have hnext : IsDate (year + 1) 1 1 := ⟨by omega, Nat.le_refl 1, show 1 ≤ 31 by omega⟩
    have hlastDay : IsDate year 12 31 := ⟨hyear, by omega, Nat.le_refl 31⟩
    have hfirst : Date.ofYmd? (year + 1) 1 1 = some ⟨year + 1, 1, 1, hnext⟩ := dif_pos hnext
    have hpred : Date.pred? ⟨year + 1, 1, 1, hnext⟩ = some ⟨year, 12, 31, hlastDay⟩ := by
      simp only [Date.pred?, Nat.lt_irrefl, if_false, Int.add_sub_cancel]
      exact dif_pos hlastDay
    simp only [if_true, hfirst, Option.bind_some, hpred, Option.map_some]
    rfl
  · have hlength := le_monthLength year hmonth.1 hmonth.2
    have hnextLength := le_monthLength year (show 1 ≤ month + 1 by omega) (by omega)
    have hnext : IsDate year (month + 1) 1 := ⟨hyear, Nat.le_refl 1, by omega⟩
    have hlastDay : IsDate year month (monthLength year month) := ⟨hyear, by omega, Nat.le_refl _⟩
    have hfirst : Date.ofYmd? year (month + 1) 1 = some ⟨year, month + 1, 1, hnext⟩ := dif_pos hnext
    have hpred : Date.pred? ⟨year, month + 1, 1, hnext⟩ =
        some ⟨year, month, monthLength year month, hlastDay⟩ := by
      simp only [Date.pred?, Nat.lt_irrefl, if_false, if_pos (show 1 < month + 1 by omega),
        Nat.add_sub_cancel]
      exact dif_pos hlastDay
    simp only [if_neg hdecember, hfirst, Option.bind_some, hpred, Option.map_some]

/-- The days that a month has in a common year, as year 1 is one. -/
def leastLength (month : Nat) : Nat :=
  monthLength 1 month

/-- A month has its least length, and February one day more in leap years. -/
theorem monthLength_eq (year : Int) (month : Nat) :
    monthLength year month = leastLength month + if month = 2 ∧ isLeapYear year = true then 1 else 0 := by
  unfold leastLength
  by_cases hmonth : month = 2
  · subst hmonth
    have hcommon : isLeapYear 1 = false := by decide
    simp only [monthLength, hcommon]
    cases isLeapYear year <;> rfl
  · rw [if_neg (fun h => hmonth h.1), monthLength_eq_of_ne_two year 1 hmonth]
    rfl

/-- No year has a month that is shorter than its least length. -/
theorem leastLength_le (year : Int) (month : Nat) : leastLength month ≤ monthLength year month := by
  rw [monthLength_eq]
  exact Nat.le_add_right _ _

/-- A leap day moves the months after February on by one day. -/
theorem daysBeforeMonth_eq (year : Int) (month : Nat) :
    daysBeforeMonth year month =
      daysBeforeMonth 1 month + if 2 < month ∧ isLeapYear year = true then 1 else 0 := by
  induction month with
  | zero => rfl
  | succ month ih =>
    simp only [daysBeforeMonth, ih, monthLength_eq year month]
    change _ = daysBeforeMonth 1 month + leastLength month + _
    cases isLeapYear year <;> grind

/-- No two years in a row are leap years. -/
theorem not_isLeapYear_succ {year : Int} (hleap : isLeapYear year = true) : isLeapYear (year + 1) = false := by
  rw [← Bool.not_eq_true, isLeapYear_iff]
  rw [isLeapYear_iff] at hleap
  omega

end Calendar

namespace Date

open Calendar

/-- A year later, a date of the month and a date as far from the end of the month come at most 366 days
later. -/
theorem dayNumber_le_of_next_year {a b : Date} (hyear : b.year = a.year + 1) (hmonth : b.month = a.month)
    (hday : b.day = a.day ∨
      b.day + monthLength a.year a.month = a.day + monthLength b.year b.month) :
    b.dayNumber ≤ a.dayNumber + 366 := by
  have hnext := daysBeforeYear_succ a.year
  have hlength := yearLength_eq a.year
  have hsucc := @not_isLeapYear_succ a.year
  simp only [dayNumber, ordinal]
  rw [hyear, hmonth] at *
  rw [daysBeforeMonth_eq (a.year + 1), daysBeforeMonth_eq a.year]
  rw [monthLength_eq a.year, monthLength_eq (a.year + 1)] at hday
  cases ha : isLeapYear a.year <;> cases hb : isLeapYear (a.year + 1) <;>
    simp only [ha, hb, and_true, and_false, if_false, Bool.false_eq_true, if_true] at * <;> grind

/-- Dates that come in every year, at most 366 days apart, come within 366 days of any day. -/
theorem exists_within_year {P : Date → Prop} (start : Date) (hend : start.year < maxYear)
    (hyearly : ∀ year, minYear ≤ year ∧ year ≤ maxYear → ∃ d : Date, d.year = year ∧ P d)
    (hgap : ∀ a b : Date, P a → P b → b.year = a.year + 1 → b.dayNumber ≤ a.dayNumber + 366) :
    ∃ d, P d ∧ start < d ∧ d.dayNumber ≤ start.dayNumber + 366 := by
  have hfirst := start.isDate.1
  obtain ⟨a, ha, hPa⟩ := hyearly start.year hfirst
  by_cases hafter : start < a
  · refine ⟨a, hPa, hafter, ?_⟩
    have hlength := yearLength_eq start.year
    have hpos := start.ordinal_pos
    have hle := a.ordinal_le_yearLength
    rw [ha] at hle
    simp only [dayNumber, ha]
    split at hlength <;> omega
  · obtain ⟨b, hb, hPb⟩ := hyearly (start.year + 1) (by omega)
    refine ⟨b, hPb, .inl (by omega), ?_⟩
    have hstep := hgap a b hPa hPb (by omega)
    rw [Std.not_lt, le_iff_dayNumber] at hafter
    omega

end Date

end Daybook
