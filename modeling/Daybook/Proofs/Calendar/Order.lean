import Daybook.Calendar.DayNumber
import Daybook.Calendar.Moment
import Mathlib.Tactic.ByContra

namespace Daybook

namespace Calendar

def yearLength (year : Int) : Nat :=
  daysBeforeMonth year 13

/-- Only the months 1 to 12 have days. -/
theorem isMonth_of_isDate {year : Int} {month day : Nat} (hdate : IsDate year month day) :
    1 ≤ month ∧ month ≤ 12 := by
  obtain ⟨_, hone, hlength⟩ := hdate
  by_contra hmonth
  have hzero : monthLength year month = 0 := by
    unfold monthLength
    split <;> omega
  omega

/-- No month has more than 31 days, whatever its number is. -/
theorem monthLength_le (year : Int) (month : Nat) : monthLength year month ≤ 31 := by
  unfold monthLength
  split <;> (try split) <;> omega

/-- Every month has 28 days at least. -/
theorem le_monthLength (year : Int) {month : Nat} (hfirst : 1 ≤ month) (hlast : month ≤ 12) :
    28 ≤ monthLength year month := by
  unfold monthLength
  split <;> grind

/-- The days before the first of a month grow with the month, also past the last one. -/
theorem daysBeforeMonth_mono (year : Int) {m n : Nat} (hle : m ≤ n) :
    daysBeforeMonth year m ≤ daysBeforeMonth year n := by
  induction hle with
  | refl => exact Nat.le_refl _
  | step _ ih => exact Nat.le_trans ih (Nat.le_add_right _ _)

/-- The truncating remainders of the test for leap years are 0 exactly where the flooring ones are,
also in negative years. -/
theorem isLeapYear_iff (year : Int) :
    isLeapYear year = true ↔ year % 4 = 0 ∧ (year % 100 ≠ 0 ∨ year % 400 = 0) := by
  simp only [isLeapYear, Bool.and_eq_true, Bool.or_eq_true, beq_iff_eq, bne_iff_ne]
  rw [← Int.dvd_iff_tmod_eq_zero]
  grind

/-- A year has 366 days if it is a leap year, and 365 otherwise. -/
theorem yearLength_eq (year : Int) :
    yearLength year = if isLeapYear year then 366 else 365 := by
  simp only [yearLength, daysBeforeMonth, monthLength]
  split <;> rfl

/-- The count of the days before a year goes on by the length of the year. -/
theorem daysBeforeYear_succ (year : Int) :
    daysBeforeYear (year + 1) = daysBeforeYear year + yearLength year := by
  rw [yearLength_eq]
  simp only [daysBeforeYear]
  have hleap := isLeapYear_iff year
  split <;> rename_i h <;> grind

/-- The days before a year grow with the year, below year 1 too. -/
theorem daysBeforeYear_mono {a b : Int} (hle : a ≤ b) : daysBeforeYear a ≤ daysBeforeYear b := by
  simp only [daysBeforeYear]
  omega

end Calendar

namespace Date

open Calendar

/-- The days of a year are counted from 1. -/
theorem ordinal_pos (d : Date) : 1 ≤ d.ordinal := by
  have hday := d.isDate.2.1
  unfold ordinal
  omega

/-- A date comes before the first of the month after its own. -/
theorem ordinal_le_daysBeforeMonth (d : Date) :
    d.ordinal ≤ daysBeforeMonth d.year (d.month + 1) := by
  have hday := d.isDate.2.2
  simp only [ordinal, daysBeforeMonth]
  omega

/-- The day of the year is within the length of the year. -/
theorem ordinal_le_yearLength (d : Date) : d.ordinal ≤ yearLength d.year := by
  have hmonth := isMonth_of_isDate d.isDate
  exact Nat.le_trans d.ordinal_le_daysBeforeMonth (daysBeforeMonth_mono d.year (by omega))

/-- Within a year, days of the year are ordered as months and days of the month are. -/
theorem ordinal_lt_ordinal_iff {a b : Date} (hyear : a.year = b.year) :
    a.ordinal < b.ordinal ↔ a.month < b.month ∨ a.month = b.month ∧ a.day < b.day := by
  have ha := a.ordinal_le_daysBeforeMonth
  have hb := b.ordinal_le_daysBeforeMonth
  have hafirst := a.isDate.2.1
  have hbfirst := b.isDate.2.1
  unfold ordinal at *
  rw [hyear] at *
  rcases Nat.lt_trichotomy a.month b.month with hmonth | hmonth | hmonth
  · have hmono := daysBeforeMonth_mono b.year (show a.month + 1 ≤ b.month from hmonth)
    omega
  · rw [hmonth]
    omega
  · have hmono := daysBeforeMonth_mono b.year (show b.month + 1 ≤ a.month from hmonth)
    omega

/-- Dates are in the order of their numbers. -/
theorem lt_iff_dayNumber {a b : Date} : a < b ↔ a.dayNumber < b.dayNumber := by
  have ha := a.ordinal_le_yearLength
  have hb := b.ordinal_le_yearLength
  have hafirst := a.ordinal_pos
  have hbfirst := b.ordinal_pos
  have hanext := daysBeforeYear_succ a.year
  have hbnext := daysBeforeYear_succ b.year
  change a.year < b.year ∨ (a.year = b.year ∧ a.ordinal < b.ordinal) ↔ _
  unfold dayNumber
  rcases Int.lt_trichotomy a.year b.year with hyear | hyear | hyear
  · have hmono := daysBeforeYear_mono (show a.year + 1 ≤ b.year from hyear)
    omega
  · rw [hyear]
    omega
  · have hmono := daysBeforeYear_mono (show b.year + 1 ≤ a.year from hyear)
    omega

/-- Dates are in the order of their numbers, equal ones included. -/
theorem le_iff_dayNumber {a b : Date} : a ≤ b ↔ a.dayNumber ≤ b.dayNumber := by
  have hle : a ≤ b ↔ ¬ b < a := by
    change a.year < b.year ∨ (a.year = b.year ∧ a.ordinal ≤ b.ordinal) ↔
      ¬ (b.year < a.year ∨ (b.year = a.year ∧ b.ordinal < a.ordinal))
    omega
  rw [hle, lt_iff_dayNumber]
  omega

/-- The sign of the days from one date to another tells which of the two is earlier. -/
theorem daysUntil_pos_iff {a b : Date} : 0 < a.daysUntil b ↔ a < b := by
  rw [lt_iff_dayNumber, daysUntil]
  omega

/-- The days until a date are negative exactly if it is the earlier one. -/
theorem daysUntil_neg_iff {a b : Date} : a.daysUntil b < 0 ↔ b < a := by
  rw [lt_iff_dayNumber, daysUntil]
  omega

/-- Years, then months, then days decide which of two dates is earlier. -/
theorem lt_iff_lex {a b : Date} :
    a < b ↔ a.year < b.year ∨ (a.year = b.year ∧
      (a.month < b.month ∨ (a.month = b.month ∧ a.day < b.day))) := by
  change a.year < b.year ∨ (a.year = b.year ∧ a.ordinal < b.ordinal) ↔ _
  by_cases hyear : a.year = b.year
  · rw [ordinal_lt_ordinal_iff hyear]
  · simp only [hyear, false_and]

/-- A date is known by its number. -/
theorem dayNumber_inj {a b : Date} : a.dayNumber = b.dayNumber ↔ a = b := by
  refine ⟨fun hnumber => ?_, fun h => h ▸ rfl⟩
  have hab : ¬ a < b := by
    rw [lt_iff_dayNumber]
    omega
  have hba : ¬ b < a := by
    rw [lt_iff_dayNumber]
    omega
  rw [lt_iff_lex] at hab hba
  obtain ⟨ya, ma, da, _⟩ := a
  obtain ⟨yb, mb, db, _⟩ := b
  simp only [mk.injEq] at *
  omega

instance : Std.IsLinearOrder Date where
  le_refl d := le_iff_dayNumber.mpr (Int.le_refl _)
  le_trans a b c hab hbc := by
    rw [le_iff_dayNumber] at *
    exact Int.le_trans hab hbc
  le_antisymm a b hab hba := by
    rw [le_iff_dayNumber] at *
    exact dayNumber_inj.mp (Int.le_antisymm hab hba)
  le_total a b := by
    rw [le_iff_dayNumber, le_iff_dayNumber]
    exact Int.le_total _ _

instance : Std.LawfulOrderLT Date where
  lt_iff a b := by
    rw [lt_iff_dayNumber, le_iff_dayNumber, le_iff_dayNumber]
    omega

/-- The test for a later day is the order of dates. -/
theorem strictlyAfter_iff {a b : Date} : a.strictlyAfter b = true ↔ b < a := by
  rw [lt_iff_lex]
  change (decide (b.year < a.year) || (b.year == a.year && (decide (b.month < a.month) ||
    (b.month == a.month && decide (b.day < a.day))))) = true ↔ _
  simp only [Bool.or_eq_true, Bool.and_eq_true, beq_iff_eq, decide_eq_true_eq]

/-- The later of two dates has the larger of their numbers. -/
theorem dayNumber_later (a b : Date) :
    (a.later b).dayNumber = max a.dayNumber b.dayNumber := by
  unfold later
  split <;> rename_i hle <;> rw [le_iff_dayNumber] at hle <;> omega

/-- The later of two dates is not after a third exactly if neither is. -/
theorem later_le_iff {a b d : Date} : a.later b ≤ d ↔ a ≤ d ∧ b ≤ d := by
  rw [le_iff_dayNumber, le_iff_dayNumber, le_iff_dayNumber, dayNumber_later]
  omega

/-- Neither of two dates is after the later of them. -/
theorem le_later (a b : Date) : a ≤ a.later b ∧ b ≤ a.later b :=
  later_le_iff.mp (Std.le_refl _)

end Date

end Daybook
