import Daybook.Proofs.Calendar.Order

namespace Daybook

namespace Calendar

/-- The year of a day is the one whose days reach from before its number up to it. -/
theorem yearOfDay?_eq_some_iff {number year : Int} :
    yearOfDay? number = some year ↔
      daysBeforeYear year < number ∧ number ≤ daysBeforeYear (year + 1) := by
  constructor
  · intro hyear
    have hfound := List.find?_some hyear
    simpa using hfound
  · intro ⟨hlow, hhigh⟩
    have honly (other : Int) (hother : daysBeforeYear other < number)
        (hnext : number ≤ daysBeforeYear (other + 1)) : other = year := by
      by_contra hne
      rcases Int.lt_or_gt_of_ne hne with hlt | hgt
      · have hmono := daysBeforeYear_mono (show other + 1 ≤ year from hlt)
        omega
      · have hmono := daysBeforeYear_mono (show year + 1 ≤ other from hgt)
        omega
    -- 400 years have 146097 days, so an estimate by their mean length is off by less than a year.
    have hnear : 400 * (number - 1) / 146097 + 1 = year ∨
        400 * (number - 1) / 146097 + 1 - 1 = year ∨
        400 * (number - 1) / 146097 + 1 + 1 = year := by
      simp only [daysBeforeYear] at hlow hhigh
      omega
    have hyear : (decide (daysBeforeYear year < number) &&
        decide (number ≤ daysBeforeYear (year + 1))) = true := by simp [hlow, hhigh]
    cases hfound : yearOfDay? number with
    | none =>
      have hnone := List.find?_eq_none.mp hfound year (by simpa [eq_comm] using hnear)
      exact absurd hyear hnone
    | some other =>
      have hother := List.find?_some hfound
      simp only [Bool.and_eq_true, decide_eq_true_eq] at hother
      rw [honly other hother.1 hother.2]

end Calendar

namespace Date

open Calendar

/-- A date is made from its parts exactly where it has these parts. -/
theorem ofYmd?_eq_some_iff {year : Int} {month day : Nat} {d : Date} :
    ofYmd? year month day = some d ↔ d.year = year ∧ d.month = month ∧ d.day = day := by
  unfold ofYmd?
  constructor
  · intro hmade
    split at hmade
    · cases hmade
      exact ⟨rfl, rfl, rfl⟩
    · cases hmade
  · rintro ⟨rfl, rfl, rfl⟩
    rw [dif_pos d.isDate]

/-- No date is made of numbers that are none of the calendar. -/
theorem ofYmd?_eq_none_iff {year : Int} {month day : Nat} :
    ofYmd? year month day = none ↔ ¬ IsDate year month day := by
  unfold ofYmd?
  split <;> simp_all

/-- The last day of the calendar. -/
def last : Date :=
  ⟨maxYear, 12, 31, by decide⟩

/-- The calendar ends on day 95745399. -/
theorem dayNumber_last : last.dayNumber = 95745399 := by decide

/-- No date has a number past that of the last day. -/
theorem le_last (d : Date) : d.dayNumber ≤ last.dayNumber := by
  by_contra hlater
  have hlt : last < d := lt_iff_dayNumber.mpr (by omega)
  rw [lt_iff_lex] at hlt
  have hyear := d.isDate.1.2
  have hmonth := isMonth_of_isDate d.isDate
  have hday := Nat.le_trans d.isDate.2.2 (monthLength_le d.year d.month)
  simp only [last] at hlt
  omega

/-- Every date has a number past that of the day before the first year. -/
theorem lt_dayNumber (d : Date) : daysBeforeYear minYear < d.dayNumber := by
  have hyear := daysBeforeYear_mono d.isDate.1.1
  have hpos := d.ordinal_pos
  unfold dayNumber
  omega

/-- Each day but the last has a day after it, which has the next number. -/
theorem succ?_spec (d : Date) :
    (∃ next, d.succ? = some next ∧ next.dayNumber = d.dayNumber + 1) ∨
      (d.succ? = none ∧ d = last) := by
  obtain ⟨year, month, day, hdate⟩ := d
  obtain ⟨hyears, hone, hlength⟩ := hdate
  obtain ⟨hfirst, htwelve⟩ := isMonth_of_isDate ⟨hyears, hone, hlength⟩
  simp only [succ?]
  by_cases hday : IsDate year month (day + 1)
  · left
    refine ⟨⟨year, month, day + 1, hday⟩, by simp only [ofYmd?, dif_pos hday]; rfl, ?_⟩
    simp only [dayNumber, ordinal]
    omega
  have hend : day = monthLength year month := by
    by_contra hne
    exact hday ⟨hyears, by omega, by omega⟩
  by_cases hmonth : IsDate year (month + 1) 1
  · left
    refine ⟨⟨year, month + 1, 1, hmonth⟩, by simp only [ofYmd?, dif_neg hday, dif_pos hmonth]; rfl, ?_⟩
    simp only [dayNumber, ordinal, daysBeforeMonth]
    omega
  have hdecember : month = 12 := by
    by_contra hne
    have hnext := le_monthLength year (show 1 ≤ month + 1 by omega) (by omega)
    exact hmonth ⟨hyears, by omega, by omega⟩
  subst hdecember
  by_cases hyear : IsDate (year + 1) 1 1
  · left
    refine ⟨⟨year + 1, 1, 1, hyear⟩, ?_, ?_⟩
    · simp only [ofYmd?, dif_neg hday, dif_neg hmonth, dif_pos hyear]
      rfl
    · have hyearEnd := daysBeforeYear_succ year
      have hlast : yearLength year = daysBeforeMonth year 12 + monthLength year 12 := rfl
      have hjanuary : daysBeforeMonth (year + 1) 1 = 0 := rfl
      simp only [dayNumber, ordinal]
      omega
  · right
    refine ⟨by simp only [ofYmd?, dif_neg hday, dif_neg hmonth, dif_neg hyear]; rfl, ?_⟩
    have hmax : year = maxYear := by
      by_contra hne
      exact hyear ⟨⟨by omega, by omega⟩, by omega, Nat.succ_le_succ (Nat.zero_le 30)⟩
    subst hmax
    subst hend
    rfl

/-- The calendar has no gaps: every number from that of a date up to that of the last day is the
number of a date. -/
theorem exists_dayNumber (d : Date) (days : Nat) (hlast : d.dayNumber + days ≤ last.dayNumber) :
    ∃ e : Date, e.dayNumber = d.dayNumber + days := by
  induction days with
  | zero => exact ⟨d, by simp⟩
  | succ days ih =>
    obtain ⟨e, he⟩ := ih (by omega)
    rcases succ?_spec e with ⟨next, _, hnumber⟩ | ⟨_, rfl⟩
    · exact ⟨next, by omega⟩
    · omega

/-- The month of a day is the first one that does not end before its ordinal. -/
theorem monthOfOrdinal?_ordinal (d : Date) : monthOfOrdinal? d.year d.ordinal = some d.month := by
  obtain ⟨hfirst, hlast⟩ := isMonth_of_isDate d.isDate
  have hpos := d.isDate.2.1
  change (List.range' 1 12).find? _ = _
  rw [List.find?_range'_eq_some]
  refine ⟨by simpa using d.ordinal_le_daysBeforeMonth, by simp; omega, ?_⟩
  intro month _ hmonth
  have hmono := daysBeforeMonth_mono d.year (show month + 1 ≤ d.month by omega)
  have hordinal : d.ordinal = daysBeforeMonth d.year d.month + d.day := rfl
  simp only [Bool.not_eq_true', decide_eq_false_iff_not]
  omega

/-- A date is found from its number, and only from its number. -/
theorem ofDayNumber?_eq_some_iff {number : Int} {d : Date} :
    ofDayNumber? number = some d ↔ d.dayNumber = number := by
  constructor
  · intro hfound
    simp only [ofDayNumber?, Option.bind_eq_bind, Option.bind_eq_some_iff] at hfound
    obtain ⟨year, hyear, month, _, hmade⟩ := hfound
    obtain ⟨hlow, _⟩ := yearOfDay?_eq_some_iff.mp hyear
    obtain ⟨hyear, hmonth, hday⟩ := ofYmd?_eq_some_iff.mp hmade
    have hpos := d.isDate.2.1
    simp only [dayNumber, ordinal, hyear, hmonth, hday]
    omega
  · rintro rfl
    have hnext := daysBeforeYear_succ d.year
    have hlow := d.ordinal_pos
    have hhigh := d.ordinal_le_yearLength
    have hyear : yearOfDay? d.dayNumber = some d.year := by
      rw [yearOfDay?_eq_some_iff]
      unfold dayNumber
      omega
    have hordinal : (d.dayNumber - daysBeforeYear d.year).toNat = d.ordinal := by
      unfold dayNumber
      omega
    have hday : d.ordinal - daysBeforeMonth d.year d.month = d.day := by
      unfold ordinal
      omega
    simp only [ofDayNumber?, hyear, Option.bind_eq_bind, Option.bind_some, hordinal,
      monthOfOrdinal?_ordinal, hday, ofYmd?_eq_some_iff, and_self]

end Date

end Daybook
