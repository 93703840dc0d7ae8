import Daybook.Proofs.Calendar.MonthLength
import Daybook.Proofs.Calendar.Steps
import Mathlib.Algebra.GroupWithZero.Nat
import Mathlib.Data.List.Forall2

namespace Daybook

namespace Date

open Calendar

/-- The first day of the calendar. -/
def first : Date :=
  ⟨minYear, 1, 1, by decide⟩

/-- Each day but the first has a day before it, which has the number before. -/
theorem pred?_spec (d : Date) :
    (∃ before, d.pred? = some before ∧ before.dayNumber + 1 = d.dayNumber) ∨ (d.pred? = none ∧ d = first) := by
  obtain ⟨year, month, day, hdate⟩ := d
  obtain ⟨hyears, hone, hlength⟩ := hdate
  obtain ⟨hfirst, htwelve⟩ := isMonth_of_isDate ⟨hyears, hone, hlength⟩
  simp only [pred?]
  by_cases hday : 1 < day
  · left
    have hbefore : IsDate year month (day - 1) := ⟨hyears, by omega, by omega⟩
    refine ⟨⟨year, month, day - 1, hbefore⟩, by rw [if_pos hday, ofYmd?, dif_pos hbefore], ?_⟩
    simp only [dayNumber, ordinal]
    omega
  obtain rfl : day = 1 := by omega
  by_cases hmonth : 1 < month
  · left
    obtain ⟨before, rfl⟩ := Nat.exists_eq_add_of_lt hmonth
    have hpos := le_monthLength year (show 1 ≤ 1 + before by omega) (by omega)
    have hbefore : IsDate year (1 + before) (monthLength year (1 + before)) := ⟨hyears, by omega, Nat.le_refl _⟩
    refine ⟨⟨year, 1 + before, monthLength year (1 + before), hbefore⟩, ?_, ?_⟩
    · rw [if_neg hday, if_pos hmonth, Nat.add_sub_cancel, ofYmd?, dif_pos hbefore]
    · simp only [dayNumber, ordinal, daysBeforeMonth]
      omega
  obtain rfl : month = 1 := by omega
  rw [if_neg hday, if_neg hmonth]
  by_cases hyear : minYear < year
  · left
    have hbefore : IsDate (year - 1) 12 31 := ⟨by omega, by omega, Nat.le_refl 31⟩
    refine ⟨⟨year - 1, 12, 31, hbefore⟩, by rw [ofYmd?, dif_pos hbefore], ?_⟩
    have hyearEnd := daysBeforeYear_succ (year - 1)
    rw [Int.sub_add_cancel] at hyearEnd
    have hlast : yearLength (year - 1) = daysBeforeMonth (year - 1) 12 + 31 := rfl
    have hjanuary : daysBeforeMonth year 1 = 0 := rfl
    simp only [dayNumber, ordinal]
    omega
  · right
    obtain rfl : year = minYear := by omega
    exact ⟨ofYmd?_eq_none_iff.mpr fun h => absurd h.1.1 (by omega), rfl⟩

/-- Going back by a day undoes going on by one. -/
theorem pred?_eq_some_iff {d before : Date} : d.pred? = some before ↔ before.succ? = some d := by
  rw [succ?_eq_some_iff]
  rcases pred?_spec d with ⟨found, hfound, hnumber⟩ | ⟨hnone, rfl⟩
  · rw [hfound, Option.some_inj, ← dayNumber_inj]
    omega
  · have hlow := before.lt_dayNumber
    have hnumber : first.dayNumber = daysBeforeYear minYear + 1 := by decide
    rw [hnone, hnumber]
    simp only [reduceCtorEq, false_iff]
    omega

/-- The day before the first of a month is in the month before, which is December before January. -/
theorem before_first {next last : Date} (hfirst : next.day = 1) (hpred : next.pred? = some last) :
    (next.month = 1 ∧ last.year + 1 = next.year ∧ last.month = 12) ∨
      (1 < next.month ∧ last.year = next.year ∧ last.month + 1 = next.month) := by
  have hmonth := isMonth_of_isDate next.isDate
  rw [pred?, hfirst, if_neg (Nat.lt_irrefl 1)] at hpred
  split at hpred <;> obtain ⟨hyear, hbefore, _⟩ := ofYmd?_eq_some_iff.mp hpred
  · exact .inr (by omega)
  · exact .inl (by omega)

end Date

namespace Calendar

/-- The leap years of the Gregorian calendar: those that 4 divides, but of the centuries only those that 400
divides. -/
def IsLeap (year : Int) : Prop :=
  4 ∣ year ∧ (100 ∣ year → 400 ∣ year)

/-- The lengths of the months in the Gregorian calendar. -/
inductive HasLength (year : Int) : Nat → Nat → Prop
  | long {month : Nat} (hmonth : month ∈ [1, 3, 5, 7, 8, 10, 12]) : HasLength year month 31
  | short {month : Nat} (hmonth : month ∈ [4, 6, 9, 11]) : HasLength year month 30
  | leapFebruary (hleap : IsLeap year) : HasLength year 2 29
  | commonFebruary (hcommon : ¬ IsLeap year) : HasLength year 2 28

variable {year : Int} {month length : Nat}

private theorem isLeapYear_iff_isLeap : isLeapYear year = true ↔ IsLeap year := by
  rw [isLeapYear_iff, IsLeap]
  omega

/-- The length of a month in the table is the one that is computed. -/
theorem HasLength.eq_monthLength (hlength : HasLength year month length) : length = monthLength year month := by
  cases hlength with
  | long hmonth =>
    simp only [List.mem_cons, List.not_mem_nil, or_false] at hmonth
    rcases hmonth with rfl | rfl | rfl | rfl | rfl | rfl | rfl <;> rfl
  | short hmonth =>
    simp only [List.mem_cons, List.not_mem_nil, or_false] at hmonth
    rcases hmonth with rfl | rfl | rfl | rfl <;> rfl
  | leapFebruary hleap => exact (if_pos (isLeapYear_iff_isLeap.mpr hleap)).symm
  | commonFebruary hcommon => exact (if_neg fun hleap => hcommon (isLeapYear_iff_isLeap.mp hleap)).symm

private theorem exists_hasLength (year : Int) (hmonth : 1 ≤ month ∧ month ≤ 12) : ∃ length, HasLength year month length := by
  by_cases hfebruary : month = 2
  · subst hfebruary
    by_cases hleap : IsLeap year
    · exact ⟨29, .leapFebruary hleap⟩
    · exact ⟨28, .commonFebruary hleap⟩
  · have hother : month ∈ [1, 3, 5, 7, 8, 10, 12] ∨ month ∈ [4, 6, 9, 11] := by
      simp only [List.mem_cons, List.not_mem_nil, or_false]
      omega
    rcases hother with hlong | hshort
    · exact ⟨31, .long hlong⟩
    · exact ⟨30, .short hshort⟩

/-- Every month of every year has its length in the table. -/
theorem hasLength_monthLength (year : Int) (hmonth : 1 ≤ month ∧ month ≤ 12) :
    HasLength year month (monthLength year month) := by
  obtain ⟨length, hlength⟩ := exists_hasLength year hmonth
  exact hlength.eq_monthLength ▸ hlength

/-- A month that does not exist has no length, and neither has the last month of the calendar. -/
theorem daysInMonth?_eq_none_iff (hyear : minYear ≤ year ∧ year ≤ maxYear) :
    daysInMonth? year month = none ↔ ¬ (1 ≤ month ∧ month ≤ 12) ∨ year = maxYear ∧ month = 12 := by
  by_cases hmonth : 1 ≤ month ∧ month ≤ 12
  · by_cases hlast : year = maxYear ∧ month = 12
    · obtain ⟨rfl, rfl⟩ := hlast
      exact iff_of_true (by decide) (.inr ⟨rfl, rfl⟩)
    · rw [daysInMonth?_eq_some hyear hmonth hlast]
      simp [hmonth, hlast]
  · rw [daysInMonth?, if_neg hmonth]
    exact iff_of_true rfl (.inl hmonth)

/-- A length that is found by turning over into the next month is that of the table. -/
theorem hasLength_of_daysInMonth? (hyear : minYear ≤ year ∧ year ≤ maxYear)
    (hlength : daysInMonth? year month = some length) : HasLength year month length := by
  have hsome : daysInMonth? year month ≠ none := by
    rw [hlength]
    exact Option.some_ne_none length
  obtain ⟨hmonth, hlast⟩ := not_or.mp (mt (daysInMonth?_eq_none_iff hyear).mpr hsome)
  rw [not_not] at hmonth
  rw [daysInMonth?_eq_some hyear hmonth hlast] at hlength
  cases hlength
  exact hasLength_monthLength year hmonth

/-- The length of a month is the day of that date in it after which another month begins. -/
theorem daysInMonth?_eq_some_iff :
    daysInMonth? year month = some length ↔
      ∃ last next : Date, (last.year = year ∧ last.month = month ∧ last.day = length) ∧
        last.succ? = some next ∧ next.day = 1 := by
  simp only [← Date.pred?_eq_some_iff]
  constructor
  · intro hlength
    unfold daysInMonth? at hlength
    split at hlength
    · obtain ⟨last, hlast, hday⟩ := Option.map_eq_some_iff.mp hlength
      obtain ⟨next, hnext, hpred⟩ := Option.bind_eq_some_iff.mp hlast
      split at hnext <;> obtain ⟨hyear, hmonth, hfirst⟩ := Date.ofYmd?_eq_some_iff.mp hnext
      · obtain ⟨hlastYear, hlastMonth⟩ := (Date.before_first hfirst hpred).resolve_right (by omega)
        exact ⟨last, next, ⟨by omega, by omega, hday⟩, hpred, hfirst⟩
      · obtain ⟨hlastYear, hlastMonth⟩ := (Date.before_first hfirst hpred).resolve_left (by omega)
        exact ⟨last, next, ⟨by omega, by omega, hday⟩, hpred, hfirst⟩
    · cases hlength
  · rintro ⟨last, next, ⟨rfl, rfl, rfl⟩, hpred, hfirst⟩
    have hnext : (if last.month = 12 then Date.ofYmd? (last.year + 1) 1 1
        else Date.ofYmd? last.year (last.month + 1) 1) = some next := by
      have hmonth := isMonth_of_isDate next.isDate
      rcases Date.before_first hfirst hpred with ⟨hjanuary, hyear, hdecember⟩ | ⟨_, hyear, hbefore⟩
      · rw [if_pos hdecember, Date.ofYmd?_eq_some_iff]
        omega
      · rw [if_neg (by omega), Date.ofYmd?_eq_some_iff]
        omega
    rw [daysInMonth?, if_pos (isMonth_of_isDate last.isDate)]
    simp only [hnext, Option.bind_some, hpred, Option.map_some]

private theorem exists_ofYmd?_iff (hyear : minYear ≤ year ∧ year ≤ maxYear) {day : Nat} :
    (∃ d, Date.ofYmd? year month day = some d) ↔
      ∃ length, HasLength year month length ∧ 1 ≤ day ∧ day ≤ length := by
  rw [← Option.isSome_iff_exists, ← Option.ne_none_iff_isSome, ne_eq, Date.ofYmd?_eq_none_iff, not_not]
  constructor
  · intro hdate
    exact ⟨_, hasLength_monthLength year (isMonth_of_isDate hdate), hdate.2⟩
  · rintro ⟨_, hlength, hday⟩
    exact ⟨hyear, hlength.eq_monthLength ▸ hday⟩

private theorem sum_monthLength (year : Int) (months : Nat) :
    ((List.range' 1 months).map (monthLength year)).sum = daysBeforeMonth year (months + 1) := by
  induction months with
  | zero => rfl
  | succ months ih =>
    rw [List.range'_1_concat, List.map_append, List.sum_append, ih, Nat.add_comm 1 months, List.map_singleton,
      List.sum_singleton]
    rfl

/-- The calendar has the months of the Gregorian table. The length of a month, found by turning over into the
next, is that of the table and the day of the last date in the month, and there is none for a number that is no
month and for the last month of the calendar. The test for leap years, by remainders that are negative in
negative years, gives those of the table; a date exists where its day is within its month; and the months of a
year have 366 days together where the test says so, and 365 otherwise. -/
theorem daysInMonth?_gregorian (hyear : minYear ≤ year ∧ year ≤ maxYear) :
    (∀ month, daysInMonth? year month = none ↔ ¬ (1 ≤ month ∧ month ≤ 12) ∨ year = maxYear ∧ month = 12) ∧
    (∀ month length, daysInMonth? year month = some length → HasLength year month length) ∧
    (∀ month length, daysInMonth? year month = some length ↔
      ∃ last next : Date, (last.year = year ∧ last.month = month ∧ last.day = length) ∧
        last.succ? = some next ∧ next.day = 1) ∧
    (isLeapYear year = true ↔ IsLeap year) ∧
    (∀ month day, (∃ d, Date.ofYmd? year month day = some d) ↔
      ∃ length, HasLength year month length ∧ 1 ≤ day ∧ day ≤ length) ∧
    ∃ lengths, List.Forall₂ (HasLength year) (List.range' 1 12) lengths ∧
      lengths.sum = if isLeapYear year then 366 else 365 := by
  refine ⟨fun month => daysInMonth?_eq_none_iff hyear, fun month length => hasLength_of_daysInMonth? hyear,
    fun month length => daysInMonth?_eq_some_iff, isLeapYear_iff_isLeap, fun month day => exists_ofYmd?_iff hyear,
    (List.range' 1 12).map (monthLength year), ?_, (sum_monthLength year 12).trans (yearLength_eq year)⟩
  refine List.forall₂_map_right_iff.mpr (List.forall₂_same.mpr fun month hmonth => ?_)
  rw [List.mem_range'_1] at hmonth
  exact hasLength_monthLength year (by omega)

/-- The year -400 is leap, as the year 0 is and the year -100 is not. -/
theorem daysInMonth?_gregorian_negative :
    daysInMonth? (-400) 2 = some 29 ∧ HasLength (-400) 2 29 ∧ (isLeapYear (-400) = true ↔ IsLeap (-400)) ∧
      daysInMonth? (-100) 2 = some 28 ∧ HasLength (-100) 2 28 := by
  have hleap : daysInMonth? (-400) 2 = some 29 := by decide
  have hcommon : daysInMonth? (-100) 2 = some 28 := by decide
  exact ⟨hleap, (daysInMonth?_gregorian (by decide)).2.1 2 29 hleap,
    (daysInMonth?_gregorian (by decide)).2.2.2.1, hcommon,
    (daysInMonth?_gregorian (by decide)).2.1 2 28 hcommon⟩

end Calendar

end Daybook
