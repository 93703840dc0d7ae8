import Daybook.Proofs.Calendar.Gregorian
import Daybook.Proofs.Rule.Canonical

namespace Daybook

open Calendar

/-- Whether a number names the day of a date. A negative one counts from the end of the month, whose last day is
-1. -/
def Date.IsMonthDay (d : Date) (n : Int) : Prop :=
  0 < n ∧ d.day = n ∨ n < 0 ∧ ∃ length, HasLength d.year d.month length ∧ d.day = length + 1 + n

namespace Date

/-- A number from -28 to -1 names one day of every month, as no month is shorter. -/
theorem existsUnique_isMonthDay {n : Int} (hn : -28 ≤ n ∧ n < 0) {year : Int} {month : Nat}
    (hyear : minYear ≤ year ∧ year ≤ maxYear) (hmonth : 1 ≤ month ∧ month ≤ 12) :
    ∃! d : Date, d.year = year ∧ d.month = month ∧ d.IsMonthDay n := by
  have hlength := hasLength_monthLength year hmonth
  have hle := le_monthLength year hmonth.1 hmonth.2
  have hdate : IsDate year month (monthLength year month + 1 + n).toNat := ⟨hyear, by omega, by omega⟩
  refine ⟨⟨year, month, _, hdate⟩, ⟨rfl, rfl, .inr ⟨hn.2, _, hlength, by dsimp only; omega⟩⟩, ?_⟩
  rintro d ⟨rfl, rfl, ⟨hpos, _⟩ | ⟨_, length, hother, hday⟩⟩
  · omega
  · cases hother.eq_monthLength
    have hmade := ofYmd?_eq_some_iff.mpr ⟨rfl, rfl, (by omega : d.day = (monthLength d.year d.month + 1 + n).toNat)⟩
    rw [ofYmd?, dif_pos hdate] at hmade
    exact (Option.some_inj.mp hmade).symm

end Date

namespace MonthDays

variable {days : MonthDays} {d : Date}

/-- Days of a month match from its start by their number, and from its end by what is left of the month. Only the
last month of the calendar is left out. -/
theorem matches_iff (hlast : ¬ (d.year = maxYear ∧ d.month = 12)) :
    days.matches d = true ↔ d.day ∈ days.days.toList ∨
      ∃ offset ∈ days.fromEnd.toList, d.day + offset = monthLength d.year d.month + 1 := by
  have hday := d.isDate.2
  rw [MonthDays.matches, daysInMonth?_eq_some d.isDate.1 (isMonth_of_isDate d.isDate) hlast]
  simp only [Bool.or_eq_true, Bool.and_eq_true, decide_eq_true_eq, NumberSet.contains_iff]
  refine or_congr_right ?_
  constructor
  · rintro ⟨_, hoffset⟩
    exact ⟨_, hoffset, by omega⟩
  · rintro ⟨offset, hoffset, hsum⟩
    refine ⟨hday.2, ?_⟩
    rwa [show monthLength d.year d.month - d.day + 1 = offset by omega]

/-- Days that are those of a list of numbers match the dates whose day one of the numbers names. -/
theorem matches_iff_isMonthDay {values : List Int} (hdomain : ∀ n ∈ values, Rule.Field.monthDay.Domain n)
    (hdays : ∀ k : Nat, k ∈ days.days.toList ↔ (k : Int) ∈ values)
    (hfromEnd : ∀ k : Nat, k ∈ days.fromEnd.toList ↔ -(k : Int) ∈ values)
    (hlast : ¬ (d.year = maxYear ∧ d.month = 12)) :
    days.matches d = true ↔ ∃ n ∈ values, d.IsMonthDay n := by
  have hlength := hasLength_monthLength d.year (isMonth_of_isDate d.isDate)
  have hpos := d.isDate.2.1
  rw [matches_iff hlast, hdays]
  simp only [hfromEnd]
  constructor
  · rintro (hday | ⟨offset, hoffset, hsum⟩)
    · exact ⟨d.day, hday, .inl ⟨by omega, rfl⟩⟩
    · have hrange := hdomain _ hoffset
      simp only [Rule.Field.Domain] at hrange
      exact ⟨-offset, hoffset, .inr ⟨by omega, _, hlength, by omega⟩⟩
  · rintro ⟨n, hn, ⟨_, hday⟩ | ⟨hneg, length, hother, hday⟩⟩
    · exact .inl (hday ▸ hn)
    · cases hother.eq_monthLength
      refine .inr ⟨n.natAbs, ?_, by omega⟩
      rwa [show -(n.natAbs : Int) = n by omega]

end MonthDays

namespace Rule

/-- Items that fit their field have values. -/
theorem exists_values {field : Field} {items : List (List Char)}
    (hfits : ∀ e ∈ items.map (field, ·), Fits e.1 e.2) : ∃ values, Values field items values := by
  induction items with
  | nil => exact ⟨[], .nil⟩
  | cons item items ih =>
    obtain ⟨⟨n, hn⟩, hrest⟩ := List.forall_mem_cons.mp hfits
    obtain ⟨values, hvalues⟩ := ih hrest
    exact ⟨n :: values, .cons hn hvalues⟩

private theorem monthDays_matches_iff {values : List Int} (hdomain : ∀ n ∈ values, Field.monthDay.Domain n) {d : Date}
    (hlast : ¬ (d.year = maxYear ∧ d.month = 12)) :
    (monthDays values).matches d = true ↔ ∃ n ∈ values, d.IsMonthDay n :=
  MonthDays.matches_iff_isMonthDay hdomain (fun _ => mem_days_monthDays hdomain)
    (fun _ => mem_fromEnd_monthDays hdomain) hlast

/-- Reading a monthly rule gives the days that its text names. A date outside the last month of the calendar
matches exactly if one of the numbers in the list of days names its day. The day of a date is never past the
length of its month, from which it is taken off, and counted from the end each number names one day of every
month. -/
theorem matches_of_read {text : String} {days : MonthDays} {months : NumberSet}
    (hread : read text = .ok (.monthly days months)) :
    ∃ items monthItems values, Shaped text (.monthly items monthItems) ∧ Values .monthDay items values ∧
      (∀ d : Date, ¬ (d.year = maxYear ∧ d.month = 12) →
        (days.matches d = true ↔ ∃ n ∈ values, d.IsMonthDay n)) ∧
      (∀ (d : Date) (length : Nat), daysInMonth? d.year d.month = some length → d.day ≤ length) ∧
      ∀ n : Int, n = -1 ∨ n = -2 → ∀ year month, minYear ≤ year ∧ year ≤ maxYear → 1 ≤ month ∧ month ≤ 12 →
        ¬ (year = maxYear ∧ month = 12) →
        ∃! d : Date, d.year = year ∧ d.month = month ∧ (monthDays [n]).matches d = true := by
  obtain ⟨shape, hshape, hfits, hdescribed⟩ := exists_shaped_of_read hread
  cases shape with
  | monthly items monthItems =>
    obtain ⟨_, hdays, hfromEnd, _⟩ := hdescribed
    obtain ⟨values, hvalues⟩ := exists_values (List.forall_mem_append.mp hfits).1
    refine ⟨items, monthItems, values, hshape, hvalues, fun d hlast => ?_, fun d length hlength => ?_,
      fun n hn year month hyear hmonth hlast => ?_⟩
    · exact MonthDays.matches_iff_isMonthDay (fun n hn => hvalues.domain hn)
        (fun k => (hdays k).trans hvalues.mem_iff.symm) (fun k => (hfromEnd k).trans hvalues.mem_iff.symm) hlast
    · exact (hasLength_of_daysInMonth? d.isDate.1 hlength).eq_monthLength ▸ d.isDate.2.2
    · refine (existsUnique_congr fun d => and_congr_right fun hdYear => and_congr_right fun hdMonth => ?_).mpr
        (Date.existsUnique_isMonthDay (n := n) (by omega) hyear hmonth)
      have hdomain (m : Int) (hm : m ∈ [n]) : Field.monthDay.Domain m := by
        rw [List.mem_singleton.mp hm]
        exact hn.elim (fun h => .inr (.inl h)) .inl
      rw [monthDays_matches_iff hdomain (by rwa [hdYear, hdMonth])]
      simp only [List.mem_singleton, exists_eq_left]
  | annual | interval | weekly => exact hdescribed.elim

/-- The last day of a leap year's February is not its 28th, which is named by itself. -/
theorem matches_of_read_leapDay :
    ∃ days months items monthItems values, read "m 28,-1" = .ok (.monthly days months) ∧
      Shaped "m 28,-1" (.monthly items monthItems) ∧ Values .monthDay items values ∧
      days.matches ⟨2024, 2, 28, by decide⟩ = true ∧ days.matches ⟨2024, 2, 29, by decide⟩ = true ∧
      (∃ n ∈ values, Date.IsMonthDay ⟨2024, 2, 28, by decide⟩ n) ∧
      ∃ n ∈ values, Date.IsMonthDay ⟨2024, 2, 29, by decide⟩ n := by
  have hread : read "m 28,-1" = .ok (.monthly ⟨⟨[28], by decide⟩, ⟨[1], by decide⟩⟩ ∅) := by decide +kernel
  have hplain : MonthDays.matches ⟨⟨[28], by decide⟩, ⟨[1], by decide⟩⟩ ⟨2024, 2, 28, by decide⟩ = true := by decide
  have hend : MonthDays.matches ⟨⟨[28], by decide⟩, ⟨[1], by decide⟩⟩ ⟨2024, 2, 29, by decide⟩ = true := by decide
  obtain ⟨items, monthItems, values, hshape, hvalues, hmatches, _⟩ := matches_of_read hread
  exact ⟨_, _, items, monthItems, values, hread, hshape, hvalues, hplain, hend, (hmatches _ (by decide)).mp hplain,
    (hmatches _ (by decide)).mp hend⟩

end Rule

end Daybook
