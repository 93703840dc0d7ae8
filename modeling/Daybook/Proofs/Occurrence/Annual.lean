import Daybook.Proofs.Calendar.MonthLength
import Daybook.Proofs.Except
import Daybook.Proofs.Occurrence.Dates

namespace Daybook

namespace Calendar

/-- A day of the year that is not February 29 is there in every year. -/
theorem isDate_of_ne_leapDay {year other : Int} {month day : Nat} (hdate : IsDate year month day)
    (hother : minYear ≤ other ∧ other ≤ maxYear) (hleap : ¬ (month = 2 ∧ day = 29)) :
    IsDate other month day := by
  obtain ⟨_, hone, hlength⟩ := hdate
  refine ⟨hother, hone, ?_⟩
  by_cases hmonth : month = 2
  · subst hmonth
    have hother := le_monthLength other (show 1 ≤ 2 by omega) (by omega)
    change day ≤ if isLeapYear year then 29 else 28 at hlength
    split at hlength <;> omega
  · rwa [monthLength_eq_of_ne_two other year hmonth]

/-- The year after one with February 29 has none. -/
theorem not_isDate_leapDay_succ {year : Int} (hdate : IsDate year 2 29) :
    ¬ IsDate (year + 1) 2 29 := by
  rintro ⟨_, _, hnext⟩
  have hlength := hdate.2.2
  have hleap := isLeapYear_iff year
  have hnextLeap := isLeapYear_iff (year + 1)
  unfold monthLength at hnext hlength
  grind

end Calendar

namespace Date

open Calendar

/-- Moving on by years comes to the anniversary of a date in the year aimed at, unless the date is a
February 29 that this year has as well. -/
theorem addYears?_eq_some_iff {d e : Date} {years : Nat}
    (hday : (d.month, d.day) = d.anniversary ∨ ¬ IsDate (d.year + years) d.month d.day) :
    d.addYears? years = some e ↔
      e.year = d.year + years ∧ (e.month, e.day) = d.anniversary := by
  rw [Prod.ext_iff]
  by_cases hsame : IsDate (d.year + years) d.month d.day
  · have hkeeps := hday.resolve_right (not_not_intro hsame)
    have hmove : d.addYears? years = ofYmd? (d.year + years) d.month d.day := by
      unfold addYears? ofYmd?
      rw [dif_pos hsame]
      rfl
    rw [hmove, ofYmd?_eq_some_iff, ← hkeeps]
  · have hmove : d.addYears? years = ofYmd? (d.year + years) 3 1 := by
      unfold addYears?
      rw [ofYmd?_eq_none_iff.mpr hsame]
      rfl
    rw [hmove, ofYmd?_eq_some_iff]
    by_cases hleap : d.month = 2 ∧ d.day = 29
    · rw [anniversary, if_pos hleap]
    · have hyears : ¬ (minYear ≤ d.year + years ∧ d.year + years ≤ maxYear) :=
        fun hyears => hsame (isDate_of_ne_leapDay d.isDate hyears hleap)
      have he := e.isDate.1
      omega

/-- The anniversary of a date is there in every year of the calendar. -/
theorem isDate_anniversary (d : Date) {year : Int} (hyear : minYear ≤ year ∧ year ≤ maxYear) :
    IsDate year d.anniversary.1 d.anniversary.2 := by
  unfold anniversary
  split <;> rename_i hleap
  · exact ⟨hyear, Nat.le_refl 1, show 1 ≤ 31 by omega⟩
  · exact isDate_of_ne_leapDay d.isDate hyear hleap

/-- A date on the anniversary of another has that day as its own anniversary. -/
theorem ne_leapDay_of_anniversary {anchor d : Date} (hday : (d.month, d.day) = anchor.anniversary) :
    (d.month, d.day) = d.anniversary := by
  rw [anniversary_of_eq hday, hday]

end Date

namespace Occurrence

open Calendar

/-- A step by years from a date comes to its anniversary, or the calendar ends before. -/
theorem advance_spec (d : Date) (years : Nat)
    (hday : (d.month, d.day) = d.anniversary ∨ ¬ IsDate (d.year + years) d.month d.day) :
    (∃ e, advance d years = .ok e ∧ e.year = d.year + years ∧ (e.month, e.day) = d.anniversary) ∨
      (advance d years = .error (.internal (.yearOutside d)) ∧ maxYear < d.year + years) := by
  unfold advance
  cases hmove : d.addYears? years with
  | some e =>
    exact .inl ⟨e, rfl, (Date.addYears?_eq_some_iff hday).mp hmove⟩
  | none =>
    refine .inr ⟨rfl, ?_⟩
    by_contra hyear
    have hyears : minYear ≤ d.year + years ∧ d.year + years ≤ maxYear := by
      have hlow := d.isDate.1.1
      omega
    have hmade : d.addYears? years = some ⟨_, _, _, d.isDate_anniversary hyears⟩ :=
      (Date.addYears?_eq_some_iff hday).mpr ⟨rfl, rfl⟩
    rw [hmove] at hmade
    cases hmade

/-- A year on from a date is its anniversary in the next year, or the fault that the calendar ends before. -/
theorem advance_one_spec (d : Date) :
    (∃ e, advance d 1 = .ok e ∧ e.year = d.year + 1 ∧ (e.month, e.day) = d.anniversary) ∨
      (advance d 1 = .error (.internal (.yearOutside d)) ∧ maxYear < d.year + 1) := by
  apply advance_spec
  by_cases hleap : d.month = 2 ∧ d.day = 29
  · right
    rw [hleap.1, hleap.2]
    apply not_isDate_leapDay_succ
    rw [← hleap.1, ← hleap.2]
    exact d.isDate
  · left
    rw [Date.anniversary, if_neg hleap]

private theorem year_le_of_lt {a b : Date} (hlt : a < b) : a.year ≤ b.year := by
  rw [Date.lt_iff_lex] at hlt
  omega

private theorem advanceUntilAfter_of_after {reference anchor candidate : Date} {tries : Nat}
    (hafter : reference < candidate) :
    advanceUntilAfter reference anchor (tries + 1) candidate = .ok candidate := by
  rw [advanceUntilAfter, if_pos (Date.strictlyAfter_iff.mpr hafter)]

private theorem advanceUntilAfter_of_not_after {reference anchor candidate : Date} {tries : Nat}
    (hafter : ¬ reference < candidate) :
    advanceUntilAfter reference anchor (tries + 1) candidate =
      advance candidate 1 >>= advanceUntilAfter reference anchor tries := by
  rw [advanceUntilAfter, if_neg (fun h => hafter (Date.strictlyAfter_iff.mp h))]

/-- From a date in the year of the reference or later one check decides, or a second one a year later. -/
theorem advanceUntilAfter_eq {reference anchor candidate : Date} (tries : Nat)
    (hyear : reference.year ≤ candidate.year) :
    advanceUntilAfter reference anchor (tries + 2) candidate =
      if reference < candidate then .ok candidate else advance candidate 1 := by
  split
  · rename_i hafter
    exact advanceUntilAfter_of_after hafter
  · rename_i hafter
    rw [advanceUntilAfter_of_not_after hafter]
    rcases advance_one_spec candidate with ⟨next, hnext, hnextYear, _⟩ | ⟨herror, _⟩
    · rw [hnext]
      exact advanceUntilAfter_of_after (.inl (by omega))
    · rw [herror]
      rfl

/-- From the first date of the rule in the year of the reference or later, at most one more year leads
past the reference. -/
theorem advanceUntilAfter_spec {reference anchor candidate : Date} (tries : Nat)
    (hcandidate : Rule.FallsOn .annual anchor candidate)
    (hyear : candidate.year = max (anchor.year + 1) reference.year) :
    (∃ d, advanceUntilAfter reference anchor (tries + 2) candidate = .ok d ∧
        Rule.IsNext .annual reference anchor d) ∨
      (advanceUntilAfter reference anchor (tries + 2) candidate =
          .error (.internal (.yearOutside candidate)) ∧ candidate.year = maxYear ∧
        ∀ d, Rule.FallsOn .annual anchor d → ¬ reference < d) := by
  rw [advanceUntilAfter_eq tries (by omega)]
  split
  · rename_i hafter
    left
    refine ⟨candidate, rfl, hcandidate, hafter, fun e he hre => ?_⟩
    have hlow := he.1
    have hhigh := year_le_of_lt hre
    rw [Date.le_iff_year_of_anniversary hcandidate.2 he.2]
    omega
  · rename_i hafter
    have hpast (e : Date) (he : Rule.FallsOn .annual anchor e) (hre : reference < e) :
        candidate.year < e.year := by
      have hlt := Date.lt_iff_year_of_anniversary hcandidate.2 he.2
      exact hlt.mp (Std.lt_of_le_of_lt (Std.not_lt.mp hafter) hre)
    rcases advance_one_spec candidate with ⟨next, hnext, hnextYear, hnextDay⟩ | ⟨herror, hmax⟩
    · left
      have hnextDay := hnextDay.trans (Date.anniversary_of_eq hcandidate.2)
      refine ⟨next, hnext, ⟨by omega, hnextDay⟩, .inl (by omega), fun e he hre => ?_⟩
      have hyears := hpast e he hre
      rw [Date.le_iff_year_of_anniversary hnextDay he.2]
      omega
    · right
      have hlast := candidate.isDate.1.2
      refine ⟨herror, by omega, fun e he hre => ?_⟩
      have hyears := hpast e he hre
      have heLast := e.isDate.1.2
      omega

/-- The years that are passed over in one step lead to the first date of the rule in the year of the
reference or later, and the calendar has it. -/
theorem candidate_spec (reference : Date) {anchor first : Date} (hfirst : advance anchor 1 = .ok first) :
    ∃ candidate, advance first (reference.year - first.year).toNat = .ok candidate ∧
      Rule.FallsOn .annual anchor candidate ∧
      candidate.year = max (anchor.year + 1) reference.year := by
  rcases advance_one_spec anchor with ⟨_, hnext, hfirstYear, hfirstDay⟩ | ⟨herror, _⟩
  · rw [hfirst] at hnext
    cases hnext
    have hkeeps := Date.ne_leapDay_of_anniversary hfirstDay
    rcases advance_spec first (reference.year - first.year).toNat (.inl hkeeps) with
      ⟨candidate, hcandidate, hyear, hday⟩ | ⟨_, hmax⟩
    · refine ⟨candidate, hcandidate, ⟨by omega, ?_⟩, by omega⟩
      exact hday.trans (Date.anniversary_of_eq hfirstDay)
    · have hlast := first.isDate.1.2
      have hreference := reference.isDate.1.2
      omega
  · rw [hfirst] at herror
    cases herror

/-- The next occurrence of an annual rule is its next date, and there is none only where the rule has no
date after the reference. Then the calendar ends with the year that the anchor was moved on to. -/
theorem nextAnnual_spec (reference anchor : Date) :
    (∃ d, nextAnnual reference anchor = .ok d ∧ Rule.IsNext .annual reference anchor d) ∨
      (∃ last, nextAnnual reference anchor = .error (.internal (.yearOutside last)) ∧
        (last = anchor ∨ Rule.FallsOn .annual anchor last) ∧ last.year = maxYear ∧
        ∀ d, Rule.FallsOn .annual anchor d → ¬ reference < d) := by
  unfold nextAnnual
  rcases advance_one_spec anchor with ⟨first, hfirst, _⟩ | ⟨herror, hmax⟩
  · obtain ⟨candidate, hcandidate, hfalls, hyear⟩ := candidate_spec reference hfirst
    rw [hfirst]
    change (∃ d, (advance first _ >>= _) = _ ∧ _) ∨ (∃ last, (advance first _ >>= _) = _ ∧ _)
    rw [hcandidate]
    rcases advanceUntilAfter_spec 398 hfalls hyear with hfound | ⟨herror, hlast, hnone⟩
    · exact .inl hfound
    · exact .inr ⟨candidate, herror, .inr hfalls, hlast, hnone⟩
  · right
    have hanchor := anchor.isDate.1.2
    refine ⟨anchor, by rw [herror]; rfl, .inl rfl, by omega, fun d hd _ => ?_⟩
    have hlast := d.isDate.1.2
    have hyear := hd.1
    omega

end Occurrence

end Daybook
