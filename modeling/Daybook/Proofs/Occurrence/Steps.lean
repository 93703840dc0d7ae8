import Daybook.Proofs.Calendar.Steps
import Daybook.Proofs.Occurrence.Next

namespace Daybook

namespace Date

open Calendar

/-- The date a year on. February 29 becomes March 1 where the next year does not have it. -/
def nextYear? (d : Date) : Option Date :=
  if d.month = 2 ∧ d.day = 29 ∧ ¬ isLeapYear (d.year + 1) then ofYmd? (d.year + 1) 3 1
  else ofYmd? (d.year + 1) d.month d.day

private theorem isLeapYear_of_leapDay {d : Date} (hleap : d.month = 2 ∧ d.day = 29) :
    isLeapYear d.year = true := by
  have hlength := d.isDate.2.2
  rw [hleap.1, hleap.2] at hlength
  by_contra hcommon
  simp [monthLength, hcommon] at hlength

/-- The date a year on is the anniversary in the next year. -/
theorem nextYear?_eq_some_iff {d e : Date} :
    d.nextYear? = some e ↔ e.year = d.year + 1 ∧ (e.month, e.day) = d.anniversary := by
  unfold nextYear? anniversary
  by_cases hleap : d.month = 2 ∧ d.day = 29
  · have hcommon := not_isLeapYear_succ (isLeapYear_of_leapDay hleap)
    simp [hleap, hcommon, ofYmd?_eq_some_iff]
  · rw [if_neg (fun h => hleap ⟨h.1, h.2.1⟩), if_neg hleap, ofYmd?_eq_some_iff, Prod.mk.injEq]

theorem lt_of_nextYear? {d e : Date} (hnext : d.nextYear? = some e) : d < e := by
  obtain ⟨hyear, _⟩ := nextYear?_eq_some_iff.mp hnext
  exact .inl (by omega)

/-- Only from the last year of the calendar there is no year on. -/
theorem nextYear?_eq_none_iff {d : Date} : d.nextYear? = none ↔ d.year = maxYear := by
  have hyears := d.isDate.1
  constructor
  · intro hnone
    by_contra hyear
    have hnextYear : minYear ≤ d.year + 1 ∧ d.year + 1 ≤ maxYear := by omega
    have hmade : d.nextYear? = some ⟨_, _, _, d.isDate_anniversary hnextYear⟩ :=
      nextYear?_eq_some_iff.mpr ⟨rfl, rfl⟩
    rw [hnone] at hmade
    cases hmade
  · intro hyear
    cases hnext : d.nextYear? with
    | none => rfl
    | some e =>
      have hlater := (nextYear?_eq_some_iff.mp hnext).1
      have hlast := e.isDate.1.2
      omega

/-- One year after another leads to the anniversary of the anchor, in each year after its own. -/
theorem stepped?_nextYear?_eq_some_iff {anchor d : Date} {years : Nat} (hone : 1 ≤ years) :
    stepped? nextYear? years anchor = some d ↔
      d.year = anchor.year + years ∧ (d.month, d.day) = anchor.anniversary := by
  induction years, hone using Nat.le_induction generalizing d with
  | base => simp [stepped?, nextYear?_eq_some_iff]
  | succ years hone ih =>
    rw [stepped?, Option.bind_eq_some_iff]
    simp only [ih, nextYear?_eq_some_iff]
    constructor
    · rintro ⟨middle, ⟨hmiddleYear, hmiddleDay⟩, hyear, hday⟩
      refine ⟨?_, hday.trans (anniversary_of_eq hmiddleDay)⟩
      push_cast
      omega
    · rintro ⟨hyear, hday⟩
      have hfirst := anchor.isDate.1.1
      have hlast := d.isDate.1.2
      push_cast at hyear
      have hmiddleYear : minYear ≤ anchor.year + years ∧ anchor.year + years ≤ maxYear := by omega
      let middle : Date := ⟨_, _, _, anchor.isDate_anniversary hmiddleYear⟩
      have hmiddle : middle.anniversary = anchor.anniversary := anniversary_of_eq rfl
      refine ⟨middle, ⟨rfl, rfl⟩, ?_, hday.trans hmiddle.symm⟩
      change d.year = anchor.year + years + 1
      omega

end Date

namespace Rule

/-- The dates of an annual rule are those that one year or more leads to, one at a time. -/
theorem fallsOn_annual_iff {anchor d : Date} :
    Rule.FallsOn .annual anchor d ↔
      ∃ years, 1 ≤ years ∧ Date.stepped? Date.nextYear? years anchor = some d := by
  constructor
  · rintro ⟨hyear, hday⟩
    have hone : 1 ≤ (d.year - anchor.year).toNat := by omega
    exact ⟨_, hone, (Date.stepped?_nextYear?_eq_some_iff hone).mpr ⟨by omega, hday⟩⟩
  · rintro ⟨years, hone, hreached⟩
    obtain ⟨hyear, hday⟩ := (Date.stepped?_nextYear?_eq_some_iff hone).mp hreached
    exact ⟨by omega, hday⟩

/-- The dates of an interval rule are those that one interval or more leads to, one day at a time. -/
theorem fallsOn_interval_iff {anchor d : Date} {days : Nat} :
    Rule.FallsOn (.interval days) anchor d ↔
      ∃ steps, 1 ≤ steps ∧ Date.stepped? (Date.stepped? Date.succ? days) steps anchor = some d := by
  simp [FallsOn, Date.stepped?_stepped?, Date.stepped?_succ?_eq_some_iff]

/-- Where steps to later dates lead to the dates of a rule, its next date is where they first lead past the
reference. -/
theorem isNext_iff_firstPast {rule : Rule} {step : Date → Option Date} {reference anchor d : Date}
    (hlater : ∀ d e, step d = some e → d < e)
    (hfalls : ∀ d, rule.FallsOn anchor d ↔ ∃ count, 1 ≤ count ∧ Date.stepped? step count anchor = some d) :
    rule.IsNext reference anchor d ↔ ∃ count, Date.FirstPast step reference anchor count d := by
  constructor
  · intro hd
    obtain ⟨count, hone, hreached⟩ := (hfalls d).mp hd.fallsOn
    refine ⟨count, hone, hreached, hd.after, fun fewer e hfewer hlt he => ?_⟩
    rw [← Std.not_lt]
    intro hafter
    have hle := hd.first e ((hfalls e).mpr ⟨fewer, hfewer, he⟩) hafter
    exact Std.not_lt.mpr hle (Date.stepped?_lt hlater he hreached hlt)
  · rintro ⟨count, hone, hreached, hafter, hbefore⟩
    refine ⟨(hfalls d).mpr ⟨count, hone, hreached⟩, hafter, fun e he hre => ?_⟩
    obtain ⟨others, hothers, heReached⟩ := (hfalls e).mp he
    apply Date.stepped?_le hlater hreached heReached
    by_contra hfewer
    exact Std.not_lt.mpr (hbefore others e hothers (by omega) heReached) hre

end Rule

namespace Occurrence

open Calendar Date

variable {reference anchor d : Date}

private theorem next_eq_ok_iff_firstPast (rule : Rule) {step : Date → Option Date}
    (hsearch : rule.searchDays? = none) (hlater : ∀ d e, step d = some e → d < e)
    (hfalls : ∀ d, rule.FallsOn anchor d ↔ ∃ count, 1 ≤ count ∧ stepped? step count anchor = some d) :
    next reference anchor rule = .ok d ↔ ∃ count, FirstPast step reference anchor count d := by
  rw [next_eq_ok_iff, Rule.isNext_iff_firstPast hlater hfalls, and_iff_left]
  intro count hcount
  rw [hsearch] at hcount
  cases hcount

section Annual

/-- What an annual rule finds is the first date past the reference on the walk by years. -/
theorem nextAnnual_eq_ok_iff :
    nextAnnual reference anchor = .ok d ↔ ∃ years, FirstPast nextYear? reference anchor years d := by
  apply next_eq_ok_iff_firstPast .annual rfl
  · exact fun _ _ => lt_of_nextYear?
  · exact fun _ => Rule.fallsOn_annual_iff

/-- An annual rule fails only by the calendar, at the last date of the walk, which has not passed the reference. -/
theorem nextAnnual_eq_error_iff {cause : Error} :
    nextAnnual reference anchor = .error cause ↔
      ∃ last, EndsShort nextYear? reference anchor last ∧ cause = .internal (.yearOutside last) := by
  rcases nextAnnual_spec reference anchor with ⟨d, hok, hd⟩ | ⟨last, herror, hlast, hyear, hnone⟩
  · rw [hok]
    refine iff_of_false nofun ?_
    rintro ⟨last, hends, _⟩
    obtain ⟨years, hone, hreached⟩ := Rule.fallsOn_annual_iff.mp hd.fallsOn
    exact Std.not_lt.mpr (hends.short years d hone hreached) hd.after
  · have hends : EndsShort nextYear? reference anchor last := by
      refine ⟨?_, nextYear?_eq_none_iff.mpr hyear, fun years d hone hd => ?_⟩
      · rcases hlast with rfl | hfalls
        · exact ⟨0, rfl⟩
        · obtain ⟨years, _, hreached⟩ := Rule.fallsOn_annual_iff.mp hfalls
          exact ⟨years, hreached⟩
      · apply Std.not_lt.mp
        exact hnone d (Rule.fallsOn_annual_iff.mpr ⟨years, hone, hd⟩)
    rw [herror, Except.error.injEq]
    constructor
    · rintro rfl
      exact ⟨last, hends, rfl⟩
    · rintro ⟨other, hother, rfl⟩
      rw [hends.unique hother]

/-- What makes it right to begin checking with a candidate: yearly steps lead to it, none of the steps
before leads past the reference, and however many tries there may be, the first check decides or the step
of one more year does. -/
structure StartsSearch (reference anchor candidate : Date) : Prop where
  reached : ∃ years, 1 ≤ years ∧ stepped? nextYear? years anchor = some candidate ∧
    ∀ fewer d, 1 ≤ fewer → fewer < years → stepped? nextYear? fewer anchor = some d → d ≤ reference
  decided : ∀ tries, advanceUntilAfter reference anchor (tries + 2) candidate =
    if reference < candidate then .ok candidate else advance candidate 1

private theorem startsSearch_candidate (reference : Date) {first : Date} (hfirst : advance anchor 1 = .ok first) :
    ∃ candidate, advance first (reference.year - first.year).toNat = .ok candidate ∧
      StartsSearch reference anchor candidate := by
  obtain ⟨candidate, hcandidate, hfalls, hyear⟩ := candidate_spec reference hfirst
  obtain ⟨years, hone, hreached⟩ := Rule.fallsOn_annual_iff.mp hfalls
  refine ⟨candidate, hcandidate, ⟨years, hone, hreached, fun fewer d hfewer hlt hd => ?_⟩,
    fun tries => advanceUntilAfter_eq tries (by omega)⟩
  have hcandidateYear := ((stepped?_nextYear?_eq_some_iff hone).mp hreached).1
  have hdYear := ((stepped?_nextYear?_eq_some_iff hfewer).mp hd).1
  exact .inl (by omega)

/-- The next occurrence of an annual rule is the first date after the reference on the walk from the anchor
by single years, and the only error is that this walk ends with the calendar before. All its dates are on
the month and day of the anchor, or on March 1 for a February 29. The years passed over hold none that is
after the reference, and beyond them two checks are enough. -/
theorem nextAnnual_walk (reference anchor : Date) :
    (∀ d, nextAnnual reference anchor = .ok d ↔
        ∃ years, FirstPast nextYear? reference anchor years d) ∧
      (∀ cause, nextAnnual reference anchor = .error cause ↔
        ∃ last, EndsShort nextYear? reference anchor last ∧ last.year = maxYear ∧
          cause = .internal (.yearOutside last)) ∧
      (∀ years d, 1 ≤ years → stepped? nextYear? years anchor = some d →
        (d.month, d.day) =
          if anchor.month = 2 ∧ anchor.day = 29 then (3, 1) else (anchor.month, anchor.day)) ∧
      ∀ first, advance anchor 1 = .ok first →
        ∃ candidate, advance first (reference.year - first.year).toNat = .ok candidate ∧
          StartsSearch reference anchor candidate := by
  refine ⟨fun d => nextAnnual_eq_ok_iff, fun cause => ?_, fun years d hone hd => ?_,
    fun first hfirst => startsSearch_candidate reference hfirst⟩
  · rw [nextAnnual_eq_error_iff]
    apply exists_congr
    intro last
    apply and_congr_right
    intro hends
    rw [nextYear?_eq_none_iff.mp hends.leaves]
    simp
  · exact ((stepped?_nextYear?_eq_some_iff hone).mp hd).2

example : nextAnnual ⟨2027, 6, 1, by decide⟩ ⟨2024, 2, 29, by decide⟩ = .ok ⟨2028, 3, 1, by decide⟩ := by
  rfl

end Annual

section Interval

variable {interval : Nat}

private theorem nextInterval_eq_ok_iff (hpos : 1 ≤ interval) :
    nextInterval reference anchor interval = .ok d ↔
      ∃ steps, FirstPast (stepped? succ? interval) reference anchor steps d := by
  apply next_eq_ok_iff_firstPast (.interval interval) rfl
  · exact fun _ _ => lt_of_stepped?_succ? hpos
  · exact fun _ => Rule.fallsOn_interval_iff

/-- So many days on is the same as the next day so many times. No step is too wide for a calendar of this length. -/
theorem addDays?_eq_stepped? (d : Date) (days : Nat) : d.addDays? days = stepped? succ? days d := by
  ext e
  rw [addDays?_eq_some_iff, stepped?_succ?_eq_some_iff]

/-- All the intervals that lead past the reference are added in one step. -/
theorem nextInterval_eq_stepped? (reference anchor : Date) (hpos : 1 ≤ interval) :
    ∃ steps : Nat,
      IsLeast {steps : Nat | 1 ≤ steps ∧ reference.dayNumber < anchor.dayNumber + steps * interval} steps ∧
        (∀ d, nextInterval reference anchor interval = .ok d ↔
          stepped? succ? (steps * interval) anchor = some d) ∧
        ∀ cause, nextInterval reference anchor interval = .error cause ↔
          last.dayNumber < anchor.dayNumber + steps * interval ∧
            cause = .internal (.stepOutside (steps * interval) anchor) := by
  have hmoves : ¬ (interval = 0 ∧ 0 ≤ anchor.daysUntil reference) := by omega
  obtain ⟨steps, hleast, hnext⟩ := nextInterval_eq hmoves
  refine ⟨steps, hleast, ?_⟩
  have hleaves : stepped? succ? (steps * interval) anchor = none ↔
      last.dayNumber < anchor.dayNumber + steps * interval := by
    exact_mod_cast stepped?_succ?_eq_none_iff
  rw [hnext, addDays?_eq_stepped?, ← hleaves]
  cases stepped? succ? (steps * interval) anchor with
  | some d => simp
  | none => simp [eq_comm]

/-- The integers that the offset of the next occurrence is computed from have 64 bits, and the offset is
not negative. -/
structure FitsWords (elapsed : Int) (interval : Nat) : Prop where
  elapsed_fits : Text.fitsInt64 elapsed = true
  steps_fits : Text.fitsInt64 (intervalSteps elapsed interval) = true
  offset_fits : Text.fitsInt64 (intervalSteps elapsed interval * interval) = true
  offset_nonneg : 0 ≤ intervalSteps elapsed interval * interval

/-- The steps go past the elapsed days by no more than one interval. -/
theorem intervalSteps_mul_le (elapsed : Int) (hpos : 1 ≤ interval) :
    intervalSteps elapsed interval * interval ≤ max elapsed 0 + interval := by
  unfold intervalSteps
  split
  · omega
  · have hquotient := Int.ediv_mul_le elapsed (show (interval : Int) ≠ 0 by omega)
    rw [Int.add_mul]
    omega

private theorem fitsWords_daysUntil (reference anchor : Date) (hpos : 1 ≤ interval)
    (hword : interval ≤ 4294967295) : FitsWords (anchor.daysUntil reference) interval := by
  have hfirst : daysBeforeYear minYear = -95746130 := by decide
  have hlast := dayNumber_last
  have helapsed : -200000000 ≤ anchor.daysUntil reference ∧ anchor.daysUntil reference ≤ 200000000 := by
    have hreferenceFirst := reference.lt_dayNumber
    have hreferenceLast := reference.le_last
    have hanchorFirst := anchor.lt_dayNumber
    have hanchorLast := anchor.le_last
    unfold daysUntil
    omega
  have hmoves : ¬ (interval = 0 ∧ 0 ≤ anchor.daysUntil reference) := by omega
  obtain ⟨hone, _⟩ := intervalSteps_spec hmoves
  have hoffset := intervalSteps_mul_le (anchor.daysUntil reference) hpos
  have hsteps : intervalSteps (anchor.daysUntil reference) interval * 1 ≤
      intervalSteps (anchor.daysUntil reference) interval * interval :=
    Int.mul_le_mul_of_nonneg_left (by omega) (by omega)
  have hfits {n : Int} (hlow : -9223372036854775808 ≤ n) (hhigh : n < 9223372036854775808) :
      Text.fitsInt64 n = true := by
    simp [Text.fitsInt64, hlow, hhigh]
  refine ⟨hfits ?_ ?_, hfits ?_ ?_, hfits ?_ ?_, ?_⟩ <;> omega

/-- The next occurrence of an interval rule is the date found by adding the interval to the anchor, at least
once, until it is after the reference. That is the date the fewest such intervals on, and the only error is
that it is past the end of the calendar. The numbers on the way stay within 64 bits, and no date of the
calendar is too far away to be added up to. -/
theorem nextInterval_steps (reference anchor : Date) {interval : Nat} (hpos : 1 ≤ interval)
    (hword : interval ≤ 4294967295) :
    (∀ d, nextInterval reference anchor interval = .ok d ↔
        ∃ steps, FirstPast (stepped? succ? interval) reference anchor steps d) ∧
      (∃ steps : Nat,
        IsLeast {steps : Nat | 1 ≤ steps ∧ reference.dayNumber < anchor.dayNumber + steps * interval} steps ∧
          (∀ d, nextInterval reference anchor interval = .ok d ↔
            stepped? succ? (steps * interval) anchor = some d) ∧
          ∀ cause, nextInterval reference anchor interval = .error cause ↔
            last.dayNumber < anchor.dayNumber + steps * interval ∧
              cause = .internal (.stepOutside (steps * interval) anchor)) ∧
      FitsWords (anchor.daysUntil reference) interval ∧
      ∀ days d, stepped? succ? days anchor = some d → anchor.addDays? days = some d := by
  refine ⟨fun d => nextInterval_eq_ok_iff hpos, nextInterval_eq_stepped? reference anchor hpos,
    fitsWords_daysUntil reference anchor hpos hword, fun days d hd => ?_⟩
  rw [addDays?_eq_stepped?, hd]

/-- A reference that is itself two weeks on from the anchor is passed with the third week. -/
theorem nextInterval_steps_thirdWeek :
    (1 ≤ 7 ∧ 7 ≤ 4294967295) ∧
      ∃ steps, FirstPast (stepped? succ? 7) ⟨2024, 1, 15, by decide⟩ ⟨2024, 1, 1, by decide⟩ steps
        ⟨2024, 1, 22, by decide⟩ := by
  have hnext : nextInterval ⟨2024, 1, 15, by decide⟩ ⟨2024, 1, 1, by decide⟩ 7 =
      .ok ⟨2024, 1, 22, by decide⟩ := by
    decide +kernel
  exact ⟨by decide, ((nextInterval_steps _ _ (by decide) (by decide)).1 _).mp hnext⟩

end Interval

end Occurrence

end Daybook
