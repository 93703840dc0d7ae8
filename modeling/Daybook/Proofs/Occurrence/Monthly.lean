import Daybook.Proofs.Occurrence.Next
import Daybook.Proofs.Rule.MonthDays
import Mathlib.Tactic.IntervalCases

namespace Daybook

namespace NumberSet

private theorem toList_eq_singleton {s : NumberSet} {n : Nat} (hne : s.toList ≠ []) (hall : ∀ k ∈ s.toList, k = n) :
    s.toList = [n] := by
  obtain ⟨k, ks, hks⟩ := List.exists_cons_of_ne_nil hne
  have hascending := s.ascending
  rw [hks] at hall hascending ⊢
  obtain ⟨hk, hks⟩ := List.forall_mem_cons.mp hall
  subst hk
  cases ks with
  | nil => rfl
  | cons other ks =>
    have hlt := (List.pairwise_cons.mp hascending).1 other List.mem_cons_self
    have heq := hks other List.mem_cons_self
    omega

end NumberSet

namespace Occurrence

open Calendar

variable {days : MonthDays} {months : NumberSet} {reference anchor d : Date}

/-- Whether a month is one of those that a rule allows. No month listed allows them all. -/
def Allows (months : NumberSet) (month : Nat) : Prop :=
  months.toList = [] ∨ month ∈ months.toList

/-- Whether a rule names a date: its month is allowed, and its day is listed or its place counted from the
end of the month, 1 for the last day, is. -/
def Names (days : MonthDays) (months : NumberSet) (d : Date) : Prop :=
  Allows months d.month ∧
    (d.day ∈ days.days.toList ∨
      ∃ offset ∈ days.fromEnd.toList, d.day + offset = monthLength d.year d.month + 1)

/-- The days that the search takes for days of the rule are those that the rule names, outside the last
month of the calendar. -/
theorem isMonthly_iff (hlast : d.year < maxYear) : isMonthly days months d = true ↔ Names days months d := by
  rw [isMonthly, Bool.and_eq_true, MonthDays.matches_iff fun h => Int.ne_of_lt hlast h.1, Bool.or_eq_true,
    NumberSet.isEmpty, List.isEmpty_iff, NumberSet.contains_iff]
  rfl

/-- No day of any year is named: the 31st of months that are shorter, or the 30th and 31st of February. -/
def NamesNothing (days : MonthDays) (months : NumberSet) : Prop :=
  days.fromEnd.toList = [] ∧
    (days.days.toList = [31] ∧ months.toList ≠ [] ∧ (∀ month ∈ months.toList, month ∈ [2, 4, 6, 9, 11]) ∨
      months.toList = [2] ∧ ∀ day ∈ days.days.toList, day = 30 ∨ day = 31)

/-- February 29 is named, and besides it only days that February never has. -/
def NamesLeapDay (days : MonthDays) (months : NumberSet) : Prop :=
  days.fromEnd.toList = [] ∧ months.toList = [2] ∧ 29 ∈ days.days.toList ∧
    ∀ day ∈ days.days.toList, day = 29 ∨ day = 30 ∨ day = 31

private theorem day_le_of_february (hmonth : d.month = 2) : d.day ≤ 29 := by
  have hlength := d.isDate.2.2
  rw [hmonth, monthLength_eq, show leastLength 2 = 28 from rfl] at hlength
  split at hlength <;> omega

private theorem NamesNothing.not_names (hnothing : NamesNothing days months) : ¬ Names days months d := by
  rintro ⟨hmonth, hday⟩
  obtain ⟨hfromEnd, hshape⟩ := hnothing
  have hlength := d.isDate.2.2
  rcases hday with hday | ⟨offset, hoffset, _⟩
  · rcases hshape with ⟨hdays, hsome, hshort⟩ | ⟨hmonths, hdays⟩
    · rw [hdays, List.mem_singleton] at hday
      have hmem := hshort _ (hmonth.resolve_left hsome)
      simp only [List.mem_cons, List.not_mem_nil, or_false] at hmem
      rcases hmem with hmem | hmem | hmem | hmem | hmem
      · have hfebruary := day_le_of_february hmem
        omega
      all_goals
        rw [hmem, hday] at hlength
        exact absurd hlength (show ¬ 31 ≤ 30 by omega)
    · rw [Allows, hmonths, List.mem_singleton] at hmonth
      have hfebruary := day_le_of_february (hmonth.resolve_left (List.cons_ne_nil _ _))
      have hlate := hdays _ hday
      omega
  · rw [hfromEnd] at hoffset
    exact absurd hoffset List.not_mem_nil

/-- A rule that names February 29 alone names exactly the leap days. -/
theorem NamesLeapDay.names_iff (hleap : NamesLeapDay days months) :
    Names days months d ↔ d.month = 2 ∧ d.day = 29 := by
  obtain ⟨hfromEnd, hmonths, htwentyNine, hdays⟩ := hleap
  constructor
  · rintro ⟨hmonth, hday⟩
    rw [Allows, hmonths, List.mem_singleton] at hmonth
    have hmonth := hmonth.resolve_left (List.cons_ne_nil _ _)
    refine ⟨hmonth, ?_⟩
    rcases hday with hday | ⟨offset, hoffset, _⟩
    · have hfebruary := day_le_of_february hmonth
      have hlate := hdays _ hday
      omega
    · rw [hfromEnd] at hoffset
      exact absurd hoffset List.not_mem_nil
  · rintro ⟨hmonth, hday⟩
    rw [Names, Allows, hmonth, hday, hmonths]
    exact ⟨.inr List.mem_cons_self, .inl htwentyNine⟩

private theorem leastLength_eq {month : Nat} (hmonth : 1 ≤ month ∧ month ≤ 12) :
    leastLength month = 31 ∨ leastLength month = 28 ∧ month = 2 ∨
      leastLength month = 30 ∧ month ∈ [4, 6, 9, 11] := by
  obtain ⟨hfirst, hlast⟩ := hmonth
  interval_cases month <;> decide

/-- Where each listed day is one that some year leaves an allowed month without, no day is named but
perhaps February 29. -/
theorem names_scarcely_of_late (hrule : Rule.WellFormed (.monthly days months))
    (hfromEnd : days.fromEnd.toList = [])
    (hlate : ∀ month, 1 ≤ month ∧ month ≤ 12 → Allows months month →
      ∀ day ∈ days.days.toList, leastLength month < day) :
    NamesNothing days months ∨ NamesLeapDay days months := by
  obtain ⟨hentries, hdays, _, hmonths⟩ := hrule
  have hsome : days.days.toList ≠ [] :=
    (Rule.entries_ne_nil_iff.mp hentries).resolve_right fun h => h hfromEnd
  obtain ⟨day, hday⟩ := List.exists_mem_of_ne_nil _ hsome
  have hdayMax := (hdays day hday).2
  have hlisted : months.toList ≠ [] := by
    intro hnone
    have hjanuary : 31 < day := hlate 1 (by omega) (.inl hnone) day hday
    omega
  have hshort (month : Nat) (hmonth : month ∈ months.toList) :
      leastLength month = 28 ∧ month = 2 ∨ leastLength month = 30 ∧ month ∈ [4, 6, 9, 11] := by
    have hlateDay := hlate month (hmonths month hmonth) (.inr hmonth) day hday
    refine (leastLength_eq (hmonths month hmonth)).resolve_left ?_
    omega
  by_cases hthirty : ∃ month ∈ months.toList, leastLength month = 30
  · obtain ⟨month, hmonth, hlength⟩ := hthirty
    refine .inl ⟨hfromEnd, .inl ⟨NumberSet.toList_eq_singleton hsome fun other hother => ?_, hlisted, ?_⟩⟩
    · have hlateDay := hlate month (hmonths month hmonth) (.inr hmonth) other hother
      have hmax := (hdays other hother).2
      omega
    · intro other hother
      rcases hshort other hother with ⟨_, rfl⟩ | ⟨_, hmem⟩
      · exact List.mem_cons_self
      · exact List.mem_cons_of_mem 2 hmem
  · have htwo (month : Nat) (hmonth : month ∈ months.toList) : month = 2 :=
      ((hshort month hmonth).resolve_right fun h => hthirty ⟨month, hmonth, h.1⟩).2
    have hfebruary := NumberSet.toList_eq_singleton hlisted htwo
    have hend (other : Nat) (hother : other ∈ days.days.toList) : other = 29 ∨ other = 30 ∨ other = 31 := by
      have hlateDay : 28 < other :=
        hlate 2 (by omega) (.inr (hfebruary ▸ List.mem_cons_self)) other hother
      have hmax := (hdays other hother).2
      omega
    by_cases htwentyNine : 29 ∈ days.days.toList
    · exact .inr ⟨hfromEnd, hfebruary, htwentyNine, hend⟩
    · refine .inl ⟨hfromEnd, .inr ⟨hfebruary, fun other hother => ?_⟩⟩
      refine (hend other hother).resolve_left ?_
      rintro rfl
      exact htwentyNine hother

private theorem exists_allowed (hrule : Rule.WellFormed (.monthly days months)) :
    ∃ month, (1 ≤ month ∧ month ≤ 12) ∧ Allows months month := by
  by_cases hnone : months.toList = []
  · exact ⟨1, by omega, .inl hnone⟩
  · obtain ⟨month, hmonth⟩ := List.exists_mem_of_ne_nil _ hnone
    exact ⟨month, hrule.2.2.2 month hmonth, .inr hmonth⟩

/-- All other rules name a day within the 366 days after any day. -/
theorem exists_named (hrule : Rule.WellFormed (.monthly days months)) (hnothing : ¬ NamesNothing days months)
    (hleap : ¬ NamesLeapDay days months) (start : Date) (hend : start.year < maxYear) :
    ∃ d, Names days months d ∧ start < d ∧ d.dayNumber ≤ start.dayNumber + 366 := by
  by_cases hfromEnd : days.fromEnd.toList = []
  · -- A listed day that an allowed month has in every year comes round on that day.
    have hyearly : ∃ month, (1 ≤ month ∧ month ≤ 12) ∧ Allows months month ∧
        ∃ day ∈ days.days.toList, day ≤ leastLength month := by
      by_contra hnone
      push Not at hnone
      rcases names_scarcely_of_late hrule hfromEnd hnone with hnever | honly
      · exact hnothing hnever
      · exact hleap honly
    obtain ⟨month, hmonth, hallowed, day, hday, hle⟩ := hyearly
    have hpos := (hrule.2.1 day hday).1
    obtain ⟨d, ⟨hdMonth, hdDay⟩, hafter, hnear⟩ :=
      Date.exists_within_year (P := fun d => d.month = month ∧ d.day = day) start hend
        (fun year hyear => ⟨⟨year, month, day, hyear, hpos, Nat.le_trans hle (leastLength_le year month)⟩,
          rfl, rfl, rfl⟩)
        (fun a b ha hb hyear =>
          Date.dayNumber_le_of_next_year hyear (by omega) (.inl (by omega)))
    exact ⟨d, ⟨hdMonth ▸ hallowed, .inl (hdDay ▸ hday)⟩, hafter, hnear⟩
  · -- A day counted from the end comes round as far from the end, in any month.
    obtain ⟨offset, hoffset⟩ := List.exists_mem_of_ne_nil _ hfromEnd
    obtain ⟨month, hmonth, hallowed⟩ := exists_allowed hrule
    have hrange := hrule.2.2.1 offset hoffset
    obtain ⟨d, ⟨hdMonth, hdDay⟩, hafter, hnear⟩ :=
      Date.exists_within_year
        (P := fun d => d.month = month ∧ d.day + offset = monthLength d.year d.month + 1) start hend
        (fun year hyear => by
          have hlength := le_monthLength year hmonth.1 hmonth.2
          refine ⟨⟨year, month, monthLength year month + 1 - offset, hyear, ?_, ?_⟩, rfl, rfl, ?_⟩
          · omega
          · omega
          · dsimp only
            omega)
        (fun a b ha hb hyear =>
          Date.dayNumber_le_of_next_year hyear (by omega) (.inr (by omega)))
    exact ⟨d, ⟨hdMonth ▸ hallowed, .inr ⟨offset, hoffset, hdDay⟩⟩, hafter, hnear⟩

/-- Days searched from a start in a year up to 262139 come before the last year of the calendar. -/
theorem year_lt_of_near {start : Date} (hstart : start.year ≤ 262139)
    (hnear : d.dayNumber < start.dayNumber + 730) : d.year < maxYear := by
  by_contra hlate
  have hordinal := start.ordinal_le_yearLength
  have hnext := daysBeforeYear_succ start.year
  have hmono := daysBeforeYear_mono (show start.year + 1 ≤ 262140 by omega)
  have hmax := daysBeforeYear_mono (show maxYear ≤ d.year by omega)
  have hpos := d.ordinal_pos
  have hstartEnd : daysBeforeYear 262140 + 731 = daysBeforeYear maxYear := by decide
  unfold Date.dayNumber at hnear
  omega

/-- The first date after the reference, and not before the anchor, that a rule names. -/
structure IsFirstNamed (days : MonthDays) (months : NumberSet) (reference anchor d : Date) : Prop where
  names : Names days months d
  after : reference < d
  anchor_le : anchor ≤ d
  first : ∀ e, Names days months e → reference < e → anchor ≤ e → d ≤ e

/-- The search finds the first date that the rule names, or none is named in the 730 days from its start. -/
theorem nextMonthly_named (days : MonthDays) (months : NumberSet)
    (hstart : (anchor.later reference).year ≤ 262139) :
    (∃ d, next reference anchor (.monthly days months) = .ok d ∧
        IsFirstNamed days months reference anchor d ∧ (anchor.later reference).daysUntil d ≤ 729) ∨
      (next reference anchor (.monthly days months) = .error (.searchExhausted (.monthly days months) 730) ∧
        ∀ d, Names days months d → reference < d → anchor ≤ d →
          729 < (anchor.later reference).daysUntil d) := by
  unfold Date.daysUntil
  rcases nextMonthly_spec reference anchor days months with ⟨d, hnext, hd, hmem⟩ | ⟨herror, hnone⟩
  · left
    obtain ⟨_, hnear, _⟩ := Date.mem_run.mp hmem
    have hyear := year_lt_of_near hstart hnear
    refine ⟨d, hnext, ⟨(isMonthly_iff hyear).mp hd.fallsOn.2, hd.after, hd.fallsOn.1, ?_⟩, ?_⟩
    · intro e he hafter hanchor
      by_cases heYear : e.year < maxYear
      · exact hd.first e ⟨hanchor, (isMonthly_iff heYear).mpr he⟩ hafter
      · exact .inl (by omega)
    · unfold monthlySearchDays at hnear
      omega
  · right
    refine ⟨herror, fun d hd hafter hanchor => ?_⟩
    by_contra hwithin
    have hnear : d.dayNumber < (anchor.later reference).dayNumber + 730 := by omega
    have hyear := year_lt_of_near hstart hnear
    have hfalls : Rule.FallsOn (.monthly days months) anchor d := ⟨hanchor, (isMonthly_iff hyear).mpr hd⟩
    exact hnone d (Date.mem_run.mpr ⟨later_le_of_fallsOn hfalls hafter, hnear, .inl hyear⟩) hfalls hafter

/-- A rule that names a day of every year has its next date within 366 days. -/
theorem exists_next_within_year (hrule : Rule.WellFormed (.monthly days months))
    (hstart : (anchor.later reference).year ≤ 262139) (hnothing : ¬ NamesNothing days months)
    (hleap : ¬ NamesLeapDay days months) :
    ∃ d, next reference anchor (.monthly days months) = .ok d ∧ (anchor.later reference).daysUntil d ≤ 366 := by
  obtain ⟨e, he, hafter, hnear⟩ := exists_named hrule hnothing hleap (anchor.later reference)
    (by unfold maxYear; omega)
  obtain ⟨hanchor, hreference⟩ := anchor.le_later reference
  replace hanchor := Std.le_trans hanchor (Std.le_of_lt hafter)
  replace hreference := Std.lt_of_le_of_lt hreference hafter
  unfold Date.daysUntil
  rcases nextMonthly_named days months hstart with ⟨d, hnext, hd, _⟩ | ⟨_, hnone⟩
  · have hfirst := hd.first e he hreference hanchor
    rw [Date.le_iff_dayNumber] at hfirst
    exact ⟨d, hnext, by omega⟩
  · have hfar := hnone e he hreference hanchor
    unfold Date.daysUntil at hfar
    omega

/-- Whether a February 29 after the reference, and not before the anchor, is within the days searched. -/
def LeapDayNear (reference anchor : Date) : Prop :=
  ∃ d : Date, (d.month = 2 ∧ d.day = 29) ∧ reference < d ∧ anchor ≤ d ∧
    (anchor.later reference).daysUntil d ≤ 729

/-- The search for a well-formed rule gives up in two cases only, as long as the calendar goes on for it. -/
theorem exhausted_iff (hrule : Rule.WellFormed (.monthly days months))
    (hstart : (anchor.later reference).year ≤ 262139) :
    next reference anchor (.monthly days months) = .error (.searchExhausted (.monthly days months) 730) ↔
      NamesNothing days months ∨ NamesLeapDay days months ∧ ¬ LeapDayNear reference anchor := by
  have hfound := nextMonthly_named days months hstart
  constructor
  · intro hexhausted
    by_cases hnothing : NamesNothing days months
    · exact .inl hnothing
    by_cases hleap : NamesLeapDay days months
    · refine .inr ⟨hleap, ?_⟩
      rintro ⟨d, hd, hafter, hanchor, hnear⟩
      rcases hfound with ⟨_, hnext, _⟩ | ⟨_, hnone⟩
      · rw [hexhausted] at hnext
        cases hnext
      · have hfar := hnone d (hleap.names_iff.mpr hd) hafter hanchor
        omega
    · obtain ⟨d, hnext, _⟩ := exists_next_within_year hrule hstart hnothing hleap
      rw [hexhausted] at hnext
      cases hnext
  · intro hscarce
    rcases hfound with ⟨d, _, hd, hnear⟩ | ⟨herror, _⟩
    · rcases hscarce with hnothing | ⟨hleap, hnone⟩
      · exact absurd hd.names hnothing.not_names
      · exact absurd ⟨d, hleap.names_iff.mp hd.names, hd.after, hd.anchor_le, hnear⟩ hnone
    · exact herror

/-- The next occurrence of a monthly rule that was read, for searches that start in a year up to 262139. It
is the first date that the rule names, and the search gives up exactly where the rule names no day of any
year, or leap days alone of which none is near. Every rule but these comes round within 366 days of the
start. -/
theorem next_monthly_outcome {text : String} (hread : Rule.read text = .ok (.monthly days months))
    (hstart : (anchor.later reference).year ≤ 262139) :
    ((∃ d, next reference anchor (.monthly days months) = .ok d) ∨
      next reference anchor (.monthly days months) = .error (.searchExhausted (.monthly days months) 730)) ∧
    (∀ d, next reference anchor (.monthly days months) = .ok d →
      IsFirstNamed days months reference anchor d) ∧
    (next reference anchor (.monthly days months) = .error (.searchExhausted (.monthly days months) 730) ↔
      NamesNothing days months ∨ NamesLeapDay days months ∧ ¬ LeapDayNear reference anchor) ∧
    (¬ NamesNothing days months → ¬ NamesLeapDay days months →
      ∃ d, next reference anchor (.monthly days months) = .ok d ∧
        (anchor.later reference).daysUntil d ≤ 366) := by
  have hrule := Rule.wellFormed_of_read hread
  refine ⟨?_, fun d hd => ?_, exhausted_iff hrule hstart, exists_next_within_year hrule hstart⟩
  · rcases nextMonthly_named days months hstart with ⟨d, hnext, _⟩ | ⟨herror, _⟩
    · exact .inl ⟨d, hnext⟩
    · exact .inr herror
  · rcases nextMonthly_named days months hstart with ⟨found, hnext, hfound, _⟩ | ⟨herror, _⟩
    · rw [hd] at hnext
      cases hnext
      exact hfound
    · rw [hd] at herror
      cases herror

/-- From March 1, 2022 the next February 29 is 730 days away, one too many; a day later it is found. -/
theorem next_monthly_outcome_leapDay :
    ∃ days months, Rule.read "m 29 2" = .ok (.monthly days months) ∧
      (NamesNothing days months ∨ NamesLeapDay days months ∧
        ¬ LeapDayNear ⟨2022, 3, 1, by decide⟩ ⟨2022, 3, 1, by decide⟩) ∧
      IsFirstNamed days months ⟨2022, 3, 2, by decide⟩ ⟨2022, 3, 2, by decide⟩ ⟨2024, 2, 29, by decide⟩ := by
  have hread : Rule.read "m 29 2" = .ok (.monthly ⟨⟨[29], by decide⟩, ∅⟩ ⟨[2], by decide⟩) := by
    decide +kernel
  have hexhausted :
      next ⟨2022, 3, 1, by decide⟩ ⟨2022, 3, 1, by decide⟩ (.monthly ⟨⟨[29], by decide⟩, ∅⟩ ⟨[2], by decide⟩) =
        .error (.searchExhausted (.monthly ⟨⟨[29], by decide⟩, ∅⟩ ⟨[2], by decide⟩) 730) := by
    decide +kernel
  have hfound :
      next ⟨2022, 3, 2, by decide⟩ ⟨2022, 3, 2, by decide⟩ (.monthly ⟨⟨[29], by decide⟩, ∅⟩ ⟨[2], by decide⟩) =
        .ok ⟨2024, 2, 29, by decide⟩ := by
    decide +kernel
  exact ⟨_, _, hread, (next_monthly_outcome hread (by decide)).2.2.1.mp hexhausted,
    (next_monthly_outcome hread (by decide)).2.1 _ hfound⟩

end Occurrence

end Daybook
