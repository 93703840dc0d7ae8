import Daybook.Proofs.Calendar.Weekday
import Daybook.Proofs.Occurrence.Next
import Daybook.Proofs.Rule.WellFormed

namespace Daybook.Occurrence

variable {reference anchor d : Date} {weekdays : NumberSet}

/-- Whether a day is one of the listed days of the week. -/
def ListsWeekday (weekdays : NumberSet) (d : Date) : Prop :=
  ∃ n ∈ weekdays.toList, d.IsWeekday n

/-- The first of the listed days that is after the reference and not before the anchor. -/
structure IsFirstListed (weekdays : NumberSet) (reference anchor d : Date) : Prop where
  lists : ListsWeekday weekdays d
  after : reference < d
  anchor_le : anchor ≤ d
  first : ∀ e, ListsWeekday weekdays e → reference < e → anchor ≤ e → d ≤ e

private theorem listsWeekday_iff : ListsWeekday weekdays d ↔ weekdays.contains d.weekday = true := by
  simp [ListsWeekday, NumberSet.contains_iff, ← Date.weekday_eq_iff]

private theorem isNext_weekly_iff :
    Rule.IsNext (.weekly weekdays) reference anchor d ↔ IsFirstListed weekdays reference anchor d := by
  constructor
  · rintro ⟨⟨hanchor, hlisted⟩, hafter, hfirst⟩
    refine ⟨listsWeekday_iff.mpr hlisted, hafter, hanchor, fun e he hre hle => ?_⟩
    exact hfirst e ⟨hle, listsWeekday_iff.mp he⟩ hre
  · rintro ⟨hlisted, hafter, hanchor, hfirst⟩
    refine ⟨⟨hanchor, listsWeekday_iff.mp hlisted⟩, hafter, fun e he hre => ?_⟩
    exact hfirst e (listsWeekday_iff.mpr he.2) hre he.1

private theorem nextWeekly?_eq_some_iff :
    nextWeekly? reference anchor weekdays = some d ↔ next reference anchor (.weekly weekdays) = .ok d := by
  rw [next]
  cases nextWeekly? reference anchor weekdays <;> simp [orExhausted]

/-- A search that starts a week or more before the last day of the calendar comes to each day of the week. -/
theorem exists_listed_near (reference anchor : Date) {n : Nat} (hlisted : n ∈ weekdays.toList) (hn : 1 ≤ n ∧ n ≤ 7)
    (hroom : (anchor.later reference).dayNumber + 7 < Date.last.dayNumber) :
    ∃ d, Rule.FallsOn (.weekly weekdays) anchor d ∧ reference < d ∧
      d ∈ Date.run weeklySearchDays (anchor.later reference) ∧
      (anchor.later reference).daysUntil d ≤ 7 := by
  obtain ⟨hanchor, hreference⟩ := anchor.le_later reference
  obtain ⟨d, hweekday, hafter, hnear⟩ := Date.exists_weekday_after (anchor.later reference) hn (by omega)
  have hstart := Std.le_of_lt hafter
  refine ⟨d, ⟨Std.le_trans hanchor hstart, ?_⟩, Std.lt_of_le_of_lt hreference hafter, ?_, ?_⟩
  · rw [hweekday, NumberSet.contains_iff]
    exact hlisted
  · rw [Date.mem_run, Date.lt_iff_dayNumber]
    unfold weeklySearchDays
    exact ⟨hstart, by omega, by omega⟩
  · unfold Date.daysUntil
    omega

/-- A rule that lists a day of the week finds one within seven days, whatever else is in its list, as long as the
calendar goes on so far. -/
theorem exists_nextWeekly {n : Nat} (hlisted : n ∈ weekdays.toList) (hn : 1 ≤ n ∧ n ≤ 7)
    (hroom : (anchor.later reference).dayNumber + 7 < Date.last.dayNumber) :
    ∃ d, nextWeekly? reference anchor weekdays = some d ∧ (anchor.later reference).daysUntil d ≤ 7 := by
  obtain ⟨e, hfalls, hafter, hmem, hnear⟩ := exists_listed_near reference anchor hlisted hn hroom
  rcases nextWeekly_spec reference anchor weekdays with ⟨d, hnext, hd, _⟩ | ⟨_, hnone⟩
  · refine ⟨d, nextWeekly?_eq_some_iff.mpr hnext, ?_⟩
    have hle := Date.le_iff_dayNumber.mp (hd.first e hfalls hafter)
    unfold Date.daysUntil at *
    omega
  · exact absurd hafter (hnone e hmem hfalls)

/-- What the search of a weekly rule finds is the first listed day after the reference and not before the
anchor, whatever numbers the rule lists. If one of them is a day of the week and the search starts eight
days or more before the end of the calendar, it finds a day, at most seven days after its start, so that it
is never exhausted. -/
theorem nextWeekly_firstListed (reference anchor : Date) (weekdays : NumberSet) :
    (∀ d, nextWeekly? reference anchor weekdays = some d → IsFirstListed weekdays reference anchor d) ∧
      ((∃ n ∈ weekdays.toList, 1 ≤ n ∧ n ≤ 7) →
        anchor.later reference ≤ ⟨262142, 12, 23, by decide⟩ →
        ∃ d, nextWeekly? reference anchor weekdays = some d ∧
          (anchor.later reference).daysUntil d ≤ 7) := by
  constructor
  · intro d hfound
    have hnext := next_eq_ok_iff.mp (nextWeekly?_eq_some_iff.mp hfound)
    exact isNext_weekly_iff.mp hnext.1
  · rintro ⟨n, hlisted, hn⟩ hstart
    apply exists_nextWeekly hlisted hn
    have hlast := Date.dayNumber_last
    have hlimit : Date.dayNumber ⟨262142, 12, 23, by decide⟩ = 95745391 := by decide
    rw [Date.le_iff_dayNumber, hlimit] at hstart
    omega

/-- A search that starts on the last Sunday but one ends on the last Sunday, the last day that can be found.
Listed numbers that are no day of the week make no difference. -/
theorem nextWeekly_firstListed_lastSunday :
    (∃ n ∈ [0, 7, 9], 1 ≤ n ∧ n ≤ 7) ∧
      (∃ d, nextWeekly? ⟨262142, 12, 23, by decide⟩ ⟨2024, 1, 1, by decide⟩ ⟨[0, 7, 9], by decide⟩ = some d ∧
        (Date.later ⟨2024, 1, 1, by decide⟩ ⟨262142, 12, 23, by decide⟩).daysUntil d ≤ 7) ∧
      IsFirstListed ⟨[0, 7, 9], by decide⟩ ⟨262142, 12, 23, by decide⟩ ⟨2024, 1, 1, by decide⟩
        ⟨262142, 12, 30, by decide⟩ := by
  have hlisted : ∃ n ∈ [0, 7, 9], 1 ≤ n ∧ n ≤ 7 := ⟨7, by decide, by decide⟩
  have hfound : nextWeekly? ⟨262142, 12, 23, by decide⟩ ⟨2024, 1, 1, by decide⟩ ⟨[0, 7, 9], by decide⟩ =
      some ⟨262142, 12, 30, by decide⟩ := by
    decide +kernel
  obtain ⟨hfirst, hexists⟩ := nextWeekly_firstListed ⟨262142, 12, 23, by decide⟩ ⟨2024, 1, 1, by decide⟩
    ⟨[0, 7, 9], by decide⟩
  exact ⟨hlisted, hexists hlisted (by decide), hfirst _ hfound⟩

end Daybook.Occurrence
