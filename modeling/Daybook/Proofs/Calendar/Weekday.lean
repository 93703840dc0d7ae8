import Daybook.Proofs.Calendar.Succession

namespace Daybook.Date

/-- A Monday, from which the weeks before and after it are counted. -/
def monday : Date :=
  ⟨2024, 1, 15, by decide⟩

/-- Whether a date is this day of its week, 1 for Monday up to 7 for Sunday. -/
structure IsWeekday (d : Date) (n : Nat) : Prop where
  one_le : 1 ≤ n
  le_seven : n ≤ 7
  weeks : ∃ weeks : Int, monday.daysUntil d = 7 * weeks + (n - 1)

/-- The day of the week is the one that whole weeks from a Monday leave over, for dates before that Monday too. -/
theorem weekday_eq_iff {d : Date} {n : Nat} : d.weekday = n ↔ d.IsWeekday n := by
  have hmonday : monday.dayNumber = 738900 := by decide
  have huntil : monday.daysUntil d = d.dayNumber - 738900 := by
    unfold daysUntil
    rw [hmonday]
  unfold weekday
  constructor
  · intro hn
    refine ⟨by omega, by omega, (d.dayNumber - 1) / 7 - 105557, ?_⟩
    omega
  · rintro ⟨hone, hseven, weeks, hweeks⟩
    omega

/-- Each day of the week comes within seven days after any date, as long as the calendar goes on so far. -/
theorem exists_weekday_after (start : Date) {n : Nat} (hn : 1 ≤ n ∧ n ≤ 7)
    (hroom : start.dayNumber + 7 ≤ last.dayNumber) :
    ∃ d : Date, d.weekday = n ∧ start < d ∧ d.dayNumber ≤ start.dayNumber + 7 := by
  -- From the day after the start, go on to the next day with this weekday.
  obtain ⟨skip, hskip⟩ : ∃ skip : Nat, skip = ((n : Int) - 1 - start.dayNumber) % 7 :=
    ⟨_, Int.toNat_of_nonneg (Int.emod_nonneg _ (by decide))⟩
  obtain ⟨d, hd⟩ := exists_dayNumber start (skip + 1) (by omega)
  refine ⟨d, ?_, ?_, ?_⟩
  · unfold weekday
    omega
  · rw [lt_iff_dayNumber]
    omega
  · omega

end Daybook.Date
