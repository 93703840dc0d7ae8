import Daybook.Proofs.Occurrence.Next

namespace Daybook

namespace Rule

variable {rule : Rule} {reference other anchor d : Date}

/-- The search moves along with its start and still comes to a date that it has not passed. -/
theorem Reaches.of_le {start : Date} (hreach : rule.Reaches start d) (hstart : start ≤ other)
    (hd : other ≤ d) : rule.Reaches other d := by
  intro count hcount
  obtain ⟨_, hnear, hlast⟩ := Date.mem_run.mp (hreach count hcount)
  rw [Date.le_iff_dayNumber] at hstart
  apply Date.mem_run.mpr
  exact ⟨hd, by omega, hlast⟩

/-- A next date is still the next one from any later reference before it. -/
theorem IsNext.of_le (hd : rule.IsNext reference anchor d) (hle : reference ≤ other) (hlt : other < d) :
    rule.IsNext other anchor d := by
  refine ⟨hd.fallsOn, hlt, fun e he hafter => ?_⟩
  exact hd.first e he (Std.lt_of_le_of_lt hle hafter)

end Rule

namespace Occurrence

variable {rule : Rule} {reference other anchor d e : Date}

private theorem later_le_later (hle : reference ≤ other) : anchor.later reference ≤ anchor.later other := by
  obtain ⟨hanchor, hother⟩ := anchor.le_later other
  exact Date.later_le_iff.mpr ⟨hanchor, Std.le_trans hle hother⟩

/-- The answer stays the same as long as the reference stays before it. -/
theorem next_eq_of_lt (hle : reference ≤ other) (hnext : next reference anchor rule = .ok d)
    (hlt : other < d) : next other anchor rule = .ok d := by
  obtain ⟨hd, hreach⟩ := next_eq_ok_iff.mp hnext
  have hother := hd.of_le hle hlt
  apply next_eq_ok_iff.mpr
  exact ⟨hother, hreach.of_le (later_le_later hle) (later_le_of_fallsOn hother.fallsOn hlt)⟩

/-- A later reference never has an earlier answer. -/
theorem next_le_next (hle : reference ≤ other) (hd : next reference anchor rule = .ok d)
    (he : next other anchor rule = .ok e) : d ≤ e := by
  obtain ⟨hdNext, _⟩ := next_eq_ok_iff.mp hd
  obtain ⟨heNext, _⟩ := next_eq_ok_iff.mp he
  exact hdNext.first e heNext.fallsOn (Std.lt_of_le_of_lt hle heNext.after)

/-- Asked on a later day, a rule of any kind gives the same next occurrence as long as that day is before
it, and never an earlier one: where both days have an answer, the answers differ exactly if the first one
has been reached. -/
theorem next_stays_until_reached (rule : Rule) (anchor : Date) {reference other : Date}
    (hle : reference ≤ other) :
    (∀ d, next reference anchor rule = .ok d → other < d → next other anchor rule = .ok d) ∧
      ∀ d e, next reference anchor rule = .ok d → next other anchor rule = .ok e →
        d ≤ e ∧ (d = e ↔ other < d) := by
  refine ⟨fun d hd hlt => next_eq_of_lt hle hd hlt, fun d e hd he => ⟨next_le_next hle hd he, ?_⟩⟩
  constructor
  · rintro rfl
    exact (next_eq_ok_iff.mp he).1.after
  · intro hlt
    have hsame := next_eq_of_lt hle hd hlt
    rw [he] at hsame
    cases hsame
    rfl

/-- The next February 29 is found on the last of the days searched, and asked for again on the day before
it. -/
theorem next_stays_until_reached_leapDay :
    (⟨2022, 3, 2, by decide⟩ : Date) ≤ ⟨2024, 2, 28, by decide⟩ ∧
      next ⟨2022, 3, 2, by decide⟩ ⟨2020, 1, 1, by decide⟩ (.monthly ⟨⟨[29], by decide⟩, ∅⟩ ⟨[2], by decide⟩) =
        .ok ⟨2024, 2, 29, by decide⟩ ∧
      next ⟨2024, 2, 28, by decide⟩ ⟨2020, 1, 1, by decide⟩ (.monthly ⟨⟨[29], by decide⟩, ∅⟩ ⟨[2], by decide⟩) =
        .ok ⟨2024, 2, 29, by decide⟩ := by
  have hle : (⟨2022, 3, 2, by decide⟩ : Date) ≤ ⟨2024, 2, 28, by decide⟩ := by decide
  have hnext : next ⟨2022, 3, 2, by decide⟩ ⟨2020, 1, 1, by decide⟩
      (.monthly ⟨⟨[29], by decide⟩, ∅⟩ ⟨[2], by decide⟩) = .ok ⟨2024, 2, 29, by decide⟩ := by
    decide +kernel
  exact ⟨hle, hnext, (next_stays_until_reached _ _ hle).1 _ hnext (by decide)⟩

end Occurrence

end Daybook
