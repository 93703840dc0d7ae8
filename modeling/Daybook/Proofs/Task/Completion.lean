import Daybook.Proofs.Occurrence.Outcome
import Daybook.Task.Basic

namespace Daybook

namespace Rule

/-- Whether a day is one that a rule names by itself, reckoned from no anchor. Annual and interval rules
name no such days. -/
def Includes : Rule → Date → Prop
  | .annual, _ => False
  | .interval _, _ => False
  | .weekly weekdays, d => weekdays.contains d.weekday = true
  | .monthly days months, d => Occurrence.isMonthly days months d = true

/-- A rule has its anchor among its dates exactly where it names that day. -/
theorem fallsOn_self_iff {rule : Rule} (hrule : rule.WellFormed) {d : Date} :
    rule.FallsOn d d ↔ rule.Includes d := by
  have hle := Std.le_refl d
  cases rule with
  | annual =>
    refine iff_of_false ?_ not_false
    rintro ⟨hyear, _⟩
    omega
  | interval days =>
    refine iff_of_false ?_ not_false
    rintro ⟨steps, hone, hnumber⟩
    have hpos : (0 : Int) < steps * days := by exact_mod_cast Nat.mul_pos hone hrule.1
    omega
  | weekly weekdays => simp only [FallsOn, Includes, hle, true_and]
  | monthly days months => simp only [FallsOn, Includes, hle, true_and]

/-- The rules that name days have them for their dates, whatever the anchor. -/
theorem includes_iff_of_fallsOn {rule : Rule} {anchor d : Date} (hfalls : rule.FallsOn anchor d) :
    rule.Includes d ↔ rule.kind = .weeklySet ∨ rule.kind = .monthlySet := by
  cases rule with
  | annual => simp only [Includes, kind, reduceCtorEq, or_self]
  | interval days => simp only [Includes, kind, reduceCtorEq, or_self]
  | weekly weekdays => exact iff_of_true hfalls.2 (.inl rfl)
  | monthly days months => exact iff_of_true hfalls.2 (.inr rfl)

end Rule

namespace Occurrence

/-- The next occurrence is the anchor itself exactly where the anchor is after the reference and one of
the days that the rule names. -/
theorem next_eq_anchor_iff {reference anchor : Date} {rule : Rule} (hrule : rule.WellFormed)
    (hanchor : anchor.year ≤ 9999) :
    next reference anchor rule = .ok anchor ↔ reference < anchor ∧ rule.Includes anchor := by
  rw [next_eq_ok_iff, ← Rule.fallsOn_self_iff hrule]
  constructor
  · rintro ⟨⟨hfalls, hafter, _⟩, _⟩
    exact ⟨hafter, hfalls⟩
  · rintro ⟨hafter, hfalls⟩
    refine ⟨⟨hfalls, hafter, fun e he _ => he.anchor_le⟩, fun count hcount => ?_⟩
    have hpos : 0 < count := by
      cases rule <;> cases hcount <;> decide
    have hlast := Date.dayNumber_last
    have hnumber := dayNumber_le_of_year_le hanchor
    rw [Date.lt_iff_dayNumber] at hafter
    rw [Date.mem_run, Date.le_iff_dayNumber, Date.lt_iff_dayNumber, Date.dayNumber_later]
    omega

end Occurrence

namespace Task

variable {task : Task} {today day : Date} {rule : Rule}

private theorem isRecurring_of_read (hrule : Rule.read task.repeatRule = .ok rule) :
    task.isRecurring = true := by
  rw [isRecurring, Rule.allBlank_of_read hrule]
  rfl

/-- A task that is done is due again on the next date of its rule, if it repeats, and on no other. -/
theorem complete_eq_ok_reschedule_iff {text : String} :
    task.complete today = .ok (.reschedule text) ↔
      task.isRecurring = true ∧ Occurrence.nextText today.start task.date task.repeatRule = .ok text := by
  unfold complete nextDate
  cases task.isRecurring with
  | false => simp
  | true => simp [map_eq_ok_iff, mapError_eq_ok_iff]

/-- A task is rescheduled to the next occurrence of its rule, if that fits the compact form. -/
theorem complete_eq_reschedule_iff (hdate : Date.read task.date = .ok day)
    (hrule : Rule.read task.repeatRule = .ok rule) {text : String} :
    task.complete today = .ok (.reschedule text) ↔
      ∃ next, Occurrence.next today day rule = .ok next ∧ Date.read text = .ok next := by
  rw [complete_eq_ok_reschedule_iff, Occurrence.nextText_eq_ok_iff, Occurrence.date?_start, hdate, hrule]
  constructor
  · rintro ⟨_, _, _, _, next, hday, hrule, htoday, hnext⟩
    cases hday
    cases hrule
    cases htoday
    exact ⟨next, hnext⟩
  · rintro ⟨next, hnext⟩
    exact ⟨isRecurring_of_read hrule, day, rule, today, next, rfl, rfl, rfl, hnext⟩

/-- Completing a task leaves it on its date exactly where that date is after today and one of the days
that its rule names. -/
theorem complete_eq_self_iff (hdate : Date.read task.date = .ok day)
    (hrule : Rule.read task.repeatRule = .ok rule) :
    task.complete today = .ok (.reschedule task.date) ↔ today < day ∧ rule.Includes day := by
  have hfits := (Date.read_eq_ok_iff.mp hdate).1
  rw [complete_eq_reschedule_iff hdate hrule, hdate,
    ← Occurrence.next_eq_anchor_iff (Rule.wellFormed_of_read hrule) (Date.isRepresentable_iff.mp hfits).2]
  simp only [Except.ok.injEq, exists_eq_right']

/-- Every reschedule of a task moves it on, unless it leaves the task where it is. -/
theorem lt_of_complete (hdate : Date.read task.date = .ok day)
    (hrule : Rule.read task.repeatRule = .ok rule) {text : String}
    (hcomplete : task.complete today = .ok (.reschedule text)) (hmoves : text ≠ task.date) :
    ∃ next, Date.read text = .ok next ∧ day < next := by
  obtain ⟨next, hnext, hread⟩ := (complete_eq_reschedule_iff hdate hrule).mp hcomplete
  have hle := (Occurrence.next_eq_ok_iff.mp hnext).1.fallsOn.anchor_le
  have hne : next ≠ day := by
    rintro rfl
    apply hmoves
    rw [(Date.read_eq_ok_iff.mp hread).2, (Date.read_eq_ok_iff.mp hdate).2]
  exact ⟨next, hread, Std.lt_of_le_of_ne hle hne.symm⟩

/-- Completing a task leads past its date unless that is later than today and a day of the rule itself. -/
theorem complete_moves_iff (task : Task) (today : Date) (hdate : Date.read task.date = .ok day)
    (hrule : Rule.read task.repeatRule = .ok rule) :
    (∀ text, task.complete today = .ok (.reschedule text) →
        ∃ next, Date.read text = .ok next ∧ day < next) ↔
      ¬ (today < day ∧ rule.Includes day) := by
  rw [← complete_eq_self_iff hdate hrule]
  constructor
  · intro hmoves hstays
    obtain ⟨next, hnext, hlt⟩ := hmoves _ hstays
    rw [hdate] at hnext
    cases hnext
    exact Std.lt_irrefl hlt
  · intro hstays text hcomplete
    apply lt_of_complete hdate hrule hcomplete
    rintro rfl
    exact hstays hcomplete

/-- When completing a task moves it on. It does so unless the task is due after today on a day that its
rule names, and then the task keeps its date. Completing it once more on the same day moves it once more
exactly where the rule is annual or an interval, because every date that a weekly or monthly rule has led
to is one of the days it names. -/
theorem complete_moves_on_iff (task : Task) (today : Date) (hdate : Date.read task.date = .ok day)
    (hrule : Rule.read task.repeatRule = .ok rule) :
    ((∀ text, task.complete today = .ok (.reschedule text) →
        ∃ next, Date.read text = .ok next ∧ day < next) ↔
      ¬ (today < day ∧ rule.Includes day)) ∧
    (today < day ∧ rule.Includes day → task.complete today = .ok (.reschedule task.date)) ∧
    ∀ text next, task.complete today = .ok (.reschedule text) → Date.read text = .ok next →
      ((∀ again, { task with date := text }.complete today = .ok (.reschedule again) →
          ∃ later, Date.read again = .ok later ∧ next < later) ↔
        ¬ (rule.kind = .weeklySet ∨ rule.kind = .monthlySet)) := by
  refine ⟨complete_moves_iff task today hdate hrule, (complete_eq_self_iff hdate hrule).mpr, ?_⟩
  intro text next hcomplete hread
  obtain ⟨found, hfound, hfoundRead⟩ := (complete_eq_reschedule_iff hdate hrule).mp hcomplete
  have hsame : found = next := by
    rw [hread] at hfoundRead
    cases hfoundRead
    rfl
  subst hsame
  obtain ⟨hfalls, hafter, _⟩ := (Occurrence.next_eq_ok_iff.mp hfound).1
  have hmoved := complete_moves_iff { task with date := text } today hread hrule
  rw [hmoved, Rule.includes_iff_of_fallsOn hfalls]
  simp only [hafter, true_and]

/-- On January 1 a task that is due on Monday, February 5 and repeats on Mondays is completed, and it is
due on February 5 again. -/
theorem complete_keeps_monday :
    Date.read "20240205" = .ok ⟨2024, 2, 5, by decide⟩ ∧
      (∃ weekdays, Rule.read "w 1" = .ok (.weekly weekdays)) ∧
      ∃ text, complete { date := "20240205", title := "Team meeting", repeatRule := "w 1" }
          ⟨2024, 1, 1, by decide⟩ = .ok (.reschedule text) ∧
        ¬ ∃ next, Date.read text = .ok next ∧ ⟨2024, 2, 5, by decide⟩ < next := by
  have hread : Date.read "20240205" = .ok ⟨2024, 2, 5, by decide⟩ := by decide +kernel
  refine ⟨hread, ⟨⟨[1], by decide⟩, by decide +kernel⟩, "20240205", by decide +kernel, ?_⟩
  rintro ⟨next, hnext, hlt⟩
  rw [hread] at hnext
  cases hnext
  rw [Date.lt_iff_dayNumber] at hlt
  omega

/-- Completed on February 5 itself, the same task moves on by a week, and stays there when it is completed
once more on that day. -/
theorem complete_moves_on_monday :
    (∀ text, complete { date := "20240205", title := "Team meeting", repeatRule := "w 1" }
          ⟨2024, 2, 5, by decide⟩ = .ok (.reschedule text) →
        ∃ next, Date.read text = .ok next ∧ ⟨2024, 2, 5, by decide⟩ < next) ∧
      ¬ ∀ again, complete { date := "20240212", title := "Team meeting", repeatRule := "w 1" }
          ⟨2024, 2, 5, by decide⟩ = .ok (.reschedule again) →
        ∃ later, Date.read again = .ok later ∧ ⟨2024, 2, 12, by decide⟩ < later := by
  have hdate : Date.read "20240205" = .ok ⟨2024, 2, 5, by decide⟩ := by decide +kernel
  have hnext : Date.read "20240212" = .ok ⟨2024, 2, 12, by decide⟩ := by decide +kernel
  have hrule : Rule.read "w 1" = .ok (.weekly ⟨[1], by decide⟩) := by decide +kernel
  obtain ⟨hmoves, _, htwice⟩ := complete_moves_on_iff
    { date := "20240205", title := "Team meeting", repeatRule := "w 1" } ⟨2024, 2, 5, by decide⟩
    hdate hrule
  refine ⟨hmoves.mpr fun hstays => absurd hstays.1 (by decide), fun hagain => ?_⟩
  exact (htwice "20240212" _ (by decide +kernel) hnext).mp hagain (.inl rfl)

end Task

end Daybook
