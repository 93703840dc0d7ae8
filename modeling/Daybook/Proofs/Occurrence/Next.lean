import Daybook.Proofs.Occurrence.Annual
import Daybook.Proofs.Occurrence.Interval

namespace Daybook.Occurrence

variable {rule : Rule} {reference anchor : Date}

/-- The dates of a rule after the reference are none before the start of the search for them. -/
theorem later_le_of_fallsOn {d : Date} (hfalls : rule.FallsOn anchor d) (hafter : reference < d) :
    anchor.later reference ≤ d :=
  Date.later_le_iff.mpr ⟨hfalls.anchor_le, Std.le_of_lt hafter⟩

/-- A search that accepts the dates of a rule after the reference finds the next one, unless there is
none among the days searched. -/
theorem search_spec {accepts : Date → Bool} {count : Nat}
    (haccepts : ∀ d, anchor.later reference ≤ d →
      (accepts d = true ↔ rule.FallsOn anchor d ∧ reference < d)) :
    (∃ d, orExhausted rule count ((Date.run count (anchor.later reference)).find? accepts) = .ok d ∧
        rule.IsNext reference anchor d ∧ d ∈ Date.run count (anchor.later reference)) ∨
      (orExhausted rule count ((Date.run count (anchor.later reference)).find? accepts) =
          .error (.searchExhausted rule count) ∧
        ∀ d ∈ Date.run count (anchor.later reference), rule.FallsOn anchor d → ¬ reference < d) := by
  cases hfound : (Date.run count (anchor.later reference)).find? accepts with
  | some d =>
    left
    obtain ⟨hmem, haccepted, hfirst⟩ := Date.find?_run_eq_some_iff.mp hfound
    obtain ⟨hfalls, hafter⟩ := (haccepts d (Date.mem_run.mp hmem).1).mp haccepted
    refine ⟨d, rfl, ⟨hfalls, hafter, fun e he hre => ?_⟩, hmem⟩
    have hstart := later_le_of_fallsOn he hre
    exact hfirst e hstart ((haccepts e hstart).mpr ⟨he, hre⟩)
  | none =>
    right
    refine ⟨rfl, fun d hmem hfalls hafter => ?_⟩
    have hrejected := List.find?_eq_none.mp hfound d hmem
    exact hrejected ((haccepts d (Date.mem_run.mp hmem).1).mpr ⟨hfalls, hafter⟩)

/-- A weekly search gives the next date of the rule, or there is none among the days searched. -/
theorem nextWeekly_spec (reference anchor : Date) (weekdays : NumberSet) :
    (∃ d, next reference anchor (.weekly weekdays) = .ok d ∧
        Rule.IsNext (.weekly weekdays) reference anchor d ∧
        d ∈ Date.run weeklySearchDays (anchor.later reference)) ∨
      (next reference anchor (.weekly weekdays) =
          .error (.searchExhausted (.weekly weekdays) weeklySearchDays) ∧
        ∀ d ∈ Date.run weeklySearchDays (anchor.later reference),
          Rule.FallsOn (.weekly weekdays) anchor d → ¬ reference < d) := by
  unfold next nextWeekly?
  apply search_spec
  intro d hstart
  simp only [Bool.and_eq_true, Date.strictlyAfter_iff, Rule.FallsOn, (Date.later_le_iff.mp hstart).1,
    true_and]

/-- A monthly search gives the next date of the rule, or there is none among the days searched. -/
theorem nextMonthly_spec (reference anchor : Date) (days : MonthDays) (months : NumberSet) :
    (∃ d, next reference anchor (.monthly days months) = .ok d ∧
        Rule.IsNext (.monthly days months) reference anchor d ∧
        d ∈ Date.run monthlySearchDays (anchor.later reference)) ∨
      (next reference anchor (.monthly days months) =
          .error (.searchExhausted (.monthly days months) monthlySearchDays) ∧
        ∀ d ∈ Date.run monthlySearchDays (anchor.later reference),
          Rule.FallsOn (.monthly days months) anchor d → ¬ reference < d) := by
  unfold next nextMonthly?
  apply search_spec
  intro d hstart
  simp only [Bool.and_eq_true, Date.strictlyAfter_iff, Rule.FallsOn, (Date.later_le_iff.mp hstart).1,
    true_and, decide_true, and_true]

/-- The next occurrence of a rule is its next date, found among the days searched, or there is no such
date. -/
theorem next_spec (reference anchor : Date) (rule : Rule) :
    (∃ d, next reference anchor rule = .ok d ∧ rule.IsNext reference anchor d ∧
        rule.Reaches (anchor.later reference) d) ∨
      (∃ cause, next reference anchor rule = .error cause ∧
        ∀ d, rule.FallsOn anchor d → reference < d → ¬ rule.Reaches (anchor.later reference) d) := by
  cases rule with
  | annual =>
    rcases nextAnnual_spec reference anchor with ⟨d, hnext, hd⟩ | ⟨_, herror, _, _, hnone⟩
    · exact .inl ⟨d, hnext, hd, fun count hcount => nomatch hcount⟩
    · exact .inr ⟨_, herror, fun d hfalls hafter _ => hnone d hfalls hafter⟩
  | interval days =>
    rcases nextInterval_spec reference anchor days with ⟨d, hnext, hd⟩ | ⟨cause, herror, hnone⟩
    · exact .inl ⟨d, hnext, hd, fun count hcount => nomatch hcount⟩
    · exact .inr ⟨cause, herror, fun d hfalls hafter _ => hnone d hfalls hafter⟩
  | weekly weekdays =>
    rcases nextWeekly_spec reference anchor weekdays with ⟨d, hnext, hd, hmem⟩ | ⟨herror, hnone⟩
    · refine .inl ⟨d, hnext, hd, fun count hcount => ?_⟩
      cases hcount
      exact hmem
    · exact .inr ⟨_, herror, fun d hfalls hafter hreach => hnone d (hreach _ rfl) hfalls hafter⟩
  | monthly days months =>
    rcases nextMonthly_spec reference anchor days months with ⟨d, hnext, hd, hmem⟩ | ⟨herror, hnone⟩
    · refine .inl ⟨d, hnext, hd, fun count hcount => ?_⟩
      cases hcount
      exact hmem
    · exact .inr ⟨_, herror, fun d hfalls hafter hreach => hnone d (hreach _ rfl) hfalls hafter⟩

/-- The next occurrence of a rule is the first of its dates after the reference, so far as the search
for it goes. -/
theorem next_eq_ok_iff {d : Date} :
    next reference anchor rule = .ok d ↔
      rule.IsNext reference anchor d ∧ rule.Reaches (anchor.later reference) d := by
  rcases next_spec reference anchor rule with ⟨found, hnext, hfound⟩ | ⟨cause, herror, hnone⟩
  · rw [hnext, Except.ok.injEq]
    constructor
    · rintro rfl
      exact hfound
    · rintro ⟨hd, _⟩
      exact hfound.1.unique hd
  · rw [herror]
    constructor
    · intro hok
      cases hok
    · rintro ⟨hd, hreach⟩
      exact absurd hreach (hnone d hd.fallsOn hd.after)

end Daybook.Occurrence
