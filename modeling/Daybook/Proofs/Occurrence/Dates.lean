import Daybook.Occurrence.Next
import Daybook.Proofs.Calendar.Search
import Mathlib.Tactic.Ring

namespace Daybook

namespace Date

/-- The month and day of the year on which a date comes round again. February 29, which most years do
not have, comes round on March 1. -/
def anniversary (d : Date) : Nat × Nat :=
  if d.month = 2 ∧ d.day = 29 then (3, 1) else (d.month, d.day)

/-- A date on an anniversary comes round on that same day. -/
theorem anniversary_of_eq {anchor d : Date} (hday : (d.month, d.day) = anchor.anniversary) :
    d.anniversary = anchor.anniversary := by
  unfold anniversary at *
  split at hday <;> rename_i hleap <;> grind

/-- Dates with one anniversary are ordered as their years are. -/
theorem lt_iff_year_of_anniversary {anchor a b : Date}
    (ha : (a.month, a.day) = anchor.anniversary) (hb : (b.month, b.day) = anchor.anniversary) :
    a < b ↔ a.year < b.year := by
  have hsame := ha.trans hb.symm
  rw [Prod.mk.injEq] at hsame
  rw [lt_iff_lex]
  omega

/-- Dates on one anniversary are in the order of their years. -/
theorem le_iff_year_of_anniversary {anchor a b : Date}
    (ha : (a.month, a.day) = anchor.anniversary) (hb : (b.month, b.day) = anchor.anniversary) :
    a ≤ b ↔ a.year ≤ b.year := by
  rw [← Std.not_lt, lt_iff_year_of_anniversary hb ha]
  omega

end Date

namespace Rule

/-- Whether a date is one of the dates of a rule that are reckoned from an anchor. -/
def FallsOn : Rule → Date → Date → Prop
  | .annual, anchor, d => anchor.year < d.year ∧ (d.month, d.day) = anchor.anniversary
  | .interval days, anchor, d =>
    ∃ steps : Nat, 1 ≤ steps ∧ d.dayNumber = anchor.dayNumber + steps * days
  | .weekly weekdays, anchor, d => anchor ≤ d ∧ weekdays.contains d.weekday = true
  | .monthly days months, anchor, d =>
    anchor ≤ d ∧ Occurrence.isMonthly days months d = true

/-- The first of the dates of a rule that is after the reference. -/
structure IsNext (rule : Rule) (reference anchor d : Date) : Prop where
  fallsOn : rule.FallsOn anchor d
  after : reference < d
  first : ∀ e, rule.FallsOn anchor e → reference < e → d ≤ e

/-- The days that are searched for a date of the rule, if its dates are found by a search. -/
def searchDays? : Rule → Option Nat
  | .annual => none
  | .interval _ => none
  | .weekly _ => some Occurrence.weeklySearchDays
  | .monthly _ _ => some Occurrence.monthlySearchDays

/-- Whether the search that begins at a start, if there has to be one, comes to a date. -/
def Reaches (rule : Rule) (start d : Date) : Prop :=
  ∀ count, rule.searchDays? = some count → d ∈ Date.run count start

/-- No date of a rule is before its anchor. -/
theorem FallsOn.anchor_le {rule : Rule} {anchor d : Date} (hfalls : rule.FallsOn anchor d) :
    anchor ≤ d := by
  cases rule with
  | annual => exact .inl hfalls.1
  | interval days =>
    obtain ⟨steps, _, hnumber⟩ := hfalls
    rw [Date.le_iff_dayNumber]
    have hpos := Int.natCast_nonneg (steps * days)
    push_cast at hpos
    omega
  | weekly weekdays => exact hfalls.1
  | monthly days months => exact hfalls.1

/-- There is at most one next date. -/
theorem IsNext.unique {rule : Rule} {reference anchor d e : Date}
    (hd : rule.IsNext reference anchor d) (he : rule.IsNext reference anchor e) : d = e := by
  have hde := hd.first e he.fallsOn he.after
  have hed := he.first d hd.fallsOn hd.after
  exact Std.le_antisymm hde hed

/-- Reckoned from one of its dates, a rule has the same later dates as reckoned from its anchor. -/
theorem FallsOn.reanchor_iff {rule : Rule} {anchor first : Date} (hfirst : rule.FallsOn anchor first)
    {d : Date} (hlater : first < d) : rule.FallsOn first d ↔ rule.FallsOn anchor d := by
  cases rule with
  | annual =>
    obtain ⟨hyear, hday⟩ := hfirst
    simp only [FallsOn, Date.anniversary_of_eq hday]
    constructor
    · rintro ⟨hfirstYear, hd⟩
      exact ⟨by omega, hd⟩
    · rintro ⟨_, hd⟩
      exact ⟨(Date.lt_iff_year_of_anniversary hday hd).mp hlater, hd⟩
  | interval days =>
    obtain ⟨steps, _, hnumber⟩ := hfirst
    rw [Date.lt_iff_dayNumber] at hlater
    constructor
    · rintro ⟨more, hmore, hd⟩
      refine ⟨steps + more, by omega, ?_⟩
      push_cast
      rw [hd, hnumber]
      ring
    · rintro ⟨total, _, hd⟩
      have hmore : steps < total := by
        by_contra hle
        have hmul := Nat.mul_le_mul_right days (Nat.le_of_not_lt hle)
        have hcast : (total * days : Int) ≤ steps * days := by exact_mod_cast hmul
        omega
      obtain ⟨more, rfl⟩ := Nat.exists_eq_add_of_lt hmore
      refine ⟨more + 1, by omega, ?_⟩
      rw [hd, hnumber]
      push_cast
      ring
  | weekly weekdays =>
    have hle := Std.le_of_lt hlater
    simp only [FallsOn, hle, Std.le_trans hfirst.1 hle, true_and]
  | monthly days months =>
    have hle := Std.le_of_lt hlater
    simp only [FallsOn, hle, Std.le_trans hfirst.1 hle, true_and]

end Rule

end Daybook
