import Daybook.Proofs.Calendar.Search
import Daybook.Proofs.Calendar.Steps
import Mathlib.Data.List.Chain
import Mathlib.Data.List.TFAE
import Mathlib.Data.Prod.Lex
import Mathlib.Order.Defs.Unbundled
import Mathlib.Tactic.TFAE

namespace Daybook

namespace Moment

variable {a b : Moment} {d e : Date}

/-- The year, month and day that a moment shows, in lexicographic order. -/
def shown (m : Moment) : Int ×ₗ Nat ×ₗ Nat :=
  toLex (m.year, toLex (m.month, m.day))

/-- Moments are compared by what they show alone, in the lexicographic order of year, month and day. -/
theorem strictlyAfter_iff_shown : a.strictlyAfter b = true ↔ b.shown < a.shown := by
  unfold strictlyAfter shown
  simp only [Prod.Lex.toLex_lt_toLex, Bool.or_eq_true, Bool.and_eq_true, beq_iff_eq, decide_eq_true_eq]

private theorem shown_start (hdate : a.date? = some d) : d.start.shown = a.shown := by
  obtain ⟨hyear, hmonth, hday⟩ := Date.ofYmd?_eq_some_iff.mp hdate
  simp only [shown, Date.start, hyear, hmonth, hday]

/-- Moments are compared as the dates are that they show. -/
theorem strictlyAfter_iff_of_date? (ha : a.date? = some d) (hb : b.date? = some e) :
    a.strictlyAfter b = true ↔ d.strictlyAfter e = true := by
  rw [Date.strictlyAfter, strictlyAfter_iff_shown, strictlyAfter_iff_shown, shown_start ha, shown_start hb]

end Moment

namespace Date

variable {d e next : Date}

private theorem strictlyAfter_eq_false_iff : d.strictlyAfter e = false ↔ d ≤ e := by
  rw [← Bool.not_eq_true, strictlyAfter_iff, Std.not_lt]

/-- Falling on a later day orders the dates strictly and leaves no two of them unordered. -/
theorem isStrictTotalOrder_strictlyAfter : IsStrictTotalOrder Date fun d e => d.strictlyAfter e = true where
  irrefl _ hself := Std.lt_irrefl (strictlyAfter_iff.mp hself)
  trans _ _ _ hde hef := by
    rw [strictlyAfter_iff] at *
    exact Std.lt_trans hef hde
  trichotomous _ _ hde hed := by
    rw [strictlyAfter_iff, Std.not_lt] at *
    exact Std.le_antisymm hde hed

/-- The later of two dates is the first where it falls on a later day, and the second otherwise. -/
theorem later_eq_ite (d e : Date) : d.later e = if d.strictlyAfter e then d else e := by
  unfold later
  simp only [strictlyAfter_iff, ← Std.not_le, ite_not]

/-- The days between two dates are the steps from day to day that lead from the one to the other. -/
theorem daysUntil_eq_iff {days : Nat} : d.daysUntil e = days ↔ stepped? succ? days d = some e := by
  rw [stepped?_succ?_eq_some_iff, daysUntil]
  omega

/-- A date and the one that comes next: it is later, and no date is between the two. -/
structure IsFollowedBy (d next : Date) : Prop where
  after : next.strictlyAfter d = true
  none_between : ∀ e : Date, e.strictlyAfter d = true → next.strictlyAfter e = false

/-- The next day is the one day that comes after a date with none between. -/
theorem succ?_eq_some_iff_isFollowedBy : d.succ? = some next ↔ d.IsFollowedBy next := by
  rw [succ?_eq_some_iff]
  constructor
  · intro hnext
    refine ⟨strictlyAfter_iff.mpr (lt_iff_dayNumber.mpr (by omega)), fun e he => ?_⟩
    rw [strictlyAfter_iff, lt_iff_dayNumber] at he
    rw [strictlyAfter_eq_false_iff, le_iff_dayNumber]
    omega
  · rintro ⟨hafter, hbetween⟩
    rw [strictlyAfter_iff, lt_iff_dayNumber] at hafter
    -- The date with the number after that of `d` would be between the two if it were not `next`.
    have hlast := le_last next
    obtain ⟨found, hfound⟩ := exists_dayNumber d 1 (by omega)
    have hle := hbetween found (strictlyAfter_iff.mpr (lt_iff_dayNumber.mpr (by omega)))
    rw [strictlyAfter_eq_false_iff, le_iff_dayNumber] at hle
    omega

/-- A date has no next day exactly if no date is later. -/
theorem succ?_eq_none_iff : d.succ? = none ↔ ∀ e : Date, e.strictlyAfter d = false := by
  simp only [strictlyAfter_eq_false_iff, le_iff_dayNumber]
  rcases succ?_spec d with ⟨next, hnext, hnumber⟩ | ⟨hnone, rfl⟩
  · rw [hnext]
    refine iff_of_false (Option.some_ne_none next) fun hlatest => ?_
    have hle := hlatest next
    omega
  · exact iff_of_true hnone le_last

private theorem isChain_run (count : Nat) (start : Date) : (run count start).IsChain IsFollowedBy := by
  rw [List.isChain_iff_getElem]
  intro place hplace
  obtain ⟨_, hdays, _⟩ := getElem?_run_eq_some_iff.mp (List.getElem?_eq_getElem (Nat.lt_of_succ_lt hplace))
  obtain ⟨_, hmore, _⟩ := getElem?_run_eq_some_iff.mp (List.getElem?_eq_getElem hplace)
  rw [← succ?_eq_some_iff_isFollowedBy, succ?_eq_some_iff]
  unfold daysUntil at hdays hmore
  omega

/-- All ways in which a day is found to be later than another. -/
theorem strictlyAfter_tfae {a b : Moment} (ha : a.date? = some d) (hb : b.date? = some e) :
    List.TFAE [a.strictlyAfter b = true, b.shown < a.shown, d.strictlyAfter e = true, e < d,
      0 < e.daysUntil d, d.daysUntil e < 0] := by
  tfae_have 1 ↔ 2 := Moment.strictlyAfter_iff_shown
  tfae_have 1 ↔ 3 := Moment.strictlyAfter_iff_of_date? ha hb
  tfae_have 3 ↔ 4 := strictlyAfter_iff
  tfae_have 5 ↔ 4 := daysUntil_pos_iff
  tfae_have 6 ↔ 4 := daysUntil_neg_iff
  tfae_finish

/-- There is one notion of a later day. Moments that show dates of the calendar, these dates and the days counted
between them agree on which of two days is later. The order of dates and the later of two dates are those of this
notion, and the days between two dates are counted one by one. It is a strict total order on the dates, and no time
of day changes it. The next day is the later one with none between, and it is missing only where no day is later.
The days of a run are, in each place, so many days after its start, and each of them is followed by the next. -/
theorem strictlyAfter_agrees :
    (∀ (a b : Moment) (d e : Date), a.date? = some d → b.date? = some e →
      List.TFAE [a.strictlyAfter b = true, b.shown < a.shown, d.strictlyAfter e = true, e < d,
        0 < e.daysUntil d, d.daysUntil e < 0]) ∧
    (∀ d e : Date, (d ≤ e ↔ d.strictlyAfter e = false) ∧ d.later e = (if d.strictlyAfter e then d else e) ∧
      ∀ days : Nat, d.daysUntil e = days ↔ stepped? succ? days d = some e) ∧
    (IsStrictTotalOrder Date fun d e => d.strictlyAfter e = true) ∧
    (∀ (a b : Moment) (second other : Nat),
      Moment.strictlyAfter { a with second := second } { b with second := other } = a.strictlyAfter b) ∧
    (∀ d : Date, (∀ next, d.succ? = some next ↔ d.IsFollowedBy next) ∧
      (d.succ? = none ↔ ∀ e : Date, e.strictlyAfter d = false)) ∧
    ∀ (count : Nat) (start : Date), (run count start).IsChain IsFollowedBy ∧
      ∀ (place : Nat) (d : Date),
        (run count start)[place]? = some d ↔ place < count ∧ start.daysUntil d = place ∧ d < last := by
  refine ⟨fun a b d e => strictlyAfter_tfae, fun d e => ?_, isStrictTotalOrder_strictlyAfter,
    fun _ _ _ _ => rfl, fun d => ?_, fun count start => ?_⟩
  · exact ⟨strictlyAfter_eq_false_iff.symm, later_eq_ite d e, fun days => daysUntil_eq_iff⟩
  · exact ⟨fun next => succ?_eq_some_iff_isFollowedBy, succ?_eq_none_iff⟩
  · exact ⟨isChain_run count start, fun place d => getElem?_run_eq_some_iff⟩

/-- The year -100 is not leap, so that the second after the last of its February 28 is on the next day, March 1. -/
theorem strictlyAfter_agrees_century :
    (Moment.mk (-100) 3 1 0).date? = some ⟨-100, 3, 1, by decide⟩ ∧
      (Moment.mk (-100) 2 28 86399).date? = some ⟨-100, 2, 28, by decide⟩ ∧
      0 < daysUntil ⟨-100, 2, 28, by decide⟩ ⟨-100, 3, 1, by decide⟩ ∧
      (Moment.mk (-100) 3 1 0).strictlyAfter ⟨-100, 2, 28, 86399⟩ = true ∧
      (⟨-100, 2, 28, by decide⟩ : Date) < ⟨-100, 3, 1, by decide⟩ ∧
      IsFollowedBy ⟨-100, 2, 28, by decide⟩ ⟨-100, 3, 1, by decide⟩ := by
  obtain ⟨hagree, _, _, _, hnext, _⟩ := strictlyAfter_agrees
  have hmarch : (Moment.mk (-100) 3 1 0).date? = some ⟨-100, 3, 1, by decide⟩ := by rfl
  have hfebruary : (Moment.mk (-100) 2 28 86399).date? = some ⟨-100, 2, 28, by decide⟩ := by rfl
  have hdays : 0 < daysUntil ⟨-100, 2, 28, by decide⟩ ⟨-100, 3, 1, by decide⟩ := by decide
  have hsucc : succ? ⟨-100, 2, 28, by decide⟩ = some ⟨-100, 3, 1, by decide⟩ := by decide
  have hsame := hagree _ _ _ _ hmarch hfebruary
  exact ⟨hmarch, hfebruary, hdays, (hsame.out 0 4).mpr hdays, (hsame.out 3 4).mpr hdays, ((hnext _).1 _).mp hsucc⟩

end Date

end Daybook
