import Daybook.Proofs.Occurrence.Reanchor
import Daybook.Proofs.Occurrence.Reference
import Daybook.Proofs.Occurrence.Steps

namespace Daybook

namespace Date

variable {step : Date → Option Date} {reference start d : Date} {count : Nat}

private theorem stepped?_one : stepped? step 1 start = step start := rfl

/-- From past the reference, the first step leads past it. -/
theorem firstPast_iff_of_lt (hlater : ∀ d e, step d = some e → d < e) (hlt : reference < start) :
    FirstPast step reference start count d ↔ count = 1 ∧ step start = some d := by
  constructor
  · intro hd
    have hone := hd.one_le
    by_cases hcount : count = 1
    · subst hcount
      exact ⟨rfl, hd.reached⟩
    · exfalso
      -- With more steps than one, the first of them would not be past the reference.
      cases hstep : step start with
      | none =>
        have hreached := hd.reached
        rw [stepped?_eq_none_of_le (stepped?_one.trans hstep) hone] at hreached
        cases hreached
      | some e =>
        have hle := hd.before 1 e (Nat.le_refl 1) (by omega) hstep
        have hafter := Std.lt_trans hlt (hlater start e hstep)
        exact Std.not_lt.mpr hle hafter
  · rintro ⟨rfl, hstep⟩
    refine ⟨Nat.le_refl 1, hstep, Std.lt_trans hlt (hlater start d hstep), ?_⟩
    intro fewer e hfewer hless
    omega

/-- From past the reference, steps end before they lead past it only if there is none to take. -/
theorem endsShort_iff_of_lt (hlater : ∀ d e, step d = some e → d < e) (hlt : reference < start) :
    EndsShort step reference start d ↔ d = start ∧ step start = none := by
  constructor
  · intro hd
    obtain ⟨count, hreached⟩ := hd.reached
    cases count with
    | zero =>
      cases hreached
      exact ⟨rfl, hd.leaves⟩
    | succ count =>
      exfalso
      have hle := hd.short (count + 1) d (by omega) hreached
      have hafter : start < d := stepped?_lt (m := 0) hlater rfl hreached (by omega)
      exact Std.not_lt.mpr hle (Std.lt_trans hlt hafter)
  · rintro ⟨rfl, hnone⟩
    refine ⟨⟨0, rfl⟩, hnone, ?_⟩
    intro count e hone hreached
    rw [stepped?_eq_none_of_le (stepped?_one.trans hnone) hone] at hreached
    cases hreached

end Date

namespace Occurrence

open Date

variable {rule : Rule} {reference anchor first : Date}

/-- What a rule makes of one of its own occurrences in place of the anchor. Weekly and monthly rules keep it.
An annual rule goes on to the same day of the next year and an interval rule by the interval, unless the
calendar ends before. -/
def GoesOn : Rule → Date → Except Error Date → Prop
  | .annual, d, .ok e => e.year = d.year + 1 ∧ e.month = d.month ∧ e.day = d.day
  | .annual, d, .error cause => d.year = Calendar.maxYear ∧ cause = .internal (.yearOutside d)
  | .interval days, d, .ok e => stepped? succ? days d = some e
  | .interval days, d, .error cause =>
    stepped? succ? days d = none ∧ cause = .internal (.stepOutside days d)
  | .weekly _, d, answer => answer = .ok d
  | .monthly _ _, d, answer => answer = .ok d

private theorem goesOn_annual (hlt : reference < first) (hday : (first.month, first.day) = first.anniversary) :
    GoesOn .annual first (nextAnnual reference first) := by
  have hlater (d e : Date) (hstep : d.nextYear? = some e) : d < e := lt_of_nextYear? hstep
  cases hnext : nextAnnual reference first with
  | ok d =>
    obtain ⟨years, hpast⟩ := nextAnnual_eq_ok_iff.mp hnext
    obtain ⟨_, hstep⟩ := (firstPast_iff_of_lt hlater hlt).mp hpast
    obtain ⟨hyear, hsame⟩ := nextYear?_eq_some_iff.mp hstep
    rw [← hday, Prod.mk.injEq] at hsame
    exact ⟨hyear, hsame⟩
  | error cause =>
    obtain ⟨last, hends, rfl⟩ := nextAnnual_eq_error_iff.mp hnext
    obtain ⟨rfl, hnone⟩ := (endsShort_iff_of_lt hlater hlt).mp hends
    exact ⟨nextYear?_eq_none_iff.mp hnone, rfl⟩

private theorem goesOn_interval (hlt : reference < first) (days : Nat) :
    GoesOn (.interval days) first (nextInterval reference first days) := by
  have helapsed : first.daysUntil reference < 0 := daysUntil_neg_iff.mpr hlt
  have hmoves : ¬ (days = 0 ∧ 0 ≤ first.daysUntil reference) := by omega
  have hsteps : intervalSteps (first.daysUntil reference) days = 1 := if_pos helapsed
  unfold nextInterval
  dsimp only
  rw [if_neg hmoves, hsteps, Int.one_mul, Int.toNat_natCast, addDays?_eq_stepped?]
  cases hstep : stepped? succ? days first with
  | some d => exact hstep
  | none => exact ⟨hstep, rfl⟩

/-- An occurrence that is one of the dates reckoned from itself is found again. -/
theorem next_eq_self_of_fallsOn (hfirst : next reference anchor rule = .ok first)
    (hself : rule.FallsOn first first) : next reference first rule = .ok first := by
  obtain ⟨hnext, hreach⟩ := next_eq_ok_iff.mp hfirst
  obtain ⟨hstart, hreference⟩ := first.le_later reference
  have hanchor := Std.le_trans hnext.fallsOn.anchor_le hstart
  apply next_eq_ok_iff.mpr
  refine ⟨⟨hself, hnext.after, fun e he _ => he.anchor_le⟩, ?_⟩
  exact hreach.of_le (later_le_iff.mpr ⟨hanchor, hreference⟩) (later_le_of_fallsOn hself hnext.after)

/-- From the date that was found each kind of rule goes on in its own way, whatever the anchor was. -/
theorem goesOn_next (hfirst : next reference anchor rule = .ok first) :
    GoesOn rule first (next reference first rule) := by
  obtain ⟨hnext, _⟩ := next_eq_ok_iff.mp hfirst
  have hle := Std.le_refl first
  cases rule with
  | annual => exact goesOn_annual hnext.after (ne_leapDay_of_anniversary hnext.fallsOn.2)
  | interval days => exact goesOn_interval hnext.after days
  | weekly weekdays => exact next_eq_self_of_fallsOn hfirst ⟨hle, hnext.fallsOn.2⟩
  | monthly days months => exact next_eq_self_of_fallsOn hfirst ⟨hle, hnext.fallsOn.2⟩

private theorem series_of_fixed {step : Date → Except Error Date} {d : Date} (hfixed : step d = .ok d) (count : Nat) :
    series step count d = List.replicate count d := by
  induction count with
  | zero => rfl
  | succ count ih => rw [series_of_ok step hfixed, ih, List.replicate_succ]

/-- Asked again at the same reference, with its answer as the anchor, a rule goes on from that answer as its
kind does. Searched rules stay at it however often they are asked, and no rule ever goes back. -/
theorem next_resumed (hfirst : next reference anchor rule = .ok first) :
    GoesOn rule first (next reference first rule) ∧
      (rule.kind = .weeklySet ∨ rule.kind = .monthlySet →
        ∀ count, series (fun d => next reference d rule) count first = List.replicate count first) ∧
      ∀ count, (first :: series (fun d => next reference d rule) count first).Pairwise (· ≤ ·) := by
  have hgoesOn := goesOn_next hfirst
  refine ⟨hgoesOn, fun hkind count => ?_, fun count => ?_⟩
  · apply series_of_fixed
    cases rule with
    | annual => simp [Rule.kind] at hkind
    | interval days => simp [Rule.kind] at hkind
    | weekly weekdays => exact hgoesOn
    | monthly days months => exact hgoesOn
  · apply pairwise_series
    intro d e hnext
    exact (next_eq_ok_iff.mp hnext).1.fallsOn.anchor_le

/-- A task that began on February 29 is on March 1 of the next year, and from there on March 1 of the year
after that. -/
theorem next_resumed_leapDay :
    next ⟨2024, 6, 1, by decide⟩ ⟨2024, 2, 29, by decide⟩ .annual = .ok ⟨2025, 3, 1, by decide⟩ ∧
      GoesOn .annual ⟨2025, 3, 1, by decide⟩
        (next ⟨2024, 6, 1, by decide⟩ ⟨2025, 3, 1, by decide⟩ .annual) := by
  have hfirst :
      next ⟨2024, 6, 1, by decide⟩ ⟨2024, 2, 29, by decide⟩ .annual = .ok ⟨2025, 3, 1, by decide⟩ := by
    rfl
  exact ⟨hfirst, (next_resumed hfirst).1⟩

end Occurrence

end Daybook
