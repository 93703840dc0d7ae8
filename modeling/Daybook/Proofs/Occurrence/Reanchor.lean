import Daybook.Proofs.Occurrence.Next

namespace Daybook.Occurrence

variable {rule : Rule} {reference anchor first : Date}

/-- The dates that repeated steps lead to, up to the first step that fails. -/
def series (step : Date → Except Error Date) : Nat → Date → List Date
  | 0, _ => []
  | count + 1, d =>
    match step d with
    | .ok next => next :: series step count next
    | .error _ => []

/-- A series goes on from the date that a step gives. -/
theorem series_of_ok (step : Date → Except Error Date) {d next : Date} (hstep : step d = .ok next)
    (count : Nat) : series step (count + 1) d = next :: series step count next := by
  rw [series, hstep]

private theorem series_of_error (step : Date → Except Error Date) {d : Date} {cause : Error}
    (hstep : step d = .error cause) (count : Nat) : series step (count + 1) d = [] := by
  rw [series, hstep]

/-- Whether two computations come to the same date or both to none. -/
def SameDate (x y : Except Error Date) : Prop :=
  (∃ d, x = .ok d ∧ y = .ok d) ∨ ((∃ cause, x = .error cause) ∧ ∃ cause, y = .error cause)

private theorem sameDate_of_ok_iff {x y : Except Error Date} (hok : ∀ d, x = .ok d ↔ y = .ok d) :
    SameDate x y := by
  cases x with
  | ok d => exact .inl ⟨d, rfl, (hok d).mp rfl⟩
  | error cause =>
    cases y with
    | ok d => exact absurd ((hok d).mpr rfl) nofun
    | error other => exact .inr ⟨⟨cause, rfl⟩, other, rfl⟩

/-- Past a date of the rule, the search begins at the reference whichever of the two anchors it has. -/
theorem later_eq_of_fallsOn (hfirst : rule.FallsOn anchor first) (hle : first ≤ reference) :
    first.later reference = anchor.later reference := by
  have hanchor := hfirst.anchor_le
  rw [Date.le_iff_dayNumber] at hanchor hle
  rw [← Date.dayNumber_inj, Date.dayNumber_later, Date.dayNumber_later]
  omega

/-- From one of its dates on, a rule goes on in the same way reckoned from that date. -/
theorem next_eq_ok_iff_of_fallsOn (hfirst : rule.FallsOn anchor first) (hle : first ≤ reference)
    {d : Date} : next reference first rule = .ok d ↔ next reference anchor rule = .ok d := by
  have hfalls (e : Date) (hafter : reference < e) : rule.FallsOn first e ↔ rule.FallsOn anchor e := by
    apply hfirst.reanchor_iff
    exact Std.lt_of_le_of_lt hle hafter
  rw [next_eq_ok_iff, next_eq_ok_iff, later_eq_of_fallsOn hfirst hle, and_congr_left_iff]
  intro _
  constructor
  · rintro ⟨hd, hafter, hleast⟩
    exact ⟨(hfalls d hafter).mp hd, hafter,
      fun e he hre => hleast e ((hfalls e hre).mpr he) hre⟩
  · rintro ⟨hd, hafter, hleast⟩
    exact ⟨(hfalls d hafter).mpr hd, hafter,
      fun e he hre => hleast e ((hfalls e hre).mp he) hre⟩

/-- The series that moves its anchor along is the series that keeps it. What each step preserves is that
it stands on a date of the rule. -/
theorem series_reanchor (hfirst : rule.FallsOn anchor first) (count : Nat) :
    series (fun d => next d d rule) count first =
      series (fun d => next d anchor rule) count first := by
  induction count generalizing first with
  -- Comparing the two steps by computation would unfold them, so the equations are rewritten.
  | zero => rw [series, series]
  | succ count ih =>
    have hsame (d : Date) : next first first rule = .ok d ↔ next first anchor rule = .ok d :=
      next_eq_ok_iff_of_fallsOn hfirst (Std.le_refl first)
    cases hkept : next first anchor rule with
    | ok d =>
      have hmoved := (hsame d).mpr hkept
      rw [series_of_ok (fun d => next d d rule) hmoved,
        series_of_ok (fun d => next d anchor rule) hkept,
        ih (next_eq_ok_iff.mp hkept).1.fallsOn]
    | error cause =>
      cases hmoved : next first first rule with
      | ok d =>
        rw [(hsame d).mp hmoved] at hkept
        cases hkept
      | error other =>
        rw [series_of_error (fun d => next d d rule) hmoved,
          series_of_error (fun d => next d anchor rule) hkept]

section Related

variable {r : Date → Date → Prop} [IsTrans Date r] {step : Date → Except Error Date}

private theorem related_of_mem_series (hstep : ∀ d e, step d = .ok e → r d e) {count : Nat} {start d : Date}
    (hmem : d ∈ series step count start) : r start d := by
  induction count generalizing start with
  | zero => cases hmem
  | succ count ih =>
    rw [series] at hmem
    split at hmem
    · rename_i next hnext
      have hfirst := hstep start next hnext
      rcases List.mem_cons.mp hmem with rfl | hmem
      · exact hfirst
      · exact IsTrans.trans _ _ _ hfirst (ih hmem)
    · cases hmem

/-- What each step does to its date, the series does throughout: steps to later dates, say, give a series of
ever later dates. -/
theorem pairwise_series (hstep : ∀ d e, step d = .ok e → r d e) (count : Nat) (start : Date) :
    (start :: series step count start).Pairwise r := by
  rw [List.pairwise_cons]
  refine ⟨fun d hmem => related_of_mem_series hstep hmem, ?_⟩
  induction count generalizing start with
  | zero => exact List.Pairwise.nil
  | succ count ih =>
    rw [series]
    split
    · exact List.pairwise_cons.mpr ⟨fun d hmem => related_of_mem_series hstep hmem, ih _⟩
    · exact List.Pairwise.nil

end Related

/-- A computed occurrence may be stored in place of the anchor. For every reference from it on the next
occurrence is the same or missing as before, and stepping on from it gives the same strictly increasing
dates whether each date becomes the anchor of the next step or the old anchor stays. -/
theorem next_reanchored (hfirst : next reference anchor rule = .ok first) :
    (∀ other, first ≤ other → SameDate (next other first rule) (next other anchor rule)) ∧
      ∀ count,
        series (fun d => next d d rule) count first =
            series (fun d => next d anchor rule) count first ∧
          (first :: series (fun d => next d d rule) count first).Pairwise (· < ·) := by
  have hfalls := (next_eq_ok_iff.mp hfirst).1.fallsOn
  refine ⟨fun other hle => ?_, fun count => ⟨series_reanchor hfalls count, ?_⟩⟩
  · apply sameDate_of_ok_iff
    intro d
    exact next_eq_ok_iff_of_fallsOn hfalls hle
  · apply pairwise_series
    intro d e hnext
    exact (next_eq_ok_iff.mp hnext).1.after

/-- A task that began on February 29 is stored on March 1 of the next year. It goes on from there in the
same way, also past the next leap year. -/
theorem next_reanchored_leapDay :
    next ⟨2024, 6, 1, by decide⟩ ⟨2024, 2, 29, by decide⟩ .annual = .ok ⟨2025, 3, 1, by decide⟩ ∧
      SameDate (next ⟨2028, 2, 1, by decide⟩ ⟨2025, 3, 1, by decide⟩ .annual)
        (next ⟨2028, 2, 1, by decide⟩ ⟨2024, 2, 29, by decide⟩ .annual) ∧
      series (fun d => next d d .annual) 5 ⟨2025, 3, 1, by decide⟩ =
        series (fun d => next d ⟨2024, 2, 29, by decide⟩ .annual) 5 ⟨2025, 3, 1, by decide⟩ := by
  have hfirst :
      next ⟨2024, 6, 1, by decide⟩ ⟨2024, 2, 29, by decide⟩ .annual = .ok ⟨2025, 3, 1, by decide⟩ := by
    rfl
  obtain ⟨hsame, hseries⟩ := next_reanchored hfirst
  exact ⟨hfirst, hsame ⟨2028, 2, 1, by decide⟩ (by decide), (hseries 5).1⟩

end Daybook.Occurrence
