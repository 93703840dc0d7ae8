import Daybook.Proofs.Calendar.Succession

namespace Daybook.Date

/-- The day in each place of a run is so many days after its start. There are as many places as asked for, but
none for the last day of the calendar. -/
theorem getElem?_run_eq_some_iff {count place : Nat} {start d : Date} :
    (run count start)[place]? = some d ↔ place < count ∧ start.daysUntil d = place ∧ d < last := by
  simp only [daysUntil, lt_iff_dayNumber]
  induction count generalizing start place with
  | zero =>
    simp only [run, List.getElem?_nil, reduceCtorEq, false_iff]
    omega
  | succ count ih =>
    rw [run]
    rcases succ?_spec start with ⟨next, hnext, hnumber⟩ | ⟨hnone, rfl⟩
    · have hlast := le_last next
      rw [hnext]
      cases place with
      | zero =>
        rw [List.getElem?_cons_zero, Option.some_inj, ← dayNumber_inj]
        omega
      | succ place =>
        rw [List.getElem?_cons_succ, ih]
        omega
    · rw [hnone]
      simp only [List.getElem?_nil, reduceCtorEq, false_iff]
      omega

/-- A run has the days from its start on, as many as asked for, up to the last day of the calendar,
which is never one of them. -/
theorem mem_run {count : Nat} {start d : Date} :
    d ∈ run count start ↔
      start ≤ d ∧ d.dayNumber < start.dayNumber + count ∧ d < last := by
  rw [List.mem_iff_getElem?, le_iff_dayNumber]
  simp only [getElem?_run_eq_some_iff, daysUntil]
  constructor
  · rintro ⟨place, hplace, hdays, hlast⟩
    exact ⟨by omega, by omega, hlast⟩
  · rintro ⟨hstart, hnear, hlast⟩
    exact ⟨(d.dayNumber - start.dayNumber).toNat, by omega, by omega, hlast⟩

/-- A search in a run finds the first day from the start on that is accepted, if it is in the run. -/
theorem find?_run_eq_some_iff {accepts : Date → Bool} {count : Nat} {start d : Date} :
    (run count start).find? accepts = some d ↔
      d ∈ run count start ∧ accepts d = true ∧ ∀ e, start ≤ e → accepts e = true → d ≤ e := by
  induction count generalizing start with
  | zero => simp [run]
  | succ count ih =>
    rcases succ?_spec start with ⟨next, hnext, hnumber⟩ | ⟨hnone, rfl⟩
    · have hrun : run (count + 1) start = start :: run count next := by rw [run, hnext]
      rw [hrun]
      by_cases hstart : accepts start = true
      · rw [List.find?_cons_of_pos hstart, Option.some_inj]
        constructor
        · rintro rfl
          exact ⟨List.mem_cons_self, hstart, fun e he _ => he⟩
        · rintro ⟨hmem, _, hfirst⟩
          rw [← hrun, mem_run] at hmem
          have hle := hfirst start (Std.le_refl start) hstart
          exact Std.le_antisymm hmem.1 hle
      · have hlater (e : Date) (he : accepts e = true) : start ≤ e ↔ next ≤ e := by
          have hne : start ≠ e := fun h => hstart (h ▸ he)
          rw [ne_eq, ← dayNumber_inj] at hne
          simp only [le_iff_dayNumber]
          omega
        rw [List.find?_cons_of_neg hstart, ih, List.mem_cons]
        constructor
        · rintro ⟨hmem, haccepts, hfirst⟩
          exact ⟨.inr hmem, haccepts, fun e hle he => hfirst e ((hlater e he).mp hle) he⟩
        · rintro ⟨rfl | hmem, haccepts, hfirst⟩
          · exact absurd haccepts hstart
          · exact ⟨hmem, haccepts, fun e hle he => hfirst e ((hlater e he).mpr hle) he⟩
    · simp [run, hnone]

end Daybook.Date
