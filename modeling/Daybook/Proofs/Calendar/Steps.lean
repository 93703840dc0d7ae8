import Daybook.Proofs.Calendar.Succession

namespace Daybook.Date

/-- The date that so many steps lead to, if none of them leaves the calendar. -/
def stepped? (step : Date → Option Date) : Nat → Date → Option Date
  | 0, d => some d
  | count + 1, d => (stepped? step count d).bind step

/-- So many steps lead past the reference, and fewer do not. At least one is taken, also from a start that
is after the reference. -/
structure FirstPast (step : Date → Option Date) (reference start : Date) (count : Nat) (d : Date) :
    Prop where
  one_le : 1 ≤ count
  reached : stepped? step count start = some d
  after : reference < d
  before : ∀ fewer e, 1 ≤ fewer → fewer < count → stepped? step fewer start = some e → e ≤ reference

/-- The steps end at a date, from which the next one would leave the calendar, and none of them has led
past the reference. -/
structure EndsShort (step : Date → Option Date) (reference start last : Date) : Prop where
  reached : ∃ count, stepped? step count start = some last
  leaves : step last = none
  short : ∀ count d, 1 ≤ count → stepped? step count start = some d → d ≤ reference

section Steps

variable {step : Date → Option Date} {reference start : Date}

private theorem stepped?_add (m n : Nat) :
    stepped? step (m + n) start = (stepped? step m start).bind (stepped? step n) := by
  induction n with
  | zero => simp [stepped?]
  | succ n ih =>
    rw [← Nat.add_assoc, stepped?, ih, Option.bind_assoc]
    rfl

/-- Steps that are each so many steps come to the product of the two numbers. -/
theorem stepped?_stepped? (count each : Nat) :
    stepped? (stepped? step each) count start = stepped? step (count * each) start := by
  induction count with
  | zero => simp [stepped?]
  | succ count ih => rw [stepped?, ih, Nat.succ_mul, stepped?_add]

/-- Once steps have left the calendar, no further ones lead back into it. -/
theorem stepped?_eq_none_of_le {m n : Nat} (hnone : stepped? step m start = none) (hle : m ≤ n) :
    stepped? step n start = none := by
  obtain ⟨more, rfl⟩ := Nat.exists_eq_add_of_le hle
  rw [stepped?_add, hnone, Option.bind_none]

/-- Steps to later dates lead the further the more of them are taken. -/
theorem stepped?_lt {m n : Nat} {d e : Date} (hlater : ∀ d e, step d = some e → d < e)
    (hd : stepped? step m start = some d) (he : stepped? step n start = some e) (hlt : m < n) :
    d < e := by
  induction n generalizing e with
  | zero => omega
  | succ n ih =>
    obtain ⟨middle, hmiddle, hstep⟩ := Option.bind_eq_some_iff.mp he
    have hnext := hlater middle e hstep
    by_cases hsame : m = n
    · subst hsame
      rw [hd] at hmiddle
      cases hmiddle
      exact hnext
    · have hbefore := ih hmiddle (by omega)
      exact Std.lt_trans hbefore hnext

/-- Where every step leads to a later date, more steps lead to no earlier one. -/
theorem stepped?_le {m n : Nat} {d e : Date} (hlater : ∀ d e, step d = some e → d < e)
    (hd : stepped? step m start = some d) (he : stepped? step n start = some e) (hle : m ≤ n) :
    d ≤ e := by
  rcases Nat.lt_or_eq_of_le hle with hlt | rfl
  · exact Std.le_of_lt (stepped?_lt hlater hd he hlt)
  · rw [hd] at he
    cases he
    exact Std.le_refl d

private theorem le_of_leaves {m n : Nat} {d e : Date} (hd : stepped? step m start = some d) (hleaves : step d = none)
    (he : stepped? step n start = some e) : n ≤ m := by
  by_contra hlt
  have hnone : stepped? step (m + 1) start = none := by simp [stepped?, hd, hleaves]
  rw [stepped?_eq_none_of_le hnone (by omega)] at he
  cases he

/-- Steps end at one date at most. -/
theorem EndsShort.unique {d e : Date} (hd : EndsShort step reference start d)
    (he : EndsShort step reference start e) : d = e := by
  obtain ⟨m, hm⟩ := hd.reached
  obtain ⟨n, hn⟩ := he.reached
  have hcount := Nat.le_antisymm (le_of_leaves hn he.leaves hm) (le_of_leaves hm hd.leaves hn)
  subst hcount
  rw [hm] at hn
  cases hn
  rfl

end Steps

/-- The next day is the date with the next number. -/
theorem succ?_eq_some_iff {d e : Date} : d.succ? = some e ↔ e.dayNumber = d.dayNumber + 1 := by
  rcases succ?_spec d with ⟨next, hnext, hnumber⟩ | ⟨hnone, rfl⟩
  · rw [hnext, Option.some_inj, ← dayNumber_inj, hnumber]
    exact eq_comm
  · have hlast := le_last e
    rw [hnone]
    simp only [reduceCtorEq, false_iff]
    omega

/-- Days counted one by one lead to the date with the number so much larger. -/
theorem stepped?_succ?_eq_some_iff {d e : Date} {days : Nat} :
    stepped? succ? days d = some e ↔ e.dayNumber = d.dayNumber + days := by
  induction days generalizing e with
  | zero =>
    rw [stepped?, Option.some_inj, ← dayNumber_inj]
    omega
  | succ days ih =>
    rw [stepped?, Option.bind_eq_some_iff]
    simp only [ih, succ?_eq_some_iff]
    constructor
    · rintro ⟨middle, hmiddle, he⟩
      omega
    · intro he
      have hlast := le_last e
      obtain ⟨middle, hmiddle⟩ := exists_dayNumber d days (by omega)
      exact ⟨middle, hmiddle, by omega⟩

/-- So many days on there is no date exactly if the number passes that of the last day. -/
theorem stepped?_succ?_eq_none_iff {d : Date} {days : Nat} :
    stepped? succ? days d = none ↔ last.dayNumber < d.dayNumber + days := by
  rw [← Option.not_isSome_iff_eq_none, Option.isSome_iff_exists, ← Int.not_le]
  apply not_congr
  simp only [stepped?_succ?_eq_some_iff]
  constructor
  · rintro ⟨e, he⟩
    rw [← he]
    exact le_last e
  · exact exists_dayNumber d days

/-- One day on or more leads to a later date. -/
theorem lt_of_stepped?_succ? {d e : Date} {days : Nat} (hpos : 1 ≤ days)
    (hdays : stepped? succ? days d = some e) : d < e := by
  rw [stepped?_succ?_eq_some_iff] at hdays
  rw [lt_iff_dayNumber]
  omega

end Daybook.Date
