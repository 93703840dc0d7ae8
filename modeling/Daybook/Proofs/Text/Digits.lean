import Daybook.Text.Blank
import Daybook.Text.Numeral
import Mathlib.Data.String.Basic
import Mathlib.Tactic.Ring

namespace Daybook.Text

theorem toNat_of_isDigit {c : Char} (hc : c.isDigit = true) : 48 ≤ c.toNat ∧ c.toNat ≤ 57 :=
  Char.isDigit_iff_toNat.mp hc

/-- No digit is a blank. -/
theorem isBlank_eq_false_of_isDigit {c : Char} (hc : c.isDigit = true) : isBlank c = false := by
  have hrange := toNat_of_isDigit hc
  simp only [isBlank, Bool.or_eq_false_iff, Bool.and_eq_false_iff, decide_eq_false_iff_not, beq_eq_false_iff_ne]
  omega

/-- A first digit counts as many times as there are numbers with the digits after it. -/
theorem ofDigitChars_cons (c : Char) (cs : List Char) :
    Nat.ofDigitChars 10 (c :: cs) 0 =
      10 ^ cs.length * (c.toNat - '0'.toNat) + Nat.ofDigitChars 10 cs 0 := by
  rw [Nat.ofDigitChars_cons, Nat.ofDigitChars_eq_ofDigitChars_zero, Nat.mul_zero, Nat.zero_add]

/-- The value of a run of digits has no more digits than the run. -/
theorem ofDigitChars_lt {cs : List Char} (hdigits : ∀ c ∈ cs, c.isDigit = true) :
    Nat.ofDigitChars 10 cs 0 < 10 ^ cs.length := by
  induction cs with
  | nil => simp
  | cons c cs ih =>
    obtain ⟨hc, hcs⟩ := List.forall_mem_cons.mp hdigits
    have htail := ih hcs
    have hdigit : c.toNat - '0'.toNat ≤ 9 := by
      have hrange := toNat_of_isDigit hc
      change c.toNat - 48 ≤ 9
      omega
    have hmul := Nat.mul_le_mul_left (10 ^ cs.length) hdigit
    rw [ofDigitChars_cons, List.length_cons, Nat.pow_succ]
    omega

/-- Numbers of two places in a base are in the lexicographic order of the places. -/
theorem mul_add_lt_mul_add_iff {a b x y base : Nat} (hx : x < base) (hy : y < base) :
    base * a + x < base * b + y ↔ a < b ∨ a = b ∧ x < y := by
  rcases Nat.lt_trichotomy a b with hlt | heq | hgt
  · have hmul := Nat.mul_le_mul_left base (show a + 1 ≤ b from hlt)
    rw [Nat.mul_succ] at hmul
    omega
  · subst heq
    omega
  · have hmul := Nat.mul_le_mul_left base (show b + 1 ≤ a from hgt)
    rw [Nat.mul_succ] at hmul
    omega

/-- Runs of digits of one width are in the order of their values. -/
theorem lt_iff_ofDigitChars_lt {cs ds : List Char} (hlength : cs.length = ds.length)
    (hcs : ∀ c ∈ cs, c.isDigit = true) (hds : ∀ d ∈ ds, d.isDigit = true) :
    cs < ds ↔ Nat.ofDigitChars 10 cs 0 < Nat.ofDigitChars 10 ds 0 := by
  induction cs generalizing ds with
  | nil =>
    rw [List.length_eq_zero_iff.mp hlength.symm]
    simp
  | cons c cs ih =>
    cases ds with
    | nil => cases hlength
    | cons d ds =>
      obtain ⟨hc, hcs⟩ := List.forall_mem_cons.mp hcs
      obtain ⟨hd, hds⟩ := List.forall_mem_cons.mp hds
      have htails : cs.length = ds.length := Nat.succ.inj hlength
      have hdsValue := ofDigitChars_lt hds
      rw [← htails] at hdsValue
      -- The first digits decide, and the rest where they are the same.
      rw [List.cons_lt_cons_iff, ih htails hcs hds, ofDigitChars_cons, ofDigitChars_cons, ← htails,
        mul_add_lt_mul_add_iff (ofDigitChars_lt hcs) hdsValue]
      have hc := (Char.isDigit_iff_toNat.mp hc).1
      have hd := (Char.isDigit_iff_toNat.mp hd).1
      have hlt : c < d ↔ c.toNat - '0'.toNat < d.toNat - '0'.toNat := by
        rw [Char.lt_def, UInt32.lt_iff_toNat_lt]
        change c.toNat < d.toNat ↔ _
        omega
      have heq : c = d ↔ c.toNat - '0'.toNat = d.toNat - '0'.toNat := by
        rw [← Char.toNat_inj]
        omega
      rw [hlt, heq]

/-- Runs of digits of one width are told apart by their values. -/
theorem eq_of_ofDigitChars_eq {cs ds : List Char} (hlength : cs.length = ds.length)
    (hcs : ∀ c ∈ cs, c.isDigit = true) (hds : ∀ d ∈ ds, d.isDigit = true)
    (hvalue : Nat.ofDigitChars 10 cs 0 = Nat.ofDigitChars 10 ds 0) : cs = ds := by
  have hlt : ¬ cs < ds := by
    rw [lt_iff_ofDigitChars_lt hlength hcs hds]
    omega
  have hgt : ¬ ds < cs := by
    rw [lt_iff_ofDigitChars_lt hlength.symm hds hcs]
    omega
  exact List.le_antisymm (List.not_lt.mp hgt) (List.not_lt.mp hlt)

/-- A number is padded with digits only. -/
theorem isDigit_of_mem_paddedChars {width n : Nat} {c : Char} (hc : c ∈ paddedChars width n) :
    c.isDigit = true := by
  rcases List.mem_append.mp hc with hzero | hdigit
  · rw [(List.mem_replicate.mp hzero).2]
    rfl
  · exact Nat.isDigit_of_mem_toDigits (by decide) (by decide) hdigit

/-- A number that fits a width has exactly that many digits in it. -/
theorem length_paddedChars {width n : Nat} (hwidth : 0 < width) (hn : n < 10 ^ width) :
    (paddedChars width n).length = width := by
  have hlength := (Nat.length_toDigits_le_iff (by decide) hwidth).mpr hn
  simp only [paddedChars, natChars, List.length_append, List.length_replicate]
  omega

/-- Zeros in front of a number do not change it. -/
theorem ofDigitChars_paddedChars (width n : Nat) :
    Nat.ofDigitChars 10 (paddedChars width n) 0 = n := by
  rw [paddedChars, natChars, Nat.ofDigitChars_append, Nat.ofDigitChars_replicate_zero, Nat.mul_zero,
    Nat.ofDigitChars_ten_toDigits]

/-- A run of digits is its value written with zeros in front up to the width of the run. -/
theorem paddedChars_ofDigitChars {cs : List Char} (hwidth : 0 < cs.length)
    (hdigits : ∀ c ∈ cs, c.isDigit = true) :
    paddedChars cs.length (Nat.ofDigitChars 10 cs 0) = cs := by
  apply eq_of_ofDigitChars_eq (length_paddedChars hwidth (ofDigitChars_lt hdigits))
    (fun c hc => isDigit_of_mem_paddedChars hc) hdigits
  rw [ofDigitChars_paddedChars]

end Daybook.Text
