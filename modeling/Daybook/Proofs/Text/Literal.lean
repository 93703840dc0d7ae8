import Daybook.Proofs.Text.Digits
import Daybook.Proofs.Text.Parts

namespace Daybook.Text

/-- One or more digits, with the number that they denote. -/
structure AreDigits (cs : List Char) (n : Nat) : Prop where
  ne_nil : cs ≠ []
  digits : ∀ c ∈ cs, c.isDigit = true
  value : n = Nat.ofDigitChars 10 cs 0

/-- A text that denotes an integer. -/
inductive IsLiteral : List Char → Int → Prop
  | unsigned {cs : List Char} {n : Nat} (hdigits : AreDigits cs n) : IsLiteral cs n
  | plus {cs : List Char} {n : Nat} (hdigits : AreDigits cs n) : IsLiteral ('+' :: cs) n
  | minus {cs : List Char} {n : Nat} (hdigits : AreDigits cs n) : IsLiteral ('-' :: cs) (-n)

/-- Digits have no blank among them. -/
theorem AreDigits.isWord {cs : List Char} {n : Nat} (hdigits : AreDigits cs n) : IsWord cs where
  ne_nil := hdigits.ne_nil
  solid c hc := isBlank_eq_false_of_isDigit (hdigits.digits c hc)

/-- There are no blanks in a literal. -/
theorem IsLiteral.isWord {cs : List Char} {n : Int} (hliteral : IsLiteral cs n) : IsWord cs := by
  cases hliteral with
  | unsigned hdigits => exact hdigits.isWord
  | plus hdigits => exact ⟨List.cons_ne_nil _ _, List.forall_mem_cons.mpr ⟨rfl, hdigits.isWord.solid⟩⟩
  | minus hdigits => exact ⟨List.cons_ne_nil _ _, List.forall_mem_cons.mpr ⟨rfl, hdigits.isWord.solid⟩⟩

private theorem readNat?_eq_some_iff {cs : List Char} {n : Nat} : readNat? cs = some n ↔ AreDigits cs n := by
  unfold readNat?
  split
  · rename_i hshape
    rw [Bool.and_eq_true, Bool.not_eq_true', List.isEmpty_eq_false_iff, List.all_eq_true] at hshape
    rw [Option.some_inj]
    exact ⟨fun hvalue => ⟨hshape.1, hshape.2, hvalue.symm⟩, fun hdigits => hdigits.value.symm⟩
  · rename_i hshape
    refine iff_of_false nofun fun hdigits => hshape ?_
    rw [Bool.and_eq_true, Bool.not_eq_true', List.isEmpty_eq_false_iff, List.all_eq_true]
    exact ⟨hdigits.ne_nil, hdigits.digits⟩

/-- Reading an integer of any size accepts exactly the literals. -/
theorem readInt?_eq_some_iff {cs : List Char} {n : Int} : readInt? cs = some n ↔ IsLiteral cs n := by
  constructor
  · intro hread
    unfold readInt? at hread
    split at hread <;> obtain ⟨m, hm, rfl⟩ := Option.map_eq_some_iff.mp hread
    · exact .plus (readNat?_eq_some_iff.mp hm)
    · exact .minus (readNat?_eq_some_iff.mp hm)
    · exact .unsigned (readNat?_eq_some_iff.mp hm)
  · intro hliteral
    cases hliteral with
    | unsigned hdigits =>
      have hplus : ∀ rest, cs ≠ '+' :: rest := by
        rintro rest rfl
        exact absurd (hdigits.digits '+' List.mem_cons_self) (by decide)
      have hminus : ∀ rest, cs ≠ '-' :: rest := by
        rintro rest rfl
        exact absurd (hdigits.digits '-' List.mem_cons_self) (by decide)
      unfold readInt?
      split
      · exact absurd rfl (hplus _)
      · exact absurd rfl (hminus _)
      · rw [readNat?_eq_some_iff.mpr hdigits]
        rfl
    | plus hdigits =>
      rw [readInt?, readNat?_eq_some_iff.mpr hdigits]
      rfl
    | minus hdigits =>
      rw [readInt?, readNat?_eq_some_iff.mpr hdigits]
      rfl

/-- Reading accepts exactly the literals whose value has 64 bits, however long they are. -/
theorem readInt64?_eq_some_iff {cs : List Char} {n : Int} :
    readInt64? cs = some n ↔
      IsLiteral cs n ∧ -9223372036854775808 ≤ n ∧ n < 9223372036854775808 := by
  simp only [readInt64?, Option.filter_eq_some_iff, readInt?_eq_some_iff, fitsInt64, Bool.and_eq_true,
    decide_eq_true_eq]

private theorem areDigits_natChars (n : Nat) : AreDigits (natChars n) n where
  ne_nil := Nat.toDigits_ne_nil
  digits _ hc := Nat.isDigit_of_mem_toDigits (by decide) (by decide) hc
  value := Nat.ofDigitChars_ten_toDigits.symm

/-- The digits of a number with zeros in front denote it. -/
theorem areDigits_paddedChars (width n : Nat) : AreDigits (paddedChars width n) n where
  ne_nil := List.append_ne_nil_of_right_ne_nil _ (areDigits_natChars n).ne_nil
  digits _ hc := isDigit_of_mem_paddedChars hc
  value := (ofDigitChars_paddedChars width n).symm

/-- An integer is written with digits and a minus sign. -/
theorem mem_intChars {n : Int} {c : Char} (hc : c ∈ intChars n) : c = '-' ∨ c.isDigit = true := by
  have hdigits (c : Char) (hc : c ∈ natChars n.natAbs) : c.isDigit = true :=
    (areDigits_natChars n.natAbs).digits c hc
  unfold intChars at hc
  split at hc
  · exact (List.mem_cons.mp hc).imp_right (hdigits c)
  · exact .inr (hdigits c hc)

/-- A written integer is a literal of it. -/
theorem isLiteral_intChars (n : Int) : IsLiteral (intChars n) n := by
  unfold intChars
  split
  · have hn : -(n.natAbs : Int) = n := by omega
    simpa only [hn] using IsLiteral.minus (areDigits_natChars n.natAbs)
  · have hn : (n.natAbs : Int) = n := by omega
    simpa only [hn] using IsLiteral.unsigned (areDigits_natChars n.natAbs)

end Daybook.Text
