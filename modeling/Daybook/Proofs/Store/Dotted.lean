import Daybook.Proofs.Calendar.Compact
import Daybook.Proofs.Text.Literal
import Daybook.Proofs.Text.Parts
import Daybook.Store.Search

namespace Daybook.Search

/-- A part of a dotted date: the digits of its number after blanks, no more of them than the part is wide. -/
def IsPart (width : Nat) (cs : List Char) (n : Nat) : Prop :=
  ∃ blanks digits, cs = blanks ++ digits ∧ (∀ c ∈ blanks, Text.isBlank c = true) ∧
    Text.AreDigits digits n ∧ digits.length ≤ width

/-- The year of a dotted date: an integer after blanks, of four digits at most if it has no sign. -/
def IsYear (cs : List Char) (year : Int) : Prop :=
  ∃ blanks literal, cs = blanks ++ literal ∧ (∀ c ∈ blanks, Text.isBlank c = true) ∧
    Text.IsLiteral literal year ∧ ((∀ c ∈ literal, c.isDigit = true) → literal.length ≤ 4)

/-- A text that denotes a date by its day, month and year. -/
def IsDotted (cs : List Char) (d : Date) : Prop :=
  ∃ day month year, cs = day ++ '.' :: (month ++ '.' :: year) ∧ IsPart 2 day d.day ∧
    IsPart 2 month d.month ∧ IsYear year d.year

section Reading

variable {most n : Nat} {cs rest : List Char}

private theorem takeNumber?_spec (htake : takeNumber? most cs = some (n, rest)) :
    ∃ digits, cs = digits ++ rest ∧ Text.AreDigits digits n ∧ digits.length ≤ most := by
  unfold takeNumber? at htake
  dsimp only at htake
  split at htake
  · cases htake
  · rename_i hsome
    cases htake
    have hfront : (cs.take most).takeWhile Char.isDigit <+: cs :=
      (List.takeWhile_prefix _).trans (List.take_prefix most cs)
    refine ⟨_, (List.prefix_iff_eq_append.mp hfront).symm, ⟨?_, ?_, rfl⟩, ?_⟩
    · rwa [List.isEmpty_iff] at hsome
    · intro c hc
      exact List.mem_takeWhile_imp hc
    · exact Nat.le_trans (List.takeWhile_prefix _).length_le (List.length_take_le most cs)

/-- Digits are read to their end, where no other digit comes after them. -/
theorem takeNumber?_append {digits : List Char} (hdigits : Text.AreDigits digits n)
    (hlength : digits.length ≤ most) (hrest : ∀ c ∈ rest.head?, c.isDigit = false) :
    takeNumber? most (digits ++ rest) = some (n, rest) := by
  -- Up to the width, more may be taken than the digits, but none of it is a digit.
  have hstop : (rest.take (most - digits.length)).takeWhile Char.isDigit = [] := by
    cases rest with
    | nil => simp
    | cons c rest =>
      have hc := hrest c rfl
      cases most - digits.length with
      | zero => rfl
      | succ => simp [hc]
  have htaken : ((digits ++ rest).take most).takeWhile Char.isDigit = digits := by
    rw [List.take_append, List.take_of_length_le hlength, List.takeWhile_append_of_pos hdigits.digits, hstop,
      List.append_nil]
  unfold takeNumber?
  dsimp only
  rw [htaken, List.isEmpty_eq_false_iff.mpr hdigits.ne_nil, List.drop_left, ← hdigits.value]
  rfl

private theorem takePart?_spec (htake : takePart? cs = some (n, rest)) :
    ∃ part, cs = part ++ rest ∧ IsPart 2 part n := by
  obtain ⟨digits, hcs, hdigits, hlength⟩ := takeNumber?_spec htake
  have hblanks := List.takeWhile_append_dropWhile (p := Text.isBlank) (l := cs)
  rw [hcs] at hblanks
  refine ⟨cs.takeWhile Text.isBlank ++ digits, ?_, _, digits, rfl, ?_, hdigits, hlength⟩
  · rw [List.append_assoc, hblanks]
  · intro c hc
    exact List.mem_takeWhile_imp hc

private theorem dropWhile_isBlank_append {blanks : List Char} (hblanks : ∀ c ∈ blanks, Text.isBlank c = true)
    (hrest : ∀ c ∈ rest.head?, Text.isBlank c = false) : (blanks ++ rest).dropWhile Text.isBlank = rest := by
  rw [List.dropWhile_append_of_pos hblanks, Text.dropWhile_eq_self_of_head? hrest]

/-- A part is taken off the front as long as no digit follows it. -/
theorem takePart?_append {part : List Char} (hpart : IsPart 2 part n)
    (hrest : ∀ c ∈ rest.head?, c.isDigit = false) : takePart? (part ++ rest) = some (n, rest) := by
  obtain ⟨blanks, digits, rfl, hblanks, hdigits, hlength⟩ := hpart
  have hstart : ∀ c ∈ (digits ++ rest).head?, Text.isBlank c = false := by
    intro c hc
    rw [List.head?_append_of_ne_nil _ hdigits.ne_nil] at hc
    exact Text.isBlank_eq_false_of_isDigit (hdigits.digits c (List.mem_of_mem_head? hc))
  rw [takePart?, List.append_assoc, dropWhile_isBlank_append hblanks hstart]
  exact takeNumber?_append hdigits hlength hrest

/-- A text is a number of so many digits at most exactly where nothing is left of it. -/
theorem takeNumber?_eq_some_nil_iff :
    takeNumber? most cs = some (n, []) ↔ Text.AreDigits cs n ∧ cs.length ≤ most := by
  constructor
  · intro htake
    obtain ⟨digits, rfl, hdigits, hlength⟩ := takeNumber?_spec htake
    rw [List.append_nil]
    exact ⟨hdigits, hlength⟩
  · rintro ⟨hdigits, hlength⟩
    have htake : takeNumber? most (cs ++ []) = some (n, []) := takeNumber?_append hdigits hlength nofun
    rwa [List.append_nil] at htake

/-- A year that is left at the end is read whole, and only a year is. -/
theorem takeYear?_eq_some_iff {year : Int} : takeYear? cs = some (year, []) ↔ IsYear cs year := by
  constructor
  · intro htake
    unfold takeYear? at htake
    refine ⟨cs.takeWhile Text.isBlank, cs.dropWhile Text.isBlank, List.takeWhile_append_dropWhile.symm,
      fun c hc => List.mem_takeWhile_imp hc, ?_⟩
    split at htake <;> rename_i heq <;> obtain ⟨⟨n, _⟩, hnumber, hsame⟩ := Option.map_eq_some_iff.mp htake <;>
      cases hsame <;> obtain ⟨hdigits, hlength⟩ := takeNumber?_eq_some_nil_iff.mp hnumber
    · rw [heq]
      exact ⟨.minus hdigits, fun hall => absurd (hall _ List.mem_cons_self) (by decide)⟩
    · rw [heq]
      exact ⟨.plus hdigits, fun hall => absurd (hall _ List.mem_cons_self) (by decide)⟩
    · exact ⟨.unsigned hdigits, fun _ => hlength⟩
  · rintro ⟨blanks, literal, rfl, hblanks, hliteral, hlength⟩
    unfold takeYear?
    cases hliteral with
    | unsigned hdigits =>
      have hstart : ∀ c ∈ literal.head?, c.isDigit = true :=
        fun c hc => hdigits.digits c (List.mem_of_mem_head? hc)
      rw [dropWhile_isBlank_append hblanks fun c hc => Text.isBlank_eq_false_of_isDigit (hstart c hc)]
      split
      · exact absurd (hstart '-' rfl) (by decide)
      · exact absurd (hstart '+' rfl) (by decide)
      · rw [takeNumber?_eq_some_nil_iff.mpr ⟨hdigits, hlength hdigits.digits⟩]
        rfl
    | plus hdigits =>
      rw [dropWhile_isBlank_append hblanks (by rintro _ ⟨⟩; decide)]
      simp [takeNumber?_eq_some_nil_iff.mpr ⟨hdigits, Nat.le_refl _⟩]
    | minus hdigits =>
      rw [dropWhile_isBlank_append hblanks (by rintro _ ⟨⟩; decide)]
      simp [takeNumber?_eq_some_nil_iff.mpr ⟨hdigits, Nat.le_refl _⟩]

private theorem takeDot?_eq_some_iff : takeDot? cs = some rest ↔ cs = '.' :: rest := by
  unfold takeDot?
  split
  · rw [Option.some_inj, List.cons_inj_right]
  · rename_i hother
    exact iff_of_false nofun (hother rest)

/-- A text is read as a date exactly where it denotes that date. -/
theorem readDate?_eq_some_iff {d : Date} : readDate? cs = some d ↔ IsDotted cs d := by
  simp only [readDate?, Option.bind_eq_bind, Option.bind_eq_some_iff, Prod.exists, takeDot?_eq_some_iff]
  constructor
  · rintro ⟨day, _, hday, _, rfl, month, _, hmonth, _, rfl, year, rest, hyear, hdate⟩
    obtain ⟨hempty, hdate⟩ := Option.ite_none_right_eq_some.mp hdate
    obtain ⟨rfl, rfl, rfl⟩ := Date.ofYmd?_eq_some_iff.mp hdate
    rw [List.isEmpty_iff] at hempty
    subst hempty
    obtain ⟨dayChars, rfl, hdayPart⟩ := takePart?_spec hday
    obtain ⟨monthChars, rfl, hmonthPart⟩ := takePart?_spec hmonth
    exact ⟨dayChars, monthChars, _, rfl, hdayPart, hmonthPart, takeYear?_eq_some_iff.mp hyear⟩
  · rintro ⟨day, month, year, rfl, hday, hmonth, hyear⟩
    have hdot : ∀ rest : List Char, ∀ c ∈ ('.' :: rest).head?, c.isDigit = false := by
      rintro _ _ ⟨⟩
      decide
    refine ⟨_, _, takePart?_append hday (hdot _), _, rfl, _, _, takePart?_append hmonth (hdot _), _, rfl, _, _,
      takeYear?_eq_some_iff.mpr hyear, ?_⟩
    exact Date.ofYmd?_eq_some_iff.mpr ⟨rfl, rfl, rfl⟩

end Reading

end Daybook.Search

namespace Daybook.Date

/-- The dotted form, in which every part has its full width. -/
def dotted (d : Date) : String :=
  String.ofList (Text.paddedChars 2 d.day ++ '.' :: (Text.paddedChars 2 d.month ++ '.' :: yearChars d.year))

private theorem isLiteral_yearChars (year : Int) : Text.IsLiteral (yearChars year) year := by
  have hdigits := Text.areDigits_paddedChars 4 year.natAbs
  unfold yearChars
  split
  · have hyear : (year.natAbs : Int) = year := by omega
    simpa only [hyear] using Text.IsLiteral.unsigned hdigits
  · split
    · have hyear : -(year.natAbs : Int) = year := by omega
      simpa only [hyear] using Text.IsLiteral.minus hdigits
    · have hyear : (year.natAbs : Int) = year := by omega
      simpa only [hyear] using Text.IsLiteral.plus hdigits

private theorem isYear_yearChars (year : Int) : Search.IsYear (yearChars year) year := by
  refine ⟨[], yearChars year, rfl, nofun, isLiteral_yearChars year, ?_⟩
  unfold yearChars
  split
  · intro _
    exact Nat.le_of_eq (Text.length_paddedChars (by decide) (by omega))
  · intro hall
    have hsign := hall _ List.mem_cons_self
    split at hsign <;> cases hsign

private theorem isPart_paddedChars {n : Nat} (hn : n < 100) : Search.IsPart 2 (Text.paddedChars 2 n) n :=
  ⟨[], _, rfl, nofun, Text.areDigits_paddedChars 2 n,
    Nat.le_of_eq (Text.length_paddedChars (by decide) hn)⟩

/-- Every date is denoted by its dotted form. -/
theorem isDotted_dotted (d : Date) : Search.IsDotted d.dotted.toList d := by
  obtain ⟨hmonth, hday⟩ := parts_lt d
  rw [dotted, String.toList_ofList]
  exact ⟨_, _, _, rfl, isPart_paddedChars hday, isPart_paddedChars hmonth, isYear_yearChars d.year⟩

/-- There are no blanks in a dotted form. -/
theorem isWord_dotted (d : Date) : Text.IsWord d.dotted.toList := by
  have hparts : d.dotted.toList =
      ['.'].intercalate [Text.paddedChars 2 d.day, Text.paddedChars 2 d.month, yearChars d.year] := by
    simp [dotted]
  rw [hparts]
  apply Text.isWord_intercalate (List.cons_ne_nil _ _)
  · exact List.forall_mem_singleton.mpr rfl
  · exact List.forall_mem_cons.mpr ⟨(Text.areDigits_paddedChars 2 d.day).isWord,
      List.forall_mem_cons.mpr ⟨(Text.areDigits_paddedChars 2 d.month).isWord,
        List.forall_mem_singleton.mpr (isLiteral_yearChars d.year).isWord⟩⟩

end Daybook.Date
