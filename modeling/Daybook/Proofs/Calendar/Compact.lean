import Daybook.Calendar.Written
import Daybook.Proofs.Calendar.Order
import Daybook.Proofs.Calendar.Succession
import Daybook.Proofs.Text.Bytes
import Daybook.Proofs.Text.Literal

namespace Daybook.Date

/-- The compact form fits exactly the dates of the years 0 to 9999. -/
theorem isRepresentable_iff {d : Date} : d.isRepresentable = true ↔ 0 ≤ d.year ∧ d.year ≤ 9999 := by
  simp only [isRepresentable, Bool.and_eq_true, decide_eq_true_eq]

private theorem compact_toList {d : Date} (hfits : d.isRepresentable = true) :
    d.compact.toList = Text.paddedChars 4 d.year.natAbs ++ Text.paddedChars 2 d.month ++
      Text.paddedChars 2 d.day := by
  rw [compact, String.toList_ofList, yearChars, if_pos (isRepresentable_iff.mp hfits)]

/-- The month and the day of any date have at most two digits. -/
theorem parts_lt (d : Date) : d.month < 100 ∧ d.day < 100 := by
  have hmonth := Calendar.isMonth_of_isDate d.isDate
  have hday := Nat.le_trans d.isDate.2.2 (Calendar.monthLength_le d.year d.month)
  omega

/-- The parts of the compact form have their full widths. -/
theorem length_parts {d : Date} (hfits : d.isRepresentable = true) :
    (Text.paddedChars 4 d.year.natAbs).length = 4 ∧ (Text.paddedChars 2 d.month).length = 2 ∧
      (Text.paddedChars 2 d.day).length = 2 := by
  have hyear := isRepresentable_iff.mp hfits
  obtain ⟨hmonth, hday⟩ := parts_lt d
  exact ⟨Text.length_paddedChars (by decide) (by omega), Text.length_paddedChars (by decide) hmonth,
    Text.length_paddedChars (by decide) hday⟩

/-- No date is written as a blank text. -/
theorem allBlank_compact (d : Date) : Text.allBlank d.compact = false := by
  have hlength : (Text.paddedChars 2 d.day).length = 2 := Text.length_paddedChars (by decide) (parts_lt d).2
  obtain ⟨c, hc⟩ := List.exists_mem_of_length_pos (Nat.lt_of_lt_of_eq Nat.zero_lt_two hlength.symm)
  have hblank := Text.isBlank_eq_false_of_isDigit (Text.isDigit_of_mem_paddedChars hc)
  rw [Text.allBlank, compact, String.toList_ofList, List.all_eq_false]
  exact ⟨c, List.mem_append_right _ hc, by simp [hblank]⟩

/-- Eight digits: four of a year, two of a month and two of a day. -/
def IsCompact (text : String) (year month day : Nat) : Prop :=
  ∃ y m d, text.toList = y ++ m ++ d ∧ (y.length = 4 ∧ m.length = 2 ∧ d.length = 2) ∧
    Text.AreDigits y year ∧ Text.AreDigits m month ∧ Text.AreDigits d day

private theorem isCompact_compact {d : Date} (hfits : d.isRepresentable = true) :
    IsCompact d.compact d.year.natAbs d.month d.day :=
  ⟨_, _, _, compact_toList hfits, length_parts hfits, Text.areDigits_paddedChars 4 _,
    Text.areDigits_paddedChars 2 _, Text.areDigits_paddedChars 2 _⟩

/-- Any eight digits are a year, a month and a day. -/
theorem exists_isCompact {text : String} (hlength : text.toList.length = 8)
    (hdigits : ∀ c ∈ text.toList, c.isDigit = true) : ∃ year month day, IsCompact text year month day := by
  have hcut : text.toList = text.toList.take 4 ++ (text.toList.drop 4).take 2 ++ text.toList.drop 6 := by
    calc text.toList
      _ = text.toList.take 4 ++ text.toList.drop 4 := (List.take_append_drop 4 _).symm
      _ = text.toList.take 4 ++ ((text.toList.drop 4).take 2 ++ (text.toList.drop 4).drop 2) := by
        rw [List.take_append_drop 2]
      _ = text.toList.take 4 ++ (text.toList.drop 4).take 2 ++ text.toList.drop 6 := by
        rw [List.drop_drop, List.append_assoc]
  have hlengths : (text.toList.take 4).length = 4 ∧ ((text.toList.drop 4).take 2).length = 2 ∧
      (text.toList.drop 6).length = 2 := by
    simp only [List.length_take, List.length_drop]
    omega
  have hareDigits {cs : List Char} (hcs : ∀ c ∈ cs, c ∈ text.toList) (hpos : 0 < cs.length) :
      Text.AreDigits cs (Nat.ofDigitChars 10 cs 0) :=
    ⟨List.ne_nil_of_length_pos hpos, fun c hc => hdigits c (hcs c hc), rfl⟩
  exact ⟨_, _, _, _, _, _, hcut, hlengths, hareDigits (fun c hc => List.mem_of_mem_take hc) (by omega),
    hareDigits (fun c hc => List.mem_of_mem_drop (List.mem_of_mem_take hc)) (by omega),
    hareDigits (fun c hc => List.mem_of_mem_drop hc) (by omega)⟩

private theorem IsCompact.eightDigits {text : String} {year month day : Nat} (hcompact : IsCompact text year month day) :
    text.toList.length = 8 ∧ ∀ c ∈ text.toList, c.isDigit = true := by
  obtain ⟨y, m, d, htext, ⟨hy, hm, hd⟩, hyear, hmonth, hday⟩ := hcompact
  rw [htext]
  refine ⟨by simp only [List.length_append, hy, hm, hd], ?_⟩
  exact List.forall_mem_append.mpr ⟨List.forall_mem_append.mpr ⟨hyear.digits, hmonth.digits⟩, hday.digits⟩

/-- The compact form of a date that fits it is eight digits. -/
theorem compact_digits {d : Date} (hfits : d.isRepresentable = true) :
    d.compact.toList.length = 8 ∧ ∀ c ∈ d.compact.toList, c.isDigit = true :=
  (isCompact_compact hfits).eightDigits

/-- Eight digits are the compact form of the date that they name. -/
theorem IsCompact.eq_compact {text : String} {year : Nat} {d : Date} (hcompact : IsCompact text year d.month d.day)
    (hyear : d.year = year) : d.isRepresentable = true ∧ text = d.compact := by
  obtain ⟨ys, ms, ds, htext, ⟨hys, hms, hds⟩, hyearDigits, hmonthDigits, hdayDigits⟩ := hcompact
  have hpadded {cs : List Char} {n : Nat} (hdigits : Text.AreDigits cs n) : cs = Text.paddedChars cs.length n := by
    rw [hdigits.value, Text.paddedChars_ofDigitChars (List.length_pos_iff.mpr hdigits.ne_nil) hdigits.digits]
  have hbound := Text.ofDigitChars_lt hyearDigits.digits
  rw [← hyearDigits.value, hys] at hbound
  have hfits : d.isRepresentable = true := by
    rw [isRepresentable_iff]
    omega
  refine ⟨hfits, String.toList_inj.mp ?_⟩
  have hyearChars := hpadded hyearDigits
  have hmonthChars := hpadded hmonthDigits
  have hdayChars := hpadded hdayDigits
  rw [hys] at hyearChars
  rw [hms] at hmonthChars
  rw [hds] at hdayChars
  rw [compact_toList hfits, hyear, Int.natAbs_natCast, ← hyearChars, ← hmonthChars, ← hdayChars, htext]

/-- Eight digits are read as the date that they name, or are invalid where they name none. -/
theorem read_of_isCompact {text : String} {year month day : Nat} (hcompact : IsCompact text year month day) :
    read text = ((ofYmd? year month day).map .ok).getD (.error (.invalid text)) := by
  obtain ⟨hlength, hdigits⟩ := hcompact.eightDigits
  have hall : text.toList.all Char.isDigit = true := List.all_eq_true.mpr hdigits
  obtain ⟨y, m, d, htext, ⟨hy, hm, hd⟩, hyear, hmonth, hday⟩ := hcompact
  have htake : text.toList.take 4 = y := by rw [htext, List.append_assoc, List.take_left' hy]
  have hmiddle : (text.toList.drop 4).take 2 = m := by
    rw [htext, List.append_assoc, List.drop_left' hy, List.take_left' hm]
  have hdrop : text.toList.drop 6 = d := by
    rw [htext, List.drop_left' (by simp only [List.length_append, hy, hm])]
  simp only [read, hlength, hall, htake, hmiddle, hdrop, ← hyear.value, ← hmonth.value, ← hday.value,
    decide_true, Bool.and_self, if_true]
  cases ofYmd? (year : Int) month day <;> rfl

/-- A text that is not eight digits is malformed, whatever else it may be. -/
theorem read_of_not_eightDigits {text : String}
    (hother : ¬ (text.toList.length = 8 ∧ ∀ c ∈ text.toList, c.isDigit = true)) :
    read text = .error (.malformed text) := by
  unfold read
  rw [if_neg]
  simpa only [Bool.and_eq_true, decide_eq_true_eq, List.all_eq_true] using hother

/-- A date that fits the compact form is read back from it. -/
theorem read_compact {d : Date} (hfits : d.isRepresentable = true) : read d.compact = .ok d := by
  have hmade : ofYmd? (d.year.natAbs : Int) d.month d.day = some d := by
    have hpos := (isRepresentable_iff.mp hfits).1
    rw [ofYmd?_eq_some_iff]
    omega
  rw [read_of_isCompact (isCompact_compact hfits), hmade]
  rfl

/-- A text is read as a date exactly where it is the compact form of the date. -/
theorem read_eq_ok_iff {text : String} {d : Date} :
    read text = .ok d ↔ d.isRepresentable = true ∧ text = d.compact := by
  constructor
  · intro hread
    by_cases hdigits : text.toList.length = 8 ∧ ∀ c ∈ text.toList, c.isDigit = true
    · obtain ⟨year, month, day, hcompact⟩ := exists_isCompact hdigits.1 hdigits.2
      rw [read_of_isCompact hcompact] at hread
      cases hmade : ofYmd? (year : Int) month day with
      | none =>
        rw [hmade] at hread
        cases hread
      | some found =>
        rw [hmade] at hread
        cases hread
        obtain ⟨hyear, rfl, rfl⟩ := ofYmd?_eq_some_iff.mp hmade
        exact hcompact.eq_compact hyear
    · rw [read_of_not_eightDigits hdigits] at hread
      cases hread
  · rintro ⟨hfits, rfl⟩
    exact read_compact hfits

/-- A text that is read as a date is not blank. -/
theorem allBlank_of_read {text : String} {d : Date} (hread : read text = .ok d) :
    Text.allBlank text = false := by
  rw [(read_eq_ok_iff.mp hread).2]
  exact allBlank_compact d

private theorem ofDigitChars_compact {d : Date} (hfits : d.isRepresentable = true) :
    Nat.ofDigitChars 10 d.compact.toList 0 = 10000 * d.year.natAbs + 100 * d.month + d.day := by
  obtain ⟨_, hmonth, hday⟩ := length_parts hfits
  have hmonthAfter (init : Nat) :
      Nat.ofDigitChars 10 (Text.paddedChars 2 d.month) init = 100 * init + d.month := by
    rw [Nat.ofDigitChars_eq_ofDigitChars_zero, hmonth, Text.ofDigitChars_paddedChars]
  have hdayAfter (init : Nat) :
      Nat.ofDigitChars 10 (Text.paddedChars 2 d.day) init = 100 * init + d.day := by
    rw [Nat.ofDigitChars_eq_ofDigitChars_zero, hday, Text.ofDigitChars_paddedChars]
  rw [compact_toList hfits, Nat.ofDigitChars_append, Nat.ofDigitChars_append,
    Text.ofDigitChars_paddedChars, hmonthAfter, hdayAfter]
  omega

/-- Dates that fit the compact form are in the order of their texts. -/
theorem compact_lt_iff {a b : Date} (ha : a.isRepresentable = true) (hb : b.isRepresentable = true) :
    a.compact < b.compact ↔ a < b := by
  obtain ⟨haLength, haDigits⟩ := compact_digits ha
  obtain ⟨hbLength, hbDigits⟩ := compact_digits hb
  have haYear := isRepresentable_iff.mp ha
  have hbYear := isRepresentable_iff.mp hb
  have haMonth := Calendar.isMonth_of_isDate a.isDate
  have hbMonth := Calendar.isMonth_of_isDate b.isDate
  have haDay := Nat.le_trans a.isDate.2.2 (Calendar.monthLength_le a.year a.month)
  have hbDay := Nat.le_trans b.isDate.2.2 (Calendar.monthLength_le b.year b.month)
  rw [String.lt_iff_toList_lt, Text.lt_iff_ofDigitChars_lt (haLength.trans hbLength.symm) haDigits hbDigits,
    ofDigitChars_compact ha, ofDigitChars_compact hb, lt_iff_lex]
  omega

/-- The bytes of compact forms are in the order of the days, as long as both years have four digits. -/
theorem bytes_compact_lt_iff {a b : Date} (ha : a.isRepresentable = true) (hb : b.isRepresentable = true) :
    Text.bytes a.compact < Text.bytes b.compact ↔ a < b := by
  rw [Text.bytes_lt_iff, compact_lt_iff ha hb]

end Daybook.Date
