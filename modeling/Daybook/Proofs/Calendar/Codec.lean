import Daybook.Proofs.Calendar.Compact

namespace Daybook

namespace Text

/-- Eight bytes, each of them an ASCII digit. -/
structure IsEightDigits (text : String) : Prop where
  length : (bytes text).length = 8
  digits : ∀ b ∈ bytes text, IsDigitByte b

/-- Bytes and characters agree on which texts are eight digits. -/
theorem isEightDigits_iff {text : String} :
    IsEightDigits text ↔ text.toList.length = 8 ∧ ∀ c ∈ text.toList, c.isDigit = true := by
  constructor
  · rintro ⟨hlength, hbytes⟩
    have hdigits := forall_isDigitByte_iff.mp hbytes
    exact ⟨(length_bytes_of_digits hdigits).symm.trans hlength, hdigits⟩
  · rintro ⟨hlength, hdigits⟩
    exact ⟨(length_bytes_of_digits hdigits).trans hlength, forall_isDigitByte_iff.mpr hdigits⟩

end Text

namespace Date

open Text (IsEightDigits)

/-- Outside the years 0 to 9999 the year has a sign before it. -/
theorem not_isEightDigits_compact {d : Date} (hwide : d.isRepresentable = false) : ¬ IsEightDigits d.compact := by
  have hyear : ¬ (0 ≤ d.year ∧ d.year ≤ 9999) := by
    rw [← isRepresentable_iff, hwide]
    exact Bool.false_ne_true
  rw [Text.isEightDigits_iff, compact, String.toList_ofList, yearChars, if_neg hyear]
  rintro ⟨_, hdigits⟩
  have hsign := hdigits _ List.mem_cons_self
  split at hsign <;> cases hsign

/-- What comes of reading a text as a date: it is malformed if it is not eight digits, and invalid if these name no
date. -/
inductive Verdict (text : String) : Except DateError Date → Prop
  | malformed (hother : ¬ IsEightDigits text) : Verdict text (.error (.malformed text))
  | invalid {year month day : Nat} (hcompact : IsCompact text year month day)
      (hnone : ¬ Calendar.IsDate year month day) : Verdict text (.error (.invalid text))
  | date {year : Nat} {d : Date} (hcompact : IsCompact text year d.month d.day) (hyear : d.year = year) :
      Verdict text (.ok d)

variable {text : String} {result : Except DateError Date} {d : Date}

private theorem Verdict.read_eq (hverdict : Verdict text result) : read text = result := by
  cases hverdict with
  | malformed hother =>
    rw [Text.isEightDigits_iff] at hother
    exact read_of_not_eightDigits hother
  | invalid hcompact hnone =>
    rw [read_of_isCompact hcompact, ofYmd?_eq_none_iff.mpr hnone]
    rfl
  | date hcompact hyear =>
    rw [read_of_isCompact hcompact, ofYmd?_eq_some_iff.mpr ⟨hyear, rfl, rfl⟩]
    rfl

/-- Reading gives the verdict on every text, whatever bytes it has. -/
theorem verdict_read (text : String) : Verdict text (read text) := by
  by_cases hdigits : IsEightDigits text
  · obtain ⟨hlength, hall⟩ := Text.isEightDigits_iff.mp hdigits
    obtain ⟨year, month, day, hcompact⟩ := exists_isCompact hlength hall
    rw [read_of_isCompact hcompact]
    cases hmade : ofYmd? (year : Int) month day with
    | none => exact .invalid hcompact (ofYmd?_eq_none_iff.mp hmade)
    | some d =>
      obtain ⟨hyear, rfl, rfl⟩ := ofYmd?_eq_some_iff.mp hmade
      exact .date hcompact hyear
  · rw [read_of_not_eightDigits (Text.isEightDigits_iff.not.mp hdigits)]
    exact .malformed hdigits

private theorem read_compact_iff : read d.compact = .ok d ↔ d.isRepresentable = true := by
  constructor
  · intro hread
    exact (read_eq_ok_iff.mp hread).1
  · exact read_compact

/-- Reading and writing the compact form. Every text is read by its verdict. Texts that pass as eight digits, in
which the parts are found by counting bytes, have none of these positions within a character. What is read is
written as it was, and of the dates exactly those of the years 0 to 9999 are read back; of the others the compact
form is malformed. -/
theorem compact_codec :
    (∀ text result, read text = result ↔ Verdict text result) ∧
    (∀ text, IsEightDigits text → ∀ n ≤ 8, String.Pos.Raw.IsValid text ⟨n⟩) ∧
    (∀ text d, read text = .ok d → d.isRepresentable = true ∧ d.compact = text) ∧
    ∀ d : Date, (read d.compact = .ok d ↔ d.isRepresentable = true) ∧
      (d.isRepresentable = false → read d.compact = .error (.malformed d.compact)) := by
  refine ⟨?_, ?_, ?_, ?_⟩
  · intro text result
    constructor
    · rintro rfl
      exact verdict_read text
    · exact Verdict.read_eq
  · intro text hdigits n hn
    obtain ⟨hlength, hall⟩ := Text.isEightDigits_iff.mp hdigits
    exact Text.isValid_of_digits hall (hn.trans_eq hlength.symm)
  · intro text d hread
    obtain ⟨hfits, htext⟩ := read_eq_ok_iff.mp hread
    exact ⟨hfits, htext.symm⟩
  · intro d
    refine ⟨read_compact_iff, fun hwide => ?_⟩
    exact (Verdict.malformed (not_isEightDigits_compact hwide)).read_eq

/-- Six digits after a letter of two bytes have the right length and are refused before they are cut. -/
theorem compact_codec_accent :
    ∃ d : Date, read "20240229" = .ok d ∧ d.compact = "20240229" ∧ String.Pos.Raw.IsValid "20240229" ⟨6⟩ ∧
      (Text.bytes "é240229").length = 8 ∧ read "é240229" = .error (.malformed "é240229") ∧
      read (compact ⟨10000, 1, 1, by decide⟩) = .error (.malformed "+100000101") := by
  obtain ⟨hverdict, hcut, hwritten, hback⟩ := compact_codec
  have hread : read "20240229" = .ok ⟨2024, 2, 29, by decide⟩ := by decide +kernel
  have hdigits : IsEightDigits "20240229" :=
    Text.isEightDigits_iff.mpr ⟨by decide +kernel, List.all_eq_true.mp (by decide +kernel)⟩
  have hother : ¬ IsEightDigits "é240229" := by
    intro hdigits
    exact absurd (Text.isEightDigits_iff.mp hdigits).1 (by decide +kernel)
  refine ⟨_, hread, (hwritten _ _ hread).2, hcut _ hdigits 6 (by decide), by decide +kernel,
    (hverdict _ _).mpr (.malformed hother), ?_⟩
  have hcompact : compact ⟨10000, 1, 1, by decide⟩ = "+100000101" := by decide +kernel
  rw [(hback _).2 (by decide), hcompact]

end Date

end Daybook
