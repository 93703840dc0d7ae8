import Daybook.Proofs.Calendar.Compact
import Daybook.Proofs.Occurrence.Existence

namespace Daybook.Occurrence

open Calendar

/-- The next occurrence and the text that gives it: eight digits that denote a date after the day of the
reference, and not before the anchor by as much as the rule steps over. -/
structure Answers (day start : Date) (rule : Rule) (found : Date) (text : String) : Prop where
  digits : text.toList.length = 8 ∧ ∀ c ∈ text.toList, c.isDigit = true
  read : Date.read text = .ok found
  computed : next day start rule = .ok found
  after : day < found
  anchor_le : start ≤ found
  annual : rule = .annual → ∃ later, start.addYears? 1 = some later ∧ later ≤ found
  interval : ∀ days : Nat, rule = .interval days → days ≤ start.daysUntil found

/-- What may come of a readable anchor and a readable rule. The search of a monthly rule may be exhausted,
if none of its dates after the reference is among the days searched, and the next occurrence may be
beyond the year 9999; no other bound is ever passed. -/
def Outcome (day start : Date) (rule : Rule) : Except Error String → Prop
  | .ok text => ∃ found, Answers day start rule found text
  | .error (.searchExhausted searched count) =>
    searched = rule ∧ count = 730 ∧ ∃ days months, rule = .monthly days months ∧
      ∀ d, isMonthly days months d = true → day < d → start ≤ d →
        730 ≤ (start.later day).daysUntil d
  | .error (.internal (.unrepresentable found)) =>
    next day start rule = .ok found ∧ 10000 ≤ found.year
  | .error _ => False

/-- An annual rule steps over at least one year. -/
theorem addYears?_le_of_fallsOn {start found : Date} (hfalls : Rule.FallsOn .annual start found) :
    ∃ later, start.addYears? 1 = some later ∧ later ≤ found := by
  obtain ⟨hyear, hday⟩ := hfalls
  rcases advance_one_spec start with ⟨later, hlater, hlaterYear, hlaterDay⟩ | ⟨_, hmax⟩
  · refine ⟨later, ?_, ?_⟩
    · unfold advance at hlater
      split at hlater
      · rename_i hmove
        cases hlater
        exact hmove
      · cases hlater
    · rw [Date.le_iff_year_of_anniversary hlaterDay hday]
      omega
  · have hlast := found.isDate.1.2
    omega

/-- An interval rule steps over at least one interval. -/
theorem le_daysUntil_of_fallsOn {start found : Date} {days : Nat}
    (hfalls : Rule.FallsOn (.interval days) start found) : days ≤ start.daysUntil found := by
  obtain ⟨steps, hone, hnumber⟩ := hfalls
  have hle : (days : Int) ≤ steps * days := by exact_mod_cast Nat.le_mul_of_pos_left days hone
  unfold Date.daysUntil
  omega

/-- A next date that fits the compact form is answered by that form. -/
theorem answers_compact {day start found : Date} {rule : Rule}
    (hnext : next day start rule = .ok found) (hfits : found.isRepresentable = true) :
    Answers day start rule found found.compact where
  digits := Date.compact_digits hfits
  read := Date.read_compact hfits
  computed := hnext
  after := (next_eq_ok_iff.mp hnext).1.after
  anchor_le := (next_eq_ok_iff.mp hnext).1.fallsOn.anchor_le
  annual hrule := addYears?_le_of_fallsOn (hrule ▸ (next_eq_ok_iff.mp hnext).1.fallsOn)
  interval _ hrule := le_daysUntil_of_fallsOn (hrule ▸ (next_eq_ok_iff.mp hnext).1.fallsOn)

/-- Only the search of a monthly rule can fail, and it does so only where none of the rule's dates after
the reference is among the days searched. -/
theorem next_total {day start : Date} {rule : Rule} (hrule : rule.WellFormed)
    (hday : day.year ≤ 9999) (hstart : start.year ≤ 9999) :
    (∃ found, next day start rule = .ok found) ∨
      (next day start rule = .error (.searchExhausted rule 730) ∧
        ∃ days months, rule = .monthly days months ∧
          ∀ d, isMonthly days months d = true → day < d → start ≤ d →
            730 ≤ (start.later day).daysUntil d) := by
  by_cases hmonthly : ∃ days months, rule = .monthly days months
  · obtain ⟨days, months, rfl⟩ := hmonthly
    rcases nextMonthly_spec day start days months with ⟨found, hfound, _⟩ | ⟨herror, hnone⟩
    · exact .inl ⟨found, hfound⟩
    · refine .inr ⟨herror, days, months, rfl, fun d hd hafter hle => ?_⟩
      by_contra hwithin
      have hdayNumber := dayNumber_le_of_year_le hday
      have hstartNumber := dayNumber_le_of_year_le hstart
      have hlater := Date.dayNumber_later start day
      have hlast := Date.dayNumber_last
      unfold Date.daysUntil at hwithin
      have hfalls : Rule.FallsOn (.monthly days months) start d := ⟨hle, hd⟩
      refine hnone d (Date.mem_run.mpr ⟨later_le_of_fallsOn hfalls hafter, ?_, ?_⟩) hfalls hafter
      · unfold monthlySearchDays
        omega
      · rw [Date.lt_iff_dayNumber]
        omega
  · left
    obtain ⟨d, hfalls, hafter, hreach⟩ := exists_fallsOn hrule
      (fun days months h => hmonthly ⟨days, months, h⟩) hstart hday
    rcases next_spec day start rule with ⟨found, hfound, _⟩ | ⟨_, _, hnone⟩
    · exact ⟨found, hfound⟩
    · exact absurd hreach (hnone d hfalls hafter)

section Text

variable {reference : Moment} {anchor text : String}

private theorem nextText_of_invalidAnchor {cause : DateError} (hanchor : Date.read anchor = .error cause) :
    nextText reference anchor text = .error (.invalidAnchor cause) := by
  rw [nextText, hanchor]
  rfl

private theorem nextText_of_invalidRule {start : Date} {cause : Rule.Error}
    (hanchor : Date.read anchor = .ok start) (hrule : Rule.read text = .error cause) :
    nextText reference anchor text = .error (.invalidRule cause) := by
  rw [nextText, hanchor, hrule]
  rfl

private theorem nextText_of_read {day start : Date} {rule : Rule} (hday : reference.date? = some day)
    (hanchor : Date.read anchor = .ok start) (hrule : Rule.read text = .ok rule) :
    nextText reference anchor text = (do
      let found ← next day start rule
      if found.isRepresentable then .ok found.compact
      else .error (.internal (.unrepresentable found))) := by
  rw [nextText, hanchor, hrule, hday]
  rfl

theorem date?_start (day : Date) : day.start.date? = some day :=
  Date.ofYmd?_eq_some_iff.mpr ⟨rfl, rfl, rfl⟩

/-- What it takes for an answer: texts that can be read, a reference that shows a date, and a next occurrence
that fits the compact form. -/
theorem nextText_eq_ok_iff {answer : String} :
    nextText reference anchor text = .ok answer ↔
      ∃ start rule day found, Date.read anchor = .ok start ∧ Rule.read text = .ok rule ∧
        reference.date? = some day ∧ next day start rule = .ok found ∧ Date.read answer = .ok found := by
  constructor
  · intro hanswer
    obtain ⟨start, hstart, hanswer⟩ := bind_eq_ok_iff.mp hanswer
    obtain ⟨rule, hrule, hanswer⟩ := bind_eq_ok_iff.mp hanswer
    split at hanswer
    · cases hanswer
    · rename_i day hday
      obtain ⟨found, hfound, hwritten⟩ := bind_eq_ok_iff.mp hanswer
      obtain ⟨hfits, rfl⟩ := ite_eq_ok_iff.mp hwritten
      exact ⟨start, rule, day, found, mapError_eq_ok_iff.mp hstart, mapError_eq_ok_iff.mp hrule, hday, hfound,
        Date.read_compact hfits⟩
  · rintro ⟨start, rule, day, found, hstart, hrule, hday, hfound, hread⟩
    obtain ⟨hfits, rfl⟩ := Date.read_eq_ok_iff.mp hread
    rw [nextText_of_read hday hstart hrule, hfound]
    exact if_pos hfits

/-- Readable texts have one of the outcomes that are left to them. -/
theorem outcome_of_read {day start : Date} {rule : Rule} (hday : reference.date? = some day)
    (hyear : day.year ≤ 9999) (hanchor : Date.read anchor = .ok start)
    (hrule : Rule.read text = .ok rule) : Outcome day start rule (nextText reference anchor text) := by
  obtain ⟨hfits, _⟩ := Date.read_eq_ok_iff.mp hanchor
  obtain ⟨hstartLow, hstartHigh⟩ := Date.isRepresentable_iff.mp hfits
  rw [nextText_of_read hday hanchor hrule]
  rcases next_total (Rule.wellFormed_of_read hrule) hyear hstartHigh with
    ⟨found, hfound⟩ | ⟨herror, hnone⟩
  · rw [hfound]
    change Outcome day start rule (if found.isRepresentable then _ else _)
    by_cases hfoundFits : found.isRepresentable = true
    · rw [if_pos hfoundFits]
      exact ⟨found, answers_compact hfound hfoundFits⟩
    · rw [if_neg hfoundFits]
      refine ⟨hfound, ?_⟩
      have hle := (next_eq_ok_iff.mp hfound).1.fallsOn.anchor_le
      have hyears : start.year ≤ found.year := by
        rcases hle with hlt | ⟨heq, _⟩ <;> omega
      rw [Date.isRepresentable_iff] at hfoundFits
      omega
  · rw [herror]
    exact ⟨rfl, rfl, hnone⟩

end Text

/-- Every outcome of asking by texts, for a reference that shows a date of a year up to 9999. The anchor
is at fault exactly where it is not the compact form of a date, whatever the rule is; then the rule where
it cannot be read. All other outcomes are those of readable texts, and the time of day makes no
difference. -/
theorem nextText_outcome {reference : Moment} {day : Date} (hday : reference.date? = some day)
    (hyear : day.year ≤ 9999) (anchor text : String) :
    ((∃ cause, nextText reference anchor text = .error (.invalidAnchor cause)) ↔
        ¬ ∃ start : Date, start.isRepresentable = true ∧ anchor = start.compact) ∧
      (∀ start, Date.read anchor = .ok start →
        ((∃ cause, nextText reference anchor text = .error (.invalidRule cause)) ↔
          ¬ ∃ rule, Rule.read text = .ok rule) ∧
        ∀ rule, Rule.read text = .ok rule →
          Outcome day start rule (nextText reference anchor text)) ∧
      ∀ second,
        nextText { reference with second := second } anchor text = nextText reference anchor text := by
  refine ⟨?_, fun start hanchor => ⟨?_, fun rule hrule => ?_⟩, fun second => rfl⟩
  · cases hanchor : Date.read anchor with
    | error cause =>
      refine iff_of_true ⟨cause, nextText_of_invalidAnchor hanchor⟩ ?_
      rintro ⟨start, hstart⟩
      rw [Date.read_eq_ok_iff.mpr hstart] at hanchor
      cases hanchor
    | ok start =>
      refine iff_of_false ?_ (not_not_intro ⟨start, Date.read_eq_ok_iff.mp hanchor⟩)
      rintro ⟨cause, herror⟩
      cases hrule : Rule.read text with
      | error other =>
        rw [nextText_of_invalidRule hanchor hrule] at herror
        cases herror
      | ok rule =>
        have houtcome := outcome_of_read hday hyear hanchor hrule
        rw [herror] at houtcome
        exact houtcome
  · cases hrule : Rule.read text with
    | error cause =>
      refine iff_of_true ⟨cause, nextText_of_invalidRule hanchor hrule⟩ ?_
      rintro ⟨rule, hok⟩
      cases hok
    | ok rule =>
      refine iff_of_false ?_ (not_not_intro ⟨rule, rfl⟩)
      rintro ⟨cause, herror⟩
      have houtcome := outcome_of_read hday hyear hanchor hrule
      rw [herror] at houtcome
      exact houtcome
  · exact outcome_of_read hday hyear hanchor hrule

/-- A task that began on February 29 is due on March 1 in a year without it. -/
theorem nextText_outcome_leapDay :
    Outcome ⟨2024, 6, 1, by decide⟩ ⟨2024, 2, 29, by decide⟩ .annual
      (nextText ⟨2024, 6, 1, 43200⟩ "20240229" "y") := by
  have hday : (Moment.mk 2024 6 1 43200).date? = some ⟨2024, 6, 1, by decide⟩ := by rfl
  have hanchor : Date.read "20240229" = .ok ⟨2024, 2, 29, by decide⟩ := by decide +kernel
  have hrule : Rule.read "y" = .ok .annual := by decide +kernel
  exact ((nextText_outcome hday (by decide) "20240229" "y").2.1 _ hanchor).2 _ hrule

-- Both failures that are left to readable texts do occur: there is no February 30, and the year after
-- 9999 has five digits.
example : nextText ⟨2024, 1, 1, 0⟩ "20240101" "m 30 2" =
    .error (.searchExhausted (.monthly ⟨⟨[30], by decide⟩, ∅⟩ ⟨[2], by decide⟩) 730) := by
  decide +kernel

example : nextText ⟨9999, 12, 31, 0⟩ "99990101" "y" =
    .error (.internal (.unrepresentable ⟨10000, 1, 1, by decide⟩)) := by
  decide +kernel

end Daybook.Occurrence
