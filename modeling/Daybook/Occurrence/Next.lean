import Daybook.Occurrence.Basic

namespace Daybook

/-- A date moved on by years. February 29 becomes March 1 in a year without it. -/
def Date.addYears? (d : Date) (years : Nat) : Option Date :=
  ofYmd? (d.year + years) d.month d.day <|> ofYmd? (d.year + years) 3 1

namespace Occurrence

/-- A date moved on by years, or the fault that the calendar ends before. -/
def advance (d : Date) (years : Nat) : Except Error Date :=
  match d.addYears? years with
  | some next => .ok next
  | none => .error (.internal (.yearOutside d))

/-- Moves a date on by single years until it is after the reference. -/
def advanceUntilAfter (reference anchor : Date) : Nat → Date → Except Error Date
  | 0, _ => .error (.internal (.annualBehind reference anchor))
  | tries + 1, candidate =>
    if candidate.strictlyAfter reference then .ok candidate
    else do
      let next ← advance candidate 1
      advanceUntilAfter reference anchor tries next

/-- The next occurrence of an annual rule. The years before that of the reference are passed over in
    one step. -/
def nextAnnual (reference anchor : Date) : Except Error Date := do
  let first ← advance anchor 1
  let candidate ← advance first (reference.year - first.year).toNat
  advanceUntilAfter reference anchor maxAnnualAdvances candidate

/-- How many intervals lead from the anchor past a reference so many days after it. At least one
    does, even where the anchor is itself past the reference. -/
def intervalSteps (elapsed interval : Int) : Int :=
  if elapsed < 0 then 1 else elapsed / interval + 1

/-- The next occurrence of an interval rule: the anchor and the smallest number of intervals that
    leads past the reference. -/
def nextInterval (reference anchor : Date) (interval : Nat) : Except Error Date :=
  let elapsed := anchor.daysUntil reference
  if interval = 0 ∧ 0 ≤ elapsed then .error (.internal .zeroInterval)
  else
    let offset := intervalSteps elapsed interval * interval
    match anchor.addDays? offset.toNat with
    | some next => .ok next
    | none => .error (.internal (.stepOutside offset anchor))

/-- The next occurrence of a weekly rule, if the search finds one. -/
def nextWeekly? (reference anchor : Date) (weekdays : NumberSet) : Option Date :=
  (Date.run weeklySearchDays (anchor.later reference)).find? fun candidate =>
    weekdays.contains candidate.weekday && candidate.strictlyAfter reference

/-- Whether a date belongs to a monthly rule. -/
def isMonthly (days : MonthDays) (months : NumberSet) (date : Date) : Bool :=
  (months.isEmpty || months.contains date.month) && days.matches date

/-- The next occurrence of a monthly rule, if the search finds one. -/
def nextMonthly? (reference anchor : Date) (days : MonthDays) (months : NumberSet) : Option Date :=
  (Date.run monthlySearchDays (anchor.later reference)).find? fun candidate =>
    isMonthly days months candidate && candidate.strictlyAfter reference && decide (anchor ≤ candidate)

/-- A found date, or the error that the search is exhausted. -/
def orExhausted (rule : Rule) (days : Nat) : Option Date → Except Error Date
  | some next => .ok next
  | none => .error (.searchExhausted rule days)

/-- The next occurrence of a rule after the reference, reckoned from the anchor. Annual and interval rules step
    on from the anchor and never stop at it; weekly and monthly rules take the first of their days from the
    anchor or the reference on, whichever is later. -/
def next (reference anchor : Date) (rule : Rule) : Except Error Date :=
  match rule with
  | .annual => nextAnnual reference anchor
  | .interval days => nextInterval reference anchor days
  | .weekly weekdays =>
    orExhausted rule weeklySearchDays (nextWeekly? reference anchor weekdays)
  | .monthly days months =>
    orExhausted rule monthlySearchDays (nextMonthly? reference anchor days months)

/-- The next occurrence in compact form, from an anchor and a rule as texts. The anchor is read
    first, then the rule, and then the reference has to show a date. -/
def nextText (reference : Moment) (anchor rule : String) : Except Error String := do
  let anchor ← (Date.read anchor).mapError Error.invalidAnchor
  let rule ← (Rule.read rule).mapError Error.invalidRule
  match reference.date? with
  | none => .error (.internal .invalidReference)
  | some reference =>
    let found ← next reference anchor rule
    if found.isRepresentable then .ok found.compact
    else .error (.internal (.unrepresentable found))

end Occurrence

end Daybook
