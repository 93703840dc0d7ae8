import Daybook.Proofs.Task.Completion

namespace Daybook

/-- Whether a text is a rule or stands for none. -/
def Rule.IsText (text : String) : Prop :=
  Text.allBlank text = true ∨ ∃ rule, Rule.read text = .ok rule

namespace Task

variable {task : Task} {today day : Date} {cause : Occurrence.Error}

/-- What is wrong with the rule of a task that repeats. Where the task is due later than today the rule is
only read, and else it is asked for the next occurrence after today. -/
def RuleError (task : Task) (today day : Date) (cause : Occurrence.Error) : Prop :=
  Text.allBlank task.repeatRule = false ∧
    if today < day then ∃ misread, Rule.read task.repeatRule = .error misread ∧ cause = .invalidRule misread
    else Occurrence.nextText today.start day.compact task.repeatRule = .error cause

/-- A task has one error of its rule at most. -/
theorem RuleError.unique {other : Occurrence.Error} (hcause : task.RuleError today day cause)
    (hother : task.RuleError today day other) : cause = other := by
  obtain ⟨_, hcause⟩ := hcause
  obtain ⟨_, hother⟩ := hother
  by_cases hlater : today < day
  · rw [if_pos hlater] at hcause hother
    obtain ⟨misread, hread, rfl⟩ := hcause
    obtain ⟨_, hagain, rfl⟩ := hother
    rw [hread] at hagain
    cases hagain
    rfl
  · rw [if_neg hlater] at hcause hother
    rw [hcause] at hother
    cases hother
    rfl

private theorem not_ruleError_of_once (honce : Text.allBlank task.repeatRule = true) :
    ¬ task.RuleError today day cause := by
  rintro ⟨hrepeat, _⟩
  rw [honce] at hrepeat
  cases hrepeat

private theorem not_ruleError_of_read {rule : Rule} (hlater : today < day)
    (hrule : Rule.read task.repeatRule = .ok rule) : ¬ task.RuleError today day cause := by
  rintro ⟨_, hcause⟩
  rw [if_pos hlater, hrule] at hcause
  obtain ⟨_, herror, _⟩ := hcause
  cases herror

private theorem not_ruleError_of_nextText {next : String} (hdue : day ≤ today)
    (hnext : Occurrence.nextText today.start day.compact task.repeatRule = .ok next) :
    ¬ task.RuleError today day cause := by
  rintro ⟨_, hcause⟩
  rw [if_neg (Std.not_lt.mpr hdue), hnext] at hcause
  cases hcause

/-- A rule that is not at fault is blank or can be read, even where no next date is looked for. -/
theorem isText_of_not_ruleError (hrule : ∀ cause, ¬ task.RuleError today day cause) :
    Rule.IsText task.repeatRule := by
  cases hrepeat : Text.allBlank task.repeatRule with
  | true => exact .inl hrepeat
  | false =>
    by_cases hlater : today < day
    · cases hread : Rule.read task.repeatRule with
      | ok rule => exact .inr ⟨rule, hread⟩
      | error misread =>
        refine absurd ⟨hrepeat, ?_⟩ (hrule (.invalidRule misread))
        rw [if_pos hlater]
        exact ⟨misread, hread, rfl⟩
    · cases hnext : Occurrence.nextText today.start day.compact task.repeatRule with
      | ok next =>
        obtain ⟨_, rule, _, _, _, hread, _⟩ := Occurrence.nextText_eq_ok_iff.mp hnext
        exact .inr ⟨rule, hread⟩
      | error cause =>
        refine absurd ⟨hrepeat, ?_⟩ (hrule cause)
        rw [if_neg hlater]
        exact hnext

/-- What comes of looking for the due date of a task that has a day. -/
inductive Due (task : Task) (today day : Date) : Except Error String → Prop
  | refused {cause : Occurrence.Error} (hcause : task.RuleError today day cause) :
      Due task today day (.error (.invalidRule cause))
  | kept (hdue : today ≤ day) (hrule : ∀ cause, ¬ task.RuleError today day cause) :
      Due task today day (.ok task.date)
  | lapsed (hpast : day < today) (honce : Text.allBlank task.repeatRule = true) :
      Due task today day (.ok today.compact)
  | moved {next : String} (hpast : day < today) (hrepeat : Text.allBlank task.repeatRule = false)
      (hnext : Occurrence.nextText today.start day.compact task.repeatRule = .ok next) :
      Due task today day (.ok next)

section DueDate

private theorem dueDate_of_unread {misread : DateError} (herror : Date.read task.date = .error misread) :
    task.dueDate today = .error (.invalidDate task.date misread) := by
  unfold dueDate
  rw [herror]
  rfl

/-- Only a task whose date can be read has a date on which it is due. -/
theorem read_of_dueDate {date : String} (hdue : task.dueDate today = .ok date) :
    ∃ day, Date.read task.date = .ok day := by
  cases hday : Date.read task.date with
  | ok day => exact ⟨day, rfl⟩
  | error misread =>
    rw [dueDate_of_unread hday] at hdue
    cases hdue

private theorem due_of_once (hday : Date.read task.date = .ok day) (honce : Text.allBlank task.repeatRule = true) :
    Due task today day (task.dueDate today) := by
  have hdue : task.dueDate today = .ok (if day < today then today.compact else task.date) := by
    unfold dueDate isRecurring
    rw [hday, honce]
    rfl
  rw [hdue]
  by_cases hpast : day < today
  · rw [if_pos hpast]
    exact .lapsed hpast honce
  · rw [if_neg hpast]
    exact .kept (Std.not_lt.mp hpast) fun _ => not_ruleError_of_once honce

private theorem due_of_lt (hday : Date.read task.date = .ok day) (hrepeat : Text.allBlank task.repeatRule = false)
    (hlater : today < day) : Due task today day (task.dueDate today) := by
  have hdue : task.dueDate today =
      ((Rule.read task.repeatRule).mapError fun misread => .invalidRule (.invalidRule misread)).map
        fun _ => task.date := by
    unfold dueDate isRecurring
    rw [hday, hrepeat]
    change (if today < day then _ else _) = _
    rw [if_pos hlater]
    cases Rule.read task.repeatRule <;> rfl
  rw [hdue]
  cases hrule : Rule.read task.repeatRule with
  | ok rule => exact .kept (Std.le_of_lt hlater) fun _ => not_ruleError_of_read hlater hrule
  | error misread =>
    refine .refused ⟨hrepeat, ?_⟩
    rw [if_pos hlater]
    exact ⟨misread, hrule, rfl⟩

private theorem due_of_le (hday : Date.read task.date = .ok day) (hrepeat : Text.allBlank task.repeatRule = false)
    (hle : day ≤ today) : Due task today day (task.dueDate today) := by
  have hlater : ¬ today < day := Std.not_lt.mpr hle
  have hdate := (Date.read_eq_ok_iff.mp hday).2
  have hdue : task.dueDate today =
      ((Occurrence.nextText today.start day.compact task.repeatRule).mapError .invalidRule).map
        fun next => if day < today then next else task.date := by
    unfold dueDate isRecurring nextDate
    rw [hday, hrepeat]
    change (if today < day then _ else _) = _
    rw [if_neg hlater, ← hdate]
    cases Occurrence.nextText today.start task.date task.repeatRule <;> rfl
  rw [hdue]
  cases hnext : Occurrence.nextText today.start day.compact task.repeatRule with
  | ok next =>
    change Due task today day (.ok (if day < today then next else task.date))
    by_cases hpast : day < today
    · rw [if_pos hpast]
      exact .moved hpast hrepeat hnext
    · rw [if_neg hpast]
      exact .kept (Std.not_lt.mp hpast) fun _ => not_ruleError_of_nextText hle hnext
  | error cause =>
    refine .refused ⟨hrepeat, ?_⟩
    rw [if_neg hlater]
    exact hnext

/-- Whatever comes of looking for the due date of a task is one of the cases, once its date can be read. -/
theorem due_dueDate (today : Date) (hday : Date.read task.date = .ok day) :
    Due task today day (task.dueDate today) := by
  cases hrepeat : Text.allBlank task.repeatRule with
  | true => exact due_of_once hday hrepeat
  | false =>
    by_cases hlater : today < day
    · exact due_of_lt hday hrepeat hlater
    · exact due_of_le hday hrepeat (Std.not_lt.mp hlater)

/-- A due date is found exactly where there is nothing wrong with the rule. -/
theorem Due.not_ruleError {date : String} (hdue : Due task today day (.ok date)) (cause : Occurrence.Error) :
    ¬ task.RuleError today day cause := by
  cases hdue with
  | kept _ hrule => exact hrule cause
  | lapsed _ honce => exact not_ruleError_of_once honce
  | moved hpast _ hnext => exact not_ruleError_of_nextText (Std.le_of_lt hpast) hnext

private theorem Due.ruleError {error : Error} (hdue : Due task today day (.error error)) :
    ∃ cause, error = .invalidRule cause ∧ task.RuleError today day cause := by
  cases hdue with
  | refused hcause => exact ⟨_, rfl, hcause⟩

private theorem Due.eq_error_iff {result : Except Error String} (hdue : Due task today day result) :
    result = .error (.invalidRule cause) ↔ task.RuleError today day cause := by
  cases result with
  | ok date => exact iff_of_false nofun (hdue.not_ruleError cause)
  | error error =>
    obtain ⟨other, rfl, hother⟩ := hdue.ruleError
    rw [Except.error.injEq, Error.invalidRule.injEq]
    constructor
    · rintro rfl
      exact hother
    · exact hother.unique

private theorem Due.eq_ok_iff {result : Except Error String} (hdue : Due task today day result) :
    (∃ date, result = .ok date) ↔ ∀ cause, ¬ task.RuleError today day cause := by
  cases result with
  | ok date => exact iff_of_true ⟨date, rfl⟩ hdue.not_ruleError
  | error error =>
    obtain ⟨cause, _, hcause⟩ := hdue.ruleError
    refine iff_of_false nofun ?_
    intro hnone
    exact hnone cause hcause

end DueDate

section Names

/-- The day that a task names. One whose date is blank names today. -/
def Names (task : Task) (today day : Date) : Prop :=
  if Text.allBlank task.date then day = today else day.isRepresentable = true ∧ task.date = day.compact

/-- Only the date of a task gives way to today's. -/
theorem withDate_eq (task : Task) (today : Date) :
    ∃ date, task.withDate today = { task with date := date } := by
  unfold withDate
  split
  · exact ⟨_, rfl⟩
  · exact ⟨_, rfl⟩

private theorem withDate_of_blank (hblank : Text.allBlank task.date = true) :
    task.withDate today = { task with date := today.compact } :=
  if_pos hblank

/-- Today's date takes the place of a blank one only. -/
theorem withDate_of_not_blank (hblank : Text.allBlank task.date = false) : task.withDate today = task := by
  rw [withDate, hblank, if_neg Bool.false_ne_true]

/-- Giving a task a date leaves its rule. -/
theorem withDate_repeatRule (task : Task) (today : Date) :
    (task.withDate today).repeatRule = task.repeatRule := by
  obtain ⟨date, hdated⟩ := withDate_eq task today
  rw [hdated]

private theorem ruleError_withDate (task : Task) (today day : Date) (cause : Occurrence.Error) :
    (task.withDate today).RuleError today day cause ↔ task.RuleError today day cause := by
  unfold RuleError
  rw [withDate_repeatRule]

/-- Put in place of a blank date, today's can be read as long as it fits the compact form. -/
theorem names_iff (htoday : today.isRepresentable = true) :
    task.Names today day ↔ Date.read (task.withDate today).date = .ok day := by
  unfold Names withDate
  split
  · rw [Date.read_compact htoday, Except.ok.injEq]
    exact eq_comm
  · exact Date.read_eq_ok_iff.symm

private theorem not_names_iff :
    (¬ ∃ day, task.Names today day) ↔
      Text.allBlank task.date = false ∧ ¬ ∃ day : Date, day.isRepresentable = true ∧ task.date = day.compact := by
  unfold Names
  cases Text.allBlank task.date with
  | true => simp
  | false => simp

end Names

section Schedule

private theorem schedule_of_ok {date : String} (hdue : (task.withDate today).dueDate today = .ok date) :
    task.schedule today = ({ task with date := date }, .ok ()) := by
  obtain ⟨dated, hdated⟩ := withDate_eq task today
  rw [hdated] at hdue
  unfold schedule
  simp only [hdated, hdue]

private theorem schedule_of_error {error : Error} (hdue : (task.withDate today).dueDate today = .error error) :
    task.schedule today = (task.withDate today, .error error) := by
  unfold schedule
  simp only [hdue]

private theorem schedule_eq_ok_iff :
    (task.schedule today).2 = .ok () ↔ ∃ date, (task.withDate today).dueDate today = .ok date := by
  cases hdue : (task.withDate today).dueDate today with
  | ok date => simp [schedule_of_ok hdue]
  | error error => simp [schedule_of_error hdue]

private theorem schedule_eq_error_iff {error : Error} :
    (task.schedule today).2 = .error error ↔ (task.withDate today).dueDate today = .error error := by
  cases hdue : (task.withDate today).dueDate today with
  | ok date => simp [schedule_of_ok hdue]
  | error other => simp [schedule_of_error hdue]

/-- The date is to blame exactly if the task names no day. -/
theorem schedule_invalidDate_iff (htoday : today.isRepresentable = true) :
    (∃ cause, (task.schedule today).2 = .error (.invalidDate task.date cause)) ↔
      ¬ ∃ day, task.Names today day := by
  simp only [schedule_eq_error_iff]
  cases hday : Date.read (task.withDate today).date with
  | ok day =>
    have hdue := due_dueDate today hday
    refine iff_of_false ?_ (not_not_intro ⟨day, (names_iff htoday).mpr hday⟩)
    rintro ⟨cause, herror⟩
    rw [herror] at hdue
    obtain ⟨_, hother, _⟩ := hdue.ruleError
    cases hother
  | error misread =>
    have hnone : ¬ ∃ day, task.Names today day := by
      rintro ⟨day, hnames⟩
      rw [(names_iff htoday).mp hnames] at hday
      cases hday
    have hkept : task.withDate today = task := withDate_of_not_blank (not_names_iff.mp hnone).1
    rw [hkept] at hday ⊢
    exact iff_of_true ⟨misread, dueDate_of_unread hday⟩ hnone

/-- Everything that comes of settling the date of a task. Nothing but the date changes. A date that is neither
blank nor eight digits of a day is at fault whatever the rule is; with a day, the rule decides, by its text
alone where that day is later than today. A task that is refused stays as it was, except that today's date may
have taken the place of a blank one. -/
theorem schedule_outcome (task : Task) {today : Date} (htoday : today.isRepresentable = true) :
    (∃ date, (task.schedule today).1 = { task with date := date }) ∧
      ((∃ cause, (task.schedule today).2 = .error (.invalidDate task.date cause)) ↔
        Text.allBlank task.date = false ∧
          ¬ ∃ day : Date, day.isRepresentable = true ∧ task.date = day.compact) ∧
      (∀ day, task.Names today day →
        (∀ cause, (task.schedule today).2 = .error (.invalidRule cause) ↔ task.RuleError today day cause) ∧
          ((task.schedule today).2 = .ok () ↔ ∀ cause, ¬ task.RuleError today day cause)) ∧
      ∀ error, (task.schedule today).2 = .error error →
        (task.schedule today).1 = task ∨
          Text.allBlank task.date = true ∧ (task.schedule today).1 = { task with date := today.compact } := by
  refine ⟨?_, ?_, fun day hday => ?_, fun error herror => ?_⟩
  · cases hdate : (task.withDate today).dueDate today with
    | ok date => exact ⟨date, by rw [schedule_of_ok hdate]⟩
    | error error =>
      rw [schedule_of_error hdate]
      exact withDate_eq task today
  · rw [schedule_invalidDate_iff htoday]
    exact not_names_iff
  · have hdue := due_dueDate today ((names_iff htoday).mp hday)
    simp only [schedule_eq_error_iff, schedule_eq_ok_iff, ← ruleError_withDate task today day]
    exact ⟨fun cause => hdue.eq_error_iff, hdue.eq_ok_iff⟩
  · rw [schedule_of_error (schedule_eq_error_iff.mp herror)]
    cases hblank : Text.allBlank task.date with
    | true => exact .inr ⟨rfl, withDate_of_blank hblank⟩
    | false => exact .inl (withDate_of_not_blank hblank)

/-- Without a date a task names today, and so its rule is asked for the next occurrence. -/
theorem schedule_outcome_noRule :
    (⟨2024, 1, 15, by decide⟩ : Date).isRepresentable = true ∧
      Names { title := "Water plants", repeatRule := "x 1" } ⟨2024, 1, 15, by decide⟩ ⟨2024, 1, 15, by decide⟩ ∧
      (schedule { title := "Water plants", repeatRule := "x 1" } ⟨2024, 1, 15, by decide⟩).2 =
        .error (.invalidRule (.invalidRule (.unsupported "x 1"))) := by
  have htoday : (⟨2024, 1, 15, by decide⟩ : Date).isRepresentable = true := by rfl
  have hnames : Names { title := "Water plants", repeatRule := "x 1" } ⟨2024, 1, 15, by decide⟩
      ⟨2024, 1, 15, by decide⟩ := by
    rw [Names, if_pos (by rfl)]
  refine ⟨htoday, hnames, (((schedule_outcome _ htoday).2.2.1 _ hnames).1 _).mpr ⟨by rfl, ?_⟩⟩
  rw [if_neg Std.lt_irrefl]
  decide +kernel

/-- A task that is due from today on, with a rule that is not at fault, is settled already. -/
theorem schedule_eq_self (task : Task) (hday : Date.read task.date = .ok day) (hdue : today ≤ day)
    (hrule : ∀ cause, ¬ task.RuleError today day cause) : task.schedule today = (task, .ok ()) := by
  have hkept : task.withDate today = task := withDate_of_not_blank (Date.allBlank_of_read hday)
  have hfound := due_dueDate today hday
  have hdate : task.dueDate today = .ok task.date := by
    generalize task.dueDate today = result at hfound
    cases hfound with
    | refused hcause => exact absurd hcause (hrule _)
    | kept => rfl
    | lapsed hpast | moved hpast => exact absurd hpast (Std.not_lt.mpr hdue)
  rw [← hkept] at hdate
  rw [schedule_of_ok hdate, hkept]

/-- A next occurrence is after today, so that a task that is moved to it stays there. -/
theorem schedule_of_nextText {anchor text : String}
    (hnext : Occurrence.nextText today.start anchor task.repeatRule = .ok text) :
    ∃ found, Date.read text = .ok found ∧ today < found ∧ Rule.IsText task.repeatRule ∧
      { task with date := text }.schedule today = ({ task with date := text }, .ok ()) := by
  obtain ⟨start, rule, reference, found, _, hrule, hreference, hfound, hread⟩ :=
    Occurrence.nextText_eq_ok_iff.mp hnext
  rw [Occurrence.date?_start, Option.some_inj] at hreference
  subst hreference
  have hafter := (Occurrence.next_eq_ok_iff.mp hfound).1.after
  refine ⟨found, hread, hafter, .inr ⟨rule, hrule⟩, ?_⟩
  apply schedule_eq_self { task with date := text } hread (Std.le_of_lt hafter)
  intro cause
  exact not_ruleError_of_read hafter hrule

/-- Where a task comes to be due that names a day: on that day if it is not past, and else today if it does not
repeat, or on the next occurrence after today, counted from that day. -/
structure SettlesOn (task : Task) (today day due : Date) : Prop where
  kept : today ≤ day → due = day
  lapsed : day < today → Text.allBlank task.repeatRule = true → due = today
  moved : day < today → Text.allBlank task.repeatRule = false →
    today < due ∧ Occurrence.nextText today.start day.compact task.repeatRule = .ok due.compact

/-- What is due settles: the date is from today on, the rule can be read, and settling again changes nothing. -/
theorem Due.settles (htoday : today.isRepresentable = true) (hday : Date.read task.date = .ok day) {date : String}
    (hdue : Due task today day (.ok date)) :
    ∃ due, task.SettlesOn today day due ∧ Date.read date = .ok due ∧ today ≤ due ∧
      Rule.IsText task.repeatRule ∧
      { task with date := date }.schedule today = ({ task with date := date }, .ok ()) := by
  cases hdue with
  | kept hle hrule =>
    have hpast : ¬ day < today := Std.not_lt.mpr hle
    exact ⟨day, ⟨fun _ => rfl, fun h => absurd h hpast, fun h => absurd h hpast⟩, hday, hle,
      isText_of_not_ruleError hrule, schedule_eq_self _ hday hle hrule⟩
  | lapsed hpast honce =>
    have hread := Date.read_compact htoday
    have hle := Std.le_refl today
    refine ⟨today, ⟨?_, fun _ _ => rfl, ?_⟩, hread, hle, .inl honce,
      schedule_eq_self { task with date := today.compact } hread hle fun _ => not_ruleError_of_once honce⟩
    · intro hkept
      exact absurd hpast (Std.not_lt.mpr hkept)
    · intro _ hrepeat
      rw [honce] at hrepeat
      cases hrepeat
  | moved hpast hrepeat hnext =>
    obtain ⟨due, hread, hafter, htext, hagain⟩ := schedule_of_nextText hnext
    refine ⟨due, ⟨?_, ?_, ?_⟩, hread, Std.le_of_lt hafter, htext, hagain⟩
    · intro hkept
      exact absurd hpast (Std.not_lt.mpr hkept)
    · intro _ honce
      rw [honce] at hrepeat
      cases hrepeat
    · intro _ _
      rw [← (Date.read_eq_ok_iff.mp hread).2]
      exact ⟨hafter, hnext⟩

/-- A task that settling accepts is due from today on, on the day it settles on, and has a rule or none. Settling
it again on the same day changes nothing, and neither does settling a task that completing it today has put on
another date. -/
theorem schedule_settles (task : Task) {today : Date} (htoday : today.isRepresentable = true) :
    (∀ settled, task.schedule today = (settled, .ok ()) →
      ∃ day due, task.Names today day ∧ task.SettlesOn today day due ∧ Date.read settled.date = .ok due ∧
        today ≤ due ∧ Rule.IsText settled.repeatRule ∧ settled.schedule today = (settled, .ok ())) ∧
      ∀ text, task.complete today = .ok (.reschedule text) →
        { task with date := text }.schedule today = ({ task with date := text }, .ok ()) := by
  refine ⟨fun settled hsettled => ?_, fun text hcomplete => ?_⟩
  · obtain ⟨date, hdate⟩ := schedule_eq_ok_iff.mp (congrArg Prod.snd hsettled)
    rw [schedule_of_ok hdate] at hsettled
    obtain rfl := congrArg Prod.fst hsettled
    obtain ⟨day, hday⟩ := read_of_dueDate hdate
    have hdue := due_dueDate today hday
    rw [hdate] at hdue
    obtain ⟨due, hsettles, hread, hle, hrule, hagain⟩ := hdue.settles htoday hday
    -- So far this is about the task with today's date in place of a blank one, whose rule is the same.
    obtain ⟨dated, hdated⟩ := withDate_eq task today
    rw [hdated] at hsettles hrule hagain
    exact ⟨day, due, (names_iff htoday).mpr hday, ⟨hsettles.kept, hsettles.lapsed, hsettles.moved⟩, hread, hle,
      hrule, hagain⟩
  · obtain ⟨_, hnext⟩ := complete_eq_ok_reschedule_iff.mp hcomplete
    obtain ⟨_, _, _, _, hagain⟩ := schedule_of_nextText hnext
    exact hagain

/-- A task of January 1 that repeats every five days is put on January 16 on the day before, and stays there. -/
theorem schedule_settles_plants :
    (⟨2024, 1, 15, by decide⟩ : Date).isRepresentable = true ∧
      schedule { date := "20240101", title := "Water plants", repeatRule := "d 5" } ⟨2024, 1, 15, by decide⟩ =
        ({ date := "20240116", title := "Water plants", repeatRule := "d 5" }, .ok ()) ∧
      schedule { date := "20240116", title := "Water plants", repeatRule := "d 5" } ⟨2024, 1, 15, by decide⟩ =
        ({ date := "20240116", title := "Water plants", repeatRule := "d 5" }, .ok ()) := by
  have htoday : (⟨2024, 1, 15, by decide⟩ : Date).isRepresentable = true := by rfl
  have hsettled : schedule { date := "20240101", title := "Water plants", repeatRule := "d 5" }
      ⟨2024, 1, 15, by decide⟩ = ({ date := "20240116", title := "Water plants", repeatRule := "d 5" }, .ok ()) := by
    decide +kernel
  obtain ⟨_, _, _, _, _, _, _, hagain⟩ := (schedule_settles _ htoday).1 _ hsettled
  exact ⟨htoday, hsettled, hagain⟩

end Schedule

end Task

end Daybook
