import Daybook.Planner.Perform
import Daybook.Proofs.Task.Schedule

namespace Daybook

/-- What a task says can be made sense of. -/
structure Content.Sound (content : Content) : Prop where
  date : ∃ day, Date.read content.date = .ok day
  title : Text.allBlank content.title = false
  rule : Rule.IsText content.repeatRule

/-- A content that can be made sense of still can with another date that can be read. -/
theorem Content.Sound.withDate {content : Content} (hcontent : content.Sound) {date : String}
    (hdate : ∃ day, Date.read date = .ok day) : { content with date := date }.Sound :=
  { hcontent with date := hdate }

namespace Task

variable {task settled : Task} {today : Date}

/-- A task with a due date has a date that can be read, and its rule is one or blank. It is due on another
date only where its own is in the past: today, or on a date that can be read. -/
theorem dueDate_spec {date : String} (hdue : task.dueDate today = .ok date) :
    ∃ day, Date.read task.date = .ok day ∧ Rule.IsText task.repeatRule ∧
      (date = task.date ∨
        day < today ∧ (date = today.compact ∨ ∃ found, Date.read date = .ok found)) := by
  obtain ⟨day, hday⟩ := read_of_dueDate hdue
  have hfound := due_dueDate today hday
  rw [hdue] at hfound
  refine ⟨day, hday, isText_of_not_ruleError hfound.not_ruleError, ?_⟩
  cases hfound with
  | kept => exact .inl rfl
  | lapsed hpast => exact .inr ⟨hpast, .inl rfl⟩
  | moved hpast _ hnext =>
    obtain ⟨found, hread, _⟩ := schedule_of_nextText hnext
    exact .inr ⟨hpast, .inr ⟨found, hread⟩⟩

/-- Settling asks for a title and for a due date, and changes nothing but the date. -/
theorem settled_eq_ok_iff :
    task.settled today = .ok settled ↔
      Text.allBlank task.title = false ∧
        ∃ date, (task.withDate today).dueDate today = .ok date ∧ settled = { task with date := date } := by
  obtain ⟨dated, hdated⟩ := withDate_eq task today
  unfold Task.settled validate schedule
  rw [hdated]
  dsimp only
  by_cases htitle : Text.allBlank task.title = true
  · simp [htitle, bind, Except.bind]
  · rw [Bool.not_eq_true] at htitle
    cases Task.dueDate { task with date := dated } today with
    | error cause => simp [htitle, bind, Except.bind]
    | ok date => simp [htitle, bind, Except.bind, pure, Except.pure, eq_comm]

/-- A task that is settled can be made sense of. -/
theorem sound_of_settled (htoday : today.isRepresentable = true)
    (hsettled : task.settled today = .ok settled) : settled.toContent.Sound := by
  obtain ⟨htitle, date, hdue, rfl⟩ := settled_eq_ok_iff.mp hsettled
  obtain ⟨dated, hdated⟩ := withDate_eq task today
  rw [hdated] at hdue
  obtain ⟨day, hday, hrule, hdate⟩ := dueDate_spec hdue
  refine ⟨?_, htitle, hrule⟩
  obtain rfl | ⟨_, rfl | hfound⟩ := hdate
  · exact ⟨day, hday⟩
  · exact ⟨today, Date.read_compact htoday⟩
  · exact hfound

/-- A task that is done is over exactly where its rule is blank. -/
theorem complete_eq_remove_iff :
    task.complete today = .ok .remove ↔ Text.allBlank task.repeatRule = true := by
  unfold complete isRecurring
  cases Text.allBlank task.repeatRule with
  | true => simp
  | false => cases task.nextDate today <;> simp [Except.map]

/-- A task that is done is due again on a date that can be read. -/
theorem read_of_complete {date : String} (hcomplete : task.complete today = .ok (.reschedule date)) :
    ∃ day, Date.read date = .ok day := by
  obtain ⟨_, hnext⟩ := complete_eq_ok_reschedule_iff.mp hcomplete
  obtain ⟨found, hread, _⟩ := schedule_of_nextText hnext
  exact ⟨found, hread⟩

end Task

end Daybook
