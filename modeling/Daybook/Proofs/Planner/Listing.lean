import Daybook.Proofs.Planner.Report

namespace Daybook

/-- An opened database holds what was at its place before, and one in memory nothing. -/
theorem Workspace.Opens.store_eq {w opened : Workspace} {file? : Option Location} {database : Database}
    (hopens : w.Opens file? (opened, .ok database)) : database.store = (file?.map w.tasks).getD .empty := by
  rw [(hopens.isOpen database rfl).store_eq]
  cases file? with
  | none => rfl
  | some location => exact hopens.keeps.tasks_eq (Database.not_isBeside_of_eq rfl)

namespace Output

/-- The spaces between two columns of a table, of which there is at least one. -/
def gap (more : Nat) : String :=
  String.ofList (List.replicate more ' ') ++ " "

/-- However wide the columns are, there is a gap after each text but the last. -/
private theorem columns_eq (id date rule title : String) :
    columns id date rule title = Text.line (id ++ gap (8 - id.length) ++ date ++ gap (10 - date.length) ++
      rule ++ gap (14 - rule.length) ++ title) := by
  simp only [columns, padRight, gap, String.append_assoc]

end Output

/-- Whether a line of a table shows what a row says: its identifier, its date, its rule and its title, in this order
and with gaps between them. A dash stands for a rule that is empty. -/
def Row.IsTabled (row : Row) (text : String) : Prop :=
  ∃ first second third, text = Text.line (row.id.text ++ Output.gap first ++ row.date ++ Output.gap second ++
    (if row.repeatRule = "" then "-" else row.repeatRule) ++ Output.gap third ++ row.title)

/-- The task of a row is printed on a line that shows the row, however long its texts are. -/
theorem Row.isTabled_tableRow (row : Row) : row.IsTabled (Output.tableRow row.toTask) := by
  have hline : Output.tableRow row.toTask =
      Output.columns row.id.text row.date (if row.repeatRule = "" then "-" else row.repeatRule) row.title := by
    simp only [← String.isEmpty_iff]
    rfl
  exact ⟨_, _, _, hline.trans (Output.columns_eq _ _ _ _)⟩

namespace Report

/-- Whether a report prints rows that a text selects, all of them and in this order, in a format: a document of each
of them in a list, or a line of each of them below the head of a table. Where there is none, a line of text says so. -/
def PrintsRows (search : String) (rows : List Row) (report : Report) : Format → Prop
  | .json =>
    ∃ document documents, report.IsDocument document ∧ document.member? "tasks" = some (.arr documents) ∧
      List.Forall₂ Row.IsShownBy rows documents
  | .text =>
    (rows = [] → report.stdout = Text.line (if Text.allBlank search then "No tasks" else
      "No tasks matching '" ++ search ++ "'")) ∧
    (rows ≠ [] → ∃ lines, report.stdout = Output.tableHead ++ String.join lines ∧
      List.Forall₂ Row.IsTabled rows lines)

end Report

/-- A run that answers with a listing prints its rows, in either format. -/
theorem Outcome.printsRows {outcome : Outcome} {format : Format} {search : String} {rows : List Row}
    (hformat : outcome.format? = some format)
    (hanswer : outcome.answer? = some (.listed search (rows.map Row.toTask))) :
    outcome.report.PrintsRows search rows format := by
  cases format with
  | json => exact ⟨_, _, isDocument_of_answer hformat hanswer, rfl, Row.forall₂_isShownBy rows⟩
  | text =>
    have hstdout : outcome.report.stdout = Answer.listingLines search (rows.map Row.toTask) :=
      stdout_eq hformat hanswer
    refine ⟨?_, fun hsome => ⟨(rows.map Row.toTask).map Output.tableRow, ?_, ?_⟩⟩
    · rintro rfl
      rw [hstdout, apply_ite Text.line]
      rfl
    · rw [hstdout, Answer.listingLines, if_neg]
      simpa using hsome
    · rw [List.map_map, List.forall₂_map_right_iff]
      exact List.forall₂_same.mpr fun row _ => row.isTabled_tableRow

namespace Session

variable {session : Session} {command : Command} {w after : Workspace} {search : String} {tasks : List Task}

/-- Only a listing answers with a listing, which is one of the store that was found. -/
theorem Performs.list_eq (hperforms : Performs session w command after (.ok (.listed search tasks))) :
    command = .listTasks search ∧
      (((w.databaseAt? session.database).map w.tasks).getD .empty).list session.config.searchLimit search =
        .ok tasks := by
  cases hperforms with
  | carried hopens hprepares hcarries =>
    cases hcarries with
    | list hlist =>
      cases hprepares
      rw [hopens.store_eq] at hlist
      exact ⟨rfl, hlist⟩

end Session

namespace Planner

variable {environment : Environment} {w : Workspace} {texts : List String}

/-- The store that a run finds in its database. One in memory has no tasks. -/
def found (environment : Environment) (w : Workspace) (texts : List String) : Store :=
  ((database? environment w texts).map w.tasks).getD .empty

/-- Whatever a run finds in its database can be made sense of. -/
theorem sound_found (hw : Reachable w) : (found environment w texts).Sound := by
  unfold found
  cases database? environment w texts with
  | none => exact Store.holds_empty
  | some location => exact Workspace.holds_iff.mp (sound_of_reachable hw) location

/-- A run that answers with a listing has listed the store that it found, up to the limit of its configuration. -/
theorem list_of_run {search : String} {tasks : List Task}
    (hlisted : (run environment w texts).2.answer? = some (.listed search tasks)) :
    ∃ session, session? environment w texts = some (.listTasks search, session) ∧
      (found environment w texts).list session.config.searchLimit search = .ok tasks := by
  obtain ⟨command, session, hsession, hperforms⟩ := performs_of_answer hlisted
  obtain ⟨rfl, hlist⟩ := hperforms.list_eq
  refine ⟨session, hsession, ?_⟩
  rwa [found, database?_eq hsession]

/-- Dates are compared as texts, whose bytes are in the order of the days. What a run lists are therefore
the tasks of its database that its text selects, in the order of their days and then of their identifiers;
where there are more than the limit, the ones that are left out come later. These rows are what it prints, in
this order. -/
theorem listing_of_run (hw : Reachable w) {search : String} {tasks : List Task}
    (hlisted : (run environment w texts).2.answer? = some (.listed search tasks)) :
    (∀ day later : Date, day.isRepresentable = true → later.isRepresentable = true →
      (Text.bytes day.compact < Text.bytes later.compact ↔ day < later)) ∧
    ∃ session shown left, session? environment w texts = some (.listTasks search, session) ∧
      tasks = shown.map Row.toTask ∧
      (found environment w texts).Lists Row.IsDueBefore session.config.searchLimit search shown left ∧
      ∃ format, (run environment w texts).2.format? = some format ∧
        (run environment w texts).2.report.PrintsRows search shown format := by
  refine ⟨fun day later => Date.bytes_compact_lt_iff, ?_⟩
  obtain ⟨session, hsession, hlist⟩ := list_of_run hlisted
  obtain ⟨shown, left, rfl, hlists⟩ := (sound_found hw).lists hlist
  obtain ⟨format, hformat⟩ := Outcome.exists_format hlisted
  exact ⟨session, shown, left, hsession, rfl, hlists, format, hformat, Outcome.printsRows hformat hlisted⟩

/-- Where one task is listed of two, it is the one that is due first, although it was added last. Its line is all that
is printed below the head of the table. -/
theorem listing_of_run_one :
    ∃ w tasks, Reachable w ∧
      tasks = [{ date := "20240120", title := "Pay rent", id := some ⟨2⟩ }] ∧
      (run { clock := ⟨2024, 1, 15, by decide⟩ } w ["--config", "one.toml", "tasks"]).2.report.stdout =
        Output.tableHead ++ "2        20240120   -              Pay rent\n" ∧
      ∃ session shown left,
        session? { clock := ⟨2024, 1, 15, by decide⟩ } w ["--config", "one.toml", "tasks"] =
          some (.listTasks "", session) ∧
        tasks = shown.map Row.toTask ∧
        (found { clock := ⟨2024, 1, 15, by decide⟩ } w ["--config", "one.toml", "tasks"]).Lists Row.IsDueBefore
          session.config.searchLimit "" shown left ∧
        ∃ format, (run { clock := ⟨2024, 1, 15, by decide⟩ } w ["--config", "one.toml", "tasks"]).2.format? =
            some format ∧
          (run { clock := ⟨2024, 1, 15, by decide⟩ } w ["--config", "one.toml", "tasks"]).2.report.PrintsRows ""
            shown format := by
  have hstart : Reachable (Workspace.put {} [Segment.ofText "one.toml"] (.text "search_limit = 1")) :=
    .start fun location => Workspace.store?_put_text (Workspace.store?_of_nothing location)
  have hsecond := Reachable.run
    (hstart.run { clock := ⟨2024, 1, 15, by decide⟩ } ["task", "add", "Water plants", "--date", "20240201"]
      fun _ _ _ => by decide)
    { clock := ⟨2024, 1, 15, by decide⟩ } ["task", "add", "Pay rent", "--date", "20240120"]
    fun _ _ _ => by decide
  exact ⟨_, _, hsecond, rfl, by decide +kernel, (listing_of_run hsecond (by decide +kernel)).2⟩

end Planner

end Daybook
