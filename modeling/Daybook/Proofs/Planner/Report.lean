import Daybook.Proofs.Json.Documents
import Daybook.Proofs.Planner.Effect
import Daybook.Proofs.Store.Order

namespace Daybook

/-- Whether a document shows all that a row says, and its identifier. -/
structure Row.IsShownBy (row : Row) (document : Json) : Prop where
  id : document.member? "id" = some (.str row.id.text)
  date : document.member? "date" = some (.str row.date)
  title : document.member? "title" = some (.str row.title)
  comment : document.member? "comment" = some (.str row.comment)
  repeatRule : document.member? "repeat" = some (.str row.repeatRule)

/-- The task of a row is written as a document that shows the row. -/
theorem Row.isShownBy_toJson (row : Row) : row.IsShownBy row.toTask.toJson :=
  ⟨rfl, rfl, rfl, rfl, rfl⟩

/-- A document shows the same row when its members are put in the order of their keys. -/
private theorem Row.IsShownBy.sortKeys {row : Row} {document : Json} (hshown : row.IsShownBy document) :
    row.IsShownBy document.sortKeys where
  id := by rw [Json.member?_sortKeys, hshown.id]; rfl
  date := by rw [Json.member?_sortKeys, hshown.date]; rfl
  title := by rw [Json.member?_sortKeys, hshown.title]; rfl
  comment := by rw [Json.member?_sortKeys, hshown.comment]; rfl
  repeatRule := by rw [Json.member?_sortKeys, hshown.repeatRule]; rfl

/-- The documents of a listing show the rows that it lists, each in its place. -/
theorem Row.forall₂_isShownBy (rows : List Row) :
    List.Forall₂ Row.IsShownBy rows ((rows.map Row.toTask).map fun task => task.toJson.sortKeys) := by
  rw [List.map_map, List.forall₂_map_right_iff]
  exact List.forall₂_same.mpr fun row _ => row.isShownBy_toJson.sortKeys

/-- What the document that a command reports says of the rows before and after it, where a listing has a limit.
A task that is added, shown or changed is reported as its row is now, and one that is deleted or done by what became
of its row. A listing reports the first of the rows that its text selects, in their order; a text of blanks selects
all of them. -/
def Command.Reports (before after : Store) (limit : Nat) (document : Json) : Command → Prop
  | .addTask content =>
    ∃ row : Row, after.rows = before.rows ++ [row] ∧ row.toContent = { content with date := row.date } ∧
      document.member? "id" = some (.str row.id.text) ∧ document.member? "date" = some (.str row.date)
  | .showTask text | .updateTask text _ =>
    ∃ row ∈ after.rows, TaskId.read text = .ok row.id ∧ row.IsShownBy document
  | .deleteTask text =>
    ∃ row ∈ before.rows, TaskId.read text = .ok row.id ∧ (∀ other ∈ after.rows, other.id ≠ row.id) ∧
      document.member? "success" = some (.bool true)
  | .completeTask text =>
    ∃ row ∈ before.rows, ∃ removed, TaskId.read text = .ok row.id ∧
      document.member? "id" = some (.str row.id.text) ∧
      document.member? "removed" = some (.bool removed) ∧
      (removed = true ↔ ∀ other ∈ after.rows, other.id ≠ row.id) ∧
      (removed = true → document.member? "next_date" = some .null) ∧
      (removed = false → ∃ moved ∈ after.rows, moved.id = row.id ∧
        document.member? "next_date" = some (.str moved.date))
  | .listTasks search =>
    ∃ shown left documents, after.Lists Row.Precedes limit search shown left ∧
      (Text.allBlank search = true → (shown ++ left).Perm after.rows) ∧
      document.member? "tasks" = some (.arr documents) ∧ List.Forall₂ Row.IsShownBy shown documents
  | .nextDate .. | .checkRule _ => after = before

namespace Session

/-- A session keeps the configuration with which it is started. -/
private theorem config_of_start {config : Config} {database today : Option String} {clock : Date} {session : Session}
    (hstart : start config database today clock = .ok session) : session.config = config := by
  obtain ⟨_, _, hstart⟩ := bind_eq_ok_iff.mp hstart
  cases hstart
  rfl

variable {session : Session} {command : Command} {w after : Workspace} {location : Location} {limit : Nat}

/-- Carrying out an order on a numbered store answers with what the rows say, whatever their dates and rules
are. -/
theorem Carries.reports {today : Date} {order : Order} {store : Store} {changed? : Option Store}
    {answer : Answer} (hstore : store.Numbered) (hprepares : Prepares today command order)
    (hcarries : Carries today limit store order changed? answer) :
    command.Reports store (changed?.getD store) limit answer.toJson := by
  cases hcarries with
  | add task =>
    cases hprepares with
    | add hsettled =>
      obtain ⟨_, date, _, rfl⟩ := Task.settled_eq_ok_iff.mp hsettled
      exact ⟨_, Store.rows_add store _, rfl, rfl, rfl⟩
  | «show» hget =>
    cases hprepares with
    | «show» hid =>
      obtain ⟨row, hrow, rfl, rfl⟩ := Store.exists_row_of_get hget
      exact ⟨row, hrow, hid, row.isShownBy_toJson⟩
  | update hget hsettled hupdate =>
    cases hprepares with
    | update _ hid =>
      obtain ⟨row, hrow, new, rfl, _, hsame, rfl, rfl⟩ := Store.eq_withRow_of_update hstore hget hsettled hupdate
      rw [← hsame] at hid
      exact ⟨new, Store.mem_withRow hrow new hsame, hid, new.isShownBy_toJson⟩
  | delete hdelete =>
    cases hprepares with
    | delete hid =>
      obtain ⟨row, hrow, rfl, rfl⟩ := Store.exists_row_of_delete hdelete
      exact ⟨row, hrow, hid, fun _ => Store.id_ne_of_mem_without, rfl⟩
  | remove hget _ hdelete =>
    cases hprepares with
    | complete hid =>
      obtain ⟨row, hrow, rfl, rfl⟩ := Store.exists_row_of_get hget
      cases Store.eq_without_of_delete hdelete
      have hgone : ∀ other ∈ (store.without row.id).rows, other.id ≠ row.id := fun _ => Store.id_ne_of_mem_without
      exact ⟨row, hrow, true, hid, rfl, rfl, iff_of_true rfl hgone, fun _ => rfl, nofun⟩
  | @reschedule _ _ date _ hget _ hupdate =>
    cases hprepares with
    | complete hid =>
      obtain ⟨row, hrow, rfl, rfl⟩ := Store.exists_row_of_get hget
      cases Store.eq_withRow_of_modify hstore hrow hupdate
      have hmoved := Store.mem_withRow hrow { row with date := date } rfl
      exact ⟨row, hrow, false, hid, rfl, rfl, iff_of_false nofun fun hgone => hgone _ hmoved rfl, nofun,
        fun _ => ⟨_, hmoved, rfl, rfl⟩⟩
  | list hlist =>
    cases hprepares
    obtain ⟨shown, left, rfl, hlists⟩ := hstore.lists hlist
    exact ⟨shown, left, _, hlists, hlists.perm_of_allBlank, rfl, Row.forall₂_isShownBy shown⟩

/-- What a command answers agrees with the rows that it finds and leaves at the place of its database. -/
theorem Performs.reports {answer : Answer} (hperforms : Performs session w command after (.ok answer))
    (hlocation : w.databaseAt? session.database = some location) (hstore : (w.tasks location).Numbered) :
    command.Reports (w.tasks location) (after.tasks location) session.config.searchLimit answer.toJson := by
  cases hperforms with
  | nextDate => rfl
  | checkRule => rfl
  | @carried _ order opened database changed answer hopens hprepares hcarries =>
    obtain ⟨hbefore, hafter⟩ := tasks_of_opens hopens hlocation changed
    rw [hbefore] at hstore ⊢
    rw [hafter]
    exact hcarries.reports hstore hprepares

end Session

namespace Report

/-- Whether a report is that of a failure: there is no answer, and one message after the notes, if those
are wanted. -/
def IsFailure (verbose : Bool) (report : Report) : Prop :=
  report.stdout = "" ∧
    ∃ (notes : List Note) (message : String), (verbose = false → notes = []) ∧
      report.stderr = String.join (notes.map Note.line) ++ Text.line ("Error: " ++ message)

/-- Whether a report answers with a JSON document and the one line end after it. -/
def IsDocument (document : Json) (report : Report) : Prop :=
  ∃ text, report.stdout = String.ofList text ++ "\n" ∧ '\n' ∉ text ∧ Json.IsText document text

end Report

/-- What a style prints of notes is a part of them, and none where no notes are wanted. -/
private theorem Style.noteLines_eq (style : Style) (notes : List Note) :
    ∃ wanted, (style.verbose = false → wanted = []) ∧ style.noteLines notes = String.join (wanted.map Note.line) := by
  unfold noteLines
  cases style.verbose with
  | true => exact ⟨notes, nofun, rfl⟩
  | false => exact ⟨[], fun _ => rfl, rfl⟩

namespace Outcome

variable {outcome : Outcome} {format : Format} {style : Style} {attempt : Attempt Answer}

/-- A run that succeeds has an answer. -/
theorem exists_answer (hformat : outcome.format? = some format) (hsucceeds : outcome.report.exitCode = 0) :
    ∃ answer, outcome.answer? = some answer := by
  cases outcome with
  | ended style attempt =>
    obtain ⟨answer, hanswer⟩ := Planner.exitCode_ended_eq_zero_iff.mp hsucceeds
    exact ⟨answer, toOption_eq_some_iff.mpr hanswer⟩
  | refused | help | version => cases hformat

/-- A run that answers prints in some format. -/
theorem exists_format {answer : Answer} (hanswer : outcome.answer? = some answer) :
    ∃ format, outcome.format? = some format := by
  cases outcome with
  | ended style attempt => exact ⟨style.format, rfl⟩
  | refused | help | version => cases hanswer

/-- What a run prints is its answer in its format. -/
theorem stdout_eq {answer : Answer} (hformat : outcome.format? = some format)
    (hanswer : outcome.answer? = some answer) : outcome.report.stdout = answer.render format := by
  cases outcome with
  | ended style attempt =>
    cases hformat
    simp [report, toOption_eq_some_iff.mp hanswer]
  | refused | help | version => cases hformat

/-- A run that fails is reported as a failure, in either format. -/
theorem isFailure_ended {failure : Failure} (hfailed : attempt.result = .error failure) :
    (ended style attempt).report.IsFailure style.verbose := by
  obtain ⟨notes, hwanted, hnotes⟩ := style.noteLines_eq attempt.notes
  refine ⟨by simp [report, hfailed], notes, String.intercalate ": " failure.messages, hwanted, ?_⟩
  rw [← hnotes]
  simp [report, hfailed, failureLine]

/-- Where JSON is the format, an answer is reported as its document, whatever the texts in it hold. -/
theorem isDocument_of_answer {answer : Answer} (hformat : outcome.format? = some .json)
    (hanswer : outcome.answer? = some answer) : outcome.report.IsDocument answer.toJson := by
  have htext := Json.isText_chars answer.toJson
  refine ⟨answer.toJson.chars, ?_, fun hnewline => htext.not_control _ hnewline (by decide), htext⟩
  rw [stdout_eq hformat hanswer]
  rfl

end Outcome

namespace Planner

variable {environment : Environment} {w : Workspace} {texts : List String} {invocation : Invocation}

/-- A run whose words are a command prints in the way that its settings and its configuration say. -/
private theorem ended_of_read (hread : Arguments.read environment.toVariables texts = .ok invocation) :
    ∃ style attempt, (run environment w texts).2 = .ended style attempt ∧
      style.verbose = invocation.options.verbose ∧
      ∀ config, Planner.config environment w invocation.options.config = .ok config →
        style.format = invocation.options.format.getD config.defaultFormat := by
  unfold run
  rw [hread]
  unfold invoke
  dsimp only
  cases hconfig : Planner.config environment w invocation.options.config with
  | error failure => exact ⟨_, _, rfl, rfl, nofun⟩
  | ok config =>
    refine ⟨_, _, rfl, rfl, fun other hother => ?_⟩
    cases hother
    rfl

/-- What a run that answers says of the rows at the place of its database, which have no identifier twice. -/
theorem reports_of_run (hw : Arises w) {answer : Answer}
    (hanswer : (run environment w texts).2.answer? = some answer) :
    ∃ command session, session? environment w texts = some (command, session) ∧
      ∀ location, database? environment w texts = some location →
        ((run environment w texts).1.tasks location).Numbered ∧
          command.Reports (w.tasks location) ((run environment w texts).1.tasks location)
            session.config.searchLimit answer.toJson := by
  obtain ⟨command, session, hsession, hperforms⟩ := performs_of_answer hanswer
  refine ⟨command, session, hsession, fun location hdatabase => ?_⟩
  rw [database?_eq hsession] at hdatabase
  exact ⟨numbered_of_arises (.run hw environment texts) location,
    hperforms.reports hdatabase (numbered_of_arises hw location)⟩

/-- What a run prints whose words are a command. It fails with one message, after the notes if those are
wanted, or it succeeds; and where JSON is the format, what it prints then is one document on a line of its
own that agrees with the rows after the run, of which no two have one identifier. -/
theorem report_of_run (hw : Arises w)
    (hread : Arguments.read environment.toVariables texts = .ok invocation) :
    ((run environment w texts).2.report.exitCode = 0 ∨ (run environment w texts).2.report.exitCode = 1) ∧
    ((run environment w texts).2.report.exitCode = 1 →
      (run environment w texts).2.report.IsFailure invocation.options.verbose) ∧
    ((run environment w texts).2.report.exitCode = 0 →
      ∃ config, Planner.config environment w invocation.options.config = .ok config ∧
        (invocation.options.format.getD config.defaultFormat = .json →
          ∃ document, (run environment w texts).2.report.IsDocument document ∧
            ∀ location, database? environment w texts = some location →
              ((run environment w texts).1.tasks location).Numbered ∧
                invocation.command.Reports (w.tasks location) ((run environment w texts).1.tasks location)
                  config.searchLimit document)) := by
  obtain ⟨style, attempt, hended, hverbose, hformat⟩ := ended_of_read (w := w) hread
  cases hresult : attempt.result with
  | error failure =>
    have hcode : (run environment w texts).2.report.exitCode = 1 := by simp [hended, Outcome.report, hresult]
    refine ⟨.inr hcode, fun _ => ?_, fun hsucceeds => ?_⟩
    · rw [hended, ← hverbose]
      exact Outcome.isFailure_ended hresult
    · rw [hcode] at hsucceeds
      cases hsucceeds
  | ok answer =>
    have hcode : (run environment w texts).2.report.exitCode = 0 := by simp [hended, Outcome.report, hresult]
    refine ⟨.inl hcode, fun hfails => ?_, fun _ => ?_⟩
    · rw [hcode] at hfails
      cases hfails
    · have hanswer : (run environment w texts).2.answer? = some answer := by
        rw [hended]
        exact toOption_eq_some_iff.mpr hresult
      obtain ⟨command, session, hsession, hreports⟩ := reports_of_run hw hanswer
      obtain ⟨opened, config, hopened, hconfig, hstart, rfl⟩ := session?_eq_some_iff.mp hsession
      cases hread.symm.trans hopened
      rw [Session.config_of_start hstart] at hreports
      refine ⟨config, hconfig, fun hjson => ⟨answer.toJson, ?_, hreports⟩⟩
      refine Outcome.isDocument_of_answer ?_ hanswer
      rw [hended, ← hjson, ← hformat config hconfig]
      rfl

/-- A title of two lines is listed on one, and is the one that is stored. -/
theorem report_of_run_twoLines :
    ∃ w place document, Arises w ∧
      (w.tasks place).rows = [{ date := "20240120", title := "Read \"Emma\"\nand more", id := ⟨1⟩ }] ∧
      (run { clock := ⟨2024, 1, 15, by decide⟩ } w
        ["--db", "t.db", "--format", "json", "tasks"]).2.report.stdout =
          "\x7b\"tasks\":[\x7b\"comment\":\"\",\"date\":\"20240120\",\"id\":\"1\",\"repeat\":\"\"," ++
            "\"title\":\"Read \\\"Emma\\\"\\nand more\"\x7d]\x7d\n" ∧
      (run { clock := ⟨2024, 1, 15, by decide⟩ } w
        ["--db", "t.db", "--format", "json", "tasks"]).2.report.IsDocument document ∧
      (Command.listTasks "").Reports (w.tasks place)
        ((run { clock := ⟨2024, 1, 15, by decide⟩ } w ["--db", "t.db", "--format", "json", "tasks"]).1.tasks place)
        50 document := by
  have hadded := Arises.run (.start Workspace.store?_of_nothing) { clock := ⟨2024, 1, 15, by decide⟩ }
    ["--db", "t.db", "task", "add", "Read \"Emma\"\nand more", "--date", "20240120"]
  have hread : Arguments.read ({ clock := ⟨2024, 1, 15, by decide⟩ } : Environment).toVariables
        ["--db", "t.db", "--format", "json", "tasks"] =
      .ok { options := { format := some .json, database := some "t.db" }, command := .listTasks "" } := by
    decide +kernel
  obtain ⟨config, hconfig, hdocument⟩ := (report_of_run hadded hread).2.2 (by decide +kernel)
  cases hconfig
  obtain ⟨document, hprinted, hreports⟩ := hdocument rfl
  exact ⟨_, [Segment.ofText "t.db"], document, hadded, by decide +kernel, by decide +kernel, hprinted,
    (hreports _ (by decide +kernel)).2⟩

end Planner

end Daybook
