import Daybook.Proofs.Planner.Presentation
import Daybook.Proofs.Planner.Report
import Daybook.Proofs.Rule.Canonical

namespace Daybook

/-- Texts that go on to be the same begin with the same character. -/
theorem Text.head?_eq_of_append_eq {s t rest other : String} (hs : s ≠ "") (ht : t ≠ "")
    (hsame : s ++ rest = t ++ other) : s.toList.head? = t.toList.head? := by
  have hheads := congrArg (fun text => text.toList.head?) hsame
  simp only [String.toList_append] at hheads
  rwa [List.head?_append_of_ne_nil _ (mt String.toList_eq_nil_iff.mp hs),
    List.head?_append_of_ne_nil _ (mt String.toList_eq_nil_iff.mp ht)] at hheads

namespace Rule

private theorem HasShape.head?_intercalate {tokens : List (List Char)} {shape : Shape} (hshape : HasShape tokens shape) :
    ∃ c ∈ ['y', 'd', 'w', 'm'], ([' '].intercalate tokens).head? = some c := by
  cases hshape <;> simp [List.intercalate_cons_cons]

/-- A stored rule begins with a blank or with the letter of a kind of rule. -/
theorem IsText.starts {text : String} (htext : IsText text) {c : Char} (hc : text.toList.head? = some c) :
    Text.isBlank c = true ∨ c ∈ ['y', 'd', 'w', 'm'] := by
  rcases htext with hblank | ⟨rule, hread⟩
  · exact .inl (List.all_eq_true.mp hblank c (List.mem_of_mem_head? hc))
  · obtain ⟨shape, ⟨core, tokens, htrimmed, _, htokens, hshape⟩, _⟩ := exists_shaped_of_read hread
    obtain ⟨letter, hletter, hhead⟩ := hshape.head?_intercalate
    rw [htokens.joined] at hhead
    obtain ⟨before, after, htext, hbefore, _⟩ := htrimmed.framed
    rw [htext, List.append_assoc, List.head?_append, List.head?_append, hhead] at hc
    cases before with
    | nil =>
      cases hc
      exact .inr hletter
    | cons first before =>
      cases hc
      exact .inl (hbefore _ List.mem_cons_self)

end Rule

/-- Whether the rule of a content is blank or can be read. -/
def Content.Ruled (content : Content) : Prop :=
  Rule.IsText content.repeatRule

/-- Whatever day is today, only such rules are stored. -/
theorem Content.upheld_ruled (today : Date) : Content.Upheld Content.Ruled today where
  settled {task _} hsettled := by
    obtain ⟨_, date, hdue, rfl⟩ := Task.settled_eq_ok_iff.mp hsettled
    obtain ⟨_, _, hrule, _⟩ := Task.dueDate_spec hdue
    rwa [Task.withDate_repeatRule] at hrule
  moved _ _ hcontent := hcontent

namespace Output

private theorem columns_inj {id date rule other title : String} :
    columns id date rule title = columns id date other title ↔ padRight 14 rule = padRight 14 other := by
  simp only [columns, Text.line, String.append_left_inj, String.append_right_inj]

/-- The row of a stored task has a dash for its rule exactly if it has none, not even blanks. -/
theorem tableRow_eq_dash_iff {row : Row} (hrule : Rule.IsText row.repeatRule) :
    tableRow row.toTask = columns row.id.text row.date "-" row.title ↔ row.repeatRule = "" := by
  change columns row.id.text row.date (if row.repeatRule.isEmpty then "-" else row.repeatRule) row.title = _ ↔ _
  rw [columns_inj, ← String.isEmpty_iff]
  split
  · rename_i hempty
    exact iff_of_true rfl hempty
  · rename_i hnonempty
    refine iff_of_false (fun hsame => ?_) hnonempty
    -- What is printed is the rule itself, and none begins with a dash.
    have hhead := Text.head?_eq_of_append_eq (mt String.isEmpty_iff.mpr hnonempty) (by decide) hsame
    exact absurd (hrule.starts hhead) (by decide)

end Output

namespace Answer

open Text (line)

/-- The lines that show a stored task say that it does not repeat exactly if its rule is blank. -/
theorem taskLines_eq_none_iff {row : Row} (hrule : Rule.IsText row.repeatRule) :
    (∃ rest, taskLines row.id row.toTask = line ("Task: " ++ row.id.text) ++ line ("Title: " ++ row.title) ++
      line ("Date: " ++ row.date) ++ line "Repeat: none" ++ rest) ↔ Text.allBlank row.repeatRule = true := by
  have hnone : "Repeat: none" = "Repeat: " ++ "none" := by decide
  constructor
  · rintro ⟨rest, hsame⟩
    by_contra hrepeats
    rw [Bool.not_eq_true] at hrepeats
    have hnonempty : row.repeatRule ≠ "" := by
      intro hempty
      rw [hempty] at hrepeats
      cases hrepeats
    have hrecurring : row.toTask.isRecurring = true := by simp [Task.isRecurring, Row.toTask, hrepeats]
    rw [taskLines, hrecurring, if_pos rfl, hnone] at hsame
    simp only [Row.toTask, line, String.append_assoc, String.append_right_inj] at hsame
    -- The lines may go on in any way, but no rule that can be read begins as this word does.
    have hhead := Text.head?_eq_of_append_eq (t := "none") hnonempty (by decide) hsame
    exact absurd (hrule.starts hhead) (by decide)
  · intro hblank
    have honce : row.toTask.isRecurring = false := by simp [Task.isRecurring, Row.toTask, hblank]
    refine ⟨if row.comment.isEmpty then "" else line "\nComment:" ++ line row.comment, ?_⟩
    rw [taskLines, honce, if_neg Bool.false_ne_true, hnone]
    rfl

end Answer

namespace Session

variable {session : Session} {w after : Workspace} {location : Location} {text : String} {answer : Answer}

/-- Showing a task that is named by an identifier answers with what the row of that identifier says. -/
theorem Performs.answer_of_show (hperforms : Performs session w (.showTask text) after (.ok answer))
    (hlocation : w.databaseAt? session.database = some location) :
    ∃ row ∈ (w.tasks location).rows, TaskId.read text = .ok row.id ∧ answer = .shown row.id row.toTask := by
  cases hperforms with
  | carried hopens hprepares hcarries =>
    cases hprepares with
    | «show» hid =>
      cases hcarries with
      | «show» hget =>
        obtain ⟨row, hrow, rfl, rfl⟩ := Store.exists_row_of_get hget
        rw [← (tasks_of_opens hopens hlocation none).1] at hrow
        exact ⟨row, hrow, hid, rfl⟩

end Session

namespace Launch

variable {launch listing showing completion : Launch} {w : Workspace} {location : Location} {row : Row}
  {before after : List Task}

/-- A run of a command in the database at a location, about the task of a row, which a text names. -/
structure IsAbout (launch : Launch) (w : Workspace) (location : Location) (row : Row)
    (command : String → Command) : Prop where
  database : Planner.database? launch.environment w launch.texts = some location
  named : ∃ text, (Planner.session? launch.environment w launch.texts).map Prod.fst = some (command text) ∧
    TaskId.read text = .ok row.id

/-- A run that lists the task of a row, between others before and after it, in a table. -/
structure Tabulates (launch : Launch) (w : Workspace) (row : Row) (before after : List Task) : Prop where
  format : (launch.run w).2.format? = some .text
  answer : ∃ search, (launch.run w).2.answer? = some (.listed search (before ++ row.toTask :: after))

/-- Whether such a table has a dash in the column of the task's rule. -/
def PrintsDash (launch : Launch) (w : Workspace) (row : Row) (before after : List Task) : Prop :=
  (launch.run w).2.report.stdout = Output.tableHead ++ String.join (before.map Output.tableRow) ++
    Output.columns row.id.text row.date "-" row.title ++ String.join (after.map Output.tableRow)

/-- Whether a run shows the task of a row as one that does not repeat. -/
def PrintsNone (launch : Launch) (w : Workspace) (row : Row) : Prop :=
  ∃ rest, (launch.run w).2.report.stdout = Text.line ("Task: " ++ row.id.text) ++
    Text.line ("Title: " ++ row.title) ++ Text.line ("Date: " ++ row.date) ++ Text.line "Repeat: none" ++ rest

/-- Whether all that a run makes of the tasks at a location is to take out the one of a row. -/
def Removes (launch : Launch) (w : Workspace) (location : Location) (row : Row) : Prop :=
  (launch.run w).1.tasks location = (w.tasks location).without row.id

/-- Whether all that a run makes of the tasks at a location is to give the one of a row a date. -/
def Reschedules (launch : Launch) (w : Workspace) (location : Location) (row : Row) : Prop :=
  ∃ date, (launch.run w).1.tasks location = (w.tasks location).withRow { row with date := date }

private theorem IsAbout.exists_session {command : String → Command} (habout : launch.IsAbout w location row command) :
    ∃ text session, Planner.session? launch.environment w launch.texts = some (command text, session) ∧
      w.databaseAt? session.database = some location ∧ TaskId.read text = .ok row.id := by
  obtain ⟨text, hcommand, hid⟩ := habout.named
  obtain ⟨⟨_, session⟩, hsession, rfl⟩ := Option.map_eq_some_iff.mp hcommand
  exact ⟨text, session, hsession, (Planner.database?_eq hsession).symm.trans habout.database, hid⟩

/-- A table has a dash for the rule of a stored task exactly if the rule is empty. -/
theorem printsDash_iff (hrule : Rule.IsText row.repeatRule) (hlists : listing.Tabulates w row before after) :
    listing.PrintsDash w row before after ↔ row.repeatRule = "" := by
  obtain ⟨search, hanswer⟩ := hlists.answer
  have hlines : Answer.listingLines search (before ++ row.toTask :: after) =
      Output.tableHead ++ String.join (before.map Output.tableRow) ++ Output.tableRow row.toTask ++
        String.join (after.map Output.tableRow) := by
    simp [Answer.listingLines, String.join_cons, String.append_assoc]
  unfold PrintsDash
  rw [Outcome.stdout_eq hlists.format hanswer]
  change Answer.listingLines search _ = _ ↔ _
  rw [hlines, String.append_left_inj, String.append_right_inj]
  exact Output.tableRow_eq_dash_iff hrule

section Stored

variable (hw : Planner.Arises w) (hrow : row ∈ (w.tasks location).rows)

include hw hrow

/-- A stored task is shown as one that does not repeat exactly if its rule is blank. -/
theorem printsNone_iff (habout : showing.IsAbout w location row .showTask)
    (hformat : (showing.run w).2.format? = some .text) (hsucceeds : (showing.run w).2.report.exitCode = 0) :
    showing.PrintsNone w row ↔ Text.allBlank row.repeatRule = true := by
  obtain ⟨text, session, hsession, hlocation, hid⟩ := habout.exists_session
  obtain ⟨answer, hanswer⟩ := Outcome.exists_answer hformat hsucceeds
  obtain ⟨_, _, hopened, hperforms⟩ := Planner.performs_of_answer hanswer
  cases hsession.symm.trans hopened
  obtain ⟨shown, hshown, hshownId, rfl⟩ := hperforms.answer_of_show hlocation
  have hstore := Workspace.holds_iff.mp (hw.holds Content.upheld_ruled) location
  rw [hstore.eq_of_read hshown hrow hshownId hid] at hanswer
  unfold PrintsNone
  rw [Outcome.stdout_eq hformat hanswer]
  exact Answer.taskLines_eq_none_iff (hstore.content row hrow)

/-- Completing a task takes it out exactly if the run succeeds and the rule is blank, and gives it another date if the
run succeeds and the rule is not. -/
theorem removes_iff (habout : completion.IsAbout w location row .completeTask) :
    (completion.Removes w location row ↔
      (completion.run w).2.report.exitCode = 0 ∧ Text.allBlank row.repeatRule = true) ∧
    ((completion.run w).2.report.exitCode = 0 → Text.allBlank row.repeatRule = false →
      completion.Reschedules w location row) := by
  have hstore := Workspace.holds_iff.mp (Planner.holds_of_arises hw) location
  -- A run that fails leaves the row where it is.
  by_cases hsucceeds : (completion.run w).2.report.exitCode = 0
  · obtain ⟨text, session, hsession, _, hid⟩ := habout.exists_session
    obtain ⟨_, _, hopened, heffect⟩ := Planner.effect_of_run hstore (fun _ (hnone : False) => hnone.elim) hsucceeds
      habout.database
    cases hsession.symm.trans hopened
    obtain ⟨done, hdone, hdoneId, heffect⟩ := heffect
    obtain rfl := hstore.eq_of_read hdone hrow hdoneId hid
    cases hblank : Text.allBlank done.repeatRule with
    | true =>
      rw [if_pos hblank] at heffect
      exact ⟨iff_of_true heffect ⟨hsucceeds, rfl⟩, nofun⟩
    | false =>
      rw [if_neg (Bool.not_eq_true _ ▸ hblank)] at heffect
      obtain ⟨date, _, hmoved⟩ := heffect
      refine ⟨iff_of_false (fun hremoved => ?_) (fun hboth => nomatch hboth.2), fun _ _ => ⟨date, hmoved⟩⟩
      have hstays := Store.mem_withRow hrow { done with date := date } rfl
      exact Store.ne_without hstays (hmoved.symm.trans hremoved)
  · have hsame : (completion.run w).1.tasks location = w.tasks location :=
      Planner.tasks_of_run_of_other (Database.not_isBeside_of_eq habout.database) (.inl hsucceeds)
    refine ⟨iff_of_false (fun hremoved => ?_) (fun hboth => hsucceeds hboth.1), fun hends => absurd hends hsucceeds⟩
    exact Store.ne_without hrow (hsame.symm.trans hremoved)

end Stored

/-- Whether the runs that list a task, show it and complete it agree that it does not repeat. The table says so exactly
if its rule is empty, and the other two if it is blank; so all agree exactly if its rule is not made of blanks alone.
Completing has to succeed only where the rule is blank: a rule may have no next date, and then the task stays. -/
theorem views_agree_iff (w : Workspace) (location : Location) (row : Row) (listing showing completion : Launch)
    (before after : List Task) (hw : Planner.Arises w) (hrow : row ∈ (w.tasks location).rows)
    (hlists : listing.Tabulates w row before after)
    (hshows : showing.IsAbout w location row .showTask) (hformat : (showing.run w).2.format? = some .text)
    (hshown : (showing.run w).2.report.exitCode = 0)
    (hcompletes : completion.IsAbout w location row .completeTask)
    (hcompleted : Text.allBlank row.repeatRule = true → (completion.run w).2.report.exitCode = 0) :
    (listing.PrintsDash w row before after ↔ row.repeatRule = "") ∧
    (showing.PrintsNone w row ↔ Text.allBlank row.repeatRule = true) ∧
    (completion.Removes w location row ↔ Text.allBlank row.repeatRule = true) ∧
    ((completion.run w).2.report.exitCode = 0 →
      completion.Removes w location row ∨ completion.Reschedules w location row) ∧
    ((listing.PrintsDash w row before after ↔ showing.PrintsNone w row) ∧
        (showing.PrintsNone w row ↔ completion.Removes w location row) ↔
      (Text.allBlank row.repeatRule = true → row.repeatRule = "")) := by
  have hrule := (Workspace.holds_iff.mp (hw.holds Content.upheld_ruled) location).content row hrow
  have hdash := printsDash_iff hrule hlists
  have hnone := printsNone_iff hw hrow hshows hformat hshown
  obtain ⟨hremoves, hreschedules⟩ := removes_iff hw hrow hcompletes
  have hremoved : completion.Removes w location row ↔ Text.allBlank row.repeatRule = true :=
    hremoves.trans (and_iff_right_of_imp hcompleted)
  refine ⟨hdash, hnone, hremoved, fun hsucceeds => ?_, ?_⟩
  · cases hblank : Text.allBlank row.repeatRule with
    | true => exact .inl (hremoved.mpr hblank)
    | false => exact .inr (hreschedules hsucceeds hblank)
  · rw [hdash, hnone, hremoved]
    have hempty : row.repeatRule = "" → Text.allBlank row.repeatRule = true := fun hempty => by
      rw [hempty]
      rfl
    exact ⟨fun hagree => hagree.1.mpr, fun hblank => ⟨⟨hempty, hblank⟩, Iff.rfl⟩⟩

/-- A rule of a single blank is stored. The table shows it as it is, without a dash, but the task is shown as one that
does not repeat, and is gone once it is done. -/
theorem blank_rule_views_differ :
    ∃ w place row, ∃ listing showing completion : Launch, Planner.Arises w ∧ row ∈ (w.tasks place).rows ∧
      row.repeatRule = " " ∧ listing.Tabulates w row [] [] ∧ showing.IsAbout w place row .showTask ∧
      (showing.run w).2.format? = some .text ∧ (showing.run w).2.report.exitCode = 0 ∧
      completion.IsAbout w place row .completeTask ∧ (completion.run w).2.report.exitCode = 0 ∧
      ¬ listing.PrintsDash w row [] [] ∧ showing.PrintsNone w row ∧ completion.Removes w place row := by
  refine ⟨(Planner.run { clock := ⟨2024, 1, 15, by decide⟩ } {} ["--db", "t.db", "task", "add", "Pay rent",
      "--date", "20240120", "--repeat", " "]).1, [Segment.ofText "t.db"],
    { date := "20240120", title := "Pay rent", repeatRule := " ", id := ⟨1⟩ },
    ⟨{ clock := ⟨2024, 1, 15, by decide⟩ }, ["--db", "t.db", "tasks"]⟩,
    ⟨{ clock := ⟨2024, 1, 15, by decide⟩ }, ["--db", "t.db", "task", "show", "1"]⟩,
    ⟨{ clock := ⟨2024, 1, 15, by decide⟩ }, ["--db", "t.db", "task", "done", "1"]⟩,
    .run (.start Workspace.store?_of_nothing) _ _, by decide +kernel, rfl, ⟨by decide +kernel, "", by decide +kernel⟩,
    ⟨by decide +kernel, "1", by decide +kernel, by decide +kernel⟩, by decide +kernel, by decide +kernel,
    ⟨by decide +kernel, "1", by decide +kernel, by decide +kernel⟩, by decide +kernel, ?_, ⟨"", ?_⟩, ?_⟩
  · unfold PrintsDash
    decide +kernel
  · decide +kernel
  · unfold Removes
    decide +kernel

/-- A rule with a blank before it counts as one everywhere: no dash is printed, the task is not shown as one that
does not repeat, and it stays when it is done. -/
theorem views_agree_iff_watering :
    ∃ w place row, ∃ listing showing completion : Launch, Planner.Arises w ∧ row ∈ (w.tasks place).rows ∧
      row.repeatRule = " d 5" ∧ ¬ listing.PrintsDash w row [] [] ∧ ¬ showing.PrintsNone w row ∧
      ¬ completion.Removes w place row ∧ completion.Reschedules w place row := by
  have hadded := Planner.Arises.run (.start Workspace.store?_of_nothing) { clock := ⟨2024, 1, 15, by decide⟩ }
    ["--db", "t.db", "task", "add", "Water plants", "--date", "20240120", "--repeat", " d 5"]
  obtain ⟨hdash, hnone, hremoves, hcompletes, _⟩ := views_agree_iff _ [Segment.ofText "t.db"]
    { date := "20240120", title := "Water plants", repeatRule := " d 5", id := ⟨1⟩ }
    ⟨{ clock := ⟨2024, 1, 15, by decide⟩ }, ["--db", "t.db", "tasks"]⟩
    ⟨{ clock := ⟨2024, 1, 15, by decide⟩ }, ["--db", "t.db", "task", "show", "1"]⟩
    ⟨{ clock := ⟨2024, 1, 15, by decide⟩ }, ["--db", "t.db", "task", "done", "1"]⟩ [] []
    hadded (by decide +kernel) ⟨by decide +kernel, "", by decide +kernel⟩
    ⟨by decide +kernel, "1", by decide +kernel, by decide +kernel⟩ (by decide +kernel) (by decide +kernel)
    ⟨by decide +kernel, "1", by decide +kernel, by decide +kernel⟩ (by decide +kernel)
  have hstays := hremoves.not.mpr (by decide)
  exact ⟨_, _, _, _, _, _, hadded, by decide +kernel, rfl, hdash.not.mpr (by decide), hnone.not.mpr (by decide), hstays,
    (hcompletes (by decide +kernel)).resolve_left hstays⟩

end Launch

end Daybook
