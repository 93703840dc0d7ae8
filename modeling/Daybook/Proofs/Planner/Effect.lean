import Daybook.Proofs.Planner.Reachable

namespace Daybook

/-- Whether a content has a date. -/
def Content.Dated (content : Content) : Prop :=
  Text.allBlank content.date = false

/-- Whatever day is today, no task is left without a date. -/
theorem Content.upheld_dated (today : Date) : Content.Upheld Content.Dated today where
  settled hsettled := by
    obtain ⟨_, date, hdue, rfl⟩ := Task.settled_eq_ok_iff.mp hsettled
    obtain ⟨day, hday, _, rfl | ⟨_, rfl | ⟨found, hfound⟩⟩⟩ := Task.dueDate_spec hdue
    · exact Date.allBlank_of_read hday
    · exact Date.allBlank_compact today
    · exact Date.allBlank_of_read hfound
  moved hcomplete _ _ := by
    obtain ⟨_, hread⟩ := Task.read_of_complete hcomplete
    exact Date.allBlank_of_read hread

/-- What changes make of a content: the title, the comment and the rule stay where they are not given
anew, and so does the date, unless it is in the past. -/
structure Changes.Turns (changes : Changes) (today : Date) (old new : Content) : Prop where
  title : new.title = changes.title.getD old.title
  comment : new.comment = changes.comment.getD old.comment
  repeatRule : new.repeatRule = changes.repeatRule.getD old.repeatRule
  date : changes.date = none → new.date = old.date ∨ ∃ day, Date.read old.date = .ok day ∧ day < today

/-- What a command that succeeds makes of a store for which identifiers were issued before. -/
def Command.Effect (today : Date) (issued : TaskId → Prop) (before after : Store) : Command → Prop
  | .addTask content =>
    ∃ row : Row, after = { rows := before.rows ++ [row], lastId := before.lastId + 1 } ∧
      row.toContent = { content with date := row.date } ∧ row.id.value = before.lastId + 1 ∧
      ∀ id, issued id → id.value < row.id.value
  | .updateTask text changes =>
    ∃ old ∈ before.rows, ∃ new : Row, TaskId.read text = .ok old.id ∧ new.id = old.id ∧
      after = before.withRow new ∧ changes.Turns today old.toContent new.toContent
  | .deleteTask text => ∃ row ∈ before.rows, TaskId.read text = .ok row.id ∧ after = before.without row.id
  | .completeTask text =>
    ∃ row ∈ before.rows, TaskId.read text = .ok row.id ∧
      if Text.allBlank row.repeatRule then after = before.without row.id
      else ∃ date, row.toTask.complete today = .ok (.reschedule date) ∧
        after = before.withRow { row with date := date }
  | .showTask _ | .listTasks _ | .nextDate .. | .checkRule _ => after = before

/-- No effect takes back an identifier that was handed out. -/
theorem Command.Effect.lastId_le {command : Command} {today : Date} {issued : TaskId → Prop}
    {before after : Store} (heffect : command.Effect today issued before after) :
    before.lastId ≤ after.lastId := by
  cases command with
  | addTask content =>
    obtain ⟨row, rfl, _⟩ := heffect
    exact Nat.le_succ _
  | updateTask text changes =>
    obtain ⟨old, _, new, _, _, rfl, _⟩ := heffect
    exact Nat.le_refl _
  | deleteTask text =>
    obtain ⟨row, _, _, rfl⟩ := heffect
    exact Nat.le_refl _
  | completeTask text =>
    obtain ⟨row, _, _, heffect⟩ := heffect
    split at heffect
    · rw [heffect]
      exact Nat.le_refl _
    · obtain ⟨date, _, rfl⟩ := heffect
      exact Nat.le_refl _
  | showTask text | listTasks search | nextDate now date rule | checkRule rule =>
    cases heffect
    exact Nat.le_refl _

namespace Changes

/-- An update that is settled keeps the date of a task where none is given, unless it is in the past. -/
theorem turns_of_settled {changes : Changes} {old settled : Task} {today : Date}
    (hdated : old.toContent.Dated) (hsettled : (changes.apply old).settled today = .ok settled) :
    changes.Turns today old.toContent settled.toContent := by
  obtain ⟨_, date, hdue, rfl⟩ := Task.settled_eq_ok_iff.mp hsettled
  refine ⟨rfl, rfl, rfl, fun homitted => ?_⟩
  have hdate : (changes.apply old).date = old.date := by
    rw [apply, homitted, Option.getD_none]
  -- The date of a stored task is not blank, so that today's does not take its place.
  have hstays : (changes.apply old).withDate today = changes.apply old :=
    Task.withDate_of_not_blank (hdate ▸ hdated)
  rw [hstays] at hdue
  obtain ⟨day, hday, _, hsame | ⟨hpast, _⟩⟩ := Task.dueDate_spec hdue
  · exact .inl (hsame.trans hdate)
  · rw [hdate] at hday
    exact .inr ⟨day, hday, hpast⟩

end Changes

/-- What an update writes back still has the identifier under which the task was found, so that it takes the place
of that one row. -/
theorem Store.eq_withRow_of_update {store changed : Store} (hstore : store.Numbered) {id : TaskId}
    {changes : Changes} {old task : Task} {today : Date} (hget : store.get id = .ok old)
    (hsettled : (changes.apply old).settled today = .ok task) (hupdate : store.update task = .ok changed) :
    ∃ row ∈ store.rows, ∃ new : Row, row.id = id ∧ row.toTask = old ∧ new.id = row.id ∧ new.toTask = task ∧
      changed = store.withRow new := by
  obtain ⟨row, hrow, rfl, rfl⟩ := exists_row_of_get hget
  obtain ⟨_, hsame, hmodify⟩ := update_eq_ok_iff.mp hupdate
  have hkept : task.id = some row.id := by
    obtain ⟨_, date, _, rfl⟩ := Task.settled_eq_ok_iff.mp hsettled
    rfl
  cases hkept.symm.trans hsame
  refine ⟨row, hrow, { toContent := task.toContent, id := row.id }, rfl, rfl, rfl, ?_,
    eq_withRow_of_modify hstore hrow hmodify⟩
  rw [Row.toTask, ← hkept]

namespace Session

variable {session : Session} {command : Command} {w after : Workspace} {location : Location}
  {issued : TaskId → Prop}

/-- Carrying out an order on a store whose tasks have dates has the effect of the command that it was prepared
for. -/
theorem Carries.effect {today : Date} {limit : Nat} {order : Order} {store : Store} {changed? : Option Store}
    {answer : Answer} (hstore : store.Holds Content.Dated)
    (hissued : ∀ id, issued id → id.value ≤ store.lastId) (hprepares : Prepares today command order)
    (hcarries : Carries today limit store order changed? answer) :
    command.Effect today issued store (changed?.getD store) := by
  cases hcarries with
  | add task =>
    cases hprepares with
    | add hsettled =>
      obtain ⟨_, date, _, rfl⟩ := Task.settled_eq_ok_iff.mp hsettled
      exact ⟨_, rfl, rfl, rfl, fun id hid => Int.lt_add_one_of_le (hissued id hid)⟩
  | @update _ changes _ task changed hget hsettled hupdate =>
    cases hprepares with
    | update _ hid =>
      obtain ⟨old, hold, new, rfl, rfl, hsame, rfl, hchanged⟩ :=
        Store.eq_withRow_of_update hstore.toNumbered hget hsettled hupdate
      exact ⟨old, hold, new, hid, hsame, hchanged,
        Changes.turns_of_settled (hstore.content old hold) hsettled⟩
  | delete hdelete =>
    cases hprepares with
    | delete hid =>
      obtain ⟨row, hrow, rfl, hchanged⟩ := Store.exists_row_of_delete hdelete
      exact ⟨row, hrow, hid, hchanged⟩
  | remove hget hcomplete hdelete =>
    cases hprepares with
    | complete hid =>
      obtain ⟨row, hrow, rfl, rfl⟩ := Store.exists_row_of_get hget
      have honce : Text.allBlank row.repeatRule = true := Task.complete_eq_remove_iff.mp hcomplete
      refine ⟨row, hrow, hid, ?_⟩
      rw [if_pos honce]
      exact Store.eq_without_of_delete hdelete
  | reschedule hget hcomplete hupdate =>
    cases hprepares with
    | complete hid =>
      obtain ⟨row, hrow, rfl, rfl⟩ := Store.exists_row_of_get hget
      have hrepeats : ¬ Text.allBlank row.repeatRule = true := by
        intro honce
        rw [Task.complete_eq_remove_iff.mpr honce] at hcomplete
        cases hcomplete
      refine ⟨row, hrow, hid, ?_⟩
      rw [if_neg hrepeats]
      exact ⟨_, hcomplete, Store.eq_withRow_of_modify hstore.toNumbered hrow hupdate⟩
  | «show» | list =>
    cases hprepares
    rfl

/-- A command that fails, and one for another database, leaves the tasks at a location as they were. -/
theorem Performs.tasks_eq {result : Except Failure Answer} (hperforms : Performs session w command after result)
    (hbeside : ¬ Database.IsBeside (w.databaseAt? session.database) location)
    (hother : result.toOption = none ∨ w.databaseAt? session.database ≠ some location) :
    after.tasks location = w.tasks location := by
  cases hperforms with
  | failed _ hkeeps => exact hkeeps.tasks_eq hbeside
  | nextDate => rfl
  | checkRule => rfl
  | @carried _ order opened database changed answer hopens hprepares hcarries =>
    have hopened := hopens.keeps.tasks_eq hbeside
    have hne := hother.resolve_left nofun
    cases changed with
    | none => exact hopened
    | some changed =>
      have hkept := (hopens.isOpen database rfl).tasks_keep_of_ne hne changed
      exact (hkept.resolve_right fun hlost => hbeside hlost.1).trans hopened

/-- An order is carried out on the tasks at the place of its database, and what it makes of them is kept
there. -/
theorem tasks_of_opens {opened : Workspace} {database : Database}
    (hopens : w.Opens (w.databaseAt? session.database) (opened, .ok database))
    (hlocation : w.databaseAt? session.database = some location) (changed : Option Store) :
    w.tasks location = database.store ∧
      (keep opened database changed).tasks location = changed.getD database.store := by
  have hopen := hopens.isOpen database rfl
  have hopened := hopen.tasks_eq hlocation
  have hfound := hopens.keeps.tasks_eq (Database.not_isBeside_of_eq hlocation)
  refine ⟨hfound.symm.trans hopened, ?_⟩
  cases changed with
  | none => exact hopened
  | some changed => exact hopen.tasks_keep_self hlocation changed

/-- A command that succeeds has its effect on the tasks at the place of its database. -/
theorem Performs.effect {answer : Answer} (hperforms : Performs session w command after (.ok answer))
    (hlocation : w.databaseAt? session.database = some location)
    (hstore : (w.tasks location).Holds Content.Dated)
    (hissued : ∀ id, issued id → id.value ≤ (w.tasks location).lastId) :
    command.Effect session.today issued (w.tasks location) (after.tasks location) := by
  cases hperforms with
  | nextDate => rfl
  | checkRule => rfl
  | @carried _ order opened database changed answer hopens hprepares hcarries =>
    obtain ⟨hbefore, hafter⟩ := tasks_of_opens hopens hlocation changed
    rw [hbefore] at hstore hissued ⊢
    rw [hafter]
    exact hcarries.effect hstore hissued hprepares

end Session

namespace Planner

open Database (IsBeside)

variable {environment : Environment} {w : Workspace} {texts : List String} {location : Location}
  {command : Command} {session : Session}

/-- The workspaces that sequences of runs lead to from one without tasks, whatever day they take as today.
Between runs all may change but the tasks, of which whole stores may go. -/
inductive Arises : Workspace → Prop
  | start {w : Workspace} (hnone : ∀ location, w.store? location = none) : Arises w
  | edit {w w' : Workspace} (hw : Arises w)
      (hkept : ∀ location store, w'.store? location = some store → w.store? location = some store) :
      Arises w'
  | run {w : Workspace} (hw : Arises w) (environment : Environment) (texts : List String) :
      Arises (Planner.run environment w texts).1

/-- What is upheld on every day holds of all tasks that runs lead to. -/
theorem Arises.holds {P : Content → Prop} (hupheld : ∀ today, Content.Upheld P today) (hw : Arises w) :
    w.Holds P := by
  induction hw with
  | start hnone => exact Workspace.holds_of_none hnone
  | edit _ hkept ih => exact ih.of_subset hkept
  | run _ environment texts ih => exact holds_of_run ih fun _ session _ => hupheld session.today

/-- No run leaves a task without a date, whatever day it takes as today. -/
theorem holds_of_arises (hw : Arises w) : w.Holds Content.Dated :=
  hw.holds Content.upheld_dated

/-- Wherever tasks are, no two of them have one identifier. -/
theorem numbered_of_arises (hw : Arises w) (location : Location) : (w.tasks location).Numbered :=
  (Workspace.holds_iff.mp (holds_of_arises hw) location).toNumbered

/-- The place of the database that a run is about. A run that does not get so far, and one in memory, have
none. -/
def database? (environment : Environment) (w : Workspace) (texts : List String) : Option Location :=
  (session? environment w texts).bind fun opened => w.databaseAt? opened.2.database

theorem database?_eq (hsession : session? environment w texts = some (command, session)) :
    database? environment w texts = w.databaseAt? session.database := by
  rw [database?, hsession, Option.bind_some]

/-- A run succeeds exactly if it has an answer. -/
theorem exitCode_ended_eq_zero_iff {style : Style} {attempt : Attempt Answer} :
    (Outcome.ended style attempt).report.exitCode = 0 ↔ ∃ answer, attempt.result = .ok answer := by
  unfold Outcome.report
  dsimp only
  split <;> rename_i hresult <;> simp [hresult]

/-- Tasks that a run is not about stay as they were, and those that it is about do so if it fails. -/
theorem tasks_of_run_of_other (hbeside : ¬ IsBeside (database? environment w texts) location)
    (hother : (run environment w texts).2.report.exitCode ≠ 0 ∨
      database? environment w texts ≠ some location) :
    (run environment w texts).1.tasks location = w.tasks location := by
  have hruns := runs environment w texts
  generalize (run environment w texts).1 = after, (run environment w texts).2 = outcome at hruns hother ⊢
  cases hruns with
  | stopped => rfl
  | performed style hsession hresult =>
    rw [database?_eq hsession] at hbeside hother
    refine (Session.performs _ w _).tasks_eq hbeside (hother.imp_left fun hfailed => ?_)
    rw [Ne, exitCode_ended_eq_zero_iff, hresult] at hfailed
    exact Option.eq_none_iff_forall_ne_some.mpr fun answer hanswer =>
      hfailed ⟨answer, toOption_eq_some_iff.mp hanswer⟩

/-- A run that succeeds has the effect of its command on the tasks at the place of its database. Only that the
counter is not below them is used of the identifiers that were issued. -/
theorem effect_of_run {issued : TaskId → Prop} (hstore : (w.tasks location).Holds Content.Dated)
    (hissued : ∀ id, issued id → id.value ≤ (w.tasks location).lastId)
    (hsucceeds : (run environment w texts).2.report.exitCode = 0)
    (hdatabase : database? environment w texts = some location) :
    ∃ command session, session? environment w texts = some (command, session) ∧
      command.Effect session.today issued (w.tasks location)
        ((run environment w texts).1.tasks location) := by
  have hruns := runs environment w texts
  generalize (run environment w texts).1 = after, (run environment w texts).2 = outcome
    at hruns hsucceeds ⊢
  cases hruns with
  | stopped hnone =>
    rw [database?, hnone] at hdatabase
    cases hdatabase
  | @performed command session style attempt hsession hresult =>
    rw [database?_eq hsession] at hdatabase
    obtain ⟨answer, hanswer⟩ := exitCode_ended_eq_zero_iff.mp hsucceeds
    have hperforms := Session.performs session w command
    rw [← hresult, hanswer] at hperforms
    exact ⟨command, session, hsession, hperforms.effect hdatabase hstore hissued⟩

private theorem lastId_le_of_run (hw : Arises w) (hbeside : ¬ IsBeside (database? environment w texts) location) :
    (w.tasks location).lastId ≤ ((run environment w texts).1.tasks location).lastId := by
  by_cases hown : (run environment w texts).2.report.exitCode = 0 ∧
      database? environment w texts = some location
  · have hstore := Workspace.holds_iff.mp (holds_of_arises hw) location
    -- The counter goes by the rows alone, whatever was issued.
    obtain ⟨command, session, _, heffect⟩ :=
      effect_of_run hstore (fun _ (hnone : False) => hnone.elim) hown.1 hown.2
    exact heffect.lastId_le
  · rw [tasks_of_run_of_other hbeside (not_and_or.mp hown)]

/-- The identifiers that were issued at a location on the way to a workspace: those of the rows that were
there after any run, as long as the store stayed. -/
inductive Issued (location : Location) : Workspace → TaskId → Prop
  | row {w : Workspace} {row : Row} (hw : Arises w) (hrow : row ∈ (w.tasks location).rows) :
      Issued location w row.id
  | edit {w w' : Workspace} {id : TaskId} (hissued : Issued location w id)
      (hkept : ∀ other store, w'.store? other = some store → w.store? other = some store)
      (hstays : w'.tasks location = w.tasks location) : Issued location w' id
  | run {w : Workspace} {id : TaskId} (hissued : Issued location w id) (environment : Environment)
      (texts : List String) (hbeside : ¬ IsBeside (database? environment w texts) location) :
      Issued location (Planner.run environment w texts).1 id

private theorem Issued.arises {id : TaskId} (hissued : Issued location w id) : Arises w := by
  induction hissued with
  | row hw => exact hw
  | edit _ hkept _ ih => exact .edit ih hkept
  | run _ environment texts _ ih => exact .run ih environment texts

/-- The counter of a store is never below an identifier that was issued there. -/
theorem Issued.le_lastId {id : TaskId} (hissued : Issued location w id) :
    id.value ≤ (w.tasks location).lastId := by
  induction hissued with
  | row hw hrow => exact (numbered_of_arises hw location).issued _ hrow
  | edit _ _ hstays ih => rwa [hstays]
  | run hissued environment texts hbeside ih =>
    exact Int.le_trans ih (Int.ofNat_le.mpr (lastId_le_of_run hissued.arises hbeside))

/-- What a run makes of the tasks at a location: nothing if it fails or is on another database, and what its
command says if it succeeds. Only stores beside the database of the run, in the place of a leftover file,
are left out, which the one at the place of the database never is. -/
theorem tasks_of_run (hw : Arises w) (hbeside : ¬ IsBeside (database? environment w texts) location) :
    (w.tasks location).Numbered ∧
      ((run environment w texts).2.report.exitCode ≠ 0 →
        (run environment w texts).1.tasks location = w.tasks location) ∧
      (database? environment w texts ≠ some location →
        (run environment w texts).1.tasks location = w.tasks location) ∧
      ((run environment w texts).2.report.exitCode = 0 → database? environment w texts = some location →
        ∃ command session, session? environment w texts = some (command, session) ∧
          command.Effect session.today (Issued location w) (w.tasks location)
            ((run environment w texts).1.tasks location)) := by
  have hstore := Workspace.holds_iff.mp (holds_of_arises hw) location
  refine ⟨numbered_of_arises hw location, fun hfails => ?_, fun helsewhere => ?_, fun hsucceeds hdatabase => ?_⟩
  · exact tasks_of_run_of_other hbeside (.inl hfails)
  · exact tasks_of_run_of_other hbeside (.inr helsewhere)
  · exact effect_of_run hstore (fun _ hissued => hissued.le_lastId) hsucceeds hdatabase

/-- Once a task is added, one that is not there cannot be done, and nothing changes; the one that is there
can, and moves to the next date of its rule. -/
theorem tasks_of_run_watering :
    ∃ w place, Arises w ∧
      w.tasks place =
        { rows := [{ date := "20240116", title := "Water plants", repeatRule := "d 5", id := ⟨1⟩ }]
          lastId := 1 } ∧
      (run { clock := ⟨2024, 1, 15, by decide⟩ } w ["--db", "t.db", "task", "done", "7"]).1.tasks place =
        w.tasks place ∧
      (run { clock := ⟨2024, 1, 15, by decide⟩ } w ["--db", "t.db", "task", "done", "1"]).1.tasks place =
        { rows := [{ date := "20240121", title := "Water plants", repeatRule := "d 5", id := ⟨1⟩ }]
          lastId := 1 } ∧
      ∃ command session,
        session? { clock := ⟨2024, 1, 15, by decide⟩ } w ["--db", "t.db", "task", "done", "1"] =
          some (command, session) ∧
        command.Effect session.today (Issued place w) (w.tasks place)
          ((run { clock := ⟨2024, 1, 15, by decide⟩ } w ["--db", "t.db", "task", "done", "1"]).1.tasks
            place) := by
  refine ⟨(run { clock := ⟨2024, 1, 15, by decide⟩ } {} ["--db", "t.db", "task", "add", "Water plants",
    "--date", "20240101", "--repeat", "d 5"]).1, [Segment.ofText "t.db"],
    .run (.start Workspace.store?_of_nothing) _ _, by decide +kernel, ?_, by decide +kernel, ?_⟩
  · refine (tasks_of_run (.run (.start Workspace.store?_of_nothing) _ _)
      (Database.not_isBeside_of_eq ?_)).2.1 ?_ <;> decide +kernel
  · refine (tasks_of_run (.run (.start Workspace.store?_of_nothing) _ _)
      (Database.not_isBeside_of_eq ?_)).2.2.2 ?_ ?_ <;> decide +kernel

end Planner

end Daybook
