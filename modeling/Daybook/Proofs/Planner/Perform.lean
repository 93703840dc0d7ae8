import Daybook.Proofs.Store.Sound
import Daybook.Proofs.Workspace.Stores

namespace Daybook

namespace Attempt

variable {α β : Type}

/-- An attempt that goes on has a result where both of its parts have one. -/
theorem bind_result_eq_ok_iff {first : Attempt α} {next : α → Attempt β} {b : β} :
    (first >>= next).result = .ok b ↔ ∃ a, first.result = .ok a ∧ (next a).result = .ok b := by
  change (first.andThen next).result = .ok b ↔ _
  unfold andThen
  cases hfirst : first.result with
  | ok a => simp [after]
  | error failure => simp

private theorem of_result_eq_ok_iff {ε : Type} {wrap : ε → Failure} {part : Except ε α} {a : α} :
    (of wrap part).result = .ok a ↔ part = .ok a :=
  mapError_eq_ok_iff

private theorem pure_result_eq_ok_iff {a b : α} : (pure a : Attempt α).result = .ok b ↔ a = b := by
  change Except.ok a = Except.ok b ↔ a = b
  rw [Except.ok.injEq]

end Attempt

/-- A change of a database that is made is the change that was asked for. -/
theorem Database.eq_ok_of_change {database : Database} {asked : Except Store.Error Store} {made : Store}
    (hchange : database.change asked = .ok made) : asked = .ok made := by
  unfold Database.change at hchange
  split at hchange <;> cases hchange
  rfl

namespace Session

variable {session : Session} {database : Database}

/-- The orders that commands come to on a day. -/
inductive Prepares (today : Date) : Command → Order → Prop
  | add {content : Content} {task : Task}
      (hsettled : Task.settled { toContent := content } today = .ok task) :
      Prepares today (.addTask content) (.add task)
  | «show» {text : String} {id : TaskId} (hid : TaskId.read text = .ok id) :
      Prepares today (.showTask text) (.show id)
  | update {text : String} {id : TaskId} (changes : Changes) (hid : TaskId.read text = .ok id) :
      Prepares today (.updateTask text changes) (.update id changes)
  | delete {text : String} {id : TaskId} (hid : TaskId.read text = .ok id) :
      Prepares today (.deleteTask text) (.delete id)
  | complete {text : String} {id : TaskId} (hid : TaskId.read text = .ok id) :
      Prepares today (.completeTask text) (.complete id)
  | list (search : String) : Prepares today (.listTasks search) (.list search)

/-- What carrying out an order on a day makes of a store, if it changes it, and answers. No more tasks are
listed than the limit. -/
inductive Carries (today : Date) (limit : Nat) (store : Store) : Order → Option Store → Answer → Prop
  | add (task : Task) :
      Carries today limit store (.add task) (some (store.add task.toContent).1)
        (.added (store.add task.toContent).2 task.title task.date)
  | «show» {id : TaskId} {task : Task} (hget : store.get id = .ok task) :
      Carries today limit store (.show id) none (.shown id task)
  | update {id : TaskId} {changes : Changes} {old task : Task} {changed : Store}
      (hget : store.get id = .ok old) (hsettled : (changes.apply old).settled today = .ok task)
      (hupdate : store.update task = .ok changed) :
      Carries today limit store (.update id changes) (some changed) (.updated id task)
  | delete {id : TaskId} {changed : Store} (hdelete : store.delete id = .ok changed) :
      Carries today limit store (.delete id) (some changed) (.deleted id)
  | remove {id : TaskId} {task : Task} {changed : Store} (hget : store.get id = .ok task)
      (hcomplete : task.complete today = .ok .remove) (hdelete : store.delete id = .ok changed) :
      Carries today limit store (.complete id) (some changed) (.completed id .remove)
  | reschedule {id : TaskId} {task : Task} {date : String} {changed : Store}
      (hget : store.get id = .ok task) (hcomplete : task.complete today = .ok (.reschedule date))
      (hupdate : store.updateDate id date = .ok changed) :
      Carries today limit store (.complete id) (some changed) (.completed id (.reschedule date))
  | list {search : String} {tasks : List Task} (hlist : store.list limit search = .ok tasks) :
      Carries today limit store (.list search) none (.listed search tasks)

/-- The commands that name a task are prepared by reading its identifier. -/
theorem exists_id_of_order {text : String} {make : TaskId → Order} {order : Order}
    (hprepared : (Attempt.of Failure.taskId (TaskId.read text) >>= fun id =>
      pure (Prepared.order (make id))).result = .ok (.order order)) :
    ∃ id, TaskId.read text = .ok id ∧ order = make id := by
  obtain ⟨id, hid, hprepared⟩ := Attempt.bind_result_eq_ok_iff.mp hprepared
  cases Attempt.pure_result_eq_ok_iff.mp hprepared
  exact ⟨id, Attempt.of_result_eq_ok_iff.mp hid, rfl⟩

/-- A command that is prepared successfully comes to its order on the day of the session. -/
theorem prepares_of_prepare {command : Command} {order : Order}
    (hprepared : (session.prepare command).result = .ok (.order order)) :
    Prepares session.today command order := by
  cases command with
  | listTasks search =>
    cases Attempt.pure_result_eq_ok_iff.mp hprepared
    exact .list search
  | addTask content =>
    obtain ⟨task, htask, hprepared⟩ := Attempt.bind_result_eq_ok_iff.mp hprepared
    cases Attempt.pure_result_eq_ok_iff.mp hprepared
    obtain ⟨settled, hsettled, htask⟩ := Attempt.bind_result_eq_ok_iff.mp htask
    obtain ⟨_, _, htask⟩ := Attempt.bind_result_eq_ok_iff.mp htask
    cases Attempt.pure_result_eq_ok_iff.mp htask
    exact .add (Attempt.of_result_eq_ok_iff.mp hsettled)
  | showTask text =>
    obtain ⟨id, hid, rfl⟩ := exists_id_of_order hprepared
    exact .show hid
  | updateTask text changes =>
    obtain ⟨id, hid, rfl⟩ := exists_id_of_order hprepared
    exact .update changes hid
  | deleteTask text =>
    obtain ⟨id, hid, rfl⟩ := exists_id_of_order hprepared
    exact .delete hid
  | completeTask text =>
    obtain ⟨id, hid, rfl⟩ := exists_id_of_order hprepared
    exact .complete hid
  | nextDate now date rule | checkRule rule =>
    obtain ⟨_, _, hprepared⟩ := Attempt.bind_result_eq_ok_iff.mp hprepared
    cases Attempt.pure_result_eq_ok_iff.mp hprepared

private theorem exists_date_of_nextDate {now : Option String} {date rule : String} {answer : Answer}
    (hanswered : (session.nextDate now date rule).result = .ok answer) :
    ∃ found, answer = .nextDate found := by
  unfold nextDate at hanswered
  split at hanswered
  · cases hanswered
  · split at hanswered
    · cases hanswered
    · obtain ⟨reference, _, hanswered⟩ := Attempt.bind_result_eq_ok_iff.mp hanswered
      obtain ⟨_, _, hanswered⟩ := Attempt.bind_result_eq_ok_iff.mp hanswered
      obtain ⟨found, _, hanswered⟩ := Attempt.bind_result_eq_ok_iff.mp hanswered
      cases Attempt.pure_result_eq_ok_iff.mp hanswered
      exact ⟨found, rfl⟩

/-- The commands that are answered without a store. -/
theorem of_prepare_eq_answer {command : Command} {answer : Answer}
    (hprepared : (session.prepare command).result = .ok (.answer answer)) :
    (∃ now date rule found, command = .nextDate now date rule ∧ answer = .nextDate found) ∨
      ∃ text rule, command = .checkRule text ∧ answer = .checked rule := by
  cases command with
  | nextDate now date rule =>
    obtain ⟨_, hanswered, hprepared⟩ := Attempt.bind_result_eq_ok_iff.mp hprepared
    cases Attempt.pure_result_eq_ok_iff.mp hprepared
    obtain ⟨found, rfl⟩ := exists_date_of_nextDate hanswered
    exact .inl ⟨now, date, rule, found, rfl, rfl⟩
  | checkRule text =>
    obtain ⟨rule, _, hprepared⟩ := Attempt.bind_result_eq_ok_iff.mp hprepared
    cases Attempt.pure_result_eq_ok_iff.mp hprepared
    exact .inr ⟨text, rule, rfl, rfl⟩
  | listTasks search => cases Attempt.pure_result_eq_ok_iff.mp hprepared
  | addTask content | showTask text | updateTask text changes | deleteTask text | completeTask text =>
    obtain ⟨_, _, hprepared⟩ := Attempt.bind_result_eq_ok_iff.mp hprepared
    cases Attempt.pure_result_eq_ok_iff.mp hprepared

/-- An order that is carried out successfully does to the store, and answers, what is said of orders of its kind. -/
theorem carries_of_carryOut {order : Order} {changed : Option Store} {answer : Answer}
    (hdone : (session.carryOut database order).result = .ok (changed, answer)) :
    Carries session.today session.config.searchLimit database.store order changed answer := by
  cases order with
  | add task =>
    obtain ⟨made, hmade, hdone⟩ := Attempt.bind_result_eq_ok_iff.mp hdone
    cases Attempt.pure_result_eq_ok_iff.mp hdone
    cases Database.eq_ok_of_change (Attempt.of_result_eq_ok_iff.mp hmade)
    exact .add task
  | «show» id =>
    obtain ⟨task, hget, hdone⟩ := Attempt.bind_result_eq_ok_iff.mp hdone
    cases Attempt.pure_result_eq_ok_iff.mp hdone
    exact .show (Attempt.of_result_eq_ok_iff.mp hget)
  | update id changes =>
    obtain ⟨old, hget, hdone⟩ := Attempt.bind_result_eq_ok_iff.mp hdone
    obtain ⟨task, hsettled, hdone⟩ := Attempt.bind_result_eq_ok_iff.mp hdone
    obtain ⟨made, hmade, hdone⟩ := Attempt.bind_result_eq_ok_iff.mp hdone
    obtain ⟨_, _, hdone⟩ := Attempt.bind_result_eq_ok_iff.mp hdone
    cases Attempt.pure_result_eq_ok_iff.mp hdone
    exact .update (Attempt.of_result_eq_ok_iff.mp hget) (Attempt.of_result_eq_ok_iff.mp hsettled)
      (Database.eq_ok_of_change (Attempt.of_result_eq_ok_iff.mp hmade))
  | delete id =>
    obtain ⟨made, hmade, hdone⟩ := Attempt.bind_result_eq_ok_iff.mp hdone
    cases Attempt.pure_result_eq_ok_iff.mp hdone
    exact .delete (Database.eq_ok_of_change (Attempt.of_result_eq_ok_iff.mp hmade))
  | complete id =>
    obtain ⟨task, hget, hdone⟩ := Attempt.bind_result_eq_ok_iff.mp hdone
    obtain ⟨completion, hcomplete, hdone⟩ := Attempt.bind_result_eq_ok_iff.mp hdone
    obtain ⟨_, _, hdone⟩ := Attempt.bind_result_eq_ok_iff.mp hdone
    obtain ⟨made, hmade, hdone⟩ := Attempt.bind_result_eq_ok_iff.mp hdone
    cases Attempt.pure_result_eq_ok_iff.mp hdone
    have hget := Attempt.of_result_eq_ok_iff.mp hget
    have hcomplete := Attempt.of_result_eq_ok_iff.mp hcomplete
    have hchange := Database.eq_ok_of_change (Attempt.of_result_eq_ok_iff.mp hmade)
    cases completion with
    | remove => exact .remove hget hcomplete hchange
    | reschedule date => exact .reschedule hget hcomplete hchange
  | list search =>
    obtain ⟨_, _, hdone⟩ := Attempt.bind_result_eq_ok_iff.mp hdone
    obtain ⟨tasks, hlist, hdone⟩ := Attempt.bind_result_eq_ok_iff.mp hdone
    obtain ⟨_, _, hdone⟩ := Attempt.bind_result_eq_ok_iff.mp hdone
    cases Attempt.pure_result_eq_ok_iff.mp hdone
    exact .list (Attempt.of_result_eq_ok_iff.mp hlist)

/-- What performing a command in a workspace makes of that, and comes to. -/
inductive Performs (session : Session) (w : Workspace) : Command → Workspace → Except Failure Answer → Prop
  | failed {command : Command} {after : Workspace} (failure : Failure)
      (hkeeps : w.Keeps (Database.IsBeside (w.databaseAt? session.database)) after) :
      Performs session w command after (.error failure)
  | nextDate (now : Option String) (date rule found : String) :
      Performs session w (.nextDate now date rule) w (.ok (.nextDate found))
  | checkRule (text : String) (rule : Rule) :
      Performs session w (.checkRule text) w (.ok (.checked rule))
  | carried {command : Command} {order : Order} {opened : Workspace} {database : Database}
      {changed : Option Store} {answer : Answer}
      (hopens : w.Opens (w.databaseAt? session.database) (opened, .ok database))
      (hprepares : Prepares session.today command order)
      (hcarries : Carries session.today session.config.searchLimit database.store order changed answer) :
      Performs session w command (keep opened database changed) (.ok answer)

/-- Whatever a command does in a workspace is one of the cases of performing it. -/
theorem performs (session : Session) (w : Workspace) (command : Command) :
    Performs session w command (session.perform w command).1 (session.perform w command).2.result := by
  unfold perform
  dsimp only
  split
  · exact .failed _ .refl
  · rename_i answer hprepared
    rcases of_prepare_eq_answer hprepared with ⟨now, date, rule, found, rfl, rfl⟩ | ⟨text, rule, rfl, rfl⟩
    · exact .nextDate now date rule found
    · exact .checkRule text rule
  · rename_i order hprepared
    have hopens := Workspace.opens_openDatabase w session.database
    split
    · rename_i hopened
      rw [hopened] at hopens
      exact .failed _ hopens.keeps
    · rename_i database hopened
      rw [hopened] at hopens
      split
      · exact .failed _ hopens.keeps
      · rename_i hdone
        exact .carried hopens (prepares_of_prepare hprepared) (carries_of_carryOut hdone)

end Session

namespace Workspace

variable {P : Content → Prop} {lost : Location → Prop} {w w' : Workspace}

/-- Whether a property holds of what all tasks in a workspace say. -/
def Holds (P : Content → Prop) (w : Workspace) : Prop :=
  ∀ location store, w.store? location = some store → store.Holds P

/-- A property holds all over a workspace exactly if it holds of the tasks at every place, also where there are
none. -/
theorem holds_iff : w.Holds P ↔ ∀ location, (w.tasks location).Holds P := by
  constructor
  · intro hw location
    cases hstore : w.store? location with
    | none =>
      rw [tasks, hstore]
      exact Store.holds_empty
    | some store =>
      rw [tasks, hstore]
      exact hw location store hstore
  · intro hw location store hstore
    have htasks := hw location
    rwa [tasks, hstore] at htasks

theorem holds_of_none (hnone : ∀ location, w.store? location = none) : w.Holds P := by
  intro location store hstore
  rw [hnone location] at hstore
  cases hstore

/-- What holds all over a workspace holds of any part of its stores. -/
theorem Holds.of_subset (hw : w.Holds P)
    (hkept : ∀ location store, w'.store? location = some store → w.store? location = some store) :
    w'.Holds P :=
  fun location store hstore => hw location store (hkept location store hstore)

private theorem Holds.of_keeps (hw : w.Holds P) (hkeeps : Keeps lost w w') : w'.Holds P := by
  refine holds_iff.mpr fun location => ?_
  rcases hkeeps location with hkept | ⟨_, hempty⟩
  · rw [hkept]
    exact holds_iff.mp hw location
  · rw [hempty]
    exact Store.holds_empty

private theorem Holds.of_isOpen (hw : w.Holds P) {file? : Option Location} {database : Database}
    (hopen : w.IsOpen file? database) : database.store.Holds P := by
  unfold IsOpen at hopen
  split at hopen
  · rw [hopen.2]
    exact Store.holds_empty
  · rw [← hopen.2.2]
    exact holds_iff.mp hw _

/-- Keeping a store of which a property holds leaves it true all over the workspace. -/
theorem Holds.keep (hw : w.Holds P) {file? : Option Location} {database : Database}
    (hopen : w.IsOpen file? database) {store : Store} (hstore : store.Holds P) :
    (w.keep database.place database.access store).Holds P := by
  refine holds_iff.mpr fun location => ?_
  by_cases hlocation : file? = some location
  · rwa [hopen.tasks_keep_self hlocation]
  · rcases hopen.tasks_keep_of_ne hlocation store with hsame | ⟨_, hempty⟩
    · rw [hsame]
      exact holds_iff.mp hw location
    · rw [hempty]
      exact Store.holds_empty

end Workspace

/-- Whether all tasks in a workspace can be made sense of. -/
abbrev Workspace.Sound (w : Workspace) : Prop :=
  w.Holds Content.Sound

/-- A property of contents that all have which are settled on a day, and keep when they are completed. -/
structure Content.Upheld (P : Content → Prop) (today : Date) : Prop where
  settled : ∀ {task settled : Task}, task.settled today = .ok settled → P settled.toContent
  moved : ∀ {task : Task} {date : String}, task.complete today = .ok (.reschedule date) →
    ∀ content : Content, P content → P { content with date := date }

/-- Settling and completing tasks on a day of the years 0 to 9999 leave nothing that cannot be made sense of. -/
theorem Content.upheld_sound {today : Date} (htoday : today.isRepresentable = true) :
    Content.Upheld Content.Sound today where
  settled hsettled := Task.sound_of_settled htoday hsettled
  moved hcomplete _ hcontent := hcontent.withDate (Task.read_of_complete hcomplete)

namespace Session

variable {P : Content → Prop} {session : Session}

/-- What carrying out an order writes into a store was settled or completed before. -/
theorem Carries.holds {today : Date} (hupheld : Content.Upheld P today) {command : Command} {order : Order}
    {limit : Nat} {store changed : Store} {answer : Answer} (hstore : store.Holds P)
    (hprepares : Prepares today command order)
    (hcarries : Carries today limit store order (some changed) answer) : changed.Holds P := by
  cases hcarries with
  | add task =>
    cases hprepares with
    | add hsettled => exact hstore.add (hupheld.settled hsettled)
  | update _ hsettled hupdate => exact hstore.update (hupheld.settled hsettled) hupdate
  | delete hdelete => exact hstore.delete hdelete
  | remove _ _ hdelete => exact hstore.delete hdelete
  | reschedule _ hcomplete hupdate => exact hstore.updateDate (hupheld.moved hcomplete) hupdate

/-- A command upholds such a property all over a workspace, whatever comes of it. -/
theorem holds_of_perform (hupheld : Content.Upheld P session.today) {w : Workspace} (hw : w.Holds P)
    (command : Command) : (session.perform w command).1.Holds P := by
  have hperforms := performs session w command
  generalize (session.perform w command).1 = after, (session.perform w command).2.result = result
    at hperforms
  cases hperforms with
  | failed _ hkeeps => exact hw.of_keeps hkeeps
  | nextDate => exact hw
  | checkRule => exact hw
  | @carried _ order opened database changed answer hopens hprepares hcarries =>
    have hopened : opened.Holds P := hw.of_keeps hopens.keeps
    have hopen := hopens.isOpen database rfl
    cases changed with
    | none => exact hopened
    | some changed => exact hopened.keep hopen (hcarries.holds hupheld (hopened.of_isOpen hopen) hprepares)

end Session

end Daybook
