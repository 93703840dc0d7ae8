import Daybook.Planner.Answer
import Daybook.Planner.Attempt
import Daybook.Planner.Command
import Daybook.Text.Quoted

namespace Daybook

/-- What a command asks of the store, once it is known to make sense. -/
inductive Order where
  /-- Takes in a task whose date is settled. -/
  | add (task : Task)
  | show (id : TaskId)
  | update (id : TaskId) (changes : Changes)
  | delete (id : TaskId)
  | complete (id : TaskId)
  | list (search : String)

/-- What a command comes to without the store. -/
inductive Prepared where
  | answer (answer : Answer)
  | order (order : Order)

/-- A task that can be stored: it has a title and its date is settled against today. -/
def Task.settled (task : Task) (today : Date) : Except Task.Error Task := do
  task.validate
  let (scheduled, outcome) := task.schedule today
  outcome
  return scheduled

namespace Session

/-- The day that counts as the reference for the next date: the given one, or else today. -/
def reference (session : Session) (now : Option String) : Except Failure Date :=
  match trimmed? now with
  | none => .ok session.today
  | some text => (Date.read text).mapError (.invalidNow text)

def nextDate (session : Session) (now : Option String) (date rule : String) : Attempt Answer := do
  if Text.allBlank date then Attempt.fail .missingDate
  else if Text.allBlank rule then Attempt.fail .missingRule
  else
    let reference ← Attempt.of id (session.reference now)
    Attempt.note "next-date"
      ("now=" ++ reference.compact ++ ", date=" ++ date ++ ", repeat=" ++ rule)
    let next ← Attempt.of .occurrence (Occurrence.nextText reference.start date rule)
    return .nextDate next

def newTask (session : Session) (content : Content) : Attempt Task := do
  let task ← Attempt.of .task (Task.settled { toContent := content } session.today)
  Attempt.note "task" ("Scheduled '" ++ task.title ++ "' on " ++ task.date)
  return task

/-- Does what can be done of a command without the store. -/
def prepare (session : Session) : Command → Attempt Prepared
  | .nextDate now date rule => do return .answer (← session.nextDate now date rule)
  | .addTask content => do return .order (.add (← session.newTask content))
  | .showTask id => do return .order (.show (← Attempt.of .taskId (TaskId.read id)))
  | .updateTask id changes => do
    return .order (.update (← Attempt.of .taskId (TaskId.read id)) changes)
  | .deleteTask id => do return .order (.delete (← Attempt.of .taskId (TaskId.read id)))
  | .completeTask id => do return .order (.complete (← Attempt.of .taskId (TaskId.read id)))
  | .listTasks search => return .order (.list search)
  | .checkRule rule => do
    return .answer (.checked (← Attempt.of (.invalidRule rule) (Rule.read rule)))

/-- What carrying out an order gives: the store after it, if it is one that changes the store, and
    the answer. -/
abbrev Carried := Option Store × Answer

def add (database : Database) (task : Task) : Attempt Carried := do
  let (store, id) := database.store.add task.toContent
  let store ← Attempt.of .change (database.change (.ok store))
  return (store, .added id task.title task.date)

def delete (database : Database) (id : TaskId) : Attempt Carried := do
  let store ← Attempt.of .change (database.change (database.store.delete id))
  return (store, .deleted id)

/-- Changes a task and settles its date again. -/
def update (session : Session) (database : Database) (id : TaskId) (changes : Changes) :
    Attempt Carried := do
  let old ← Attempt.of .store (database.store.get id)
  let task ← Attempt.of .task ((changes.apply old).settled session.today)
  let store ← Attempt.of .change (database.change (database.store.update task))
  Attempt.note "task" ("Task " ++ id.text ++ " now due " ++ task.date)
  return (store, .updated id task)

/-- What is noted of a completion. -/
def completionText : Task.Completion → String
  | .remove => "Remove"
  | .reschedule date => "Reschedule(" ++ Text.quoted date ++ ")"

/-- Removes a task that is done, or moves it to its next date. -/
def complete (session : Session) (database : Database) (id : TaskId) : Attempt Carried := do
  let task ← Attempt.of .store (database.store.get id)
  let completion ← Attempt.of .task (task.complete session.today)
  Attempt.note "task" ("Completing task " ++ id.text ++ ": " ++ completionText completion)
  let store ← Attempt.of .change <| database.change <|
    match completion with
    | .remove => database.store.delete id
    | .reschedule date => database.store.updateDate id date
  return (store, .completed id completion)

/-- Lists tasks, no more than the configuration allows. -/
def list (session : Session) (store : Store) (search : String) : Attempt Carried := do
  let limit := session.config.searchLimit
  Attempt.note "tasks"
    ("Listing up to " ++ Text.ofNat limit ++ " tasks, search: " ++ Text.quoted search)
  let tasks ← Attempt.of .store (store.list limit search)
  Attempt.note "tasks" ("Found " ++ Text.ofNat tasks.length ++ " tasks")
  return (none, .listed search tasks)

def carryOut (session : Session) (database : Database) : Order → Attempt Carried
  | .add task => add database task
  | .show id => do return (none, .shown id (← Attempt.of .store (database.store.get id)))
  | .update id changes => session.update database id changes
  | .delete id => delete database id
  | .complete id => session.complete database id
  | .list search => session.list database.store search

/-- Keeps what carrying out an order has made of the store. -/
def keep (w : Workspace) (database : Database) : Option Store → Workspace
  | some store => w.keep database.place database.access store
  | none => w

/-- Performs a command. A database is opened only for an order, and what that makes of the store is
    kept only where it succeeds. -/
def perform (session : Session) (w : Workspace) (command : Command) :
    Workspace × Attempt Answer :=
  let prepared := session.prepare command
  match prepared.result with
  | .error failure => (w, (Attempt.fail failure).after prepared.notes)
  | .ok (.answer answer) => (w, (pure answer : Attempt Answer).after prepared.notes)
  | .ok (.order order) =>
    match w.openDatabase session.database with
    | (w, .error cause) => (w, (Attempt.fail (.database cause)).after prepared.notes)
    | (w, .ok database) =>
      let done := session.carryOut database order
      match done.result with
      | .error failure => (w, (Attempt.fail failure).after (prepared.notes ++ done.notes))
      | .ok (changed, answer) =>
        (keep w database changed,
          (pure answer : Attempt Answer).after (prepared.notes ++ done.notes))

end Session

end Daybook
