import Daybook.Store.Search
import Daybook.Task.Basic

namespace Daybook

/-- A task in a store. -/
structure Row extends Content where
  id : TaskId
  deriving DecidableEq

def Row.toTask (row : Row) : Task where
  toContent := row.toContent
  id := some row.id

/-- A store of tasks. Its rows are in the order of their identifiers, none of which is handed out twice, also
    after deletions. -/
structure Store where
  rows : List Row := []
  /-- The last identifier handed out, 0 before the first. -/
  lastId : Nat := 0
  deriving DecidableEq

namespace Store

inductive Error where
  | notFound (id : TaskId)
  | missingId
  /-- The pattern of a search is longer than patterns may be. -/
  | patternTooLong
  deriving DecidableEq

namespace Error

def message : Error → String
  | .notFound id => "Task not found: " ++ id.text
  | .missingId => "Task has no ID"
  | .patternTooLong => "LIKE or GLOB pattern too complex"

/-- The messages of the causes below an error. -/
def causes : Error → List String
  | .patternTooLong => ["Error code 1: SQL error or missing database"]
  | _ => []

end Error

def empty : Store := {}

/-- Whether a task with this identifier is in the store. -/
def has (store : Store) (id : TaskId) : Bool :=
  store.rows.any fun row => row.id == id

/-- Takes a task in under the next identifier. -/
def add (store : Store) (content : Content) : Store × TaskId :=
  let id : TaskId := ⟨store.lastId + 1⟩
  ({ rows := store.rows ++ [{ toContent := content, id := id }], lastId := store.lastId + 1 }, id)

def get (store : Store) (id : TaskId) : Except Error Task :=
  match store.rows.find? fun row => row.id == id with
  | some row => .ok row.toTask
  | none => .error (.notFound id)

/-- Changes what the task with this identifier says. -/
def modify (store : Store) (id : TaskId) (change : Content → Content) : Except Error Store :=
  if store.has id then
    .ok { store with
      rows := store.rows.map fun row =>
        if row.id = id then { row with toContent := change row.toContent } else row }
  else .error (.notFound id)

/-- Overwrites all that a task says. The task names its row by its identifier. -/
def update (store : Store) (task : Task) : Except Error Store :=
  match task.id with
  | some id => store.modify id fun _ => task.toContent
  | none => .error .missingId

def updateDate (store : Store) (id : TaskId) (date : String) : Except Error Store :=
  store.modify id fun content => { content with date := date }

def delete (store : Store) (id : TaskId) : Except Error Store :=
  if store.has id then .ok { store with rows := store.rows.filter fun row => row.id != id }
  else .error (.notFound id)

/-- Rows come in the order of their dates, compared as texts by code points, and rows of one date in
    the order of their identifiers. -/
def comesBefore (a b : Row) : Bool :=
  a.date < b.date || (a.date == b.date && a.id.value ≤ b.id.value)

/-- Puts a row in its place among rows in order. -/
def insertInOrder (row : Row) : List Row → List Row
  | [] => [row]
  | r :: rows => if comesBefore row r then row :: r :: rows else r :: insertInOrder row rows

def inOrder (rows : List Row) : List Row :=
  rows.foldr insertInOrder []

def selects (search : Search) (row : Row) : Bool :=
  match search with
  | .all => true
  | .dated date => row.date == date.compact
  | .containing text =>
    let pattern := Pattern.containing text
    Pattern.acceptsText pattern row.title || Pattern.acceptsText pattern row.comment

/-- Whether a search would compare a pattern that is too long. It compares nothing where no row can
    be listed. -/
def exceedsPattern (store : Store) (limit : Nat) (search : Search) : Bool :=
  match search with
  | .containing text =>
    Pattern.maxBytes < Pattern.byteCount (Pattern.containing text) && !store.rows.isEmpty &&
      limit != 0
  | _ => false

/-- The largest number of tasks that a listing can be limited to. -/
def maxLimit : Nat := 9223372036854775807

/-- The first tasks, as many as the limit allows, of those that the search text selects. -/
def list (store : Store) (limit : Nat) (text : String) : Except Error (List Task) :=
  let search := Search.ofText text
  if store.exceedsPattern limit search then .error .patternTooLong
  else
    .ok (((inOrder (store.rows.filter (selects search))).take (min limit maxLimit)).map Row.toTask)

end Store

end Daybook
