import Daybook.Store.Basic

namespace Daybook

/-- A store and where it is kept. What is kept in memory is gone when the store is closed. -/
structure Shelf where
  inFile : Bool
  store : Store := {}

inductive Store.Operation where
  | add (task : Task)
  | get (id : TaskId)
  | update (task : Task)
  | updateDate (id : TaskId) (date : String)
  | delete (id : TaskId)
  | list (limit : Nat) (search : String)
  /-- Asks whether the store is kept in a file. -/
  | path
  /-- Closes the store and opens it again. -/
  | reopen

inductive Store.Answer where
  | added (id : TaskId)
  | found (task : Task)
  | listed (tasks : List Task)
  | location (inFile : Bool)
  | done
  | refused (error : Store.Error)

namespace Shelf

/-- The shelf and the answer after a change of its store. A refused change leaves it as it is. -/
def change (shelf : Shelf) : Except Store.Error Store → Shelf × Store.Answer
  | .ok store => ({ shelf with store := store }, .done)
  | .error error => (shelf, .refused error)

def step (shelf : Shelf) : Store.Operation → Shelf × Store.Answer
  | .add task =>
    let (store, id) := shelf.store.add task.toContent
    ({ shelf with store := store }, .added id)
  | .get id =>
    match shelf.store.get id with
    | .ok task => (shelf, .found task)
    | .error error => (shelf, .refused error)
  | .update task => shelf.change (shelf.store.update task)
  | .updateDate id date => shelf.change (shelf.store.updateDate id date)
  | .delete id => shelf.change (shelf.store.delete id)
  | .list limit search =>
    match shelf.store.list limit search with
    | .ok tasks => (shelf, .listed tasks)
    | .error error => (shelf, .refused error)
  | .path => (shelf, .location shelf.inFile)
  | .reopen => (if shelf.inFile then shelf else { shelf with store := .empty }, .done)

/-- Performs operations in order and gives their answers. -/
def run : Shelf → List Store.Operation → Shelf × List Store.Answer
  | shelf, [] => (shelf, [])
  | shelf, operation :: operations =>
    let (next, answer) := shelf.step operation
    let (last, answers) := next.run operations
    (last, answer :: answers)

end Shelf

end Daybook
