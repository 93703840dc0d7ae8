import Daybook.Store.Basic
import Daybook.Task.Written
import Daybook.Text.Line

namespace Daybook.Store

def heading : String := "daybook tasks"

/-- A store as text, the form in which a file keeps one: a heading, the last identifier handed out, and each
    task as JSON on a line of its own. -/
def toText (store : Store) : String :=
  let rows := store.rows.map fun row => row.toTask.toJson.compact
  Text.lines (heading :: Text.ofNat store.lastId :: rows)

def rowOfLine? (text : String) : Option Row :=
  match Task.ofJson text with
  | .ok task => task.id.map fun id => { toContent := task.toContent, id := id }
  | .error _ => none

def ofText? (text : String) : Option Store :=
  match text.toList.splitOn '\n' with
  | first :: lastId :: rows =>
    if first = heading.toList then do
      let lastId ← Text.readNat? lastId
      let rows ← (rows.filter fun row => !row.isEmpty).mapM fun row => rowOfLine? (String.ofList row)
      return { rows := rows, lastId := lastId }
    else none
  | _ => none

end Daybook.Store
