namespace Daybook.Toml

/-- How a table came to be, which decides what may still be added to it. -/
inductive Form where
  /-- A header of its own opened it. -/
  | explicit
  /-- The header of a table below it implied it. -/
  | implied
  /-- A dotted key implied it. -/
  | dotted
  deriving DecidableEq

/-- What stands under a key. -/
inductive Node where
  | text (s : String)
  | integer (n : Int)
  /-- A float, boolean, date or time. -/
  | other
  | array (items : List Node)
  /-- A table between braces, to which nothing can be added. -/
  | inline (entries : List (String × Node))
  | table (form : Form) (entries : List (String × Node))
  /-- An array of tables that headers have opened. -/
  | tables (elements : List (List (String × Node)))

abbrev Entries := List (String × Node)

namespace Entries

def get? (entries : Entries) (key : String) : Option Node :=
  entries.lookup key

def erase (entries : Entries) (key : String) : Entries :=
  entries.filter fun entry => entry.1 != key

/-- The entries with a node under a key, in place of the one that was there. -/
def set (entries : Entries) (key : String) (node : Node) : Entries :=
  entries.erase key ++ [(key, node)]

/-- Changes the table at the end of a header's path. Tables on the way are implied where there are
    none, and an array of tables leads on to its last element. -/
def changeAt {α : Type} (change : Entries → Option (Entries × α)) :
    List String → Entries → Option (Entries × α)
  | [], entries => change entries
  | key :: path, entries =>
    match entries.get? key with
    | none => do
      let (child, a) ← changeAt change path []
      return (entries.set key (.table .implied child), a)
    | some (.table form child) => do
      let (child, a) ← changeAt change path child
      return (entries.set key (.table form child), a)
    | some (.tables elements) => do
      let (child, a) ← changeAt change path (← elements.getLast?)
      return (entries.set key (.tables (elements.dropLast ++ [child])), a)
    | some _ => none

/-- Puts a node under a dotted key. Tables on the way are made where there are none. A table that a
    header opened is not entered this way, and the last table on the way has to come from a dotted
    key too. -/
def put (key : String) (node : Node) : List String → Entries → Option Entries
  | [], entries => if (entries.get? key).isSome then none else some (entries ++ [(key, node)])
  | first :: path, entries =>
    match entries.get? first with
    | none => do
      let child ← put key node path []
      return entries.set first (.table .dotted child)
    | some (.table form child) =>
      if form = .explicit ∨ (path = [] ∧ form ≠ .dotted) then none
      else do
        let child ← put key node path child
        return entries.set first (.table form child)
    | some (.tables elements) =>
      if path = [] then none
      else do
        let child ← put key node path (← elements.getLast?)
        return entries.set first (.tables (elements.dropLast ++ [child]))
    | some _ => none

end Entries

/-- A document while it is read: the tables that are finished, and the one that is open. The open
    table is not among the finished ones. -/
structure Draft where
  finished : Entries := []
  /-- Where the open table belongs; the empty path is that of the document itself. -/
  path : List String := []
  /-- Whether the open table is an element of an array of tables. -/
  isElement : Bool := false
  entries : Entries := []

namespace Draft

/-- The document with the open table in its place. -/
def close (draft : Draft) : Option Entries :=
  match draft.path.getLast? with
  | none => some draft.entries
  | some key =>
    let place := fun (entries : Entries) =>
      if draft.isElement then
        match entries.get? key with
        | none => some (entries.set key (.tables [draft.entries]), ())
        | some (.tables elements) =>
          some (entries.set key (.tables (elements ++ [draft.entries])), ())
        | some _ => none
      else if (entries.get? key).isSome then none
      else some (entries.set key (.table .explicit draft.entries), ())
    (Entries.changeAt place draft.path.dropLast draft.finished).map Prod.fst

/-- Opens the table of a header. A table that was only implied so far is gone on with; any other
    must not be there yet. -/
def openTable (draft : Draft) (path : List String) : Option Draft := do
  let key ← path.getLast?
  let take := fun (entries : Entries) =>
    match entries.get? key with
    | none => some (entries, [])
    | some (.table .implied child) => some (entries.erase key, child)
    | some _ => none
  let (finished, entries) ← Entries.changeAt take path.dropLast (← draft.close)
  return { finished := finished, path := path, isElement := false, entries := entries }

/-- Opens a new element of an array of tables. -/
def openElement (draft : Draft) (path : List String) : Option Draft := do
  let key ← path.getLast?
  let look := fun (entries : Entries) =>
    match entries.get? key with
    | none => some (entries, ())
    | some (.tables _) => some (entries, ())
    | some _ => none
  let (finished, _) ← Entries.changeAt look path.dropLast (← draft.close)
  return { finished := finished, path := path, isElement := true, entries := [] }

/-- Puts a value under a key of the open table. -/
def put (draft : Draft) (keys : List String) (node : Node) : Option Draft := do
  let entries ← Entries.put (← keys.getLast?) node keys.dropLast draft.entries
  return { draft with entries := entries }

end Draft

end Daybook.Toml
