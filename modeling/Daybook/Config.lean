import Daybook.Toml.Document

namespace Daybook

/-- How answers are written. -/
inductive Format where
  | text
  | json
  deriving DecidableEq

def Format.name : Format → String
  | .text => "text"
  | .json => "json"

/-- The format with a name, compared exactly. -/
def Format.ofName? : String → Option Format
  | "text" => some .text
  | "json" => some .json
  | _ => none

/-- The settings of the planner: where the tasks are kept, how many a listing shows and how answers are
    written. Each of them may be left out of a document. -/
structure Config where
  /-- The file that holds the tasks. -/
  database : String := "scheduler.db"
  /-- The most tasks that a listing shows. -/
  searchLimit : Nat := 50
  /-- The format where none is asked for. -/
  defaultFormat : Format := .text
  deriving DecidableEq

namespace Config

inductive Error where
  /-- The text is no TOML document, or a setting is of the wrong kind. -/
  | unreadable
  | zeroLimit
  | emptyDatabase
  deriving DecidableEq

def Error.message : Error → String
  | .unreadable => "Failed to parse configuration: not a document of settings"
  | .zeroLimit => "Invalid configuration: search_limit must be at least 1"
  | .emptyDatabase => "Invalid configuration: database must not be empty"

/-- Checks the settings: the limit comes before the database. -/
def validate (config : Config) : Except Error Unit :=
  if config.searchLimit = 0 then .error .zeroLimit
  else if config.database.isEmpty then .error .emptyDatabase
  else .ok ()

def textOf? : Toml.Node → Option String
  | .text s => some s
  | _ => none

/-- A setting that is a number and not negative. -/
def limitOf? : Toml.Node → Option Nat
  | .integer n => if 0 ≤ n then some n.toNat else none
  | _ => none

/-- Whether a node has parts and none are there. -/
def isEmptyNode : Toml.Node → Bool
  | .array items => items.isEmpty
  | .inline entries => entries.isEmpty
  | .table _ entries => entries.isEmpty
  | .tables elements => elements.isEmpty
  | _ => false

/-- The format that a table names by its one key, under which nothing may stand. -/
def formatOfEntries? : Toml.Entries → Option Format
  | [(name, node)] => if isEmptyNode node then Format.ofName? name else none
  | _ => none

def formatOf? : Toml.Node → Option Format
  | .text name => Format.ofName? name
  | .inline entries => formatOfEntries? entries
  | .table _ entries => formatOfEntries? entries
  | _ => none

/-- The value of a setting: its default where the entry is missing, none where it is of the wrong
    kind. -/
def setting? {α : Type} (entries : Toml.Entries) (key : String) (default : α)
    (read : Toml.Node → Option α) : Option α :=
  match entries.get? key with
  | some node => read node
  | none => some default

/-- The settings in the entries of a document. -/
def ofEntries? (entries : Toml.Entries) : Option Config := do
  let standard : Config := {}
  let database ← setting? entries "database" standard.database textOf?
  let searchLimit ← setting? entries "search_limit" standard.searchLimit limitOf?
  let defaultFormat ← setting? entries "default_format" standard.defaultFormat formatOf?
  return { database, searchLimit, defaultFormat }

def read (text : String) : Except Error Config := do
  match (Toml.read text).bind ofEntries? with
  | none => .error .unreadable
  | some config =>
    config.validate
    return config

end Config

end Daybook
