import Daybook.Json.Scan
import Daybook.Task.Basic

namespace Daybook

namespace Task

/-- The members of a task's object. The identifier is left out before there is one. -/
def members (task : Task) : List (String × Json) :=
  (match task.id with
    | some id => [("id", .str id.text)]
    | none => []) ++
  [("date", .str task.date), ("title", .str task.title), ("comment", .str task.comment),
    ("repeat", .str task.repeatRule)]

def toJson (task : Task) : Json :=
  .obj task.members

/-- The fields of a task in their order. -/
inductive Field where
  | id
  | date
  | title
  | comment
  | repeatRule
  deriving DecidableEq

def Field.ofKey? : String → Option Field
  | "id" => some .id
  | "date" => some .date
  | "title" => some .title
  | "comment" => some .comment
  | "repeat" => some .repeatRule
  | _ => none

def readText (cs : List Char) : Except (Json.Error TaskId.Error) (String × List Char) :=
  Json.orMalformed (Json.string? (Json.skipSpace cs))

/-- Reads an identifier, which is a string or null. -/
def readId (cs : List Char) : Except (Json.Error TaskId.Error) (Option TaskId × List Char) :=
  match Json.skipSpace cs with
  | 'n' :: rest => do
    let rest ← Json.orMalformed (Json.skipExact? ['u', 'l', 'l'] rest)
    return (none, rest)
  | cs => do
    let (text, rest) ← Json.orMalformed (Json.string? cs)
    let id ← (TaskId.read text).mapError .refused
    return (some id, rest)

/-- Reads the value of a field into a task. -/
def readField (task : Task) (field : Field) (cs : List Char) :
    Except (Json.Error TaskId.Error) (Task × List Char) :=
  match field with
  | .id => do
    let (id, rest) ← readId cs
    return ({ task with id := id }, rest)
  | .date => do
    let (text, rest) ← readText cs
    return ({ task with date := text }, rest)
  | .title => do
    let (text, rest) ← readText cs
    return ({ task with title := text }, rest)
  | .comment => do
    let (text, rest) ← readText cs
    return ({ task with comment := text }, rest)
  | .repeatRule => do
    let (text, rest) ← readText cs
    return ({ task with repeatRule := text }, rest)

/-- Reads the members of an object and its closing brace. A field may be given once; members that
    are no fields are passed over. -/
def readMembers : Nat → List Field → Task → List Char →
    Except (Json.Error TaskId.Error) (Task × List Char)
  | 0, _, _, _ => .error .malformed
  | fuel + 1, seen, task, cs => do
    let (key, rest) ← readText cs
    match Json.skipSpace rest with
    | ':' :: rest =>
      let (seen, task, rest) ← match Field.ofKey? key with
        | some field =>
          if field ∈ seen then .error .malformed
          else do
            let (task, rest) ← readField task field rest
            pure (field :: seen, task, rest)
        | none => do
          let rest ← Json.orMalformed (Json.skipValue? rest)
          pure (seen, task, rest)
      match Json.skipSpace rest with
      | ',' :: rest => readMembers fuel seen task rest
      | '\x7d' :: rest => return (task, rest)
      | _ => .error .malformed
    | _ => .error .malformed

/-- Reads the items of an array and its closing bracket, one for each of the fields in order. -/
def readItems : List Field → Task → List Char →
    Except (Json.Error TaskId.Error) (Task × List Char)
  | [], _, _ => .error .malformed
  | field :: fields, task, cs => do
    let (task, rest) ← readField task field cs
    match Json.skipSpace rest with
    | ',' :: rest => readItems fields task rest
    | ']' :: rest => return (task, rest)
    | _ => .error .malformed

/-- Reads the value of a task and gives what is left of the text. -/
def readValue (cs : List Char) : Except (Json.Error TaskId.Error) (Task × List Char) :=
  match Json.skipSpace cs with
  | '\x7b' :: rest =>
    match Json.skipSpace rest with
    | '\x7d' :: rest => .ok ({}, rest)
    | rest => readMembers rest.length [] {} rest
  | '[' :: rest =>
    match Json.skipSpace rest with
    | ']' :: rest => .ok ({}, rest)
    | rest => readItems [.id, .date, .title, .comment, .repeatRule] {} rest
  | _ => .error .malformed

/-- Reads a JSON text that holds a task and nothing else: an object with members in any order, or an array with
    the fields in order. What is wrong is found in the order of the text. -/
def ofJson (text : String) : Except (Json.Error TaskId.Error) Task := do
  let (task, rest) ← readValue text.toList
  if (Json.skipSpace rest).isEmpty then return task else .error .malformed

end Task

/-- A rule as JSON, the string of its canonical text. -/
def Rule.toJson (rule : Rule) : Json :=
  .str rule.text

/-- Reads a JSON text that holds a rule and nothing else. -/
def Rule.ofJson (text : String) : Except (Json.Error Rule.Error) Rule := do
  let (text, rest) ← Json.orMalformed (Json.string? (Json.skipSpace text.toList))
  let rule ← (Rule.read text).mapError .refused
  if (Json.skipSpace rest).isEmpty then return rule else .error .malformed

/-- An identifier as JSON, the string of its number. -/
def TaskId.toJson (id : TaskId) : Json :=
  .str id.text

end Daybook
