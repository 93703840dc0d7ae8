import Daybook.Toml.Scalar

namespace Daybook.Toml

/-- The levels of brackets and braces that a value may have. -/
def maxDepth : Nat := 79

/-- The parts that a key may have. -/
def maxKeyParts : Nat := 79

/-- Drops a comment up to the end of its line. -/
def skipComment (cs : List Char) : List Char :=
  match cs with
  | '#' :: rest => rest.dropWhile isTextChar
  | cs => cs

/-- Passes over the end of a line, with a comment before it or not. The text may end there. -/
def lineEnd? (cs : List Char) : Option (List Char) :=
  match skipComment (skipSpace cs) with
  | [] => some []
  | '\n' :: rest => some rest
  | '\r' :: '\n' :: rest => some rest
  | _ => none

/-- Passes over blanks, line ends and comments within an array. -/
def skipLines : Nat → List Char → List Char
  | 0, cs => cs
  | fuel + 1, cs =>
    match skipSpace cs with
    | '\n' :: rest => skipLines fuel rest
    | '\r' :: '\n' :: rest => skipLines fuel rest
    | '#' :: rest =>
      match rest.dropWhile isTextChar with
      | '\n' :: rest => skipLines fuel rest
      | '\r' :: '\n' :: rest => skipLines fuel rest
      | _ => '#' :: rest
    | rest => rest

/-- Whether a character may stand in a key without quotes. -/
def isKeyChar (c : Char) : Bool :=
  c.isAlphanum || c == '_' || c == '-'

/-- Takes one part of a key off the front. -/
def keyPart? (cs : List Char) : Option (String × List Char) :=
  match cs with
  | '"' :: rest => (basicBody? rest).map fun (body, rest) => (String.ofList body, rest)
  | '\'' :: rest => (literalBody? rest).map fun (body, rest) => (String.ofList body, rest)
  | cs =>
    let body := cs.takeWhile isKeyChar
    if body.isEmpty then none else some (String.ofList body, cs.dropWhile isKeyChar)

/-- Takes the parts of a key off the front, with blanks around each or not. -/
def keyParts? : Nat → List Char → Option (List String × List Char)
  | 0, _ => none
  | fuel + 1, cs => do
    let (part, rest) ← keyPart? (skipSpace cs)
    match skipSpace rest with
    | '.' :: rest =>
      let (parts, rest) ← keyParts? fuel rest
      return (part :: parts, rest)
    | rest => return ([part], rest)

def key? (cs : List Char) : Option (List String × List Char) :=
  (keyParts? (cs.length + 1) cs).filter fun (parts, _) => parts.length ≤ maxKeyParts

/-- The items of an array and its closing bracket. A comma may stand after the last item. -/
def items? (item : List Char → Option (Node × List Char)) :
    Nat → List Char → Option (List Node × List Char)
  | 0, _ => none
  | fuel + 1, cs =>
    match skipLines cs.length cs with
    | ']' :: rest => some ([], rest)
    | cs => do
      let (node, rest) ← item cs
      match skipLines rest.length rest with
      | ',' :: rest =>
        let (nodes, rest) ← items? item fuel rest
        return (node :: nodes, rest)
      | ']' :: rest => return ([node], rest)
      | _ => none

/-- Takes a key, the equals sign and a value off the front. -/
def pair? (item : List Char → Option (Node × List Char)) (cs : List Char) :
    Option (List String × Node × List Char) := do
  let (key, rest) ← key? cs
  match rest with
  | '=' :: rest =>
    let (node, rest) ← item (skipSpace rest)
    return (key, node, rest)
  | _ => none

/-- The entries between braces and the closing brace, put into a table one by one. They stand on one
    line, and no comma stands after the last. -/
def pairs? (item : List Char → Option (Node × List Char)) :
    Nat → Entries → List Char → Option (Entries × List Char)
  | 0, _, _ => none
  | fuel + 1, entries, cs => do
    let (key, node, rest) ← pair? item cs
    let entries ← Entries.put (← key.getLast?) node key.dropLast entries
    match skipSpace rest with
    | ',' :: rest => pairs? item fuel entries rest
    | '\x7d' :: rest => return (entries, rest)
    | _ => none

/-- Takes a value off the front, with so many levels of brackets and braces at most. -/
def value? : Nat → List Char → Option (Node × List Char)
  | 0, cs => scalar? cs
  | depth + 1, cs =>
    match cs with
    | '[' :: rest =>
      (items? (value? depth) (rest.length + 1) rest).map fun (nodes, rest) => (.array nodes, rest)
    | '\x7b' :: rest =>
      match skipSpace rest with
      | '\x7d' :: rest => some (.inline [], rest)
      | rest =>
        (pairs? (value? depth) (rest.length + 1) [] rest).map fun (entries, rest) =>
          (.inline entries, rest)
    | cs => scalar? cs

/-- Reads the lines of a document into a draft. -/
def lines? : Nat → Draft → List Char → Option Draft
  | 0, _, _ => none
  | fuel + 1, draft, cs =>
    match skipSpace cs with
    | [] => some draft
    | '\n' :: rest => lines? fuel draft rest
    | '\r' :: '\n' :: rest => lines? fuel draft rest
    | '#' :: rest => do lines? fuel draft (← lineEnd? ('#' :: rest))
    | '[' :: '[' :: rest => do
      let (key, rest) ← key? rest
      match rest with
      | ']' :: ']' :: rest => lines? fuel (← draft.openElement key) (← lineEnd? rest)
      | _ => none
    | '[' :: rest => do
      let (key, rest) ← key? rest
      match rest with
      | ']' :: rest => lines? fuel (← draft.openTable key) (← lineEnd? rest)
      | _ => none
    | cs => do
      let (key, node, rest) ← pair? (value? maxDepth) cs
      lines? fuel (← draft.put key node) (← lineEnd? rest)

/-- Reads a document. A byte order mark may stand at its start. -/
def read (text : String) : Option Entries := do
  let cs := match text.toList with
    | '\uFEFF' :: rest => rest
    | cs => cs
  let draft ← lines? (cs.length + 1) {} cs
  draft.close

end Daybook.Toml
