import Daybook.Store.Basic
import Daybook.Workspace.Path

namespace Daybook

/-- What there is at a location. -/
inductive Entry where
  | folder
  | text (content : String)
  | tasks (store : Store)
  /-- A file with bytes that are no text. -/
  | binary
  /-- A device that is empty and keeps nothing of what is written to it. -/
  | void
  deriving DecidableEq

/-- The folders and files around a working directory. -/
structure Workspace where
  /-- The paths by which the working directory is known from elsewhere, its own before others. -/
  names : List Path := []
  entries : List (Location × Entry) := []

namespace Workspace

/-- Why a path does not lead to what is looked for there. -/
inductive Fault where
  | notFound
  | alreadyThere
  | notFolder
  | isFolder
  | notText
  /-- The path, or a name in it, is longer than paths or names may be. -/
  | nameTooLong
  /-- The path holds the character of number 0, which no name has. -/
  | nulByte
  deriving DecidableEq

def Fault.message : Fault → String
  | .notFound => "No such file or directory (os error 2)"
  | .alreadyThere => "File exists (os error 17)"
  | .notFolder => "Not a directory (os error 20)"
  | .isFolder => "Is a directory (os error 21)"
  | .notText => "stream did not contain valid UTF-8"
  | .nameTooLong => "File name too long (os error 36)"
  | .nulByte => "file name contained an unexpected NUL byte"

/-- What is at a location. The working directory, the folders above it and the root are always
    there. -/
def entry? (w : Workspace) (location : Location) : Option Entry :=
  if location.isAnchor then some .folder else w.entries.lookup location

/-- Puts an entry at a location, in place of the one that is there. -/
def put (w : Workspace) (location : Location) (entry : Entry) : Workspace :=
  { w with entries := (location, entry) :: w.entries.filter fun e => e.1 != location }

/-- Takes away the entry at a location, if there is one. -/
def remove (w : Workspace) (location : Location) : Workspace :=
  { w with entries := w.entries.filter fun e => e.1 != location }

/-- Follows one segment of a path. Only folders can be left by a segment, even by an idle one. -/
def follow (w : Workspace) (location : Location) (segment : Segment) :
    Except Fault Location :=
  match w.entry? location with
  | none => .error .notFound
  | some .folder =>
    if segment.isIdle then .ok location
    else if segment.isTooLong then .error .nameTooLong
    else .ok (location.next segment)
  | some _ => .error .notFolder

/-- Follows segments from a location. What is at the end need not exist. -/
def followAll (w : Workspace) : Location → List Segment → Except Fault Location
  | location, [] => .ok location
  | location, segment :: segments => do
    let next ← w.follow location segment
    w.followAll next segments

/-- The segments of a path after a name of the working directory, if it begins so. -/
def withoutName? (w : Workspace) (segments : List Segment) : Option (List Segment) :=
  let names := w.names.map Path.segments
  (names.find? fun name => name.isPrefixOf segments).map fun name => segments.drop name.length

/-- Where the segments of a path start from, and the segments to follow from there. A path that
    begins with a slash starts from the root. -/
def start (w : Workspace) (segments : List Segment) : Location × List Segment :=
  match w.withoutName? segments with
  | some rest => ([], rest)
  | none =>
    match segments with
    | [] :: rest => (Location.root, rest)
    | segments => ([], segments)

/-- The location that the segments of a path lead to. The empty path leads nowhere. -/
def locateSegments (w : Workspace) (segments : List Segment) : Except Fault Location :=
  let path := Path.ofSegments segments
  if path.isEmpty then .error .notFound
  else if path.nulAt?.isSome then .error .nulByte
  else if Path.maxLength < path.length then .error .nameTooLong
  else
    let (location, rest) := w.start segments
    w.followAll location rest

def locate (w : Workspace) (path : Path) : Except Fault Location :=
  w.locateSegments path.segments

/-- Reads the file at a path as a text. -/
def readText (w : Workspace) (path : Path) : Except Fault String := do
  let location ← w.locate path
  match w.entry? location with
  | none => .error .notFound
  | some .folder => .error .isFolder
  | some (.text content) => .ok content
  | some .void => .ok ""
  | some _ => .error .notText

/-- Whether a path leads to a file or a folder. -/
def isThere (w : Workspace) (path : Path) : Bool :=
  match w.locate path with
  | .ok location => (w.entry? location).isSome
  | .error _ => false

/-- Makes a folder at the end of a path. -/
def makeFolder (w : Workspace) (segments : List Segment) : Except Fault Workspace := do
  let location ← w.locateSegments segments
  if (w.entry? location).isSome then .error .alreadyThere
  else return w.put location .folder

def isFolder (w : Workspace) (segments : List Segment) : Bool :=
  match w.locateSegments segments with
  | .ok location => w.entry? location == some .folder
  | .error _ => false

def ensureFolder (w : Workspace) (segments : List Segment) : Except Fault Workspace :=
  match w.makeFolder segments with
  | .ok made => .ok made
  | .error fault => if w.isFolder segments then .ok w else .error fault

/-- Makes the folder of a path whose segments are given from the last to the first, and the folders
    above it that are missing. Those stay even where a later one cannot be made. -/
def ensureFolders (w : Workspace) : List Segment → Workspace × Except Fault Unit
  | [] => (w, .ok ())
  | segment :: above =>
    match w.ensureFolder (segment :: above).reverse with
    | .ok made => (made, .ok ())
    | .error .notFound =>
      match w.ensureFolders above with
      | (w, .error fault) => (w, .error fault)
      | (w, .ok _) =>
        match w.ensureFolder (segment :: above).reverse with
        | .ok made => (made, .ok ())
        | .error fault => (w, .error fault)
    | .error fault => (w, .error fault)

/-- Puts a text into the file with these names, and the folders above it in place. -/
def addText (w : Workspace) (names : List Segment) (content : String) : Workspace :=
  let folders := (List.range names.length).drop 1
  let w := folders.foldl (fun w n => w.put (names.take n) .folder) w
  w.put names (.text content)

/-- A workspace with texts in files, given by their paths, in a working directory of these names. -/
def ofTexts (names : List String) (texts : List (String × String)) : Workspace :=
  texts.foldl (fun w file => w.addText (Path.ofText file.1).segments file.2)
    { names := names.map Path.ofText }

/-- The paths of the files within the working directory as texts, in order. Each text is there once. -/
def files (w : Workspace) : List String :=
  let inside := w.entries.filter fun e => e.1.isInside && e.2 != .folder
  ((inside.map fun e => e.1.path.text).mergeSort fun a b => decide (a ≤ b)).eraseDups

end Workspace

end Daybook
