import Daybook.Text.Utf8

namespace Daybook

/-- A part of a path between slashes, such as a name: its bytes. Names that read alike as texts are different
    if their bytes are. -/
abbrev Segment := List Nat

namespace Segment

def ofText (text : String) : Segment :=
  Text.Utf8.ofText text

/-- The segment that leads to the folder it is in. -/
def here : Segment := ofText "."

/-- The segment that leads to the folder above. -/
def up : Segment := ofText ".."

/-- What stands for the root in a location. No name is like it. -/
def root : Segment := ofText "/"

/-- Whether a segment leads nowhere else. -/
def isIdle (segment : Segment) : Bool :=
  segment.isEmpty || segment == here

def maxLength : Nat := 255

/-- Whether a segment is too long for a name. -/
def isTooLong (segment : Segment) : Bool :=
  maxLength < segment.length

end Segment

/-- A path: its bytes. -/
abbrev Path := List Nat

namespace Path

def ofText (text : String) : Path :=
  Text.Utf8.ofText text

/-- A path as a text. Bytes that are no text are stood in for. -/
def text (path : Path) : String :=
  Text.Utf8.toText path

def slash : Nat := '/'.toNat

def segments (path : Path) : List Segment :=
  path.splitOn slash

def ofSegments (segments : List Segment) : Path :=
  List.intercalate [slash] segments

def isAbsolute (path : Path) : Bool :=
  path.head? == some slash

/-- A path that goes on from the end of another. -/
def join (path rest : Path) : Path :=
  if path.getLast? == some slash then path ++ rest else path ++ slash :: rest

def maxLength : Nat := 4095

/-- How many bytes stand before the first byte 0, if there is one. -/
def nulAt? (path : Path) : Option Nat :=
  path.findIdx? (· == 0)

/-- The segments of the folder that a path lies in: the last one that leads somewhere is dropped. -/
def parent (segments : List Segment) : List Segment :=
  ((segments.reverse.dropWhile Segment.isIdle).tail.dropWhile Segment.isIdle).reverse

end Path

/-- Where something is: the names of the folders that lead to it and its own name, from the working
    directory on. A location outside the working directory begins with `..`, once for each level
    above it, or with the root. -/
abbrev Location := List Segment

namespace Location

def root : Location := [Segment.root]

/-- Whether a location is the working directory, a folder above it or the root. -/
def isAnchor (location : Location) : Bool :=
  location == root || location.all (· == Segment.up)

def above (location : Location) : Location :=
  if location == root then location
  else if location.isAnchor then Segment.up :: location
  else location.dropLast

/-- Whether a location is counted from the root. -/
def isAbsolute (location : Location) : Bool :=
  location.head? == some Segment.root

/-- Whether a location is within the working directory. -/
def isInside (location : Location) : Bool :=
  match location with
  | [] => false
  | name :: _ => name != Segment.root && name != Segment.up

def path (location : Location) : Path :=
  if location.isAbsolute then Path.slash :: Path.ofSegments location.tail
  else Path.ofSegments location

/-- The location of a file beside another: its name goes on after the name of that. -/
def beside (location : Location) (ending : String) : Location :=
  match location.getLast? with
  | some name => location.dropLast ++ [name ++ Segment.ofText ending]
  | none => location

/-- Whether the last name of a location is too long. -/
def isTooLong (location : Location) : Bool :=
  location.getLast?.any Segment.isTooLong

/-- The location one segment on, where the segment is a name or `..`. -/
def next (location : Location) (segment : Segment) : Location :=
  if segment == Segment.up then location.above else location ++ [segment]

end Location

/-- The locations that a path leads through, and its own. -/
def Path.trail (path : Path) : List Location :=
  let start : Location := if path.isAbsolute then Location.root else []
  (path.segments.filter fun segment => !Segment.isIdle segment).foldl
    (fun trail segment => (trail.head?.getD start).next segment :: trail) [] |>.reverse

end Daybook
