import Daybook.Workspace.Log

namespace Daybook

namespace Database

inductive Error where
  /-- The folder that it lies in cannot be made. -/
  | folder (path : String) (cause : Workspace.Fault)
  /-- Its path holds the byte 0, after so many bytes. -/
  | nulByte (path : String) (position : Nat)
  /-- Its path is a URI that gives no address. -/
  | address (path : String) (cause : Address.Error)
  /-- There is no file at its path and none can be made. -/
  | notFile (path : String)
  /-- There is a folder at its path, to be read. -/
  | unreadable (path : String)
  /-- The file whose permissions it takes is not there. -/
  | noPermissions (path : String)
  /-- Its file cannot be worked with. -/
  | file (cause : Obstacle)
  /-- No store can be begun in its file. -/
  | schema (cause : Obstacle)
  deriving DecidableEq

/-- What is said where a database cannot be opened. -/
def notOpened (path : String) : String :=
  "Failed to open task database: " ++ path

/-- The messages of an error, outermost first. -/
def Error.messages : Error → List String
  | .folder path cause => ["Failed to create directory: " ++ path, cause.message]
  | .nulByte path position =>
    let message := "nul byte found in provided data at position: " ++ Text.ofNat position
    [notOpened path, message, message]
  | .address path cause => notOpened path :: cause.messages
  | .notFile path =>
    [notOpened path, "unable to open database file: " ++ path,
      "Error code 14: Unable to open the database file"]
  | .unreadable path => notOpened path :: Obstacle.cannotRead.messages
  | .noPermissions path =>
    [notOpened path, "disk I/O error",
      "Error code 1802: Error invoking fstat to get file metadata"]
  | .file cause => cause.messages
  | .schema cause => "Failed to create task schema" :: cause.messages

/-- Where an open store is kept. -/
inductive Place where
  /-- In memory, up to the end of the run. -/
  | memory
  | file (location : Location)
  deriving DecidableEq

inductive ChangeError where
  | store (cause : Store.Error)
  /-- The file of the store cannot be changed. -/
  | file (cause : Obstacle)
  deriving DecidableEq

/-- The messages of an error, outermost first. -/
def ChangeError.messages : ChangeError → List String
  | .store cause => cause.message :: cause.causes
  | .file cause => cause.messages

end Database

structure Database where
  place : Database.Place
  store : Store
  access : Database.Access

namespace Database

/-- The store after a change. Where it can only be read the change is refused, whatever it would come
    to; where a journal is missing, only a change that the store admits. -/
def change (database : Database) (changed : Except Store.Error Store) : Except ChangeError Store :=
  match database.access, changed with
  | .readOnly, _ => .error (.file .readOnly)
  | _, .error cause => .error (.store cause)
  | .unjournaled, .ok _ => .error (.file .cannotOpen)
  | _, .ok store => .ok store

end Database

/-- Whether an entry is a file without a store: one of at most one byte. -/
def Entry.isBlankFile : Entry → Bool
  | .text content => content.utf8ByteSize ≤ 1
  | .void => true
  | _ => false

namespace Path

/-- The most bytes that the path of a database may have, counted from the root. -/
def maxDatabase : Nat := 504

/-- The most bytes that the path of a database in memory may have. -/
def maxMemory : Nat := 1016

end Path

namespace Workspace

/-- The location that segments of a path name. Idle segments are passed over, and `..` takes back the
    name before it whether or not there is a folder of that name. A name below a file leads nowhere,
    nor does one that is too long. -/
def resolve (w : Workspace) : Location → List Segment → Option Location
  | location, [] => some location
  | location, segment :: segments =>
    if segment.isIdle then w.resolve location segments
    else if segment == Segment.up then w.resolve location.above segments
    else
      match w.follow location segment with
      | .ok next => w.resolve next segments
      | .error .notFound => w.resolve (location ++ [segment]) segments
      | .error _ => none

/-- The path of a location from the root, as far as it is known. -/
def fullPath (w : Workspace) (location : Location) : Path :=
  if location.isAbsolute then location.path else (w.names.headD []).join location.path

/-- The location of the database at a path. The root is none. -/
def locateDatabase (w : Workspace) (path : Path) : Option Location :=
  let (location, rest) := w.start path.segments
  (w.resolve location rest).filter fun location =>
    location != Location.root && (w.fullPath location).length ≤ Path.maxDatabase

/-- Keeps a store at its place. With a journal, that of the change is removed at its end. -/
def keep (w : Workspace) (place : Database.Place) (access : Database.Access) (store : Store) :
    Workspace :=
  match place with
  | .memory => w
  | .file location =>
    let w := if access = .journaled then w.remove (Database.journal location) else w
    w.put location (.tasks store)

/-- What keeps a store from being begun in the file at a location. -/
def beginObstacle? (w : Workspace) (access : Database.Access) (location : Location) :
    Option Database.Obstacle :=
  match access with
  | .readOnly => some .readOnly
  | .unjournaled => some .cannotOpen
  | _ => if w.entry? location == some .void then some .cannotFlush else none

/-- Begins a store in the file at a location. -/
def beginFile (w : Workspace) (access : Database.Access) (location : Location) :
    Workspace × Except Database.Error Database :=
  match w.beginObstacle? access location with
  | some obstacle => (w, .error (.schema obstacle))
  | none =>
    (w.keep (.file location) access .empty,
      .ok { place := .file location, store := .empty, access := access })

def beginInMemory (address : Address) : Except Database.Error Database :=
  if address.isWritable then .ok { place := .memory, store := .empty, access := .journaled }
  else .error (.schema .readOnly)

/-- Opens the database in the file at a location. -/
def openFile (w : Workspace) (address : Address) (location : Location) :
    Workspace × Except Database.Error Database :=
  let isBlank := (w.entry? location).any Entry.isBlankFile
  let (w, settled) :=
    if address.isImmutable then (w, .ok .readOnly) else w.settle address location isBlank
  match settled, w.entry? location with
  | .error obstacle, _ => (w, .error (.file obstacle))
  | .ok access, some (.tasks store) =>
    (w, .ok { place := .file location, store := store, access := access })
  | .ok access, _ =>
    if isBlank then w.beginFile access location else (w, .error (.file .notDatabase))

/-- Opens the database at a location. The path is the one by which it is asked for. -/
def openAt (w : Workspace) (path : String) (address : Address) (location : Location) :
    Workspace × Except Database.Error Database :=
  if address.permissionsOf?.any fun file => !w.isThere file then (w, .error (.noPermissions path))
  else
    match w.entry? location with
    | some .folder =>
      (w, .error (if address.mode == .read then .unreadable path else .notFile path))
    | some _ => w.openFile address location
    | none =>
      if address.mode == .create && w.entry? location.above == some .folder then
        (w.put location (.text "")).openFile address location
      else (w, .error (.notFile path))

def openAddress (w : Workspace) (path : String) (address : Address) :
    Workspace × Except Database.Error Database :=
  if address.isNameless then (w, beginInMemory address)
  else if address.system == .memory then
    if address.path.length ≤ Path.maxMemory then (w, beginInMemory address)
    else (w, .error (.notFile path))
  else
    match w.locateDatabase address.path with
    | some location => w.openAt path address location
    | none => (w, .error (.notFile path))

/-- Opens the database at a path. The folders that lead to it are made first. -/
def openDatabase (w : Workspace) (text : String) : Workspace × Except Database.Error Database :=
  let path := Path.ofText text
  let parent := Path.parent path.segments
  match w.ensureFolders parent.reverse with
  | (w, .error fault) => (w, .error (.folder (Path.ofSegments parent).text fault))
  | (w, .ok _) =>
    match path.nulAt?, Address.read text with
    | some position, _ => (w, .error (.nulByte text position))
    | none, .error cause => (w, .error (.address text cause))
    | none, .ok address => w.openAddress text address

/-- The store in the database at a location. -/
def store? (w : Workspace) (location : Location) : Option Store :=
  match w.entry? location with
  | some (.tasks store) => some store
  | _ => none

end Workspace

end Daybook
