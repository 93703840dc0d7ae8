import Daybook.Text.Numeral
import Daybook.Workspace.Path

namespace Daybook

namespace Address

/-- What may be done with the file of a database. -/
inductive Mode where
  | read
  /-- It is read and written, but not made. -/
  | write
  /-- It is read and written, and made where it is missing. -/
  | create
  /-- There is no file: the store is kept in memory. -/
  | memory
  deriving DecidableEq

def Mode.ofName? : String → Option Mode
  | "ro" => some .read
  | "rw" => some .write
  | "rwc" => some .create
  | "memory" => some .memory
  | _ => none

/-- How far a mode goes. -/
def Mode.reach : Mode → Nat
  | .read => 0
  | .write => 1
  | .create => 2
  | .memory => 0

/-- Whether a mode may be followed by another. None reaches further than the one before it, except
    after that in memory. -/
def Mode.admits (mode next : Mode) : Bool :=
  mode == .memory || next.reach ≤ mode.reach

/-- A way to work with files, and how it keeps others from the file of a database meanwhile. -/
inductive System where
  /-- With locks on the file. -/
  | locks
  /-- With a lock on the file that nobody else shares. -/
  | exclusiveLock
  /-- With something beside the file that stands for a lock. -/
  | lockFile
  /-- Not at all. -/
  | unlocked
  /-- There are no files: what is at a path is kept in memory. -/
  | memory
  deriving DecidableEq

def System.ofName? : String → Option System
  | "unix" => some .locks
  | "unix-excl" => some .exclusiveLock
  | "unix-dotfile" => some .lockFile
  | "unix-none" => some .unlocked
  | "memdb" => some .memory
  | _ => none

inductive Error where
  /-- The URI is one of another host. -/
  | authority (text : String)
  | unknownMode (text : String)
  | refusedMode (text : String)
  | unknownCache (text : String)
  | unknownSystem (text : String)
  deriving DecidableEq

/-- The messages of an error, outermost first. -/
def Error.messages : Error → List String
  | .authority text =>
    ["invalid uri authority: " ++ text, "Error code 1: SQL error or missing database"]
  | .unknownMode text =>
    ["no such access mode: " ++ text, "Error code 1: SQL error or missing database"]
  | .refusedMode text =>
    ["access mode not allowed: " ++ text, "Error code 3: Access permission denied"]
  | .unknownCache text =>
    ["no such cache mode: " ++ text, "Error code 1: SQL error or missing database"]
  | .unknownSystem text =>
    ["no such vfs: " ++ text, "Error code 1: SQL error or missing database"]

end Address

/-- Where a database is, and how it is opened. -/
structure Address where
  path : Path
  mode : Address.Mode := .create
  system : Address.System := .locks
  /-- Names and the bytes of their values. -/
  parameters : List (String × List Nat) := []
  deriving DecidableEq

namespace Address

/-- The bytes of a part of a URI. A percent sign before two digits of base sixteen gives the byte of
    that number; the byte 0 ends the part. -/
def bytes : List Char → List Nat
  | [] => []
  | '%' :: a :: b :: cs =>
    match Text.hexNumber? [a, b] with
    | some 0 => []
    | some byte => byte :: bytes cs
    | none => Text.Utf8.encode '%' ++ bytes (a :: b :: cs)
  | c :: cs => Text.Utf8.encode c ++ bytes cs

/-- A parameter: its name, and its value after an equals sign. -/
def readParameter (cs : List Char) : String × List Nat :=
  (Text.Utf8.toText (bytes (cs.takeWhile (· != '='))), bytes ((cs.dropWhile (· != '=')).drop 1))

/-- The parameters between ampersands. One without a name does not count. -/
def readParameters (cs : List Char) : List (String × List Nat) :=
  ((cs.splitOn '&').map readParameter).filter fun parameter => parameter.1 != ""

/-- A URI without the authority before its path. Only this host can be named there. -/
def withoutAuthority : List Char → Except Error (List Char)
  | '/' :: '/' :: cs =>
    let authority := String.ofList (cs.takeWhile (· != '/'))
    if authority == "" || authority == "localhost" then .ok (cs.dropWhile (· != '/'))
    else .error (.authority authority)
  | cs => .ok cs

/-- Takes the parameter of a name with a value into account. -/
def apply (address : Address) (name value : String) : Except Error Address :=
  match name with
  | "mode" =>
    match Mode.ofName? value with
    | none => .error (.unknownMode value)
    | some mode =>
      if address.mode.admits mode then .ok { address with mode := mode }
      else .error (.refusedMode value)
  | "cache" =>
    if value == "shared" || value == "private" then .ok address else .error (.unknownCache value)
  | _ => .ok address

/-- Takes the system that is asked for last into account. -/
def applySystem (address : Address) : Except Error Address :=
  match address.parameters.reverse.lookup "vfs" with
  | none => .ok address
  | some value =>
    let name := Text.Utf8.toText value
    match System.ofName? name with
    | some system => .ok { address with system := system }
    | none => .error (.unknownSystem name)

/-- The address that a URI gives, from what follows the scheme. What comes after a number sign does
    not count. -/
def ofUri (cs : List Char) : Except Error Address := do
  let cs ← withoutAuthority cs
  let cs := cs.takeWhile (· != '#')
  let parameters := readParameters ((cs.dropWhile (· != '?')).drop 1)
  let plain : Address := { path := bytes (cs.takeWhile (· != '?')), parameters := parameters }
  let address ← parameters.foldlM (fun address parameter =>
    address.apply parameter.1 (Text.Utf8.toText parameter.2)) plain
  address.applySystem

def read (text : String) : Except Error Address :=
  match text.toList with
  | 'f' :: 'i' :: 'l' :: 'e' :: ':' :: cs => ofUri cs
  | _ => .ok { path := Path.ofText text }

/-- The path of a store that is kept in memory. -/
def memoryPath : Path := Path.ofText ":memory:"

/-- Whether the address names no file, so that the store is kept in memory up to the end of the
    run. -/
def isNameless (address : Address) : Bool :=
  address.mode == .memory || address.path.isEmpty || address.path == memoryPath

/-- Whether the value of a parameter is a yes: a word for it, or a number that is not 0 in its lowest
    eight bits and has no more than 31. -/
def isYes (value : String) : Bool :=
  if value.toList.head?.any Char.isDigit then
    (Text.leadingNumber? value.toList).any fun n => n < 2147483648 && n % 256 != 0
  else ["on", "yes", "true"].contains (value.map Char.toLower)

/-- Whether a parameter is given and, where it is given first, it is a yes. -/
def affirms (address : Address) (name : String) : Bool :=
  (address.parameters.lookup name).any fun value => isYes (Text.Utf8.toText value)

/-- Whether the file counts as one that nobody changes. It is not written, and the files beside it
    do not count. -/
def isImmutable (address : Address) : Bool :=
  address.affirms "immutable"

/-- Whether the store may be changed. -/
def isWritable (address : Address) : Bool :=
  address.mode != .read && (address.isNameless || !address.isImmutable)

/-- Whether nothing is locked. -/
def isUnlocked (address : Address) : Bool :=
  address.system == .unlocked || address.affirms "nolock"

/-- Whether a log can be entered. That takes locks that others can see. -/
def hasLogs (address : Address) : Bool :=
  (address.system == .locks || address.system == .exclusiveLock) && !address.isUnlocked

/-- Whether the index of a log is kept in memory. It is where nobody else can look at the log. -/
def hidesIndex (address : Address) : Bool :=
  address.system == .exclusiveLock && address.isWritable

/-- Whether the index of a log is only read. -/
def keepsIndex (address : Address) : Bool :=
  address.affirms "readonly_shm"

/-- The path of the file whose permissions a new file takes. It has to be there. -/
def permissionsOf? (address : Address) : Option Path :=
  address.parameters.lookup "modeof"

end Address

end Daybook
