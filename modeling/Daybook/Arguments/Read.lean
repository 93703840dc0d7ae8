import Daybook.Arguments.Level
import Daybook.Planner.Command

namespace Daybook.Arguments

/-- A word of the command line by its dashes. -/
inductive Word where
  /-- The two dashes after which all words are operands. -/
  | dashes
  /-- An option by name, with the value after an equals sign. -/
  | named (name : String) (value : Option String)
  /-- Options by letter, with a value after them or not. -/
  | lettered (letters : List Char)
  | plain (text : String)
  deriving DecidableEq

/-- The name and the value on the two sides of the first equals sign. -/
def splitValue (cs : List Char) : List Char × Option String :=
  match cs.dropWhile (· != '=') with
  | [] => (cs, none)
  | _ :: value => (cs.takeWhile (· != '='), some (String.ofList value))

/-- What a word is. A single dash is plain. -/
def Word.ofText (text : String) : Word :=
  match text.toList with
  | ['-', '-'] => .dashes
  | '-' :: '-' :: cs => .named (String.ofList (splitValue cs).1) (splitValue cs).2
  | ['-'] => .plain text
  | '-' :: letters => .lettered letters
  | _ => .plain text

/-- Why reading stops, which it does at the first word that is wrong and where help or the version is asked
    for. -/
inductive Stop where
  /-- The words are not a command. -/
  | refused
  | help
  /-- The version is asked for, at a level. -/
  | version (level : Level)
  deriving DecidableEq

/-- What has been read at a level. -/
structure Scan where
  level : Level
  given : List (Setting × String) := []
  /-- The last option, while it is not settled, and its value, once it has one. -/
  held : Option (Setting × Option String) := none
  operand : Option String := none
  /-- Whether two dashes have been read. -/
  closed : Bool := false

namespace Scan

def value? (scan : Scan) (setting : Setting) : Option String :=
  scan.given.lookup setting

/-- Whether the next word is the value of an option, unless it begins with a dash. -/
def awaits (scan : Scan) : Bool :=
  match scan.held with
  | some (_, none) => true
  | _ => false

/-- Takes an option over. None is given twice at a level. -/
def give (scan : Scan) (setting : Setting) (value : String) : Except Stop Scan :=
  if (scan.value? setting).isNone && setting.accepts value then
    .ok { scan with given := (setting, value) :: scan.given }
  else .error .refused

/-- Settles the option that is held: takes it over, once the next word of its level or the end of the level
    shows that it is complete. -/
def settle (scan : Scan) : Except Stop Scan :=
  match scan.held with
  | none => .ok scan
  | some (_, none) => .error .refused
  | some (setting, some value) => { scan with held := none }.give setting value

/-- Reads an option without a value. -/
def readSwitch (scan : Scan) (setting : Setting) : Except Stop Scan := do
  let scan ← scan.settle
  match setting with
  | .help => .error .help
  | .version => .error (.version scan.level)
  | setting => scan.give setting ""

/-- Reads an option with a value that is joined to it, or is to come. -/
def readOption (scan : Scan) (setting : Setting) (value : Option String) : Except Stop Scan := do
  let scan ← scan.settle
  match value with
  | some value => scan.give setting value
  | none => return { scan with held := some (setting, none) }

/-- Reads an option by its name. A switch has no value. -/
def readNamed (scan : Scan) (name : String) (value : Option String) : Except Stop Scan :=
  match scan.level.named? name with
  | none => .error .refused
  | some setting =>
    if setting.isSwitch then
      if value.isSome then .error .refused else scan.readSwitch setting
    else scan.readOption setting value

/-- The value that is joined to a letter. An equals sign before it does not count. -/
def joined? : List Char → Option String
  | [] => none
  | '=' :: value => some (String.ofList value)
  | value => some (String.ofList value)

/-- Reads options by their letters. After an option that takes a value comes its value. -/
def readLetters : List Char → Scan → Except Stop Scan
  | [], scan => .ok scan
  | letter :: letters, scan =>
    match scan.level.lettered? letter with
    | none => .error .refused
    | some setting =>
      if setting.isSwitch then do
        let scan ← scan.readSwitch setting
        readLetters letters scan
      else scan.readOption setting (joined? letters)

def readOperand (scan : Scan) (text : String) : Except Stop Scan := do
  let scan ← scan.settle
  if scan.level.hasOperand && scan.operand.isNone then return { scan with operand := some text }
  else .error .refused

/-- Reads a word that opens no level. -/
def readWord (scan : Scan) (text : String) : Except Stop Scan :=
  if scan.closed then scan.readOperand text
  else
    match Word.ofText text with
    | .dashes => .ok { scan with closed := true }
    | .named name value => scan.readNamed name value
    | .lettered letters => readLetters letters scan
    | .plain text =>
      match scan.held with
      | some (setting, none) => .ok { scan with held := some (setting, some text) }
      | _ => scan.readOperand text

def opens? (scan : Scan) (text : String) : Option Level :=
  if scan.closed || scan.awaits then none else scan.level.child? text

/-- Whether a word asks for help on what the words after it name. -/
def asksHelp (scan : Scan) (text : String) : Bool :=
  !scan.closed && !scan.awaits && scan.level.isGroup && text == "help"

end Scan

/-- Reads the words of a level and of those below it. The levels are given from the outermost on. -/
def readLevel (scan : Scan) : List String → Except Stop (List Scan)
  | [] => do return [← scan.settle]
  | text :: texts =>
    match scan.opens? text with
    | some level => do
      let below ← readLevel { level := level } texts
      return (← scan.settle) :: below
    | none =>
      if scan.asksHelp text then
        .error (if scan.level.describes texts then .help else .refused)
      else do
        let scan ← scan.readWord text
        readLevel scan texts

/-- The command that a level makes, if nothing that it needs is missing. -/
def Scan.command? (scan : Scan) : Option Command :=
  match scan.level with
  | .top => none
  | .task => none
  | .rule => none
  | .nextDate => do
    return .nextDate (scan.value? .now) (← scan.value? .date) (← scan.value? .repeatRule)
  | .tasks => some (.listTasks ((scan.value? .search).getD ""))
  | .taskAdd => do
    return .addTask
      { title := ← scan.operand
        date := (scan.value? .date).getD ""
        comment := (scan.value? .comment).getD ""
        repeatRule := (scan.value? .repeatRule).getD "" }
  | .taskShow => scan.operand.map .showTask
  | .taskUpdate => do
    return .updateTask (← scan.operand)
      { title := scan.value? .title
        date := scan.value? .date
        comment := scan.value? .comment
        repeatRule := scan.value? .repeatRule }
  | .taskDelete => scan.operand.map .deleteTask
  | .taskDone => scan.operand.map .completeTask
  | .ruleCheck => scan.operand.map .checkRule

/-- Settings that stand outside the command line, and count where it does not give them. -/
structure Variables where
  database : Option String := none
  config : Option String := none
  today : Option String := none
  deriving DecidableEq

/-- The value of an option at the innermost level that gives it. -/
def innermost? (levels : List Scan) (setting : Setting) : Option String :=
  levels.reverse.findSome? fun scan => scan.value? setting

/-- Whether every level gives an option or the variable in its place can be taken. A level without
    the option takes the variable, even where a level below it gives the option. -/
def isSound (levels : List Scan) (setting : Setting) (standIn : Option String) : Bool :=
  (levels.all fun scan => (scan.value? setting).isSome) ||
    standIn.all fun value => setting.accepts value

/-- The settings that all levels give together. -/
def optionsOf (vars : Variables) (levels : List Scan) : Options where
  format := (innermost? levels .format).bind Format.ofName?
  verbose := (innermost? levels .verbose).isSome
  database := innermost? levels .database <|> vars.database
  config := innermost? levels .config <|> vars.config
  today := innermost? levels .today <|> vars.today

/-- Reads the words of the command line. -/
def read (vars : Variables) (texts : List String) : Except Stop Invocation := do
  let levels ← readLevel { level := .top } texts
  match levels.getLast?.bind Scan.command? with
  | none => .error .refused
  | some command =>
    if isSound levels .database vars.database && isSound levels .config vars.config then
      return { options := optionsOf vars levels, command := command }
    else .error .refused

end Daybook.Arguments
