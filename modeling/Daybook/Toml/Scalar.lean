import Daybook.Text.Numeral
import Daybook.Toml.Node

namespace Daybook.Toml

/-- Spaces and tabs, the blanks within a line. -/
def isSpace (c : Char) : Bool :=
  c == ' ' || c == '\t'

def skipSpace (cs : List Char) : List Char :=
  cs.dropWhile isSpace

/-- Whether a character may stand in a comment or string: all but the control characters, of which
    only the tab may. -/
def isTextChar (c : Char) : Bool :=
  c == '\t' || (0x20 ≤ c.toNat && c.toNat != 0x7F)

/-- The value of a digit in some base up to sixteen, in either case. -/
def digitValue? (base : Nat) (c : Char) : Option Nat :=
  let value :=
    if '0' ≤ c ∧ c ≤ '9' then c.toNat - '0'.toNat
    else if 'a' ≤ c ∧ c ≤ 'f' then c.toNat - 'a'.toNat + 10
    else if 'A' ≤ c ∧ c ≤ 'F' then c.toNat - 'A'.toNat + 10
    else base
  if value < base then some value else none

/-- The number that digits denote in some base. -/
def number? (base : Nat) (cs : List Char) : Option Nat :=
  cs.foldlM (fun n c => (digitValue? base c).map (base * n + ·)) 0

/-- The character with a number given by digits of base sixteen, if there is one. -/
def numberedChar? (digits : List Char) : Option Char := do
  let n ← number? 16 digits
  if h : n.isValidChar then some (Char.ofNatAux n h) else none

/-- The character that a letter stands for after a backslash. -/
def unescape? : Char → Option Char
  | 'b' => some '\x08'
  | 't' => some '\t'
  | 'n' => some '\n'
  | 'f' => some '\x0c'
  | 'r' => some '\r'
  | '"' => some '"'
  | '\\' => some '\\'
  | _ => none

/-- Puts a character before what a scanner found. -/
def before (c : Char) (found : Option (List Char × List Char)) : Option (List Char × List Char) :=
  found.map fun (body, rest) => (c :: body, rest)

/-- The inside of a string in double quotes. -/
def basicBody? : List Char → Option (List Char × List Char)
  | [] => none
  | '"' :: rest => some ([], rest)
  | '\\' :: 'u' :: a :: b :: c :: d :: rest =>
    (numberedChar? [a, b, c, d]).bind fun e => before e (basicBody? rest)
  | '\\' :: 'U' :: a :: b :: c :: d :: e :: f :: g :: h :: rest =>
    (numberedChar? [a, b, c, d, e, f, g, h]).bind fun i => before i (basicBody? rest)
  | '\\' :: c :: rest => (unescape? c).bind fun e => before e (basicBody? rest)
  | c :: rest => if isTextChar c && c != '\\' then before c (basicBody? rest) else none

/-- The inside of a string in single quotes, where nothing is escaped. -/
def literalBody? : List Char → Option (List Char × List Char)
  | [] => none
  | '\'' :: rest => some ([], rest)
  | c :: rest => if isTextChar c then before c (literalBody? rest) else none

/-- Where a string of several lines stands after a backslash at the end of a line. -/
inductive Fold where
  /-- No line is being folded. -/
  | none
  /-- Only blanks have followed the backslash, and the line has to end. -/
  | pending
  /-- The line has ended, and all blanks and line ends up to the next character are dropped. -/
  | dropping

/-- The inside of a string of several lines in double quotes. It may end in one or two quotes of its
    own. -/
def longBasicBody? : Fold → List Char → Option (List Char × List Char)
  | .pending, ' ' :: rest => longBasicBody? .pending rest
  | .pending, '\t' :: rest => longBasicBody? .pending rest
  | .pending, '\n' :: rest => longBasicBody? .dropping rest
  | .pending, '\r' :: '\n' :: rest => longBasicBody? .dropping rest
  | .pending, _ => none
  | .dropping, ' ' :: rest => longBasicBody? .dropping rest
  | .dropping, '\t' :: rest => longBasicBody? .dropping rest
  | .dropping, '\n' :: rest => longBasicBody? .dropping rest
  | .dropping, '\r' :: '\n' :: rest => longBasicBody? .dropping rest
  | _, [] => none
  | _, '"' :: '"' :: '"' :: '"' :: '"' :: rest => some (['"', '"'], rest)
  | _, '"' :: '"' :: '"' :: '"' :: rest => some (['"'], rest)
  | _, '"' :: '"' :: '"' :: rest => some ([], rest)
  | _, '\n' :: rest => before '\n' (longBasicBody? .none rest)
  | _, '\r' :: '\n' :: rest => before '\n' (longBasicBody? .none rest)
  | _, '\\' :: 'u' :: a :: b :: c :: d :: rest =>
    (numberedChar? [a, b, c, d]).bind fun e => before e (longBasicBody? .none rest)
  | _, '\\' :: 'U' :: a :: b :: c :: d :: e :: f :: g :: h :: rest =>
    (numberedChar? [a, b, c, d, e, f, g, h]).bind fun i => before i (longBasicBody? .none rest)
  | _, '\\' :: ' ' :: rest => longBasicBody? .pending rest
  | _, '\\' :: '\t' :: rest => longBasicBody? .pending rest
  | _, '\\' :: '\n' :: rest => longBasicBody? .dropping rest
  | _, '\\' :: '\r' :: '\n' :: rest => longBasicBody? .dropping rest
  | _, '\\' :: c :: rest => (unescape? c).bind fun e => before e (longBasicBody? .none rest)
  | _, c :: rest => if isTextChar c && c != '\\' then before c (longBasicBody? .none rest) else none

/-- The inside of a string of several lines in single quotes. It may end in one or two quotes of its
    own. -/
def longLiteralBody? : List Char → Option (List Char × List Char)
  | [] => none
  | '\'' :: '\'' :: '\'' :: '\'' :: '\'' :: rest => some (['\'', '\''], rest)
  | '\'' :: '\'' :: '\'' :: '\'' :: rest => some (['\''], rest)
  | '\'' :: '\'' :: '\'' :: rest => some ([], rest)
  | '\n' :: rest => before '\n' (longLiteralBody? rest)
  | '\r' :: '\n' :: rest => before '\n' (longLiteralBody? rest)
  | c :: rest => if isTextChar c then before c (longLiteralBody? rest) else none

/-- Drops a line end at the front, as after the opening quotes of a string of several lines. -/
def skipLineEnd : List Char → List Char
  | '\n' :: rest => rest
  | '\r' :: '\n' :: rest => rest
  | cs => cs

/-- Takes a string of any kind off the front. -/
def string? : List Char → Option (String × List Char)
  | '"' :: '"' :: '"' :: rest =>
    (longBasicBody? .none (skipLineEnd rest)).map fun (body, rest) => (String.ofList body, rest)
  | '"' :: rest => (basicBody? rest).map fun (body, rest) => (String.ofList body, rest)
  | '\'' :: '\'' :: '\'' :: rest =>
    (longLiteralBody? (skipLineEnd rest)).map fun (body, rest) => (String.ofList body, rest)
  | '\'' :: rest => (literalBody? rest).map fun (body, rest) => (String.ofList body, rest)
  | _ => none

/-- Digits of some base, where a single underscore may stand between two of them. -/
def areDigits (base : Nat) : List Char → Bool
  | [] => false
  | [c] => (digitValue? base c).isSome
  | c :: '_' :: rest => (digitValue? base c).isSome && areDigits base rest
  | c :: rest => (digitValue? base c).isSome && areDigits base rest

def withoutUnderscores (cs : List Char) : List Char :=
  cs.filter (· != '_')

/-- Digits of base ten that start with a zero only if it is alone. -/
def areWholeDigits : List Char → Bool
  | ['0'] => true
  | '0' :: _ => false
  | cs => areDigits 10 cs

/-- A word without the sign in front, and whether the sign is a minus. -/
def splitSign : List Char → Bool × List Char
  | '-' :: rest => (true, rest)
  | '+' :: rest => (false, rest)
  | cs => (false, cs)

/-- An integer of some base, given by its digits. -/
def based? (base : Nat) (digits : List Char) : Option Int :=
  if areDigits base digits then (number? base (withoutUnderscores digits)).map Int.ofNat else none

/-- The integer that a word is. Bases other than ten have a mark in front and no sign. -/
def integer? : List Char → Option Int
  | '0' :: 'x' :: digits => (based? 16 digits).filter Text.fitsInt64
  | '0' :: 'o' :: digits => (based? 8 digits).filter Text.fitsInt64
  | '0' :: 'b' :: digits => (based? 2 digits).filter Text.fitsInt64
  | word =>
    let (negative, digits) := splitSign word
    if areWholeDigits digits then
      ((number? 10 (withoutUnderscores digits)).map fun n =>
        if negative then -Int.ofNat n else Int.ofNat n).filter Text.fitsInt64
    else none

/-- The least number that is rounded to infinity as a float of 64 bits. -/
def floatBound : Nat := Nat.pow 2 1024 - Nat.pow 2 970

/-- Whether a number, given by its digits and the power of ten they are scaled by, is rounded to
    infinity. Only where its size is near the bound are the two compared. -/
def roundsToInfinity (digits : Nat) (scale : Int) : Bool :=
  let size := (Nat.toDigits 10 digits).length + scale
  if digits = 0 ∨ size < 309 then false
  else if 310 < size then true
  else floatBound * Nat.pow 10 (-scale).toNat ≤ digits * Nat.pow 10 scale.toNat

/-- The exponent of a float, which follows its mark. -/
def exponent? (cs : List Char) : Option Int :=
  let (negative, digits) := splitSign cs
  if areDigits 10 digits then
    (number? 10 (withoutUnderscores digits)).map fun n => if negative then -Int.ofNat n else n
  else none

/-- Whether a word is a float: it has decimal places, an exponent or both, or names infinity or no
    number at all. A number above all floats is none. -/
def isFloat (word : List Char) : Bool :=
  let (negative, unsigned) := splitSign word
  if unsigned = ['i', 'n', 'f'] ∨ unsigned = ['n', 'a', 'n'] then true
  else
    let isMark := fun c => c == 'e' || c == 'E'
    let mantissa := unsigned.takeWhile fun c => !isMark c
    let mark := unsigned.dropWhile fun c => !isMark c
    let whole := mantissa.takeWhile (· != '.')
    let point := mantissa.dropWhile (· != '.')
    let places := point.drop 1
    let exponent := if mark.isEmpty then some 0 else exponent? (mark.drop 1)
    areWholeDigits whole && (point.isEmpty || areDigits 10 places) &&
      !(point.isEmpty && mark.isEmpty) &&
      match exponent, number? 10 (withoutUnderscores (whole ++ places)) with
      | some exponent, some digits =>
        negative ||
          !roundsToInfinity digits (exponent - ((withoutUnderscores places).length : Nat))
      | _, _ => false

/-- Two digits that denote a number within bounds. -/
def twoDigits (least most : Nat) (a b : Char) : Bool :=
  match number? 10 [a, b] with
  | some n => least ≤ n && n ≤ most
  | none => false

/-- The days of a month in the Gregorian calendar, for the months 1 to 12. -/
def monthDays (year month : Nat) : Nat :=
  if month = 2 then if year % 4 = 0 ∧ (year % 100 ≠ 0 ∨ year % 400 = 0) then 29 else 28
  else if month = 4 ∨ month = 6 ∨ month = 9 ∨ month = 11 then 30
  else 31

/-- Whether the digits of year, month and day name a date. -/
def isDay (year month day : List Char) : Bool :=
  match number? 10 year, number? 10 month, number? 10 day with
  | some y, some m, some d => 1 ≤ m && m ≤ 12 && 1 ≤ d && d ≤ monthDays y m
  | _, _, _ => false

/-- Whether characters are the offset of a time from UTC, or no offset. -/
def isOffset : List Char → Bool
  | [] => true
  | ['Z'] => true
  | ['z'] => true
  | ['+', a, b, ':', c, d] => twoDigits 0 23 a b && twoDigits 0 59 c d
  | ['-', a, b, ':', c, d] => twoDigits 0 23 a b && twoDigits 0 59 c d
  | _ => false

/-- Whether characters are a time of day, with an offset only where one may follow. -/
def isTime (mayHaveOffset : Bool) : List Char → Bool
  | a :: b :: ':' :: c :: d :: ':' :: e :: f :: rest =>
    let rest := match rest with
      | '.' :: places =>
        if (places.head?.map Char.isDigit).getD false then places.dropWhile Char.isDigit
        else rest
      | rest => rest
    twoDigits 0 23 a b && twoDigits 0 59 c d && twoDigits 0 60 e f &&
      if mayHaveOffset then isOffset rest else rest.isEmpty
  | _ => false

/-- Whether a word is a date without a time. -/
def isDate : List Char → Bool
  | [a, b, c, d, '-', e, f, '-', g, h] => isDay [a, b, c, d] [e, f] [g, h]
  | _ => false

/-- Whether a word is a date, a time of day or both. -/
def isDateTime (word : List Char) : Bool :=
  isDate word || isTime false word ||
    (isDate (word.take 10) &&
      match word.drop 10 with
      | 'T' :: time => isTime true time
      | 't' :: time => isTime true time
      | _ => false)

/-- Whether a character belongs to a word. -/
def isWordChar (c : Char) : Bool :=
  c.isAlphanum || c == '_' || c == '+' || c == '-' || c == '.' || c == ':'

def word? (word : List Char) : Option Node :=
  if word = ['t', 'r', 'u', 'e'] ∨ word = ['f', 'a', 'l', 's', 'e'] then some .other
  else if isDateTime word || isFloat word then some .other
  else (integer? word).map .integer

/-- Takes a value without parts off the front. A date may have its time after a space. -/
def scalar? (cs : List Char) : Option (Node × List Char) :=
  match cs with
  | '"' :: _ => (string? cs).map fun (s, rest) => (.text s, rest)
  | '\'' :: _ => (string? cs).map fun (s, rest) => (.text s, rest)
  | cs =>
    let word := cs.takeWhile isWordChar
    let rest := cs.dropWhile isWordChar
    let time := (rest.drop 1).takeWhile isWordChar
    if isDate word && rest.head? == some ' ' && isTime true time then
      some (.other, rest.drop (1 + time.length))
    else (word? word).map fun node => (node, rest)

end Daybook.Toml
