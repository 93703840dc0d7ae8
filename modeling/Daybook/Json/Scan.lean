import Daybook.Json.Basic
import Daybook.Text.Numeral

namespace Daybook.Json

/-- Whether a character may stand between the parts of a JSON text. -/
def isSpace (c : Char) : Bool :=
  c == ' ' || c == '\n' || c == '\t' || c == '\r'

def skipSpace (cs : List Char) : List Char :=
  cs.dropWhile isSpace

/-- The character that a letter stands for after a backslash. -/
def unescape? : Char → Option Char
  | '"' => some '"'
  | '\\' => some '\\'
  | '/' => some '/'
  | 'b' => some '\x08'
  | 'f' => some '\x0c'
  | 'n' => some '\n'
  | 'r' => some '\r'
  | 't' => some '\t'
  | _ => none

/-- The first half of a pair of code units that stand for one character. -/
def isLeadUnit (n : Nat) : Bool :=
  0xD800 ≤ n && n < 0xDC00

/-- The second half of such a pair. -/
def isTrailUnit (n : Nat) : Bool :=
  0xDC00 ≤ n && n < 0xE000

def pairChar (lead trail : Nat) : Char :=
  Char.ofNat (0x10000 + (lead - 0xD800) * 0x400 + (trail - 0xDC00))

/-- Reads the inside of a string up to its closing quote. Two numbered escapes that form a pair are
    one character; half of a pair by itself is none. -/
def stringBody? : List Char → Option (List Char × List Char)
  | [] => none
  | '"' :: rest => some ([], rest)
  | '\\' :: 'u' :: a :: b :: c :: d :: rest => do
    let n ← Text.hexNumber? [a, b, c, d]
    if isLeadUnit n then
      match rest with
      | '\\' :: 'u' :: e :: f :: g :: h :: rest =>
        let m ← Text.hexNumber? [e, f, g, h]
        if isTrailUnit m then
          let (body, rest) ← stringBody? rest
          return (pairChar n m :: body, rest)
        else none
      | _ => none
    else if isTrailUnit n then none
    else
      let (body, rest) ← stringBody? rest
      return (Char.ofNat n :: body, rest)
  | '\\' :: c :: rest => do
    let c ← unescape? c
    let (body, rest) ← stringBody? rest
    return (c :: body, rest)
  | c :: rest =>
    if c.toNat < 0x20 ∨ c = '\\' then none
    else do
      let (body, rest) ← stringBody? rest
      return (c :: body, rest)

def string? : List Char → Option (String × List Char)
  | '"' :: rest => (stringBody? rest).map fun (body, rest) => (String.ofList body, rest)
  | _ => none

/-- Passes over the inside of a string, whose escapes need not pair up to characters here. -/
def skipStringBody? : List Char → Option (List Char)
  | [] => none
  | '"' :: rest => some rest
  | '\\' :: 'u' :: a :: b :: c :: d :: rest =>
    if (Text.hexNumber? [a, b, c, d]).isSome then skipStringBody? rest else none
  | '\\' :: c :: rest => if (unescape? c).isSome then skipStringBody? rest else none
  | c :: rest => if c.toNat < 0x20 ∨ c = '\\' then none else skipStringBody? rest

def skipDigits? : List Char → Option (List Char)
  | c :: rest => if c.isDigit then some (rest.dropWhile Char.isDigit) else none
  | [] => none

/-- Passes over the digits of a whole number, which start with a zero only if it is alone. -/
def skipWhole? : List Char → Option (List Char)
  | '0' :: rest => if (rest.head?.map Char.isDigit).getD false then none else some rest
  | cs => skipDigits? cs

/-- Passes over the decimal places, where there are some. -/
def skipFraction? : List Char → Option (List Char)
  | '.' :: rest => skipDigits? rest
  | cs => some cs

def skipExponent? : List Char → Option (List Char)
  | c :: rest =>
    if c = 'e' ∨ c = 'E' then
      match rest with
      | '+' :: rest => skipDigits? rest
      | '-' :: rest => skipDigits? rest
      | rest => skipDigits? rest
    else some (c :: rest)
  | [] => some []

def skipNumber? (cs : List Char) : Option (List Char) := do
  let unsigned := match cs with
    | '-' :: rest => rest
    | cs => cs
  skipExponent? (← skipFraction? (← skipWhole? unsigned))

def skipExact? : List Char → List Char → Option (List Char)
  | [], cs => some cs
  | e :: es, c :: cs => if e = c then skipExact? es cs else none
  | _ :: _, [] => none

/-- Passes over a value without parts. -/
def skipScalar? : List Char → Option (List Char)
  | '"' :: rest => skipStringBody? rest
  | 'n' :: rest => skipExact? ['u', 'l', 'l'] rest
  | 't' :: rest => skipExact? ['r', 'u', 'e'] rest
  | 'f' :: rest => skipExact? ['a', 'l', 's', 'e'] rest
  | cs => skipNumber? cs

mutual

/-- Passes over a value. The fuel bounds the steps; each takes a character or descends once. -/
def skipValueWithin? : Nat → List Char → Option (List Char)
  | 0, _ => none
  | fuel + 1, cs =>
    match skipSpace cs with
    | '[' :: rest =>
      match skipSpace rest with
      | ']' :: rest => some rest
      | rest => skipItemsWithin? fuel rest
    | '\x7b' :: rest =>
      match skipSpace rest with
      | '\x7d' :: rest => some rest
      | rest => skipMembersWithin? fuel rest
    | rest => skipScalar? rest

/-- Passes over the items of an array and its closing bracket. -/
def skipItemsWithin? : Nat → List Char → Option (List Char)
  | 0, _ => none
  | fuel + 1, cs => do
    match skipSpace (← skipValueWithin? fuel cs) with
    | ',' :: rest => skipItemsWithin? fuel rest
    | ']' :: rest => some rest
    | _ => none

/-- Passes over the members of an object and its closing brace. -/
def skipMembersWithin? : Nat → List Char → Option (List Char)
  | 0, _ => none
  | fuel + 1, cs => do
    match skipSpace cs with
    | '"' :: rest =>
      match skipSpace (← skipStringBody? rest) with
      | ':' :: rest =>
        match skipSpace (← skipValueWithin? fuel rest) with
        | ',' :: rest => skipMembersWithin? fuel rest
        | '\x7d' :: rest => some rest
        | _ => none
      | _ => none
    | _ => none

end

def skipValue? (cs : List Char) : Option (List Char) :=
  skipValueWithin? (2 * cs.length + 2) cs

inductive Error (Cause : Type) where
  /-- The text does not follow the grammar, or a value is of the wrong kind. -/
  | malformed
  /-- A string was read whose text is refused for a cause of its own. -/
  | refused (cause : Cause)

/-- What a scanner found, or else that the text is malformed. -/
def orMalformed {Cause α : Type} : Option α → Except (Error Cause) α
  | some a => .ok a
  | none => .error .malformed

end Daybook.Json
