import Daybook.Text.Numeral

namespace Daybook.Pattern

/-- The form in which two characters are compared. ASCII letters lose their case; the noncharacters
    U+FFFE and U+FFFF count as the replacement character. -/
def fold (c : Char) : Char :=
  if c = '\uFFFE' ∨ c = '\uFFFF' then '\uFFFD' else c.toLower

/-- Whether a character of a pattern stands for a character of a text. -/
def sameChar (c d : Char) : Bool :=
  fold c == fold d

/-- The text itself and what is left of it after each of its characters. -/
def suffixes : List Char → List (List Char)
  | [] => [[]]
  | c :: cs => (c :: cs) :: suffixes cs

/-- Whether a pattern stands for the whole of a text. In it `%` stands for any run of characters and `_` for
    any one; a backslash makes the character after it stand for itself. -/
def accepts : List Char → List Char → Bool
  | [], text => text.isEmpty
  | '%' :: pattern, text => (suffixes text).any fun rest => accepts pattern rest
  | '_' :: pattern, text =>
    match text with
    | [] => false
    | _ :: rest => accepts pattern rest
  | ['\\'], _ => false
  | '\\' :: c :: pattern, text =>
    match text with
    | [] => false
    | d :: rest => sameChar c d && accepts pattern rest
  | c :: pattern, text =>
    match text with
    | [] => false
    | d :: rest => sameChar c d && accepts pattern rest

/-- The pattern that stands for one text alone: wildcards and backslashes are put after a
    backslash. -/
def escape (text : List Char) : List Char :=
  text.flatMap fun c => if c = '%' ∨ c = '_' ∨ c = '\\' then ['\\', c] else [c]

/-- The pattern for the texts that contain a text. -/
def containing (text : List Char) : List Char :=
  '%' :: escape text ++ ['%']

/-- Patterns with more bytes in UTF-8 than this are refused. -/
def maxBytes : Nat := 50000

/-- The bytes of a text in UTF-8. -/
def byteCount (cs : List Char) : Nat :=
  cs.foldl (fun bytes c => bytes + c.utf8Size) 0

/-- A text up to its first NUL. Patterns are compared no further than that. -/
def upToNul (cs : List Char) : List Char :=
  cs.takeWhile (· != '\x00')

/-- Whether a pattern stands for a stored text. -/
def acceptsText (pattern : List Char) (text : String) : Bool :=
  accepts (upToNul pattern) (upToNul text.toList)

end Daybook.Pattern
