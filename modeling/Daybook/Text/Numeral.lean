namespace Daybook.Text

/-- The number that one or more ASCII digits denote; leading zeros count for nothing. -/
def readNat? (cs : List Char) : Option Nat :=
  if !cs.isEmpty && cs.all Char.isDigit then some (Nat.ofDigitChars 10 cs 0) else none

/-- An integer literal of any size: one or more digits after at most one sign. -/
def readInt? : List Char → Option Int
  | '+' :: cs => (readNat? cs).map Int.ofNat
  | '-' :: cs => (readNat? cs).map fun n => -Int.ofNat n
  | cs => (readNat? cs).map Int.ofNat

/-- The value of a digit of base sixteen, in either case. -/
def hexValue? (c : Char) : Option Nat :=
  if '0' ≤ c ∧ c ≤ '9' then some (c.toNat - '0'.toNat)
  else if 'a' ≤ c ∧ c ≤ 'f' then some (c.toNat - 'a'.toNat + 10)
  else if 'A' ≤ c ∧ c ≤ 'F' then some (c.toNat - 'A'.toNat + 10)
  else none

/-- The number that digits of base sixteen denote. -/
def hexNumber? (cs : List Char) : Option Nat :=
  cs.foldlM (fun n c => (hexValue? c).map (16 * n + ·)) 0

/-- The digits after the sign of base sixteen at the start of a text, if it is there. -/
def leadingHexDigits : List Char → List Char
  | '0' :: x :: cs => if x = 'x' ∨ x = 'X' then cs.takeWhile fun c => (hexValue? c).isSome else []
  | _ => []

/-- The number that a text begins with: of base sixteen after `0x`, else of base ten. -/
def leadingNumber? (cs : List Char) : Option Nat :=
  let digits := leadingHexDigits cs
  if digits.isEmpty then readNat? (cs.takeWhile Char.isDigit) else hexNumber? digits

/-- The integers of 64 bits, in two's complement. -/
def fitsInt64 (n : Int) : Bool :=
  -9223372036854775808 ≤ n && n < 9223372036854775808

/-- An integer literal whose value has 64 bits. -/
def readInt64? (cs : List Char) : Option Int :=
  (readInt? cs).filter fitsInt64

/-- The digits of a number, without leading zeros. -/
def natChars (n : Nat) : List Char :=
  Nat.toDigits 10 n

/-- The digits of an integer, after a minus sign if it is negative. -/
def intChars (n : Int) : List Char :=
  if n < 0 then '-' :: natChars n.natAbs else natChars n.natAbs

/-- The digits of a number with zeros in front up to the width; a wider number is kept whole. -/
def paddedChars (width n : Nat) : List Char :=
  List.replicate (width - (natChars n).length) '0' ++ natChars n

def ofNat (n : Nat) : String :=
  String.ofList (natChars n)

def ofInt (n : Int) : String :=
  String.ofList (intChars n)

end Daybook.Text
