namespace Daybook.Text.Utf8

def encode (c : Char) : List Nat :=
  (String.utf8EncodeChar c).map UInt8.toNat

def ofText (text : String) : List Nat :=
  text.toList.flatMap encode

/-- A character of which some bytes have been read. -/
structure Pending where
  /-- How many bytes are to come. -/
  missing : Nat
  /-- The bounds of the next byte. -/
  low : Nat := 0x80
  high : Nat := 0xBF
  /-- The number that the bytes so far give. -/
  number : Nat

/-- What the first byte of a longer character says of it. The bounds of the second byte leave out the
    forms that are too long, the surrogates and the numbers past the last character. -/
def Pending.ofLead? (byte : Nat) : Option Pending :=
  if 0xC2 ≤ byte ∧ byte ≤ 0xDF then some { missing := 1, number := byte - 0xC0 }
  else if byte = 0xE0 then some { missing := 2, low := 0xA0, number := 0 }
  else if byte = 0xED then some { missing := 2, high := 0x9F, number := 0xD }
  else if 0xE1 ≤ byte ∧ byte ≤ 0xEF then some { missing := 2, number := byte - 0xE0 }
  else if byte = 0xF0 then some { missing := 3, low := 0x90, number := 0 }
  else if 0xF1 ≤ byte ∧ byte ≤ 0xF3 then some { missing := 3, number := byte - 0xF0 }
  else if byte = 0xF4 then some { missing := 3, high := 0x8F, number := 4 }
  else none

/-- What stands in for bytes that cannot be read. -/
def replacement : Char := '\uFFFD'

/-- Reads a byte between characters. -/
def readLead (byte : Nat) : List Char × Option Pending :=
  if byte < 0x80 then ([Char.ofNat byte], none)
  else
    match Pending.ofLead? byte with
    | some pending => ([], some pending)
    | none => ([replacement], none)

/-- Reads a byte. One that does not go on with the character before it ends that unread, and is read
    as a first byte. -/
def readByte : Option Pending → Nat → List Char × Option Pending
  | none, byte => readLead byte
  | some pending, byte =>
    if pending.low ≤ byte ∧ byte ≤ pending.high then
      let number := 64 * pending.number + (byte - 0x80)
      if pending.missing = 1 then ([Char.ofNat number], none)
      else ([], some { missing := pending.missing - 1, number := number })
    else
      let (chars, next) := readLead byte
      (replacement :: chars, next)

def decode : Option Pending → List Nat → List Char
  | none, [] => []
  | some _, [] => [replacement]
  | pending, byte :: bytes =>
    let (chars, next) := readByte pending byte
    chars ++ decode next bytes

def toText (bytes : List Nat) : String :=
  String.ofList (decode none bytes)

end Daybook.Text.Utf8
