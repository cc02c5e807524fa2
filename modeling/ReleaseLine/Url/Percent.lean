import ReleaseLine.Text.Utf8

namespace ReleaseLine.Url.Percent

/-- Which ASCII characters are encoded in a part of a URL. -/
abbrev EncodeSet := Char → Bool

def isControl (c : Char) : Bool := c.toNat < 0x20 || c.toNat = 0x7f

/-- Control characters, as in paths without a root and in hosts of unknown schemes. -/
def controls : EncodeSet := isControl

def fragment : EncodeSet := fun c => isControl c || [' ', '"', '<', '>', '`'].contains c

def query : EncodeSet := fun c => isControl c || [' ', '"', '#', '<', '>'].contains c

def specialQuery : EncodeSet := fun c => query c || c = '\''

def path : EncodeSet := fun c => fragment c || ['#', '?', '{', '}'].contains c

/-- A segment that is put into a path as a whole. -/
def segment : EncodeSet := fun c => path c || c = '/' || c = '%'

def specialSegment : EncodeSet := fun c => segment c || c = '\\'

def userInfo : EncodeSet := fun c =>
  path c || ['/', ':', ';', '=', '@', '[', '\\', ']', '^', '|'].contains c

def hexDigit (n : Nat) : Char := if n < 10 then Char.ofNat (48 + n) else Char.ofNat (55 + n)

def encodeByte (b : UInt8) : List Char := ['%', hexDigit (b.toNat / 16), hexDigit (b.toNat % 16)]

/-- A character outside ASCII is always encoded, byte by byte. -/
def encodeChar (set : EncodeSet) (c : Char) : List Char :=
  if c.toNat < 0x80 ∧ set c = false then [c] else (String.utf8EncodeChar c).flatMap encodeByte

def encode (set : EncodeSet) (text : List Char) : List Char := text.flatMap (encodeChar set)

def hexValue? (b : UInt8) : Option Nat :=
  if 0x30 ≤ b ∧ b ≤ 0x39 then some (b.toNat - 0x30)
  else if 0x41 ≤ b ∧ b ≤ 0x46 then some (b.toNat - 0x37)
  else if 0x61 ≤ b ∧ b ≤ 0x66 then some (b.toNat - 0x57)
  else none

def escaped? (sign high low : UInt8) : Option UInt8 :=
  if sign = 0x25 then
    match hexValue? high, hexValue? low with
    | some x, some y => some (UInt8.ofNat (x * 16 + y))
    | _, _ => none
  else none

/-- Undo percent encoding; a percent sign without two digits stays. -/
def decode : List UInt8 → List UInt8
  | a :: h :: l :: rest =>
    match escaped? a h l with
    | some b => b :: decode rest
    | none => a :: decode (h :: l :: rest)
  | short => short

def decodeText (text : String) : List UInt8 := decode text.toUTF8.toList

end ReleaseLine.Url.Percent
