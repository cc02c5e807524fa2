
namespace ReleaseLine.Text.Utf8

def encode (text : List Char) : List UInt8 := text.flatMap String.utf8EncodeChar

/-- The character that stands for bytes that are not UTF-8. -/
def replacement : Char := '\ufffd'

/-- A character under way: how many bytes it still owes, the range of the next one, and the bits
read so far. -/
structure Partial where
  owed : Nat
  least : UInt8
  greatest : UInt8
  bits : Nat
deriving DecidableEq

inductive Opening where
  | single (c : Char)
  | lead (p : Partial)
  | invalid

def opening (b : UInt8) : Opening :=
  if b < 0x80 then .single (Char.ofNat b.toNat)
  else if b < 0xc2 then .invalid
  else if b < 0xe0 then .lead ⟨1, 0x80, 0xbf, b.toNat - 0xc0⟩
  else if b < 0xf0 then
    .lead ⟨2, if b = 0xe0 then 0xa0 else 0x80, if b = 0xed then 0x9f else 0xbf, b.toNat - 0xe0⟩
  else if b < 0xf5 then
    .lead ⟨3, if b = 0xf0 then 0x90 else 0x80, if b = 0xf4 then 0x8f else 0xbf, b.toNat - 0xf0⟩
  else .invalid

/-- The bits of a character under way, one continuation byte later. -/
def Partial.extend (p : Partial) (b : UInt8) : Nat := p.bits * 64 + (b.toNat - 0x80)

/-- A text being decoded: the characters written so far, last first, and the one under way. -/
structure Decoder where
  pending : Option Partial
  written : List Char

namespace Decoder

def start : Decoder := ⟨none, []⟩

def enter (written : List Char) (b : UInt8) : Decoder :=
  match opening b with
  | .single c => ⟨none, c :: written⟩
  | .lead p => ⟨some p, written⟩
  | .invalid => ⟨none, replacement :: written⟩

/-- Take the next byte. One that cannot continue the character under way ends it as a replacement
and is taken afresh. -/
def step (d : Decoder) (b : UInt8) : Decoder :=
  match d.pending with
  | none => Decoder.enter d.written b
  | some p =>
    if p.least ≤ b ∧ b ≤ p.greatest then
      if p.owed = 1 then ⟨none, Char.ofNat (p.extend b) :: d.written⟩
      else ⟨some ⟨p.owed - 1, 0x80, 0xbf, p.extend b⟩, d.written⟩
    else Decoder.enter (replacement :: d.written) b

/-- The text, with a replacement for a character that the end cuts off. -/
def finish (d : Decoder) : List Char :=
  match d.pending with
  | none => d.written.reverse
  | some _ => (replacement :: d.written).reverse

end Decoder

/-- Decode bytes, with a replacement character for each run that is not UTF-8. -/
def decode (bytes : List UInt8) : List Char := (bytes.foldl Decoder.step Decoder.start).finish

end ReleaseLine.Text.Utf8
