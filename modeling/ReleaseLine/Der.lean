
namespace ReleaseLine.Der

/-- A value in the form in which certificates are written: a tag and its content, which may be made
of values in turn. The length between them is written in as few bytes as it takes. -/
structure Element where
  tag : UInt8
  content : List UInt8
deriving DecidableEq

namespace Tag

def boolean : UInt8 := 0x01
def integer : UInt8 := 0x02
def bitString : UInt8 := 0x03
def octetString : UInt8 := 0x04
def identifier : UInt8 := 0x06
def utcTime : UInt8 := 0x17
def generalTime : UInt8 := 0x18
def sequence : UInt8 := 0x30

/-- A part without a name of its own that may be left out, by its number. -/
def optional (n : UInt8) : UInt8 := 0xa0 + n

/-- One of several ways to write a name, by its number. -/
def choice (n : UInt8) : UInt8 := 0x80 + n

end Tag

/-- No content is as long as this. -/
def lengthLimit : Nat := 65535

/-- The length of a content: in one byte below 128, in a second one below 256, else in two. -/
def readLength : List UInt8 → Option (Nat × List UInt8)
  | 0x81 :: a :: rest => if a < 0x80 then none else some (a.toNat, rest)
  | 0x82 :: a :: b :: rest =>
    let n := a.toNat * 256 + b.toNat
    if n < 256 ∨ lengthLimit ≤ n then none else some (n, rest)
  | a :: rest => if a < 0x80 then some (a.toNat, rest) else none
  | [] => none

/-- An element and the bytes behind it. Tags fill one byte. -/
def readElement : List UInt8 → Option (Element × List UInt8)
  | [] => none
  | tag :: rest => do
    if tag % 0x20 = 0x1f then none
    let (n, rest) ← readLength rest
    if rest.length < n then none else some (⟨tag, rest.take n⟩, rest.drop n)

/-- Elements one after the other, `fuel` of them at most. -/
def readElements : Nat → List UInt8 → Option (List Element)
  | _, [] => some []
  | 0, _ :: _ => none
  | fuel + 1, bytes => do
    let (e, rest) ← readElement bytes
    return e :: (← readElements fuel rest)

def elements? (bytes : List UInt8) : Option (List Element) := readElements bytes.length bytes

namespace Element

def content? (e : Element) (tag : UInt8) : Option (List UInt8) :=
  if e.tag = tag then some e.content else none

def elements? (e : Element) (tag : UInt8) : Option (List Element) :=
  (e.content? tag).bind Der.elements?

/-- The elements inside a sequence that is the only element inside another. -/
def innerSequence? (e : Element) (tag : UInt8) : Option (List Element) := do
  match ← e.elements? tag with
  | [inner] => inner.elements? Tag.sequence
  | _ => none

end Element

end ReleaseLine.Der
