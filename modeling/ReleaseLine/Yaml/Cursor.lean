import ReleaseLine.Yaml.Error

namespace ReleaseLine.Yaml

/-- A place in a text: what follows and where it is. A text that holds a character that is not
allowed can be read up to some place before it. -/
structure Cursor where
  rest : List Char
  mark : Mark
  /-- Where the character is, in bytes, that ends what can be read. -/
  barrier : Option Nat := none

namespace Cursor

def isBreak (c : Char) : Bool :=
  c = '\n' || c = '\r' || c.toNat = 0x85 || c.toNat = 0x2028 || c.toNat = 0x2029

def isBlank (c : Char) : Bool := c = ' ' || c = '\t'

def isWord (c : Char) : Bool := c.isAlphanum || c = '_' || c = '-'

/-- The character at a distance; nothing at the end of the text. -/
def at? (c : Cursor) (n : Nat) : Option Char := c.rest[n]?

def atEnd (c : Cursor) : Bool := c.rest.isEmpty

def is (c : Cursor) (n : Nat) (test : Char → Bool) : Bool := ((c.at? n).map test).getD false

def starts (c : Cursor) (x : Char) : Bool := c.at? 0 = some x

def breakAt (c : Cursor) (n : Nat) : Bool := c.is n isBreak

def blankAt (c : Cursor) (n : Nat) : Bool := c.is n isBlank

def gapAt (c : Cursor) (n : Nat) : Bool :=
  ((c.at? n).map fun x => isBlank x || isBreak x).getD true

def lineEndAt (c : Cursor) (n : Nat) : Bool := ((c.at? n).map isBreak).getD true

def advance (c : Cursor) (n : Nat) : Cursor :=
  let size := (c.rest.take n).foldl (fun size x => size + x.utf8Size) 0
  { c with
    rest := c.rest.drop n
    mark := { c.mark with index := c.mark.index + size, column := c.mark.column + n } }

/-- Step over a line break, if there is one: how it is read, and the place behind it. -/
def takeBreak (c : Cursor) : List Char × Cursor :=
  let next (size : Nat) (rest : List Char) : Cursor :=
    { c with rest := rest, mark := ⟨c.mark.index + size, c.mark.line + 1, 0⟩ }
  match c.rest with
  | '\r' :: '\n' :: rest => (['\n'], next 2 rest)
  | x :: rest =>
    if x.toNat = 0x2028 ∨ x.toNat = 0x2029 then ([x], next x.utf8Size rest)
    else if isBreak x then (['\n'], next x.utf8Size rest)
    else ([], c)
  | [] => ([], c)

def upto (test : Char → Bool) (c : Cursor) : List Char := c.rest.takeWhile test

/-- Whether a line starts here with three of a character that stand alone. -/
def atIndicator (c : Cursor) (x : Char) : Bool :=
  c.mark.column = 0 && c.rest.take 3 = [x, x, x] && c.gapAt 3

def atDocumentIndicator (c : Cursor) : Bool := c.atIndicator '-' || c.atIndicator '.'

end Cursor

abbrev Scan := StateT Cursor (Except SyntaxError)

namespace Scan

variable {α σ : Type}

/-- Fail at the present place, in a construct that started at the given one. -/
def fail (construct : Construct) (start : Mark) (problem : Problem) : Scan α := do
  throw ⟨problem, (← get).mark, 0, some (construct, start)⟩

/-- Look at a number of characters, as far as the text goes on; all of them have to be allowed. -/
def lookAhead (n : Nat) : Scan Unit := do
  let c ← get
  match c.barrier with
  | none => pure ()
  | some offset => if (c.rest.drop (n - 1)).isEmpty then throw ⟨.controlCharacter, {}, offset, none⟩

def advance (n : Nat) : Scan Unit := modify (·.advance n)

/-- Step over the characters that satisfy a test, which fails on line breaks. One more character
is looked at. -/
def takeWhile (test : Char → Bool) : Scan (List Char) := do
  let text := (← get).upto test
  lookAhead (text.length + 1)
  advance text.length
  return text

/-- Step over a line break, if there is one: how it is read. One more character is looked at. -/
def takeBreak : Scan (List Char) := do
  lookAhead 2
  let (text, c) := (← get).takeBreak
  set c
  return text

def skipWhile (test : Char → Bool) : Scan Unit := do
  let _ ← takeWhile test

def skipBlanks : Scan Unit := skipWhile Cursor.isBlank

def skipComment : Scan Unit := do
  if (← get).starts '#' then skipWhile (!Cursor.isBreak ·)

def skipBreak : Scan Unit := do
  if (← get).breakAt 0 then
    let _ ← takeBreak

/-- Repeat a step until it yields a result, as often as a text has characters at most. -/
def iterate (step : σ → Scan (σ ⊕ α)) : List Char → σ → Scan α
  | [], _ => do throw ⟨.unexpectedEnd, (← get).mark, 0, none⟩
  | _ :: bound, state => do
    match ← step state with
    | .inl state => iterate step bound state
    | .inr result => pure result

/-- Repeat a step that consumes a character each time, or is the last one. -/
def loop (step : σ → Scan (σ ⊕ α)) (start : σ) : Scan α := do
  iterate step (' ' :: ' ' :: (← get).rest) start

end Scan

end ReleaseLine.Yaml
