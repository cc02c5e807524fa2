import ReleaseLine.Http.Header

namespace ReleaseLine.Http

/-- How far a reader gets with the bytes there are so far. -/
inductive Reading (α : Type) where
  | more
  | malformed
  | done (value : α) (rest : List UInt8)
deriving DecidableEq

structure Head where
  /-- Whether the response is of the older version, which knows no chunks. -/
  old : Bool
  status : Nat
  fields : List Field
deriving DecidableEq

def isBlank (b : UInt8) : Bool := b = 0x20 || b = 0x09

def trim (bytes : List UInt8) : List UInt8 :=
  ((bytes.dropWhile isBlank).reverse.dropWhile isBlank).reverse

/-- A line, given with its last byte first, without the return that may end it. -/
def finishLine : List UInt8 → List UInt8
  | 0x0d :: line => line.reverse
  | line => line.reverse

/-- The lines up to the next empty one, from a line and the lines read so far, all last first.
Empty lines in front are passed over. -/
def linesFrom (line : List UInt8) (lines : List (List UInt8)) :
    List UInt8 → Option (List (List UInt8) × List UInt8)
  | [] => none
  | b :: rest =>
    if b = 0x0a then
      match finishLine line, lines with
      | [], [] => linesFrom [] [] rest
      | [], _ => some (lines.reverse, rest)
      | full, _ => linesFrom [] (full :: lines) rest
    else linesFrom (b :: line) lines rest

def decimal? (digits : List UInt8) : Option Nat :=
  if digits.isEmpty || !digits.all isDigit then none
  else some (digits.foldl (fun n b => n * 10 + (b.toNat - 48)) 0)

/-- Version and status of a status line; a reason may follow. -/
def statusLine? (line : List UInt8) : Option (Bool × Nat) := do
  let old ←
    if "HTTP/1.1 ".toUTF8.toList.isPrefixOf line then some false
    else if "HTTP/1.0 ".toUTF8.toList.isPrefixOf line then some true
    else none
  let rest := line.drop 9
  let status ← if (rest.take 3).length = 3 then decimal? (rest.take 3) else none
  if status < 100 then none
  match rest.drop 3 with
  | [] => return (old, status)
  | 0x20 :: reason => if reason.all isValueByte then return (old, status) else none
  | _ => none

def lower (b : UInt8) : Char := (Char.ofNat b.toNat).toLower

/-- The greatest number of bytes in the name of a header line. -/
def maxName : Nat := 65535

def field? (line : List UInt8) : Option Field :=
  let name := line.takeWhile isNameByte
  match line.drop name.length with
  | 0x3a :: value =>
    if name.isEmpty || maxName < name.length || !value.all isValueByte then none
    else some ⟨String.ofList (name.map lower), trim value⟩
  | _ => none

def maxFields : Nat := 100

/-- The greatest number of bytes before the body. -/
def maxHead : Nat := 417792

def head? : List (List UInt8) → Option Head
  | [] => none
  | first :: rest => do
    let (old, status) ← statusLine? first
    let fields ← rest.mapM field?
    if maxFields < fields.length then none else some ⟨old, status, fields⟩

/-- Whether another head follows this one. -/
def Head.isInterim (head : Head) : Bool := head.status < 200 && head.status ≠ 101

/-- Read the head of the final response; `fuel` heads at most are looked at. -/
def readHeads : Nat → List UInt8 → Reading Head
  | 0, _ => .more
  | fuel + 1, bytes =>
    match linesFrom [] [] bytes with
    | none => if maxHead < bytes.length then .malformed else .more
    | some (lines, rest) =>
      match head? lines with
      | none => .malformed
      | some head =>
        if maxHead < bytes.length - rest.length then .malformed
        else if head.isInterim then readHeads fuel rest
        else .done head rest

def readHead (bytes : List UInt8) : Reading Head := readHeads (bytes.length + 1) bytes

/-- What ends the body of a response: its length, its last chunk, or the end of the connection. -/
inductive Framing where
  | length (n : Nat)
  | chunked
  | untilClose
deriving DecidableEq

def commaParts (value : List UInt8) : List (List UInt8) := (value.splitOn 0x2c).map trim

/-- The length that header lines agree on. -/
def length? (values : List (List UInt8)) : Option Nat :=
  match (values.flatMap commaParts).mapM decimal? with
  | some (n :: rest) => if rest.all (· = n) && n < UInt64.size - 2 then some n else none
  | _ => none

/-- The framing that a head announces, unless it is inconsistent. -/
def Head.framing? (head : Head) : Option Framing :=
  if head.status = 101 ∨ head.status = 204 ∨ head.status = 304 then some (.length 0)
  else
    match Field.values head.fields "transfer-encoding" with
    | [] =>
      match Field.values head.fields "content-length" with
      | [] => some .untilClose
      | values => (length? values).map .length
    | values =>
      if head.old then none
      else
        let last := values.getLast?.getD []
        let coding := (commaParts last).getLast?.getD []
        if last.all isPlainByte ∧ coding.map lower = "chunked".toList then some .chunked
        else some .untilClose

inductive Chunk where
  | start
  | size (n : Nat)
  | blank (n : Nat)
  | extension (n : Nat)
  | sizeEnd (n : Nat)
  | data (n : Nat)
  | dataReturn
  | dataEnd
  | lastReturn
  | trailer
  | trailerEnd
  | lastEnd
  | finished
deriving DecidableEq

namespace Chunk

def hexValue? (b : UInt8) : Option Nat :=
  if isDigit b then some (b.toNat - 48)
  else if 0x61 ≤ b && b ≤ 0x66 then some (b.toNat - 87)
  else if 0x41 ≤ b && b ≤ 0x46 then some (b.toNat - 55)
  else none

def afterSize (n : Nat) (b : UInt8) : Option Chunk :=
  if isBlank b then some (.blank n)
  else if b = 0x3b then some (.extension n)
  else if b = 0x0d then some (.sizeEnd n)
  else none

def step (state : Chunk) (b : UInt8) : Option Chunk :=
  match state with
  | start => (hexValue? b).map .size
  | size n =>
    match hexValue? b with
    | some digit => if n * 16 + digit < UInt64.size then some (.size (n * 16 + digit)) else none
    | none => afterSize n b
  | blank n => afterSize n b
  | extension n =>
    if b = 0x0d then some (.sizeEnd n) else if b = 0x0a then none else some (.extension n)
  | sizeEnd n =>
    if b = 0x0a then some (if n = 0 then .lastReturn else .data n) else none
  | data n => some (if n ≤ 1 then .dataReturn else .data (n - 1))
  | dataReturn => if b = 0x0d then some .dataEnd else none
  | dataEnd => if b = 0x0a then some .start else none
  | lastReturn => some (if b = 0x0d then .lastEnd else .trailer)
  | trailer => some (if b = 0x0d then .trailerEnd else .trailer)
  | trailerEnd => if b = 0x0a then some .lastReturn else none
  | lastEnd => if b = 0x0a then some .finished else none
  | finished => none

end Chunk

/-- The least number of bytes that the extensions of all chunks together may not have. -/
def extensionLimit : Nat := 16384

/-- The least number of bytes that may not follow the last chunk. -/
def trailerLimit : Nat := 16384

structure Chunks where
  state : Chunk := .start
  /-- The bytes of the body so far, last first. -/
  body : List UInt8 := []
  /-- The number of bytes in extensions so far. -/
  extended : Nat := 0
  /-- What follows the last chunk, last byte first. -/
  trailer : List UInt8 := []
  trailerSize : Nat := 0
  trailerLines : Nat := 0

namespace Chunks

def keep (c : Chunks) (b : UInt8) : Option Chunks :=
  if trailerLimit ≤ c.trailerSize + 1 then none
  else some { c with trailer := b :: c.trailer, trailerSize := c.trailerSize + 1 }

/-- What goes along with a byte besides the state. -/
def note (c : Chunks) (b : UInt8) : Option Chunks :=
  match c.state with
  | .data _ => some { c with body := b :: c.body }
  | .extension _ =>
    if b ≠ 0x0d ∧ extensionLimit ≤ c.extended + 1 then none
    else some { c with extended := c.extended + (if b = 0x0d then 0 else 1) }
  | .lastReturn => if b = 0x0d ∧ c.trailer.isEmpty then some c else c.keep b
  | .lastEnd => if c.trailer.isEmpty then some c else c.keep b
  | .trailer => c.keep b
  | .trailerEnd =>
    if maxFields ≤ c.trailerLines then none
    else { c with trailerLines := c.trailerLines + 1 }.keep b
  | _ => some c

def next (c : Chunks) (b : UInt8) : Option Chunks := do
  let state ← c.state.step b
  let noted ← c.note b
  return { noted with state := state }

/-- Whether header lines, no more than there are returns, and an empty line follow the last
chunk, or nothing. -/
def hasFields (c : Chunks) : Bool :=
  let lines := (c.trailer.reverse.splitOn 0x0a).map fun line => finishLine line.reverse
  match (lines.takeWhile (!·.isEmpty)).mapM field? with
  | some fields => decide (fields.length ≤ c.trailerLines)
  | none => false

def read (c : Chunks) : List UInt8 → Reading (List UInt8)
  | [] => if c.state ≠ .finished then .more else finish []
  | b :: rest =>
    if c.state = .finished then finish (b :: rest)
    else
      match c.next b with
      | none => .malformed
      | some c => c.read rest
where
  finish (rest : List UInt8) : Reading (List UInt8) :=
    if c.hasFields then .done c.body.reverse rest else .malformed

end Chunks

/-- Read a body. Only the end of the connection can end one whose framing tells no end. -/
def Framing.read (framing : Framing) (bytes : List UInt8) (closed : Bool) : Reading (List UInt8) :=
  match framing with
  | .length n => if bytes.length < n then .more else .done (bytes.take n) (bytes.drop n)
  | .chunked => Chunks.read {} bytes
  | .untilClose => if closed then .done bytes [] else .more

/-- A status line and header lines, the last of which tells the length of the body. -/
def writeHead (status : Nat) (fields : List (List UInt8 × List UInt8)) (length : Nat) :
    List UInt8 :=
  let line (name value : List UInt8) : List UInt8 :=
    name ++ [0x3a, 0x20] ++ value ++ [0x0d, 0x0a]
  ("HTTP/1.1 " ++ toString status ++ " \r\n").toUTF8.toList ++
    fields.flatMap (fun f => line f.1 f.2) ++
    line "content-length".toUTF8.toList (toString length).toUTF8.toList ++ [0x0d, 0x0a]

end ReleaseLine.Http
