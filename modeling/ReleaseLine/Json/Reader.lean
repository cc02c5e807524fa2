import ReleaseLine.Json.Fault
import ReleaseLine.Text.Utf8

/-!
Reading JSON from bytes. A reader consumes bytes and keeps its place when it fails, since the
place of a fault about the shape of a value is settled only after the value has been closed.
-/

namespace ReleaseLine.Json

/-- A fault whose place is given by the bytes that follow it, or not settled yet. -/
structure Fault where
  reason : Reason
  rest : Option (List UInt8)

/-- A reader of a text of bounded length, over the bytes not consumed yet. -/
abbrev Reader := ReaderT Nat (EStateM Fault (List UInt8))

namespace Reader

variable {α σ : Type}

def failHere (reason : Reason) : Reader α := do throw ⟨reason, some (← get)⟩

def failNext (reason : Reason) : Reader α := do throw ⟨reason, some (← get).tail⟩

/-- Fail at a place that is settled later. -/
def failUnplaced (reason : Reason) : Reader α := throw ⟨reason, none⟩

/-- Settle the place of a fault at the present one, if it has none. -/
def placed (reader : Reader α) : Reader α := fun bound bytes =>
  match reader bound bytes with
  | .ok a rest => .ok a rest
  | .error ⟨reason, none⟩ rest => .error ⟨reason, some rest⟩ rest
  | .error fault rest => .error fault rest

/-- Read a body and then its closing, the latter also when the body failed; the first fault
counts. -/
def closedBy (body : Reader α) (closing : Reader Unit) : Reader α := fun bound bytes =>
  match body bound bytes with
  | .ok a rest =>
    match closing bound rest with
    | .ok _ rest => .ok a rest
    | .error fault rest => .error fault rest
  | .error fault rest =>
    match closing bound rest with
    | .ok _ rest | .error _ rest => .error fault rest

/-- Repeat a step until it yields a result, `n` times at most. -/
def iterate (step : σ → Reader (σ ⊕ α)) : Nat → σ → Reader α
  | 0, _ => failHere .tooDeep
  | n + 1, state => do
    match ← step state with
    | .inl state => iterate step n state
    | .inr result => pure result

/-- Repeat a step that consumes a byte each time, or is the last one. -/
def loop (step : σ → Reader (σ ⊕ α)) (start : σ) : Reader α := do
  iterate step ((← read) + 1) start

def peek : Reader (Option UInt8) := return (← get).head?

def skip : Reader Unit := modify List.tail

def next : Reader (Option UInt8) := do
  let b ← peek
  skip
  return b

def isSpace (b : UInt8) : Bool := b = 0x20 || b = 0x0a || b = 0x09 || b = 0x0d

/-- The next byte after white space, left in place. -/
def peekToken : Reader (Option UInt8) := do
  modify (·.dropWhile isSpace)
  peek

/-- The next byte after white space, or the fault that the text ends here. -/
def peekValue : Reader UInt8 := do
  match ← peekToken with
  | some b => return b
  | none => failNext .endInValue

def keyword : List UInt8 → Reader Unit
  | [] => pure ()
  | expected :: rest => do
    match ← next with
    | none => failHere .endInValue
    | some b => if b = expected then keyword rest else failHere .expectedIdentifier

def isDigit (b : UInt8) : Bool := 0x30 ≤ b && b ≤ 0x39

def digitValue (b : UInt8) : Nat := b.toNat - 0x30

def hexValue? (b : UInt8) : Option Nat :=
  if isDigit b then some (b.toNat - 0x30)
  else if 0x41 ≤ b ∧ b ≤ 0x46 then some (b.toNat - 0x37)
  else if 0x61 ≤ b ∧ b ≤ 0x66 then some (b.toNat - 0x57)
  else none

def fourHexDigits : Reader Nat := do
  match ← get with
  | a :: b :: c :: d :: rest =>
    set rest
    match hexValue? a, hexValue? b, hexValue? c, hexValue? d with
    | some a, some b, some c, some d => return ((a * 16 + b) * 16 + c) * 16 + d
    | _, _, _, _ => failHere .invalidEscape
  | _ =>
    set ([] : List UInt8)
    failHere .endInString

/-- Consume a byte that must be there inside a string. -/
def nextInString : Reader UInt8 := do
  match ← next with
  | some b => return b
  | none => failHere .endInString

/-- The byte must follow for a surrogate to be completed. -/
def completing (expected : UInt8) : Reader Unit := do
  let b ← nextInString
  if b = expected then pure () else failHere .unfinishedSurrogate

/-- The character of a numbered escape; characters beyond the basic plane are written as two
surrogates. -/
def numberedEscape : Reader Char := do
  let n ← fourHexDigits
  if 0xdc00 ≤ n ∧ n ≤ 0xdfff then failHere .loneSurrogate
  else if 0xd800 ≤ n ∧ n ≤ 0xdbff then
    completing 0x5c
    completing 0x75
    let low ← fourHexDigits
    if 0xdc00 ≤ low ∧ low ≤ 0xdfff then
      return Char.ofNat ((n - 0xd800) * 0x400 + (low - 0xdc00) + 0x10000)
    else failHere .loneSurrogate
  else return Char.ofNat n

def letterEscape? (b : UInt8) : Option UInt8 :=
  if b = 0x22 ∨ b = 0x5c ∨ b = 0x2f then some b
  else if b = 0x62 then some 0x08
  else if b = 0x66 then some 0x0c
  else if b = 0x6e then some 0x0a
  else if b = 0x72 then some 0x0d
  else if b = 0x74 then some 0x09
  else none

/-- The rest of a string after its opening quote. -/
def string : Reader String := do
  let bytes ← loop (fun (written : List UInt8) => do
    match ← peek with
    | none => failHere .endInString
    | some b =>
      skip
      if b = 0x22 then return .inr written.reverse
      else if b = 0x5c then
        let letter ← nextInString
        if letter = 0x75 then
          let c ← numberedEscape
          return .inl ((String.utf8EncodeChar c).reverse ++ written)
        else
          match letterEscape? letter with
          | some b => return .inl (b :: written)
          | none => failHere .invalidEscape
      else if b < 0x20 then failHere .controlCharacter
      else return .inl (b :: written)) []
  return String.ofList (Text.Utf8.decode bytes)

/-- The rest of a string whose content does not matter. -/
def skipString : Reader Unit :=
  loop (fun _ => do
    match ← peek with
    | none => failHere .endInString
    | some b =>
      if b = 0x22 then
        skip
        return .inr ()
      else if b = 0x5c then
        skip
        let letter ← nextInString
        if letter = 0x75 then
          let _ ← fourHexDigits
          return .inl ()
        else if (letterEscape? letter).isSome then return .inl ()
        else failHere .invalidEscape
      else if b < 0x20 then failHere .controlCharacter
      else
        skip
        return .inl ()) ()

inductive Number where
  | natural (n : Nat)
  | negative (n : Int)
  | float (x : Float)

def Number.found : Number → Found
  | .natural n => .unsigned n
  | .negative n => .signed n
  | .float x => .float x

def maxUInt64 : Nat := UInt64.size - 1

/-- A power of ten, rounded to the nearest number. -/
def powerOfTen (n : Nat) : Float := Float.ofScientific 1 false n

/-- Divide by ten to the power `n`, in steps that stay within the range of powers. -/
def divideByPower (f : Float) (n : Nat) : Float :=
  if n ≤ 308 then f / powerOfTen n
  else if f == 0 then f
  else divideByPower (f / powerOfTen 308) (n - 308)
termination_by n

/-- The number `significand * 10 ^ exponent`, by one rounded multiplication or division a step. -/
def floatOf (positive : Bool) (significand : Nat) (exponent : Int) : Reader Number := do
  let f := (UInt64.ofNat significand).toFloat
  let magnitude ←
    if exponent < 0 then pure (divideByPower f exponent.natAbs)
    else if 308 < exponent.natAbs then
      if f == 0 then pure f else failHere .numberOutOfRange
    else
      let product := f * powerOfTen exponent.natAbs
      if product.isInf then failHere .numberOutOfRange else pure product
  return .float (if positive then magnitude else -magnitude)

def skipDigits : Reader Unit := modify (·.dropWhile isDigit)

def isExponentMark (b : Option UInt8) : Bool := b = some 0x65 || b = some 0x45

def exponent (positive : Bool) (significand : Nat) (start : Int) : Reader Number := do
  skip
  let upwards ← do
    match ← peek with
    | some 0x2b => skip; pure true
    | some 0x2d => skip; pure false
    | _ => pure true
  match ← next with
  | none => failHere .endInValue
  | some b =>
    if isDigit b then
      let (n, overflow) ← loop (fun (n : Nat) => do
        match ← peek with
        | some d =>
          if isDigit d then
            skip
            let n' := n * 10 + digitValue d
            if n' > 2147483647 then return .inr (n, true) else return .inl n'
          else return .inr (n, false)
        | none => return .inr (n, false)) (digitValue b)
      if overflow then
        if significand ≠ 0 ∧ upwards then failHere .numberOutOfRange
        else
          skipDigits
          return .float (if positive then 0.0 else -0.0)
      else floatOf positive significand (if upwards then start + n else start - n)
    else failHere .invalidNumber

/-- The decimals after the point. Digits that do not fit the significand are left out. -/
def decimals (positive : Bool) (significand : Nat) (start : Int) : Reader Number := do
  skip
  let (significand, places, full) ← loop (fun (s, places) => do
    match ← peek with
    | some d =>
      if isDigit d then
        let s' := s * 10 + digitValue d
        if s' > maxUInt64 then return .inr (s, places, true)
        else
          skip
          return .inl (s', places + 1)
      else return .inr (s, places, false)
    | none => return .inr (s, places, false)) (significand, (0 : Nat))
  if full then skipDigits
  else if places = 0 then
    match ← peek with
    | some _ => failNext .invalidNumber
    | none => failNext .endInValue
  if isExponentMark (← peek) then exponent positive significand (start - places)
  else floatOf positive significand (start - places)

/-- A whole number too long for 64 bits: further digits only raise the exponent. -/
def longNumber (positive : Bool) (significand : Nat) : Reader Number := do
  let before := (← get).length
  skipDigits
  let dropped := before - (← get).length
  match ← peek with
  | some 0x2e => decimals positive significand dropped
  | b =>
    if isExponentMark b then exponent positive significand dropped
    else floatOf positive significand dropped

def afterWhole (positive : Bool) (significand : Nat) : Reader Number := do
  match ← peek with
  | some 0x2e => decimals positive significand 0
  | b =>
    if isExponentMark b then exponent positive significand 0
    else if positive then return .natural significand
    else if significand = 0 ∨ Nat.pow 2 63 < significand then
      return .float (-(UInt64.ofNat significand).toFloat)
    else return .negative (-(significand : Int))

def number (positive : Bool) : Reader Number := do
  match ← next with
  | none => failHere .endInValue
  | some b =>
    if b = 0x30 then
      if ((← peek).map isDigit).getD false then failNext .invalidNumber
      else afterWhole positive 0
    else if isDigit b then
      let (significand, long) ← loop (fun (s : Nat) => do
        match ← peek with
        | some d =>
          if isDigit d then
            let s' := s * 10 + digitValue d
            if s' > maxUInt64 then return .inr (s, true)
            else
              skip
              return .inl s'
          else return .inr (s, false)
        | none => return .inr (s, false)) (digitValue b)
      if long then longNumber positive significand else afterWhole positive significand
    else failHere .invalidNumber

def signedNumber : Reader Number := do
  if (← peek) = some 0x2d then
    skip
    number false
  else number true

def skipNumber : Reader Unit := do
  match ← next with
  | some b =>
    if b = 0x30 then
      if ((← peek).map isDigit).getD false then failNext .invalidNumber
    else if isDigit b then skipDigits
    else failHere .invalidNumber
  | none => failHere .invalidNumber
  if (← peek) = some 0x2e then
    skip
    if !((← peek).map isDigit).getD false then failNext .invalidNumber
    skipDigits
  if isExponentMark (← peek) then
    skip
    if (← peek) = some 0x2b ∨ (← peek) = some 0x2d then skip
    match ← next with
    | some b => if isDigit b then skipDigits else failHere .invalidNumber
    | none => failHere .invalidNumber

def hasElement (first : Bool) : Reader Bool := do
  match ← peekToken with
  | none => failNext .endInList
  | some b =>
    if b = 0x5d then return false
    else if first then return true
    else if b = 0x2c then
      skip
      match ← peekToken with
      | some 0x5d => failNext .trailingComma
      | some _ => return true
      | none => failNext .endInValue
    else failNext .expectedCommaOrListEnd

def hasMember (first : Bool) : Reader Bool := do
  match ← peekToken with
  | none => failNext .endInObject
  | some b =>
    if b = 0x7d then return false
    else if first then
      if b = 0x22 then return true else failNext .keyNotString
    else if b = 0x2c then
      skip
      match ← peekToken with
      | some 0x22 => return true
      | some 0x7d => failNext .trailingComma
      | some _ => failNext .keyNotString
      | none => failNext .endInValue
    else failNext .expectedCommaOrObjectEnd

def colon : Reader Unit := do
  match ← peekToken with
  | some 0x3a => skip
  | some _ => failNext .expectedColon
  | none => failNext .endInObject

def listEnd : Reader Unit := do
  match ← peekToken with
  | some 0x5d => skip
  | some 0x2c =>
    skip
    match ← peekToken with
    | some 0x5d => failNext .trailingComma
    | _ => failNext .trailingCharacters
  | some _ => failNext .trailingCharacters
  | none => failNext .endInList

def objectEnd : Reader Unit := do
  match ← peekToken with
  | some 0x7d => skip
  | some 0x2c => failNext .trailingComma
  | some _ => failNext .trailingCharacters
  | none => failNext .endInObject

/-- The fault that a value of another kind stands here; scalars are read first. -/
def wrongType (expected : String) : Reader α := placed do
  let fault (found : Found) : Reader α := failUnplaced (.wrongType found expected)
  match ← peek with
  | some 0x6e => skip; keyword [0x75, 0x6c, 0x6c]; fault .null
  | some 0x74 => skip; keyword [0x72, 0x75, 0x65]; fault (.boolean true)
  | some 0x66 => skip; keyword [0x61, 0x6c, 0x73, 0x65]; fault (.boolean false)
  | some 0x22 => do
    skip
    fault (.string (← string))
  | some 0x5b => fault .sequence
  | some 0x7b => fault .map
  | some b =>
    if b = 0x2d ∨ isDigit b then fault (← signedNumber).found
    else failNext .expectedValue
  | none => failNext .expectedValue

inductive Bracket where
  | square
  | curly
deriving DecidableEq

/-- Inside the brackets `open`, either just after a bracket or comma, where a value is expected,
or after a value. -/
inductive SkipState where
  | value (brackets : List Bracket)
  | member (bracket : Bracket) (outer : List Bracket)
  | afterValue (brackets : List Bracket) (fresh : Bool)

def skipStep : SkipState → Reader (SkipState ⊕ Unit)
  | .value brackets => do
    let b ← peekValue
    let scalar (reader : Reader Unit) : Reader (SkipState ⊕ Unit) := do
      reader
      return .inl (.afterValue brackets false)
    if b = 0x6e then scalar do skip; keyword [0x75, 0x6c, 0x6c]
    else if b = 0x74 then scalar do skip; keyword [0x72, 0x75, 0x65]
    else if b = 0x66 then scalar do skip; keyword [0x61, 0x6c, 0x73, 0x65]
    else if b = 0x2d then scalar do skip; skipNumber
    else if isDigit b then scalar skipNumber
    else if b = 0x22 then scalar do skip; skipString
    else if b = 0x5b then
      skip
      return .inl (.afterValue (.square :: brackets) true)
    else if b = 0x7b then
      skip
      return .inl (.afterValue (.curly :: brackets) true)
    else failNext .expectedValue
  | .afterValue [] _ => return .inr ()
  | .afterValue (bracket :: outer) fresh => do
    let closes (b : UInt8) : Bool := b = if bracket = .square then 0x5d else 0x7d
    match ← peekToken with
    | some b =>
      if closes b then
        skip
        return .inl (.afterValue outer false)
      else if fresh then return .inl (.member bracket outer)
      else if b = 0x2c then
        skip
        return .inl (.member bracket outer)
      else
        failNext
          (if bracket = .square then .expectedCommaOrListEnd else .expectedCommaOrObjectEnd)
    | none => failNext (if bracket = .square then .endInList else .endInObject)
  | .member .square outer => return .inl (.value (.square :: outer))
  | .member .curly outer => do
    match ← peekToken with
    | some 0x22 => skip
    | some _ => failNext .keyNotString
    | none => failNext .endInObject
    skipString
    colon
    return .inl (.value (.curly :: outer))

def skipValue : Reader Unit := do iterate skipStep (3 * ((← read) + 1)) (.value [])

/-- A reader of the whole of a text: only white space may follow. -/
def whole (reader : Reader α) : Reader α := do
  let a ← reader
  match ← peekToken with
  | none => return a
  | some _ => failNext .trailingCharacters

def run (reader : Reader α) (text : List UInt8) : Except Error α :=
  match whole reader text.length text with
  | .ok a _ => .ok a
  | .error fault rest =>
    let following := fault.rest.getD rest
    .error ⟨fault.reason, Position.after (text.take (text.length - following.length))⟩

end Reader

end ReleaseLine.Json
