import ReleaseLine.Decimal
import ReleaseLine.Url.Domain
import ReleaseLine.Url.Percent

namespace ReleaseLine.Url

inductive SyntaxError where
  | relative
  | emptyHost
  | invalidPort
  | invalidIpv4
  | invalidIpv6
  | invalidDomain
  | invalidDomainCharacter
deriving DecidableEq

def SyntaxError.message : SyntaxError → String
  | .relative => "relative URL without a base"
  | .emptyHost => "empty host"
  | .invalidPort => "invalid port number"
  | .invalidIpv4 => "invalid IPv4 address"
  | .invalidIpv6 => "invalid IPv6 address"
  | .invalidDomain => "invalid international domain name"
  | .invalidDomainCharacter => "invalid domain character"

/-- A domain in its ASCII form or a numbered address of either kind. -/
inductive Host where
  | domain (name : String)
  | ipv4 (address : Nat)
  | ipv6 (pieces : List Nat)
deriving DecidableEq

namespace Host

/-- The value of digits in a base, if there are any and all are below the base. -/
def readDigits? (base : Nat) (digits : List Char) : Option Nat :=
  digits.foldlM (fun n c => do
    let d ← if c.isDigit then some (c.toNat - 48)
      else if 'a' ≤ c.toLower ∧ c.toLower ≤ 'f' then some (c.toLower.toNat - 87)
      else none
    if d < base then some (n * base + d) else none) 0

/-- One part of an address: hexadecimal after `0x`, octal after `0`, else decimal. -/
def readPart? : List Char → Option Nat
  | [] => none
  | '0' :: 'x' :: rest | '0' :: 'X' :: rest => readDigits? 16 rest
  | '0' :: d :: rest => readDigits? 8 (d :: rest)
  | digits => readDigits? 10 digits

/-- The parts of a domain; one dot at the end is dropped. -/
def parts (domain : List Char) : List (List Char) :=
  let parts := domain.splitOn '.'
  if parts.length > 1 ∧ parts.getLast? = some [] then parts.dropLast else parts

def endsInNumber (domain : List Char) : Bool :=
  match (parts domain).getLast? with
  | none | some [] => false
  | some last => last.all Char.isDigit || (readPart? last).isSome

/-- An address of one to four parts; the last one fills the bytes that are left. -/
def ipv4? (domain : List Char) : Option Nat := do
  let numbers ← (parts domain).mapM readPart?
  let last ← numbers.getLast?
  let leading := numbers.dropLast
  if numbers.length ≤ 4 ∧ leading.all (· ≤ 255) ∧ last < Nat.pow 256 (4 - leading.length) then
    some (leading.foldr (fun n low => n * Nat.pow 256 3 + low / 256) 0 + last)
  else none

def renderIpv4 (address : Nat) : List Char :=
  let byte (n : Nat) := Decimal.numeral (address / Nat.pow 256 n % 256)
  byte 3 ++ '.' :: byte 2 ++ '.' :: byte 1 ++ '.' :: byte 0

/-- One byte of the decimal part of an address; no leading zero. -/
def decimalByte? (digits : List Char) : Option Nat := do
  let n ← Decimal.read? digits
  if n ≤ 255 ∧ (digits.length = 1 ∨ digits.head? ≠ some '0') then some n else none

/-- The two pieces that four decimal bytes make. -/
def decimalPieces? (text : List Char) : Option (List Nat) := do
  match ← (text.splitOn '.').mapM decimalByte? with
  | [a, b, c, d] => some [a * 256 + b, c * 256 + d]
  | _ => none

def piece? (digits : List Char) : Option Nat :=
  if digits.isEmpty ∨ 4 < digits.length then none else readDigits? 16 digits

/-- The pieces between colons; the last one may be the decimal form of two. -/
def pieces? (decimalEnd : Bool) : List (List Char) → Option (List Nat)
  | [] => some []
  | [last] =>
    if decimalEnd ∧ last.contains '.' then decimalPieces? last else (piece? last).map ([·])
  | group :: rest => do
    let n ← piece? group
    let tail ← pieces? decimalEnd rest
    some (n :: tail)

def splitDoubleColon : List Char → Option (List Char × List Char)
  | ':' :: ':' :: rest => some ([], rest)
  | c :: rest => (splitDoubleColon rest).map fun (before, after) => (c :: before, after)
  | [] => none

def groups (text : List Char) : List (List Char) :=
  if text.isEmpty then [] else text.splitOn ':'

/-- An address of eight pieces; a double colon stands for the zeros that are missing. -/
def ipv6? (text : List Char) : Option (List Nat) :=
  match splitDoubleColon text with
  | none => do
    let pieces ← pieces? true (groups text)
    if pieces.length = 8 then some pieces else none
  | some (before, after) => do
    let front ← pieces? false (groups before)
    let back ← pieces? true (groups after)
    let missing := 8 - (front.length + back.length)
    if front.length + back.length ≤ 7 then some (front ++ List.replicate missing 0 ++ back)
    else none

/-- Where the longest run of at least two zeros starts and how long it is; the first of equals. -/
def zeroRun (pieces : List Nat) : Option (Nat × Nat) :=
  let runs := (List.range pieces.length).map fun i =>
    (i, ((pieces.drop i).takeWhile (· = 0)).length)
  runs.foldl (fun best run =>
    if 2 ≤ run.2 ∧ (best.map fun b => decide (b.2 < run.2)).getD true then some run else best) none

def joinPieces (pieces : List Nat) : List Char :=
  [':'].intercalate (pieces.map (Nat.toDigits 16))

def renderIpv6 (pieces : List Nat) : List Char :=
  match zeroRun pieces with
  | none => joinPieces pieces
  | some (start, length) =>
    joinPieces (pieces.take start) ++ ':' :: ':' :: joinPieces (pieces.drop (start + length))

def bracketed? (text : List Char) : Option (List Char) :=
  match text with
  | '[' :: rest => if rest.getLast? = some ']' then some rest.dropLast else none
  | _ => none

def readIpv6 (text : List Char) : Except SyntaxError Host :=
  match (bracketed? text).bind ipv6? with
  | some pieces => .ok (.ipv6 pieces)
  | none => .error .invalidIpv6

/-- The host that a text names. A domain whose last label is a number has to be an address. -/
def parse (text : List Char) : Except SyntaxError Host :=
  if text.head? = some '[' then readIpv6 text
  else
    let bytes := Percent.decode (String.ofList text).toUTF8.toList
    match String.fromUTF8? (ByteArray.mk bytes.toArray) >>= fun s => Domain.toAscii? s.toList with
    | none => .error .invalidDomain
    | some [] => .error .emptyHost
    | some name =>
      if endsInNumber name then
        match ipv4? name with
        | some address => .ok (.ipv4 address)
        | none => .error .invalidIpv4
      else .ok (.domain (String.ofList name))

def isForbiddenUnknown (c : Char) : Bool :=
  ['\x00', '\t', '\n', '\r', ' ', '#', '/', ':', '<', '>', '?', '@', '[', '\\', ']', '^',
    '|'].contains c

/-- The host of a URL whose scheme is unknown: any text, percent-encoded. -/
def parseUnknown (text : List Char) : Except SyntaxError Host :=
  if text.head? = some '[' then readIpv6 text
  else if text.any isForbiddenUnknown then .error .invalidDomainCharacter
  else .ok (.domain (String.ofList (Percent.encode Percent.controls text)))

def render : Host → String
  | .domain name => name
  | .ipv4 address => String.ofList (renderIpv4 address)
  | .ipv6 pieces => String.ofList ('[' :: renderIpv6 pieces ++ [']'])

end Host

end ReleaseLine.Url
