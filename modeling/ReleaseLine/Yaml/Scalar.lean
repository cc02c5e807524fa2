import ReleaseLine.Decimal
import ReleaseLine.Yaml.Node

namespace ReleaseLine.Yaml.Scalar

def isNull (text : String) : Bool := ["null", "Null", "NULL", "~"].contains text

def boolean? (text : String) : Option Bool :=
  if ["true", "True", "TRUE"].contains text then some true
  else if ["false", "False", "FALSE"].contains text then some false
  else none

/-- Digits behind a needless zero, which make a text and no number. -/
def isZeroPadded (text : List Char) : Bool :=
  let unsigned := match text with
    | '-' :: rest | '+' :: rest => rest
    | plain => plain
  match unsigned with
  | '0' :: d :: rest => (d :: rest).all Char.isDigit
  | _ => false

def digits? (base : Nat) (text : List Char) : Option Nat :=
  if text.isEmpty then none
  else text.foldlM (fun n c => do
    let d ← Token.hexValue? c
    if d < base then some (n * base + d) else none) 0

def natural? (text : List Char) : Option Nat :=
  match text with
  | '0' :: 'x' :: rest => digits? 16 rest
  | '0' :: 'o' :: rest => digits? 8 rest
  | '0' :: 'b' :: rest => digits? 2 rest
  | plain => if isZeroPadded plain then none else digits? 10 plain

/-- A natural number with or without a plus sign. -/
def unsigned? (text : List Char) : Option Nat :=
  match text with
  | '+' :: rest => natural? rest
  | plain => natural? plain

def negative? (text : List Char) : Option Nat :=
  match text with
  | '-' :: rest => natural? rest
  | _ => none

/-- An integer that fits 64 bits, or a wide one that fits 128 bits. -/
def integer? (text : List Char) : Option Found :=
  match unsigned? text, negative? text with
  | some n, _ =>
    if n < UInt64.size then some (.integer n)
    else if n < Nat.pow 2 128 then some (.wideInteger n) else none
  | none, some n =>
    if n ≤ Nat.pow 2 63 then some (.integer (-n))
    else if n ≤ Nat.pow 2 127 then some (.wideInteger (-n)) else none
  | none, none => none

/-- The parts of a decimal number without its sign: all digits, and the power of ten of the last
one. -/
def decimalParts? (text : List Char) : Option (List Char × Int) := do
  let whole := text.takeWhile Char.isDigit
  let rest := text.dropWhile Char.isDigit
  let (places, rest) := match rest with
    | '.' :: after => (after.takeWhile Char.isDigit, after.dropWhile Char.isDigit)
    | other => ([], other)
  if whole.isEmpty ∧ places.isEmpty then none
  let exponent ← match rest with
    | [] => some (0 : Int)
    | e :: after =>
      if e = 'e' ∨ e = 'E' then
        match after with
        | '+' :: ds => (Decimal.read? ds).map Int.ofNat
        | '-' :: ds => (Decimal.read? ds).map fun n => -(n : Int)
        | ds => (Decimal.read? ds).map Int.ofNat
      else none
  some (whole ++ places, exponent - places.length)

/-- The nearest number to `digits * 10 ^ exponent`; what is far out of range needs no
arithmetic. -/
def nearest (digits : Nat) (exponent : Int) : Float :=
  let size : Int := (Decimal.numeral digits).length + exponent
  if digits = 0 ∨ size < -400 then 0.0
  else if 400 < size then 1.0 / 0.0
  else Float.ofScientific digits (exponent < 0) exponent.natAbs

def finiteFloat? (text : List Char) : Option Float := do
  let (negative, magnitude) := match text with
    | '-' :: rest => (true, rest)
    | plain => (false, plain)
  let (digits, exponent) ← decimalParts? magnitude
  let x := nearest (Decimal.value digits) exponent
  if x.isInf then none else some (if negative then -x else x)

def float? (text : List Char) : Option Float :=
  let unsigned := match text with
    | '+' :: rest => rest
    | plain => plain
  if text.head? = some '+' ∧ (unsigned.head? = some '+' ∨ unsigned.head? = some '-') then none
  else if [".inf", ".Inf", ".INF"].contains (String.ofList unsigned) then some (1.0 / 0.0)
  else if ["-.inf", "-.Inf", "-.INF"].contains (String.ofList text) then some (-1.0 / 0.0)
  else if [".nan", ".NaN", ".NAN"].contains (String.ofList text) then some (0.0 / 0.0)
  else finiteFloat? unsigned

/-- What a plain scalar stands for: nothing, a boolean, an integer, a number with a point, or a
text. -/
def resolve (text : String) : Found :=
  let chars := text.toList
  if text = "" ∨ isNull text then .nothing
  else
    match boolean? text, integer? chars with
    | some b, _ => .boolean b
    | none, some n => n
    | none, none =>
      if isZeroPadded chars then .string text
      else
        match float? chars with
        | some x => .float x
        | none => .string text

def coreTag (name : String) : String := "tag:yaml.org,2002:" ++ name

/-- How a scalar differs from what was expected. A tag of the core schema decides what the text
stands for, if it can. -/
def mismatch (s : Scalar) (expected : String) : Mismatch :=
  let chars := s.text.toList
  let tagged (found : Option Found) (kind : String) : Mismatch :=
    match found with
    | some found => .wrongType found expected
    | none => .wrongValue (.string s.text) kind
  let untagged : Mismatch := .wrongType (resolve s.text) expected
  let string : Mismatch := .wrongType (.string s.text) expected
  match s.tag with
  | none => if s.style = .plain then untagged else string
  | some tag =>
    if tag = coreTag "bool" then tagged ((boolean? s.text).map .boolean) "a boolean"
    else if tag = coreTag "int" then tagged (integer? chars) "an integer"
    else if tag = coreTag "float" then tagged ((float? chars).map .float) "a float"
    else if tag = coreTag "null" then tagged (if isNull s.text then some .nothing else none) "null"
    else if tag.startsWith "!" ∧ s.style = .plain then untagged
    else string

end ReleaseLine.Yaml.Scalar
