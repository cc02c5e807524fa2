import ReleaseLine.Decimal

namespace ReleaseLine.Decimal

/-- A number `digits * 10 ^ exponent`. -/
structure Scaled where
  digits : Nat
  exponent : Int
deriving DecidableEq

namespace Binary64

/-- The magnitude of a finite number as `significand * 2 ^ power`. -/
structure Magnitude where
  significand : Nat
  power : Int
  /-- Whether the next smaller number is only half as far away as the next greater one. -/
  narrowBelow : Bool

def isNegative (x : Float) : Bool := x.toBits >>> 63 = 1

def magnitude (x : Float) : Magnitude :=
  let bits := x.toBits.toNat
  let fraction : Nat := bits % Nat.pow 2 52
  let exponent : Nat := bits / Nat.pow 2 52 % Nat.pow 2 11
  if exponent = 0 then ⟨fraction, -1074, false⟩
  else ⟨fraction + Nat.pow 2 52, (exponent : Int) - 1075, fraction = 0 && exponent ≠ 1⟩

def scale (numerator denominator base : Nat) (e : Int) : Nat × Nat :=
  if e < 0 then (numerator, denominator * Nat.pow base e.natAbs)
  else (numerator * Nat.pow base e.natAbs, denominator)

/-- The place of the leading digit: the greatest power of ten that is not above the number. -/
def leadingPlace (m : Magnitude) : Int :=
  let (a, b) := scale (m.significand * Nat.pow 10 400) 1 2 m.power
  ((numeral (a / b)).length : Int) - 401

/-- The better of the two neighbours of a number on the grid of multiples of `10 ^ place`, if one
of them reads back as the number. -/
def onGrid? (m : Magnitude) (place : Int) : Option Scaled :=
  -- In quarters of the last place of the significand, as multiples of the grid's step.
  let quarters (n : Nat) : Nat × Nat :=
    let (a, b) := scale n 1 2 (m.power - 2)
    scale a b 10 (-place)
  let least := quarters (4 * m.significand - if m.narrowBelow then 1 else 2)
  let exact := quarters (4 * m.significand)
  let greatest := quarters (4 * m.significand + 2)
  let inside (n : Nat) : Bool :=
    if m.significand % 2 = 0 then least.1 ≤ n * least.2 && n * greatest.2 ≤ greatest.1
    else least.1 < n * least.2 && n * greatest.2 < greatest.1
  let below := exact.1 / exact.2
  let above := below + 1
  let fromBelow := exact.1 - below * exact.2
  let toAbove := above * exact.2 - exact.1
  let belowFirst := fromBelow < toAbove || (fromBelow = toAbove && below % 2 = 0)
  let candidates := if belowFirst then [below, above] else [above, below]
  (candidates.find? inside).map (⟨·, place⟩)

/-- The fewest digits that read back as a number other than zero. -/
def shortest (m : Magnitude) : Scaled :=
  let top := leadingPlace m
  ((List.range 17).findSome? fun (n : Nat) => onGrid? m (top - n)).getD ⟨m.significand, 0⟩

/-- The digits of a number other than zero, without zeros at the end, and the place of the
point: the number is `0.digits * 10 ^ place`. -/
def digitsAndPlace (x : Float) : List Char × Int :=
  let s := shortest (magnitude x)
  let digits := numeral s.digits
  let kept := (digits.reverse.dropWhile (· = '0')).reverse
  (kept, s.exponent + digits.length)

/-- Positional notation, with one decimal at least. -/
def positional (digits : List Char) (place : Int) : List Char :=
  if place ≤ 0 then '0' :: '.' :: List.replicate place.natAbs '0' ++ digits
  else
    let n := place.toNat
    if digits.length ≤ n then digits ++ List.replicate (n - digits.length) '0' ++ ['.', '0']
    else digits.take n ++ '.' :: digits.drop n

/-- Scientific notation, the sign of the exponent always written. -/
def scientific (digits : List Char) (place : Int) : List Char :=
  let mantissa := match digits with
    | d :: e :: rest => d :: '.' :: e :: rest
    | short => short
  let exponent := place - 1
  mantissa ++ 'e' :: (if exponent < 0 then '-' else '+') :: numeral exponent.natAbs

def renderWith (notate : List Char → Int → List Char) (x : Float) : String :=
  let digits := if x == 0 then ['0', '.', '0'] else
    let (digits, place) := digitsAndPlace x
    notate digits place
  String.ofList (if isNegative x then '-' :: digits else digits)

def renderPositional (x : Float) : String := renderWith positional x

/-- Positional notation from `0.00001` up to below `10 ^ 16`, else scientific notation. -/
def renderShort (x : Float) : String :=
  renderWith (fun digits place =>
    if -5 < place ∧ place ≤ 16 then positional digits place else scientific digits place) x

end Binary64

end ReleaseLine.Decimal
