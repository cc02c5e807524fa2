import ReleaseLine.Decimal

namespace ReleaseLine

/-- A length of time in whole nanoseconds. -/
structure Duration where
  nanoseconds : Nat
deriving DecidableEq, Inhabited

namespace Duration

def ofMilliseconds (n : Nat) : Duration := ⟨n * 1000000⟩

def ofSeconds (seconds nanoseconds : Nat) : Duration := ⟨seconds * 1000000000 + nanoseconds⟩

/-- The decimals of `n / 10 ^ places`, without the zeros at their end. -/
def decimals (places n : Nat) : List Char :=
  let digits := Decimal.numeral (n + Nat.pow 10 places)
  (digits.drop 1).reverse.dropWhile (· = '0') |>.reverse

/-- A number of units of `10 ^ places` nanoseconds each, with its decimals. -/
def inUnits (places : Nat) (name : String) (n : Nat) : String :=
  let whole := Decimal.numeral (n / Nat.pow 10 places)
  match decimals places (n % Nat.pow 10 places) with
  | [] => String.ofList whole ++ name
  | rest => String.ofList (whole ++ '.' :: rest) ++ name

/-- The length in the largest of the units second, millisecond, microsecond and nanosecond that it
fills, with as many decimals as it needs. -/
def render (d : Duration) : String :=
  let n := d.nanoseconds
  if 1000000000 ≤ n then inUnits 9 "s" n
  else if 1000000 ≤ n then inUnits 6 "ms" n
  else if 1000 ≤ n then inUnits 3 "µs" n
  else inUnits 0 "ns" n

end Duration

end ReleaseLine
