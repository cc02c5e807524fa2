
namespace ReleaseLine.Text.Base64

def alphabet : List Char :=
  "ABCDEFGHIJKLMNOPQRSTUVWXYZabcdefghijklmnopqrstuvwxyz0123456789+/".toList

def digit (n : Nat) : Char := (alphabet[n % 64]?).getD 'A'

def digit? (c : Char) : Option Nat :=
  let n := c.toNat
  if 'A' ≤ c ∧ c ≤ 'Z' then some (n - 65)
  else if 'a' ≤ c ∧ c ≤ 'z' then some (n - 71)
  else if '0' ≤ c ∧ c ≤ '9' then some (n + 4)
  else if c = '+' then some 62
  else if c = '/' then some 63
  else none

/-- Three bytes become four characters; what is left over is padded with equals signs. -/
def encode : List UInt8 → List Char
  | [] => []
  | [a] => [digit (a.toNat / 4), digit (a.toNat % 4 * 16), '=', '=']
  | [a, b] =>
    [digit (a.toNat / 4), digit (a.toNat % 4 * 16 + b.toNat / 16), digit (b.toNat % 16 * 4), '=']
  | a :: b :: c :: rest =>
    digit (a.toNat / 4) :: digit (a.toNat % 4 * 16 + b.toNat / 16) ::
      digit (b.toNat % 16 * 4 + c.toNat / 64) :: digit (c.toNat % 64) :: encode rest

/-- The bytes that numbers below 64 hold, four of them three bytes; bits left over are dropped. -/
def join : List Nat → List UInt8
  | x :: y :: z :: w :: rest =>
    UInt8.ofNat (x * 4 + y / 16) :: UInt8.ofNat (y % 16 * 16 + z / 4) ::
      UInt8.ofNat (z % 4 * 64 + w) :: join rest
  | [x, y, z] => [UInt8.ofNat (x * 4 + y / 16), UInt8.ofNat (y % 16 * 16 + z / 4)]
  | [x, y] => [UInt8.ofNat (x * 4 + y / 16)]
  | _ => []

/-- Whether so many characters can hold bytes, with so many equals signs behind them: either none
or as many as fill the last four characters up. One character more than a multiple of four holds
less than a byte. -/
def isWhole (digits padding : Nat) : Bool :=
  if padding = 0 then digits % 4 != 1 else padding ≤ 2 && (digits + padding) % 4 == 0

/-- The bytes that a text encodes, which need not be padded. -/
def decode (text : List Char) : Option (List UInt8) :=
  let (digits, padding) := text.span (· ≠ '=')
  if padding.all (· = '=') ∧ isWhole digits.length padding.length then
    (digits.mapM digit?).map join
  else none

end ReleaseLine.Text.Base64
