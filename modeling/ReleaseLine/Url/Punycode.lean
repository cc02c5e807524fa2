/-!
Punycode: a label of any characters written with letters, digits and hyphens. The basic
characters come first; then each other character, in order of code points, is written as the
number of steps that a counter over code points and places takes to reach it.
-/

namespace ReleaseLine.Url.Punycode

def digit (n : Nat) : Char := if n < 26 then Char.ofNat (97 + n) else Char.ofNat (22 + n)

def digit? (c : Char) : Option Nat :=
  if 'a' ≤ c ∧ c ≤ 'z' then some (c.toNat - 97)
  else if 'A' ≤ c ∧ c ≤ 'Z' then some (c.toNat - 65)
  else if '0' ≤ c ∧ c ≤ '9' then some (c.toNat - 22)
  else none

/-- Halve the gap to the range of one more digit, `fuel` times at most. -/
def reduce : Nat → Nat → Nat → Nat
  | 0, _, k => k
  | fuel + 1, delta, k =>
    if delta > 455 then reduce fuel (delta / 35) (k + 36) else k + 36 * delta / (delta + 38)

/-- The bias for the next number, from the number just written. -/
def adapt (delta written : Nat) (first : Bool) : Nat :=
  let delta := if first then delta / 700 else delta / 2
  reduce 64 (delta + delta / written) 0

/-- The least digit that continues a number at position `k`. -/
def threshold (k bias : Nat) : Nat :=
  if k ≤ bias + 1 then 1 else if bias + 26 ≤ k then 26 else k - bias

def number : Nat → Nat → Nat → Nat → List Char
  | 0, _, _, _ => []
  | fuel + 1, q, k, bias =>
    let t := threshold k bias
    if q < t then [digit q]
    else digit (t + (q - t) % (36 - t)) :: number fuel ((q - t) / (36 - t)) (k + 36) bias

/-- The state while characters are written: the counter, the bias, and how many characters are
written. -/
structure Progress where
  delta : Nat
  bias : Nat
  written : Nat
  output : List Char

/-- Write every occurrence of the code point `n`, having counted all places of lesser ones. -/
def writeAll (basic n : Nat) (p : Progress) (label : List Nat) : Progress :=
  let p := label.foldl (fun (p : Progress) c =>
    if c < n then { p with delta := p.delta + 1 }
    else if c = n then
      { delta := 0
        bias := adapt p.delta (p.written + 1) (p.written = basic)
        written := p.written + 1
        output := p.output ++ number 64 p.delta 36 p.bias }
    else p) p
  { p with delta := p.delta + 1 }

/-- The code points outside ASCII, ascending and each once. -/
def extended (label : List Nat) : List Nat :=
  (label.filter (0x80 ≤ ·)).mergeSort.eraseReps

def encode (label : List Char) : List Char :=
  let points := label.map Char.toNat
  let basic := label.filter (·.toNat < 0x80)
  let start : Progress := ⟨0, 72, basic.length, if basic.isEmpty then [] else basic ++ ['-']⟩
  let (p, _) := (extended points).foldl (fun (p, n) m =>
    (writeAll basic.length m { p with delta := p.delta + (m - n) * (p.written + 1) } points,
      m + 1)) (start, 0x80)
  p.output

/-- Numbers and the weights of their digits stay below this. -/
def numberLimit : Nat := 0x100000000

/-- Read one number: its value and the digits behind it. -/
def readNumber : List Char → Nat → Nat → Nat → Nat → Option (Nat × List Char)
  | [], _, _, _, _ => none
  | c :: rest, i, w, k, bias => do
    let d ← digit? c
    let i := i + d * w
    let t := threshold k bias
    if numberLimit ≤ i then none
    else if d < t then some (i, rest)
    else if numberLimit ≤ w * (36 - t) then none
    else readNumber rest i (w * (36 - t)) (k + 36) bias

/-- Insert characters one after the other, `fuel` of them at most. -/
def insertAll : Nat → List Char → List Char → Nat → Nat → Nat → Option (List Char)
  | _, [], label, _, _, _ => some label
  | 0, _ :: _, _, _, _, _ => none
  | fuel + 1, digits, label, n, i, bias => do
    let (j, rest) ← readNumber digits i 1 36 bias
    let size := label.length + 1
    let bias := adapt (j - i) size (i = 0)
    let point := n + j / size
    let place := j % size
    if point > 0x10ffff ∨ (0xd800 ≤ point ∧ point ≤ 0xdfff) then none
    else insertAll fuel rest (label.insertIdx place (Char.ofNat point)) point (place + 1) bias

/-- The label that a text stands for. Its basic characters end at the last hyphen; a hyphen at
the start ends none. -/
def decode (text : List Char) : Option (List Char) :=
  let (tail, head) := text.reverse.span (· ≠ '-')
  let basic := head.tail.reverse
  let digits := if basic.isEmpty then text else tail.reverse
  if basic.all (·.toNat < 0x80) then insertAll (digits.length + 1) digits basic 0x80 0 72 else none

end ReleaseLine.Url.Punycode
