/-!
Tables that give values to ranges of numbers, for the most part of code points. A table is written
as lines of words, with numbers in hexadecimal, and searched by halving.
-/

namespace ReleaseLine.Text

/-- Ranges of numbers, ascending and apart from each other, each with a value. -/
structure RangeTable (α : Type) where
  rows : Array (Nat × Nat × α)

namespace RangeTable

variable {α : Type}

/-- The place of `n` in its range and the value of the range, from the rows `low` up to `high`. -/
def search (rows : Array (Nat × Nat × α)) (n low high : Nat) : Option (Nat × α) :=
  if low < high then
    let middle := (low + high) / 2
    match rows[middle]? with
    | none => none
    | some (first, last, value) =>
      if n < first then search rows n low middle
      else if last < n then search rows n (middle + 1) high
      else some (n - first, value)
  else none
termination_by high - low
decreasing_by all_goals omega

/-- The place of `n` in its range, counted from zero, and the value of the range. -/
def find? (table : RangeTable α) (n : Nat) : Option (Nat × α) :=
  search table.rows n 0 table.rows.size

def value? (table : RangeTable α) (n : Nat) : Option α := (table.find? n).map (·.2)

def contains (table : RangeTable α) (n : Nat) : Bool := (table.find? n).isSome

def words (lines : List String) : List (List Char) := lines.flatMap (·.toList.splitOn ' ')

def splitAt (mark : Char) (word : List Char) : List Char × List Char :=
  let (before, after) := word.span (· ≠ mark)
  (before, after.tail)

def hex (digits : List Char) : Nat :=
  digits.foldl (fun n c => n * 16 + (if c.isDigit then c.toNat - 48 else c.toNat - 87)) 0

/-- Both ends of a range with a hyphen between them, or its only number. -/
def readRange (word : List Char) : Nat × Nat :=
  match splitAt '-' word with
  | (first, []) => (hex first, hex first)
  | (first, last) => (hex first, hex last)

/-- Ranges alone, as in `3a 40-7f`. -/
def ofRanges (lines : List String) : RangeTable Unit :=
  ⟨((words lines).map fun word =>
    let (first, last) := readRange word
    (first, last, ())).toArray⟩

/-- Ranges with a number each, as in `3a+1 40-7f+c0`. -/
def ofNumbers (lines : List String) : RangeTable Nat :=
  ⟨((words lines).map fun word =>
    let (range, number) := splitAt '+' word
    let (first, last) := readRange range
    (first, last, hex number)).toArray⟩

/-- The first of some numbers in a row and, for each of them, characters, as in
`40:61.308,62,63`. -/
def ofTexts (lines : List String) : RangeTable (List (List Char)) :=
  ⟨((words lines).map fun word =>
    let (start, list) := splitAt ':' word
    let texts := (list.splitOn ',').map fun text =>
      (text.splitOn '.').map fun digits => Char.ofNat (hex digits)
    (hex start, hex start + (texts.length - 1), texts)).toArray⟩

end RangeTable

end ReleaseLine.Text
