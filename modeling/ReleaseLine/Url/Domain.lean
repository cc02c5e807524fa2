import ReleaseLine.Url.Domain.Joiner
import ReleaseLine.Url.Domain.Mapping
import ReleaseLine.Url.Domain.Mark
import ReleaseLine.Url.Punycode

namespace ReleaseLine.Url.Domain

/-- The most characters that a label is written in its ASCII form from. -/
def longestWide : Nat := 1000

/-- The most characters that the numbers of a label are read from. -/
def longestNumbered : Nat := 2000

def isForbidden (c : Char) : Bool :=
  c.toNat ≤ 0x20 || c.toNat = 0x7f ||
    ['%', '#', '/', ':', '<', '>', '?', '@', '[', '\\', ']', '^', '|'].contains c

/-- The text that a domain is read as, unless a character is refused. -/
def meaningOf? (text : List Char) : Option (List Char) :=
  (text.mapM meaning?).map fun parts => Text.compose parts.flatten

/-- What follows the mark of a label in its ASCII form. -/
def numbered? (label : List Char) : Option (List Char) :=
  match label with
  | 'x' :: 'n' :: '-' :: '-' :: rest => some rest
  | _ => none

def isPlain (label : List Char) : Bool := label.all (·.toNat < 0x80)

/-- The characters of a label. Those that its ASCII form numbers stand for themselves, and not all
of them are plain. -/
def characters? (label : List Char) : Option (List Char) :=
  match numbered? label with
  | some numbers => do
    if longestNumbered < numbers.length then none
    let text ← Punycode.decode numbers
    if isPlain text ∨ (numbered? text).isSome ∨ meaningOf? text ≠ some text then none
    some text
  | none => if !isPlain label && longestWide < label.length then none else some label

/-- Whether a label starts with a letter and its joiners are in place. -/
def isWellFormed (label : List Char) : Bool :=
  !((label.head?.map isMark).getD false) && joinersFit [] label

def labelToAscii (label : List Char) : List Char :=
  if isPlain label then label else 'x' :: 'n' :: '-' :: '-' :: Punycode.encode label

/-- The ASCII form of a domain, in which a label with other characters is written with them as
numbers, after four characters that mark it. Only labels that no other label reads like are
valid. -/
def toAscii? (domain : List Char) : Option (List Char) := do
  let text ← meaningOf? domain
  if text.any isForbidden then none
  let labels := text.splitOn '.'
  let shown ← labels.mapM characters?
  let leftward := shown.any runsLeftward
  if shown.all fun label => isWellFormed label && (!leftward || keepsDirection label) then
    some (['.'].intercalate (labels.map labelToAscii))
  else none

end ReleaseLine.Url.Domain
