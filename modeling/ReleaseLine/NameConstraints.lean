import ReleaseLine.Der

namespace ReleaseLine.NameConstraints

open Der

/-- A name that constraints are about. Constraints on the holders of certificates admit none. -/
inductive Base where
  | domain (name : List UInt8)
  | holder
  | other
deriving DecidableEq

def Base.ofElement? (e : Element) : Option Base :=
  if e.tag = Tag.choice 2 then some (.domain e.content)
  else if e.tag = Tag.optional 4 then some .holder
  else if e.tag ∈ [Tag.choice 1, Tag.choice 6, Tag.choice 7, Tag.choice 8, Tag.optional 0,
      Tag.optional 3, Tag.optional 5] then some .other
  else none

def Base.read? (e : Element) : Option Base := do
  match ← e.elements? Tag.sequence with
  | [inner] => ofElement? inner
  | _ => none

def isLabelByte (b : UInt8) : Bool :=
  (0x30 ≤ b && b ≤ 0x39) || (0x41 ≤ b && b ≤ 0x5a) || (0x61 ≤ b && b ≤ 0x7a) || b = 0x5f ||
    b = 0x2d

def isLabel (label : List UInt8) : Bool :=
  !label.isEmpty && decide (label.length ≤ 63) && label.all isLabelByte &&
    label.head? ≠ some 0x2d && label.getLast? ≠ some 0x2d

/-- Whether a constraint is well formed: nothing, or a domain that may begin with a dot and does
not end in a number. -/
def isDomain (name : List UInt8) : Bool :=
  if name.isEmpty then true
  else
    let labels := name.splitOn 0x2e
    let labels := if labels.head? = some [] then labels.tail else labels
    decide (name.length ≤ 253) && !labels.isEmpty && labels.all isLabel &&
      !(labels.getLast?.any (·.all fun b => 0x30 ≤ b && b ≤ 0x39))

def lower (name : List UInt8) : List UInt8 :=
  name.map fun b => if 0x41 ≤ b ∧ b ≤ 0x5a then b + 0x20 else b

/-- Whether a host is in a domain. A domain that begins with a dot holds only what is below it. -/
def isWithin (host domain : List UInt8) : Bool :=
  let below := if domain.head? = some 0x2e then domain else 0x2e :: domain
  domain.isEmpty || lower host == lower domain || (lower below).isSuffixOf (lower host)

/-- The names in the part of a number and the elements behind it; without the part, none. -/
def readPart? (n : UInt8) : List Element → Option (List Base × List Element)
  | [] => some ([], [])
  | e :: rest =>
    if e.tag = Tag.optional n then do
      let bases ← (← Der.elements? e.content).mapM Base.read?
      some (bases, rest)
    else some ([], e :: rest)

def domains (bases : List Base) : List (List UInt8) :=
  bases.filterMap fun base => match base with
    | .domain name => some name
    | .holder | .other => none

def allow (constraints : List UInt8) (hosts : List (List UInt8)) : Bool :=
  let parts := do
    let (permitted, rest) ← readPart? 0 (← Der.elements? constraints)
    let (excluded, rest) ← readPart? 1 rest
    if rest.isEmpty then some (permitted, excluded) else none
  match parts with
  | none => false
  | some (permitted, excluded) =>
    let inside := domains permitted
    let outside := domains excluded
    !(permitted ++ excluded).contains .holder && (inside ++ outside).all isDomain &&
      hosts.all fun host =>
        (inside.isEmpty || inside.any (isWithin host)) && !outside.any (isWithin host)

end ReleaseLine.NameConstraints
