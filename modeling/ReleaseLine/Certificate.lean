import ReleaseLine.NameConstraints

namespace ReleaseLine

namespace Certificate

open Der

structure Extension where
  identifier : List UInt8
  critical : Bool
  value : List UInt8

namespace Extension

def readCritical : Element → Option Bool
  | ⟨0x01, [0xff]⟩ => some true
  | ⟨0x01, [0x00]⟩ => some false
  | _ => none

def ofElement? (e : Element) : Option Extension := do
  match ← e.elements? Tag.sequence with
  | [identifier, value] =>
    return ⟨← identifier.content? Tag.identifier, false, ← value.content? Tag.octetString⟩
  | [identifier, critical, value] =>
    return ⟨← identifier.content? Tag.identifier, ← readCritical critical,
      ← value.content? Tag.octetString⟩
  | _ => none

/-- The number of an extension that is understood: key usage, other names, basic constraints, name
constraints, places of revocation lists, and further usage. -/
def number? (x : Extension) : Option UInt8 :=
  match x.identifier with
  | [0x55, 0x1d, n] => if [15, 17, 19, 30, 31, 37].contains n then some n else none
  | _ => none

def sequence? (x : Extension) : Option (List UInt8) := do
  match ← Der.elements? x.value with
  | [inner] => inner.content? Tag.sequence
  | _ => none

/-- Whether an extension can be accepted: one that is not understood is not critical, and one that
is holds a sequence, key usage aside. -/
def isAcceptable (x : Extension) : Bool :=
  match x.number? with
  | none => !x.critical
  | some n => n == 15 || x.sequence?.isSome

/-- The extensions of a certificate, each kind that is understood once. -/
def readAll? (e : Element) : Option (List Extension) := do
  let list ← (← e.innerSequence? (Tag.optional 3)).mapM ofElement?
  let numbers := list.filterMap number?
  if list.all isAcceptable ∧ numbers.eraseDups.length = numbers.length then some list else none

def find? (list : List Extension) (n : UInt8) : Option (List UInt8) :=
  (list.find? fun x => x.number? = some n).bind sequence?

end Extension

structure Parts where
  subject : List UInt8
  key : List UInt8
  validity : List UInt8
  extensions : List Extension

def isThirdVersion (e : Element) : Bool := e.elements? (Tag.optional 0) = some [⟨0x02, [2]⟩]

def isSequence (e : Element) : Bool := e.tag = Tag.sequence

/-- The parts of the signed body of a certificate, given how it is signed. Certificates of the
first version state no version and have no extensions. -/
def readBody? (algorithm : List UInt8) (body : List Element) : Option Parts :=
  match body with
  | version :: serial :: signature :: issuer :: validity :: subject :: key :: rest =>
    if isThirdVersion version ∧ serial.tag = Tag.integer ∧ signature = ⟨Tag.sequence, algorithm⟩ ∧
        [issuer, validity, subject, key].all isSequence then
      match rest with
      | [] => some ⟨subject.content, key.content, validity.content, []⟩
      | [e] =>
        (Extension.readAll? e).map (⟨subject.content, key.content, validity.content, ·⟩)
      | _ => none
    else none
  | [serial, signature, issuer, validity, subject, key] =>
    if serial.tag = Tag.integer ∧ [signature, issuer, validity, subject, key].all isSequence then
      some ⟨subject.content, key.content, validity.content, []⟩
    else none
  | _ => none

/-- Read a certificate: its body, how it is signed, and a signature of whole bytes. -/
def parts? (bytes : List UInt8) : Option Parts := do
  match ← elements? bytes with
  | [outer] =>
    match ← outer.elements? Tag.sequence with
    | [body, algorithm, signature] =>
      if (signature.content? Tag.bitString).bind (·.head?) ≠ some 0 then none
      readBody? (← algorithm.content? Tag.sequence) (← body.elements? Tag.sequence)
    | _ => none
  | _ => none

end Certificate

/-- A certificate that is signed with its own key, as servers show it. -/
structure Certificate where
  subject : List UInt8
  key : List UInt8
  hosts : List (List UInt8)
  /-- The digits of the date and time of expiry, from the year to the second. -/
  expiry : List UInt8
deriving DecidableEq

namespace Certificate

open Der

/-- The digits of a time, with the century of a short year added. -/
def expiryOf (time : Element) : Option (List UInt8) :=
  let digits := time.content.filter fun b => 0x30 ≤ b && b ≤ 0x39
  if time.tag = Tag.generalTime then some digits
  else if time.tag = Tag.utcTime then
    some ((if digits.head?.getD 0 < 0x35 then [0x32, 0x30] else [0x31, 0x39]) ++ digits)
  else none

def hostsOf (names : List UInt8) : List (List UInt8) :=
  (((elements? names).getD []).filter (·.tag = Tag.choice 2)).map (·.content)

def ofBytes? (bytes : List UInt8) : Option Certificate := do
  let parts ← parts? bytes
  match ← elements? parts.validity with
  | [_, last] =>
    let names := (Extension.find? parts.extensions 17).getD []
    some ⟨parts.subject, parts.key, hostsOf names, ← expiryOf last⟩
  | _ => none

/-- Whether the certificate is still valid at a time, given by its digits. -/
def isValidAt (c : Certificate) (now : List UInt8) : Bool := !decide (c.expiry < now)

/-- Whether the certificate stands for a host, the name of which may end in a dot. -/
def names (c : Certificate) (host : String) : Bool :=
  c.hosts.any fun name => host.toUTF8.toList = name || host.toUTF8.toList = name ++ [0x2e]

end Certificate

/-- Who vouches for servers: the holder of a name and a key, for hosts within constraints. -/
structure Anchor where
  subject : List UInt8
  key : List UInt8
  constraints : Option (List UInt8)
deriving DecidableEq

namespace Anchor

def ofBytes? (bytes : List UInt8) : Option Anchor :=
  (Certificate.parts? bytes).map fun parts =>
    ⟨parts.subject, parts.key, Certificate.Extension.find? parts.extensions 30⟩

def vouchesFor (a : Anchor) (c : Certificate) : Bool :=
  a.subject = c.subject && a.key = c.key && a.constraints.all (NameConstraints.allow · c.hosts)

end Anchor

end ReleaseLine
