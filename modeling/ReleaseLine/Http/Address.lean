import ReleaseLine.Url.Parser

namespace ReleaseLine.Http

def maxAddressLength : Nat := 65534

def maxSchemeLength : Nat := 64

/-- The most colons in a row of characters without an at sign or bracket. -/
def maxColons : Nat := 8

/-- An authority read so far. Escapes stand in its user information alone, and one colon, that of
the port, behind it and behind brackets. -/
structure AuthorityScan where
  /-- Colons since the last at sign or closing bracket. -/
  colons : Nat := 0
  opened : Bool := false
  closed : Bool := false
  /-- Whether there is an escape since the last at sign or closing bracket. -/
  escaped : Bool := false

namespace AuthorityScan

def isPlain (c : Char) : Bool := c.isAlphanum || "!$&'()*+,-.;=_~".toList.contains c

/-- One character later, unless the character cannot stand there. -/
def step (s : AuthorityScan) (c : Char) : Option AuthorityScan :=
  if c = ':' then
    if maxColons ≤ s.colons then none else some { s with colons := s.colons + 1 }
  else if c = '[' then
    if s.escaped || s.opened then none else some { s with opened := true }
  else if c = ']' then
    if !s.opened || s.closed then none
    else some { s with closed := true, colons := 0, escaped := false }
  else if c = '@' then some { s with colons := 0, escaped := false }
  else if c = '%' then some { s with escaped := true }
  else if isPlain c then some s
  else none

def isComplete (s : AuthorityScan) : Bool :=
  s.opened == s.closed && decide (s.colons ≤ 1) && !s.escaped

end AuthorityScan

def isAuthority (text : List Char) : Bool :=
  match text.foldlM AuthorityScan.step {} with
  | none => false
  | some s => s.isComplete && !text.isEmpty && decide (text.getLast? ≠ some '@')

/-- Whether a URL can be an address. One without an authority has to look like one as a whole. -/
def isAddress (url : Url) : Bool :=
  decide (url.render.utf8ByteSize ≤ maxAddressLength) &&
    match url.authority with
    | some a =>
      decide (url.scheme.length ≤ maxSchemeLength) &&
        isAuthority (a.userInfoText ++ a.hostText).toList
    | none => isAuthority url.render.toList

def isSpoken (url : Url) : Bool := url.scheme = "http" || url.scheme = "https"

end ReleaseLine.Http
