import ReleaseLine.Url.Basic

namespace ReleaseLine.Url

def isSchemeChar (c : Char) : Bool := c.isAlphanum || c = '+' || c = '-' || c = '.'

/-- The scheme in lower case and what follows its colon. -/
def splitScheme (text : List Char) : Option (String × List Char) :=
  match text.span isSchemeChar with
  | (first :: more, ':' :: rest) =>
    if first.isAlpha then some (String.ofList ((first :: more).map Char.toLower), rest) else none
  | _ => none

def endsAuthority (special : Bool) (c : Char) : Bool :=
  c = '/' || c = '?' || c = '#' || (special && c = '\\')

def splitLastAt (text : List Char) : Option (List Char × List Char) :=
  match text.reverse.span (· ≠ '@') with
  | (_, []) => none
  | (behind, _ :: before) => some (before.reverse, behind.reverse)

/-- User information: name and password, the latter after the first colon. -/
def readUserInfo (text : List Char) : String × String :=
  let (name, rest) := text.span (· ≠ ':')
  let encode (part : List Char) := String.ofList (Percent.encode Percent.userInfo part)
  (encode name, encode rest.tail)

/-- The user information in front of a host, and what follows it. A lone `@` stands for none; the
end of the authority may not follow it. -/
def splitUserInfo (special : Bool) (text : List Char) :
    Except SyntaxError ((String × String) × List Char) :=
  let (front, after) := text.span (!endsAuthority special ·)
  match splitLastAt front with
  | none => .ok (("", ""), text)
  | some ([], []) => if after.isEmpty then .ok (("", ""), []) else .error .emptyHost
  | some (info, rest) => .ok (readUserInfo info, rest ++ after)

/-- The host at the start of a text: up to the end of the authority or a colon outside brackets. -/
def splitHost (special : Bool) : Bool → List Char → List Char × List Char
  | _, [] => ([], [])
  | inBrackets, c :: rest =>
    if (c = ':' ∧ inBrackets = false) ∨ endsAuthority special c then ([], c :: rest)
    else
      let inBrackets := if c = '[' then true else if c = ']' then false else inBrackets
      let (host, after) := splitHost special inBrackets rest
      (c :: host, after)

/-- The port after a colon, if there is one, and what follows it: none where no digit follows the
colon or the port is the default one. -/
def readPort (scheme : String) (text : List Char) : Except SyntaxError (Option Nat × List Char) :=
  match text with
  | ':' :: rest =>
    let (digits, after) := rest.span Char.isDigit
    let ends := match after with
      | [] => true
      | c :: _ => endsAuthority true c
    match digits, Decimal.read? digits with
    | [], _ => if ends then .ok (none, after) else .error .invalidPort
    | _, some n =>
      if 65535 < n ∨ ends = false then .error .invalidPort
      else .ok (if defaultPort? scheme = some n then none else some n, after)
    | _, none => .error .invalidPort
  | _ => .ok (none, text)

/-- An authority, from what follows the slashes, and what follows it. Only in unknown schemes the
host may be empty, and then nothing else stands there. -/
def readAuthority (scheme : String) (text : List Char) :
    Except SyntaxError (Authority × List Char) := do
  let special := isSpecialScheme scheme
  let ((username, password), rest) ← splitUserInfo special text
  let (name, rest) := splitHost special false rest
  if name.isEmpty then
    if special ∨ rest.head? = some ':' ∨ username ≠ "" ∨ password ≠ "" then throw .emptyHost
    return (⟨"", "", none, none⟩, rest)
  else
    let host ← if special then Host.parse name else Host.parseUnknown name
    let (port, rest) ← readPort scheme rest
    return (⟨username, password, some host, port⟩, rest)

/-- Split at the first occurrence of a character, which is dropped. -/
def splitAtChar (mark : Char) (text : List Char) : List Char × Option (List Char) :=
  match text.span (· ≠ mark) with
  | (before, []) => (before, none)
  | (before, _ :: after) => (before, some after)

def splitTail (special : Bool) (text : List Char) :
    List Char × Option String × Option String :=
  let (front, fragment) := splitAtChar '#' text
  let (front, query) := splitAtChar '?' front
  let querySet := if special then Percent.specialQuery else Percent.query
  (front, query.map fun q => String.ofList (Percent.encode querySet (dropTabs q)),
    fragment.map fun f => String.ofList (Percent.encode Percent.fragment (dropTabs f)))

/-- The segments of a path behind an authority; in known schemes there is always one. -/
def readSegments (special : Bool) (text : List Char) : List String :=
  match text with
  | [] => if special then [""] else []
  | c :: rest =>
    let behind := if c = '/' ∨ (special = true ∧ c = '\\') then rest else text
    (Path.follow special false [] behind).list

/-- A URL with an authority, from what follows the slashes. -/
def withAuthority (scheme : String) (text : List Char) : Except SyntaxError Url := do
  let special := isSpecialScheme scheme
  let (authority, rest) ← readAuthority scheme text
  let (path, query, fragment) := splitTail special rest
  return ⟨scheme, some authority, .segments (readSegments special path), query, fragment⟩

def isSlash (c : Char) : Bool := c = '/' || c = '\\'

def behindSlash? (text : List Char) : Option (List Char) :=
  match text.dropWhile isTabOrBreak with
  | c :: rest => if isSlash c then some rest else none
  | [] => none

/-- The host of a local file; the local host is none. -/
def readFileHost (text : List Char) : Except SyntaxError (Option Host) := do
  if text.isEmpty then return none
  match ← Host.parse text with
  | .domain "localhost" => return none
  | host => return some host

/-- Host and path of a local file, from what follows the two slashes. A drive is no host, and the
path from a drive on has none. -/
def readFileLocation (text : List Char) : Except SyntaxError (Option Host × List String) := do
  let (raw, rest) := text.span (!isSlash ·)
  let name := dropTabs raw
  let follow := Path.follow true true []
  if Path.isDrive name then return (none, (follow text).list)
  match ← readFileHost name with
  | none => return (none, (follow rest).list)
  | some host =>
    let trail := follow ((behindSlash? rest).getD rest)
    return (if trail.onDrive then none else some host, trail.list)

/-- A URL of a local file, from what follows the colon, tabs and line breaks included. -/
def ofFile (text : List Char) : Except SyntaxError Url := do
  let (front, query, fragment) := splitTail true text
  let (host, list) ← match behindSlash? front with
    | none => pure (none, (Path.follow true true [] front).list)
    | some behind =>
      match behindSlash? behind with
      | none => pure (none, (Path.follow true true [] behind).list)
      | some location => readFileLocation location
  return ⟨"file", some ⟨"", "", host, none⟩, .segments (Path.trimStart list), query, fragment⟩

def ofUnknown (scheme : String) (text : List Char) : Except SyntaxError Url :=
  match text with
  | '/' :: '/' :: rest => withAuthority scheme rest
  | _ =>
    let (front, query, fragment) := splitTail false text
    match front with
    | '/' :: rest =>
      .ok ⟨scheme, none, .segments (Path.follow false false [] rest).list, query, fragment⟩
    | _ =>
      let path := String.ofList (Percent.encode Percent.controls front)
      .ok ⟨scheme, none, .rootless path, query, fragment⟩

def trim (text : String) : List Char :=
  let outer (c : Char) : Bool := c.toNat ≤ 0x20
  ((text.toList.dropWhile outer).reverse.dropWhile outer).reverse

/-- A URL with a scheme, from the text behind the colon as it is read, and as it stands in the
whole text. -/
def ofScheme (scheme : String) (rest whole : List Char) : Except SyntaxError Url :=
  if scheme = "file" then ofFile (whole.dropWhile (· ≠ ':')).tail
  else if isSpecialScheme scheme then withAuthority scheme (rest.dropWhile isSlash)
  else ofUnknown scheme rest

/-- Read a URL. White space and control characters around the text and tabs and line breaks in it
are dropped; what cannot stand in a part is percent-encoded; dot segments are followed. -/
def parse (text : String) : Except SyntaxError Url :=
  let whole := trim text
  match splitScheme (dropTabs whole) with
  | none => .error .relative
  | some (scheme, rest) => ofScheme scheme rest whole

def segments (url : Url) : List String :=
  match url.path with
  | .rootless _ => []
  | .segments list => list

/-- A reference without a scheme, relative to a URL of a known scheme with a host. -/
def ofRelative (base : Url) (text : List Char) : Except SyntaxError Url :=
  let (front, query, fragment) := splitTail true text
  let located (list : List String) (query : Option String) : Except SyntaxError Url :=
    .ok { base with path := .segments list, query := query, fragment := fragment }
  match front with
  | [] => if query.isSome then located base.segments query else located base.segments base.query
  | '/' :: '/' :: _ => withAuthority base.scheme (text.drop 2)
  | c :: rest =>
    match isSlash c, rest with
    | true, d :: _ =>
      if isSlash d then withAuthority base.scheme (text.dropWhile isSlash)
      else located (Path.follow true false [] rest).list query
    | true, [] => located [""] query
    | false, _ => located (Path.follow true false base.segments.dropLast front).list query

/-- The URL that a reference stands for, read at a URL of a known scheme with a host. -/
def join (base : Url) (text : String) : Except SyntaxError Url :=
  let whole := trim text
  let kept := dropTabs whole
  match splitScheme kept with
  | none => ofRelative base kept
  | some (scheme, rest) =>
    let isRelative := scheme = base.scheme ∧ (rest.takeWhile isSlash).length < 2
    if isRelative then ofRelative base rest else ofScheme scheme rest whole

end ReleaseLine.Url
