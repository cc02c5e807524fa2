import ReleaseLine.Url.Percent

/-!
Paths of URLs: segments in their encoded form, or text without a root in URLs such as `mailto:`.
Dot segments are followed while a path is read. A segment that could name a drive (a letter and a
colon or bar) is never left again, and starts the path of a local file with a colon.
-/

namespace ReleaseLine.Url

inductive Path where
  | rootless (text : String)
  | segments (list : List String)
deriving DecidableEq

/-- Line breaks and tabs, which URLs are read without. -/
def isTabOrBreak (c : Char) : Bool := c = '\t' || c = '\n' || c = '\r'

def dropTabs (text : List Char) : List Char := text.filter (!isTabOrBreak ·)

namespace Path

def isSingleDot (segment : List Char) : Bool :=
  match segment with
  | ['.'] | ['%', '2', 'e'] | ['%', '2', 'E'] => true
  | _ => false

def isDoubleDot (segment : List Char) : Bool :=
  match segment with
  | ['.', '.'] => true
  | '.' :: rest => isSingleDot rest
  | '%' :: '2' :: e :: rest => (e = 'e' || e = 'E') && isSingleDot rest
  | _ => false

def isDrive (segment : List Char) : Bool :=
  match segment with
  | [letter, mark] => letter.isAlpha && (mark = ':' || mark = '|')
  | _ => false

/-- Whether a segment starts with a drive, alone or before a backslash. -/
def startsOnDrive (segment : String) : Bool :=
  match segment.toList with
  | [letter, mark] | letter :: mark :: '\\' :: _ => isDrive [letter, mark]
  | _ => false

def leave (list : List String) : List String :=
  match list.getLast? with
  | some last => if startsOnDrive last then list else list.dropLast
  | none => []

/-- A drive with a colon that a tab or line break parts from the text behind it. -/
def partedDrive? (piece : List Char) : Option (List Char × List Char) :=
  match piece.dropWhile isTabOrBreak with
  | letter :: more =>
    match more.dropWhile isTabOrBreak with
    | ':' :: tab :: rest =>
      if letter.isAlpha && isTabOrBreak tab && !(dropTabs rest).isEmpty then
        some ([letter, ':'], dropTabs rest)
      else none
    | _ => none
  | [] => none

/-- A path part way through: its segments so far, and whether the first of them is a drive. -/
structure Trail where
  list : List String
  onDrive : Bool := false

def encode (segment : List Char) : String := String.ofList (Percent.encode Percent.path segment)

/-- A path one piece later. A dot segment at the end leaves an empty segment. On a disk the first
segment may be a drive. -/
def Trail.add (onDisk : Bool) (trail : Trail) (piece : List Char) (last : Bool) : Trail :=
  let segment := dropTabs piece
  let closing := if last then [""] else []
  if isDoubleDot segment then { trail with list := leave trail.list ++ closing }
  else if isSingleDot segment then { trail with list := trail.list ++ closing }
  else if onDisk && trail.list.isEmpty then
    match partedDrive? piece with
    | some (drive, rest) => { trail with list := [String.ofList drive, encode rest] }
    | none =>
      if isDrive segment then ⟨[String.ofList (segment.take 1 ++ [':'])], true⟩
      else { trail with list := [encode segment] }
  else { trail with list := trail.list ++ [encode segment] }

def Trail.addAll (onDisk : Bool) : Trail → List (List Char) → Trail
  | trail, [] => trail
  | trail, [last] => trail.add onDisk last true
  | trail, piece :: rest => (trail.add onDisk piece false).addAll onDisk rest

/-- Go on from some segments by the text behind a slash. In known schemes a backslash is a slash
too. -/
def follow (special onDisk : Bool) (list : List String) (text : List Char) : Trail :=
  let slashed := text.map fun c => if special && c = '\\' then '/' else c
  Trail.addAll onDisk ⟨list, false⟩ (slashed.splitOn '/')

/-- The path of a local file, without empty segments at its start. -/
def trimStart (list : List String) : List String :=
  match list.dropWhile (· = "") with
  | [] => [""]
  | kept => kept

/-- Append a segment. A path that is the root alone is replaced. -/
def add (list : List String) (segment : String) : List String :=
  if list = [""] then [segment] else list ++ [segment]

def dropEmptyEnd (list : List String) : List String :=
  if list.length > 1 ∧ list.getLast? = some "" then list.dropLast else list

/-- Put a text into a path as one segment. A text of one or two dots adds nothing; one that only
becomes so without tabs and line breaks is followed like a dot segment. -/
def push (special onDisk : Bool) (list : List String) (text : String) : List String :=
  if text = "." ∨ text = ".." then list
  else
    let set := if special then Percent.specialSegment else Percent.segment
    let encoded (part : List Char) := String.ofList (Percent.encode set part)
    let segment := dropTabs text.toList
    let first := onDisk && (list.isEmpty || list = [""])
    let longer :=
      if segment = ['.'] then add list ""
      else if segment = ['.', '.'] then add (leave list) ""
      else
        match if first then partedDrive? text.toList else none with
        | some (drive, rest) => [String.ofList drive, encoded rest]
        | none =>
          if first && isDrive segment then [String.ofList (segment.take 1 ++ [':'])]
          else add list (encoded segment)
    if onDisk then trimStart longer else longer

end Path

end ReleaseLine.Url
