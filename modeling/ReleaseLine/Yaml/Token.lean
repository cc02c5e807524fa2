import ReleaseLine.Yaml.Cursor

namespace ReleaseLine.Yaml

inductive Style where
  | plain
  | singleQuoted
  | doubleQuoted
  | literal
  | folded
deriving DecidableEq

inductive Token.Kind where
  | streamEnd
  | versionDirective (major minor : Nat)
  | tagDirective (handle expansion : List Char)
  | documentStart
  | documentEnd
  | blockSequenceStart
  | blockMappingStart
  | blockEnd
  | flowSequenceStart
  | flowSequenceEnd
  | flowMappingStart
  | flowMappingEnd
  | blockEntry
  | flowEntry
  | key
  | value
  | alias (name : List Char)
  | anchor (name : List Char)
  | tag (handle suffix : List Char)
  | scalar (text : List Char) (style : Style)
deriving DecidableEq

structure Token where
  kind : Token.Kind
  start : Mark
  stop : Mark

namespace Token

/-- Characters of a tag that is no part of a flow collection. -/
def isUriChar (withBrackets : Bool) (c : Char) : Bool :=
  Cursor.isWord c ||
    [';', '/', '?', ':', '@', '&', '=', '+', '$', '.', '%', '!', '~', '*', '\'', '(',
      ')'].contains c ||
    (withBrackets && [',', '[', ']'].contains c)

def hexValue? (c : Char) : Option Nat :=
  if c.isDigit then some (c.toNat - 48)
  else if 'a' ≤ c.toLower ∧ c.toLower ≤ 'f' then some (c.toLower.toNat - 87)
  else none

/-- The byte that is written as a percent sign and two digits here. -/
def octet? (c : Cursor) : Option Nat :=
  match c.rest with
  | '%' :: h :: l :: _ => do some ((← hexValue? h) * 16 + (← hexValue? l))
  | _ => none

/-- How many bytes a character has whose first byte is given. -/
def octetWidth (n : Nat) : Nat :=
  if n < 0x80 then 1
  else if n / 32 = 6 then 2
  else if n / 16 = 14 then 3
  else if n / 8 = 30 then 4
  else 0

/-- A character of a tag that is written as percent-encoded bytes. -/
def scanUriEscape (construct : Construct) (start : Mark) : Scan (List Char) := do
  let bytes ← Scan.loop (fun ((owed : Option Nat), (done : List UInt8)) => do
    Scan.lookAhead 3
    match octet? (← get) with
    | none => Scan.fail construct start .expectedEscapedOctet
    | some n =>
      let left ← match owed with
        | none =>
          if octetWidth n = 0 then Scan.fail construct start .wrongLeadingOctet
          else pure (octetWidth n - 1)
        | some k =>
          if n / 64 ≠ 2 then Scan.fail construct start .wrongTrailingOctet else pure (k - 1)
      Scan.advance 3
      let done := UInt8.ofNat n :: done
      if left = 0 then return .inr done.reverse else return .inl (some left, done)) (none, [])
  return ((String.fromUTF8? (ByteArray.mk bytes.toArray)).map String.toList).getD []

/-- The text of a tag. A head that was read already counts as text. -/
def scanUri (withBrackets : Bool) (construct : Construct) (head : List Char) (start : Mark) :
    Scan (List Char) := do
  let (text, found) ← Scan.loop (fun ((text : List Char), (found : Bool)) => do
    Scan.lookAhead 1
    let c ← get
    if c.starts '%' then return .inl (text ++ (← scanUriEscape construct start), true)
    else if c.is 0 (isUriChar withBrackets) then
      let more ← Scan.takeWhile fun x => isUriChar withBrackets x && x ≠ '%'
      return .inl (text ++ more, true)
    else return .inr (text, found)) (head.drop 1, !head.isEmpty)
  if found then return text else Scan.fail construct start .expectedTagUri

/-- The handle of a tag: exclamation marks around a word, the last one may be missing. -/
def scanHandle (directive : Bool) (start : Mark) : Scan (List Char) := do
  Scan.lookAhead 1
  if !(← get).starts '!' then
    Scan.fail (if directive then .tagDirectiveScan else .tag) start .expectedExclamation
  Scan.advance 1
  let word ← Scan.takeWhile Cursor.isWord
  if (← get).starts '!' then
    Scan.advance 1
    return '!' :: word ++ ['!']
  else if directive ∧ word ≠ [] then Scan.fail .tagDirectiveHandle start .expectedExclamation
  else return '!' :: word

def scanTag : Scan Token := do
  let start := (← get).mark
  Scan.lookAhead 2
  let (handle, suffix) ←
    if (← get).at? 1 = some '<' then
      Scan.advance 2
      let suffix ← scanUri true .tagUri [] start
      if !(← get).starts '>' then Scan.fail .tag start .expectedAngleBracket
      Scan.advance 1
      pure ([], suffix)
    else
      let handle ← scanHandle false start
      if 1 < handle.length ∧ handle.getLast? = some '!' then
        pure (handle, ← scanUri false .tagUri [] start)
      else
        let suffix ← scanUri false .tagUri handle start
        pure (if suffix = [] then ([], ['!']) else (['!'], suffix))
  return ⟨.tag handle suffix, start, (← get).mark⟩

/-- A tag ends at a gap; inside a flow collection a comma ends it too. -/
def checkTagEnd (inFlow : Bool) (start : Mark) : Scan Unit := do
  Scan.lookAhead 1
  let c ← get
  if !((inFlow && c.starts ',') || c.gapAt 0) then Scan.fail .tag start .expectedSpaceOrBreak

def scanAnchor (isAlias : Bool) : Scan Token := do
  let start := (← get).mark
  Scan.advance 1
  let name ← Scan.takeWhile Cursor.isWord
  let c ← get
  let ends := c.gapAt 0 || c.is 0 ['?', ':', ',', ']', '}', '%', '@', '`'].contains
  if name = [] ∨ !ends then
    Scan.fail (if isAlias then .alias else .anchor) start .expectedAlphanumeric
  return ⟨if isAlias then .alias name else .anchor name, start, c.mark⟩

def scanVersionNumber (start : Mark) : Scan Nat := do
  let digits := (← get).upto Char.isDigit
  Scan.lookAhead (min digits.length 9 + 1)
  if 9 < digits.length then
    Scan.advance 9
    Scan.fail .yamlDirective start .longVersion
  Scan.advance digits.length
  if digits = [] then Scan.fail .yamlDirective start .expectedVersion
  return Decimal.value digits

def scanVersionDirective (start : Mark) : Scan Kind := do
  Scan.skipBlanks
  let major ← scanVersionNumber start
  if !(← get).starts '.' then Scan.fail .yamlDirective start .expectedVersionDot
  Scan.advance 1
  return .versionDirective major (← scanVersionNumber start)

def scanTagDirective (start : Mark) : Scan Kind := do
  Scan.skipBlanks
  let handle ← scanHandle true start
  Scan.lookAhead 1
  if !(← get).blankAt 0 then Scan.fail .tagDirectiveValue start .expectedSpace
  Scan.skipBlanks
  let expansion ← scanUri true .tagDirectiveUri [] start
  if !(← get).gapAt 0 then Scan.fail .tagDirectiveValue start .expectedSpaceOrBreak
  return .tagDirective handle expansion

def scanDirective : Scan Token := do
  let start := (← get).mark
  Scan.advance 1
  let name ← Scan.takeWhile Cursor.isWord
  if name = [] then Scan.fail .directive start .expectedDirectiveName
  if !(← get).gapAt 0 then Scan.fail .directive start .nonAlphabetic
  let kind ←
    if name = "YAML".toList then scanVersionDirective start
    else if name = "TAG".toList then scanTagDirective start
    else Scan.fail .directive start .unknownDirective
  let stop := (← get).mark
  Scan.skipBlanks
  Scan.skipComment
  if !(← get).lineEndAt 0 then Scan.fail .directive start .expectedLineEnd
  Scan.skipBreak
  return ⟨kind, start, stop⟩

/-- Line breaks between two lines of text: a single line feed is read as a space, and of several
the first is dropped. -/
def fold (first others : List Char) : List Char :=
  if first = ['\n'] then (if others = [] then [' '] else others) else first ++ others

structure Gap where
  blanks : List Char := []
  /-- The first line break and the others, once there is one. -/
  breaks : Option (List Char × List Char) := none

def Gap.text (g : Gap) : List Char :=
  match g.breaks with
  | none => g.blanks
  | some (first, others) => fold first others

/-- Read the blanks and line breaks here; `check` is run before each blank that starts a line. -/
def scanGap (start : Gap) (check : Scan Unit) : Scan Gap :=
  Scan.loop (fun (g : Gap) => do
    Scan.lookAhead 1
    let c ← get
    if c.blankAt 0 then
      match g.breaks with
      | none =>
        let x := c.rest.take 1
        Scan.advance 1
        return .inl { g with blanks := g.blanks ++ x }
      | some _ =>
        check
        Scan.advance 1
        return .inl g
    else if c.breakAt 0 then
      let text ← Scan.takeBreak
      match g.breaks with
      | none => return .inl ⟨[], some (text, [])⟩
      | some (first, others) => return .inl ⟨[], some (first, others ++ text)⟩
    else return .inr g) start

def isFlowIndicator (c : Char) : Bool := [',', '[', ']', '{', '}'].contains c

def scanPlainWord (inFlow : Bool) (start : Mark) : Scan (List Char) :=
  Scan.loop (fun (done : List Char) => do
    let c ← get
    match c.at? 0 with
    | none => return .inr done.reverse
    | some x =>
      if c.gapAt 0 then return .inr done.reverse
      else if inFlow ∧ x = ':' ∧ c.is 1 (fun y => isFlowIndicator y || y = '?') then
        Scan.fail .plainScalar start .unexpectedColon
      else if (x = ':' ∧ c.gapAt 1) ∨ (inFlow ∧ isFlowIndicator x) then return .inr done.reverse
      else
        Scan.advance 1
        Scan.lookAhead 2
        return .inl (x :: done)) []

/-- A plain scalar, and whether line breaks follow its last word. -/
def scanPlain (inFlow : Bool) (indent : Int) : Scan (Token × Bool) := do
  let start := (← get).mark
  let (text, stop, gap) ← Scan.loop (fun ((text : List Char), (stop : Mark), (gap : Gap)) => do
    Scan.lookAhead 4
    let c ← get
    if c.atDocumentIndicator || c.starts '#' then return .inr (text, stop, gap)
    else
      let word ← scanPlainWord inFlow start
      let c ← get
      let done := word.isEmpty
      let text := if done then text else text ++ gap.text ++ word
      let stop := if done then stop else c.mark
      let gap := if done then gap else {}
      if !(c.blankAt 0 || c.breakAt 0) then return .inr (text, stop, gap)
      else
        let gap ← scanGap gap do
          let c ← get
          if (c.mark.column : Int) < indent + 1 ∧ c.starts '\t' then
            Scan.fail .plainScalar start .tabViolation
        let c ← get
        if inFlow = false ∧ (c.mark.column : Int) < indent + 1 then return .inr (text, stop, gap)
        else return .inl (text, stop, gap)) ([], start, ({} : Gap))
  return (⟨.scalar text .plain, start, stop⟩, gap.breaks.isSome)

def letterEscape? (c : Char) : Option Char :=
  match c with
  | '0' => some '\x00'
  | 'a' => some '\x07'
  | 'b' => some '\x08'
  | 't' | '\t' => some '\t'
  | 'n' => some '\n'
  | 'v' => some '\x0b'
  | 'f' => some '\x0c'
  | 'r' => some '\r'
  | 'e' => some '\x1b'
  | ' ' => some ' '
  | '"' => some '"'
  | '/' => some '/'
  | '\\' => some '\\'
  | 'N' => some '\u0085'
  | '_' => some '\u00a0'
  | 'L' => some '\u2028'
  | 'P' => some '\u2029'
  | _ => none

def escapeWidth (c : Char) : Nat :=
  if c = 'x' then 2 else if c = 'u' then 4 else if c = 'U' then 8 else 0

def scanEscape (start : Mark) : Scan Char := do
  let failing (problem : Problem) : Scan Char := Scan.fail .quotedScalarEscape start problem
  let letter := ((← get).at? 1).getD '\x00'
  match (if (← get).at? 1 = none then none else letterEscape? letter) with
  | some c =>
    Scan.advance 2
    return c
  | none =>
    let width := escapeWidth letter
    if width = 0 then failing .unknownEscape
    else
      Scan.advance 2
      Scan.lookAhead width
      match ((← get).rest.take width).mapM hexValue? with
      | none => failing .expectedHexNumber
      | some digits =>
        let n := digits.foldl (fun n d => n * 16 + d) 0
        if digits.length < width then failing .expectedHexNumber
        else if (0xd800 ≤ n ∧ n ≤ 0xdfff) ∨ 0x10ffff < n then failing .invalidEscapeCode
        else
          Scan.advance width
          return Char.ofNat n

/-- The text up to a gap or the closing quote, and whether an escaped line break ended it. -/
def scanQuotedWord (single : Bool) (start : Mark) : Scan (List Char × Bool) :=
  Scan.loop (fun (done : List Char) => do
    Scan.lookAhead 2
    let c ← get
    match c.at? 0 with
    | none => return .inr (done.reverse, false)
    | some x =>
      if c.gapAt 0 then return .inr (done.reverse, false)
      else if single ∧ x = '\'' ∧ c.at? 1 = some '\'' then
        Scan.advance 2
        return .inl ('\'' :: done)
      else if x = (if single then '\'' else '"') then return .inr (done.reverse, false)
      else if single = false ∧ x = '\\' ∧ c.breakAt 1 then
        Scan.lookAhead 3
        Scan.advance 1
        Scan.skipBreak
        return .inr (done.reverse, true)
      else if single = false ∧ x = '\\' then return .inl ((← scanEscape start) :: done)
      else
        Scan.advance 1
        return .inl (x :: done)) []

def scanQuoted (single : Bool) : Scan Token := do
  let start := (← get).mark
  Scan.advance 1
  let text ← Scan.loop (fun (text : List Char) => do
    Scan.lookAhead 4
    let c ← get
    if c.atDocumentIndicator then Scan.fail .quotedScalar start .documentIndicator
    else if c.atEnd then Scan.fail .quotedScalar start .unexpectedEnd
    else
      let (word, escapedBreak) ← scanQuotedWord single start
      let text := text ++ word
      Scan.lookAhead 1
      if (← get).starts (if single then '\'' else '"') then
        Scan.advance 1
        return .inr text
      else
        let gap ← scanGap { breaks := if escapedBreak then some ([], []) else none } (pure ())
        return .inl (text ++ gap.text)) []
  return ⟨.scalar text (if single then .singleQuoted else .doubleQuoted), start, (← get).mark⟩

/-- Whether the line breaks at the end of a block scalar are dropped, kept, or kept but for one. -/
inductive Chomping where
  | strip
  | clip
  | keep
deriving DecidableEq

/-- The indicators behind the mark of a block scalar: chomping and indentation, in any order. -/
def scanBlockIndicators (start : Mark) : Scan (Chomping × Nat) := do
  let chomping : Scan (Option Chomping) := do
    Scan.lookAhead 1
    match (← get).at? 0 with
    | some '+' => Scan.advance 1; return some .keep
    | some '-' => Scan.advance 1; return some .strip
    | _ => return none
  let increment : Scan Nat := do
    Scan.lookAhead 1
    match (← get).at? 0 with
    | some c =>
      if c = '0' then Scan.fail .blockScalar start .zeroIndentation
      else if c.isDigit then Scan.advance 1; return c.toNat - 48
      else return 0
    | none => return 0
  match ← chomping with
  | some c => return (c, ← increment)
  | none =>
    let n ← increment
    if n = 0 then return (.clip, 0) else return ((← chomping).getD .clip, n)

/-- The empty lines before a line of a block scalar: their breaks, where they end, and the
indentation, found out here if it is not known. -/
def scanBlockBreaks (start : Mark) (indent : Nat) (outer : Int) :
    Scan (List Char × Mark × Nat) := do
  let (breaks, stop, deepest) ← Scan.loop (fun (s : List Char × Mark × Nat) => do
    let (breaks, stop, deepest) := s
    let c ← get
    let spaces := (c.upto (· = ' ')).length
    let n := if indent = 0 then spaces else min spaces (indent - c.mark.column)
    Scan.lookAhead (n + 1)
    Scan.advance n
    let c ← get
    let deepest := max deepest c.mark.column
    if (indent = 0 ∨ c.mark.column < indent) ∧ c.starts '\t' then
      Scan.fail .blockScalar start .tabIndentation
    else if c.breakAt 0 then
      let text ← Scan.takeBreak
      return .inl (breaks ++ text, (← get).mark, deepest)
    else return .inr (breaks, stop, deepest)) ([], (← get).mark, 0)
  if indent = 0 then return (breaks, stop, max deepest (max (outer + 1) 1).toNat)
  else return (breaks, stop, indent)

/-- The lines of a block scalar so far: the break after the last one and the empty lines behind
it are not part of the text yet. -/
structure Block where
  text : List Char
  lastBreak : List Char
  emptyLines : List Char
  stop : Mark
  startsBlank : Bool

def scanBlock (literal : Bool) (outer : Int) : Scan Token := do
  let start := (← get).mark
  Scan.advance 1
  let (chomping, increment) ← scanBlockIndicators start
  Scan.skipBlanks
  Scan.skipComment
  if !(← get).lineEndAt 0 then Scan.fail .blockScalar start .expectedLineEnd
  Scan.skipBreak
  let given := if increment = 0 then 0 else if 0 ≤ outer then outer.toNat + increment else increment
  let (breaks, stop, indent) ← scanBlockBreaks start given outer
  let block ← Scan.loop (fun (b : Block) => do
    let c ← get
    if c.mark.column = indent ∧ c.atEnd = false then
      let blank := c.blankAt 0
      let lastBreak :=
        if literal = false ∧ b.lastBreak = ['\n'] ∧ b.startsBlank = false ∧ blank = false then
          (if b.emptyLines = [] then [' '] else [])
        else b.lastBreak
      let line ← Scan.takeWhile (!Cursor.isBreak ·)
      let ending ← Scan.takeBreak
      let (empty, stop, _) ← scanBlockBreaks start indent outer
      return .inl ⟨b.text ++ lastBreak ++ b.emptyLines ++ line, ending, empty, stop, blank⟩
    else return .inr b) ⟨[], [], breaks, stop, false⟩
  let tail := match chomping with
    | .strip => []
    | .clip => block.lastBreak
    | .keep => block.lastBreak ++ block.emptyLines
  return ⟨.scalar (block.text ++ tail) (if literal then .literal else .folded), start, block.stop⟩

end Token

end ReleaseLine.Yaml
