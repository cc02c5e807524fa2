import ReleaseLine.Yaml.Token

/-!
The tokens of a YAML text. Indentation is made explicit by tokens that open and close block
collections. A simple key is recognised only at the colon behind it: the token of the key is then
put in front of it, so tokens are final only once no simple key can start at them.
-/

namespace ReleaseLine.Yaml

/-- A place where a simple key may have started, with the number of the token there. A required
key has to turn out to be one. -/
structure KeyCandidate where
  number : Nat
  required : Bool
  mark : Mark

structure Lexer where
  cursor : Cursor
  /-- The column of the innermost block collection, and of those around it. -/
  indent : Int
  outerIndents : List Int
  /-- The key that may be under way in the innermost flow collection or the block context, and
  those around it. -/
  candidate : Option KeyCandidate
  outerCandidates : List (Option KeyCandidate)
  keyAllowed : Bool
  tokens : Array Token
  finished : Bool

namespace Lexer

abbrev Step := Lexer → Except SyntaxError Lexer

def inFlow (l : Lexer) : Bool := !l.outerCandidates.isEmpty

def mark (l : Lexer) : Mark := l.cursor.mark

def failWith {α : Type} (l : Lexer) (problem : Problem)
    (context : Option (Construct × Mark) := none) :
    Except SyntaxError α :=
  .error ⟨problem, l.mark, 0, context⟩

def push (l : Lexer) (token : Token) : Lexer := { l with tokens := l.tokens.push token }

def insertAt (l : Lexer) (number : Nat) (token : Token) : Lexer :=
  { l with tokens := l.tokens.insertIdxIfInBounds number token }

def take (n : Nat) (kind : Token.Kind) (l : Lexer) : Lexer :=
  let cursor := l.cursor.advance n
  { l with cursor := cursor }.push ⟨kind, l.mark, cursor.mark⟩

/-- Close block collections that are indented deeper than the column. -/
def unrollFrom (column : Int) : List Int → Lexer → Lexer
  | [], l => l
  | outer :: rest, l =>
    if column < l.indent then
      unrollFrom column rest
        ({ l with indent := outer, outerIndents := rest }.push ⟨.blockEnd, l.mark, l.mark⟩)
    else l

def unroll (column : Int) (l : Lexer) : Lexer :=
  if l.inFlow then l else unrollFrom column l.outerIndents l

/-- Open a block collection if the column is deeper than the present indentation; its token
comes last, or in front of the one with the given number. -/
def roll (column : Nat) (number : Option Nat) (kind : Token.Kind) (mark : Mark) (l : Lexer) :
    Lexer :=
  if l.inFlow = false ∧ l.indent < column then
    let opened := { l with indent := column, outerIndents := l.indent :: l.outerIndents }
    match number with
    | none => opened.push ⟨kind, mark, mark⟩
    | some n => opened.insertAt n ⟨kind, mark, mark⟩
  else l

/-- Give up a key that may be under way; a required one must not be. -/
def dropCandidate : Step := fun l =>
  match l.candidate with
  | some k =>
    if k.required then l.failWith .expectedColon (some (.simpleKey, k.mark))
    else .ok { l with candidate := none }
  | none => .ok l

/-- Note that a simple key may start here. -/
def saveCandidate : Step := fun l =>
  if l.keyAllowed then do
    let required := l.inFlow = false && l.indent = (l.mark.column : Int)
    let l ← l.dropCandidate
    return { l with candidate := some ⟨l.tokens.size, required, l.mark⟩ }
  else .ok l

/-- Whether the text has moved on too far for a key: to another line or by more than 1024 bytes. -/
def isStale (here : Mark) (k : KeyCandidate) : Bool :=
  k.mark.line < here.line || k.mark.index + 1024 < here.index

def dropStaleOne (l : Lexer) : Option KeyCandidate → Except SyntaxError (Option KeyCandidate)
  | none => .ok none
  | some k =>
    if isStale l.mark k then
      if k.required then l.failWith .expectedColon (some (.simpleKey, k.mark)) else .ok none
    else .ok (some k)

/-- Give up keys that the text has left behind, outermost first. -/
def dropStale : Step := fun l => do
  let outer ← l.outerCandidates.reverse.mapM l.dropStaleOne
  let inner ← l.dropStaleOne l.candidate
  return { l with candidate := inner, outerCandidates := outer.reverse }

/-- How many tokens are final: those in front of the first key that may be under way. -/
def finalCount (l : Lexer) : Nat :=
  (l.candidate :: l.outerCandidates).foldl (fun n k => (k.map (min n ·.number)).getD n)
    l.tokens.size

/-- Step over blanks, comments and line breaks; a mark of the byte order may start a line. Tabs
count as blanks where no simple key may start, which a line break allows outside of flow
collections. -/
def skipSpace : Step := fun l => do
  let (allowed, cursor) ← Scan.loop (fun (allowed : Bool) => do
    Scan.lookAhead 1
    let c ← get
    if c.mark.column = 0 ∧ c.is 0 (·.toNat = 0xfeff) then Scan.advance 1
    let tabs := l.inFlow || !allowed
    Scan.skipWhile fun x => x = ' ' || (tabs && x = '\t')
    Scan.skipComment
    if (← get).breakAt 0 then
      Scan.skipBreak
      return .inl (allowed || !l.inFlow)
    else return .inr allowed) l.keyAllowed l.cursor
  return { l with cursor := cursor, keyAllowed := allowed }

def scanToken (scan : Scan Token) : Step := fun l => do
  let (token, cursor) ← scan l.cursor
  return { l with cursor := cursor }.push token

def setKeyAllowed (allowed : Bool) (l : Lexer) : Lexer := { l with keyAllowed := allowed }

/-- Close everything that is open and take a token that stands outside of documents. -/
def betweenDocuments (step : Step) : Step := fun l => do
  let l ← (l.unroll (-1)).dropCandidate
  step (l.setKeyAllowed false)

def streamEnd : Step := fun l =>
  let m := l.mark
  let m := if m.column = 0 then m else ⟨m.index, m.line + 1, 0⟩
  betweenDocuments (fun l => .ok { l.take 0 .streamEnd with finished := true })
    { l with cursor := { l.cursor with mark := m } }

def openFlow (kind : Token.Kind) : Step := fun l => do
  let l ← l.saveCandidate
  let l := { l with candidate := none, outerCandidates := l.candidate :: l.outerCandidates }
  return (l.setKeyAllowed true).take 1 kind

def closeFlow (kind : Token.Kind) : Step := fun l => do
  let l ← l.dropCandidate
  let l := match l.outerCandidates with
    | [] => l
    | k :: rest => { l with candidate := k, outerCandidates := rest }
  return (l.setKeyAllowed false).take 1 kind

def flowEntry : Step := fun l => do
  return ((← l.dropCandidate).setKeyAllowed true).take 1 .flowEntry

def blockEntry : Step := fun l => do
  if l.inFlow = false ∧ l.keyAllowed = false then l.failWith .entriesNotAllowed
  else
    let l ← (l.roll l.mark.column none .blockSequenceStart l.mark).dropCandidate
    return (l.setKeyAllowed true).take 1 .blockEntry

def explicitKey : Step := fun l => do
  if l.inFlow = false ∧ l.keyAllowed = false then l.failWith .keysNotAllowed
  else
    let l ← (l.roll l.mark.column none .blockMappingStart l.mark).dropCandidate
    return (l.setKeyAllowed (!l.inFlow)).take 1 .key

def value : Step := fun l =>
  match l.candidate with
  | some k =>
    let l := { l.insertAt k.number ⟨.key, k.mark, k.mark⟩ with candidate := none }
    let l := l.roll k.mark.column (some k.number) .blockMappingStart k.mark
    .ok ((l.setKeyAllowed false).take 1 .value)
  | none =>
    if l.inFlow = false ∧ l.keyAllowed = false then l.failWith .valuesNotAllowed
    else
      let l := l.roll l.mark.column none .blockMappingStart l.mark
      .ok ((l.setKeyAllowed (!l.inFlow)).take 1 .value)

/-- A token at which a simple key may start and behind which none may. -/
def keyStart (scan : Scan Token) : Step := fun l => do
  scanToken scan ((← l.saveCandidate).setKeyAllowed false)

def tag : Step := fun l =>
  keyStart (do
    let start := (← get).mark
    let token ← Token.scanTag
    Token.checkTagEnd l.inFlow start
    return token) l

def blockScalar (literal : Bool) : Step := fun l => do
  let l ← l.dropCandidate
  scanToken (Token.scanBlock literal l.indent) (l.setKeyAllowed true)

def plain : Step := fun l => do
  let l := (← l.saveCandidate).setKeyAllowed false
  let ((token, breaks), cursor) ← (Token.scanPlain l.inFlow l.indent) l.cursor
  return { l with cursor := cursor, keyAllowed := breaks }.push token

def startsPlain (l : Lexer) : Bool :=
  let c := l.cursor
  let indicators := ['-', '?', ':', ',', '[', ']', '{', '}', '#', '&', '*', '!', '|', '>', '\'',
    '"', '%', '@', '`']
  (!c.gapAt 0 && !c.is 0 indicators.contains) ||
    (c.starts '-' && !c.blankAt 1) ||
    (!l.inFlow && c.is 0 (fun x => x = '?' || x = ':') && !c.gapAt 1)

def step : Step := fun l => do
  let l ← (← l.skipSpace).dropStale
  let l := l.unroll l.mark.column
  let _ ← Scan.lookAhead 4 l.cursor
  let c := l.cursor
  match c.at? 0 with
  | none => streamEnd l
  | some x =>
    if c.mark.column = 0 ∧ x = '%' then betweenDocuments (scanToken Token.scanDirective) l
    else if c.atIndicator '-' then betweenDocuments (fun l => .ok (l.take 3 .documentStart)) l
    else if c.atIndicator '.' then betweenDocuments (fun l => .ok (l.take 3 .documentEnd)) l
    else if x = '[' then openFlow .flowSequenceStart l
    else if x = '{' then openFlow .flowMappingStart l
    else if x = ']' then closeFlow .flowSequenceEnd l
    else if x = '}' then closeFlow .flowMappingEnd l
    else if x = ',' then flowEntry l
    else if x = '-' ∧ c.gapAt 1 then blockEntry l
    else if x = '?' ∧ (l.inFlow ∨ c.gapAt 1) then explicitKey l
    else if x = ':' ∧ (l.inFlow ∨ c.gapAt 1) then value l
    else if x = '*' then keyStart (Token.scanAnchor true) l
    else if x = '&' then keyStart (Token.scanAnchor false) l
    else if x = '!' then tag l
    else if x = '|' ∧ l.inFlow = false then blockScalar true l
    else if x = '>' ∧ l.inFlow = false then blockScalar false l
    else if x = '\'' then keyStart (Token.scanQuoted true) l
    else if x = '"' then keyStart (Token.scanQuoted false) l
    else if l.startsPlain then plain l
    else l.failWith .cannotStartToken (some (.nextToken, l.mark))

/-- Read tokens to the end, or to the first problem; those that are final by then count. -/
def runFrom : Nat → Lexer → List Token × Option SyntaxError
  | 0, l => (l.tokens.toList, none)
  | n + 1, l =>
    if l.finished then (l.tokens.toList, none)
    else
      match l.step >>= dropStale with
      | .ok next => runFrom n next
      | .error e => (l.tokens.toList.take l.finalCount, some e)

end Lexer

def isAllowedChar (c : Char) : Bool :=
  let n := c.toNat
  n = 0x09 || n = 0x0a || n = 0x0d || (0x20 ≤ n && n ≤ 0x7e) || n = 0x85 ||
    (0xa0 ≤ n && n ≤ 0xfffd) || 0x10000 ≤ n

/-- How many bytes are decoded at a time, save those of a character that would be cut. -/
def pieceSize : Nat := 16384

/-- The number of characters in front of the piece with the first character that is not allowed,
and the offset of that one. The number and offset of the characters passed, and of those in front
of the present piece, are counted along. -/
def findBarrier (passed offset before start : Nat) : List Char → Option (Nat × Nat)
  | [] => none
  | c :: rest =>
    let fits := offset + c.utf8Size ≤ start + pieceSize
    let before := if fits then before else passed
    let start := if fits then start else offset
    if isAllowedChar c then findBarrier (passed + 1) (offset + c.utf8Size) before start rest
    else some (before, offset)

/-- The start of a text. Pieces of it are decoded when something in them is looked at. -/
def Cursor.ofText (chars : List Char) : Cursor :=
  match findBarrier 0 0 0 0 chars with
  | none => { rest := chars, mark := {} }
  | some (n, offset) => { rest := chars.take n, mark := {}, barrier := some offset }

def Token.scan (text : String) : List Token × Option SyntaxError :=
  let start : Lexer :=
    { cursor := .ofText text.toList, indent := -1, outerIndents := [], candidate := none
      outerCandidates := [], keyAllowed := true, tokens := #[], finished := false }
  Lexer.runFrom (text.length + 2) start

end ReleaseLine.Yaml
