import ReleaseLine.Decimal.Binary64
import ReleaseLine.Text.Quoted

namespace ReleaseLine.Yaml

/-- A place in a text, all counts from zero; the index counts bytes. -/
structure Mark where
  index : Nat := 0
  line : Nat := 0
  column : Nat := 0
deriving DecidableEq, Inhabited

def Mark.isStart (m : Mark) : Bool := m.line = 0 && m.column = 0

/-- The place in words, counted from one. -/
def Mark.describe (m : Mark) : String :=
  "line " ++ toString (m.line + 1) ++ " column " ++ toString (m.column + 1)

def Mark.sameSpot (m n : Mark) : Bool := m.line = n.line && m.column = n.column

inductive Problem where
  | controlCharacter
  | cannotStartToken
  | expectedColon
  | entriesNotAllowed
  | keysNotAllowed
  | valuesNotAllowed
  | unknownDirective
  | expectedLineEnd
  | expectedDirectiveName
  | nonAlphabetic
  | longVersion
  | expectedVersion
  | expectedVersionDot
  | expectedSpace
  | expectedSpaceOrBreak
  | expectedAlphanumeric
  | expectedAngleBracket
  | expectedExclamation
  | expectedTagUri
  | expectedEscapedOctet
  | wrongLeadingOctet
  | wrongTrailingOctet
  | zeroIndentation
  | tabIndentation
  | documentIndicator
  | unexpectedEnd
  | unknownEscape
  | expectedHexNumber
  | invalidEscapeCode
  | unexpectedColon
  | tabViolation
  | expectedDocumentStart
  | repeatedVersion
  | incompatibleDocument
  | repeatedTagDirective
  | undefinedTagHandle
  | expectedNodeContent
  | expectedDash
  | expectedKey
  | expectedCommaOrSquare
  | expectedCommaOrCurly
deriving DecidableEq

def Problem.message : Problem → String
  | .controlCharacter => "control characters are not allowed"
  | .cannotStartToken => "found character that cannot start any token"
  | .expectedColon => "could not find expected ':'"
  | .entriesNotAllowed => "block sequence entries are not allowed in this context"
  | .keysNotAllowed => "mapping keys are not allowed in this context"
  | .valuesNotAllowed => "mapping values are not allowed in this context"
  | .unknownDirective => "found unknown directive name"
  | .expectedLineEnd => "did not find expected comment or line break"
  | .expectedDirectiveName => "could not find expected directive name"
  | .nonAlphabetic => "found unexpected non-alphabetical character"
  | .longVersion => "found extremely long version number"
  | .expectedVersion => "did not find expected version number"
  | .expectedVersionDot => "did not find expected digit or '.' character"
  | .expectedSpace => "did not find expected whitespace"
  | .expectedSpaceOrBreak => "did not find expected whitespace or line break"
  | .expectedAlphanumeric => "did not find expected alphabetic or numeric character"
  | .expectedAngleBracket => "did not find the expected '>'"
  | .expectedExclamation => "did not find expected '!'"
  | .expectedTagUri => "did not find expected tag URI"
  | .expectedEscapedOctet => "did not find URI escaped octet"
  | .wrongLeadingOctet => "found an incorrect leading UTF-8 octet"
  | .wrongTrailingOctet => "found an incorrect trailing UTF-8 octet"
  | .zeroIndentation => "found an indentation indicator equal to 0"
  | .tabIndentation => "found a tab character where an indentation space is expected"
  | .documentIndicator => "found unexpected document indicator"
  | .unexpectedEnd => "found unexpected end of stream"
  | .unknownEscape => "found unknown escape character"
  | .expectedHexNumber => "did not find expected hexadecimal number"
  | .invalidEscapeCode => "found invalid Unicode character escape code"
  | .unexpectedColon => "found unexpected ':'"
  | .tabViolation => "found a tab character that violates indentation"
  | .expectedDocumentStart => "did not find expected <document start>"
  | .repeatedVersion => "found duplicate %YAML directive"
  | .incompatibleDocument => "found incompatible YAML document"
  | .repeatedTagDirective => "found duplicate %TAG directive"
  | .undefinedTagHandle => "found undefined tag handle"
  | .expectedNodeContent => "did not find expected node content"
  | .expectedDash => "did not find expected '-' indicator"
  | .expectedKey => "did not find expected key"
  | .expectedCommaOrSquare => "did not find expected ',' or ']'"
  | .expectedCommaOrCurly => "did not find expected ',' or '\x7d'"

inductive Construct where
  | nextToken
  | simpleKey
  | directive
  | yamlDirective
  | tagDirectiveScan
  | tagDirectiveHandle
  | tagDirectiveValue
  | tagDirectiveUri
  | anchor
  | alias
  | tag
  | tagUri
  | blockScalar
  | quotedScalar
  | quotedScalarEscape
  | plainScalar
  | node
  | blockNode
  | flowNode
  | blockCollection
  | blockMapping
  | flowSequence
  | flowMapping
deriving DecidableEq

def Construct.message : Construct → String
  | .nextToken => "while scanning for the next token"
  | .simpleKey => "while scanning a simple key"
  | .directive => "while scanning a directive"
  | .yamlDirective => "while scanning a %YAML directive"
  | .tagDirectiveScan => "while scanning a tag directive"
  | .tagDirectiveHandle => "while parsing a tag directive"
  | .tagDirectiveValue => "while scanning a %TAG directive"
  | .tagDirectiveUri => "while parsing a %TAG directive"
  | .anchor => "while scanning an anchor"
  | .alias => "while scanning an alias"
  | .tag => "while scanning a tag"
  | .tagUri => "while parsing a tag"
  | .blockScalar => "while scanning a block scalar"
  | .quotedScalar => "while scanning a quoted scalar"
  | .quotedScalarEscape => "while parsing a quoted scalar"
  | .plainScalar => "while scanning a plain scalar"
  | .node => "while parsing a node"
  | .blockNode => "while parsing a block node"
  | .flowNode => "while parsing a flow node"
  | .blockCollection => "while parsing a block collection"
  | .blockMapping => "while parsing a block mapping"
  | .flowSequence => "while parsing a flow sequence"
  | .flowMapping => "while parsing a flow mapping"

/-- A text that is no YAML. The offset, in bytes, is known for a character that is not allowed. -/
structure SyntaxError where
  problem : Problem
  mark : Mark
  offset : Nat := 0
  context : Option (Construct × Mark) := none
deriving DecidableEq

def SyntaxError.message (e : SyntaxError) : String :=
  let place :=
    if !e.mark.isStart then " at " ++ e.mark.describe
    else if e.offset ≠ 0 then " at position " ++ toString e.offset
    else ""
  let context := match e.context with
    | none => ""
    | some (construct, mark) =>
      let place :=
        if mark.isStart || mark.sameSpot e.mark then "" else " at " ++ mark.describe
      ", " ++ construct.message ++ place
  e.problem.message ++ place ++ context

inductive Found where
  | nothing
  | boolean (b : Bool)
  | integer (n : Int)
  | wideInteger (n : Int)
  | float (x : Float)
  | string (s : String)
  | sequence
  | map

/-- A wide integer is one that needs more than 64 bits. -/
def Found.describe : Found → String
  | .nothing => "unit value"
  | .boolean b => "boolean `" ++ toString b ++ "`"
  | .integer n => "integer `" ++ toString n ++ "`"
  | .wideInteger n =>
    "integer `" ++ toString n ++ "` as " ++ if n < 0 then "i128" else "u128"
  | .float x =>
    let text :=
      if x.isNaN then "NaN"
      else if x.isInf then (if x < 0 then "-inf" else "inf")
      else Decimal.Binary64.renderPositional x
    "floating point `" ++ text ++ "`"
  | .string s => "string " ++ Text.quote s
  | .sequence => "sequence"
  | .map => "map"

inductive Mismatch where
  | wrongType (found : Found) (expected : String)
  | wrongValue (found : Found) (expected : String)
  | repeatedField (name : String)

def Mismatch.message : Mismatch → String
  | .wrongType found expected => "invalid type: " ++ found.describe ++ ", expected " ++ expected
  | .wrongValue found expected => "invalid value: " ++ found.describe ++ ", expected " ++ expected
  | .repeatedField name => "duplicate field `" ++ name ++ "`"

/-- A problem of a text that is no YAML, or a difference from what was expected, with its place and
its path in the document. -/
inductive Error where
  | notYaml (error : SyntaxError)
  | unknownAnchor (mark : Mark)
  /-- The document holds nothing where a value is expected. -/
  | missingValue
  | manyDocuments
  /-- A mismatch under a path; the path of the document itself is empty. -/
  | mismatch (path : List String) (mark : Mark) (what : Mismatch)

def atMark (mark : Mark) : String := if mark.isStart then "" else " at " ++ mark.describe

def Error.message : Error → String
  | .notYaml error => error.message
  | .unknownAnchor mark => "unknown anchor" ++ atMark mark
  | .missingValue => "EOF while parsing a value"
  | .manyDocuments =>
    "deserializing from YAML containing more than one document is not supported"
  | .mismatch path mark what =>
    (if path.isEmpty then "" else ".".intercalate path ++ ": ") ++ what.message ++ atMark mark

end ReleaseLine.Yaml
