import ReleaseLine.Yaml.Scalar

/-!
Trees of block mappings and scalars as text. A text is written plain where that reads back as the
same text, otherwise in single quotes, as a literal block if it has several lines, and in double
quotes if nothing else can hold it.
-/

namespace ReleaseLine.Yaml

namespace Printer

def isPrintable (c : Char) : Bool :=
  let n := c.toNat
  n = 0x0a || (0x20 ≤ n && n ≤ 0x7e) || (0xa0 ≤ n && n ≤ 0xfffd && n ≠ 0xfeff) || 0x10000 ≤ n

def isGap (c : Option Char) : Bool :=
  (c.map fun x => Cursor.isBlank x || Cursor.isBreak x).getD true

/-- Whether a plain text would be read as something else where `before` is in front of it. -/
def hasIndicator : Option Char → List Char → Bool
  | _, [] => false
  | before, c :: rest =>
    let gapAfter := isGap rest.head?
    let here := match before with
      | none =>
        ['#', ',', '[', ']', '{', '}', '&', '*', '!', '|', '>', '\'', '"', '%', '@',
            '`'].contains c ||
          (['?', ':', '-'].contains c && gapAfter)
      | some b => (c = ':' && gapAfter) || (c = '#' && isGap (some b))
    here || hasIndicator (some c) rest

/-- Whether one of the first characters stands just in front of one of the second. -/
def hasPair (first second : Char → Bool) (text : List Char) : Bool :=
  (text.zip text.tail).any fun (a, b) => first a && second b

def isSpace (c : Char) : Bool := c = ' '

def endsIn (test : Char → Bool) (text : List Char) : Bool := (text.getLast?.map test).getD false

def startsWith (test : Char → Bool) (text : List Char) : Bool := (text.head?.map test).getD false

/-- Whether only double quotes can hold a text. -/
def needsEscapes (text : List Char) : Bool :=
  text.any (!isPrintable ·) || hasPair isSpace Cursor.isBreak text

def mayBePlain (text : List Char) : Bool :=
  !(needsEscapes text || text.any Cursor.isBreak || startsWith isSpace text ||
    endsIn isSpace text || text.take 3 = ['-', '-', '-'] || text.take 3 = ['.', '.', '.'] ||
    hasIndicator none text)

def mayBeSingleQuoted (text : List Char) : Bool :=
  !(needsEscapes text || hasPair Cursor.isBreak isSpace text)

def mayBeLiteral (text : List Char) : Bool :=
  !(needsEscapes text || endsIn isSpace text || text.isEmpty)

def styleOf (text : String) : Style :=
  let chars := text.toList
  let quoted : Style := if mayBeSingleQuoted chars then .singleQuoted else .doubleQuoted
  if chars.contains '\n' then (if mayBeLiteral chars then .literal else .doubleQuoted)
  else
    match Scalar.resolve text with
    | .string _ =>
      if mayBePlain chars ∧ Scalar.isZeroPadded chars = false then .plain else quoted
    | _ => quoted

def escape (c : Char) : List Char :=
  let hex (mark : Char) (width : Nat) : List Char :=
    let digits := (Nat.toDigits 16 c.toNat).map Char.toUpper
    '\\' :: mark :: (List.replicate (width - digits.length) '0' ++ digits)
  match c with
  | '"' => ['\\', '"']
  | '\\' => ['\\', '\\']
  | '\x00' => ['\\', '0']
  | '\x07' => ['\\', 'a']
  | '\x08' => ['\\', 'b']
  | '\t' => ['\\', 't']
  | '\n' => ['\\', 'n']
  | '\x0b' => ['\\', 'v']
  | '\x0c' => ['\\', 'f']
  | '\r' => ['\\', 'r']
  | '\x1b' => ['\\', 'e']
  | '\u0085' => ['\\', 'N']
  | '\u2028' => ['\\', 'L']
  | '\u2029' => ['\\', 'P']
  | c =>
    if isPrintable c then [c]
    else if c.toNat ≤ 0xff then hex 'x' 2
    else if c.toNat ≤ 0xffff then hex 'u' 4
    else hex 'U' 8

/-- A text with its lines indented; `fresh` at the start of a line. A line without text is not
indented. -/
def indentLines (indent : Nat) (write : Char → List Char) : Bool → List Char → List Char
  | _, [] => []
  | fresh, c :: rest =>
    if Cursor.isBreak c then c :: indentLines indent write true rest
    else
      (if fresh then List.replicate indent ' ' else []) ++ write c ++
        indentLines indent write false rest

/-- What is written behind the mark of a literal block: the indentation if the text starts with
white space, and what becomes of the line breaks at its end. -/
def literalHints (text : List Char) : List Char :=
  let indentation := if startsWith (fun c => isSpace c || Cursor.isBreak c) text then ['2'] else []
  let chomping := match text.reverse with
    | [] => ['-']
    | last :: before =>
      if !Cursor.isBreak last then ['-']
      else if before.isEmpty || startsWith Cursor.isBreak before then ['+']
      else []
  indentation ++ chomping

/-- A scalar behind its key, to the end of the line. Lines after the first are indented, and so is
a closing single quote that has a line of its own. -/
def scalarText (indent : Nat) (s : Scalar) : List Char :=
  let text := s.text.toList
  match s.style with
  | .plain | .folded => ' ' :: text ++ ['\n']
  | .singleQuoted =>
    let quote (c : Char) : List Char := if c = '\'' then ['\'', '\''] else [c]
    let closing := if endsIn Cursor.isBreak text then List.replicate indent ' ' else []
    ' ' :: '\'' :: indentLines indent quote false text ++ closing ++ ['\'', '\n']
  | .doubleQuoted => ' ' :: '"' :: text.flatMap escape ++ ['"', '\n']
  | .literal =>
    ' ' :: '|' :: literalHints text ++ '\n' :: indentLines indent ([·]) true text ++
      (if endsIn Cursor.isBreak text then [] else ['\n'])

mutual

/-- A node behind its key, indented by the given number of columns. -/
def nodeText (indent : Nat) : Node → List Char
  | .scalar _ _ s => scalarText (indent + 2) s
  | .mapping _ _ entries => '\n' :: entriesText (indent + 2) entries
  | .sequence .. | .alias .. | .cut => ['\n']

def entriesText (indent : Nat) : List (Node × Node) → List Char
  | [] => []
  | (.scalar _ _ key, value) :: rest =>
    List.replicate indent ' ' ++ key.text.toList ++ ':' :: nodeText indent value ++
      entriesText indent rest
  | _ :: rest => entriesText indent rest

end

end Printer

/-- A text as a scalar that reads back as that text. -/
def Scalar.ofText (text : String) : Scalar := ⟨text, Printer.styleOf text, none⟩

def Scalar.ofNat (n : Nat) : Scalar := ⟨toString n, .plain, none⟩

def Node.render : Node → String
  | .mapping _ _ entries => String.ofList (Printer.entriesText 0 entries)
  | _ => ""

end ReleaseLine.Yaml
