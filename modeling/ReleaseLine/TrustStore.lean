import ReleaseLine.Certificate
import ReleaseLine.FileTree
import ReleaseLine.ReleaseError
import ReleaseLine.Text.Base64

namespace ReleaseLine

namespace Pem

/-- Sections whose content is decoded; others are passed over. -/
def knownLabels : List String :=
  ["CERTIFICATE", "PUBLIC KEY", "RSA PRIVATE KEY", "PRIVATE KEY", "EC PRIVATE KEY", "X509 CRL",
    "CERTIFICATE REQUEST", "ECHCONFIG"]

def isLineEnd (b : UInt8) : Bool := b = 0x0a || b = 0x0d

/-- Bytes that may stand between the characters of a section. -/
def isSpace (b : UInt8) : Bool := isLineEnd b || b = 0x20 || b = 0x09 || b = 0x0b || b = 0x0c

/-- Lines, ended by either of two characters or both. -/
def lines (bytes : List UInt8) : List (List UInt8) :=
  (bytes.map fun b => if isLineEnd b then 0x0a else b).splitOn 0x0a

def bytesOf (text : String) : List UInt8 := text.toUTF8.toList

def isDash (b : UInt8) : Bool := b = 0x2d

/-- The label of a line that opens a section; none if the line is no proper opening, which ends in
five dashes, with spaces among them or behind. -/
def opening? (line : List UInt8) : Option (Option (List UInt8)) :=
  let start := bytesOf "-----BEGIN "
  if start.isPrefixOf line then
    let reversed := line.reverse
    let tail := reversed.takeWhile fun b => isDash b || b = 0x20
    let dashes := (tail.reverse.dropWhile (!isDash ·)).length
    if (tail.filter isDash).length = 5 then
      some (some ((reversed.drop dashes).reverse.drop start.length))
    else some none
  else none

def closingOf (label : List UInt8) : List UInt8 :=
  bytesOf "-----END " ++ label ++ bytesOf "-----"

/-- The bytes that the lines of a section encode. -/
def content? (body : List UInt8) : Option (List UInt8) :=
  Text.Base64.decode ((body.filter (!isSpace ·)).map fun b => Char.ofNat b.toNat)

/-- The contents of the sections of known labels, from the label and the lines read so far on. A
new opening changes the label of a section, not its lines. -/
def sectionsFrom (label : Option (List UInt8)) (body : List UInt8) :
    List (List UInt8) → Option (List (List UInt8 × List UInt8))
  | [] => if label.isSome then none else some []
  | line :: rest =>
    match opening? line, label with
    | some none, _ => none
    | some (some label), _ => sectionsFrom (some label) body rest
    | none, none => sectionsFrom none body rest
    | none, some label =>
      if (closingOf label).isPrefixOf line then
        if (knownLabels.map bytesOf).contains label then do
          let content ← content? body
          return (label, content) :: (← sectionsFrom none [] rest)
        else sectionsFrom none [] rest
      else sectionsFrom (some label) (body ++ line) rest

/-- The contents of the certificate sections, unless a section of a known label is damaged. -/
def certificates? (bytes : List UInt8) : Option (List (List UInt8)) := do
  let sections ← sectionsFrom none [] (lines bytes)
  return (sections.filter (·.1 = bytesOf "CERTIFICATE")).map (·.2)

end Pem

/-- Which certificates servers are trusted by: the anchors that come with the program, or those of a
file. -/
inductive TrustStore where
  /-- The anchors that come with the program. -/
  | platform
  /-- These anchors alone; they need not be certificates before a client is made. -/
  | anchors (list : List (List UInt8))
deriving DecidableEq

namespace TrustStore

/-- The anchors of a file in which sections of base 64 stand between labelled lines. -/
def ofFile (files : FileTree) (path : String) : Except ReleaseError TrustStore :=
  match files.read path with
  | .error fault => .error (.file fault)
  | .ok bytes =>
    match Pem.certificates? bytes.toList with
    | none => .error (.config (.invalidAnchors path))
    | some [] => .error (.config (.noCertificates path))
    | some list => .ok (.anchors list)

/-- The anchors, unless one of them is no certificate, given those that come with the program. -/
def anchors? (roots : List Anchor) : TrustStore → Option (List Anchor)
  | .platform => some roots
  | .anchors list => list.mapM Anchor.ofBytes?

end TrustStore

end ReleaseLine
