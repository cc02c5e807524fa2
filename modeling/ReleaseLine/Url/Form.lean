import ReleaseLine.Url.Percent

namespace ReleaseLine.Url.Form

def isPlain (c : Char) : Bool := c.isAlphanum || ['*', '-', '.', '_'].contains c

def encodeChar (c : Char) : List Char :=
  if c = ' ' then ['+']
  else if isPlain c then [c]
  else (String.utf8EncodeChar c).flatMap Percent.encodeByte

/-- Letters, digits and four marks stand for themselves, and a plus sign for a space. -/
def encode (text : List Char) : List Char := text.flatMap encodeChar

def encodePair (name value : String) : List Char :=
  encode name.toList ++ '=' :: encode value.toList

def append (query : Option String) (name value : String) : String :=
  let before := (query.getD "").toList
  let separator := if before.isEmpty then [] else ['&']
  String.ofList (before ++ separator ++ encodePair name value)

def decode (text : List Char) : String :=
  let bytes := (String.ofList text).toUTF8.toList.map fun b => if b = 0x2b then 0x20 else b
  String.ofList (Text.Utf8.decode (Percent.decode bytes))

/-- The name and value of a part between ampersands; without an equals sign the value is
empty. -/
def decodePair (part : List Char) : String × String :=
  let (name, rest) := part.span (· ≠ '=')
  (decode name, decode rest.tail)

/-- The pairs of a query; empty parts between ampersands hold none. -/
def decodePairs (query : String) : List (String × String) :=
  ((query.toList.splitOn '&').filter (!·.isEmpty)).map decodePair

end ReleaseLine.Url.Form
