import ReleaseLine.Text.Utf8

namespace ReleaseLine.Http

def isUpper (b : UInt8) : Bool := 0x41 ≤ b && b ≤ 0x5a

def isDigit (b : UInt8) : Bool := 0x30 ≤ b && b ≤ 0x39

def isLetter (b : UInt8) : Bool := isUpper b || (0x61 ≤ b && b ≤ 0x7a)

def isNameByte (b : UInt8) : Bool :=
  isLetter b || isDigit b || "!#$%&'*+-.^_`|~".toUTF8.toList.contains b

/-- Whether a byte may stand in a value: no control character but the tab. -/
def isValueByte (b : UInt8) : Bool := b = 0x09 || (0x20 ≤ b && b ≠ 0x7f)

/-- Whether a byte stands for a printed character, a blank or a tab. -/
def isPlainByte (b : UInt8) : Bool := isValueByte b && b < 0x7f

/-- Whether a text can be the value of a header line. -/
def isValue (text : String) : Bool := (Text.Utf8.encode text.toList).all isValueByte

/-- A line as it is received: the name in lower case, the value as bytes. -/
structure Field where
  name : String
  value : List UInt8
deriving DecidableEq

namespace Field

/-- Lines of one name stand together where the first of them stood, in their order. -/
def group (fields : List Field) : List Field :=
  (fields.map (·.name)).eraseDups.flatMap fun name => fields.filter (·.name = name)

def decoded (field : Field) : String × String :=
  (field.name, String.ofList (Text.Utf8.decode field.value))

def find? (fields : List Field) (name : String) : Option (List UInt8) :=
  (fields.find? (·.name = name)).map (·.value)

def values (fields : List Field) (name : String) : List (List UInt8) :=
  (fields.filter (·.name = name)).map (·.value)

end Field

end ReleaseLine.Http
