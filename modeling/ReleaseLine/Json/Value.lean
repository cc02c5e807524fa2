import ReleaseLine.Json.Reader

namespace ReleaseLine.Json

inductive Value where
  | null
  | boolean (b : Bool)
  | number (n : Reader.Number)
  | string (s : String)
  | list (elements : List Value)
  | object (members : List (String × Value))

namespace Value

open Reader

def depthLimit : Nat := 128

/-- Set a member; a name that is there already keeps its place and gets the new value. -/
def setMember (members : List (String × Value)) (name : String) (v : Value) :
    List (String × Value) :=
  if members.any (·.1 = name) then members.map fun m => if m.1 = name then (name, v) else m
  else members ++ [(name, v)]

def elements (element : Reader Value) : Reader Value :=
  loop (fun (done : List Value) => do
    if ← hasElement done.isEmpty then return .inl ((← element) :: done)
    else return .inr (.list done.reverse)) []

def members (value : Reader Value) : Reader Value :=
  loop (fun (first, done) => do
    if ← hasMember first then
      skip
      let name ← Reader.string
      colon
      return .inl (false, setMember done name (← value))
    else return .inr (.object done)) (true, [])

/-- Read a value of which lists and objects nest less deep than `depth`. -/
def reader : Nat → Reader Value
  | 0 => failNext .tooDeep
  | depth + 1 => placed do
    let b ← peekValue
    if b = 0x6e then do skip; keyword [0x75, 0x6c, 0x6c]; return .null
    else if b = 0x74 then do skip; keyword [0x72, 0x75, 0x65]; return .boolean true
    else if b = 0x66 then do skip; keyword [0x61, 0x6c, 0x73, 0x65]; return .boolean false
    else if b = 0x2d ∨ isDigit b then return .number (← signedNumber)
    else if b = 0x22 then
      skip
      return .string (← Reader.string)
    else if b = 0x5b then
      if depth = 0 then failNext .tooDeep
      else closedBy (do skip; elements (reader depth)) listEnd
    else if b = 0x7b then
      if depth = 0 then failNext .tooDeep
      else closedBy (do skip; members (reader depth)) objectEnd
    else failNext .expectedValue

def parse (text : String) : Except Error Value :=
  Reader.run (reader depthLimit) text.toUTF8.toList

end Value

def escape (c : Char) : List Char :=
  if c = '"' then ['\\', '"']
  else if c = '\\' then ['\\', '\\']
  else if c = '\n' then ['\\', 'n']
  else if c = '\r' then ['\\', 'r']
  else if c = '\t' then ['\\', 't']
  else if c.toNat = 8 then ['\\', 'b']
  else if c.toNat = 12 then ['\\', 'f']
  else if c.toNat < 16 then ['\\', 'u', '0', '0', '0'] ++ Nat.toDigits 16 c.toNat
  else if c.toNat < 32 then ['\\', 'u', '0', '0'] ++ Nat.toDigits 16 c.toNat
  else [c]

def encodeString (text : List Char) : List Char := '"' :: text.flatMap escape ++ ['"']

def encodeMember (name value : String) : String :=
  String.ofList ('{' :: encodeString name.toList ++ ':' :: encodeString value.toList ++ ['}'])

end ReleaseLine.Json
