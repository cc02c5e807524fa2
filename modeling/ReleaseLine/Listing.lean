import ReleaseLine.Json.Reader

namespace ReleaseLine

open Json Json.Reader

/-- Read the object `type` with the one member `name` that matters. -/
def recordReader {α : Type} (type name : String) (value : Reader α) : Reader α :=
  let described := "struct " ++ type
  placed do
    match ← peekValue with
    | 0x5b =>
      closedBy (do
        skip
        if ← hasElement true then value
        else failUnplaced (.wrongLength 0 (described ++ " with 1 element"))) listEnd
    | 0x7b =>
      closedBy (do
        skip
        loop (fun (first, read) => do
          if ← hasMember first then
            skip
            let key ← string
            if key = name then
              if read.isSome then failUnplaced (.repeatedField name)
              colon
              return .inl (false, some (← value))
            else
              colon
              skipValue
              return .inl (false, read)
          else
            match read with
            | some a => return .inr a
            | none => failUnplaced (.missingField name)) (true, none)) objectEnd
    | _ => wrongType described

def stringReader : Reader String := placed do
  match ← peekValue with
  | 0x22 =>
    skip
    string
  | _ => wrongType "a string"

def identifierReader : Reader Nat := placed do
  let b ← peekValue
  if b = 0x2d ∨ isDigit b then
    match ← signedNumber with
    | .natural n => return n
    | .negative n => failUnplaced (.wrongValue (.signed n) "u64")
    | .float x => failUnplaced (.wrongType (.float x) "u64")
  else wrongType "u64"

def tagsReader : Reader (List String) := placed do
  match ← peekValue with
  | 0x5b =>
    closedBy (do
      skip
      loop (fun (done : List String) => do
        if ← hasElement done.isEmpty then
          return .inl ((← recordReader "ReleaseSummary" "tag_name" stringReader) :: done)
        else return .inr done.reverse) []) listEnd
  | _ => wrongType "a sequence"

/-- The tags of the releases in a listing, in order. -/
def Listing.tags (body : String) : Except Json.Error (List String) :=
  Reader.run tagsReader body.toUTF8.toList

def Listing.createdId (body : String) : Except Json.Error Nat :=
  Reader.run (recordReader "CreatedRelease" "id" identifierReader) body.toUTF8.toList

end ReleaseLine
