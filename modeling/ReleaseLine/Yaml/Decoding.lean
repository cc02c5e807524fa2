import ReleaseLine.Yaml.Document
import ReleaseLine.Yaml.Scalar

namespace ReleaseLine.Yaml

/-- Where a node stands: its path in the document, and the mapping around it. -/
structure Place where
  path : List String
  outerPath : List String
  outerMark : Mark

abbrev Decode (α : Type) := Document → Place → Node → Except Error α

namespace Decode

variable {α σ : Type}

def cutError (d : Document) : Error := d.error.getD .missingValue

/-- The node itself, or the one that an alias refers to. -/
def follow (d : Document) (node : Node) : Node :=
  match node with
  | .alias _ number => (d.target? number).getD .cut
  | other => other

def mismatch (p : Place) (mark : Mark) (what : Mismatch) : Except Error α :=
  .error (.mismatch p.path mark what)

def wrongType (d : Document) (p : Place) (node : Node) (expected : String) : Except Error α :=
  match node with
  | .scalar mark _ s => mismatch p mark (s.mismatch expected)
  | .sequence mark _ _ => mismatch p mark (.wrongType .sequence expected)
  | .mapping mark _ _ => mismatch p mark (.wrongType .map expected)
  | .alias .. | .cut => .error (cutError d)

/-- The text of a scalar of any style and tag. -/
def string (expected : String) : Decode String := fun d p node =>
  match follow d node with
  | .scalar _ _ s => .ok s.text
  | other => wrongType d p other expected

def natural64 : Decode UInt64 := fun d p node =>
  match follow d node with
  | .scalar mark anchor s =>
    let mayBeNumber := s.style = .plain ∨ (s.style = .literal ∧ s.tag = some (Scalar.coreTag "int"))
    match if mayBeNumber then Scalar.unsigned? s.text.toList else none with
    | some n =>
      if n < UInt64.size then .ok (UInt64.ofNat n) else wrongType d p (.scalar mark anchor s) "u64"
    | none => wrongType d p (.scalar mark anchor s) "u64"
  | other => wrongType d p other "u64"

/-- A value, or nothing where a plain scalar is empty or null; one with another tag is a value. -/
def optional (decode : Decode α) : Decode (Option α) := fun d p node =>
  let value : Except Error (Option α) := (decode d p node).map some
  match follow d node with
  | .scalar _ _ s =>
    if s.style ≠ .plain then value
    else
      match s.tag with
      | none => if s.text = "" ∨ Scalar.isNull s.text then .ok none else value
      | some tag =>
        if tag = Scalar.coreTag "null" then
          if Scalar.isNull s.text then .ok none
          else .error (.mismatch p.outerPath p.outerMark (.wrongValue (.string s.text) "null"))
        else value
  | _ => value

end Decode

/-- A field of a record: its name, and how its value becomes part of the record. -/
structure Field (σ : Type) where
  name : String
  read : σ → Decode σ

namespace Field

variable {α σ : Type}

/-- The name of a key, and the last step of the path to its value. -/
def keyName (d : Document) (path : List String) (key : Node) : Except Error (String × String) :=
  match key, Decode.follow d key with
  | .alias .., .scalar _ _ s => .ok (s.text, "?")
  | _, .scalar _ _ s => .ok (s.text, s.text)
  | _, other => Decode.wrongType d ⟨path, path, {}⟩ other "field identifier"

/-- Read the entries of a mapping into a record; `seen` are the fields read already. -/
def readEntries (fields : List (Field σ)) (d : Document) (path : List String) (mark : Mark) :
    List String → σ → List (Node × Node) → Except Error σ
  | _, record, [] => .ok record
  | seen, record, (key, value) :: rest => do
    let (name, step) ← keyName d path key
    match fields.find? (·.name = name) with
    | some field =>
      if seen.contains name then throw (.mismatch path mark (.repeatedField name))
      let record ← field.read record d ⟨path ++ [step], path, mark⟩ value
      readEntries fields d path mark (name :: seen) record rest
    | none =>
      if value.isWhole then readEntries fields d path mark seen record rest
      else throw (Decode.cutError d)

/-- A record, starting from the given one; nothing at all changes nothing. -/
def readRecord (type : String) (fields : List (Field σ)) (start : σ) : Decode σ := fun d p node =>
  match Decode.follow d node with
  | .mapping mark _ entries => readEntries fields d p.path mark [] start entries
  | .scalar mark anchor s =>
    if s.text = "" ∧ s.style = .plain then .ok start
    else Decode.wrongType d p (.scalar mark anchor s) ("struct " ++ type)
  | other => Decode.wrongType d p other ("struct " ++ type)

end Field

def Document.readRecord {σ : Type} (d : Document) (type : String) (fields : List (Field σ))
    (start : σ) : Except Error σ := do
  let record ← match d.root with
    | none => pure start
    | some node => Field.readRecord type fields start d ⟨[], [], {}⟩ node
  match d.error with
  | some e => throw e
  | none => if d.followed then throw .manyDocuments else return record

end ReleaseLine.Yaml
