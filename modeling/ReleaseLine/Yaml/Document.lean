import ReleaseLine.Yaml.Lexer
import ReleaseLine.Yaml.Node

namespace ReleaseLine.Yaml

structure Builder where
  tokens : List Token
  /-- What ends the tokens, unless they are complete. -/
  scanError : Option SyntaxError
  /-- The numbers of the anchors seen so far, a name's latest one. -/
  anchors : List (List Char × Nat)
  /-- What tag handles stand for. -/
  handles : List (List Char × List Char)
  /-- The first problem. -/
  stopped : Option Error

abbrev Build := StateM Builder

namespace Build

def stop (error : Error) : Build Node := do
  modify fun b => { b with stopped := some (b.stopped.getD error) }
  return .cut

def fail (construct : Construct) (start : Mark) (problem : Problem) (mark : Mark) : Build Node :=
  stop (.notYaml ⟨problem, mark, 0, some (construct, start)⟩)

/-- The next token; none once the tree has ended. -/
def peek : Build (Option Token) := do
  let b ← get
  match b.stopped, b.tokens with
  | some _, _ => return none
  | none, token :: _ => return some token
  | none, [] =>
    match b.scanError with
    | some e => let _ ← stop (.notYaml e)
    | none => let _ ← stop .missingValue
    return none

def skip : Build Unit := modify fun b => { b with tokens := b.tokens.tail }

/-- Give an anchor a number: the count of names that are anchors by then. A name that is given
again has its later number. -/
def number (name : List Char) : Build Nat := do
  let b ← get
  let n := b.anchors.length
  let others := b.anchors.filter (·.1 ≠ name)
  set { b with anchors := (name, n) :: others }
  return n

structure Properties where
  anchor : Option (List Char) := none
  /-- Handle and suffix of the tag, and where it stands. -/
  tag : Option (List Char × List Char × Mark) := none
  start : Mark

def properties (first : Token) : Build Properties := do
  match first.kind with
  | .anchor name =>
    skip
    match ← peek with
    | some ⟨.tag handle suffix, start, _⟩ =>
      skip
      return ⟨name, some (handle, suffix, start), first.start⟩
    | _ => return ⟨some name, none, first.start⟩
  | .tag handle suffix =>
    skip
    let tag := some (handle, suffix, first.start)
    match ← peek with
    | some ⟨.anchor name, _, _⟩ =>
      skip
      return ⟨some name, tag, first.start⟩
    | _ => return ⟨none, tag, first.start⟩
  | _ => return ⟨none, none, first.start⟩

/-- The tag in full, or the place of one whose handle stands for nothing. -/
def resolveTag (tag : Option (List Char × List Char × Mark)) :
    Build (Except Mark (Option (List Char))) := do
  match tag with
  | none => return .ok none
  | some ([], suffix, _) => return .ok (some suffix)
  | some (handle, suffix, mark) =>
    match (← get).handles.find? (·.1 = handle) with
    | some (_, expansion) => return .ok (some (expansion ++ suffix))
    | none => return .error mark

/-- A scalar with a tag in full; the tag `!` leaves a scalar untagged. -/
def scalarOf (text : List Char) (style : Style) (tag : Option (List Char)) : Scalar :=
  ⟨String.ofList text, style, if tag = some ['!'] then none else tag.map String.ofList⟩

def isBlockEntry (t : Token) : Bool := t.kind = .blockEntry
def isBlockEnd (t : Token) : Bool := t.kind = .blockEnd
def isKey (t : Token) : Bool := t.kind = .key
def isValue (t : Token) : Bool := t.kind = .value
def isFlowEntry (t : Token) : Bool := t.kind = .flowEntry
def isFlowSequenceEnd (t : Token) : Bool := t.kind = .flowSequenceEnd
def isFlowMappingEnd (t : Token) : Bool := t.kind = .flowMappingEnd

/-- A node that is left out where one of certain tokens follows. -/
def orEmpty (leftOut : Token → Bool) (empty : Option Mark) (node : Build Node) : Build Node := do
  match ← peek with
  | none => return .cut
  | some t => if leftOut t then return .plain (empty.getD t.start) "" else node

/-- A node without content: allowed if it has properties. -/
def absent (block : Bool) (p : Properties) (tag : Option (List Char)) (t : Token) : Build Node := do
  if p.anchor.isSome ∨ tag.isSome then
    let anchor ← p.anchor.mapM number
    return .scalar p.start anchor ⟨"", .plain, tag.map String.ofList⟩
  else fail (if block then .blockNode else .flowNode) p.start .expectedNodeContent t.start

mutual

/-- A node; in block context it may be a block collection, and as the value of a key a sequence
that is not indented. -/
def node (block indentless : Bool) : Nat → Build Node
  | 0 => stop .missingValue
  | fuel + 1 => do
    match ← peek with
    | none => return .cut
    | some first =>
      match first.kind with
      | .alias name =>
        skip
        match (← get).anchors.find? (·.1 = name) with
        | some (_, n) => return .alias first.start n
        | none => stop (.unknownAnchor first.start)
      | _ =>
        let p ← properties first
        match ← peek with
        | none => return .cut
        | some t =>
          match ← resolveTag p.tag with
          | .error mark => fail .node p.start .undefinedTagHandle mark
          | .ok tag =>
            let numbered : Build (Option Nat) := p.anchor.mapM number
            match t.kind with
            | .blockEntry =>
              if indentless then
                let anchor ← numbered
                return .sequence p.start anchor (← indentlessItems fuel)
              else absent block p tag t
            | .scalar text style =>
              skip
              return .scalar p.start (← numbered) (scalarOf text style tag)
            | .flowSequenceStart =>
              let anchor ← numbered
              skip
              return .sequence p.start anchor (← flowItems t.start true fuel)
            | .flowMappingStart =>
              let anchor ← numbered
              skip
              return .mapping p.start anchor (← flowEntries t.start true fuel)
            | .blockSequenceStart =>
              if block then
                let anchor ← numbered
                skip
                return .sequence p.start anchor (← blockItems t.start fuel)
              else absent block p tag t
            | .blockMappingStart =>
              if block then
                let anchor ← numbered
                skip
                return .mapping p.start anchor (← blockEntries t.start fuel)
              else absent block p tag t
            | _ => absent block p tag t

def blockItems (start : Mark) : Nat → Build (List Node)
  | 0 => return [.cut]
  | fuel + 1 => do
    match ← peek with
    | none => return [.cut]
    | some t =>
      if isBlockEntry t then
        skip
        let item ← orEmpty (fun u => isBlockEntry u || isBlockEnd u) t.stop (node true false fuel)
        return item :: (← blockItems start fuel)
      else if isBlockEnd t then
        skip
        return []
      else return [← fail .blockCollection start .expectedDash t.start]

/-- The items of a sequence that is indented no deeper than its key. -/
def indentlessItems : Nat → Build (List Node)
  | 0 => return [.cut]
  | fuel + 1 => do
    match ← peek with
    | none => return [.cut]
    | some t =>
      if isBlockEntry t then
        skip
        let item ← orEmpty (fun u => isBlockEntry u || isKey u || isValue u || isBlockEnd u) t.stop
          (node true false fuel)
        return item :: (← indentlessItems fuel)
      else return []

def blockEntries (start : Mark) : Nat → Build (List (Node × Node))
  | 0 => return [(.cut, .cut)]
  | fuel + 1 => do
    let leftOut (u : Token) : Bool := isKey u || isValue u || isBlockEnd u
    match ← peek with
    | none => return [(.cut, .cut)]
    | some t =>
      if isKey t then
        skip
        let key ← orEmpty leftOut t.stop (node true true fuel)
        match ← peek with
        | none => return [(key, .cut)]
        | some u =>
          let value ←
            if isValue u then
              skip
              orEmpty leftOut u.stop (node true true fuel)
            else pure (.plain u.start "")
          return (key, value) :: (← blockEntries start fuel)
      else if isBlockEnd t then
        skip
        return []
      else return [(← fail .blockMapping start .expectedKey t.start, .cut)]

/-- The items of a flow sequence; a single pair stands for a mapping of its own. -/
def flowItems (start : Mark) (first : Bool) : Nat → Build (List Node)
  | 0 => return [.cut]
  | fuel + 1 => do
    match ← peek with
    | none => return [.cut]
    | some t =>
      if isFlowSequenceEnd t then
        skip
        return []
      else if first = false ∧ isFlowEntry t = false then
        return [← fail .flowSequence start .expectedCommaOrSquare t.start]
      else
        if first = false then skip
        match ← peek with
        | none => return [.cut]
        | some t =>
          if isKey t then
            skip
            let item ← flowPair t.start fuel
            return item :: (← flowItems start false fuel)
          else if isFlowSequenceEnd t then
            skip
            return []
          else
            let item ← node false false fuel
            return item :: (← flowItems start false fuel)

def flowPair (start : Mark) : Nat → Build Node
  | 0 => stop .missingValue
  | fuel + 1 => do
    match ← peek with
    | none => return .mapping start none [(.cut, .cut)]
    | some t =>
      let key ←
        if isValue t ∨ isFlowEntry t ∨ isFlowSequenceEnd t then
          skip
          pure (.plain t.stop "")
        else node false false fuel
      match ← peek with
      | none => return .mapping start none [(key, .cut)]
      | some t =>
        let value ←
          if isValue t then
            skip
            orEmpty (fun u => isFlowEntry u || isFlowSequenceEnd u) none (node false false fuel)
          else pure (.plain t.start "")
        return .mapping start none [(key, value)]

def flowEntries (start : Mark) (first : Bool) : Nat → Build (List (Node × Node))
  | 0 => return [(.cut, .cut)]
  | fuel + 1 => do
    match ← peek with
    | none => return [(.cut, .cut)]
    | some t =>
      if isFlowMappingEnd t then
        skip
        return []
      else if first = false ∧ isFlowEntry t = false then
        return [(← fail .flowMapping start .expectedCommaOrCurly t.start, .cut)]
      else
        if first = false then skip
        match ← peek with
        | none => return [(.cut, .cut)]
        | some t =>
          if isFlowMappingEnd t then
            skip
            return []
          else if isKey t then
            skip
            let key ← orEmpty (fun u => isValue u || isFlowEntry u || isFlowMappingEnd u) none
              (node false false fuel)
            match ← peek with
            | none => return [(key, .cut)]
            | some u =>
              let value ←
                if isValue u then
                  skip
                  orEmpty (fun u => isFlowEntry u || isFlowMappingEnd u) none
                    (node false false fuel)
                else pure (.plain u.start "")
              return (key, value) :: (← flowEntries start false fuel)
          else
            let key ← node false false fuel
            match ← peek with
            | none => return [(key, .cut)]
            | some u => return (key, .plain u.start "") :: (← flowEntries start false fuel)

end

def directiveProblem? (seenVersion : Bool) (handles : List (List Char × List Char))
    (kind : Token.Kind) : Option Problem :=
  match kind with
  | .versionDirective major minor =>
    if seenVersion then some .repeatedVersion
    else if major ≠ 1 ∨ (minor ≠ 1 ∧ minor ≠ 2) then some .incompatibleDocument
    else none
  | .tagDirective handle _ =>
    if handles.any (·.1 = handle) then some .repeatedTagDirective else none
  | _ => none

/-- The directives before a document, and the handles that they define. -/
def directives : Nat → Bool → List (List Char × List Char) →
    Build (List (List Char × List Char))
  | 0, _, handles => return handles
  | fuel + 1, seenVersion, handles => do
    match ← peek with
    | none => return handles
    | some t =>
      match directiveProblem? seenVersion handles t.kind with
      | some problem =>
        let _ ← stop (.notYaml ⟨problem, t.start, 0, none⟩)
        return handles
      | none =>
        match t.kind with
        | .versionDirective .. =>
          skip
          directives fuel true handles
        | .tagDirective handle expansion =>
          skip
          directives fuel seenVersion (handles ++ [(handle, expansion)])
        | _ => return handles

def defaultHandles : List (List Char × List Char) :=
  [(['!'], ['!']), (['!', '!'], "tag:yaml.org,2002:".toList)]

/-- Tokens behind which a document that was started explicitly is empty. -/
def endsDocument (t : Token) : Bool :=
  match t.kind with
  | .versionDirective .. | .tagDirective .. | .documentStart | .documentEnd | .streamEnd => true
  | _ => false

/-- The tree of the first document; none if there is no document. -/
def firstRoot (fuel : Nat) : Build (Option Node) := do
  match ← peek with
  | none => return some .cut
  | some t =>
    match t.kind with
    | .streamEnd => return none
    | .versionDirective .. | .tagDirective .. | .documentStart =>
      let handles ← directives fuel false []
      modify fun b => { b with handles := handles ++ defaultHandles }
      match ← peek with
      | none => return some .cut
      | some t =>
        if t.kind = .documentStart then
          skip
          orEmpty endsDocument none (node true false fuel)
        else stop (.notYaml ⟨.expectedDocumentStart, t.start, 0, none⟩)
    | _ => node true false fuel

def onlyEndFollows : Nat → Build Bool
  | 0 => return false
  | fuel + 1 => do
    match ← peek with
    | none => return false
    | some t =>
      match t.kind with
      | .streamEnd => return true
      | .documentEnd =>
        skip
        onlyEndFollows fuel
      | _ => return false

def document (fuel : Nat) : Build Document := do
  match ← firstRoot fuel with
  | none => return ⟨none, none, false⟩
  | some root =>
    let _ ← peek
    match (← get).stopped with
    | some e => return ⟨some root, some e, false⟩
    | none => return ⟨some root, none, !(← onlyEndFollows fuel)⟩

end Build

/-- The tree of a text. The first problem, of tokens or of their order, ends it with a cut. -/
def Document.parse (text : String) : Document :=
  let (tokens, error) := Token.scan text
  ((Build.document (4 * tokens.length + 8)).run
    ⟨tokens, error, [], Build.defaultHandles, none⟩).1

end ReleaseLine.Yaml
