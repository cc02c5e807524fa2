import ReleaseLine.FileFault

namespace ReleaseLine

inductive FileTree.Entry where
  | file (content : ByteArray)
  | directory

/-- Entries by the components of their absolute paths, latest first. The directories on the way to
an entry exist as well. -/
structure FileTree where
  workingDirectory : List String
  entries : List (List String × FileTree.Entry)

namespace FileTree

/-- What stands at an absolute path, given by components. -/
def entry? (t : FileTree) (path : List String) : Option Entry :=
  match t.entries.find? (·.1 = path) with
  | some (_, entry) => some entry
  | none =>
    if path.isEmpty || t.workingDirectory = path ||
        t.entries.any (fun e => path.isPrefixOf e.1 && path.length < e.1.length) then
      some .directory
    else none

def walk (t : FileTree) : List String → List String → Except FileFault (List String)
  | here, [] => .ok here
  | here, name :: rest =>
    match t.entry? here with
    | some .directory =>
      if name = "" ∨ name = "." then walk t here rest
      else if name = ".." then walk t here.dropLast rest
      else if 255 < name.utf8ByteSize then .error .nameTooLong
      else if (t.entry? (here ++ [name])).isSome then walk t (here ++ [name]) rest
      else .error .notFound
    | some (.file _) => .error .notADirectory
    | none => .error .notFound

/-- The components of a path; one that ends in a slash has an empty one at its end. -/
def components (path : String) : List String :=
  (path.toList.splitOn '/').map String.ofList

/-- What stands at a path, followed from the root or the working directory. What is on the way must
be a directory. -/
def lookup (t : FileTree) (path : String) : Except FileFault Entry := do
  if path = "" then throw .notFound
  if path.toList.contains '\x00' then throw (.other "file name contained an unexpected NUL byte")
  if 4095 < path.utf8ByteSize then throw .nameTooLong
  let start := if path.toList.head? = some '/' then [] else t.workingDirectory
  let place ← t.walk start (components path)
  match t.entry? place with
  | some entry => return entry
  | none => throw .notFound

def pathExists (t : FileTree) (path : String) : Bool := (t.lookup path).isOk

def isFile (t : FileTree) (path : String) : Bool :=
  match t.lookup path with
  | .ok (.file _) => true
  | _ => false

def read (t : FileTree) (path : String) : Except FileFault ByteArray := do
  match ← t.lookup path with
  | .file content => return content
  | .directory => throw .isADirectory

def readText (t : FileTree) (path : String) : Except FileFault String := do
  match String.fromUTF8? (← t.read path) with
  | some text => return text
  | none => throw .notText

/-- Put an entry at a path that is relative to the working directory. -/
def write (t : FileTree) (path : String) (entry : Entry) : FileTree :=
  let place := t.workingDirectory ++ (components path).filter (fun c => c ≠ "" ∧ c ≠ ".")
  { t with entries := (place, entry) :: t.entries.filter (·.1 ≠ place) }

end FileTree

end ReleaseLine
