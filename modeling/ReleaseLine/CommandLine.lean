import ReleaseLine.Command

namespace ReleaseLine

inductive Invocation where
  | run (command : Command) (config : Option String)
  | help
  | version
  | misuse
deriving DecidableEq

namespace CommandLine

/-- Where in the arguments a reader is: before the name of a command, or after it. -/
inductive Scope where
  | top
  | latest
  | nextVersion
  | publish
  /-- Names of commands follow for which help is asked. -/
  | help (named : Bool)
deriving DecidableEq

inductive ValueOption where
  | config
  | artifact
deriving DecidableEq

structure State where
  scope : Scope := .top
  /-- The configuration named before the command, and the one named after it. -/
  outer : Option String := none
  config : Option String := none
  artifact : Option String := none
  /-- The option whose value is the next argument. -/
  awaiting : Option ValueOption := none
  /-- Whether only operands may follow. -/
  ended : Bool := false

/-- Set an option, once and to something. -/
def State.set (s : State) (option : ValueOption) (value : String) : Except Invocation State :=
  if value = "" then throw .misuse
  else
    match option with
    | .config =>
      if s.config.isSome then throw .misuse
      else return { s with config := some value, awaiting := none }
    | .artifact =>
      if s.artifact.isSome then throw .misuse
      else return { s with artifact := some value, awaiting := none }

def State.enter (s : State) (scope : Scope) : State :=
  { s with scope := scope, outer := s.config, config := none }

/-- Read an option whose value may be attached to it. -/
def State.option (s : State) (option : ValueOption) (attached : Option String) :
    Except Invocation State :=
  match attached with
  | some value => s.set option value
  | none => return { s with awaiting := some option }

def State.long (s : State) (text : List Char) : Except Invocation State :=
  let (name, rest) := text.span (· ≠ '=')
  let attached := rest.head?.map fun _ => String.ofList (rest.drop 1)
  match String.ofList name, attached with
  | "config", value => s.option .config value
  | "artifact", value => if s.scope = .publish then s.option .artifact value else throw .misuse
  | "help", none => throw .help
  | "version", none => throw (if s.scope = .top then .version else .misuse)
  | _, _ => throw .misuse

def State.short (s : State) (text : List Char) : Except Invocation State :=
  match text with
  | 'h' :: _ => throw .help
  | 'V' :: _ => throw (if s.scope = .top then .version else .misuse)
  | 'a' :: rest =>
    if s.scope = .publish then
      match rest with
      | [] => s.option .artifact none
      | '=' :: value => s.option .artifact (some (String.ofList value))
      | value => s.option .artifact (some (String.ofList value))
    else throw .misuse
  | _ => throw .misuse

def State.operand (s : State) (text : String) : Except Invocation State :=
  if s.scope ≠ .top ∨ s.ended then throw .misuse
  else
    match text with
    | "latest" => return s.enter .latest
    | "next-version" => return s.enter .nextVersion
    | "publish" => return s.enter .publish
    | "help" => return s.enter (.help false)
    | _ => throw .misuse

def State.step (s : State) (argument : String) : Except Invocation State :=
  let chars := argument.toList
  match s.scope, s.awaiting with
  | .help named, _ =>
    if !named && ["latest", "next-version", "publish", "help"].contains argument then
      return { s with scope := .help true }
    else throw .misuse
  | _, some option =>
    if chars.head? = some '-' ∧ argument ≠ "-" then throw .misuse else s.set option argument
  | _, none =>
    if s.ended then s.operand argument
    else
      match chars with
      | ['-', '-'] => return { s with ended := true }
      | '-' :: '-' :: text => s.long text
      | ['-'] => s.operand argument
      | '-' :: text => s.short text
      | _ => s.operand argument

def State.finish (s : State) : Invocation :=
  if s.awaiting.isSome then .misuse
  else
    let config := s.config.or s.outer
    match s.scope, s.artifact with
    | .latest, _ => .run .latest config
    | .nextVersion, _ => .run .nextVersion config
    | .publish, some artifact => .run (.publish artifact) config
    | .help _, _ => .help
    | .publish, none | .top, _ => .misuse

/-- What arguments ask for. Options stand before or after the name of a command, and the first thing
that is wrong, or that asks for help, decides. -/
def read (arguments : List String) : Invocation :=
  match arguments.foldlM State.step {} with
  | .ok state => state.finish
  | .error invocation => invocation

def usage : String :=
  "Usage: releasekit [--config <CONFIG>] <COMMAND>\n\nCommands:\n" ++
    "  latest                         Print the latest published release version\n" ++
    "  next-version                   Print the version the next release would get\n" ++
    "  publish --artifact <ARTIFACT>  Create the next release and upload an artifact to it\n" ++
    "  help                           Print this text\n"

def versionText : String := "releasekit 0.1.0\n"

structure Exit where
  code : UInt32
  /-- What it prints besides its results. -/
  complaint : String := ""
deriving DecidableEq

def run (arguments : List String) : StateM Session Exit := do
  match read arguments with
  | .help =>
    modify fun s => { s with printed := s.printed ++ usage }
    return { code := 0 }
  | .version =>
    modify fun s => { s with printed := s.printed ++ versionText }
    return { code := 0 }
  | .misuse => return { code := 2, complaint := usage }
  | .run command config =>
    match ← (command.run config).run with
    | .ok () => return { code := 0 }
    | .error error => return { code := 1, complaint := "\nError: " ++ error.message ++ "\n" }

end CommandLine

end ReleaseLine
