import ReleaseLine.CommandLine

/-!
The program on a machine: its arguments, variables and files are read, the command is run, and
what it printed is shown. This build has no transport, so that no host can be reached.
-/

namespace ReleaseLine.Main

/-- The variables that the program looks at. -/
def variableNames : List String :=
  ["HOME", "XDG_CONFIG_HOME", "GITHUB_TOKEN", "RELEASEKIT_VERSION"]

/-- The paths that the arguments and variables lead to. -/
def pathsOf (e : Environment) : Invocation → List String
  | .run (.publish artifact) config => artifact :: (config.or e.configFile?).toList
  | .run _ config => (config.or e.configFile?).toList
  | .help | .version | .misuse => []

/-- Read what stands at a path, if anything does. -/
def load (files : FileTree) (path : String) : IO FileTree := do
  try
    if ← ((← IO.currentDir) / path).isDir then return files.write path .directory
    return files.write path (.file (← IO.FS.readBinFile path))
  catch _ => return files

end ReleaseLine.Main

open ReleaseLine in
def main (arguments : List String) : IO UInt32 := do
  let bindings ← Main.variableNames.filterMapM fun name => do
    return (← IO.getEnv name).map (name, ·)
  let here := (← IO.currentDir).toString
  let environment : Environment :=
    { bindings, files := ⟨FileTree.components here |>.drop 1, []⟩ }
  let invocation := CommandLine.read arguments
  let paths := Main.pathsOf environment invocation
  let files ← paths.foldlM Main.load environment.files
  let trust := paths.filterMap fun path =>
    (Config.ofFile files path).toOption.bind (·.trustAnchors)
  let files ← trust.foldlM Main.load files
  let session : Session :=
    { environment := { environment with files := files }, network := { connection := .rejects } }
  let (exit, session) := (CommandLine.run arguments).run session
  IO.print session.printed
  IO.eprint exit.complaint
  return exit.code
