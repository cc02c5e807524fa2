import ReleaseLine.Certificate
import ReleaseLine.FileTree

namespace ReleaseLine

abbrev Variables := List (String × String)

/-- What a program finds around it: the values of variables, the files, and the anchors that
come with it. -/
structure Environment where
  bindings : Variables
  files : FileTree
  /-- The anchors that come with the program. -/
  roots : List Anchor := []

namespace Environment

def value? (e : Environment) (name : String) : Option String :=
  (e.bindings.find? (·.1 = name)).map (·.2)

/-- The value of a variable, where an empty value is none. -/
def nonEmpty? (e : Environment) (name : String) : Option String :=
  (e.value? name).filter (· ≠ "")

def join (directory name : String) : String :=
  if directory = "" ∨ directory.endsWith "/" then directory ++ name else directory ++ "/" ++ name

/-- The directory of user configuration: the one that is named by an absolute path, else the usual
one under the home directory. -/
def configDirectory? (e : Environment) : Option String :=
  match (e.value? "XDG_CONFIG_HOME").filter (·.startsWith "/") with
  | some directory => some directory
  | none => (e.nonEmpty? "HOME").map (join · ".config")

def home? (e : Environment) : Option String := e.configDirectory?.map (join · "releasekit")

def configFile? (e : Environment) : Option String := e.home?.map (join · "config.yaml")

end Environment

end ReleaseLine
