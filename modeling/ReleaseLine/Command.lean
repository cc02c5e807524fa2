import ReleaseLine.Client
import ReleaseLine.Config

namespace ReleaseLine

inductive Command where
  | latest
  | nextVersion
  | publish (artifact : String)
deriving DecidableEq

namespace Command

abbrev Run := ExceptT ReleaseError (StateM Session)

def print (text : String) : Run Unit :=
  modifyThe Session fun s => { s with printed := s.printed ++ text ++ "\n" }

/-- Go on unless a check failed. -/
def check {α : Type} (result : Except ReleaseError α) : Run α := ExceptT.mk (pure result)

def loadConfig (path : Option String) : Run Config := do
  ExceptT.mk (Config.load (← getThe Session).environment path)

def clientOf (config : Config) : Run Client := do
  let api ← check config.apiBase
  let repository ← check config.repositoryOf
  let environment := (← getThe Session).environment
  let store ← check (config.trustStore environment.files)
  check (Client.make environment.roots api repository store config.timeouts config.userAgent)

def runLatest (config : Option String) : Run Unit := do
  let client ← clientOf (← loadConfig config)
  match ← client.latest with
  | .ok version => print version.render
  | .error failure => throw (.lookup failure)

def versionFor (source : ReleaseSource (StateM Session)) : Run VersionNumber := do
  let requested := Config.versionOverride? (← getThe Session).environment
  ExceptT.mk (determineVersion source requested)

def runNextVersion (config : Option String) : Run Unit := do
  let client ← clientOf (← loadConfig config)
  print (← versionFor client.source).render

/-- All that is checked before an artifact is published: the configuration and the client to publish
with. -/
def prepare (path : String) (config : Option String) : Run (Config × PublishingClient) := do
  let config ← loadConfig config
  let environment := (← getThe Session).environment
  let token ← check (config.tokenOf environment)
  if !environment.files.isFile path then throw (.artifactNotFound path)
  let client ← clientOf config
  return (config, ⟨client, ← check config.uploadBase, token⟩)

/-- Publish the artifact at a path. All that can be checked is checked before the first request. -/
def runPublish (path : String) (config : Option String) : Run Unit := do
  let (config, client) ← prepare path config
  let version ← versionFor client.source
  let artifact := config.artifactOf path version
  print ("Publishing " ++ artifact.name ++ " as " ++ version.render ++ "...")
  let id ← ExceptT.mk (ReleaseLine.publish client.publisher version artifact)
  print ("✓ Released " ++ version.render ++ " (release id " ++ id.text ++ ")")

def run (command : Command) (config : Option String) : Run Unit :=
  match command with
  | .latest => runLatest config
  | .nextVersion => runNextVersion config
  | .publish artifact => runPublish artifact config

end Command

end ReleaseLine
