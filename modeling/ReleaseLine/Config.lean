import ReleaseLine.Environment
import ReleaseLine.Log
import ReleaseLine.Repository
import ReleaseLine.Text.Substitution
import ReleaseLine.Timeouts
import ReleaseLine.TrustStore
import ReleaseLine.Url.Parser
import ReleaseLine.Yaml.Decoding
import ReleaseLine.Yaml.Printer

namespace ReleaseLine

/-- How the uploaded artifact is presented on the release. -/
structure ArtifactConfig where
  /-- The name there, in which placeholders stand for repository and version. -/
  name : String := "\x7brepository\x7d-\x7bversion\x7d.jar"
  label : String := "Jar"
  contentType : String := "application/java-archive"
deriving DecidableEq

/-- The user agent that requests name unless configured otherwise. -/
def defaultUserAgent : String := "releasekit"

/-- The configuration. What a file leaves out has a default, and what it sets does not depend on the
rest. -/
structure Config where
  apiUrl : String := "https://api.github.com"
  uploadUrl : String := "https://uploads.github.com"
  owner : Option String := none
  repository : Option String := none
  userAgent : String := defaultUserAgent
  connectTimeout : UInt64 := 1000
  firstByteTimeout : UInt64 := 2000
  endToEndTimeout : UInt64 := 2000
  /-- A file of trust anchors, which replace those that come with the program. -/
  trustAnchors : Option String := none
  artifact : ArtifactConfig := {}
  token : Option String := none
deriving DecidableEq

namespace ArtifactConfig

open Yaml in
def fields : List (Yaml.Field ArtifactConfig) :=
  let text := Decode.string "a string"
  [⟨"name", fun c d p n => do return { c with name := ← text d p n }⟩,
    ⟨"label", fun c d p n => do return { c with label := ← text d p n }⟩,
    ⟨"content_type", fun c d p n => do return { c with contentType := ← text d p n }⟩]

def entries (c : ArtifactConfig) : List (String × Yaml.Node) :=
  let text (s : String) : Yaml.Node := .scalar {} none (Yaml.Scalar.ofText s)
  [("name", text c.name), ("label", text c.label), ("content_type", text c.contentType)]

end ArtifactConfig

namespace Config

open Yaml in
def fields : List (Yaml.Field Config) :=
  let text := Decode.string "a string"
  let maybe := Decode.optional text
  [⟨"api_url", fun c d p n => do return { c with apiUrl := ← text d p n }⟩,
    ⟨"upload_url", fun c d p n => do return { c with uploadUrl := ← text d p n }⟩,
    ⟨"owner", fun c d p n => do return { c with owner := ← maybe d p n }⟩,
    ⟨"repository", fun c d p n => do return { c with repository := ← maybe d p n }⟩,
    ⟨"user_agent", fun c d p n => do return { c with userAgent := ← text d p n }⟩,
    ⟨"connect_timeout_ms", fun c d p n => do
      return { c with connectTimeout := ← Decode.natural64 d p n }⟩,
    ⟨"first_byte_timeout_ms", fun c d p n => do
      return { c with firstByteTimeout := ← Decode.natural64 d p n }⟩,
    ⟨"end_to_end_timeout_ms", fun c d p n => do
      return { c with endToEndTimeout := ← Decode.natural64 d p n }⟩,
    ⟨"trust_anchors", fun c d p n => do
      return { c with trustAnchors := ← Decode.optional (Decode.string "path string") d p n }⟩,
    ⟨"artifact", fun c d p n => do
      return { c with
        artifact := ← Field.readRecord "ArtifactConfig" ArtifactConfig.fields {} d p n }⟩,
    ⟨"token", fun c d p n => do return { c with token := ← maybe d p n }⟩]

def mappingOf (entries : List (String × Yaml.Node)) : Yaml.Node :=
  .mapping {} none (entries.map fun e => (.plain {} e.1, e.2))

/-- The fields as they are written: what is not set is left out. -/
def entries (c : Config) : List (String × Yaml.Node) :=
  let text (s : String) : Yaml.Node := .scalar {} none (Yaml.Scalar.ofText s)
  let number (n : UInt64) : Yaml.Node := .scalar {} none (Yaml.Scalar.ofNat n.toNat)
  let maybe (name : String) (value : Option String) : List (String × Yaml.Node) :=
    (value.map fun s => (name, text s)).toList
  [("api_url", text c.apiUrl), ("upload_url", text c.uploadUrl)] ++
    maybe "owner" c.owner ++ maybe "repository" c.repository ++
    [("user_agent", text c.userAgent), ("connect_timeout_ms", number c.connectTimeout),
      ("first_byte_timeout_ms", number c.firstByteTimeout),
      ("end_to_end_timeout_ms", number c.endToEndTimeout)] ++
    maybe "trust_anchors" c.trustAnchors ++ [("artifact", mappingOf c.artifact.entries)] ++
    maybe "token" c.token

def toNode (c : Config) : Yaml.Node := mappingOf c.entries

def ofDocument (d : Yaml.Document) : Except Yaml.Error Config :=
  d.readRecord "Config" fields {}

def ofNode (node : Yaml.Node) : Except Yaml.Error Config := ofDocument ⟨some node, none, false⟩

def parse (text : String) : Except Yaml.Error Config := ofDocument (Yaml.Document.parse text)

def render (c : Config) : String := c.toNode.render

def ofFile (files : FileTree) (path : String) : Except ReleaseError Config :=
  match files.readText path with
  | .error fault => .error (.file fault)
  | .ok text => (parse text).mapError fun error => .config (.unreadable path error)

/-- Load the configuration from a file that has to exist, or else from the usual one, which need
not. -/
def load {m : Type → Type} [Monad m] [Log.Logging m] (e : Environment) :
    Option String → m (Except ReleaseError Config)
  | some path => pure (ofFile e.files path)
  | none =>
    match e.configFile? with
    | none => pure (.error .noConfigDirectory)
    | some usual =>
      if e.files.pathExists usual then pure (ofFile e.files usual)
      else do
        Log.Logging.log ⟨.debug, .config, "No config file, using defaults", [("path", usual)]⟩
        return .ok {}

def timeouts (c : Config) : Timeouts where
  connect := .ofMilliseconds c.connectTimeout.toNat
  firstByte := .ofMilliseconds c.firstByteTimeout.toNat
  endToEnd := .ofMilliseconds c.endToEndTimeout.toNat

def baseUrl (text : String) : Except ReleaseError Url :=
  match Url.parse text with
  | .error error => .error (.config (.invalidUrl text error))
  | .ok url => if url.isRootless then .error (.config (.rootlessUrl text)) else .ok url

def apiBase (c : Config) : Except ReleaseError Url := baseUrl c.apiUrl

def uploadBase (c : Config) : Except ReleaseError Url := baseUrl c.uploadUrl

/-- The repository, both parts of which have to be set and not empty. -/
def repositoryOf (c : Config) : Except ReleaseError Repository :=
  match c.owner.filter (· ≠ ""), c.repository.filter (· ≠ "") with
  | some owner, some name => .ok ⟨owner, name⟩
  | _, _ => .error (.config .incompleteRepository)

def trustStore (c : Config) (files : FileTree) : Except ReleaseError TrustStore :=
  match c.trustAnchors with
  | some path => TrustStore.ofFile files path
  | none => .ok .platform

/-- The bearer token: the variable wins over the configuration. -/
def tokenOf (c : Config) (e : Environment) : Except ReleaseError Token :=
  match (e.nonEmpty? "GITHUB_TOKEN").or (c.token.filter (· ≠ "")) with
  | some secret => .ok ⟨secret⟩
  | none => .error .noToken

/-- The version that is asked for in place of the next one, not read yet. -/
def versionOverride? (e : Environment) : Option String := e.nonEmpty? "RELEASEKIT_VERSION"

/-- The name of the artifact of a version: placeholders of the repository are replaced first,
then, in what that gives, those of the version. -/
def artifactName (template repository : String) (version : VersionNumber) : String :=
  Text.replace "\x7bversion\x7d" version.render
    (Text.replace "\x7brepository\x7d" repository template)

def artifactOf (c : Config) (path : String) (version : VersionNumber) : Artifact where
  path := path
  name := artifactName c.artifact.name (c.repository.getD "") version
  label := c.artifact.label
  contentType := c.artifact.contentType

end Config

end ReleaseLine
