import ReleaseLine.Failure
import ReleaseLine.Yaml.Error

namespace ReleaseLine

inductive ConfigFault where
  | unreadable (path : String) (error : Yaml.Error)
  | incompleteRepository
  | invalidUrl (url : String) (error : Url.SyntaxError)
  /-- Segments cannot be added to the path of the URL. -/
  | rootlessUrl (url : String)
  | invalidAnchors (path : String)
  | noCertificates (path : String)

def yamlMessage (error : Yaml.Error) : String := "YAML parsing error: " ++ error.message

def ConfigFault.message : ConfigFault → String
  | .unreadable path error => "Failed to parse config " ++ path ++ ": " ++ yamlMessage error
  | .incompleteRepository => "Both `owner` and `repository` must be configured"
  | .invalidUrl url error => "Invalid base URL '" ++ url ++ "': " ++ error.message
  | .rootlessUrl url => "Base URL '" ++ url ++ "' cannot carry a path"
  | .invalidAnchors path => "Invalid trust anchors in " ++ path ++ ": builder error"
  | .noCertificates path => "No certificates found in " ++ path

inductive ReleaseError where
  | file (fault : FileFault)
  | yaml (error : Yaml.Error)
  /-- No client can be made with the trust anchors. -/
  | client
  | artifactNotFound (path : String)
  | noConfigDirectory
  | config (fault : ConfigFault)
  | version (error : VersionError)
  | noToken
  | developmentVersion
  | publish (failure : Failure)
  | lookup (failure : Failure)

def ReleaseError.message : ReleaseError → String
  | .file fault => "IO error: " ++ fault.message
  | .yaml error => yamlMessage error
  | .client => "HTTP error: builder error"
  | .artifactNotFound path => "Path error: Artifact not found: " ++ path
  | .noConfigDirectory => "Path error: Could not determine config directory"
  | .config fault => "Configuration error: " ++ fault.message
  | .version error => "Invalid version: " ++ error.message
  | .noToken =>
    "Credentials error: No GitHub token found. Set GITHUB_TOKEN or `token` in the config file"
  | .developmentVersion => "Release failed: Cannot release development version"
  | .publish failure => "Release failed: " ++ failure.format
  | .lookup failure => "Release lookup failed: " ++ failure.format

end ReleaseLine
