import ReleaseLine.Log
import ReleaseLine.ReleaseError
import ReleaseLine.Repository

namespace ReleaseLine

structure ReleaseSource (m : Type → Type) where
  latest : m (Except Failure ReleaseVersion)

structure ReleasePublisher (m : Type → Type) where
  create : ReleaseVersion → m (Except Failure ReleaseId)
  upload : ReleaseId → Artifact → m (Except Failure Unit)

variable {m : Type → Type} [Monad m] [Log.Logging m]

def report (level : Log.Level) (message : String) (fields : List (String × String)) : m Unit :=
  Log.Logging.log ⟨level, .release, message, fields⟩

/-- The version of this build. A requested version is used as it is; without one the latest
release is looked up and the next one taken, and if the lookup fails this is a development
build. -/
def determineVersion (source : ReleaseSource m) (requested : Option String) :
    m (Except ReleaseError VersionNumber) :=
  match requested with
  | some text =>
    match VersionNumber.parse text with
    | .error error => return .error (.version error)
    | .ok version => do
      report .info "Using version override" [("version", version.render)]
      return .ok version
  | none => do
    match ← source.latest with
    | .ok latest =>
      report .info "Determined next version"
        [("latest", latest.render), ("version", latest.next.render)]
      return .ok (.release latest.next)
    | .error failure =>
      report .warn
        ("Failed to get latest release version, using development version\n" ++ failure.format) []
      return .ok .development

/-- Create the release of a version and attach an artifact to it. A release whose artifact cannot
be attached stays. -/
def publish (publisher : ReleasePublisher m) (version : VersionNumber) (artifact : Artifact) :
    m (Except ReleaseError ReleaseId) :=
  match version with
  | .development => return .error .developmentVersion
  | .release version => do
    report .info "Creating release" [("version", version.render)]
    match ← publisher.create version with
    | .error failure => return .error (.publish failure)
    | .ok id =>
      report .info "Uploading artifact" [("release_id", id.text), ("artifact", artifact.path)]
      match ← publisher.upload id artifact with
      | .error failure => return .error (.publish failure)
      | .ok () =>
        report .info "Released" [("version", version.render), ("release_id", id.text)]
        return .ok id

end ReleaseLine
