import ReleaseLine.FileFault
import ReleaseLine.Json.Fault
import ReleaseLine.Version

namespace ReleaseLine

/-- A fault of the transport, by class: met while connecting, because of a time limit, while the
request was put together, or while redirects were followed. The wording belongs to the transport; a
placeholder stands for it where it is not told. -/
structure TransportFault where
  connect : Bool := false
  timeout : Bool := false
  builder : Bool := false
  redirect : Bool := false
  message : String := "<transport>"
  /-- The texts of what lies behind the fault in turn. -/
  sources : List String := []
deriving DecidableEq

/-- What lies behind a failed exchange with the release service. -/
inductive Cause where
  | transport (fault : TransportFault)
  /-- A time limit on the response head or on the whole exchange ran out. -/
  | deadline
  | json (error : Json.Error)
  | artifact (path : String) (fault : FileFault)
  | tag (error : VersionError)
  | noReleases

namespace Cause

def message : Cause → String
  | .transport fault => fault.message
  | .deadline => "deadline has elapsed"
  | .json error => error.message
  | .artifact path fault => "failed to read artifact " ++ path ++ ": " ++ fault.message
  | .tag error => "invalid release tag: " ++ error.message
  | .noReleases => "no releases found"

def sources : Cause → List String
  | .transport fault => fault.sources
  | .artifact _ fault => fault.message :: fault.sources
  | .tag error => [error.message]
  | .deadline | .json _ | .noReleases => []

/-- Whether the transport gave up connecting because of a time limit. -/
def isConnectTimeout : Cause → Bool
  | .transport fault => fault.connect && fault.timeout
  | _ => false

/-- Whether a time limit ran out, whichever it was. -/
def isTimeout : Cause → Bool
  | .transport fault => fault.timeout
  | .deadline => true
  | _ => false

def chain (cause : Cause) : List String := cause.message :: cause.sources

end Cause

/-- An error that lies behind a failure: its cause, or what lies behind another such error. -/
inductive Source where
  | cause (cause : Cause)
  | file (fault : FileFault)
  | version (error : VersionError)
  /-- An error of another hand, known by its text and the texts behind it. -/
  | foreign (text : String) (behind : List String)

namespace Source

def message : Source → String
  | .cause c => c.message
  | .file fault => fault.message
  | .version error => error.message
  | .foreign text _ => text

def ofTexts? : List String → Option Source
  | [] => none
  | text :: behind => some (.foreign text behind)

/-- What lies right behind an error. A fault of the transport stands for itself: behind it is what
is behind the fault. -/
def next? : Source → Option Source
  | .cause (.transport fault) => ofTexts? fault.sources
  | .cause (.artifact _ fault) => some (.file fault)
  | .cause (.tag error) => some (.version error)
  | .cause .deadline | .cause (.json _) | .cause .noReleases => none
  | .file fault => ofTexts? fault.sources
  | .version _ => none
  | .foreign _ behind => ofTexts? behind

end Source

end ReleaseLine
