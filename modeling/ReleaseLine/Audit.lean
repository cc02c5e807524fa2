import ReleaseLine.Failure
import ReleaseLine.Log

namespace ReleaseLine

/-- How an exchange ended: with a whole response, or with the cause for which there is none. -/
inductive AuditEvent where
  | completed (url : Url) (response : Response)
  | failed (url : Url) (cause : Cause)

namespace AuditEvent

def url : AuditEvent → Url
  | .completed url _ | .failed url _ => url

def toRecord : AuditEvent → Log.Record
  | .completed url response =>
    { level := .debug
      origin := .audit
      message :=
        "Completed request to " ++ url.render ++ "\nresponse status code: " ++
          toString response.status ++ "\nresponse headers:\n" ++
          String.join (response.headers.map Failure.headerLine) ++ "response body:\n" ++
          response.body
      fields := [] }
  | .failed url cause =>
    { level := .debug
      origin := .audit
      message := "Failed request to " ++ url.render
      fields := [("error", cause.message)] }

end AuditEvent

abbrev Auditor (m : Type → Type) := AuditEvent → m Unit

namespace Auditor

variable {m : Type → Type}

def recording [MonadStateOf (List AuditEvent) m] : Auditor m :=
  fun event => modifyThe (List AuditEvent) (· ++ [event])

def logging [Log.Logging m] : Auditor m := fun event => Log.Logging.log event.toRecord

def discarding [Pure m] : Auditor m := fun _ => pure ()

end Auditor

end ReleaseLine
