import ReleaseLine.Cause
import ReleaseLine.Duration
import ReleaseLine.Text.Blank
import ReleaseLine.Url.Basic

namespace ReleaseLine

/-- Header lines, names in lower case. -/
abbrev Headers := List (String × String)

structure Response where
  status : Nat
  headers : Headers
  body : String
deriving DecidableEq

inductive Phase where
  | connect
  | firstByte
  | endToEnd
deriving DecidableEq

def Phase.name : Phase → String
  | .connect => "connect"
  | .firstByte => "first byte"
  | .endToEnd => "end to end"

/-- The ways in which an exchange with the release service fails. -/
inductive Failure where
  /-- The response has another status than the operation expects. -/
  | unexpectedStatus (url : Url) (expected : Nat) (response : Response)
  /-- The response has the expected status but its body cannot be interpreted. -/
  | unusableBody (url : Url) (response : Response) (cause : Cause)
  | notSubmitted (url : Url) (cause : Cause)
  | timedOut (phase : Phase) (limit : Duration) (url : Url) (cause : Cause)

namespace Failure

def url : Failure → Url
  | .unexpectedStatus url _ _ | .unusableBody url _ _ | .notSubmitted url _
  | .timedOut _ _ url _ => url

def response? : Failure → Option Response
  | .unexpectedStatus _ _ response | .unusableBody _ response _ => some response
  | .notSubmitted .. | .timedOut .. => none

def cause? : Failure → Option Cause
  | .unexpectedStatus .. => none
  | .unusableBody _ _ cause | .notSubmitted _ cause | .timedOut _ _ _ cause => some cause

def source? (failure : Failure) : Option Source := failure.cause?.map .cause

/-- The texts behind a failure, each lying behind the one before it. -/
def chain (failure : Failure) : List String := (failure.cause?.map Cause.chain).getD []

/-- What happened, in one line without its end. -/
def summary : Failure → String
  | .unexpectedStatus url expected response =>
    "Expected request to " ++ url.render ++ " to respond with status code " ++
      toString expected ++ " but got " ++ toString response.status
  | .unusableBody url response cause =>
    "Request to " ++ url.render ++ " responded with status code " ++ toString response.status ++
      " which could not be handled: " ++ cause.message
  | .notSubmitted url cause =>
    "Failed submitting request to " ++ url.render ++ ": " ++ cause.message
  | .timedOut phase limit url _ =>
    "Request to " ++ url.render ++ " exceeded " ++ phase.name ++ " timeout of " ++ limit.render

/-- The texts that the lines after the first one name as causes. -/
def furtherCauses : Failure → List String
  | .unusableBody _ _ cause | .notSubmitted _ cause => cause.sources
  | .unexpectedStatus .. | .timedOut .. => []

def headerLine (header : String × String) : String :=
  "\t" ++ header.1 ++ ": " ++ header.2 ++ "\n"

/-- Headers and body, as they end a diagnostic. -/
def responseSection (response : Response) : String :=
  "response headers:\n" ++ String.join (response.headers.map headerLine) ++
    "response body:\n" ++ response.body ++ "\n"

/-- The diagnostic with whatever white space the body ends in. -/
def untrimmed (failure : Failure) : String :=
  failure.summary ++ "\n" ++
    String.join (failure.furtherCauses.map fun text => "caused by: " ++ text ++ "\n") ++
    (failure.response?.map responseSection).getD ""

/-- The diagnostic of a failure: a first line, the causes behind the one it names, then headers and
body if there was a response. -/
def format (failure : Failure) : String :=
  String.ofList (Text.trimEnd failure.untrimmed.toList)

end Failure

end ReleaseLine
