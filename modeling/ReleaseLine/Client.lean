import ReleaseLine.Environment
import ReleaseLine.Operation
import ReleaseLine.Release
import ReleaseLine.TrustStore

namespace ReleaseLine

/-- What the program works in: its surroundings, the network ahead, and the traces it leaves. -/
structure Session where
  environment : Environment
  network : Network
  trail : List AuditEvent := []
  log : List Log.Record := []
  receipts : List Receipt := []
  printed : String := ""

instance : Log.Logging (StateM Session) where
  log record := modify fun s => { s with log := s.log ++ [record] }

namespace Session

def audit : Auditor (StateM Session) := fun event => do
  modify fun s => { s with trail := s.trail ++ [event] }
  Auditor.logging event

/-- The network after replies to a number of requests. -/
def advance (network : Network) : Nat → Network
  | 0 => network
  | n + 1 => advance network.advance n

def receive (course : Course) (moment : Nat) : StateM Session Unit :=
  modify fun s =>
    let arrived := (course.receipts.filter (·.1 ≤ moment)).map (·.2)
    { s with
      receipts := s.receipts ++ arrived
      network := advance s.network arrived.length }

end Session

/-- A client without credentials, which can look releases up. -/
structure Client where
  api : Url
  repository : Repository
  trusted : List Anchor
  timeouts : Timeouts
  userAgent : String

namespace Client

/-- Make a client, unless an anchor is no certificate. -/
def make (roots : List Anchor) (api : Url) (repository : Repository) (store : TrustStore)
    (timeouts : Timeouts) (userAgent : String) : Except ReleaseError Client :=
  match store.anchors? roots with
  | none => .error .client
  | some trusted => .ok ⟨api, repository, trusted, timeouts, userAgent⟩

variable {α : Type}

def course (c : Client) (op : Operation α) (s : Session) : Course :=
  match op.body s.environment.files with
  | (moment, .error cause) => .failed moment cause
  | (moment, .ok body) =>
    match op.request c.userAgent body with
    | .error cause => .failed moment cause
    | .ok request =>
      s.network.course c.trusted c.timeouts.connect Network.maxRedirects moment request

def exchange (c : Client) (op : Operation α) (course : Course) :
    StateM Session (Except Interruption Response) := do
  let s ← get
  let handedOver := course.handedOver (op.content? s.environment.files)
  let (moment, received) :=
    course.settle handedOver c.timeouts.firstByte c.timeouts.endToEnd
  Session.receive course moment
  return received.map Operation.responseOf

/-- Note that an exchange gave no full response, and tell its failure by the cause. -/
def failed (c : Client) (url : Url) (cause : Cause) : StateM Session Failure := do
  Session.audit (.failed url cause)
  -- A time limit on connecting is one too, so it is asked for first.
  if cause.isConnectTimeout then return .timedOut .connect c.timeouts.connect url cause
  else if cause.isTimeout then return .timedOut .firstByte c.timeouts.firstByte url cause
  else return .notSubmitted url cause

/-- Note how the exchange of an operation ended, and tell what comes of it. -/
def conclude (c : Client) (op : Operation α) (ending : Except Interruption Response) :
    StateM Session (Except Failure α) :=
  match ending with
  | .error .overdue => do
    Session.audit (.failed op.url .deadline)
    return .error (.timedOut .endToEnd c.timeouts.endToEnd op.url .deadline)
  | .error .noHead => return .error (← c.failed op.url .deadline)
  | .error (.fault cause) => return .error (← c.failed op.url cause)
  | .ok response => do
    Session.audit (.completed op.url response)
    return op.judge response

def follow (c : Client) (op : Operation α) (course : Course) :
    StateM Session (Except Failure α) := do
  c.conclude op (← c.exchange op course)

def perform (c : Client) (op : Operation α) : StateM Session (Except Failure α) := do
  Log.Logging.log ⟨.debug, .client, "Submitting request",
    [("method", op.method.name), ("uri", op.url.render)]⟩
  c.follow op (c.course op (← get))

def latest (c : Client) : StateM Session (Except Failure ReleaseVersion) :=
  c.perform (.latest c.api c.repository)

def source (c : Client) : ReleaseSource (StateM Session) := ⟨c.latest⟩

end Client

/-- A client with credentials, which can also publish. -/
structure PublishingClient extends Client where
  uploads : Url
  token : Token

namespace PublishingClient

def create (c : PublishingClient) (version : ReleaseVersion) :
    StateM Session (Except Failure ReleaseId) :=
  c.perform (.create c.api c.repository c.token version)

def upload (c : PublishingClient) (id : ReleaseId) (artifact : Artifact) :
    StateM Session (Except Failure Unit) :=
  c.perform (.upload c.uploads c.repository c.token id artifact)

/-- Releases are looked up without the credentials. -/
def source (c : PublishingClient) : ReleaseSource (StateM Session) := ⟨c.toClient.latest⟩

def publisher (c : PublishingClient) : ReleasePublisher (StateM Session) := ⟨c.create, c.upload⟩

end PublishingClient

end ReleaseLine
