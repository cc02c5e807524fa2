import Mathlib.Data.List.Forall2
import ReleaseLine.Proofs.Exchange

namespace ReleaseLine

/-- A call that a client can be asked for. -/
inductive Call where
  | latest
  | create (version : ReleaseVersion)
  | upload (id : ReleaseId) (artifact : Artifact)
deriving DecidableEq

namespace Call

/-- What a call answers where it succeeds. -/
abbrev Answer : Call → Type
  | latest => ReleaseVersion
  | create _ => ReleaseId
  | upload .. => Unit

/-- The operation that a call stands for. -/
def operation (c : PublishingClient) : (call : Call) → Operation call.Answer
  | latest => .latest c.api c.repository
  | create version => .create c.api c.repository c.token version
  | upload id artifact => .upload c.uploads c.repository c.token id artifact

/-- How a call is made: of a client itself, or of the source or publisher that it serves as. As a
source there is also the client without credentials. -/
inductive Route where
  | direct
  | seam
  | plainSeam
deriving DecidableEq

def run (c : PublishingClient) :
    Route → (call : Call) → StateM Session (Except Failure call.Answer)
  | .direct, latest => c.toClient.latest
  | .direct, create version => c.create version
  | .direct, upload id artifact => c.upload id artifact
  | .seam, latest => c.source.latest
  | .plainSeam, latest => c.toClient.source.latest
  | .seam, create version | .plainSeam, create version => c.publisher.create version
  | .seam, upload id artifact | .plainSeam, upload id artifact => c.publisher.upload id artifact

theorem run_eq_perform (c : PublishingClient) (route : Route) (call : Call) :
    call.run c route = c.toClient.perform (call.operation c) := by
  cases route <;> cases call <;> rfl

end Call

/-- A call of some client, with its outcome. -/
structure Outcome where
  client : PublishingClient
  call : Call
  result : Except Failure call.Answer

/-- What happens in a session: a call is made, or the surroundings become others. -/
inductive Happening where
  | calls (client : PublishingClient) (route : Call.Route) (call : Call)
  | changes (environment : Environment) (network : Network)

namespace Happening

/-- The call that happens, and the client that it is made of. -/
def call? : Happening → Option (PublishingClient × Call)
  | calls client _ call => some (client, call)
  | changes .. => none

def run : Happening → StateM Session (Option Outcome)
  | calls client route call => do return some ⟨client, call, ← call.run client route⟩
  | changes environment network => do
    modify fun s => { s with environment := environment, network := network }
    return none

/-- Let things happen one after the other. -/
def runAll : List Happening → StateM Session (List Outcome)
  | [] => return []
  | happening :: rest => do
    let outcome ← happening.run
    return outcome.toList ++ (← runAll rest)

end Happening

namespace AuditEvent

variable {α : Type}

/-- Whether an event tells of a response. -/
def isCompleted : AuditEvent → Bool
  | .completed .. => true
  | .failed .. => false

/-- Whether an outcome tells of a response: a success, another status than the expected one, or a
body that cannot be interpreted. -/
def isAnswered : Except Failure α → Bool
  | .ok _ | .error (.unexpectedStatus ..) | .error (.unusableBody ..) => true
  | .error (.notSubmitted ..) | .error (.timedOut ..) => false

/-- An event tells the URL of a call and what its outcome holds: the response, or else the cause for
which there is none. -/
structure Agrees (url : Url) (result : Except Failure α) (event : AuditEvent) : Prop where
  url_eq : event.url = url
  completed_iff : event.isCompleted = true ↔ isAnswered result = true
  response : ∀ failure response, result = .error failure → failure.response? = some response →
    event = .completed failure.url response
  cause : ∀ failure, result = .error failure → failure.response? = none →
    ∃ cause, failure.cause? = some cause ∧ event = .failed failure.url cause

theorem isAnswered_error (failure : Failure) :
    isAnswered (.error failure : Except Failure α) = failure.response?.isSome := by
  cases failure <;> rfl

theorem Agrees.of_ok (url : Url) (a : α) (response : Response) :
    Agrees url (.ok a : Except Failure α) (.completed url response) := by
  refine ⟨rfl, by simp [isCompleted, isAnswered], ?_, ?_⟩
  · rintro failure other ⟨⟩
  · rintro failure ⟨⟩

theorem Agrees.of_response (failure : Failure) {response : Response}
    (h : failure.response? = some response) :
    Agrees failure.url (.error failure : Except Failure α)
      (.completed failure.url response) := by
  refine ⟨rfl, by simp [isCompleted, isAnswered_error, h], ?_, ?_⟩
  · rintro other response' ⟨rfl⟩ hresponse
    obtain rfl : response = response' := by simpa [h] using hresponse
    rfl
  · rintro other ⟨rfl⟩ hnone
    simp [h] at hnone

theorem Agrees.of_cause (failure : Failure) {cause : Cause} (hnone : failure.response? = none)
    (hcause : failure.cause? = some cause) :
    Agrees failure.url (.error failure : Except Failure α) (.failed failure.url cause) := by
  refine ⟨rfl, by simp [isCompleted, isAnswered_error, hnone], ?_, ?_⟩
  · rintro other response ⟨rfl⟩ hresponse
    simp [hnone] at hresponse
  · rintro other ⟨rfl⟩ -
    exact ⟨cause, hcause, rfl⟩

theorem Agrees.of_judge (op : Operation α) (response : Response) :
    Agrees op.url (op.judge response) (.completed op.url response) := by
  unfold Operation.judge
  split
  · exact Agrees.of_response (.unexpectedStatus op.url op.expected response) rfl
  · cases hbody : op.interpret response.body with
    | ok a => exact Agrees.of_ok op.url a response
    | error cause =>
        exact Agrees.of_response (.unusableBody op.url response cause) rfl

end AuditEvent

namespace Client

open AuditEvent

variable {α : Type}

theorem agrees_failureFor (c : Client) (url : Url) (cause : Cause) :
    Agrees url (.error (c.failureFor url cause) : Except Failure α) (.failed url cause) := by
  unfold failureFor
  split
  · exact Agrees.of_cause (.timedOut .connect _ url cause) rfl rfl
  · split
    · exact Agrees.of_cause (.timedOut .firstByte _ url cause) rfl rfl
    · exact Agrees.of_cause (.notSubmitted url cause) rfl rfl

theorem run_conclude_agrees (c : Client) (op : Operation α)
    (ending : Except Interruption Response) (s : Session) :
    ∃ result event, (c.conclude op ending).run s = (result, s.audited event) ∧
      Agrees op.url result event := by
  match ending with
  | .ok response =>
      exact ⟨_, _, c.run_conclude_ok op response s, Agrees.of_judge op response⟩
  | .error .overdue =>
      exact ⟨_, _, c.run_conclude_overdue op s,
        Agrees.of_cause (.timedOut .endToEnd _ op.url .deadline) rfl rfl⟩
  | .error .noHead =>
      exact ⟨_, _, c.run_conclude_noHead op s,
        Agrees.of_cause (.timedOut .firstByte _ op.url .deadline) rfl rfl⟩
  | .error (.fault cause) =>
      exact ⟨_, _, c.run_conclude_fault op cause s, c.agrees_failureFor op.url cause⟩

theorem run_perform_agrees (c : Client) (op : Operation α) (s : Session) :
    ∃ result event,
      (c.perform op).run s =
        (result, ((c.exchanged op s).logged (submission op)).audited event) ∧
      Agrees op.url result event := by
  rw [run_perform]
  exact c.run_conclude_agrees op _ _

end Client

namespace Happening

open AuditEvent

/-- The event of an outcome, if it has one: it stands for the URL of the call. -/
def AgreesWith (outcome : Outcome) (event : AuditEvent) : Prop :=
  Agrees (outcome.call.operation outcome.client).url outcome.result event

theorem run_trail (happening : Happening) (s : Session) :
    ∃ events,
      (happening.run.run s).2.trail = s.trail ++ events ∧
      (happening.run.run s).2.auditLog = s.auditLog ++ events.map AuditEvent.toRecord ∧
      List.Forall₂ AgreesWith (happening.run.run s).1.toList events ∧
      (happening.run.run s).1.toList.map (fun o => (o.client, o.call)) =
        happening.call?.toList := by
  cases happening with
  | changes environment network =>
      refine ⟨[], ?_, ?_, .nil, rfl⟩
      · exact (List.append_nil _).symm
      · exact (List.append_nil _).symm
  | calls client route call =>
      obtain ⟨result, event, hrun, hagrees⟩ :=
        client.toClient.run_perform_agrees (call.operation client) s
      have hstep : (Happening.calls client route call).run.run s =
          (some ⟨client, call, result⟩,
            ((client.toClient.exchanged (call.operation client) s).logged
              (Client.submission (call.operation client))).audited event) := by
        simp only [run, StateT.run_bind, Call.run_eq_perform, hrun]
        rfl
      rw [hstep]
      refine ⟨[event], rfl, ?_, .cons hagrees .nil, rfl⟩
      rw [Session.auditLog_audited, Session.auditLog_logged _ (by simp [Client.submission])]
      rfl

theorem runAll_trail (happenings : List Happening) (s : Session) :
    ∃ events,
      ((runAll happenings).run s).2.trail = s.trail ++ events ∧
      ((runAll happenings).run s).2.auditLog = s.auditLog ++ events.map AuditEvent.toRecord ∧
      List.Forall₂ AgreesWith ((runAll happenings).run s).1 events ∧
      ((runAll happenings).run s).1.map (fun o => (o.client, o.call)) =
        happenings.filterMap call? := by
  induction happenings generalizing s with
  | nil => exact ⟨[], (List.append_nil _).symm, (List.append_nil _).symm, .nil, rfl⟩
  | cons happening rest ih =>
      obtain ⟨first, htrail, hlog, hagree, hcalls⟩ := run_trail happening s
      obtain ⟨later, htrail', hlog', hagree', hcalls'⟩ := ih (happening.run.run s).2
      have hrun : (runAll (happening :: rest)).run s =
          ((happening.run.run s).1.toList ++ ((runAll rest).run (happening.run.run s).2).1,
            ((runAll rest).run (happening.run.run s).2).2) := rfl
      rw [hrun]
      refine ⟨first ++ later, ?_, ?_, ?_, ?_⟩
      · rw [htrail', htrail, List.append_assoc]
      · rw [hlog', hlog, List.append_assoc, List.map_append]
      · exact List.rel_append hagree hagree'
      · rw [List.map_append, hcalls, hcalls', List.filterMap_cons]
        cases happening <;> rfl

end Happening

end ReleaseLine
