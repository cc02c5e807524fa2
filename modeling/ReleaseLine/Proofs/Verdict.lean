import ReleaseLine.Proofs.AuditTrail
import ReleaseLine.Proofs.Delivery

namespace ReleaseLine

namespace Call

/-- The URL that a call asks for. -/
def url (c : PublishingClient) (call : Call) : Url := (call.operation c).url

/-- The status of a response as a call expects it. -/
def expected : Call → Nat
  | latest => 200
  | create _ | upload .. => 201

/-- The causes for which the body of a response cannot be interpreted. -/
def Misreads : Call → Cause → Prop
  | latest, .json _ | latest, .tag _ | latest, .noReleases | create _, .json _ => True
  | _, _ => False

theorem operation_expected (c : PublishingClient) (call : Call) :
    (call.operation c).expected = call.expected := by
  cases call <;> rfl

/-- Listings are misread as JSON, in a tag, or for want of a release; created releases only as JSON;
what is said of an upload is not read at all. -/
theorem misreads_of_interpret (c : PublishingClient) (call : Call) {body : String} {cause : Cause}
    (h : (call.operation c).interpret body = .error cause) : call.Misreads cause := by
  cases call with
  | latest =>
      change readLatest body = .error cause at h
      unfold readLatest at h
      rcases bind_eq_error_iff.mp h with htags | ⟨tags, -, h⟩
      · obtain ⟨error, -, rfl⟩ := mapError_eq_error_iff.mp htags
        trivial
      rcases bind_eq_error_iff.mp h with hversions | ⟨versions, -, h⟩
      · obtain ⟨error, -, rfl⟩ := mapError_eq_error_iff.mp hversions
        trivial
      split at h
      · cases h
      · cases h
        trivial
  | create version =>
      change readCreated body = .error cause at h
      unfold readCreated at h
      cases hid : (Listing.createdId body).mapError Cause.json with
      | error error =>
          obtain ⟨fault, -, rfl⟩ := mapError_eq_error_iff.mp hid
          rw [hid] at h
          cases h
          trivial
      | ok id =>
          rw [hid] at h
          cases h
  | upload id artifact => cases h

/-- The table of outcomes. -/
inductive Verdict (c : PublishingClient) (call : Call) :
    Except Interruption Response → Except Failure call.Answer → Prop
  | otherStatus (response : Response) (h : response.status ≠ call.expected) :
      Verdict c call (.ok response)
        (.error (.unexpectedStatus (call.url c) call.expected response))
  | unusableBody (response : Response) (cause : Cause) (h : response.status = call.expected)
      (hbody : (call.operation c).interpret response.body = .error cause)
      (hcause : call.Misreads cause) :
      Verdict c call (.ok response) (.error (.unusableBody (call.url c) response cause))
  | success (response : Response) (answer : call.Answer) (h : response.status = call.expected)
      (hbody : (call.operation c).interpret response.body = .ok answer) :
      Verdict c call (.ok response) (.ok answer)
  | connectTimeout (fault : TransportFault) (hconnect : fault.connect = true)
      (htimeout : fault.timeout = true) :
      Verdict c call (.error (.fault (.transport fault)))
        (.error (.timedOut .connect c.timeouts.connect (call.url c) (.transport fault)))
  | transportTimeout (fault : TransportFault) (hconnect : fault.connect = false)
      (htimeout : fault.timeout = true) :
      Verdict c call (.error (.fault (.transport fault)))
        (.error (.timedOut .firstByte c.timeouts.firstByte (call.url c) (.transport fault)))
  | transportFault (fault : TransportFault) (htimeout : fault.timeout = false) :
      Verdict c call (.error (.fault (.transport fault)))
        (.error (.notSubmitted (call.url c) (.transport fault)))
  | unreadableArtifact (path : String) (fault : FileFault) :
      Verdict c call (.error (.fault (.artifact path fault)))
        (.error (.notSubmitted (call.url c) (.artifact path fault)))
  | noHead :
      Verdict c call (.error .noHead)
        (.error (.timedOut .firstByte c.timeouts.firstByte (call.url c) .deadline))
  | overdue :
      Verdict c call (.error .overdue)
        (.error (.timedOut .endToEnd c.timeouts.endToEnd (call.url c) .deadline))

/-- An exchange can end so: in a response, by a fault of the transport, by an artifact that cannot
be read, or by one of the two deadlines. -/
def Ends : Except Interruption Response → Prop
  | .ok _ | .error (.fault (.transport _)) | .error (.fault (.artifact ..)) | .error .noHead
  | .error .overdue => True
  | .error (.fault _) => False

theorem ends_of_verdict {c : PublishingClient} {call : Call}
    {ending : Except Interruption Response} {result : Except Failure call.Answer}
    (h : Verdict c call ending result) : Ends ending := by
  cases h <;> trivial

theorem conclude_of_verdict {c : PublishingClient} {call : Call}
    {ending : Except Interruption Response} {result : Except Failure call.Answer}
    (h : Verdict c call ending result) (s : Session) :
    ((c.toClient.conclude (call.operation c) ending).run s).1 = result := by
  cases h with
  | otherStatus response hstatus =>
      rw [Client.run_conclude_ok]
      simp only [Operation.judge, operation_expected, if_pos hstatus]
      rfl
  | unusableBody response cause hstatus hbody hcause =>
      rw [Client.run_conclude_ok]
      simp only [Operation.judge, operation_expected, hstatus, hbody, ne_eq, not_true_eq_false,
        if_false]
      rfl
  | success response answer hstatus hbody =>
      rw [Client.run_conclude_ok]
      simp only [Operation.judge, operation_expected, hstatus, hbody, ne_eq, not_true_eq_false,
        if_false]
      rfl
  | connectTimeout fault hconnect htimeout =>
      rw [Client.run_conclude_fault]
      simp only [Client.failureFor, Cause.isConnectTimeout, hconnect, htimeout]
      rfl
  | transportTimeout fault hconnect htimeout =>
      rw [Client.run_conclude_fault]
      simp only [Client.failureFor, Cause.isConnectTimeout, Cause.isTimeout, hconnect, htimeout]
      rfl
  | transportFault fault htimeout =>
      rw [Client.run_conclude_fault]
      simp only [Client.failureFor, Cause.isConnectTimeout, Cause.isTimeout, htimeout]
      rw [Bool.and_false]
      rfl
  | unreadableArtifact path fault =>
      rw [Client.run_conclude_fault]
      rfl
  | noHead => rfl
  | overdue => rfl

theorem exists_verdict (c : PublishingClient) (call : Call)
    {ending : Except Interruption Response} (h : Ends ending) :
    ∃ result, Verdict c call ending result := by
  match ending with
  | .ok response =>
      by_cases hstatus : response.status = call.expected
      · cases hbody : (call.operation c).interpret response.body with
        | ok answer => exact ⟨_, .success response answer hstatus hbody⟩
        | error cause =>
            exact ⟨_, .unusableBody response cause hstatus hbody
              (misreads_of_interpret c call hbody)⟩
      · exact ⟨_, .otherStatus response hstatus⟩
  | .error (.fault (.transport fault)) =>
      cases htimeout : fault.timeout with
      | false => exact ⟨_, .transportFault fault htimeout⟩
      | true =>
          cases hconnect : fault.connect with
          | false => exact ⟨_, .transportTimeout fault hconnect htimeout⟩
          | true => exact ⟨_, .connectTimeout fault hconnect htimeout⟩
  | .error (.fault (.artifact path fault)) => exact ⟨_, .unreadableArtifact path fault⟩
  | .error .noHead => exact ⟨_, .noHead⟩
  | .error .overdue => exact ⟨_, .overdue⟩
  | .error (.fault .deadline) | .error (.fault (.json _)) | .error (.fault (.tag _))
  | .error (.fault .noReleases) => exact absurd h id

theorem ends_ending {α : Type} (c : Client) (op : Operation α) (s : Session) :
    Ends (c.ending op s) := by
  unfold Client.ending
  cases hsettled : (c.settled op s).2 with
  | ok received => trivial
  | error interruption =>
      cases interruption with
      | noHead => trivial
      | overdue => trivial
      | fault cause =>
          rcases c.cause_of_fault op s (Course.fault_of_settle hsettled) with
            ⟨fault, rfl⟩ | ⟨path, contentType, fault, -, rfl⟩
          · trivial
          · trivial

/-- Every call comes to what the table says of the way in which its exchange ends. The table is
exact, and where the status is another than the expected one, no reading of the body matters. -/
theorem verdict_run (c : PublishingClient) (route : Route) (call : Call) (s : Session) :
    Verdict c call (c.toClient.ending (call.operation c) s) ((call.run c route).run s).1 ∧
      (∀ ending result, Verdict c call ending result ↔
        Ends ending ∧ ((c.toClient.conclude (call.operation c) ending).run s).1 = result) ∧
      ∀ (response : Response) (interpret : String → Except Cause call.Answer),
        response.status ≠ call.expected →
        ((c.toClient.conclude { call.operation c with interpret := interpret }
          (.ok response)).run s).1 =
            .error (.unexpectedStatus (call.url c) call.expected response) := by
  refine ⟨?_, ?_, ?_⟩
  · obtain ⟨result, hverdict⟩ :=
      exists_verdict c call (ends_ending c.toClient (call.operation c) s)
    rw [run_eq_perform, Client.run_perform, conclude_of_verdict hverdict]
    exact hverdict
  · intro ending result
    constructor
    · intro hverdict
      exact ⟨ends_of_verdict hverdict, conclude_of_verdict hverdict s⟩
    · rintro ⟨hends, rfl⟩
      obtain ⟨result, hverdict⟩ := exists_verdict c call hends
      rw [conclude_of_verdict hverdict s]
      exact hverdict
  · intro response interpret hstatus
    rw [Client.run_conclude_ok]
    simp only [Operation.judge, operation_expected, if_pos hstatus]
    rfl

end Call

end ReleaseLine
