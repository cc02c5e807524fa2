import ReleaseLine.Client
import ReleaseLine.Proofs.Delivery

namespace ReleaseLine

section Results

variable {ε δ α β : Type} {result : Except ε α}

theorem mapError_eq_ok_iff {f : ε → δ} {a : α} : result.mapError f = .ok a ↔ result = .ok a := by
  cases result with
  | ok b =>
      constructor
      · intro h
        rw [Except.ok.inj h]
      · intro h
        rw [Except.ok.inj h]
        rfl
  | error e =>
      constructor
      · rintro ⟨⟩
      · rintro ⟨⟩

theorem mapError_eq_error_iff {f : ε → δ} {d : δ} :
    result.mapError f = .error d ↔ ∃ e, result = .error e ∧ f e = d := by
  cases result with
  | ok b =>
      constructor
      · rintro ⟨⟩
      · rintro ⟨e, ⟨⟩, -⟩
  | error e =>
      constructor
      · intro h
        exact ⟨e, rfl, Except.error.inj h⟩
      · rintro ⟨e', heq, rfl⟩
        exact congrArg (fun e => Except.error (f e)) (Except.error.inj heq)

theorem bind_eq_ok_iff {next : α → Except ε β} {b : β} :
    (result >>= next) = .ok b ↔ ∃ a, result = .ok a ∧ next a = .ok b := by
  cases result with
  | error e => simp [bind, Except.bind]
  | ok a => simp [bind, Except.bind]

theorem bind_eq_error_iff {next : α → Except ε β} {e : ε} :
    (result >>= next) = .error e ↔
      result = .error e ∨ ∃ a, result = .ok a ∧ next a = .error e := by
  cases result with
  | error e' => simp [bind, Except.bind]
  | ok a => simp [bind, Except.bind]

end Results

namespace Session

/-- The session with one more event, kept and logged. -/
def audited (s : Session) (event : AuditEvent) : Session :=
  { s with trail := s.trail ++ [event], log := s.log ++ [event.toRecord] }

/-- The session with one more log record. -/
def logged (s : Session) (record : Log.Record) : Session := { s with log := s.log ++ [record] }

/-- What the log holds of the audit trail. -/
def auditLog (s : Session) : List Log.Record := s.log.filter (·.origin = .audit)

@[simp] theorem auditLog_audited (s : Session) (event : AuditEvent) :
    (s.audited event).auditLog = s.auditLog ++ [event.toRecord] := by
  have horigin : event.toRecord.origin = .audit := by cases event <;> rfl
  simp [auditLog, audited, horigin]

theorem auditLog_logged (s : Session) {record : Log.Record} (h : record.origin ≠ .audit) :
    (s.logged record).auditLog = s.auditLog := by
  simp [auditLog, logged, h]

theorem run_audit (event : AuditEvent) (s : Session) :
    (audit event).run s = ((), s.audited event) := rfl

end Session

namespace Client

variable {α : Type}

/-- The record that an operation leaves before its request is made. -/
def submission (op : Operation α) : Log.Record :=
  ⟨.debug, .client, "Submitting request", [("method", op.method.name), ("uri", op.url.render)]⟩

/-- When the request for an operation has been handed over, if ever. -/
def handedOver (c : Client) (op : Operation α) (s : Session) : Pending Unit :=
  (c.course op s).handedOver (op.content? s.environment.files)

/-- How the exchange for an operation ends, and when. -/
def settled (c : Client) (op : Operation α) (s : Session) :
    Nat × Except Interruption (Http.Head × List UInt8) :=
  (c.course op s).settle (c.handedOver op s) c.timeouts.firstByte c.timeouts.endToEnd

/-- How the exchange for an operation ends, the response decoded. -/
def ending (c : Client) (op : Operation α) (s : Session) : Except Interruption Response :=
  (c.settled op s).2.map Operation.responseOf

/-- The requests of an operation that arrive before its exchange is decided. -/
def arrivals (c : Client) (op : Operation α) (s : Session) : List Receipt :=
  ((c.course op s).receipts.filter (·.1 ≤ (c.settled op s).1)).map (·.2)

/-- The session once the requests of an operation have arrived. -/
def exchanged (c : Client) (op : Operation α) (s : Session) : Session :=
  { s with
    receipts := s.receipts ++ c.arrivals op s
    network := Session.advance s.network (c.arrivals op s).length }

theorem course_congr (c : Client) (op : Operation α) {s t : Session}
    (hfiles : s.environment.files = t.environment.files) (hnetwork : s.network = t.network) :
    c.course op s = c.course op t := by
  simp only [course, hfiles, hnetwork]

theorem settled_congr (c : Client) (op : Operation α) {s t : Session}
    (hfiles : s.environment.files = t.environment.files) (hnetwork : s.network = t.network) :
    c.settled op s = c.settled op t := by
  simp only [settled, handedOver, course_congr c op hfiles hnetwork, hfiles]

theorem ending_congr (c : Client) (op : Operation α) {s t : Session}
    (hfiles : s.environment.files = t.environment.files) (hnetwork : s.network = t.network) :
    c.ending op s = c.ending op t := by
  simp only [ending, settled_congr c op hfiles hnetwork]

theorem arrivals_congr (c : Client) (op : Operation α) {s t : Session}
    (hfiles : s.environment.files = t.environment.files) (hnetwork : s.network = t.network) :
    c.arrivals op s = c.arrivals op t := by
  unfold arrivals
  rw [course_congr c op hfiles hnetwork, settled_congr c op hfiles hnetwork]

/-- Besides the limits, the transport or the artifact prevents a response, the latter only where a
file is sent. -/
theorem cause_of_fault (c : Client) (op : Operation α) (s : Session) {cause : Cause}
    (h : (c.course op s).Fault cause) :
    (∃ fault, cause = .transport fault) ∨
      ∃ path contentType fault,
        op.payload = .file path contentType ∧ cause = .artifact path fault := by
  unfold course at h
  split at h
  · rename_i moment other hbody
    obtain rfl := Course.cause_of_failed h
    unfold Operation.body at hbody
    split at hbody
    · cases hbody
    · cases hbody
    · rename_i path contentType hpayload
      split at hbody
      · cases hbody
      · rename_i fault _
        cases hbody
        exact .inr ⟨path, contentType, fault, hpayload, rfl⟩
  · rename_i moment body hbody
    split at h
    · rename_i other hrequest
      obtain rfl := Course.cause_of_failed h
      unfold Operation.request at hrequest
      dsimp only at hrequest
      split at hrequest
      · cases hrequest
      · cases hrequest
        exact .inl ⟨_, rfl⟩
    · exact .inl ((Network.course_delivers ..).transport cause h)

/-- The failure that a cause amounts to before a full response is there. -/
def failureFor (c : Client) (url : Url) (cause : Cause) : Failure :=
  if cause.isConnectTimeout then .timedOut .connect c.timeouts.connect url cause
  else if cause.isTimeout then .timedOut .firstByte c.timeouts.firstByte url cause
  else .notSubmitted url cause

theorem run_failed (c : Client) (url : Url) (cause : Cause) (s : Session) :
    (c.failed url cause).run s = (c.failureFor url cause, s.audited (.failed url cause)) := by
  unfold failed failureFor
  simp only [StateT.run_bind, Session.run_audit]
  by_cases hconnect : cause.isConnectTimeout
  · simp only [hconnect, if_true]
    rfl
  · by_cases htimeout : cause.isTimeout
    · simp only [hconnect, htimeout]
      rfl
    · simp only [hconnect, htimeout]
      rfl

theorem run_conclude_ok (c : Client) (op : Operation α) (response : Response) (s : Session) :
    (c.conclude op (.ok response)).run s =
      (op.judge response, s.audited (.completed op.url response)) := rfl

theorem run_conclude_overdue (c : Client) (op : Operation α) (s : Session) :
    (c.conclude op (.error .overdue)).run s =
      (.error (.timedOut .endToEnd c.timeouts.endToEnd op.url .deadline),
        s.audited (.failed op.url .deadline)) := rfl

theorem run_conclude_noHead (c : Client) (op : Operation α) (s : Session) :
    (c.conclude op (.error .noHead)).run s =
      (.error (.timedOut .firstByte c.timeouts.firstByte op.url .deadline),
        s.audited (.failed op.url .deadline)) := rfl

theorem run_conclude_fault (c : Client) (op : Operation α) (cause : Cause) (s : Session) :
    (c.conclude op (.error (.fault cause))).run s =
      (.error (c.failureFor op.url cause), s.audited (.failed op.url cause)) := by
  simp only [conclude, StateT.run_bind, run_failed]
  rfl

theorem run_perform (c : Client) (op : Operation α) (s : Session) :
    (c.perform op).run s =
      (c.conclude op (c.ending op s)).run ((c.exchanged op s).logged (submission op)) := rfl

theorem run_perform_congr (c : Client) (op : Operation α) {s t : Session}
    (hfiles : s.environment.files = t.environment.files) (hnetwork : s.network = t.network) :
    ((c.perform op).run s).1 = ((c.perform op).run t).1 := by
  rw [run_perform, run_perform, c.ending_congr op hfiles hnetwork]
  match c.ending op t with
  | .ok response => rfl
  | .error .overdue => rfl
  | .error .noHead => rfl
  | .error (.fault cause) => rw [run_conclude_fault, run_conclude_fault]

theorem run_perform_eq_ok_iff (c : Client) (op : Operation α) (s : Session) (a : α) :
    ((c.perform op).run s).1 = .ok a ↔
      ∃ response, c.ending op s = .ok response ∧ response.status = op.expected ∧
        op.interpret response.body = .ok a := by
  rw [run_perform]
  cases hending : c.ending op s with
  | ok response =>
      rw [run_conclude_ok]
      unfold Operation.judge
      split
      · rename_i hstatus
        simp [hstatus]
      · rename_i hstatus
        have hexpected : response.status = op.expected := Decidable.not_not.mp hstatus
        simp only [Except.ok.injEq, exists_eq_left', hexpected, true_and]
        exact mapError_eq_ok_iff
  | error interruption =>
      cases interruption with
      | noHead => simp [run_conclude_noHead]
      | overdue => simp [run_conclude_overdue]
      | fault cause => simp [run_conclude_fault]

end Client

theorem Http.notMem_of_isAuthority {text : List Char} (h : isAuthority text = true) :
    '?' ∉ text := by
  have hscan (s : AuthorityScan) {after : AuthorityScan}
      (hafter : text.foldlM AuthorityScan.step s = some after) : '?' ∉ text := by
    clear h
    induction text generalizing s with
    | nil => exact List.not_mem_nil
    | cons c text ih =>
        rw [List.foldlM_cons] at hafter
        obtain ⟨next, hstep, hafter⟩ := Option.bind_eq_some_iff.mp hafter
        have hc : '?' ≠ c := by
          rintro rfl
          cases hstep
        exact List.not_mem_cons_of_ne_of_not_mem hc (ih next hafter)
  unfold isAuthority at h
  split at h
  · cases h
  · rename_i after hafter
    exact hscan _ hafter

namespace Url

/-- What stands before the path in the target of a request. -/
def originText (url : Url) : String :=
  if url.scheme = "https" then "" else url.scheme ++ ":" ++ url.authorityText

theorem targetOf_eq (url : Url) :
    Network.targetOf url = url.originText ++ url.pathText ++ url.queryText := by
  unfold Network.targetOf originText
  split
  · rw [String.empty_append]
    rfl
  · exact String.append_empty

theorem notMem_originText {url : Url} (hspoken : Http.isSpoken url = true)
    (haddress : Http.isAddress url = true) : '?' ∉ url.originText.toList := by
  have hauthority : '?' ∉ url.authorityText.toList := by
    unfold authorityText
    unfold Http.isAddress at haddress
    cases hname : url.authority with
    | none =>
        dsimp only
        split <;> simp
    | some a =>
        simp only [hname, Bool.and_eq_true] at haddress
        have hnot := Http.notMem_of_isAuthority haddress.2.2
        simpa [String.toList_append] using hnot
  unfold originText
  split
  · simp
  · rename_i hother
    have hscheme : url.scheme = "http" := by
      simpa [Http.isSpoken, hother] using hspoken
    rw [hscheme]
    simp [hauthority]

end Url

variable {α : Type}

/-- The requests that may change what is there. -/
def posts (receipts : List Receipt) : List Receipt := receipts.filter (·.method = .post)

theorem posts_append (first second : List Receipt) :
    posts (first ++ second) = posts first ++ posts second :=
  List.filter_append ..

theorem posts_map_filter {arrived : List (Nat × Receipt)} (moment : Nat)
    (h : ∀ pair ∈ arrived, pair.2.method = .get) :
    posts ((arrived.filter (·.1 ≤ moment)).map (·.2)) = [] := by
  refine List.filter_eq_nil_iff.mpr fun receipt hreceipt => ?_
  obtain ⟨pair, hpair, rfl⟩ := List.mem_map.mp hreceipt
  rw [h pair (List.mem_filter.mp hpair).1]
  simp

/-- A request has arrived as an operation makes it; its body may have been left. -/
structure Operation.Arrives (op : Operation α) (files : FileTree) (receipt : Receipt) : Prop where
  method : receipt.method = op.method
  target : receipt.target = Network.targetOf op.address
  /-- The path of the address stands in the target, and behind it nothing but a query. -/
  placed : receipt.target = op.address.originText ++ op.address.pathText ++ op.address.queryText
  closed : '?' ∉ op.address.originText.toList
  body : ∀ content, receipt.body = some content →
    ∃ moment type, op.body files = (moment, .ok (some (content, type)))

theorem Operation.of_request {op : Operation α} {userAgent : String}
    {body : Option (ByteArray × String)} {request : Http.Request}
    (h : op.request userAgent body = .ok request) :
    request.method = op.method ∧ request.url = op.address ∧ request.body = body.map (·.1) ∧
      request.fields = op.fields userAgent body := by
  unfold Operation.request at h
  dsimp only at h
  split at h
  · cases h
    exact ⟨rfl, rfl, rfl, rfl⟩
  · cases h

theorem Operation.isAddress_of_request {op : Operation α} {userAgent : String}
    {body : Option (ByteArray × String)} {request : Http.Request}
    (h : op.request userAgent body = .ok request) :
    Http.isSpoken op.address = true ∧ Http.isAddress op.address = true := by
  unfold Operation.request at h
  dsimp only at h
  split at h
  · rename_i hvalid
    exact ⟨hvalid.1, hvalid.2.1⟩
  · cases h

theorem Network.body_receiptOf {r : Http.Request} {takesBody : Bool} {taken : ByteArray}
    (h : (receiptOf r takesBody).body = some taken) : taken = r.body.getD .empty := by
  unfold receiptOf at h
  dsimp only at h
  split at h
  · exact (Option.some.inj h).symm
  · cases h

theorem Operation.arrives_receiptOf {op : Operation α} {files : FileTree} {userAgent : String}
    {moment : Nat} {body : Option (ByteArray × String)} {request : Http.Request}
    (hbody : op.body files = (moment, .ok body))
    (hrequest : op.request userAgent body = .ok request) (hsome : request.body.isSome)
    (takesBody : Bool) : op.Arrives files (Network.receiptOf request takesBody) := by
  obtain ⟨hmethod, hurl, hcontent, -⟩ := of_request hrequest
  obtain ⟨hspoken, haddress⟩ := isAddress_of_request hrequest
  have htarget : (Network.receiptOf request takesBody).target = Network.targetOf op.address :=
    congrArg Network.targetOf hurl
  refine ⟨hmethod, htarget, htarget.trans op.address.targetOf_eq,
    Url.notMem_originText hspoken haddress, ?_⟩
  intro content hreceived
  rw [hcontent, Option.isSome_map] at hsome
  obtain ⟨pair, rfl⟩ := Option.isSome_iff_exists.mp hsome
  have htaken : content = pair.1 := by
    rw [Network.body_receiptOf hreceived, hcontent]
    rfl
  exact ⟨moment, pair.2, by rw [htaken, hbody]⟩

/-- Whether the request of an operation has a body. -/
def Operation.carries (op : Operation α) : Bool :=
  match op.payload with
  | .none => false
  | .json _ | .file .. => true

theorem Operation.isSome_of_body {op : Operation α} {files : FileTree} {moment : Nat}
    {body : Option (ByteArray × String)} (h : op.body files = (moment, .ok body)) :
    body.isSome = op.carries := by
  unfold Operation.body at h
  unfold carries
  cases hpayload : op.payload with
  | none =>
      simp only [hpayload] at h
      cases h
      rfl
  | json text =>
      simp only [hpayload] at h
      cases h
      rfl
  | file path contentType =>
      simp only [hpayload] at h
      split at h
      · cases h
        rfl
      · cases h

namespace Client

theorem course_cases (c : Client) (op : Operation α) (s : Session) :
    (∃ moment cause, c.course op s = .failed moment cause) ∨
      ∃ moment body request, op.body s.environment.files = (moment, .ok body) ∧
        op.request c.userAgent body = .ok request ∧
        c.course op s =
          s.network.course c.trusted c.timeouts.connect Network.maxRedirects moment request := by
  unfold course
  split
  · rename_i moment cause hbody
    exact .inl ⟨moment, cause, rfl⟩
  · rename_i moment body hbody
    split
    · rename_i cause hrequest
      exact .inl ⟨moment, cause, rfl⟩
    · rename_i request hrequest
      exact .inr ⟨moment, body, request, hbody, hrequest, rfl⟩

theorem posts_arrivals_of_get (c : Client) {op : Operation α} (s : Session)
    (hget : op.method = .get) : posts (c.arrivals op s) = [] := by
  have hreceipts : ∀ receipt ∈ (c.course op s).receipts, receipt.2.method = .get := by
    rcases c.course_cases op s with
      ⟨moment, cause, hcourse⟩ | ⟨moment, body, request, -, hrequest, hcourse⟩
    · rw [hcourse]
      rintro receipt ⟨⟩
    · rw [hcourse]
      refine (Network.course_delivers ..).get ?_
      rw [(Operation.of_request hrequest).1]
      exact hget
  exact posts_map_filter _ hreceipts

theorem ending_ne_ok {c : Client} {op : Operation α} {s : Session}
    (h : ∀ moment value, (c.course op s).body = .arrives moment value →
      ¬ moment ≤ (c.settled op s).1) (response : Response) : c.ending op s ≠ .ok response := by
  intro hending
  unfold ending at hending
  cases hsettled : (c.settled op s).2 with
  | error interruption =>
      rw [hsettled] at hending
      cases hending
  | ok received =>
      obtain ⟨value, hbody⟩ := Course.body_of_settle hsettled
      exact h _ value hbody (Nat.le_refl _)

/-- Of an operation that carries something one request arrives, or none; one does if there is a
response. -/
theorem posts_arrivals_of_post (c : Client) {op : Operation α} (s : Session)
    (hpost : op.method = .post) (hcarries : op.carries = true) :
    (posts (c.arrivals op s) = [] ∧ ∀ response, c.ending op s ≠ .ok response) ∨
      ∃ receipt, posts (c.arrivals op s) = [receipt] ∧
        op.Arrives s.environment.files receipt := by
  have hnothing (hreceipts : (c.course op s).receipts = [])
      (hbody : (c.course op s).body = .never) :
      posts (c.arrivals op s) = [] ∧ ∀ response, c.ending op s ≠ .ok response := by
    refine ⟨?_, ending_ne_ok ?_⟩
    · unfold arrivals
      rw [hreceipts]
      rfl
    · intro moment value harrives
      rw [hbody] at harrives
      cases harrives
  rcases c.course_cases op s with
    ⟨moment, cause, hcourse⟩ | ⟨moment, body, request, hbody, hrequest, hcourse⟩
  · exact .inl (hnothing (by rw [hcourse]; rfl) (by rw [hcourse]; rfl))
  have hdelivers : Network.Delivers s.network moment request (c.course op s) := by
    rw [hcourse]
    exact Network.course_delivers ..
  obtain ⟨hmethod, hurl, hcontent, -⟩ := Operation.of_request hrequest
  have hsome : request.body.isSome := by
    rw [hcontent, Option.isSome_map, Operation.isSome_of_body hbody, hcarries]
  rcases hdelivers.receipts fun _ => hsome with
    ⟨hreceipts, hnever⟩ | ⟨arrival, later, hreceipts, hlater, hbefore⟩
  · exact .inl (hnothing hreceipts hnever)
  -- Redirected requests only look, so only the first request counts, if it arrives in time.
  by_cases htime : arrival ≤ (c.settled op s).1
  · have hfits := Operation.arrives_receiptOf hbody hrequest hsome s.network.reply.takesBody
    refine .inr ⟨_, ?_, hfits⟩
    have hfirst : (Network.receiptOf request s.network.reply.takesBody).method = .post :=
      hmethod.trans hpost
    unfold arrivals
    rw [hreceipts, List.filter_cons_of_pos (by simpa using htime), List.map_cons, posts,
      List.filter_cons_of_pos (by simpa using hfirst)]
    exact congrArg _ (posts_map_filter _ hlater)
  · refine .inl ⟨?_, ending_ne_ok ?_⟩
    · unfold arrivals
      rw [hreceipts, List.filter_cons_of_neg (by simpa using htime)]
      exact posts_map_filter _ hlater
    · intro m value harrives hm
      exact htime (Nat.le_trans (hbefore m value harrives) hm)

end Client

end ReleaseLine
