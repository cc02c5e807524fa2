import ReleaseLine.Proofs.Deadlines

/-!
Where the token of a client shows. Two runs of a session whose clients have different tokens come to
the same and leave the same traces, up to the credentials in the requests that create releases or
attach artifacts.
-/

namespace ReleaseLine

/-- Header lines with other credentials in place of those they hold. -/
def withCredentials (value : String) (fields : Headers) : Headers :=
  fields.map fun field => if field.1 = "authorization" then (field.1, value) else field

theorem withCredentials_append (value : String) (first second : Headers) :
    withCredentials value (first ++ second) =
      withCredentials value first ++ withCredentials value second :=
  List.map_append ..

theorem filter_withCredentials (value : String) (keeps : String → Bool) (fields : Headers) :
    (withCredentials value fields).filter (fun field => keeps field.1) =
      withCredentials value (fields.filter fun field => keeps field.1) := by
  unfold withCredentials
  rw [List.filter_map]
  congr 2
  funext field
  simp only [Function.comp]
  split <;> rfl

def IsAnonymous (fields : Headers) : Prop := ∀ field ∈ fields, field.1 ≠ "authorization"

theorem withCredentials_of_isAnonymous {fields : Headers} (h : IsAnonymous fields)
    (value : String) : withCredentials value fields = fields := by
  refine (List.map_congr_left fun field hfield => ?_).trans (List.map_id fields)
  exact if_neg (h field hfield)

theorem IsAnonymous.append {first second : Headers} (h : IsAnonymous first)
    (h' : IsAnonymous second) : IsAnonymous (first ++ second) := by
  intro field hfield
  rcases List.mem_append.mp hfield with hfirst | hsecond
  · exact h field hfirst
  · exact h' field hsecond

theorem isAnonymous_way (referer : List String) (host : String) :
    IsAnonymous (referer.map ("referer", ·) ++ [("host", host)]) := by
  apply IsAnonymous.append
  · intro field hfield
    obtain ⟨text, -, rfl⟩ := List.mem_map.mp hfield
    simp
  · simp [IsAnonymous]

namespace Http.Request

def withCredentials (value : String) (r : Request) : Request :=
  { r with fields := ReleaseLine.withCredentials value r.fields }

theorem sentFields_withCredentials (value : String) (r : Request) :
    (r.withCredentials value).sentFields =
      ReleaseLine.withCredentials value r.sentFields := by
  have hkept := filter_withCredentials value (fun name => name ≠ "authorization") r.fields
  unfold sentFields withCredentials
  dsimp only
  rw [List.append_assoc, List.append_assoc, withCredentials_append,
    withCredentials_of_isAnonymous (isAnonymous_way _ _)]
  congr 1
  split
  · exact hkept
  · rfl

theorem asGet_withCredentials (value : String) (r : Request) :
    (r.withCredentials value).asGet = r.asGet.withCredentials value := by
  have hkept := filter_withCredentials value
    (fun name => name ≠ "content-type" ∧ name ≠ "content-length") r.fields
  unfold asGet withCredentials
  simp only [Request.mk.injEq, true_and, and_true]
  exact hkept

theorem redirected?_withCredentials (value : String) (r : Request) (status : Nat) :
    (r.withCredentials value).redirected? status =
      (r.redirected? status).map (withCredentials value) := by
  have hmethod : (r.withCredentials value).method = r.method := rfl
  have hbody : (r.withCredentials value).body = r.body := rfl
  unfold redirected?
  rw [hmethod, hbody, asGet_withCredentials]
  grind

theorem next?_withCredentials (value : String) (r : Request) (head : Head) :
    (r.withCredentials value).next? head = (r.next? head).map (withCredentials value) := by
  have hurl : (r.withCredentials value).url = r.url := rfl
  unfold next?
  rw [redirected?_withCredentials, hurl]
  cases r.redirected? head.status with
  | none => rfl
  | some again =>
      cases Field.find? head.fields "location" with
      | none => rfl
      | some location =>
          cases htext : String.fromUTF8? ⟨location.toArray⟩ with
          | none => simp [htext]
          | some text =>
              cases hjoin : (r.url.join text).toOption with
              | none => simp [htext, hjoin]
              | some url =>
                  simp only [Option.map_some, Option.bind_eq_bind, Option.bind_some, htext, hjoin]
                  split <;> rfl

theorem isAnonymous_sentFields {r : Request} (h : IsAnonymous r.fields) :
    IsAnonymous r.sentFields := by
  unfold sentFields
  dsimp only
  rw [List.append_assoc]
  refine .append ?_ (isAnonymous_way _ _)
  split
  · exact fun field hfield => h field (List.mem_filter.mp hfield).1
  · exact h

theorem isAnonymous_next? {r again : Request} {head : Head} (h : r.next? head = some again)
    (hfields : IsAnonymous r.fields) : IsAnonymous again.fields := by
  have hasGet : IsAnonymous r.asGet.fields := fun field hfield =>
    hfields field (List.mem_filter.mp hfield).1
  obtain ⟨same, url, hsame, rfl⟩ := redirected_of_next? h
  change IsAnonymous same.fields
  unfold redirected? at hsame
  grind

end Http.Request

def Receipt.withCredentials (value : String) (receipt : Receipt) : Receipt :=
  { receipt with fields := ReleaseLine.withCredentials value receipt.fields }

def Course.withCredentials (value : String) (c : Course) : Course :=
  { c with receipts := c.receipts.map fun pair => (pair.1, pair.2.withCredentials value) }

/-- Credentials go along on the way of a request and do nothing else. -/
theorem Network.course_withCredentials (value : String) (trusted : List Anchor)
    (limit : Duration) (left : Nat) (n : Network) (start : Nat) (r : Http.Request) :
    course trusted limit left n start (r.withCredentials value) =
      (course trusted limit left n start r).withCredentials value := by
  have hurl (r : Http.Request) : (r.withCredentials value).url = r.url := rfl
  have hreceipt (r : Http.Request) (takesBody : Bool) :
      receiptOf (r.withCredentials value) takesBody =
        (receiptOf r takesBody).withCredentials value := by
    unfold receiptOf Receipt.withCredentials
    rw [Http.Request.sentFields_withCredentials]
    rfl
  -- Credentials decide nothing on the way, so either request takes the same branch at every step.
  fun_induction course trusted limit left n start r with
  | case1 left n start r moment fault hreach =>
      rw [course.eq_def]
      simp only [hurl, hreach]
      rfl
  | case2 left n start r connected hreach reply arrival receipt stream ends hread =>
      simp only [stream, arrival, reply] at hread
      rw [course.eq_def]
      simp only [hurl, hreach, hread, hreceipt]
      rfl
  | case3 left n start r connected hreach reply arrival receipt stream ends fails moment fault
      hread =>
      simp only [stream, arrival, reply] at hread
      rw [course.eq_def]
      simp only [hurl, hreach, hread, hreceipt]
      rfl
  | case4 left n start r connected hreach reply arrival receipt stream ends moment head framing
      rest hread hnext =>
      simp only [stream, arrival, reply] at hread
      rw [course.eq_def]
      simp only [hurl, hreach, hread, hreceipt, Http.Request.next?_withCredentials, hnext]
      rfl
  | case5 n start r connected hreach reply arrival receipt stream ends fails moment head framing
      rest hread again hnext =>
      simp only [stream, arrival, reply] at hread
      rw [course.eq_def]
      simp only [hurl, hreach, hread, hreceipt, Http.Request.next?_withCredentials, hnext]
      rfl
  | case6 n start r connected hreach reply arrival receipt stream moment head framing rest hread
      again left hnext later ih =>
      simp only [stream, arrival, reply] at hread
      rw [course.eq_def]
      simp only [hurl, hreach, hread, hreceipt, Http.Request.next?_withCredentials, hnext,
        Option.map_some, ih]
      rfl

theorem Network.course_anonymous (trusted : List Anchor) (limit : Duration) (left : Nat)
    (n : Network) (start : Nat) (r : Http.Request) (h : IsAnonymous r.fields) :
    ∀ receipt ∈ (course trusted limit left n start r).receipts,
      IsAnonymous receipt.2.fields := by
  refine course_induction (motive := fun _ _ r c => IsAnonymous r.fields →
    ∀ receipt ∈ c.receipts, IsAnonymous receipt.2.fields) ?_ ?_ ?_ left n start r h
  · rintro n start r moment fault - - receipt ⟨⟩
  · intro n start r c arrival hsingle hreceipts hfields receipt hreceipt
    rw [hreceipts, List.mem_singleton] at hreceipt
    rw [hreceipt]
    exact Http.Request.isAnonymous_sentFields hfields
  · intro n start r connected arrival moment head again later _ _ _ hnext ih hfields receipt
      hreceipt
    rcases List.mem_cons.mp hreceipt with rfl | hlater
    · exact Http.Request.isAnonymous_sentFields hfields
    · exact ih (Http.Request.isAnonymous_next? hnext hfields) receipt hlater

/-- A URL carries no user information. -/
def Url.IsPlain (url : Url) : Prop := ∀ a ∈ url.authority, a.username = "" ∧ a.password = ""

namespace Operation

variable {α : Type}

def withToken (token : Token) (op : Operation α) : Operation α :=
  { op with token := op.token.map fun _ => token }

/-- What an operation takes can be sent: no credentials but a token, which may stand in a header. -/
structure IsPlain (op : Operation α) : Prop where
  url : op.url.IsPlain
  token : ∀ token ∈ op.token, Http.isValue token.bearer = true

theorem basicCredentials?_of_isPlain {url : Url} (h : url.IsPlain) :
    basicCredentials? url = none := by
  unfold basicCredentials?
  cases hauthority : url.authority with
  | none => rfl
  | some a =>
      obtain ⟨husername, hpassword⟩ := h a hauthority
      have hempty : String.fromUTF8? ⟨(Url.Percent.decodeText "").toArray⟩ = some "" := by
        decide +kernel
      simp [husername, hpassword, hempty]

theorem isAnonymous_general (userAgent : String) :
    IsAnonymous [("accept", "application/vnd.github+json"),
      ("x-github-api-version", "2022-11-28"), ("user-agent", userAgent)] := by
  simp [IsAnonymous]

theorem isAnonymous_bodyFields (body : Option (ByteArray × String)) :
    IsAnonymous ((body.map fun b => bodyFields b.2 b.1).getD []) := by
  cases body with
  | none => rintro field ⟨⟩
  | some b => simp [IsAnonymous, bodyFields]

theorem fields_withToken {op : Operation α} (h : op.IsPlain) (token : Token)
    (userAgent : String) (body : Option (ByteArray × String)) :
    (op.withToken token).fields userAgent body =
      withCredentials token.bearer (op.fields userAgent body) := by
  have hurl : (op.withToken token).url = op.url := rfl
  have hgeneral := withCredentials_of_isAnonymous (isAnonymous_general userAgent) token.bearer
  have hbody := withCredentials_of_isAnonymous (isAnonymous_bodyFields body) token.bearer
  unfold fields
  rw [hurl, basicCredentials?_of_isPlain h.url]
  simp only [Option.toList_none, List.map_nil, List.nil_append, withCredentials_append, hgeneral,
    hbody]
  unfold withToken
  cases op.token <;> rfl

theorem isAnonymous_fields {op : Operation α} (hurl : op.url.IsPlain) (htoken : op.token = none)
    (userAgent : String) (body : Option (ByteArray × String)) :
    IsAnonymous (op.fields userAgent body) := by
  unfold fields
  rw [basicCredentials?_of_isPlain hurl, htoken]
  simp only [Option.toList_none, List.map_nil, List.nil_append, List.append_nil]
  exact (isAnonymous_general userAgent).append (isAnonymous_bodyFields body)

theorem all_isValue_withToken {op : Operation α} (h : op.IsPlain) {token : Token}
    (htoken : Http.isValue token.bearer = true) (userAgent : String)
    (body : Option (ByteArray × String)) :
    ((op.withToken token).fields userAgent body).all (fun field => Http.isValue field.2) =
      (op.fields userAgent body).all (fun field => Http.isValue field.2) := by
  have hurl : (op.withToken token).url = op.url := rfl
  have hvalues : (op.token.toList.map fun t => ("authorization", t.bearer)).all
      (fun field => Http.isValue field.2) = true := by
    rw [List.all_map, List.all_eq_true]
    intro t ht
    exact h.token t (Option.mem_toList.mp ht)
  have hvalues' : ((op.withToken token).token.toList.map fun t => ("authorization", t.bearer)).all
      (fun field => Http.isValue field.2) = true := by
    unfold withToken
    cases op.token with
    | none => rfl
    | some t => simpa using htoken
  unfold fields
  simp only [List.all_append, hvalues, hvalues', hurl]

theorem request_withToken {op : Operation α} (h : op.IsPlain) {token : Token}
    (htoken : Http.isValue token.bearer = true) (userAgent : String)
    (body : Option (ByteArray × String)) :
    (op.withToken token).request userAgent body =
      (op.request userAgent body).map (Http.Request.withCredentials token.bearer) := by
  have haddress : (op.withToken token).address = op.address := rfl
  unfold request
  dsimp only
  rw [all_isValue_withToken h htoken, haddress, fields_withToken h]
  split <;> rfl

end Operation

namespace Client

variable {α : Type} (c : Client) {op : Operation α} {token : Token}

theorem course_withToken (h : op.IsPlain) (htoken : Http.isValue token.bearer = true)
    (s : Session) :
    c.course (op.withToken token) s = (c.course op s).withCredentials token.bearer := by
  have hbody : (op.withToken token).body s.environment.files = op.body s.environment.files := rfl
  unfold course
  rw [hbody]
  cases op.body s.environment.files with
  | mk moment result =>
    cases result with
    | error cause => rfl
    | ok body =>
        dsimp only
        rw [Operation.request_withToken h htoken]
        cases op.request c.userAgent body with
        | error cause => rfl
        | ok request => exact Network.course_withCredentials ..

theorem settled_withToken (h : op.IsPlain) (htoken : Http.isValue token.bearer = true)
    (s : Session) : c.settled (op.withToken token) s = c.settled op s := by
  unfold settled handedOver
  rw [c.course_withToken h htoken]
  rfl

theorem arrivals_withToken (h : op.IsPlain) (htoken : Http.isValue token.bearer = true)
    (s : Session) :
    c.arrivals (op.withToken token) s =
      (c.arrivals op s).map (Receipt.withCredentials token.bearer) := by
  unfold arrivals
  rw [c.settled_withToken h htoken, c.course_withToken h htoken]
  simp only [Course.withCredentials, List.filter_map, List.map_map]
  rfl

theorem isAnonymous_arrivals {op : Operation α} (hurl : op.url.IsPlain) (htoken : op.token = none)
    (s : Session) : ∀ receipt ∈ c.arrivals op s, IsAnonymous receipt.fields := by
  have hcourse : ∀ receipt ∈ (c.course op s).receipts, IsAnonymous receipt.2.fields := by
    rcases c.course_cases op s with
      ⟨moment, cause, hcourse⟩ | ⟨moment, body, request, -, hrequest, hcourse⟩
    · rw [hcourse]
      rintro receipt ⟨⟩
    · rw [hcourse]
      refine Network.course_anonymous _ _ _ _ _ _ ?_
      rw [(Operation.of_request hrequest).2.2.2]
      exact Operation.isAnonymous_fields hurl htoken c.userAgent body
  intro receipt hreceipt
  obtain ⟨pair, hpair, rfl⟩ := List.mem_map.mp hreceipt
  exact hcourse pair (List.mem_filter.mp hpair).1

theorem run_perform_upshot (op : Operation α) (s : Session) :
    (c.perform op).run s =
      ((c.upshot op (c.settled op s).2).1,
        ((c.exchanged op s).logged (submission op)).audited (c.upshot op (c.settled op s).2).2) :=
   c.run_follow op (c.course op s) (s.logged (submission op)) rfl

theorem run_perform_withToken (h : op.IsPlain) (htoken : Http.isValue token.bearer = true)
    (s : Session) (receipts : List Receipt) :
    (c.perform (op.withToken token)).run { s with receipts := receipts } =
      (((c.perform op).run s).1,
        { ((c.perform op).run s).2 with
          receipts := receipts ++
            (c.arrivals op s).map (Receipt.withCredentials token.bearer) }) := by
  have hupshot (ending : Except Interruption (Http.Head × List UInt8)) :
      c.upshot (op.withToken token) ending = c.upshot op ending := by
    match ending with
    | .ok _ | .error .overdue | .error .noHead | .error (.fault _) => rfl
  have hsettled : c.settled (op.withToken token) { s with receipts := receipts } =
      c.settled op s := c.settled_withToken h htoken s
  have harrivals : c.arrivals (op.withToken token) { s with receipts := receipts } =
      (c.arrivals op s).map (Receipt.withCredentials token.bearer) :=
    c.arrivals_withToken h htoken s
  rw [run_perform_upshot, run_perform_upshot, hsettled, hupshot]
  unfold exchanged
  rw [harrivals, List.length_map]
  rfl

end Client

namespace Call

theorem operation_withToken (c : PublishingClient) (first second : Token) (call : Call) :
    call.operation { c with token := second } =
      (call.operation { c with token := first }).withToken second := by
  cases call <;> rfl

theorem isPlain_releasesUrl {base : Url} (h : base.IsPlain) (repository : Repository)
    (tail : List String) : (releasesUrl base repository tail).IsPlain := by
  have hauthority : (releasesUrl base repository tail).authority = base.authority := by
    unfold releasesUrl Url.extend
    split <;> rfl
  unfold Url.IsPlain
  rw [hauthority]
  exact h

theorem isPlain_url {c : PublishingClient} (hapi : c.api.IsPlain) (huploads : c.uploads.IsPlain)
    (call : Call) : (call.operation c).url.IsPlain := by
  cases call with
  | latest => exact isPlain_releasesUrl hapi c.repository []
  | create version => exact isPlain_releasesUrl hapi c.repository []
  | upload id artifact => exact isPlain_releasesUrl huploads c.repository [id.text, "assets"]

theorem isPlain_operation {c : PublishingClient} (hapi : c.api.IsPlain)
    (huploads : c.uploads.IsPlain) (htoken : Http.isValue c.token.bearer = true) (call : Call) :
    (call.operation c).IsPlain := by
  constructor
  case url => exact isPlain_url hapi huploads call
  case token =>
    intro token hmem
    cases call with
    | latest => cases hmem
    | create version =>
        cases hmem
        exact htoken
    | upload id artifact =>
        cases hmem
        exact htoken

end Call

namespace Happening

def withToken (token : Token) : Happening → Happening
  | calls client route call => calls { client with token := token } route call
  | changes environment network => changes environment network

/-- The requests that arrive while something happens. -/
def arrivals (s : Session) : Happening → List Receipt
  | calls client _ call => client.toClient.arrivals (call.operation client) s
  | changes .. => []

/-- No client in a happening finds credentials in its base URLs. -/
def IsPlain : Happening → Prop
  | calls client _ _ => client.api.IsPlain ∧ client.uploads.IsPlain
  | changes .. => True

def isPublishing : Happening → Bool
  | calls _ _ (.create _) | calls _ _ (.upload ..) => true
  | calls _ _ .latest | changes .. => false

end Happening

def Outcome.withToken (token : Token) (outcome : Outcome) : Outcome :=
  { outcome with client := { outcome.client with token := token } }

namespace Happening

theorem run_calls (client : PublishingClient) (route : Call.Route) (call : Call) (s : Session) :
    (calls client route call).run.run s =
      (some ⟨client, call, ((client.toClient.perform (call.operation client)).run s).1⟩,
        ((client.toClient.perform (call.operation client)).run s).2) := by
  simp only [run, StateT.run_bind, Call.run_eq_perform]
  rfl

theorem receipts_run (happening : Happening) (s : Session) :
    (happening.run.run s).2.receipts = s.receipts ++ happening.arrivals s := by
  cases happening with
  | calls client route call =>
      rw [run_calls, Client.run_perform_upshot]
      rfl
  | changes environment network => exact (List.append_nil _).symm

variable {first second : Token} (hfirst : Http.isValue first.bearer = true)
  (hsecond : Http.isValue second.bearer = true)

include hfirst hsecond in
theorem run_withToken {happening : Happening} (hplain : happening.IsPlain) (s : Session)
    (receipts : List Receipt) :
    (happening.withToken second).run.run { s with receipts := receipts } =
      (((happening.withToken first).run.run s).1.map (Outcome.withToken second),
        { ((happening.withToken first).run.run s).2 with
          receipts := receipts ++
            ((happening.withToken first).arrivals s).map
              (Receipt.withCredentials second.bearer) }) := by
  cases happening with
  | changes environment network =>
      unfold withToken arrivals
      rw [List.map_nil, List.append_nil]
      rfl
  | calls client route call =>
      have hop : (call.operation { client with token := first }).IsPlain := by
        apply Call.isPlain_operation
        · exact hplain.1
        · exact hplain.2
        · exact hfirst
      unfold withToken
      rw [run_calls, run_calls, Call.operation_withToken client first second,
        client.toClient.run_perform_withToken hop hsecond s receipts]
      rfl

omit hfirst hsecond in
theorem isAnonymous_arrivals {happening : Happening} (hplain : happening.IsPlain)
    (hlooks : happening.isPublishing = false) (s : Session) :
    ∀ receipt ∈ happening.arrivals s, IsAnonymous receipt.fields := by
  cases happening with
  | changes environment network => rintro receipt ⟨⟩
  | calls client route call =>
    cases call with
    | latest =>
        exact client.toClient.isAnonymous_arrivals (Call.isPlain_url hplain.1 hplain.2 .latest)
          rfl s
    | create version => cases hlooks
    | upload id artifact => cases hlooks

theorem run_runAll_cons (happening : Happening) (rest : List Happening) (s : Session) :
    (runAll (happening :: rest)).run s =
      ((happening.run.run s).1.toList ++ ((runAll rest).run (happening.run.run s).2).1,
        ((runAll rest).run (happening.run.run s).2).2) := rfl

include hfirst hsecond in
theorem runAll_withToken {happenings : List Happening}
    (hplain : ∀ happening ∈ happenings, happening.IsPlain) (s : Session)
    (receipts : List Receipt) :
    ∃ blocks : List (List Receipt),
      ((runAll (happenings.map (withToken first))).run s).2.receipts =
        s.receipts ++ blocks.flatten ∧
      (runAll (happenings.map (withToken second))).run { s with receipts := receipts } =
        (((runAll (happenings.map (withToken first))).run s).1.map (Outcome.withToken second),
          { ((runAll (happenings.map (withToken first))).run s).2 with
            receipts := receipts ++
              blocks.flatten.map (Receipt.withCredentials second.bearer) }) ∧
      List.Forall₂ (fun happening block => happening.isPublishing = false →
        ∀ receipt ∈ block, IsAnonymous receipt.fields) happenings blocks := by
  induction happenings generalizing s receipts with
  | nil =>
      refine ⟨[], (List.append_nil _).symm, ?_, .nil⟩
      simp only [List.map_nil, List.flatten_nil, List.append_nil]
      rfl
  | cons happening rest ih =>
      have hhappening : happening.IsPlain := hplain happening List.mem_cons_self
      obtain ⟨blocks, hreceipts, hrun, hanonymous⟩ :=
        ih (fun other hother => hplain other (List.mem_cons_of_mem happening hother))
          ((happening.withToken first).run.run s).2
          (receipts ++ ((happening.withToken first).arrivals s).map
            (Receipt.withCredentials second.bearer))
      refine ⟨(happening.withToken first).arrivals s :: blocks, ?_, ?_, .cons ?_ hanonymous⟩
      · rw [List.map_cons, run_runAll_cons, hreceipts, receipts_run, List.flatten_cons,
          List.append_assoc]
      · rw [List.map_cons, List.map_cons, run_runAll_cons, run_runAll_cons,
          run_withToken hfirst hsecond hhappening, hrun]
        simp only [List.map_append, Option.toList_map, List.flatten_cons, List.append_assoc]
      · intro hlooks
        have hplain' : (happening.withToken first).IsPlain := by
          cases happening with
          | calls client route call => exact hhappening
          | changes environment network => exact hhappening
        have hlooks' : (happening.withToken first).isPublishing = false := by
          rw [← hlooks]
          cases happening with
          | calls client route call => cases call <;> rfl
          | changes environment network => rfl
        exact isAnonymous_arrivals hplain' hlooks' s

/-- Two runs of the same happenings, with one token and with another, differ in the credentials in
requests that publish, and in nothing else. -/
structure SameButCredentials (happenings : List Happening) (first second : Token)
    (s : Session) (blocks : List (List Receipt)) : Prop where
  /-- The requests of the first run, in one block for each happening. -/
  receipts : ((runAll (happenings.map (withToken first))).run s).2.receipts =
    s.receipts ++ blocks.flatten
  outcomes : ((runAll (happenings.map (withToken second))).run s).1 =
    ((runAll (happenings.map (withToken first))).run s).1.map (Outcome.withToken second)
  session : ((runAll (happenings.map (withToken second))).run s).2 =
    { ((runAll (happenings.map (withToken first))).run s).2 with
      receipts := s.receipts ++ blocks.flatten.map (Receipt.withCredentials second.bearer) }
  anonymous : List.Forall₂ (fun happening block => happening.isPublishing = false →
    ∀ receipt ∈ block, IsAnonymous receipt.fields) happenings blocks

/-- Tokens show in the credentials of requests that publish, and nowhere else; and releases are
looked up with a token as without. -/
theorem tokens_unseen {happenings : List Happening} {first second : Token}
    (hplain : ∀ happening ∈ happenings, happening.IsPlain)
    (hfirst : Http.isValue first.bearer = true) (hsecond : Http.isValue second.bearer = true)
    (s : Session) :
    (∃ blocks, SameButCredentials happenings first second s blocks) ∧
      ∀ client route, Call.run client route .latest = client.toClient.latest := by
  constructor
  · obtain ⟨blocks, hreceipts, hrun, hanonymous⟩ :=
      runAll_withToken hfirst hsecond hplain s s.receipts
    exact ⟨blocks, hreceipts, congrArg Prod.fst hrun, congrArg Prod.snd hrun, hanonymous⟩
  · intro client route
    cases route <;> rfl

def oneHost : PublishingClient where
  api := ⟨"http", some ⟨"", "", some (.domain "h"), none⟩, .segments [""], none, none⟩
  uploads := ⟨"http", some ⟨"", "", some (.domain "h"), none⟩, .segments [""], none, none⟩
  repository := ⟨"o", "r"⟩
  trusted := []
  timeouts := {}
  userAgent := "a"
  token := ⟨"t"⟩

theorem tokens_unseen_at_oneHost :
    let happenings := [calls oneHost .seam .latest,
      calls oneHost .direct (.create ⟨1, 0, by decide, by decide⟩)]
    let s : Session := { environment := { bindings := [], files := ⟨[], []⟩ }, network := {} }
    let credentials (token : Token) :=
      ((runAll (happenings.map (withToken token))).run s).2.receipts.map fun receipt =>
        (receipt.fields.filter (·.1 = "authorization")).map (·.2)
    (∀ happening ∈ happenings, happening.IsPlain) ∧
      Http.isValue (Token.mk "one").bearer = true ∧
      Http.isValue (Token.mk "two").bearer = true ∧
      credentials ⟨"one"⟩ = [[], ["Bearer one"]] ∧
      credentials ⟨"two"⟩ = [[], ["Bearer two"]] ∧
      (∃ blocks, SameButCredentials happenings ⟨"one"⟩ ⟨"two"⟩ s blocks) ∧
      ∀ client route, Call.run client route .latest = client.toClient.latest := by
  intro happenings s credentials
  have hone : Http.isValue (Token.mk "one").bearer = true := by decide +kernel
  have htwo : Http.isValue (Token.mk "two").bearer = true := by decide +kernel
  have hplain : ∀ happening ∈ happenings, happening.IsPlain := by
    intro happening hmem
    have hurl : oneHost.api.IsPlain := by
      rintro a ⟨⟩
      exact ⟨rfl, rfl⟩
    rcases List.mem_pair.mp hmem with rfl | rfl
    · exact ⟨hurl, hurl⟩
    · exact ⟨hurl, hurl⟩
  exact ⟨hplain, hone, htwo, by decide +kernel, by decide +kernel,
    tokens_unseen hplain hone htwo s⟩

end Happening

end ReleaseLine
