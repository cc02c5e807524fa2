import ReleaseLine.Proofs.Credentials
import ReleaseLine.Proofs.Handover
import ReleaseLine.Proofs.VersionAgreement
import ReleaseLine.Proofs.VersionText

namespace ReleaseLine

/-- A text without control characters, tabs apart. -/
def IsHeaderText (text : String) : Prop :=
  ∀ c ∈ text.toList, c = '\t' ∨ 0x20 ≤ c.toNat ∧ c.toNat ≠ 0x7f

instance (text : String) : Decidable (IsHeaderText text) :=
  List.decidableBAll _ text.toList

theorem isValueByte_iff (b : UInt8) :
    Http.isValueByte b = true ↔ b.toNat = 9 ∨ 0x20 ≤ b.toNat ∧ b.toNat ≠ 0x7f := by
  simp [Http.isValueByte, ← UInt8.toNat_inj, UInt8.le_iff_toNat_le]

theorem all_isValueByte_iff (c : Char) :
    (∀ b ∈ String.utf8EncodeChar c, Http.isValueByte b = true) ↔
      c = '\t' ∨ 0x20 ≤ c.toNat ∧ c.toNat ≠ 0x7f := by
  by_cases hascii : c.toNat < 0x80
  · have htab : c = '\t' ↔ c.toNat = 9 := Char.toNat_inj.symm
    simp only [Text.utf8EncodeChar_of_lt hascii, List.mem_singleton, forall_eq, isValueByte_iff,
      Text.toNat_ofNat_of_lt hascii, htab]
  · constructor
    · intro _
      exact .inr ⟨by omega, by omega⟩
    · intro _ b hb
      have hle := Text.le_of_mem_utf8EncodeChar (by omega) hb
      rw [isValueByte_iff]
      omega

theorem isValue_iff (text : String) : Http.isValue text = true ↔ IsHeaderText text := by
  unfold Http.isValue Text.Utf8.encode IsHeaderText
  simp only [List.all_flatMap, List.all_eq_true, all_isValueByte_iff]

theorem isHeaderText_bearer_iff (token : Token) :
    IsHeaderText token.bearer ↔ IsHeaderText token.secret := by
  have hbearer : IsHeaderText "Bearer " := by decide +kernel
  unfold IsHeaderText Token.bearer at *
  rw [String.toList_append, List.forall_mem_append]
  exact and_iff_right hbearer

theorem isHeaderText_repr (n : Nat) : IsHeaderText n.repr := by
  intro c hc
  rw [← Nat.toString_eq_repr, Nat.toString_eq_ofList_toDigits, String.toList_ofList] at hc
  have hdigit : c.isDigit = true := Nat.isDigit_of_mem_toDigits (by decide) (by decide) hc
  have halphanum : c.isAlphanum = true := by simp [Char.isAlphanum, hdigit]
  have hrange := Url.Percent.range_of_isAlphanum halphanum
  exact .inr ⟨by omega, by omega⟩

namespace Operation

variable {α : Type} {op : Operation α}

theorem fields_eq (h : op.url.IsPlain) (userAgent : String)
    (body : Option (ByteArray × String)) :
    op.fields userAgent body =
      [("accept", "application/vnd.github+json"), ("x-github-api-version", "2022-11-28"),
        ("user-agent", userAgent)] ++
      (op.token.toList.map (fun token => ("authorization", token.bearer)) ++
        (body.map fun b => bodyFields b.2 b.1).getD []) := by
  unfold fields
  rw [basicCredentials?_of_isPlain h, List.append_assoc]
  rfl

theorem address_of_isPlain (h : op.url.IsPlain) : op.address = op.url := by
  unfold address
  rw [basicCredentials?_of_isPlain h]
  rfl

theorem all_isValue_fields_iff (h : op.url.IsPlain) (userAgent : String)
    (body : Option (ByteArray × String)) :
    (op.fields userAgent body).all (fun field => Http.isValue field.2) = true ↔
      IsHeaderText userAgent ∧ (∀ token ∈ op.token, IsHeaderText token.secret) ∧
        ∀ b ∈ body, IsHeaderText b.2 := by
  have haccept : Http.isValue "application/vnd.github+json" = true := by decide +kernel
  have hversion : Http.isValue "2022-11-28" = true := by decide +kernel
  rw [fields_eq h]
  cases op.token with
  | none =>
    cases body with
    | none => simp [haccept, hversion, isValue_iff]
    | some b => simp [haccept, hversion, isValue_iff, isHeaderText_repr, bodyFields]
  | some token =>
    cases body with
    | none => simp [haccept, hversion, isValue_iff, isHeaderText_bearer_iff]
    | some b =>
        simp [haccept, hversion, isValue_iff, isHeaderText_repr, isHeaderText_bearer_iff,
          bodyFields]

theorem request_eq_ok (h : op.url.IsPlain) {userAgent : String}
    {body : Option (ByteArray × String)} (hspoken : Http.isSpoken op.url = true)
    (haddress : Http.isAddress op.url = true)
    (hvalues : (op.fields userAgent body).all (fun field => Http.isValue field.2) = true) :
    ∃ request, op.request userAgent body = .ok request := by
  unfold request
  rw [address_of_isPlain h]
  exact ⟨_, if_pos ⟨hspoken, haddress, hvalues⟩⟩

theorem request_eq_error {userAgent : String} {body : Option (ByteArray × String)}
    (h : (op.fields userAgent body).all (fun field => Http.isValue field.2) ≠ true) :
    op.request userAgent body = .error (.transport { builder := true }) :=
  if_neg fun hsent => h hsent.2.2

theorem sentFields_of_request {userAgent : String} {body : Option (ByteArray × String)}
    {request : Http.Request} (h : op.request userAgent body = .ok request) :
    request.sentFields = op.fields userAgent body ++
      [("host", (op.address.authority.map (·.hostText)).getD "")] := by
  unfold Operation.request at h
  dsimp only at h
  split at h
  · cases h
    simp [Http.Request.sentFields]
  · cases h

end Operation

/-- Requests arrive in the order in which they are made; the first one is the one that was asked
for. -/
theorem Network.course_first (trusted : List Anchor) (limit : Duration) (left : Nat) (n : Network)
    (start : Nat) (r : Http.Request) :
    (∀ receipt ∈ (course trusted limit left n start r).receipts, start ≤ receipt.1) ∧
      ((course trusted limit left n start r).receipts = [] ∨ ∃ arrival later,
        (course trusted limit left n start r).receipts =
          (arrival, receiptOf r n.reply.takesBody) :: later ∧
        ∀ receipt ∈ later, arrival ≤ receipt.1) := by
  refine course_induction (motive := fun n start r c =>
    (∀ receipt ∈ c.receipts, start ≤ receipt.1) ∧ (c.receipts = [] ∨ ∃ arrival later,
      c.receipts = (arrival, receiptOf r n.reply.takesBody) :: later ∧
      ∀ receipt ∈ later, arrival ≤ receipt.1)) ?_ ?_ ?_ left n start r
  · intro n start r moment fault _
    exact ⟨by rintro receipt ⟨⟩, .inl rfl⟩
  · intro n start r c arrival hsingle hreceipts
    obtain ⟨connected, -, hstart, hconnected⟩ := hsingle.connection
    refine ⟨?_, .inr ⟨arrival, [], hreceipts, by simp⟩⟩
    intro receipt hreceipt
    rw [hreceipts, List.mem_singleton] at hreceipt
    rw [hreceipt]
    omega
  · intro n start r connected arrival moment head again later hstart hconnected hmoment _ ih
    refine ⟨?_, .inr ⟨arrival, _, rfl, ?_⟩⟩
    · intro receipt hreceipt
      rcases List.mem_cons.mp hreceipt with rfl | hlater
      · dsimp only
        omega
      · have hle := ih.1 receipt hlater
        omega
    · intro receipt hlater
      have hle := ih.1 receipt hlater
      omega

theorem Network.receipts_of_reach {trusted : List Anchor} {limit : Duration} {left : Nat}
    {n : Network} {start : Nat} {r : Http.Request}
    (h : (n.reach trusted limit start r.url).2 = .ok ()) :
    (course trusted limit left n start r).receipts ≠ [] := by
  fun_cases course trusted limit left n start r with
  | case1 left n start r moment fault hreach =>
      rw [hreach] at h
      cases h
  | case2 | case3 | case4 | case5 | case6 => exact List.cons_ne_nil _ _

namespace Client

variable {α : Type} (c : Client) {op : Operation α} {s : Session}

theorem arrivals_cases (op : Operation α) (s : Session) :
    c.arrivals op s = [] ∨ ∃ moment body request takesBody later,
      op.body s.environment.files = (moment, .ok body) ∧
        op.request c.userAgent body = .ok request ∧
        c.arrivals op s = Network.receiptOf request takesBody :: later := by
  unfold arrivals
  rcases c.course_cases op s with
    ⟨moment, cause, hcourse⟩ | ⟨moment, body, request, hbody, hrequest, hcourse⟩
  · rw [hcourse]
    exact .inl rfl
  · have hfirst := (Network.course_first c.trusted c.timeouts.connect Network.maxRedirects
      s.network moment request).2
    rw [← hcourse] at hfirst
    rcases hfirst with hnone | ⟨arrival, later, hreceipts, hlater⟩
    · rw [hnone]
      exact .inl rfl
    · rw [hreceipts]
      by_cases htime : arrival ≤ (c.settled op s).1
      · rw [List.filter_cons_of_pos (by simpa using htime), List.map_cons]
        exact .inr ⟨moment, body, request, _, _, hbody, hrequest, rfl⟩
      -- What is made later arrives later, so it does not take the place of the first request.
      · have hnone : later.filter (·.1 ≤ (c.settled op s).1) = [] := by
          apply List.filter_eq_nil_iff.mpr
          intro receipt hreceipt
          have hle := hlater receipt hreceipt
          simp only [decide_eq_true_eq]
          omega
        rw [List.filter_cons_of_neg (by simpa using htime), hnone]
        exact .inl rfl

theorem course_of_body {moment : Nat} {body : Option (ByteArray × String)}
    (hbody : op.body s.environment.files = (moment, .ok body)) :
    c.course op s =
      match op.request c.userAgent body with
      | .error cause => .failed moment cause
      | .ok request =>
        s.network.course c.trusted c.timeouts.connect Network.maxRedirects moment request := by
  unfold course
  rewrite [hbody]
  rfl

theorem settled_of_failed {moment : Nat} {cause : Cause}
    (hcourse : c.course op s = .failed moment cause)
    (hlimit : moment ≤ c.timeouts.endToEnd.nanoseconds) :
    (c.settled op s).2 = .error (.fault cause) := by
  unfold settled handedOver
  rw [hcourse]
  exact congrArg Prod.snd (if_pos hlimit)

end Client

namespace Call

/-- Whether all that a call takes can be sent. -/
structure Sendable (c : PublishingClient) (files : FileTree) (call : Call) : Prop where
  userAgent : IsHeaderText c.userAgent
  token : call ≠ .latest → IsHeaderText c.token.secret
  artifact : ∀ id artifact, call = .upload id artifact →
    IsHeaderText artifact.contentType ∧ ∃ content, files.read artifact.path = .ok content

def method : Call → Http.Method
  | .latest => .get
  | .create _ | .upload .. => .post

def IsContent (files : FileTree) : Call → ByteArray → Prop
  | .latest, content => content = .empty
  | .create version, content =>
    Tags content version.render ∧ ReleaseVersion.parse version.render = .ok version
  | .upload _ artifact, content => files.read artifact.path = .ok content

/-- What prevents a call of which not all can be sent. A file is read before anything else. -/
def refusal (files : FileTree) (call : Call) : Cause :=
  let builder : Cause := .transport { builder := true }
  match call with
  | .latest | .create _ => builder
  | .upload _ artifact =>
    match files.read artifact.path with
    | .error fault => .artifact artifact.path fault
    | .ok _ => builder

/-- The header lines of a call that sends some content, but for the one that names the host. -/
def lines (c : PublishingClient) (content : ByteArray) (call : Call) : Headers :=
  let general := [("accept", "application/vnd.github+json"), ("x-github-api-version", "2022-11-28"),
    ("user-agent", c.userAgent)]
  match call with
  | .latest => general
  | .create _ => general ++ [("authorization", "Bearer " ++ c.token.secret),
    ("content-type", "application/json"), ("content-length", toString content.size)]
  | .upload _ artifact => general ++ [("authorization", "Bearer " ++ c.token.secret),
    ("content-type", artifact.contentType), ("content-length", toString content.size)]

/-- A request has arrived as a call asks for it, with these lines and no others. -/
structure Fits (c : PublishingClient) (files : FileTree) (call : Call) (content : ByteArray)
    (receipt : Receipt) : Prop where
  isContent : call.IsContent files content
  method : receipt.method = call.method
  target : receipt.target = Network.targetOf (call.operation c).url
  fields : receipt.fields = call.lines c content ++
    [("host", ((call.operation c).url.authority.map (·.hostText)).getD "")]
  /-- A server that takes the body takes the content, and so are its chunks together. -/
  body : ∀ taken, receipt.body = some taken → taken = content
  chunks : ∀ progress,
    joined ((TrackedBody.ofBytes content progress).handOver (some content.size)).1 = content

variable {c : PublishingClient} {files : FileTree}

theorem body_create (version : ReleaseVersion) :
    ((Call.create version).operation c).body files =
      (0, .ok (some ((Json.encodeMember "tag_name" version.render).toUTF8, "application/json"))) :=
  rfl

theorem body_upload (id : ReleaseId) (artifact : Artifact) :
    ((Call.upload id artifact).operation c).body files =
      match files.read artifact.path with
      | .ok content => (1, .ok (some (content, artifact.contentType)))
      | .error fault => (1, .error (.artifact artifact.path fault)) := rfl

theorem of_body_upload {id : ReleaseId} {artifact : Artifact} {moment : Nat}
    {body : Option (ByteArray × String)}
    (h : ((Call.upload id artifact).operation c).body files = (moment, .ok body)) :
    ∃ content, files.read artifact.path = .ok content ∧
      body = some (content, artifact.contentType) := by
  rw [body_upload] at h
  cases hread : files.read artifact.path with
  | error fault =>
      rw [hread] at h
      cases h
  | ok content =>
      rw [hread] at h
      cases h
      exact ⟨content, rfl, rfl⟩

theorem sendable_iff {call : Call} (h : (call.operation c).url.IsPlain) :
    call.Sendable c files ↔ ∃ moment body, (call.operation c).body files = (moment, .ok body) ∧
      ((call.operation c).fields c.userAgent body).all (fun field => Http.isValue field.2) =
        true := by
  simp only [Operation.all_isValue_fields_iff h]
  constructor
  · intro hsendable
    cases call with
    | latest => exact ⟨0, none, rfl, hsendable.userAgent, by rintro token ⟨⟩, by rintro b ⟨⟩⟩
    | create version =>
        have hjson : IsHeaderText "application/json" := by decide +kernel
        refine ⟨0, _, body_create version, hsendable.userAgent, ?_, ?_⟩
        · rintro token ⟨⟩
          exact hsendable.token (by simp)
        · intro b hb
          rwa [← Option.some.inj hb]
    | upload id artifact =>
        obtain ⟨htype, content, hread⟩ := hsendable.artifact id artifact rfl
        refine ⟨1, some (content, artifact.contentType), ?_, hsendable.userAgent, ?_, ?_⟩
        · rw [body_upload, hread]
        · rintro token ⟨⟩
          exact hsendable.token (by simp)
        · rintro b ⟨⟩
          exact htype
  · rintro ⟨moment, body, hbody, huserAgent, htoken, htype⟩
    cases call with
    | latest => exact ⟨huserAgent, fun hne => absurd rfl hne, by rintro id artifact ⟨⟩⟩
    | create version => exact ⟨huserAgent, fun _ => htoken c.token rfl, by rintro id artifact ⟨⟩⟩
    | upload id artifact =>
        refine ⟨huserAgent, fun _ => htoken c.token rfl, ?_⟩
        rintro id' artifact' ⟨⟩
        obtain ⟨content, hread, rfl⟩ := of_body_upload hbody
        exact ⟨htype _ rfl, content, hread⟩

theorem isContent_of_body {call : Call} (hurl : (call.operation c).url.IsPlain) {moment : Nat}
    {body : Option (ByteArray × String)}
    (h : (call.operation c).body files = (moment, .ok body)) :
    call.IsContent files ((body.map (·.1)).getD .empty) ∧
      (call.operation c).fields c.userAgent body =
        call.lines c ((body.map (·.1)).getD .empty) := by
  rw [Operation.fields_eq hurl]
  cases call with
  | latest =>
      cases h
      exact ⟨rfl, rfl⟩
  | create version =>
      rw [body_create] at h
      obtain rfl := Except.ok.inj (Prod.mk.inj h).2
      simp only [Option.map_some, Option.getD_some]
      constructor
      · rw [IsContent]
        exact ⟨tags_encodeMember version, version.parse_render⟩
      · rfl
  | upload id artifact =>
      obtain ⟨content, hread, rfl⟩ := of_body_upload h
      exact ⟨hread, rfl⟩

theorem fits_receiptOf {call : Call} (hurl : (call.operation c).url.IsPlain) {moment : Nat}
    {body : Option (ByteArray × String)} {request : Http.Request}
    (hbody : (call.operation c).body files = (moment, .ok body))
    (hrequest : (call.operation c).request c.userAgent body = .ok request) (takesBody : Bool) :
    ∃ content, call.Fits c files content (Network.receiptOf request takesBody) := by
  obtain ⟨hmethod, haddress, hcontent, -⟩ := Operation.of_request hrequest
  obtain ⟨hisContent, hlines⟩ := isContent_of_body hurl hbody
  have hplain := Operation.address_of_isPlain hurl
  refine ⟨_, hisContent, ?_, ?_, ?_, ?_, ?_⟩
  · exact hmethod.trans (by cases call <;> rfl)
  · exact congrArg Network.targetOf (haddress.trans hplain)
  · rw [← hlines, ← hplain]
    exact Operation.sentFields_of_request hrequest
  · intro taken htaken
    rw [Network.body_receiptOf htaken, hcontent]
  · exact fun progress => (TrackedBody.handOver_ofBytes _ progress).1

theorem course_of_not_sendable {call : Call} (hurl : (call.operation c).url.IsPlain) (s : Session)
    (h : ¬ call.Sendable c s.environment.files) :
    ∃ moment ≤ 1, c.toClient.course (call.operation c) s =
      .failed moment (call.refusal s.environment.files) := by
  have hvalues {moment : Nat} {body : Option (ByteArray × String)}
      (hbody : (call.operation c).body s.environment.files = (moment, .ok body)) :
      c.toClient.course (call.operation c) s =
        .failed moment (.transport { builder := true }) := by
    have hrequest := Operation.request_eq_error fun hvalid =>
      h ((sendable_iff hurl).mpr ⟨moment, body, hbody, hvalid⟩)
    rw [Client.course_of_body c.toClient hbody, hrequest]
  cases call with
  | latest => exact ⟨0, by omega, hvalues rfl⟩
  | create version => exact ⟨0, by omega, hvalues (body_create version)⟩
  | upload id artifact =>
      refine ⟨1, Nat.le_refl 1, ?_⟩
      have hupload := @body_upload c s.environment.files id artifact
      cases hread : s.environment.files.read artifact.path with
      | error fault =>
          have hrefusal : refusal s.environment.files (.upload id artifact) =
              .artifact artifact.path fault := by
            simp only [refusal, hread]
          rw [hread] at hupload
          unfold Client.course
          rw [hupload, hrefusal]
      | ok content =>
          have hrefusal : refusal s.environment.files (.upload id artifact) =
              .transport { builder := true } := by
            simp only [refusal, hread]
          rw [hread] at hupload
          rw [hrefusal]
          exact hvalues hupload

theorem failureFor_refusal (client : Client) (url : Url) (files : FileTree) (call : Call) :
    client.failureFor url (call.refusal files) = .notSubmitted url (call.refusal files) := by
  have hcause : (call.refusal files).isConnectTimeout = false ∧
      (call.refusal files).isTimeout = false := by
    unfold refusal
    split
    · exact ⟨rfl, rfl⟩
    · exact ⟨rfl, rfl⟩
    · split
      · exact ⟨rfl, rfl⟩
      · exact ⟨rfl, rfl⟩
  unfold Client.failureFor
  rw [hcause.1, hcause.2]
  rfl

/-- How the first request of a call fares. -/
structure Sends (c : PublishingClient) (route : Route) (call : Call) (s : Session)
    (arrived : List Receipt) : Prop where
  receipts : ((call.run c route).run s).2.receipts = s.receipts ++ arrived
  first : ∀ receipt ∈ arrived.head?, ∃ content, call.Fits c s.environment.files content receipt
  refused : ¬ call.Sendable c s.environment.files → arrived = [] ∧
    (0 < c.timeouts.endToEnd.nanoseconds → ((call.run c route).run s).1 =
      .error (.notSubmitted (call.operation c).url (call.refusal s.environment.files)))
  /-- A request that can be sent to a host that is reached arrives, unless time runs out. -/
  underway : call.Sendable c s.environment.files →
    Http.isSpoken (call.operation c).url = true → Http.isAddress (call.operation c).url = true →
    (∀ start, (s.network.reach c.trusted c.timeouts.connect start (call.operation c).url).2 =
      .ok ()) →
    ∃ arrival receipt, (arrival, receipt) ∈ (c.toClient.course (call.operation c) s).receipts ∧
      (∃ content, call.Fits c s.environment.files content receipt) ∧
      (arrival ≤ (c.toClient.settled (call.operation c) s).1 → arrived.head? = some receipt)

theorem sends_arrivals (hapi : c.api.IsPlain) (huploads : c.uploads.IsPlain) (route : Route)
    (call : Call) (s : Session) :
    call.Sends c route s (c.toClient.arrivals (call.operation c) s) := by
  have hurl : (call.operation c).url.IsPlain := isPlain_url hapi huploads call
  constructor
  case receipts =>
    rw [run_eq_perform, Client.run_perform_upshot]
    rfl
  case first =>
    intro receipt hreceipt
    rcases c.toClient.arrivals_cases (call.operation c) s with
      hnone | ⟨moment, body, request, takesBody, later, hbody, hrequest, harrivals⟩
    · rw [hnone] at hreceipt
      cases hreceipt
    · rw [harrivals] at hreceipt
      cases hreceipt
      exact fits_receiptOf hurl hbody hrequest takesBody
  case refused =>
    intro h
    obtain ⟨moment, hmoment, hcourse⟩ := course_of_not_sendable hurl s h
    constructor
    · unfold Client.arrivals
      rw [hcourse]
      rfl
    · intro hlimit
      have hsettled := c.toClient.settled_of_failed hcourse (by omega)
      rw [run_eq_perform, Client.run_perform_upshot, hsettled]
      exact congrArg Except.error (failureFor_refusal ..)
  case underway =>
    intro hsendable hspoken haddress hreach
    obtain ⟨moment, body, hbody, hvalues⟩ := (sendable_iff hurl).mp hsendable
    obtain ⟨request, hrequest⟩ := Operation.request_eq_ok hurl hspoken haddress hvalues
    have hcourse : c.toClient.course (call.operation c) s =
        s.network.course c.trusted c.timeouts.connect Network.maxRedirects moment request := by
      rw [Client.course_of_body c.toClient hbody, hrequest]
    have hrequestUrl : request.url = (call.operation c).url :=
      (Operation.of_request hrequest).2.1.trans (Operation.address_of_isPlain hurl)
    have hfirst := (Network.course_first c.trusted c.timeouts.connect Network.maxRedirects
      s.network moment request).2
    have hsome : (s.network.course c.trusted c.timeouts.connect Network.maxRedirects moment
        request).receipts ≠ [] := by
      apply Network.receipts_of_reach
      rw [hrequestUrl]
      exact hreach moment
    rw [← hcourse] at hfirst hsome
    obtain ⟨arrival, later, hreceipts, -⟩ := hfirst.resolve_left hsome
    refine ⟨arrival, _, by rw [hreceipts]; exact List.mem_cons_self,
      fits_receiptOf hurl hbody hrequest _, ?_⟩
    intro htime
    unfold Client.arrivals
    rw [hreceipts, List.filter_cons_of_pos (by simpa using htime)]
    rfl

theorem sends_arrivals_at_oneHost :
    let call := Call.upload ⟨"7"⟩ ⟨"/f", "a b", "Jar", "application/java-archive"⟩
    let s : Session :=
      { environment := { bindings := [], files := ⟨[], [(["f"], .file "jar".toUTF8)]⟩ }
        network := {} }
    let arrived := Happening.oneHost.toClient.arrivals (call.operation Happening.oneHost) s
    Happening.oneHost.api.IsPlain ∧ Happening.oneHost.uploads.IsPlain ∧
      arrived.map (fun receipt => (receipt.method, receipt.target, receipt.fields)) =
        [(.post, "http://h/repos/o/r/releases/7/assets?name=a+b&label=Jar",
          [("accept", "application/vnd.github+json"), ("x-github-api-version", "2022-11-28"),
            ("user-agent", "a"), ("authorization", "Bearer t"),
            ("content-type", "application/java-archive"), ("content-length", "3"),
            ("host", "h")])] ∧
      arrived.map (·.body) = [some "jar".toUTF8] ∧
      call.Sends Happening.oneHost .direct s arrived := by
  intro call s arrived
  have hplain : Happening.oneHost.api.IsPlain := by
    rintro a ⟨⟩
    exact ⟨rfl, rfl⟩
  exact ⟨hplain, hplain, by decide +kernel, by decide +kernel,
    sends_arrivals hplain hplain .direct call s⟩

end Call

end ReleaseLine
