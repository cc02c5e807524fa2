import ReleaseLine.Proofs.Deadlines

/-!
Requests that carry a body. A connection that is told the length of a body takes all of it, but asks
for nothing past it; so the request never counts as handed over, and the limit on the head of the
response is never counted. Nothing but the limit on everything together limits such an exchange.
-/

namespace ReleaseLine

def joined : List ByteArray → ByteArray
  | [] => .empty
  | chunk :: rest => chunk ++ joined rest

theorem joined_append (first second : List ByteArray) :
    joined (first ++ second) = joined first ++ joined second := by
  induction first with
  | nil => exact ByteArray.empty_append.symm
  | cons chunk rest ih => simp only [List.cons_append, joined, ih, ByteArray.append_assoc]

namespace TrackedBody

theorem joined_map_range (bytes : ByteArray) (count : Nat) :
    joined ((List.range count).map fun i =>
        bytes.extract (i * chunkSize) ((i + 1) * chunkSize)) =
      bytes.extract 0 (count * chunkSize) := by
  induction count with
  | zero => simp [joined]
  | succ count ih =>
      have hle : count * chunkSize ≤ (count + 1) * chunkSize := Nat.mul_le_mul_right _ (by omega)
      simp only [List.range_succ, List.map_append, joined_append, ih, List.map_cons, List.map_nil]
      change _ ++ (_ ++ ByteArray.empty) = _
      rw [ByteArray.append_empty, ByteArray.extract_append_extract, Nat.zero_min,
        Nat.max_eq_right hle]

theorem joined_ofBytes (bytes : ByteArray) (progress : Progress) :
    joined (ofBytes bytes progress).chunks = bytes := by
  have hcount : bytes.size ≤ (bytes.size + chunkSize - 1) / chunkSize * chunkSize := by
    unfold chunkSize
    omega
  unfold ofBytes
  rw [joined_map_range]
  calc bytes.extract 0 ((bytes.size + chunkSize - 1) / chunkSize * chunkSize)
      = bytes.extract 0 bytes.size ++
          bytes.extract bytes.size ((bytes.size + chunkSize - 1) / chunkSize * chunkSize) := by
        rw [ByteArray.extract_append_extract, Nat.zero_min, Nat.max_eq_right hcount]
    _ = bytes := by
        rw [ByteArray.extract_zero_size,
          ByteArray.extract_eq_empty_iff.mpr (Nat.min_le_right ..), ByteArray.append_empty]

theorem handOver_nil (expected : Option Nat) (progress : Progress) :
    (handOver expected ⟨[], progress⟩) =
      ([], if expected = some 0 then progress else progress.bodySent) := by
  rw [handOver]
  split
  · rfl
  · rfl

theorem handOver_cons (expected : Option Nat) (chunk : ByteArray) (rest : List ByteArray)
    (progress : Progress) (h : expected ≠ some 0) :
    handOver expected ⟨chunk :: rest, progress⟩ =
      (chunk :: (handOver (expected.map (· - chunk.size)) ⟨rest, progress⟩).1,
        (handOver (expected.map (· - chunk.size)) ⟨rest, progress⟩).2) := by
  rw [handOver, if_neg h]
  rfl

/-- A connection that is told the length of a body takes the whole body, and the body does not come
to know. -/
theorem handOver_length (chunks : List ByteArray) (progress : Progress) :
    joined (handOver (some (joined chunks).size) ⟨chunks, progress⟩).1 = joined chunks ∧
      (handOver (some (joined chunks).size) ⟨chunks, progress⟩).2 = progress := by
  induction chunks with
  | nil =>
      rw [handOver_nil]
      exact ⟨rfl, rfl⟩
  | cons chunk rest ih =>
      have hsize : (joined (chunk :: rest)).size = chunk.size + (joined rest).size :=
        ByteArray.size_append
      by_cases hzero : (joined (chunk :: rest)).size = 0
      · rw [handOver, if_pos (by rw [hzero])]
        exact ⟨(ByteArray.size_eq_zero_iff.mp hzero).symm, rfl⟩
      · have hrest : (some (joined (chunk :: rest)).size).map (· - chunk.size) =
            some (joined rest).size := by
          rw [hsize, Option.map_some, Nat.add_sub_cancel_left]
        rw [handOver_cons _ _ _ _ (by simpa using hzero), hrest]
        exact ⟨congrArg (chunk ++ ·) ih.1, ih.2⟩

theorem handOver_ofBytes (bytes : ByteArray) (progress : Progress) :
    joined ((ofBytes bytes progress).handOver (some bytes.size)).1 = bytes ∧
      ((ofBytes bytes progress).handOver (some bytes.size)).2 = progress := by
  have hbody : ofBytes bytes progress = ⟨(ofBytes bytes progress).chunks, progress⟩ := rfl
  have hlength := handOver_length (ofBytes bytes progress).chunks progress
  rw [joined_ofBytes] at hlength
  rw [hbody]
  exact hlength

theorem handOver_none (chunks : List ByteArray) (progress : Progress) :
    handOver none ⟨chunks, progress⟩ = (chunks, progress.bodySent) := by
  induction chunks with
  | nil => exact handOver_nil none progress
  | cons chunk rest ih =>
      rw [handOver_cons none chunk rest progress (by simp), Option.map_none, ih]

end TrackedBody

namespace Progress

theorem isHandedOver_bodySent (p : Progress) : p.bodySent.isHandedOver = true := by
  rcases p with ⟨hasBody, stage⟩
  cases stage <;> rfl

theorem transmit_eq (p : Progress) (body : Option ByteArray) : p.transmit body = p := by
  cases body with
  | none => exact p.transmit_none
  | some bytes =>
      rw [transmit, Option.elim_some]
      exact (TrackedBody.handOver_ofBytes bytes p).2

theorem handedOver_of_hasBody {p : Progress} (hbody : p.hasBody = true)
    (hstage : p.isHandedOver = false) (body : Option ByteArray) (connections : List Nat) :
    p.handedOver body connections = .never := by
  -- No connection gets the exchange past sending its body, neither the first one nor a later one.
  induction connections generalizing p body with
  | nil => rfl
  | cons moment later ih =>
      have hconnected : p.connected.hasBody = true ∧ p.connected.isHandedOver = false := by
        rcases p with ⟨hasBody, stage⟩
        cases hbody
        cases stage with
        | connecting => exact ⟨rfl, rfl⟩
        | sendingBody => exact ⟨rfl, rfl⟩
        | awaitingResponse => cases hstage
      unfold handedOver
      simp only [transmit_eq, hconnected.2]
      exact ih hconnected.1 hconnected.2 none

end Progress

theorem Course.handedOver_some (c : Course) (bytes : ByteArray) :
    c.handedOver (some bytes) = .never :=
  Progress.handedOver_of_hasBody rfl rfl (some bytes) c.connections

namespace Timeline

variable {t : Timeline} {first whole : Duration} {moment : Nat}
  {ending : Except Interruption (Http.Head × List UInt8)}

theorem overdue_of_natural
    (h : (Pending.arrives moment ending).Earliest (t.Ends .never first whole))
    (hlate : ∀ m e, t.natural = .arrives m e → whole.nanoseconds < m) :
    ending = .error .overdue := by
  obtain ⟨hends, hfirst⟩ := h
  rcases hends with hhalts | ⟨-, rfl⟩
  · have hle := hfirst whole.nanoseconds (.error .overdue) (.inr ⟨rfl, rfl⟩)
    rcases Course.halts_cases hhalts with hnatural | ⟨start, ⟨⟩, -⟩
    have hlt := hlate moment ending hnatural
    omega
  · rfl

end Timeline

namespace Client

variable {α : Type}

/-- A request that is to carry a body never counts as handed over. -/
theorem handedOver_of_carries (c : Client) {op : Operation α} (hcarries : op.carries = true)
    (s : Session) : c.handedOver op s = .never := by
  unfold handedOver
  rcases hbody : op.body s.environment.files with ⟨moment, cause | body⟩
  · have hcourse : c.course op s = .failed moment cause := by
      unfold course
      rw [hbody]
    rw [hcourse]
    rfl
  · obtain ⟨pair, rfl⟩ : ∃ pair, body = some pair := by
      rw [← Option.isSome_iff_exists, Operation.isSome_of_body hbody, hcarries]
    have hcontent : op.content? s.environment.files = some pair.1 := by
      unfold Operation.content?
      rw [hbody]
      rfl
    rw [hcontent]
    exact Course.handedOver_some (c.course op s) pair.1

def RunsOver (c : Client) (op : Operation α) (s : Session) : Prop :=
  ((c.perform op).run s).1 =
      .error (.timedOut .endToEnd c.timeouts.endToEnd op.url .deadline) ∧
    ((c.perform op).run s).2.trail = s.trail ++ [.failed op.url .deadline]

/-- An operation is limited as a whole alone, however its body is taken. -/
structure LimitedAsWhole (c : Client) (op : Operation α) (s : Session) : Prop where
  /-- A connection takes the body as a whole, and the request does not count as handed over. It
  would if the connection were not told the length of the body. -/
  taken : ∀ bytes, op.content? s.environment.files = some bytes → ∀ progress : Progress,
    progress.isHandedOver = false →
    joined ((TrackedBody.ofBytes bytes progress).handOver (some bytes.size)).1 = bytes ∧
      ((TrackedBody.ofBytes bytes progress).handOver (some bytes.size)).2.isHandedOver = false ∧
      ((TrackedBody.ofBytes bytes progress).handOver none).2.isHandedOver = true
  /-- What decides is the earliest of a fault, the response, and the limit on everything. -/
  decided : ∃ moment ending,
    (Pending.arrives moment ending).Earliest
      ((c.timeline op s).Ends .never c.timeouts.firstByte c.timeouts.endToEnd) ∧
    ((c.perform op).run s).1 = (c.upshot op ending).1 ∧
    ((c.perform op).run s).2.trail = s.trail ++ [(c.upshot op ending).2]
  /-- The limit on the head never decides. -/
  unguarded : ((c.perform op).run s).1 ≠
    .error (.timedOut .firstByte c.timeouts.firstByte op.url .deadline)
  /-- A head that does not come does not end the wait before the limit on everything. -/
  silent : (∀ moment value, (c.course op s).head = .arrives moment value →
    c.timeouts.endToEnd.nanoseconds < moment) → c.RunsOver op s
  /-- A body that is still being taken at this limit is given up then. -/
  sending : ∀ receipt ∈ (c.course op s).receipts.head?,
    c.timeouts.endToEnd.nanoseconds < receipt.1 → c.RunsOver op s

theorem ne_deadline_of_faultAt (c : Client) (op : Operation α) (s : Session) {moment : Nat}
    {cause : Cause} (h : (c.course op s).FaultAt moment cause) : cause ≠ .deadline := by
  have hfault : (c.course op s).Fault cause := by
    rcases h with hhead | ⟨-, hbody⟩
    · exact .inl ⟨moment, hhead⟩
    · exact .inr ⟨moment, hbody⟩
  rcases c.cause_of_fault op s hfault with ⟨fault, rfl⟩ | ⟨path, type, fault, -, rfl⟩
  · simp
  · simp

theorem ne_firstByte_of_ends (c : Client) (op : Operation α) (s : Session) {moment : Nat}
    {ending : Except Interruption (Http.Head × List UInt8)}
    (h : (c.timeline op s).Ends .never c.timeouts.firstByte c.timeouts.endToEnd moment ending) :
    (c.upshot op ending).1 ≠
      .error (.timedOut .firstByte c.timeouts.firstByte op.url .deadline) := by
  rcases h with hhalts | ⟨-, rfl⟩
  · cases hhalts with
    | fault _ cause hfault =>
        have hcause := c.ne_deadline_of_faultAt op s hfault
        simp only [upshot, failureFor]
        grind
    | response _ received hresponse =>
        simp only [upshot, Operation.judge]
        split
        · simp
        · cases op.interpret (Operation.responseOf received).body <;> simp [Except.mapError]
    | noHead start hclock hhead => cases hclock
  · simp [upshot]

theorem limited_of_carries (c : Client) {op : Operation α} (hcarries : op.carries = true)
    (s : Session) : c.LimitedAsWhole op s := by
  have hclock : (c.timeline op s).handedOver (op.content? s.environment.files) = .never :=
    c.handedOver_of_carries hcarries s
  obtain ⟨moment, ending, hearliest, hresult, htrail⟩ :=
    c.run_follow_decided op (c.timeline op s) (s.logged (submission op)) hclock
  have hover (hlate : ∀ m value, (c.course op s).head = .arrives m value →
      c.timeouts.endToEnd.nanoseconds < m) : c.RunsOver op s := by
    have hending : ending = .error .overdue :=
      Timeline.overdue_of_natural hearliest fun m e hnatural =>
        (c.timeline op s).lt_natural hlate hnatural
    rw [hending] at hresult htrail
    exact ⟨hresult, htrail⟩
  constructor
  case taken =>
    intro bytes _ progress hprogress
    obtain ⟨hjoined, hsame⟩ := TrackedBody.handOver_ofBytes bytes progress
    refine ⟨hjoined, (congrArg Progress.isHandedOver hsame).trans hprogress, ?_⟩
    have hnone := TrackedBody.handOver_none (TrackedBody.ofBytes bytes progress).chunks progress
    exact (congrArg (fun taken => taken.2.isHandedOver) hnone).trans progress.isHandedOver_bodySent
  case decided => exact ⟨moment, ending, hearliest, hresult, htrail⟩
  case unguarded =>
    have hne := c.ne_firstByte_of_ends op s hearliest.1
    rw [← hresult] at hne
    exact hne
  case silent => exact hover
  case sending =>
    intro receipt hreceipt hlate
    obtain ⟨start, hordered⟩ := c.course_ordered op s
    refine hover fun m value hhead => ?_
    have hlt := hordered.arrival_lt_head receipt hreceipt m value hhead
    omega

end Client

namespace PublishingClient

/-- Whatever is published, nothing but the limit on everything together limits it. -/
theorem publishing_limited_as_whole (c : PublishingClient) (s : Session) :
    (∀ version, c.toClient.LimitedAsWhole (.create c.api c.repository c.token version) s) ∧
      ∀ id artifact,
        c.toClient.LimitedAsWhole (.upload c.uploads c.repository c.token id artifact) s := by
  constructor
  · intro version
    exact c.toClient.limited_of_carries rfl s
  · intro id artifact
    exact c.toClient.limited_of_carries rfl s

def hasty : PublishingClient where
  api := ⟨"http", some ⟨"", "", some (.domain "h"), none⟩, .segments [""], none, none⟩
  uploads := ⟨"http", some ⟨"", "", some (.domain "h"), none⟩, .segments [""], none, none⟩
  repository := ⟨"o", "r"⟩
  trusted := []
  timeouts := { firstByte := .ofMilliseconds 100, endToEnd := .ofMilliseconds 1000 }
  userAgent := "a"
  token := ⟨"t"⟩

/-- A session in which a server takes requests and never answers. -/
def silence : Session where
  environment := { bindings := [], files := ⟨[], []⟩ }
  network := { replies := [{ closes := false }] }

/-- Where a whole request is taken at once and never answered, the limit on the head would be over
long before the one on everything; still it is the latter that ends the wait. -/
theorem create_runs_over_in_silence :
    let version : ReleaseVersion := ⟨1, 0, by decide, by decide⟩
    let op := Operation.create hasty.api hasty.repository hasty.token version
    let course := hasty.course op silence
    course.connections = [1] ∧
      course.receipts.map (fun receipt => (receipt.1, receipt.2.body)) =
        [(2, some "\x7b\"tag_name\":\"1.0\"\x7d".toUTF8)] ∧
      course.head = .never ∧
      2 + hasty.timeouts.firstByte.nanoseconds < hasty.timeouts.endToEnd.nanoseconds ∧
      ((hasty.create version).run silence).1 =
        .error (.timedOut .endToEnd hasty.timeouts.endToEnd op.url .deadline) := by
  intro version op course
  have hhead : course.head = .never := by
    have hnever : (match course.head with
        | .never => true
        | .arrives .. => false) = true := by decide +kernel
    split at hnever
    · assumption
    · cases hnever
  have hover : hasty.RunsOver op silence := by
    refine (hasty.limited_of_carries rfl silence).silent ?_
    intro moment value harrives
    rw [show (hasty.course op silence).head = .never from hhead] at harrives
    cases harrives
  exact ⟨by decide +kernel, by decide +kernel, hhead, by decide, hover.1⟩

end PublishingClient

end ReleaseLine
