import ReleaseLine.Proofs.AuditTrail

/-!
What decides an exchange. It can end by itself, by the limit on the head of the response, or by the
limit on everything together; whichever comes first decides. The limit on the head is counted once,
from the first connection, however often the exchange is redirected.
-/

namespace ReleaseLine

namespace Pending

variable {α : Type} {event event' : Nat → α → Prop} {p : Pending α}

/-- Of the events that there may be, the earliest happens; nothing does if there is none. -/
def Earliest (event : Nat → α → Prop) : Pending α → Prop
  | never => ∀ moment value, ¬ event moment value
  | arrives moment value => event moment value ∧ ∀ other a, event other a → moment ≤ other

theorem Earliest.mono (h : p.Earliest event)
    (hadd : ∀ moment value, event moment value → event' moment value)
    (hlater : ∀ moment value, event' moment value → ∃ m a, event m a ∧ m ≤ moment) :
    p.Earliest event' := by
  cases p with
  | never =>
      intro moment value hevent
      obtain ⟨m, a, hm, -⟩ := hlater moment value hevent
      exact h m a hm
  | arrives moment value =>
      obtain ⟨hevent, hfirst⟩ := h
      refine ⟨hadd moment value hevent, ?_⟩
      intro other b hother
      obtain ⟨m, a, hm, hle⟩ := hlater other b hother
      exact Nat.le_trans (hfirst m a hm) hle

theorem Earliest.limit (h : p.Earliest event) (deadline : Nat) (late : α) :
    (ofPair (p.limit deadline late)).Earliest fun moment value =>
      event moment value ∨ moment = deadline ∧ value = late := by
  cases p with
  | never =>
      refine ⟨.inr ⟨rfl, rfl⟩, ?_⟩
      rintro other b (hother | ⟨rfl, -⟩)
      · exact absurd hother (h other b)
      · exact Nat.le_refl _
  | arrives moment value =>
      obtain ⟨hevent, hfirst⟩ := h
      by_cases hle : moment ≤ deadline
      · simp only [Pending.limit, if_pos hle, ofPair]
        refine ⟨.inl hevent, ?_⟩
        rintro other b (hother | ⟨rfl, -⟩)
        · exact hfirst other b hother
        · exact hle
      · simp only [Pending.limit, if_neg hle, ofPair]
        refine ⟨.inr ⟨rfl, rfl⟩, ?_⟩
        rintro other b (hother | ⟨rfl, -⟩)
        · have hmoment := hfirst other b hother
          omega
        · exact Nat.le_refl _

end Pending

namespace Course

def HeadAt (c : Course) (moment : Nat) : Prop := ∃ head, c.head = .arrives moment (.ok head)

/-- A cause ends the exchange at a moment, before the head or between head and body. -/
def FaultAt (c : Course) (moment : Nat) (cause : Cause) : Prop :=
  c.head = .arrives moment (.error cause) ∨
    (∃ earlier, c.HeadAt earlier) ∧ c.body = .arrives moment (.error cause)

def ResponseAt (c : Course) (moment : Nat) (received : Http.Head × List UInt8) : Prop :=
  (∃ earlier, c.head = .arrives earlier (.ok received.1)) ∧
    c.body = .arrives moment (.ok received.2)

/-- What ends an exchange, the limit on everything together apart. The limit on the head counts from
the moment at which its clock is started, and a head stops this clock. -/
inductive Halts (c : Course) (clock : Pending Unit) (first : Duration) :
    Nat → Except Interruption (Http.Head × List UInt8) → Prop
  | fault (moment : Nat) (cause : Cause) (hfault : c.FaultAt moment cause) :
      Halts c clock first moment (.error (.fault cause))
  | response (moment : Nat) (received : Http.Head × List UInt8)
      (hresponse : c.ResponseAt moment received) : Halts c clock first moment (.ok received)
  | noHead (start : Nat) (hclock : clock = .arrives start ())
      (hhead : ∀ moment, c.HeadAt moment → start + first.nanoseconds < moment) :
      Halts c clock first (start + first.nanoseconds) (.error .noHead)

def Ends (c : Course) (clock : Pending Unit) (first whole : Duration) (moment : Nat)
    (ending : Except Interruption (Http.Head × List UInt8)) : Prop :=
  c.Halts clock first moment ending ∨
    moment = whole.nanoseconds ∧ ending = .error .overdue

/-- When the first connection is established, if any is. -/
def connected (c : Course) : Pending Unit :=
  match c.connections with
  | [] => .never
  | moment :: _ => .arrives moment ()

/-- How an exchange goes without limits. -/
def natural (c : Course) : Pending (Except Interruption (Http.Head × List UInt8)) :=
  c.complete (c.head.map (·.mapError .fault))

theorem halts_of_natural {c : Course} {clock : Pending Unit} {first : Duration} {moment : Nat}
    {ending : Except Interruption (Http.Head × List UInt8)}
    (h : c.natural = .arrives moment ending) : c.Halts clock first moment ending := by
  obtain ⟨m, result, hhead, hnext⟩ := Pending.andThen_eq_arrives_iff.mp h
  obtain ⟨given, hgiven, rfl⟩ := Pending.map_eq_arrives_iff.mp hhead
  cases given with
  | error cause =>
      obtain ⟨rfl, rfl⟩ := Pending.arrives.inj hnext
      exact .fault m cause (.inl hgiven)
  | ok head =>
      obtain ⟨body, hbody, rfl⟩ := Pending.map_eq_arrives_iff.mp hnext
      cases body with
      | error cause => exact .fault moment cause (.inr ⟨⟨m, head, hgiven⟩, hbody⟩)
      | ok bytes => exact .response moment (head, bytes) ⟨⟨m, hgiven⟩, hbody⟩

theorem natural_of_fault {c : Course} {moment : Nat} {cause : Cause}
    (h : c.FaultAt moment cause) : c.natural = .arrives moment (.error (.fault cause)) := by
  unfold natural complete
  rcases h with hhead | ⟨⟨m, head, hhead⟩, hbody⟩
  · rw [hhead]
    rfl
  · rw [hhead, hbody]
    rfl

theorem natural_of_response {c : Course} {moment : Nat} {received : Http.Head × List UInt8}
    (h : c.ResponseAt moment received) : c.natural = .arrives moment (.ok received) := by
  obtain ⟨⟨m, hhead⟩, hbody⟩ := h
  unfold natural complete
  rw [hhead, hbody]
  rfl

theorem halts_cases {c : Course} {clock : Pending Unit} {first : Duration} {moment : Nat}
    {ending : Except Interruption (Http.Head × List UInt8)}
    (h : c.Halts clock first moment ending) :
    c.natural = .arrives moment ending ∨
      ∃ start, clock = .arrives start () ∧ moment = start + first.nanoseconds ∧
        ∀ m, c.HeadAt m → moment < m := by
  cases h with
  | fault _ cause hfault => exact .inl (natural_of_fault hfault)
  | response _ received hresponse => exact .inl (natural_of_response hresponse)
  | noHead start hclock hhead => exact .inr ⟨start, hclock, rfl, hhead⟩

theorem guardedHead_never (c : Course) (limit : Duration) :
    c.guardedHead .never limit = c.head.map (·.mapError .fault) := by
  unfold guardedHead
  cases c.head <;> rfl

/-- To wait first for head or clock, and then for the head within the limit, is to wait for the head
within the limit as counted from the clock. -/
theorem guardedHead_arrives (c : Course) (start : Nat) (limit : Duration) :
    c.guardedHead (.arrives start ()) limit =
      .ofPair ((c.head.map (·.mapError .fault)).limit (start + limit.nanoseconds)
        (.error .noHead)) := by
  unfold guardedHead
  cases c.head with
  | never => rfl
  | arrives moment value =>
      by_cases hbefore : moment ≤ start
      · have hlimit : moment ≤ start + limit.nanoseconds := by omega
        simp [Pending.map, Pending.race, Pending.andThen, Pending.limit, Pending.ofPair, hbefore,
          hlimit]
      · simp [Pending.map, Pending.race, Pending.andThen, hbefore]

theorem guardedHead_of_inTime {c : Course} {start moment : Nat}
    {value : Except Cause Http.Head} {limit : Duration} (hhead : c.head = .arrives moment value)
    (htime : moment ≤ start + limit.nanoseconds) :
    c.guardedHead (.arrives start ()) limit = c.head.map (·.mapError .fault) := by
  rw [guardedHead_arrives, hhead]
  simp [Pending.map, Pending.limit, Pending.ofPair, htime]

theorem guardedHead_of_late {c : Course} {start : Nat} {limit : Duration}
    (hlate : ∀ moment value, c.head = .arrives moment value →
      start + limit.nanoseconds < moment) :
    c.guardedHead (.arrives start ()) limit =
      .arrives (start + limit.nanoseconds) (.error .noHead) := by
  rw [guardedHead_arrives]
  cases hhead : c.head with
  | never => rfl
  | arrives moment value =>
      have hnot : ¬ moment ≤ start + limit.nanoseconds := by
        have hlt := hlate moment value hhead
        omega
      simp [Pending.map, Pending.limit, Pending.ofPair, hnot]

theorem earliest_natural {c : Course} {clock : Pending Unit} {first : Duration}
    (hclock : ∀ start, clock = .arrives start () →
      (∀ m, c.HeadAt m → start + first.nanoseconds < m) →
      ∃ m ending, c.natural = .arrives m ending ∧ m ≤ start + first.nanoseconds) :
    c.natural.Earliest (c.Halts clock first) := by
  have hevents : c.natural.Earliest fun moment ending => c.natural = .arrives moment ending := by
    cases c.natural with
    | never => rintro moment ending ⟨⟩
    | arrives m e =>
        refine ⟨rfl, ?_⟩
        rintro moment ending ⟨⟩
        exact Nat.le_refl m
  refine hevents.mono (fun moment ending h => halts_of_natural h) ?_
  intro moment ending hhalts
  rcases halts_cases hhalts with hnatural | ⟨start, hstart, rfl, hhead⟩
  · exact ⟨moment, ending, hnatural, Nat.le_refl moment⟩
  · exact hclock start hstart hhead

end Course

/-- A course in order: connections are established one after the other, and the body comes no
earlier than the head. -/
structure Timeline extends Course where
  connections_lt : toCourse.connections.Pairwise (· < ·)
  head_le_body : ∀ m n first second,
    toCourse.head = .arrives m first → toCourse.body = .arrives n second → m ≤ n

namespace Timeline

open Course

variable (t : Timeline)

theorem lt_natural {deadline moment : Nat}
    {ending : Except Interruption (Http.Head × List UInt8)}
    (hlate : ∀ m value, t.head = .arrives m value → deadline < m)
    (h : t.natural = .arrives moment ending) : deadline < moment := by
  obtain ⟨m, result, hhead, hnext⟩ := Pending.andThen_eq_arrives_iff.mp h
  obtain ⟨given, hgiven, rfl⟩ := Pending.map_eq_arrives_iff.mp hhead
  have hlt := hlate m given hgiven
  cases given with
  | error cause =>
      obtain ⟨rfl, -⟩ := Pending.arrives.inj hnext
      exact hlt
  | ok head =>
      obtain ⟨body, hbody, -⟩ := Pending.map_eq_arrives_iff.mp hnext
      have hle := t.head_le_body m moment _ _ hgiven hbody
      omega

theorem earliest_of_late {start : Nat} {first : Duration}
    (hlate : ∀ moment value, t.head = .arrives moment value →
      start + first.nanoseconds < moment) :
    (Pending.arrives (start + first.nanoseconds) (.error .noHead)).Earliest
      (t.Halts (.arrives start ()) first) := by
  refine ⟨.noHead start rfl fun m ⟨head, hhead⟩ => hlate m _ hhead, ?_⟩
  intro moment ending hhalts
  rcases halts_cases hhalts with hnatural | ⟨other, ⟨⟩, rfl, -⟩
  · exact Nat.le_of_lt (t.lt_natural hlate hnatural)
  · exact Nat.le_refl _

theorem earliest_complete (clock : Pending Unit) (first : Duration) :
    (t.complete (t.guardedHead clock first)).Earliest (t.Halts clock first) := by
  -- The clock decides only where it is started and no head, nor a fault before it, comes in time.
  cases clock with
  | never =>
      rw [guardedHead_never]
      refine earliest_natural ?_
      rintro start ⟨⟩
  | arrives start value =>
      by_cases hlate : ∀ moment value, t.head = .arrives moment value →
          start + first.nanoseconds < moment
      · rw [guardedHead_of_late hlate]
        exact t.earliest_of_late hlate
      · simp only [not_forall, Nat.not_lt] at hlate
        obtain ⟨moment, given, hhead, htime⟩ := hlate
        rw [guardedHead_of_inTime hhead htime]
        refine earliest_natural ?_
        rintro other ⟨⟩ hnone
        cases given with
        | error cause => exact ⟨moment, _, natural_of_fault (.inl hhead), htime⟩
        | ok head =>
            have hlt := hnone moment ⟨head, hhead⟩
            omega

/-- Every timeline is decided by the earliest of what can end it. -/
theorem earliest_settle (clock : Pending Unit) (first whole : Duration) :
    (Pending.ofPair (t.settle clock first whole)).Earliest (t.Ends clock first whole) :=
  (t.earliest_complete clock first).limit whole.nanoseconds (.error .overdue)

theorem connected_le {start : Nat} (h : t.connected = .arrives start ()) :
    ∀ moment ∈ t.connections, start ≤ moment := by
  intro moment hmoment
  have hsorted := t.connections_lt
  unfold connected at h
  split at h
  · cases h
  · rename_i first later hconnections
    cases h
    rw [hconnections] at hmoment hsorted
    rcases List.mem_cons.mp hmoment with rfl | hlater
    · exact Nat.le_refl moment
    · exact Nat.le_of_lt ((List.pairwise_cons.mp hsorted).1 moment hlater)

end Timeline

namespace Progress

theorem isHandedOver_connected {p : Progress} (h : p.hasBody = false) :
    p.connected.isHandedOver = true := by
  rcases p with ⟨hasBody, stage⟩
  cases h
  cases stage <;> rfl

end Progress

namespace Course

theorem handedOver_none (c : Course) : c.handedOver none = c.connected := by
  unfold handedOver connected
  cases c.connections with
  | nil => rfl
  | cons moment later =>
      unfold Progress.handedOver
      simp only [Progress.transmit_none]
      exact if_pos (Progress.isHandedOver_connected rfl)

end Course

namespace Network

/-- The parts of a course follow one another. -/
structure Ordered (start : Nat) (c : Course) : Prop where
  start_le : ∀ moment ∈ c.connections, start ≤ moment
  connections : c.connections.Pairwise (· < ·)
  start_le_head : ∀ moment value, c.head = .arrives moment value → start ≤ moment
  head_le_body : ∀ m n first second,
    c.head = .arrives m first → c.body = .arrives n second → m ≤ n
  arrival_lt_head : ∀ receipt ∈ c.receipts.head?, ∀ moment value,
    c.head = .arrives moment value → receipt.1 < moment

theorem course_ordered (trusted : List Anchor) (limit : Duration) (left : Nat) (n : Network)
    (start : Nat) (r : Http.Request) :
    Ordered start (course trusted limit left n start r) := by
  refine course_induction (motive := fun _ start _ c => Ordered start c) ?_ ?_ ?_ left n start r
  · intro n start r moment fault hstart
    refine ⟨?_, .nil, ?_, ?_, ?_⟩
    · rintro m ⟨⟩
    · rintro m value ⟨⟩
      exact hstart
    · rintro m n first second _ ⟨⟩
    · rintro receipt ⟨⟩
  · intro n start r c arrival hsingle hreceipts
    obtain ⟨connected, hconnections, hstart, hconnected⟩ := hsingle.connection
    refine ⟨?_, ?_, ?_, ?_, ?_⟩
    · simp [hconnections, hstart]
    · simp [hconnections]
    · intro m value hhead
      have hlt := hsingle.head m value hhead
      omega
    · intro m n first second hhead hbody
      obtain ⟨earlier, head, hearlier, hle⟩ := hsingle.body n second hbody
      rw [hhead] at hearlier
      cases hearlier
      exact hle
    · intro receipt hreceipt m value hhead
      rw [hreceipts] at hreceipt
      cases hreceipt
      exact hsingle.head m value hhead
  · intro n start r connected arrival moment head again later hstart hconnected hmoment _ ih
    refine ⟨?_, ?_, ?_, ih.head_le_body, ?_⟩
    · intro m hm
      rcases List.mem_cons.mp hm with rfl | hm
      · exact hstart
      · have hle := ih.start_le m hm
        omega
    · refine List.pairwise_cons.mpr ⟨?_, ih.connections⟩
      intro m hm
      have hle := ih.start_le m hm
      omega
    · intro m value hhead
      have hle := ih.start_le_head m value hhead
      omega
    · rintro receipt ⟨⟩ m value hhead
      have hle := ih.start_le_head m value hhead
      exact Nat.lt_of_lt_of_le hmoment hle

theorem ordered_failed (moment : Nat) (cause : Cause) :
    Ordered moment (.failed moment cause) := by
  refine ⟨?_, .nil, ?_, ?_, ?_⟩
  · rintro m ⟨⟩
  · rintro m value ⟨⟩
    exact Nat.le_refl moment
  · rintro m n first second _ ⟨⟩
  · rintro receipt ⟨⟩

end Network

namespace Client

variable {α : Type}

theorem course_ordered (c : Client) (op : Operation α) (s : Session) :
    ∃ start, Network.Ordered start (c.course op s) := by
  rcases c.course_cases op s with
    ⟨moment, cause, hcourse⟩ | ⟨moment, body, request, -, -, hcourse⟩
  · rw [hcourse]
    exact ⟨moment, Network.ordered_failed moment cause⟩
  · rw [hcourse]
    exact ⟨moment, Network.course_ordered ..⟩

def timeline (c : Client) (op : Operation α) (s : Session) : Timeline where
  toCourse := c.course op s
  connections_lt := by
    obtain ⟨start, h⟩ := c.course_ordered op s
    exact h.connections
  head_le_body := by
    obtain ⟨start, h⟩ := c.course_ordered op s
    exact h.head_le_body

/-- What comes of an operation whose exchange ends so, and the event that this leaves. -/
def upshot (c : Client) (op : Operation α) :
    Except Interruption (Http.Head × List UInt8) → Except Failure α × AuditEvent
  | .ok received =>
    let response := Operation.responseOf received
    (op.judge response, .completed op.url response)
  | .error .overdue =>
    (.error (.timedOut .endToEnd c.timeouts.endToEnd op.url .deadline), .failed op.url .deadline)
  | .error .noHead =>
    (.error (.timedOut .firstByte c.timeouts.firstByte op.url .deadline), .failed op.url .deadline)
  | .error (.fault cause) => (.error (c.failureFor op.url cause), .failed op.url cause)

theorem run_conclude (c : Client) (op : Operation α)
    (ending : Except Interruption (Http.Head × List UInt8)) (s : Session) :
    (c.conclude op (ending.map Operation.responseOf)).run s =
      ((c.upshot op ending).1, s.audited (c.upshot op ending).2) := by
  match ending with
  | .ok received => rfl
  | .error .overdue => rfl
  | .error .noHead => rfl
  | .error (.fault cause) => exact c.run_conclude_fault op cause s

theorem run_follow (c : Client) (op : Operation α) (course : Course) (s : Session)
    {decision : Nat × Except Interruption (Http.Head × List UInt8)}
    (h : course.settle (course.handedOver (op.content? s.environment.files))
      c.timeouts.firstByte c.timeouts.endToEnd = decision) :
    (c.follow op course).run s =
      ((c.upshot op decision.2).1,
        ((Session.receive course decision.1).run s).2.audited (c.upshot op decision.2).2) := by
  have hrun : (c.follow op course).run s =
      (c.conclude op (decision.2.map Operation.responseOf)).run
        ((Session.receive course decision.1).run s).2 := by
    rw [← h]
    rfl
  rw [hrun, run_conclude]

theorem run_follow_decided (c : Client) (op : Operation α) (t : Timeline) (s : Session)
    {clock : Pending Unit} (hclock : t.handedOver (op.content? s.environment.files) = clock) :
    ∃ moment ending,
      (Pending.arrives moment ending).Earliest
        (t.Ends clock c.timeouts.firstByte c.timeouts.endToEnd) ∧
      ((c.follow op t.toCourse).run s).1 = (c.upshot op ending).1 ∧
      ((c.follow op t.toCourse).run s).2.trail = s.trail ++ [(c.upshot op ending).2] := by
  have hsettle : t.settle (t.handedOver (op.content? s.environment.files)) c.timeouts.firstByte
      c.timeouts.endToEnd = t.settle clock c.timeouts.firstByte c.timeouts.endToEnd := by
    rw [hclock]
  refine ⟨_, _, t.earliest_settle clock c.timeouts.firstByte c.timeouts.endToEnd, ?_⟩
  rw [c.run_follow op t.toCourse s hsettle]
  exact ⟨rfl, rfl⟩

/-- A request without a body is decided by the earliest of its limits, a fault, and the response.
The limit on the head counts from the first connection. -/
theorem latest_decided (c : Client) :
    (∀ (t : Timeline) (s : Session),
      (∀ start, t.connected = .arrives start () → ∀ moment ∈ t.connections, start ≤ moment) ∧
      ∃ moment ending,
        (Pending.arrives moment ending).Earliest
          (t.Ends t.connected c.timeouts.firstByte c.timeouts.endToEnd) ∧
        ((c.follow (.latest c.api c.repository) t.toCourse).run s).1 =
          (c.upshot (.latest c.api c.repository) ending).1 ∧
        ((c.follow (.latest c.api c.repository) t.toCourse).run s).2.trail =
          s.trail ++ [(c.upshot (.latest c.api c.repository) ending).2]) ∧
    ∀ s : Session,
      c.latest.run s =
        (c.follow (.latest c.api c.repository)
          (c.timeline (.latest c.api c.repository) s).toCourse).run
          (s.logged (submission (.latest c.api c.repository))) := by
  constructor
  · intro t s
    exact ⟨fun start => t.connected_le,
      c.run_follow_decided (.latest c.api c.repository) t s t.handedOver_none⟩
  · intro s
    rfl

end Client

end ReleaseLine
