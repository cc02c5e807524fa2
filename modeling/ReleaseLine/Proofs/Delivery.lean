import ReleaseLine.Course

namespace ReleaseLine

namespace Pending

variable {α β : Type}

theorem map_eq_arrives_iff {f : α → β} {p : Pending α} {moment : Nat} {value : β} :
    p.map f = .arrives moment value ↔ ∃ a, p = .arrives moment a ∧ f a = value := by
  cases p with
  | never => simp [map]
  | arrives m a => simp only [map, arrives.injEq]; grind

theorem andThen_eq_arrives_iff {p : Pending α} {next : Nat → α → Pending β} {moment : Nat}
    {value : β} :
    p.andThen next = .arrives moment value ↔
      ∃ m a, p = .arrives m a ∧ next m a = .arrives moment value := by
  cases p with
  | never => simp [andThen]
  | arrives m a => simp only [andThen, arrives.injEq]; grind

theorem of_race_inl {p : Pending α} {q : Pending β} {moment : Nat} {a : α}
    (h : p.race q = .arrives moment (.inl a)) : p = .arrives moment a := by
  unfold race at h
  split at h
  · obtain ⟨a', rfl, ⟨⟩⟩ := map_eq_arrives_iff.mp h
    rfl
  · obtain ⟨b, -, ⟨⟩⟩ := map_eq_arrives_iff.mp h
  · split at h
    · cases h
      rfl
    · cases h

theorem arrives_of_limit {p : Pending α} {deadline : Nat} {late value : α}
    (h : (p.limit deadline late).2 = value) (hlate : value ≠ late) :
    p = .arrives (p.limit deadline late).1 value := by
  cases p with
  | never => exact absurd h.symm hlate
  | arrives m a =>
      by_cases hle : m ≤ deadline
      · simp only [limit, if_pos hle] at h ⊢
        rw [h]
      · simp only [limit, if_neg hle] at h
        exact absurd h.symm hlate

theorem le_limit {p : Pending α} {deadline start : Nat} {late : α} (hdeadline : start ≤ deadline)
    (h : ∀ moment value, p = .arrives moment value → start ≤ moment) :
    start ≤ (p.limit deadline late).1 := by
  cases p with
  | never => exact hdeadline
  | arrives moment value =>
      by_cases hle : moment ≤ deadline
      · simpa only [limit, if_pos hle] using h moment value rfl
      · simpa only [limit, if_neg hle] using hdeadline

end Pending

namespace Stream

variable {α : Type}

theorem le_of_readFrom {read : List UInt8 → Bool → Http.Reading α} {closes : Bool}
    {start moment : Nat} {bytes : List UInt8} {later : List (Nat × List UInt8)}
    {value : Except TransportFault (α × Stream)}
    (h : readFrom read closes start bytes later = .arrives moment value) : start ≤ moment := by
  induction later generalizing start bytes with
  | nil =>
      unfold readFrom at h
      split at h
      · exact Nat.le_of_eq (Pending.arrives.inj h).1
      · exact Nat.le_of_eq (Pending.arrives.inj h).1
      · split at h
        · exact Nat.le_of_eq (Pending.arrives.inj h).1
        · cases h
  | cons piece later ih =>
      unfold readFrom at h
      split at h
      · exact Nat.le_of_eq (Pending.arrives.inj h).1
      · exact Nat.le_of_eq (Pending.arrives.inj h).1
      · exact Nat.le_trans (Nat.le_add_right ..) (ih h)

theorem moment_of_readFrom {read : List UInt8 → Bool → Http.Reading α} {closes : Bool}
    {start moment : Nat} {bytes : List UInt8} {later : List (Nat × List UInt8)} {a : α}
    {rest : Stream}
    (h : readFrom read closes start bytes later = .arrives moment (.ok (a, rest))) :
    rest.moment = moment := by
  induction later generalizing start bytes with
  | nil =>
      unfold readFrom at h
      split at h
      · obtain ⟨hmoment, hvalue⟩ := Pending.arrives.inj h
        cases hvalue
        exact hmoment
      · cases h
      · split at h <;> cases h
  | cons piece later ih =>
      unfold readFrom at h
      split at h
      · obtain ⟨hmoment, hvalue⟩ := Pending.arrives.inj h
        cases hvalue
        exact hmoment
      · cases h
      · exact ih h

end Stream

namespace Network

theorem le_attempt {n : Network} {trusted : List Anchor} {url : Url} {start moment : Nat}
    {value : Except TransportFault Unit}
    (h : n.attempt trusted url start = .arrives moment value) : start ≤ moment := by
  unfold attempt at h
  dsimp only at h
  grind

theorem le_reach (n : Network) (trusted : List Anchor) (limit : Duration) (start : Nat)
    (url : Url) : start ≤ (n.reach trusted limit start url).1 := by
  unfold reach
  split
  · exact Pending.le_limit (Nat.le_add_right ..) fun moment value => le_attempt
  · exact Nat.le_refl start

end Network

namespace Course

/-- A cause prevents the head or the body of a response. -/
def Fault (c : Course) (cause : Cause) : Prop :=
  (∃ moment, c.head = .arrives moment (.error cause)) ∨
    ∃ moment, c.body = .arrives moment (.error cause)

theorem cause_of_failed {moment : Nat} {other cause : Cause}
    (h : (failed moment other).Fault cause) : cause = other := by
  rcases h with ⟨m, hhead⟩ | ⟨m, hbody⟩
  · cases hhead
    rfl
  · cases hbody

theorem fault_of_guardedHead {c : Course} {handedOver : Pending Unit} {limit : Duration}
    {moment : Nat} {cause : Cause}
    (h : c.guardedHead handedOver limit = .arrives moment (.error (.fault cause))) :
    c.Fault cause := by
  have hmap {m : Nat} (hm : c.head.map (·.mapError Interruption.fault) =
      .arrives m (.error (.fault cause))) : c.Fault cause := by
    obtain ⟨head, hhead, herror⟩ := Pending.map_eq_arrives_iff.mp hm
    cases head with
    | ok head => cases herror
    | error other =>
        cases herror
        exact .inl ⟨m, hhead⟩
  obtain ⟨m, first, hrace, hfirst⟩ := Pending.andThen_eq_arrives_iff.mp h
  cases first with
  | inl result =>
      obtain ⟨-, rfl⟩ := Pending.arrives.inj hfirst
      exact hmap (Pending.of_race_inl hrace)
  | inr _ => exact hmap (Pending.arrives_of_limit (Pending.arrives.inj hfirst).2 (by simp))

theorem fault_of_settle {c : Course} {handedOver : Pending Unit} {headLimit endToEnd : Duration}
    {cause : Cause} (h : (c.settle handedOver headLimit endToEnd).2 = .error (.fault cause)) :
    c.Fault cause := by
  obtain ⟨m, result, hhead, hnext⟩ :=
    Pending.andThen_eq_arrives_iff.mp (Pending.arrives_of_limit h (by simp))
  cases result with
  | error interruption =>
      obtain ⟨-, hvalue⟩ := Pending.arrives.inj hnext
      cases hvalue
      exact fault_of_guardedHead hhead
  | ok head =>
      obtain ⟨body, hbody, hvalue⟩ := Pending.map_eq_arrives_iff.mp hnext
      cases body with
      | ok body => cases hvalue
      | error other =>
          cases hvalue
          exact .inr ⟨_, hbody⟩

theorem body_of_settle {c : Course} {handedOver : Pending Unit} {headLimit endToEnd : Duration}
    {received : Http.Head × List UInt8}
    (h : (c.settle handedOver headLimit endToEnd).2 = .ok received) :
    ∃ value, c.body = .arrives (c.settle handedOver headLimit endToEnd).1 value := by
  obtain ⟨m, result, -, hnext⟩ :=
    Pending.andThen_eq_arrives_iff.mp (Pending.arrives_of_limit h (by simp))
  cases result with
  | error interruption => cases (Pending.arrives.inj hnext).2
  | ok head =>
      obtain ⟨body, hbody, -⟩ := Pending.map_eq_arrives_iff.mp hnext
      exact ⟨body, hbody⟩

end Course

namespace Http.Request

theorem redirected_of_next? {r again : Request} {head : Head} (h : r.next? head = some again) :
    ∃ same url, r.redirected? head.status = some same ∧
      again = { same with url := url, referrer := some r.url } := by
  unfold next? at h
  obtain ⟨same, hsame, h⟩ := Option.bind_eq_some_iff.mp h
  obtain ⟨location, -, h⟩ := Option.bind_eq_some_iff.mp h
  obtain ⟨text, -, h⟩ := Option.bind_eq_some_iff.mp h
  obtain ⟨url, -, h⟩ := Option.bind_eq_some_iff.mp h
  split at h
  · cases h
    exact ⟨same, url, hsame, rfl⟩
  · cases h

/-- Only a body keeps a request from being repeated as it is: whatever follows a request that looks,
or one that carries a body, looks. -/
theorem method_of_next? {r again : Request} {head : Head} (h : r.next? head = some again)
    (hbody : r.method = .post → r.body.isSome) : again.method = .get := by
  obtain ⟨same, url, hsame, rfl⟩ := redirected_of_next? h
  change same.method = .get
  unfold redirected? at hsame
  cases hr : r.method with
  | get => grind [asGet]
  | post => grind [asGet]

end Http.Request

namespace Network

variable {trusted : List Anchor} {limit : Duration}

/-- A course that the request that was made decides. It is connected, the request arrives, and the
head and the body of the response come, in this order. -/
structure Single (start arrival : Nat) (c : Course) : Prop where
  connection : ∃ connected, c.connections = [connected] ∧ start ≤ connected ∧ connected < arrival
  head : ∀ moment value, c.head = .arrives moment value → arrival < moment
  body : ∀ moment value, c.body = .arrives moment value →
    ∃ earlier head, c.head = .arrives earlier head ∧ earlier ≤ moment
  transport : ∀ cause, c.Fault cause → ∃ fault, cause = .transport fault

/-- A property holds of the course of every request if it holds where the host is not reached, where
the request arrives and decides the course, and, given that it holds of the course of the request
that follows, where a redirect is followed. -/
theorem course_induction {motive : Network → Nat → Http.Request → Course → Prop}
    (unreached : ∀ n start r moment fault, start ≤ moment →
      motive n start r (.failed moment (.transport fault)))
    (decided : ∀ n start r c arrival, Single start arrival c →
      c.receipts = [(arrival, receiptOf r n.reply.takesBody)] → motive n start r c)
    (redirected : ∀ n start r connected arrival moment head again later, start ≤ connected →
      connected < arrival → arrival < moment → r.next? head = some again →
      motive n.advance moment again later →
      motive n start r
        { later with
          connections := connected :: later.connections
          receipts := (arrival, receiptOf r n.reply.takesBody) :: later.receipts })
    (left : Nat) (n : Network) (start : Nat) (r : Http.Request) :
    motive n start r (course trusted limit left n start r) := by
  have hstart {n : Network} {start moment : Nat} {r : Http.Request}
      {value : Except TransportFault Unit}
      (h : n.reach trusted limit start r.url = (moment, value)) : start ≤ moment := by
    have hreach := n.le_reach trusted limit start r.url
    rwa [h] at hreach
  -- A request that arrives decides the course by a head or by what prevents one.
  have hdecided {n : Network} {start connected arrival : Nat} {r : Http.Request}
      {head : Pending (Except Cause Http.Head)}
      (hreach : n.reach trusted limit start r.url = (connected, .ok ()))
      (harrival : arrival = connected + 1 + n.reply.patience)
      (hhead : ∀ moment value, head = .arrives moment value → arrival < moment)
      (hfault : ∀ moment cause, head = .arrives moment (.error cause) →
        ∃ fault, cause = .transport fault) :
      motive n start r ⟨[connected], [(arrival, receiptOf r n.reply.takesBody)], head, .never⟩ := by
    refine decided n start r _ arrival ⟨⟨connected, rfl, hstart hreach, by omega⟩, hhead, ?_, ?_⟩
      rfl
    · rintro moment value ⟨⟩
    · rintro cause (⟨m, hcause⟩ | ⟨m, ⟨⟩⟩)
      exact hfault m cause hcause
  fun_induction course trusted limit left n start r with
  | case1 left n start r moment fault hreach =>
      exact unreached n start r moment fault (hstart hreach)
  | case2 left n start r connected hreach => exact hdecided hreach rfl (by simp) (by simp)
  | case3 left n start r connected hreach reply arrival receipt stream ends fails moment fault
      hread =>
      have hmoment : arrival + 1 ≤ moment := Stream.le_of_readFrom hread
      refine hdecided hreach rfl ?_ ?_
      · rintro m value ⟨⟩
        omega
      · rintro m cause ⟨⟩
        exact ⟨fault, rfl⟩
  | case4 left n start r connected hreach reply arrival receipt stream ends moment head framing
      rest hread hnext =>
      have hmoment : arrival + 1 ≤ moment := Stream.le_of_readFrom hread
      have hrest : rest.moment = moment := Stream.moment_of_readFrom hread
      refine decided n start r _ arrival
        ⟨⟨connected, rfl, hstart hreach, by omega⟩, ?_, ?_, ?_⟩ rfl
      · rintro m value ⟨⟩
        omega
      · intro m value hbody
        obtain ⟨body, hbody, -⟩ := Pending.map_eq_arrives_iff.mp hbody
        have hlater : rest.moment ≤ m := Stream.le_of_readFrom hbody
        exact ⟨moment, .ok head, rfl, by omega⟩
      · rintro cause (⟨m, hhead⟩ | ⟨m, hbody⟩)
        · cases hhead
        · obtain ⟨body, -, hvalue⟩ := Pending.map_eq_arrives_iff.mp hbody
          cases body with
          | ok body => cases hvalue
          | error fault =>
              cases hvalue
              exact ⟨fault, rfl⟩
  | case5 n start r connected hreach reply arrival receipt stream ends fails moment head framing
      rest hread again hnext =>
      have hmoment : arrival + 1 ≤ moment := Stream.le_of_readFrom hread
      refine hdecided hreach rfl ?_ ?_
      · rintro m value ⟨⟩
        omega
      · rintro m cause ⟨⟩
        exact ⟨_, rfl⟩
  | case6 n start r connected hreach reply arrival receipt stream moment head framing rest hread
      again left hnext later ih =>
      have hmoment : arrival + 1 ≤ moment := Stream.le_of_readFrom hread
      exact redirected n start r connected arrival moment head again later (hstart hreach)
        (by omega) (by omega) hnext ih

/-- What holds of the course of every request. -/
structure Delivers (n : Network) (start : Nat) (r : Http.Request) (c : Course) : Prop where
  /-- Only the transport prevents a response. -/
  transport : ∀ cause, c.Fault cause → ∃ fault, cause = .transport fault
  /-- The body of a response comes after its request was made. -/
  le_body : ∀ moment value, c.body = .arrives moment value → start ≤ moment
  /-- A request that looks leads only to requests that look. -/
  get : r.method = .get → ∀ receipt ∈ c.receipts, receipt.2.method = .get
  /-- If anything arrives, the request that was made arrives first, before any body comes back, and
  whatever follows only looks. -/
  receipts : (r.method = .post → r.body.isSome) →
    c.receipts = [] ∧ c.body = .never ∨
      ∃ arrival later,
        c.receipts = (arrival, receiptOf r n.reply.takesBody) :: later ∧
          (∀ receipt ∈ later, receipt.2.method = .get) ∧
          ∀ moment value, c.body = .arrives moment value → arrival ≤ moment

theorem course_delivers (trusted : List Anchor) (limit : Duration) (left : Nat) (n : Network)
    (start : Nat) (r : Http.Request) :
    Delivers n start r (course trusted limit left n start r) := by
  refine course_induction ?_ ?_ ?_ left n start r
  · intro n start r moment fault _
    refine ⟨?_, ?_, ?_, fun _ => .inl ⟨rfl, rfl⟩⟩
    · intro cause h
      exact ⟨fault, Course.cause_of_failed h⟩
    · rintro m value ⟨⟩
    · rintro _ receipt ⟨⟩
  · intro n start r c arrival hsingle hreceipts
    obtain ⟨connected, -, hstart, hconnected⟩ := hsingle.connection
    have hbody : ∀ moment value, c.body = .arrives moment value → arrival ≤ moment := by
      intro moment value h
      obtain ⟨earlier, head, hhead, hle⟩ := hsingle.body moment value h
      have hlt := hsingle.head earlier head hhead
      omega
    refine ⟨hsingle.transport, ?_, ?_, fun _ => .inr ⟨arrival, [], hreceipts, by simp, hbody⟩⟩
    · intro m value h
      have hle := hbody m value h
      omega
    · intro hget receipt h
      rw [hreceipts, List.mem_singleton] at h
      rw [h]
      exact hget
  · intro n start r connected arrival moment head again later hstart hconnected hmoment hnext ih
    have hlater : (r.method = .post → r.body.isSome) →
        ∀ receipt ∈ later.receipts, receipt.2.method = .get := fun hpost =>
      ih.get (Http.Request.method_of_next? hnext hpost)
    have hbody : ∀ m value, later.body = .arrives m value → arrival ≤ m := by
      intro m value h
      have hle := ih.le_body m value h
      omega
    refine ⟨ih.transport, ?_, ?_, fun hpost => .inr ⟨arrival, _, rfl, hlater hpost, hbody⟩⟩
    · intro m value h
      have hle := hbody m value h
      omega
    · intro hget receipt h
      rcases List.mem_cons.mp h with rfl | h
      · exact hget
      · exact hlater (by simp [hget]) receipt h

end Network

end ReleaseLine
