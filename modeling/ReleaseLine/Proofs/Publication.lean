import ReleaseLine.Proofs.AuditTrail
import ReleaseLine.Proofs.CommandRun
import ReleaseLine.Proofs.Decoding
import ReleaseLine.Proofs.Query
import ReleaseLine.Proofs.Reading
import ReleaseLine.Proofs.ReleasePath

/-!
What publishing does to the world. Nothing happens before everything is checked; then at most one
release is created, and at most one artifact attached to this same release, and success is told
just where both were done.
-/

namespace ReleaseLine

/-- What an operation leaves in a session, besides the log. -/
structure Client.Leaves {α : Type} (c : Client) (op : Operation α) (s t : Session) : Prop where
  environment : t.environment = s.environment
  network : t.network = (c.exchanged op s).network
  receipts : t.receipts = s.receipts ++ c.arrivals op s
  trail : ∃ event, event.url = op.url ∧ t.trail = s.trail ++ [event]
  printed : t.printed = s.printed

theorem Client.leaves_perform {α : Type} {c : Client} {op : Operation α} {s t : Session}
    {result : Except Failure α} (h : (c.perform op).run s = (result, t)) : c.Leaves op s t := by
  obtain ⟨outcome, event, hrun, hagrees⟩ := c.run_perform_agrees op s
  rw [h] at hrun
  cases hrun
  exact ⟨rfl, rfl, rfl, ⟨event, hagrees.url_eq, rfl⟩, rfl⟩

namespace Client.Leaves

variable {α : Type} {c : Client} {op : Operation α} {s s' t t' : Session}

theorem of_alike (hs : s.Alike s') (h : c.Leaves op s' t) : c.Leaves op s t := by
  have hexchanged := c.alike_exchanged op hs
  refine ⟨h.environment.trans hs.environment, h.network.trans hexchanged.network,
    h.receipts.trans hexchanged.receipts, ?_, h.printed.trans hs.printed⟩
  obtain ⟨event, hurl, htrail⟩ := h.trail
  exact ⟨event, hurl, by rw [htrail, hs.trail]⟩

theorem alike (h : c.Leaves op s t) (ht : t.Alike t') : c.Leaves op s t' := by
  refine ⟨ht.environment.trans h.environment, ht.network.trans h.network,
    ht.receipts.trans h.receipts, ?_, ht.printed.trans h.printed⟩
  obtain ⟨event, hurl, htrail⟩ := h.trail
  exact ⟨event, hurl, by rw [ht.trail, htrail]⟩

end Client.Leaves

/-- The path in the target of a request, with what names the server before it. -/
def Receipt.path (receipt : Receipt) : List Char := (Url.splitAtChar '?' receipt.target.toList).1

namespace Operation

variable {α : Type} {op op' : Operation α}

theorem address_path (op : Operation α) : op.address.path = op.url.path := by
  unfold address
  split
  · rfl
  · rfl

theorem Arrives.path_eq {files : FileTree} {receipt : Receipt} (h : op.Arrives files receipt)
    (hplace : '?' ∉ op.url.pathText.toList) {list : List String}
    (hpath : op.address.path = .segments list) :
    receipt.path =
      op.address.originText.toList ++ list.flatMap fun segment => '/' :: segment.toList := by
  have htext : op.address.pathText = op.url.pathText := by
    unfold Url.pathText
    rw [address_path]
  have hfront : '?' ∉ (op.address.originText ++ op.address.pathText).toList := by
    simp [h.closed, htext, hplace]
  unfold Receipt.path
  rw [h.placed, String.toList_append, Url.splitAtChar_queryText hfront, String.toList_append,
    Url.toList_pathText_of_segments hpath]

theorem originText_address_eq (hscheme : op.url.scheme = op'.url.scheme)
    (hauthority : op.url.authority = op'.url.authority) {front rest rest' : List String}
    {first second second' : String} (hfirst : first ≠ "")
    (hpath : op.address.path = .segments (front ++ first :: second :: rest))
    (hpath' : op'.address.path = .segments (front ++ first :: second' :: rest')) :
    op.address.originText = op'.address.originText := by
  have hcredentials : basicCredentials? op.url = basicCredentials? op'.url := by
    unfold basicCredentials?
    rw [hauthority]
  have haddress : op.address.scheme = op'.address.scheme ∧
      op.address.authority = op'.address.authority := by
    unfold address
    rw [hcredentials]
    split
    · exact ⟨hscheme, congrArg (Option.map _) hauthority⟩
    · exact ⟨hscheme, hauthority⟩
  unfold Url.originText
  rw [Url.authorityText_eq hpath hfirst, Url.authorityText_eq hpath' hfirst, haddress.1,
    haddress.2]

end Operation

namespace PublishingClient

/-- Create the release of a version. -/
def creation (c : PublishingClient) (v : ReleaseVersion) : Operation ReleaseId :=
  (Call.create v).operation c

/-- Attach an artifact to the release with an identifier. -/
def attachment (c : PublishingClient) (n : Nat) (artifact : Artifact) : Operation Unit :=
  (Call.upload ⟨toString n⟩ artifact).operation c

theorem creation_method (c : PublishingClient) (v : ReleaseVersion) :
    (c.creation v).method = .post := rfl

theorem attachment_method (c : PublishingClient) (n : Nat) (artifact : Artifact) :
    (c.attachment n artifact).method = .post := rfl

theorem exists_path_creation {c : PublishingClient} (h : c.api.isRootless = false)
    (v : ReleaseVersion) :
    ∃ front, (c.creation v).address.path = .segments (front ++ ["releases"]) := by
  obtain ⟨front, hpath⟩ := exists_path_releasesUrl h c.repository
  refine ⟨front, ?_⟩
  rw [Operation.address_path]
  exact hpath [] (by simp)

theorem exists_path_attachment {c : PublishingClient} (h : c.uploads.isRootless = false)
    (artifact : Artifact) :
    ∃ front, ∀ n, (c.attachment n artifact).address.path =
      .segments (front ++ ["releases", toString n, "assets"]) := by
  obtain ⟨front, hpath⟩ := exists_path_releasesUrl h c.repository
  refine ⟨front, fun n => ?_⟩
  rw [Operation.address_path]
  exact hpath _ (isPlain_of_mem_assets n)

theorem exists_path_of_creation {c : PublishingClient} {text : String}
    (h : Config.baseUrl text = .ok c.api) (v : ReleaseVersion) :
    ∃ front, ∀ files p, (c.creation v).Arrives files p → p.path = front ++ "/releases".toList := by
  obtain ⟨front, hpath⟩ := exists_path_creation (of_baseUrl h).2 v
  have hplace := notMem_pathText_releasesUrl h c.repository []
  refine ⟨(c.creation v).address.originText.toList ++
    front.flatMap fun segment => '/' :: segment.toList, fun files p hp => ?_⟩
  rw [hp.path_eq hplace hpath]
  simp

/-- The digits of the identifier stand in the target of what arrives, and nothing else in the path
there depends on it. -/
theorem exists_path_of_attachment {c : PublishingClient} {text : String}
    (h : Config.baseUrl text = .ok c.uploads) (artifact : Artifact) :
    ∃ front, ∀ n files q, (c.attachment n artifact).Arrives files q →
      q.path = front ++ ("/releases/" ++ toString n ++ "/assets").toList := by
  obtain ⟨front, hpath⟩ := exists_path_attachment (of_baseUrl h).2 artifact
  refine ⟨(c.attachment 0 artifact).address.originText.toList ++
    front.flatMap fun segment => '/' :: segment.toList, fun n files q hq => ?_⟩
  have hplace := notMem_pathText_releasesUrl h c.repository [toString n, "assets"]
  have hbase (m : Nat) : (c.attachment m artifact).url.scheme = c.uploads.scheme ∧
      (c.attachment m artifact).url.authority = c.uploads.authority := by
    obtain ⟨path, hurl⟩ := releasesUrl_eq c.uploads c.repository [toString m, "assets"]
    have hscheme := congrArg Url.scheme hurl
    have hauthority := congrArg Url.authority hurl
    exact ⟨hscheme, hauthority⟩
  have horigin : (c.attachment n artifact).address.originText =
      (c.attachment 0 artifact).address.originText :=
    Operation.originText_address_eq ((hbase n).1.trans (hbase 0).1.symm)
      ((hbase n).2.trans (hbase 0).2.symm) (by decide) (hpath n) (hpath 0)
  rw [hq.path_eq hplace (hpath n), horigin]
  simp

/-- The exchange that creates a release ends with the status for it and an identifier. -/
def Creates (c : PublishingClient) (v : ReleaseVersion) (s : Session) (n : Nat) : Prop :=
  ∃ response, c.toClient.ending (c.creation v) s = .ok response ∧ response.status = 201 ∧
    Listing.createdId response.body = .ok n

/-- The exchange that attaches an artifact ends with the status for it. -/
def Attaches (c : PublishingClient) (n : Nat) (artifact : Artifact) (s : Session) : Prop :=
  ∃ response, c.toClient.ending (c.attachment n artifact) s = .ok response ∧
    response.status = 201

/-- Both exchanges of a publication succeed, the second one right after the first. -/
def Succeeds (c : PublishingClient) (v : ReleaseVersion) (artifact : Artifact) (s : Session)
    (n : Nat) : Prop :=
  c.Creates v s n ∧ c.Attaches n artifact (c.toClient.exchanged (c.creation v) s)

variable {c : PublishingClient}

theorem Creates.lt {v : ReleaseVersion} {s : Session} {n : Nat} (h : c.Creates v s n) :
    n < UInt64.size := by
  obtain ⟨response, -, -, hid⟩ := h
  exact Listing.createdId_lt hid

theorem Creates.unique {v : ReleaseVersion} {s : Session} {n m : Nat} (hn : c.Creates v s n)
    (hm : c.Creates v s m) : n = m := by
  obtain ⟨response, hending, -, hid⟩ := hn
  obtain ⟨response', hending', -, hid'⟩ := hm
  rw [hending] at hending'
  cases hending'
  rw [hid] at hid'
  exact Except.ok.inj hid'

theorem creates_congr (c : PublishingClient) (v : ReleaseVersion) {s t : Session}
    (hfiles : s.environment.files = t.environment.files) (hnetwork : s.network = t.network)
    (n : Nat) : c.Creates v s n ↔ c.Creates v t n := by
  unfold Creates
  rw [c.toClient.ending_congr (c.creation v) hfiles hnetwork]

theorem attaches_congr (c : PublishingClient) (artifact : Artifact) {s t : Session}
    (hfiles : s.environment.files = t.environment.files) (hnetwork : s.network = t.network)
    (n : Nat) : c.Attaches n artifact s ↔ c.Attaches n artifact t := by
  unfold Attaches
  rw [c.toClient.ending_congr (c.attachment n artifact) hfiles hnetwork]

theorem readCreated_eq_ok_iff {body : String} {id : ReleaseId} :
    readCreated body = .ok id ↔ ∃ n, Listing.createdId body = .ok n ∧ id = ⟨toString n⟩ := by
  unfold readCreated
  cases hid : (Listing.createdId body).mapError Cause.json with
  | error error =>
      constructor
      · rintro ⟨⟩
      · rintro ⟨n, hn, -⟩
        rw [mapError_eq_ok_iff.mpr hn] at hid
        cases hid
  | ok n =>
      have hread := mapError_eq_ok_iff.mp hid
      constructor
      · rintro ⟨⟩
        exact ⟨n, hread, rfl⟩
      · rintro ⟨m, hm, rfl⟩
        rw [hread] at hm
        cases hm
        rfl

theorem create_eq_ok_iff (c : PublishingClient) (v : ReleaseVersion) (s : Session)
    (id : ReleaseId) :
    ((c.create v).run s).1 = .ok id ↔ ∃ n, c.Creates v s n ∧ id = ⟨toString n⟩ := by
  refine (c.toClient.run_perform_eq_ok_iff (c.creation v) s id).trans ?_
  constructor
  · rintro ⟨response, hending, hstatus, hbody⟩
    obtain ⟨n, hid, rfl⟩ := readCreated_eq_ok_iff.mp hbody
    exact ⟨n, ⟨response, hending, hstatus, hid⟩, rfl⟩
  · rintro ⟨n, ⟨response, hending, hstatus, hid⟩, rfl⟩
    exact ⟨response, hending, hstatus, readCreated_eq_ok_iff.mpr ⟨n, hid, rfl⟩⟩

theorem upload_eq_ok_iff (c : PublishingClient) (n : Nat) (artifact : Artifact) (s : Session) :
    ((c.upload ⟨toString n⟩ artifact).run s).1 = .ok () ↔ c.Attaches n artifact s := by
  refine (c.toClient.run_perform_eq_ok_iff (c.attachment n artifact) s ()).trans ?_
  constructor
  · rintro ⟨response, hending, hstatus, -⟩
    exact ⟨response, hending, hstatus⟩
  · rintro ⟨response, hending, hstatus⟩
    exact ⟨response, hending, hstatus, rfl⟩

/-- Those of the requests of a publication that may change what is there: none, the creation of the
release, or the creation and, with the identifier that came back, the attachment. -/
inductive Posts (c : PublishingClient) (v : ReleaseVersion) (artifact : Artifact) (s : Session) :
    List Receipt → Prop
  | nothing : Posts c v artifact s []
  | creation (p : Receipt) (hp : (c.creation v).Arrives s.environment.files p) :
      Posts c v artifact s [p]
  | attachment (p q : Receipt) (n : Nat) (hp : (c.creation v).Arrives s.environment.files p)
      (hcreates : c.Creates v s n) (hn : n < UInt64.size)
      (hq : (c.attachment n artifact).Arrives s.environment.files q) :
      Posts c v artifact s [p, q]

theorem Posts.of_printing {v : ReleaseVersion} {artifact : Artifact} {s : Session} {line : String}
    {receipts : List Receipt} (h : c.Posts v artifact (s.printing line) receipts) :
    c.Posts v artifact s receipts := by
  cases h with
  | nothing => exact .nothing
  | creation p hp => exact .creation p hp
  | attachment p q n hp hcreates hn hq => exact .attachment p q n hp hcreates hn hq

end PublishingClient

open PublishingClient

theorem posts_of_creates {c : PublishingClient} {v : ReleaseVersion} {artifact : Artifact}
    {s w : Session} {n : Nat} (hcreates : c.Creates v s n)
    (hw : w.environment.files = s.environment.files) :
    c.Posts v artifact s (posts (c.toClient.arrivals (c.creation v) s ++
      c.toClient.arrivals (c.attachment n artifact) w)) := by
  rw [posts_append]
  obtain ⟨response, hending, -, -⟩ := id hcreates
  rcases c.toClient.posts_arrivals_of_post s (creation_method c v) rfl with
    ⟨-, hnone⟩ | ⟨p, hposts, hp⟩
  · exact absurd hending (hnone response)
  · rw [hposts]
    rcases c.toClient.posts_arrivals_of_post w (attachment_method c n artifact) rfl with
      ⟨hposts', -⟩ | ⟨q, hposts', hq⟩
    · rw [hposts']
      exact .creation p hp
    · rw [hposts']
      rw [hw] at hq
      exact .attachment p q n hp hcreates hcreates.lt hq

/-- How publishing goes: the release is created, and then the artifact is attached to it. -/
inductive Published (c : PublishingClient) (v : ReleaseVersion) (artifact : Artifact)
    (s : Session) : Except ReleaseError ReleaseId → Session → Prop
  | notCreated (failure : Failure) (t : Session) (hleaves : c.Leaves (c.creation v) s t)
      (hnot : ∀ n, ¬ c.Creates v s n) : Published c v artifact s (.error (.publish failure)) t
  | notAttached (failure : Failure) (n : Nat) (t u : Session) (hcreates : c.Creates v s n)
      (hleaves : c.Leaves (c.creation v) s t) (hnot : ¬ c.Attaches n artifact t)
      (hleaves' : c.Leaves (c.attachment n artifact) t u) :
      Published c v artifact s (.error (.publish failure)) u
  | released (n : Nat) (t u : Session) (hcreates : c.Creates v s n)
      (hleaves : c.Leaves (c.creation v) s t) (hattaches : c.Attaches n artifact t)
      (hleaves' : c.Leaves (c.attachment n artifact) t u) :
      Published c v artifact s (.ok ⟨toString n⟩) u

/-- The calls that a publication makes: the release is created, and then the artifact attached. -/
inductive PublishingClient.Calls (c : PublishingClient) (v : ReleaseVersion) (artifact : Artifact)
    (s : Session) : Except ReleaseError ReleaseId → Session → Prop
  | notCreated (failure : Failure) (before t : Session) (hbefore : s.Alike before)
      (hcreate : (c.create v).run before = (.error failure, t)) :
      Calls c v artifact s (.error (.publish failure)) t
  | notAttached (failure : Failure) (id : ReleaseId) (before t between u : Session)
      (hbefore : s.Alike before) (hcreate : (c.create v).run before = (.ok id, t))
      (hbetween : t.Alike between)
      (hupload : (c.upload id artifact).run between = (.error failure, u)) :
      Calls c v artifact s (.error (.publish failure)) u
  | released (id : ReleaseId) (before t between u after : Session)
      (hbefore : s.Alike before) (hcreate : (c.create v).run before = (.ok id, t))
      (hbetween : t.Alike between) (hupload : (c.upload id artifact).run between = (.ok (), u))
      (hafter : u.Alike after) : Calls c v artifact s (.ok id) after

theorem calls_run (c : PublishingClient) (v : ReleaseVersion) (artifact : Artifact) (s : Session) :
    ∃ result t, (publish c.publisher (.release v) artifact).run s = (result, t) ∧
      c.Calls v artifact s result t := by
  unfold publish
  dsimp only [PublishingClient.publisher]
  rw [run_report_bind]
  generalize Log.Record.mk .info .release "Creating release" _ = record
  have hbefore := Session.Alike.logged s record
  rcases hcreate : (c.create v).run (s.logged record) with ⟨failure | id, t⟩
  · rw [run_bind_eq hcreate]
    exact ⟨_, t, rfl, .notCreated failure _ t hbefore hcreate⟩
  · rw [run_bind_eq hcreate, run_report_bind]
    generalize Log.Record.mk .info .release "Uploading artifact" _ = record'
    have hbetween := Session.Alike.logged t record'
    rcases hupload : (c.upload id artifact).run (t.logged record') with ⟨failure | done, u⟩
    · rw [run_bind_eq hupload]
      exact ⟨_, u, rfl, .notAttached failure id _ t _ u hbefore hcreate hbetween hupload⟩
    · rw [run_bind_eq hupload]
      exact ⟨_, _, rfl, .released id _ t _ u _ hbefore hcreate hbetween hupload (.logged u _)⟩

theorem PublishingClient.Calls.published {c : PublishingClient} {v : ReleaseVersion}
    {artifact : Artifact} {s t : Session} {result : Except ReleaseError ReleaseId}
    (h : c.Calls v artifact s result t) : Published c v artifact s result t := by
  -- What the two calls come to, in sessions that differ in the log.
  have hcreated {before u : Session} {created : Except Failure ReleaseId} (hbefore : s.Alike before)
      (hcreate : (c.create v).run before = (created, u)) :
      c.Leaves (c.creation v) s u ∧
        ∀ id, created = .ok id ↔ ∃ n, c.Creates v s n ∧ id = ⟨toString n⟩ := by
    refine ⟨(Client.leaves_perform hcreate).of_alike hbefore, fun id => ?_⟩
    have hiff := create_eq_ok_iff c v before id
    rw [hcreate] at hiff
    rw [hiff]
    have hfiles : before.environment.files = s.environment.files := by rw [hbefore.environment]
    simp only [creates_congr c v hfiles hbefore.network]
  have huploaded {n : Nat} {u between w : Session} {uploaded : Except Failure Unit}
      (hbetween : u.Alike between)
      (hupload : (c.upload ⟨toString n⟩ artifact).run between = (uploaded, w)) :
      c.Leaves (c.attachment n artifact) u w ∧ (uploaded = .ok () ↔ c.Attaches n artifact u) := by
    refine ⟨(Client.leaves_perform hupload).of_alike hbetween, ?_⟩
    have hiff := upload_eq_ok_iff c n artifact between
    rw [hupload] at hiff
    have hfiles : between.environment.files = u.environment.files := by rw [hbetween.environment]
    rw [hiff, attaches_congr c artifact hfiles hbetween.network]
  cases h with
  | notCreated failure before t hbefore hcreate =>
      obtain ⟨hleaves, hiff⟩ := hcreated hbefore hcreate
      refine .notCreated failure t hleaves fun n hcreates => ?_
      cases (hiff _).mpr ⟨n, hcreates, rfl⟩
  | notAttached failure id before u between t hbefore hcreate hbetween hupload =>
      obtain ⟨hleaves, hiff⟩ := hcreated hbefore hcreate
      obtain ⟨n, hcreates, rfl⟩ := (hiff id).mp rfl
      obtain ⟨hleaves', hattached⟩ := huploaded hbetween hupload
      refine .notAttached failure n u t hcreates hleaves ?_ hleaves'
      intro hattaches
      cases hattached.mpr hattaches
  | released id before u between w t hbefore hcreate hbetween hupload hafter =>
      obtain ⟨hleaves, hiff⟩ := hcreated hbefore hcreate
      obtain ⟨n, hcreates, rfl⟩ := (hiff id).mp rfl
      obtain ⟨hleaves', hattached⟩ := huploaded hbetween hupload
      exact .released n u t hcreates hleaves (hattached.mp rfl) (hleaves'.alike hafter)

namespace Published

variable {c : PublishingClient} {v : ReleaseVersion} {artifact : Artifact} {s t : Session}
  {result : Except ReleaseError ReleaseId}

theorem receipts (h : Published c v artifact s result t) :
    ∃ arrived, t.receipts = s.receipts ++ arrived ∧ c.Posts v artifact s (posts arrived) := by
  cases h with
  | notCreated failure t hleaves hnot =>
      refine ⟨_, hleaves.receipts, ?_⟩
      rcases c.toClient.posts_arrivals_of_post s (creation_method c v) rfl with
        ⟨hposts, -⟩ | ⟨p, hposts, hp⟩
      · rw [hposts]
        exact .nothing
      · rw [hposts]
        exact .creation p hp
  | notAttached failure n u t hcreates hleaves hnot hleaves' =>
      refine ⟨_, ?_, posts_of_creates hcreates (congrArg Environment.files hleaves.environment)⟩
      rw [hleaves'.receipts, hleaves.receipts, List.append_assoc]
  | released n u t hcreates hleaves hattaches hleaves' =>
      refine ⟨_, ?_, posts_of_creates hcreates (congrArg Environment.files hleaves.environment)⟩
      rw [hleaves'.receipts, hleaves.receipts, List.append_assoc]

theorem printed (h : Published c v artifact s result t) : t.printed = s.printed := by
  cases h with
  | notCreated failure t hleaves hnot => exact hleaves.printed
  | notAttached failure n u t hcreates hleaves hnot hleaves' =>
      exact hleaves'.printed.trans hleaves.printed
  | released n u t hcreates hleaves hattaches hleaves' =>
      exact hleaves'.printed.trans hleaves.printed

theorem ok_iff (h : Published c v artifact s result t) (id : ReleaseId) :
    result = .ok id ↔ ∃ n, id = ⟨toString n⟩ ∧ c.Creates v s n ∧
      c.Attaches n artifact (c.toClient.exchanged (c.creation v) s) := by
  have hafter {u : Session} (hleaves : c.Leaves (c.creation v) s u) (n : Nat) :
      c.Attaches n artifact (c.toClient.exchanged (c.creation v) s) ↔ c.Attaches n artifact u := by
    have hfiles : s.environment.files = u.environment.files := by rw [hleaves.environment]
    exact attaches_congr (s := c.toClient.exchanged (c.creation v) s) c artifact hfiles
      hleaves.network.symm n
  cases h with
  | notCreated failure t hleaves hnot =>
      constructor
      · rintro ⟨⟩
      · rintro ⟨n, -, hcreates, -⟩
        exact absurd hcreates (hnot n)
  | notAttached failure n u t hcreates hleaves hnot hleaves' =>
      constructor
      · rintro ⟨⟩
      · rintro ⟨m, -, hcreates', hattaches⟩
        obtain rfl := hcreates.unique hcreates'
        exact absurd ((hafter hleaves n).mp hattaches) hnot
  | released n u t hcreates hleaves hattaches hleaves' =>
      constructor
      · rintro ⟨⟩
        exact ⟨n, rfl, hcreates, (hafter hleaves n).mpr hattaches⟩
      · rintro ⟨m, rfl, hcreates', -⟩
        rw [hcreates.unique hcreates']

theorem failure_of_error (h : Published c v artifact s result t) {error : ReleaseError}
    (herror : result = .error error) : ∃ failure, error = .publish failure := by
  cases h with
  | notCreated failure t hleaves hnot =>
      cases herror
      exact ⟨failure, rfl⟩
  | notAttached failure n u t hcreates hleaves hnot hleaves' =>
      cases herror
      exact ⟨failure, rfl⟩
  | released n u t hcreates hleaves hattaches hleaves' => cases herror

end Published

theorem leaves_lookedUp (c : Client) {s : Session}
    (h : Config.versionOverride? s.environment = none) :
    c.Leaves (.latest c.api c.repository) s (c.lookedUp s) := by
  unfold Client.lookedUp
  rw [h]
  exact Client.leaves_perform rfl

theorem of_run_versionFor {c : Client} {s t : Session} {result : Except ReleaseError VersionNumber}
    (h : (Command.versionFor c.source).run.run s = (result, t)) :
    t.environment = s.environment ∧ t.printed = s.printed ∧
      (∃ looked, t.receipts = s.receipts ++ looked ∧ posts looked = []) ∧
      ∀ error, result = .error error →
        (∃ fault, error = .version fault) ∧ t.receipts = s.receipts := by
  obtain ⟨t', hrun, htt⟩ := run_versionFor c s
  rw [h] at hrun
  obtain ⟨rfl, rfl⟩ := Prod.mk.inj hrun
  cases hrequested : Config.versionOverride? s.environment with
  | some text =>
      rw [c.lookedUp_of_requested hrequested] at htt
      refine ⟨htt.environment, htt.printed, ⟨[], by rw [htt.receipts, List.append_nil], rfl⟩, ?_⟩
      intro error herror
      obtain ⟨-, fault, -, -, rfl⟩ := of_decidedVersion_error herror
      exact ⟨⟨fault, rfl⟩, htt.receipts⟩
  | none =>
      have hleaves := leaves_lookedUp c hrequested
      refine ⟨htt.environment.trans hleaves.environment, htt.printed.trans hleaves.printed,
        ⟨_, htt.receipts.trans hleaves.receipts, c.posts_arrivals_of_get s rfl⟩, ?_⟩
      intro error herror
      obtain ⟨text, fault, hsome, -⟩ := of_decidedVersion_error herror
      cases hsome

/-- The errors of publishing itself: it is refused, or one of its exchanges failed. -/
def ReleaseError.IsPublishing : ReleaseError → Prop
  | .developmentVersion | .publish _ => True
  | _ => False

namespace Command

/-- Everything is checked, and then the version is determined. -/
def Determined (path : String) (file : Option String) (s : Session) (config : Config)
    (client : PublishingClient) (version : VersionNumber) (u : Session) : Prop :=
  ∃ t, (prepare path file).run.run s = (.ok (config, client), t) ∧
    (versionFor client.source).run.run t = (.ok version, u)

/-- The line that is printed before an artifact is published. -/
def announcement (artifact : Artifact) (version : VersionNumber) : String :=
  "Publishing " ++ artifact.name ++ " as " ++ version.render ++ "..."

/-- The line that is printed once an artifact is published. -/
def confirmation (v : ReleaseVersion) (id : String) : String :=
  "✓ Released " ++ v.render ++ " (release id " ++ id ++ ")"

theorem runPublish_of_not_determined {path : String} {file : Option String} {s : Session}
    (h : ¬ ∃ config client version u, Determined path file s config client version u) :
    ∃ error t, (runPublish path file).run.run s = (.error error, t) ∧
      t.receipts = s.receipts ∧ t.printed = s.printed := by
  unfold runPublish
  rcases hprepare : (prepare path file).run.run s with ⟨error | ⟨config, client⟩, t⟩
  · have hst := alike_run_prepare hprepare
    exact ⟨error, t, run_bind_error hprepare, hst.receipts, hst.printed⟩
  · have hst := alike_run_prepare hprepare
    rw [run_bind_ok hprepare]
    rcases hversion : (versionFor client.source).run.run t with ⟨error | version, u⟩
    · obtain ⟨-, hprinted, -, herror⟩ := of_run_versionFor (c := client.toClient) hversion
      refine ⟨error, u, run_bind_error hversion, ?_, hprinted.trans hst.printed⟩
      exact (herror error rfl).2.trans hst.receipts
    · exact absurd ⟨config, client, version, u, t, hprepare, hversion⟩ h

theorem runPublish_of_development {path : String} {file : Option String} {s u : Session}
    {config : Config} {client : PublishingClient}
    (h : Determined path file s config client .development u) :
    (runPublish path file).run.run s = (.error .developmentVersion,
      u.printing (announcement (config.artifactOf path .development) .development)) := by
  obtain ⟨t, hprepare, hversion⟩ := h
  unfold runPublish
  rw [run_bind_ok hprepare, run_bind_ok hversion]
  rfl

theorem runPublish_of_release {path : String} {file : Option String} {s u : Session}
    {config : Config} {client : PublishingClient} {v : ReleaseVersion}
    (h : Determined path file s config client (.release v) u) {artifact : Artifact}
    (hartifact : config.artifactOf path (.release v) = artifact) :
    ∃ result t, client.Calls v artifact (u.printing (announcement artifact (.release v)))
        result t ∧
      (runPublish path file).run.run s = match result with
        | .error error => (.error error, t)
        | .ok id => (.ok (), t.printing (confirmation v id.text)) := by
  obtain ⟨t, hprepare, hversion⟩ := h
  obtain ⟨result, t', hpublish, hcalls⟩ := calls_run client v artifact
    (u.printing (announcement artifact (.release v)))
  refine ⟨result, t', hcalls, ?_⟩
  have hrun : (runPublish path file).run.run s = (do
      let id ← ExceptT.mk (ReleaseLine.publish client.publisher (.release v) artifact)
      print (confirmation v id.text) : Run Unit).run.run
        (u.printing (announcement artifact (.release v))) := by
    unfold runPublish
    rw [run_bind_ok hprepare, run_bind_ok hversion, ← hartifact]
    rfl
  rw [hrun]
  cases result with
  | error error => exact run_bind_error hpublish
  | ok id => exact run_bind_ok hpublish

theorem Determined.unique {path : String} {file : Option String} {s u u' : Session}
    {config config' : Config} {client client' : PublishingClient} {version version' : VersionNumber}
    (h : Determined path file s config client version u)
    (h' : Determined path file s config' client' version' u') :
    config' = config ∧ client' = client ∧ version' = version ∧ u' = u := by
  obtain ⟨t, hprepare, hversion⟩ := h
  obtain ⟨t', hprepare', hversion'⟩ := h'
  rw [hprepare] at hprepare'
  cases hprepare'
  rw [hversion] at hversion'
  cases hversion'
  exact ⟨rfl, rfl, rfl, rfl⟩

theorem Determined.harmless {path : String} {file : Option String} {s u : Session} {config : Config}
    {client : PublishingClient} {version : VersionNumber}
    (h : Determined path file s config client version u) :
    u.printed = s.printed ∧ ∃ looked, u.receipts = s.receipts ++ looked ∧ posts looked = [] := by
  obtain ⟨t, hprepare, hversion⟩ := h
  have hst := alike_run_prepare hprepare
  obtain ⟨-, hprinted, ⟨looked, hreceipts, hlooked⟩, -⟩ :=
    of_run_versionFor (c := client.toClient) hversion
  refine ⟨hprinted.trans hst.printed, looked, ?_, hlooked⟩
  rw [hreceipts, hst.receipts]

theorem Determined.based {path : String} {file : Option String} {s u : Session} {config : Config}
    {client : PublishingClient} {version : VersionNumber}
    (h : Determined path file s config client version u) :
    config.apiBase = .ok client.api ∧ config.uploadBase = .ok client.uploads := by
  obtain ⟨t, hprepare, -⟩ := h
  obtain ⟨-, hclient, huploads⟩ := of_run_prepare hprepare
  exact ⟨api_of_clientIn hclient, huploads⟩

/-- What a run comes to once a release is determined. -/
structure Releases (client : PublishingClient) (v : ReleaseVersion) (artifact : Artifact)
    (u : Session) (result : Except ReleaseError Unit) (arrived : List Receipt)
    (printed : String) : Prop where
  posts : client.Posts v artifact u (posts arrived)
  creation : ∃ front, (client.creation v).address.path = .segments (front ++ ["releases"])
  attachment : ∃ front, ∀ n, (client.attachment n artifact).address.path =
    .segments (front ++ ["releases", toString n, "assets"])
  created : ∃ front, ∀ files p, (client.creation v).Arrives files p →
    p.path = front ++ "/releases".toList
  attached : ∃ front, ∀ n files q, (client.attachment n artifact).Arrives files q →
    q.path = front ++ ("/releases/" ++ toString n ++ "/assets").toList
  success : result = .ok () ↔ ∃ n, client.Succeeds v artifact u n
  confirmed : ∀ n, client.Succeeds v artifact u n →
    printed = announcement artifact (.release v) ++ "\n" ++ confirmation v (toString n) ++ "\n"
  unconfirmed : result ≠ .ok () → printed = announcement artifact (.release v) ++ "\n"

/-- A run is safe, given what it came to, what arrived at servers in it and what it printed. -/
structure Safe (path : String) (file : Option String) (s : Session)
    (result : Except ReleaseError Unit) (arrived : List Receipt) (printed : String) : Prop where
  /-- What fails otherwise than in publishing itself has sent nothing. -/
  harmless : ∀ error, result = .error error → ¬ error.IsPublishing → arrived = []
  undetermined : (¬ ∃ config client version u, Determined path file s config client version u) →
    (∃ error, result = .error error) ∧ arrived = [] ∧ printed = ""
  development : ∀ config client u, Determined path file s config client .development u →
    result = .error .developmentVersion ∧ posts arrived = [] ∧
      printed = announcement (config.artifactOf path .development) .development ++ "\n"
  release : ∀ config client v u, Determined path file s config client (.release v) u →
    Releases client v (config.artifactOf path (.release v)) u result arrived printed

theorem releases_of_determined {path : String} {file : Option String} {s u : Session}
    {config : Config} {client : PublishingClient} {v : ReleaseVersion}
    (h : Determined path file s config client (.release v) u) :
    ∃ result t arrived printed, (runPublish path file).run.run s = (result, t) ∧
      t.receipts = s.receipts ++ arrived ∧ t.printed = s.printed ++ printed ∧
      (∀ error, result = .error error → ∃ failure, error = .publish failure) ∧
      Releases client v (config.artifactOf path (.release v)) u result arrived printed := by
  obtain ⟨hprinted, looked, hreceipts, hlooked⟩ := h.harmless
  obtain ⟨hapi, huploads⟩ := h.based
  generalize hartifact : config.artifactOf path (.release v) = artifact
  obtain ⟨result, t, hcalls, hrun⟩ := runPublish_of_release h hartifact
  have hpublished := hcalls.published
  obtain ⟨arrived, harrived, hposts⟩ := hpublished.receipts
  have hall : t.receipts = s.receipts ++ (looked ++ arrived) := by
    rw [harrived, ← List.append_assoc, ← hreceipts]
    rfl
  have hposts' : client.Posts v artifact u (ReleaseLine.posts (looked ++ arrived)) := by
    rw [posts_append, hlooked]
    exact hposts.of_printing
  have htold : t.printed = s.printed ++ (announcement artifact (.release v) ++ "\n") := by
    rw [hpublished.printed, ← String.append_assoc, ← hprinted]
    rfl
  have hcreation := exists_path_creation (of_baseUrl hapi).2 v
  have hattachment := exists_path_attachment (of_baseUrl huploads).2 artifact
  have hcreated := exists_path_of_creation hapi v
  have hattached := exists_path_of_attachment huploads artifact
  cases result with
  | error error =>
      obtain ⟨failure, rfl⟩ := hpublished.failure_of_error rfl
      have hfails : ¬ ∃ n, client.Succeeds v artifact u n := by
        rintro ⟨n, hcreates, hattaches⟩
        cases (hpublished.ok_iff _).mpr ⟨n, rfl, hcreates, hattaches⟩
      refine ⟨_, t, _, _, hrun, hall, htold, ?_, hposts', hcreation, hattachment, hcreated,
        hattached, ?_, ?_, ?_⟩
      · rintro error ⟨⟩
        exact ⟨failure, rfl⟩
      · refine ⟨?_, fun hsucceeds => absurd hsucceeds hfails⟩
        rintro ⟨⟩
      · intro n hsucceeds
        exact absurd ⟨n, hsucceeds⟩ hfails
      · intro _
        rfl
  | ok id =>
      obtain ⟨n, rfl, hcreates, hattaches⟩ := (hpublished.ok_iff id).mp rfl
      have hconfirmed : (t.printing (confirmation v (toString n))).printed = s.printed ++
          (announcement artifact (.release v) ++ "\n" ++ confirmation v (toString n) ++ "\n") := by
        unfold Session.printing
        rw [htold]
        simp only [String.append_assoc]
      refine ⟨_, _, _, _, hrun, hall, hconfirmed, ?_, hposts', hcreation, hattachment, hcreated,
        hattached, ?_, ?_, ?_⟩
      · rintro error ⟨⟩
      · exact ⟨fun _ => ⟨n, hcreates, hattaches⟩, fun _ => rfl⟩
      · intro m hsucceeds
        rw [hcreates.unique hsucceeds.1]
      · intro hfails
        exact absurd rfl hfails

theorem Safe.of_not_determined {path : String} {file : Option String} {s : Session}
    (h : ¬ ∃ config client version u, Determined path file s config client version u)
    (error : ReleaseError) : Safe path file s (.error error) [] "" := by
  refine ⟨fun _ _ _ => rfl, fun _ => ⟨⟨error, rfl⟩, rfl, rfl⟩, ?_, ?_⟩
  · intro config client u hdetermined
    exact absurd ⟨config, client, _, u, hdetermined⟩ h
  · intro config client v u hdetermined
    exact absurd ⟨config, client, _, u, hdetermined⟩ h

theorem Safe.of_development {path : String} {file : Option String} {s u : Session}
    {config : Config} {client : PublishingClient} {arrived : List Receipt}
    (h : Determined path file s config client .development u) (hposts : posts arrived = []) :
    Safe path file s (.error .developmentVersion) arrived
      (announcement (config.artifactOf path .development) .development ++ "\n") := by
  refine ⟨?_, ?_, ?_, ?_⟩
  · rintro error ⟨⟩ hother
    exact absurd trivial hother
  · intro hnone
    exact absurd ⟨config, client, _, u, h⟩ hnone
  · intro config' client' u' h'
    obtain ⟨rfl, rfl, -, rfl⟩ := h.unique h'
    exact ⟨rfl, hposts, rfl⟩
  · intro config' client' v' u' h'
    cases (h.unique h').2.2.1

theorem Safe.of_release {path : String} {file : Option String} {s u : Session}
    {config : Config} {client : PublishingClient} {v : ReleaseVersion}
    {result : Except ReleaseError Unit} {arrived : List Receipt} {printed : String}
    (h : Determined path file s config client (.release v) u)
    (herror : ∀ error, result = .error error → ∃ failure, error = .publish failure)
    (hreleases :
      Releases client v (config.artifactOf path (.release v)) u result arrived printed) :
    Safe path file s result arrived printed := by
  refine ⟨?_, ?_, ?_, ?_⟩
  · intro error hresult hother
    obtain ⟨failure, rfl⟩ := herror error hresult
    exact absurd trivial hother
  · intro hnone
    exact absurd ⟨config, client, _, u, h⟩ hnone
  · intro config' client' u' h'
    cases (h.unique h').2.2.1
  · intro config' client' v' u' h'
    obtain ⟨rfl, rfl, hversion, rfl⟩ := h.unique h'
    cases hversion
    exact hreleases

/-- Publishing is safe. What fails otherwise than in publishing itself has sent nothing. Where a
version is determined, it is the development version, and nothing may be changed, or a release, and
then what may be changed is its creation and, under the identifier that comes back, its attachment.
The command succeeds, and says so, just where both exchanges did. -/
theorem runPublish_safe (path : String) (file : Option String) (s : Session) :
    (∃ result t arrived printed, (runPublish path file).run.run s = (result, t) ∧
      t.receipts = s.receipts ++ arrived ∧ t.printed = s.printed ++ printed ∧
      Safe path file s result arrived printed) ∧
    ∀ n < UInt64.size, Listing.createdId ("\x7b\"id\":" ++ toString n ++ "\x7d") = .ok n := by
  refine ⟨?_, fun n hn => Listing.createdId_numeral hn⟩
  by_cases h : ∃ config client version u, Determined path file s config client version u
  · obtain ⟨config, client, version, u, hdetermined⟩ := h
    cases version with
    | development =>
        obtain ⟨hprinted, looked, hreceipts, hlooked⟩ := hdetermined.harmless
        refine ⟨_, _, looked, _, runPublish_of_development hdetermined, hreceipts, ?_,
          .of_development hdetermined hlooked⟩
        simp only [Session.printing, hprinted, String.append_assoc]
    | release v =>
        obtain ⟨result, t, arrived, printed, hrun, hreceipts, hprinted, herror, hreleases⟩ :=
          releases_of_determined hdetermined
        exact ⟨result, t, arrived, printed, hrun, hreceipts, hprinted,
          .of_release hdetermined herror hreleases⟩
  · obtain ⟨error, t, hrun, hreceipts, hprinted⟩ := runPublish_of_not_determined h
    refine ⟨.error error, t, [], "", hrun, ?_, ?_, .of_not_determined h error⟩
    · rw [hreceipts, List.append_nil]
    · rw [hprinted, String.append_empty]

end Command

end ReleaseLine
