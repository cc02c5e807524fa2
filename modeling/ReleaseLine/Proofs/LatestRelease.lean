import ReleaseLine.Proofs.Credentials
import ReleaseLine.Proofs.VersionAgreement
import ReleaseLine.Proofs.VersionOrder

namespace ReleaseLine

section Traversal

variable {ε α β : Type} {f : α → Except ε β}

theorem mem_of_mapM {as : List α} {bs : List β} (h : as.mapM f = .ok bs) :
    (∀ a ∈ as, ∃ b ∈ bs, f a = .ok b) ∧ ∀ b ∈ bs, ∃ a ∈ as, f a = .ok b := by
  induction as generalizing bs with
  | nil =>
      obtain rfl := Except.ok.inj h
      exact ⟨fun a ha => absurd ha List.not_mem_nil, fun b hb => absurd hb List.not_mem_nil⟩
  | cons a as ih =>
      rw [List.mapM_cons] at h
      obtain ⟨b, hb, h⟩ := bind_eq_ok_iff.mp h
      obtain ⟨later, hlater, h⟩ := bind_eq_ok_iff.mp h
      obtain rfl := Except.ok.inj h
      obtain ⟨hinto, honto⟩ := ih hlater
      constructor
      · intro c hc
        rcases List.mem_cons.mp hc with rfl | hc
        · exact ⟨b, List.mem_cons_self, hb⟩
        · obtain ⟨d, hd, hcd⟩ := hinto c hc
          exact ⟨d, List.mem_cons_of_mem b hd, hcd⟩
      · intro d hd
        rcases List.mem_cons.mp hd with rfl | hd
        · exact ⟨a, List.mem_cons_self, hb⟩
        · obtain ⟨c, hc, hcd⟩ := honto d hd
          exact ⟨c, List.mem_cons_of_mem a hc, hcd⟩

theorem exists_first_of_mapM {as : List α} {e : ε} (h : as.mapM f = .error e) :
    ∃ before a after, as = before ++ a :: after ∧
      (∀ b ∈ before, ∃ c, f b = .ok c) ∧ f a = .error e := by
  induction as with
  | nil => cases h
  | cons a as ih =>
      rw [List.mapM_cons] at h
      rcases bind_eq_error_iff.mp h with ha | ⟨c, ha, h⟩
      · exact ⟨[], a, as, rfl, fun b hb => absurd hb List.not_mem_nil, ha⟩
      · rcases bind_eq_error_iff.mp h with hlater | ⟨_, _, ⟨⟩⟩
        obtain ⟨before, b, after, rfl, hbefore, hb⟩ := ih hlater
        exact ⟨a :: before, b, after, rfl, List.forall_mem_cons.mpr ⟨⟨c, ha⟩, hbefore⟩, hb⟩

end Traversal

open ReleaseVersion

theorem greatest?_eq_max? (versions : List ReleaseVersion) :
    greatest? versions = versions.max? := by
  have hlatest : latest = max := funext₂ latest_eq_max
  cases versions with
  | nil => rfl
  | cons v versions =>
      unfold greatest?
      rw [hlatest]
      rfl

/-- A tag can be read as a release. -/
def NamesRelease (tag : String) : Prop := ∃ v, parse tag = .ok v

/-- All tags name releases, one of them this one, and none a later one. -/
structure IsLatest (tags : List String) (v : ReleaseVersion) : Prop where
  named : ∃ tag ∈ tags, parse tag = .ok v
  le : ∀ tag ∈ tags, ∃ w, parse tag = .ok w ∧ w ≤ v

theorem isLatest_of_greatest? {tags : List String} {versions : List ReleaseVersion}
    {v : ReleaseVersion} (hversions : tags.mapM parse = .ok versions)
    (h : greatest? versions = some v) : IsLatest tags v := by
  rw [greatest?_eq_max?, List.max?_eq_some_iff] at h
  obtain ⟨hinto, honto⟩ := mem_of_mapM hversions
  refine ⟨honto v h.1, ?_⟩
  intro tag htag
  obtain ⟨w, hw, hparse⟩ := hinto tag htag
  exact ⟨w, hparse, h.2 w hw⟩

theorem IsLatest.namesRelease {tags : List String} {v : ReleaseVersion} (h : IsLatest tags v) :
    ∀ tag ∈ tags, NamesRelease tag := by
  intro tag htag
  obtain ⟨w, hw, -⟩ := h.le tag htag
  exact ⟨w, hw⟩

theorem IsLatest.le_of_parse {tags : List String} {v w : ReleaseVersion} (h : IsLatest tags v)
    {tag : String} (htag : tag ∈ tags) (hw : parse tag = .ok w) : w ≤ v := by
  obtain ⟨u, hu, huv⟩ := h.le tag htag
  obtain rfl := Except.ok.inj (hw.symm.trans hu)
  exact huv

theorem IsLatest.unique {tags : List String} {v w : ReleaseVersion} (hv : IsLatest tags v)
    (hw : IsLatest tags w) : v = w := by
  obtain ⟨tag, htag, hparse⟩ := hv.named
  obtain ⟨tag', htag', hparse'⟩ := hw.named
  exact le_antisymm (hw.le_of_parse htag hparse) (hv.le_of_parse htag' hparse')

/-- Lists of tags that differ in their order, in how often they hold which tags, or in the zeros
with which the numerals in them start. -/
inductive Rearranged (tags tags' : List String) : Prop
  | permuted (h : tags.Perm tags')
  | repeated (h : ∀ tag, tag ∈ tags ↔ tag ∈ tags')
  | padded (h : tags.map trimmed = tags'.map trimmed)

theorem Rearranged.symm {tags tags' : List String} (h : Rearranged tags tags') :
    Rearranged tags' tags := by
  cases h with
  | permuted h => exact .permuted h.symm
  | repeated h => exact .repeated fun tag => (h tag).symm
  | padded h => exact .padded h.symm

theorem Rearranged.exists_mem {tags tags' : List String} (h : Rearranged tags tags')
    {tag : String} (htag : tag ∈ tags) : ∃ tag' ∈ tags', trimmed tag' = trimmed tag := by
  cases h with
  | permuted h => exact ⟨tag, h.mem_iff.mp htag, rfl⟩
  | repeated h => exact ⟨tag, (h tag).mp htag, rfl⟩
  | padded h =>
      have hmem : trimmed tag ∈ tags.map trimmed := List.mem_map_of_mem htag
      rw [h] at hmem
      exact List.mem_map.mp hmem

theorem parse_of_trimmed_eq {tag tag' : String} (h : trimmed tag = trimmed tag')
    {v : ReleaseVersion} (hv : parse tag = .ok v) : parse tag' = .ok v := by
  rw [← parse_trimmed_eq_ok_iff] at hv ⊢
  rw [← h]
  exact hv

theorem IsLatest.of_rearranged {tags tags' : List String} {v : ReleaseVersion}
    (hv : IsLatest tags v) (h : Rearranged tags tags') : IsLatest tags' v := by
  constructor
  · obtain ⟨tag, htag, hparse⟩ := hv.named
    obtain ⟨tag', htag', heq⟩ := h.exists_mem htag
    exact ⟨tag', htag', parse_of_trimmed_eq heq.symm hparse⟩
  · -- The other list has no tags but counterparts of these, so no later release gets in.
    intro tag' htag'
    obtain ⟨tag, htag, heq⟩ := h.symm.exists_mem htag'
    obtain ⟨w, hw, hwv⟩ := hv.le tag htag
    exact ⟨w, parse_of_trimmed_eq heq hw, hwv⟩

theorem isLatest_iff_of_rearranged {tags tags' : List String} (h : Rearranged tags tags')
    {v : ReleaseVersion} : IsLatest tags v ↔ IsLatest tags' v :=
  ⟨fun hv => hv.of_rearranged h, fun hv => hv.of_rearranged h.symm⟩

/-- The reading of a listing, tags read in some way. -/
def readLatestWith (read : String → Except VersionError ReleaseVersion) (body : String) :
    Except Cause ReleaseVersion := do
  let tags ← (Listing.tags body).mapError .json
  let versions ← (tags.mapM read).mapError .tag
  match greatest? versions with
  | some version => return version
  | none => throw .noReleases

/-- What a list of tags comes to. -/
inductive Judged : List String → Except Cause ReleaseVersion → Prop
  | malformed (before : List String) (tag : String) (after : List String)
      (hbefore : ∀ earlier ∈ before, NamesRelease earlier) (h : ¬ NamesRelease tag) :
      Judged (before ++ tag :: after) (.error (.tag (.malformed tag)))
  | nothing : Judged [] (.error .noReleases)
  | latest (tags : List String) (v : ReleaseVersion) (h : IsLatest tags v) : Judged tags (.ok v)

theorem readLatestWith_of_undecoded {body : String} {error : Json.Error}
    (h : Listing.tags body = .error error) (read : String → Except VersionError ReleaseVersion) :
    readLatestWith read body = .error (.json error) := by
  unfold readLatestWith
  rw [h]
  rfl

theorem readLatest_of_decoded {body : String} {tags : List String}
    (h : Listing.tags body = .ok tags) :
    readLatest body =
      match tags.mapM parse with
      | .error error => .error (.tag error)
      | .ok versions =>
        match greatest? versions with
        | some version => .ok version
        | none => .error .noReleases := by
  unfold readLatest
  rw [h]
  change ((tags.mapM parse).mapError Cause.tag >>= _) = _
  cases tags.mapM parse with
  | error error => rfl
  | ok versions => rfl

theorem judged_readLatest {body : String} {tags : List String} (h : Listing.tags body = .ok tags) :
    Judged tags (readLatest body) := by
  rw [readLatest_of_decoded h]
  split
  · rename_i error hversions
    -- A tag fails with its own text, so the error names the first one that is no release.
    obtain ⟨before, tag, after, rfl, hbefore, htag⟩ := exists_first_of_mapM hversions
    have hnone : ¬ NamesRelease tag := by
      rintro ⟨v, hv⟩
      rw [hv] at htag
      cases htag
    have hmalformed := (parse_cases tag).resolve_left hnone
    rw [Except.error.inj (htag.symm.trans hmalformed)]
    exact .malformed before tag after hbefore hnone
  · rename_i versions hversions
    split
    · rename_i v hgreatest
      exact .latest tags v (isLatest_of_greatest? hversions hgreatest)
    · rename_i hgreatest
      rw [greatest?_eq_max?, List.max?_eq_none_iff] at hgreatest
      subst hgreatest
      have hnil : tags = [] := by
        refine List.eq_nil_iff_forall_not_mem.mpr fun tag htag => ?_
        obtain ⟨v, hv, -⟩ := (mem_of_mapM hversions).1 tag htag
        exact List.not_mem_nil hv
      subst hnil
      exact .nothing

namespace Judged

variable {tags : List String} {result : Except Cause ReleaseVersion}

theorem of_nil (h : Judged tags result) (hnil : tags = []) : result = .error .noReleases := by
  cases h with
  | malformed before tag after hbefore htag => simp at hnil
  | nothing => rfl
  | latest tags v hv =>
      obtain ⟨tag, htag, -⟩ := hv.named
      exact absurd hnil (List.ne_nil_of_mem htag)

theorem of_malformed (h : Judged tags result) (hbad : ∃ tag ∈ tags, ¬ NamesRelease tag) :
    ∃ before tag after, tags = before ++ tag :: after ∧
      (∀ earlier ∈ before, NamesRelease earlier) ∧ ¬ NamesRelease tag ∧
      result = .error (.tag (.malformed tag)) := by
  obtain ⟨bad, hmem, hbad⟩ := hbad
  cases h with
  | malformed before tag after hbefore htag => exact ⟨before, tag, after, rfl, hbefore, htag, rfl⟩
  | nothing => cases hmem
  | latest tags v hv => exact absurd (hv.namesRelease bad hmem) hbad

theorem ok_iff (h : Judged tags result) {v : ReleaseVersion} :
    result = .ok v ↔ IsLatest tags v := by
  cases h with
  | malformed before tag after hbefore htag =>
      refine ⟨nofun, fun hv => absurd (hv.namesRelease tag ?_) htag⟩
      exact List.mem_append_right before List.mem_cons_self
  | nothing =>
      refine ⟨nofun, fun hv => ?_⟩
      obtain ⟨tag, ⟨⟩, -⟩ := hv.named
  | latest tags w hw =>
      constructor
      · rintro ⟨⟩
        exact hw
      · intro hv
        rw [hv.unique hw]

theorem exists_ok_iff (h : Judged tags result) :
    (∃ v, result = .ok v) ↔ tags ≠ [] ∧ ∀ tag ∈ tags, NamesRelease tag := by
  constructor
  · rintro ⟨v, hv⟩
    have hlatest := h.ok_iff.mp hv
    obtain ⟨tag, htag, -⟩ := hlatest.named
    exact ⟨List.ne_nil_of_mem htag, hlatest.namesRelease⟩
  · rintro ⟨hne, hall⟩
    cases h with
    | malformed before tag after hbefore htag =>
        exact absurd (hall tag (List.mem_append_right before List.mem_cons_self)) htag
    | nothing => exact absurd rfl hne
    | latest tags v hv => exact ⟨v, rfl⟩

end Judged

namespace Client

/-- Look the latest release up, tags read in some way. -/
def latestWith (c : Client) (read : String → Except VersionError ReleaseVersion) :
    StateM Session (Except Failure ReleaseVersion) :=
  c.perform { Operation.latest c.api c.repository with interpret := readLatestWith read }

theorem latestWith_parse (c : Client) : c.latestWith parse = c.latest := rfl

/-- A lookup gets a full response that says it is good. -/
structure Receives (c : Client) (s : Session) (response : Response) : Prop where
  ending_eq : c.ending (.latest c.api c.repository) s = .ok response
  status_eq : response.status = 200

/-- What is wrong with the body of a response to a lookup. -/
def unusable (c : Client) (response : Response) (cause : Cause) : Failure :=
  .unusableBody (Operation.latest c.api c.repository).url response cause

theorem run_latestWith {c : Client} {s : Session} {response : Response}
    (h : c.Receives s response) (read : String → Except VersionError ReleaseVersion) :
    ((c.latestWith read).run s).1 =
      (readLatestWith read response.body).mapError (c.unusable response) := by
  have hending : c.ending { Operation.latest c.api c.repository with
      interpret := readLatestWith read } s = .ok response := h.ending_eq
  unfold latestWith
  rw [run_perform, hending, run_conclude_ok]
  exact if_neg (not_not.mpr h.status_eq)

theorem run_latest {c : Client} {s : Session} {response : Response}
    (h : c.Receives s response) :
    (c.latest.run s).1 = (readLatest response.body).mapError (c.unusable response) := by
  rw [← latestWith_parse]
  exact run_latestWith h parse

/-- What a lookup comes to, by the listing in the response to it. -/
structure FindsLatest (c : Client) (s : Session) (response : Response) : Prop where
  undecoded : ∀ error, Listing.tags response.body = .error error →
    (c.latest.run s).1 = .error (c.unusable response (.json error)) ∧
      ∀ read, ((c.latestWith read).run s).1 = .error (c.unusable response (.json error))
  nothing : Listing.tags response.body = .ok [] →
    (c.latest.run s).1 = .error (c.unusable response .noReleases)
  malformed : ∀ tags, Listing.tags response.body = .ok tags →
    (∃ tag ∈ tags, ¬ NamesRelease tag) →
      ∃ before tag after, tags = before ++ tag :: after ∧
        (∀ earlier ∈ before, NamesRelease earlier) ∧ ¬ NamesRelease tag ∧
        (c.latest.run s).1 = .error (c.unusable response (.tag (.malformed tag))) ∧
        (Cause.tag (.malformed tag)).message = "invalid release tag: " ++ tag
  found_iff : ∀ tags, Listing.tags response.body = .ok tags →
    ((∃ v, (c.latest.run s).1 = .ok v) ↔ tags ≠ [] ∧ ∀ tag ∈ tags, NamesRelease tag)
  greatest : ∀ tags v, Listing.tags response.body = .ok tags → (c.latest.run s).1 = .ok v →
    (∃ tag ∈ tags, parse tag = .ok v) ∧ ∀ tag ∈ tags, ∀ w, parse tag = .ok w → w ≤ v
  rearranged : ∀ (c' : Client) s' response' tags tags', c'.Receives s' response' →
    Listing.tags response.body = .ok tags → Listing.tags response'.body = .ok tags' →
    Rearranged tags tags' → ∀ v, (c.latest.run s).1 = .ok v ↔ (c'.latest.run s').1 = .ok v

theorem run_latest_eq_ok_iff {c : Client} {s : Session} {response : Response}
    (h : c.Receives s response) {tags : List String}
    (htags : Listing.tags response.body = .ok tags) {v : ReleaseVersion} :
    (c.latest.run s).1 = .ok v ↔ IsLatest tags v := by
  rw [run_latest h, mapError_eq_ok_iff, (judged_readLatest htags).ok_iff]

/-- A lookup finds the greatest release of a listing, or it tells what is wrong with the listing:
first that it cannot be decoded, then the first tag that is no release, then that nothing is in
it. -/
theorem findsLatest_of_receives {c : Client} {s : Session} {response : Response}
    (h : c.Receives s response) : c.FindsLatest s response where
  undecoded error herror := by
    have hall (read : String → Except VersionError ReleaseVersion) :
        ((c.latestWith read).run s).1 = .error (c.unusable response (.json error)) := by
      rw [run_latestWith h, readLatestWith_of_undecoded herror]
      rfl
    exact ⟨hall parse, hall⟩
  nothing htags := by
    rw [run_latest h, (judged_readLatest htags).of_nil rfl]
    rfl
  malformed tags htags hbad := by
    obtain ⟨before, tag, after, heq, hbefore, htag, hread⟩ :=
      (judged_readLatest htags).of_malformed hbad
    refine ⟨before, tag, after, heq, hbefore, htag, ?_, rfl⟩
    rw [run_latest h, hread]
    rfl
  found_iff tags htags := by
    rw [← (judged_readLatest htags).exists_ok_iff, run_latest h]
    exact exists_congr fun v => mapError_eq_ok_iff
  greatest tags v htags hv := by
    have hlatest := (run_latest_eq_ok_iff h htags).mp hv
    exact ⟨hlatest.named, fun tag htag w => hlatest.le_of_parse htag⟩
  rearranged c' s' response' tags tags' h' htags htags' harranged v := by
    rw [run_latest_eq_ok_iff h htags, run_latest_eq_ok_iff h' htags']
    exact isLatest_iff_of_rearranged harranged

theorem findsLatest_of_three :
    let s := Command.sample [(200, "[\x7b\"tag_name\": \"1.9\"\x7d, " ++
      "\x7b\"tag_name\": \"1.10\"\x7d, \x7b\"tag_name\": \"0.99\"\x7d]")]
    ∃ response, Happening.oneHost.toClient.Receives s response ∧
      (Happening.oneHost.latest.run s).1.toOption = some ⟨1, 10, by decide, by decide⟩ ∧
      Happening.oneHost.toClient.FindsLatest s response := by
  intro s
  have hgood : (Happening.oneHost.toClient.ending
      (.latest Happening.oneHost.api Happening.oneHost.repository) s).toOption.map
        (·.status) = some 200 := by
    decide +kernel
  cases hending : Happening.oneHost.toClient.ending
      (.latest Happening.oneHost.api Happening.oneHost.repository) s with
  | error interruption =>
      rw [hending] at hgood
      cases hgood
  | ok response =>
      rw [hending] at hgood
      have hreceives : Happening.oneHost.toClient.Receives s response :=
        ⟨hending, Option.some.inj hgood⟩
      exact ⟨response, hreceives, by decide +kernel, findsLatest_of_receives hreceives⟩

end Client

end ReleaseLine
