import ReleaseLine.Proofs.Decoding
import ReleaseLine.Proofs.Publication

namespace ReleaseLine

namespace ReleaseVersion

theorem bare_toChars (v : ReleaseVersion) : ∀ c ∈ v.toChars, Json.IsBare c := by
  intro c hc
  unfold toChars at hc
  rcases List.mem_append.mp hc with hc | hc
  · exact .of_isDigit (Decimal.isDigit_of_mem_numeral hc)
  · rcases List.mem_cons.mp hc with rfl | hc
    · decide
    · exact .of_isDigit (Decimal.isDigit_of_mem_numeral hc)

theorem toList_render (v : ReleaseVersion) : v.render.toList = v.toChars := String.toList_ofList

theorem render_ne_development (v : ReleaseVersion) : v.render ≠ "development" := by
  intro heq
  have hdot : '.' ∈ v.render.toList := by
    rw [toList_render]
    unfold toChars
    simp
  rw [heq] at hdot
  exact absurd hdot (by decide)

theorem compare_next (v : ReleaseVersion) (h : v.minor < maxComponent) :
    compare v.next v = .gt := by
  have hmin : v.next.minor = v.minor + 1 := v.next_minor.trans (Nat.min_eq_left h)
  have hminor : compare v.next.minor v.minor = .gt := by
    rw [hmin]
    exact Nat.compare_eq_gt.mpr (Nat.lt_succ_self _)
  change (compare v.major v.major).then (compare v.next.minor v.minor) = .gt
  rw [hminor, Nat.compare_eq_eq.mpr rfl]
  rfl

theorem next_of_last (v : ReleaseVersion) (h : v.minor = maxComponent) : v.next = v := by
  have hminor : min (v.minor + 1) maxComponent = v.minor := by omega
  exact ReleaseVersion.ext v.next_major (v.next_minor.trans hminor)

end ReleaseVersion

/-- A body is JSON text, an object whose only member is the tag. -/
def Tags (body : ByteArray) (tag : String) : Prop :=
  ∃ json, String.fromUTF8? body = some json ∧
    Json.Value.parse json = .ok (.object [("tag_name", .string tag)])

theorem tags_encodeMember (v : ReleaseVersion) :
    Tags (Json.encodeMember "tag_name" v.render).toUTF8 v.render := by
  have hname := Json.isBare_of_all (by decide : "tag_name".toList.all _ = true)
  refine ⟨_, Text.fromUTF8?_toUTF8 _, Json.Value.parse_encodeMember hname ?_⟩
  rw [v.toList_render]
  exact v.bare_toChars

theorem PublishingClient.body_creation (c : PublishingClient) (v : ReleaseVersion)
    (files : FileTree) :
    (c.creation v).body files =
      (0, .ok (some ((Json.encodeMember "tag_name" v.render).toUTF8, "application/json"))) := rfl

/-- Whatever arrives when the release of a version is created, its body is the tag. -/
def PublishingClient.TagsCreated (c : PublishingClient) (v : ReleaseVersion) (tag : String) :
    Prop :=
  ∀ s t created, (c.create v).run s = (created, t) →
    ∃ arrived, t.receipts = s.receipts ++ arrived ∧
      ∀ receipt ∈ posts arrived, ∀ body, receipt.body = some body → Tags body tag

theorem PublishingClient.tagsCreated_render (c : PublishingClient) (v : ReleaseVersion) :
    c.TagsCreated v v.render := by
  intro s t created h
  refine ⟨_, (Client.leaves_perform h).receipts, ?_⟩
  intro receipt hreceipt body hbody
  rcases c.toClient.posts_arrivals_of_post s (creation_method c v) rfl with
    ⟨hposts, -⟩ | ⟨p, hposts, hp⟩
  · have hnone : receipt ∈ posts (c.toClient.arrivals (c.creation v) s) := hreceipt
    rw [hposts] at hnone
    cases hnone
  · have hsome : receipt ∈ posts (c.toClient.arrivals (c.creation v) s) := hreceipt
    rw [hposts] at hsome
    obtain rfl := List.mem_singleton.mp hsome
    obtain ⟨moment, type, hcontent⟩ := hp.body body hbody
    rw [body_creation, Prod.mk.injEq, Except.ok.injEq, Option.some.injEq, Prod.mk.injEq] at hcontent
    rw [← hcontent.2.1]
    exact tags_encodeMember v

namespace Command

/-- A command succeeds and prints a line. -/
def Prints (command : Run Unit) (s : Session) (line : String) : Prop :=
  ∃ t, command.run.run s = (.ok (), t) ∧ t.printed = s.printed ++ line ++ "\n"

/-- A command fails and prints nothing. -/
def Fails (command : Run Unit) (s : Session) (error : ReleaseError) : Prop :=
  ∃ t, command.run.run s = (.error error, t) ∧ t.printed = s.printed

variable {command : Run Unit} {s : Session}

theorem Prints.unique {line line' : String} (h : Prints command s line)
    (h' : Prints command s line') : line = line' := by
  obtain ⟨t, hrun, hprinted⟩ := h
  obtain ⟨t', hrun', hprinted'⟩ := h'
  rw [hrun] at hrun'
  obtain rfl := (Prod.mk.inj hrun').2
  rw [hprinted, String.append_left_inj, String.append_right_inj] at hprinted'
  exact hprinted'

theorem Prints.not_fails {line : String} {error : ReleaseError} (h : Prints command s line) :
    ¬ Fails command s error := by
  rintro ⟨t', hrun', -⟩
  obtain ⟨t, hrun, -⟩ := h
  rw [hrun] at hrun'
  cases hrun'

theorem Fails.unique {error error' : ReleaseError} (h : Fails command s error)
    (h' : Fails command s error') : error = error' := by
  obtain ⟨t, hrun, -⟩ := h
  obtain ⟨t', hrun', -⟩ := h'
  rw [hrun] at hrun'
  exact Except.error.inj (Prod.mk.inj hrun').1

/-- The client for the configuration at a path, or else for the usual one. -/
def build (file : Option String) : Run Client := do
  clientOf (← loadConfig file)

theorem checks_build {file : Option String} {client : Client}
    (h : ((build file).run.run s).1 = .ok client) :
    Checks s.environment (build file) (.ok client) := by
  obtain ⟨loaded, hloaded⟩ := checks_loadConfig s.environment file
  have hbuild := checks_bind hloaded checks_clientOf
  obtain ⟨t, hrun, -⟩ := hbuild s rfl
  have hresult : ((build file).run.run s).1 = (loaded >>= clientIn s.environment) := by
    unfold build
    rw [hrun]
  rw [hresult] at h
  rw [h] at hbuild
  exact hbuild

variable {file : Option String} {client : Client}

theorem run_build_bind {α : Type} {t : Session} (h : (build file).run.run s = (.ok client, t))
    (next : Client → Run α) :
    (do next (← clientOf (← loadConfig file)) : Run α).run.run s = (next client).run.run t := by
  rw [← run_bind_ok h]
  unfold build
  rw [bind_assoc]

theorem run_lift_bind {α β : Type} {program : StateM Session α} {next : α → Run β}
    {t : Session} {a : α} (h : program.run s = (a, t)) :
    (do next (← program) : Run β).run.run s = (next a).run.run t := by
  refine run_bind_ok ?_
  change (Except.ok <$> program).run s = _
  rw [StateT.run_map, h]
  rfl

theorem run_runLatest (h : Checks s.environment (build file) (.ok client)) :
    ∃ t, t.printed = s.printed ∧ (runLatest file).run.run s =
      match (client.latest.run s).1 with
      | .ok v => (.ok (), t.printing v.render)
      | .error failure => (.error (.lookup failure), t) := by
  obtain ⟨t, hbuild, hst⟩ := h s rfl
  obtain ⟨hsame, -⟩ := client.alike_run_perform (.latest client.api client.repository) hst
  rcases hlatest : client.latest.run t with ⟨found, u⟩
  have hfound : (client.latest.run s).1 = found := hsame.symm.trans (congrArg Prod.fst hlatest)
  have hprinted : u.printed = s.printed := (Client.leaves_perform hlatest).printed.trans hst.printed
  refine ⟨u, hprinted, ?_⟩
  unfold runLatest
  rw [run_build_bind hbuild, run_lift_bind hlatest, hfound]
  cases found with
  | ok v => rfl
  | error failure => rfl

theorem prints_latest (h : Checks s.environment (build file) (.ok client)) {v : ReleaseVersion}
    (hlatest : (client.latest.run s).1 = .ok v) : Prints (runLatest file) s v.render := by
  obtain ⟨t, hprinted, hrun⟩ := run_runLatest h
  rw [hlatest] at hrun
  refine ⟨_, hrun, ?_⟩
  unfold Session.printing
  rw [hprinted]

theorem fails_latest (h : Checks s.environment (build file) (.ok client)) {failure : Failure}
    (hlatest : (client.latest.run s).1 = .error failure) :
    Fails (runLatest file) s (.lookup failure) := by
  obtain ⟨t, hprinted, hrun⟩ := run_runLatest h
  rw [hlatest] at hrun
  exact ⟨t, hrun, hprinted⟩

theorem run_runNextVersion (h : Checks s.environment (build file) (.ok client)) :
    ∃ t, (client.lookedUp s).Alike t ∧ (runNextVersion file).run.run s =
      match decidedVersion (Config.versionOverride? s.environment) (client.found? s) with
      | .ok version => (.ok (), t.printing version.render)
      | .error error => (.error error, t) := by
  obtain ⟨t, hbuild, hst⟩ := h s rfl
  obtain ⟨u, hversion, htu⟩ := run_versionFor client t
  rw [hst.environment, client.found?_eq hst] at hversion
  refine ⟨u, (client.alike_lookedUp hst).trans htu, ?_⟩
  unfold runNextVersion
  rw [run_build_bind hbuild]
  cases hdecided : decidedVersion (Config.versionOverride? s.environment) (client.found? s) with
  | ok version =>
      rw [hdecided] at hversion
      rw [run_bind_ok hversion]
      rfl
  | error error =>
      rw [hdecided] at hversion
      exact run_bind_error hversion

theorem determined_of_prepared {path : String} {config : Config} {publishing : PublishingClient}
    {t : Session} (h : (prepare path file).run.run s = (.ok (config, publishing), t)) :
    ∃ u, (publishing.lookedUp s).Alike u ∧
      match decidedVersion (Config.versionOverride? s.environment) (publishing.found? s) with
      | .ok version => Determined path file s config publishing version u
      | .error error => (runPublish path file).run.run s = (.error error, u) := by
  have hst := alike_run_prepare h
  obtain ⟨u, hversion, htu⟩ := run_versionFor publishing.toClient t
  rw [hst.environment, publishing.found?_eq hst] at hversion
  refine ⟨u, (publishing.alike_lookedUp hst).trans htu, ?_⟩
  cases hdecided :
      decidedVersion (Config.versionOverride? s.environment) (publishing.found? s) with
  | ok version =>
      rw [hdecided] at hversion
      exact ⟨t, h, hversion⟩
  | error error =>
      rw [hdecided] at hversion
      unfold runPublish
      rw [run_bind_ok h]
      exact run_bind_error hversion

theorem client_of_prepared {path : String} {config : Config} {publishing : PublishingClient}
    {t : Session} (hbuild : Checks s.environment (build file) (.ok client))
    (h : (prepare path file).run.run s = (.ok (config, publishing), t)) :
    publishing.toClient = client := by
  obtain ⟨hloaded, hclient, -⟩ := of_run_prepare h
  have hbuild' := checks_bind hloaded checks_clientOf
  obtain ⟨u, hrun, -⟩ := hbuild s rfl
  obtain ⟨u', hrun', -⟩ := hbuild' s rfl
  have hsame : (Except.ok config >>= clientIn s.environment) = .ok client :=
    congrArg Prod.fst (hrun'.symm.trans hrun)
  have hboth : (.ok publishing.toClient : Except ReleaseError Client) = .ok client :=
    hclient.symm.trans hsame
  exact Except.ok.inj hboth

theorem printed_lookedUp (client : Client) (s : Session) :
    (client.lookedUp s).printed = s.printed := by
  cases hrequested : Config.versionOverride? s.environment with
  | some text => rw [client.lookedUp_of_requested hrequested]
  | none => exact (leaves_lookedUp client hrequested).printed

theorem decidedVersion_congr {requested : Option String} {found found' : Option ReleaseVersion}
    (h : requested = none → found = found') :
    decidedVersion requested found = decidedVersion requested found' := by
  cases requested with
  | some text => rfl
  | none => rw [h rfl]

theorem prints_of_decided (h : Checks s.environment (build file) (.ok client))
    {version : VersionNumber}
    (hdecided : decidedVersion (Config.versionOverride? s.environment) (client.found? s) =
      .ok version) : Prints (runNextVersion file) s version.render := by
  obtain ⟨t, hst, hrun⟩ := run_runNextVersion h
  rw [hdecided] at hrun
  refine ⟨_, hrun, ?_⟩
  unfold Session.printing
  rw [hst.printed, printed_lookedUp]

theorem fails_of_decided (h : Checks s.environment (build file) (.ok client))
    {error : ReleaseError}
    (hdecided : decidedVersion (Config.versionOverride? s.environment) (client.found? s) =
      .error error) : Fails (runNextVersion file) s error := by
  obtain ⟨t, hst, hrun⟩ := run_runNextVersion h
  rw [hdecided] at hrun
  exact ⟨t, hrun, hst.printed.trans (printed_lookedUp client s)⟩

theorem fails_next_of_malformed (h : Checks s.environment (build file) (.ok client))
    {text : String} {fault : VersionError}
    (hrequested : Config.versionOverride? s.environment = some text)
    (hparse : VersionNumber.parse text = .error fault) :
    Fails (runNextVersion file) s (.version fault) := by
  refine fails_of_decided h ?_
  rw [hrequested, decidedVersion_some, hparse]
  rfl

theorem prints_next_of_requested (h : Checks s.environment (build file) (.ok client))
    {text : String} {version : VersionNumber}
    (hrequested : Config.versionOverride? s.environment = some text)
    (hparse : VersionNumber.parse text = .ok version) :
    Prints (runNextVersion file) s version.render := by
  refine prints_of_decided h ?_
  rw [hrequested, decidedVersion_some, hparse]
  rfl

theorem prints_next_of_found (h : Checks s.environment (build file) (.ok client))
    (hnone : Config.versionOverride? s.environment = none) {v : ReleaseVersion}
    (hfound : client.found? s = some v) : Prints (runNextVersion file) s v.next.render := by
  have hdecided : decidedVersion (Config.versionOverride? s.environment) (client.found? s) =
      .ok (.release v.next) := by
    rw [hnone, hfound]
    rfl
  have hprints : Prints (runNextVersion file) s (VersionNumber.release v.next).render :=
    prints_of_decided h hdecided
  exact hprints

theorem prints_next_of_notFound (h : Checks s.environment (build file) (.ok client))
    (hnone : Config.versionOverride? s.environment = none) (hfound : client.found? s = none) :
    Prints (runNextVersion file) s "development" := by
  have hdecided : decidedVersion (Config.versionOverride? s.environment) (client.found? s) =
      .ok .development := by
    rw [hnone, hfound]
    rfl
  have hprints : Prints (runNextVersion file) s VersionNumber.development.render :=
    prints_of_decided h hdecided
  exact hprints

/-- What a publication comes to agrees with what is printed as the next version. Both fail where
what is asked for is no version. Development is refused, and no call made but the lookup. Any other
version is published: the first call, but for the lookup, creates its release. -/
structure Publishes (file : Option String) (client : PublishingClient) (s s' : Session)
    (result : Except ReleaseError Unit) (final : Session) : Prop where
  malformed : ∀ fault,
    Fails (runNextVersion file) s (.version fault) ↔ result = .error (.version fault)
  malformed_alike : ∀ fault, result = .error (.version fault) → s'.Alike final
  development : Prints (runNextVersion file) s "development" ↔ result = .error .developmentVersion
  development_idle : result = .error .developmentVersion → (client.lookedUp s').Idle final
  release : ∀ text, Prints (runNextVersion file) s text → text ≠ "development" →
    ∃ v artifact before outcome after, v.render = text ∧ client.TagsCreated v text ∧
      (client.lookedUp s').Idle before ∧ client.Calls v artifact before outcome after ∧
      after.Idle final ∧ result = outcome.map fun _ => ()

namespace Publishes

variable {publishing : PublishingClient} {s' u : Session}

theorem of_malformed {fault : VersionError}
    (hfails : Fails (runNextVersion file) s (.version fault)) (hidle : s'.Alike u) :
    Publishes file publishing s s' (.error (.version fault)) u := by
  have hprints {text : String} (h : Prints (runNextVersion file) s text) : False :=
    h.not_fails hfails
  refine ⟨fun fault' => ⟨?_, ?_⟩, fun _ _ => hidle, ⟨fun h => (hprints h).elim, ?_⟩, ?_,
    fun text h => (hprints h).elim⟩
  · intro hfails'
    rw [hfails.unique hfails']
  · intro heq
    rw [← Except.error.inj heq]
    exact hfails
  · rintro ⟨⟩
  · rintro ⟨⟩

theorem of_development (hprints : Prints (runNextVersion file) s "development")
    (hidle : (publishing.lookedUp s').Idle u) :
    Publishes file publishing s s' (.error .developmentVersion) u := by
  refine ⟨fun fault => ⟨?_, ?_⟩, ?_, ⟨fun _ => rfl, fun _ => hprints⟩, fun _ => hidle, ?_⟩
  · intro hfails
    exact absurd hfails hprints.not_fails
  · rintro ⟨⟩
  · rintro fault ⟨⟩
  · intro text hprints' hrelease
    exact absurd (hprints'.unique hprints) hrelease

theorem of_release {v : ReleaseVersion} {artifact : Artifact} {before after : Session}
    {outcome : Except ReleaseError ReleaseId} {result : Except ReleaseError Unit}
    (hprints : Prints (runNextVersion file) s v.render)
    (hbefore : (publishing.lookedUp s').Idle before)
    (hcalls : publishing.Calls v artifact before outcome after) (hafter : after.Idle u)
    (hresult : result = outcome.map fun _ => ()) : Publishes file publishing s s' result u := by
  have hpublishing {error : ReleaseError} (herror : result = .error error) :
      ∃ failure, error = .publish failure := by
    cases outcome with
    | error error' =>
        obtain rfl : error' = error := Except.error.inj (hresult.symm.trans herror)
        exact hcalls.published.failure_of_error rfl
    | ok id => cases hresult.symm.trans herror
  have hversion {fault : VersionError} (herror : result = .error (.version fault)) : False := by
    obtain ⟨failure, heq⟩ := hpublishing herror
    cases heq
  refine ⟨fun fault => ⟨?_, ?_⟩, ?_, ⟨?_, ?_⟩, ?_, ?_⟩
  · intro hfails
    exact absurd hfails hprints.not_fails
  · intro herror
    exact (hversion herror).elim
  · intro fault herror
    exact (hversion herror).elim
  · intro hprints'
    exact absurd (hprints.unique hprints') v.render_ne_development
  · intro herror
    obtain ⟨failure, heq⟩ := hpublishing herror
    cases heq
  · intro herror
    obtain ⟨failure, heq⟩ := hpublishing herror
    cases heq
  · intro text hprints' _
    obtain rfl := hprints.unique hprints'
    exact ⟨v, artifact, before, outcome, after, rfl, publishing.tagsCreated_render v, hbefore,
      hcalls, hafter, hresult⟩

end Publishes

theorem publishes_of_prepared {path : String} {config : Config} {publishing : PublishingClient}
    {s' t : Session} (hbuild : Checks s.environment (build file) (.ok publishing.toClient))
    (henvironment : s'.environment = s.environment)
    (hfound : Config.versionOverride? s.environment = none →
      publishing.found? s' = publishing.found? s)
    (h : (prepare path file).run.run s' = (.ok (config, publishing), t)) :
    ∃ result final, (runPublish path file).run.run s' = (result, final) ∧
      Publishes file publishing s s' result final := by
  obtain ⟨u, hsu, hrun⟩ := determined_of_prepared h
  rw [henvironment, decidedVersion_congr hfound] at hrun
  cases hdecided :
      decidedVersion (Config.versionOverride? s.environment) (publishing.found? s) with
  | error error =>
      rw [hdecided] at hrun
      obtain ⟨text, fault, hrequested, -, rfl⟩ := of_decidedVersion_error hdecided
      rw [← henvironment] at hrequested
      rw [publishing.lookedUp_of_requested hrequested] at hsu
      exact ⟨_, u, hrun, .of_malformed (fails_of_decided hbuild hdecided) hsu⟩
  | ok version =>
      rw [hdecided] at hrun
      have hprints := prints_of_decided hbuild hdecided
      cases version with
      | development =>
          have hidle := hsu.toIdle.trans (.printing u
            (announcement (config.artifactOf path .development) .development))
          exact ⟨_, _, runPublish_of_development hrun, .of_development hprints hidle⟩
      | release v =>
          have hbefore := hsu.toIdle.trans (.printing u
            (announcement (config.artifactOf path (.release v)) (.release v)))
          obtain ⟨outcome, after, hcalls, hpublish⟩ := runPublish_of_release hrun rfl
          cases outcome with
          | error error =>
              have hafter := (Session.Alike.refl after).toIdle
              exact ⟨_, _, hpublish, .of_release hprints hbefore hcalls hafter rfl⟩
          | ok id =>
              have hafter := Session.Idle.printing after (confirmation v id.text)
              exact ⟨_, _, hpublish, .of_release hprints hbefore hcalls hafter rfl⟩

/-- The commands agree on the version, each in a session of its own: one that prints the latest
release, one that prints the next version, and one that publishes. -/
structure Agreement (path : String) (file : Option String) (client : Client)
    (s₁ s₂ s₃ : Session) : Prop where
  latest_found : ∀ v, (client.latest.run s₁).1 = .ok v → Prints (runLatest file) s₁ v.render
  latest_notFound : ∀ failure, (client.latest.run s₁).1 = .error failure →
    Fails (runLatest file) s₁ (.lookup failure)
  next_malformed : ∀ text fault, Config.versionOverride? s₁.environment = some text →
    VersionNumber.parse text = .error fault → Fails (runNextVersion file) s₂ (.version fault)
  next_requested : ∀ text version, Config.versionOverride? s₁.environment = some text →
    VersionNumber.parse text = .ok version → Prints (runNextVersion file) s₂ version.render
  next_counted : Config.versionOverride? s₁.environment = none →
    ∀ v, (client.latest.run s₁).1 = .ok v → Prints (runNextVersion file) s₂ v.next.render
  next_development : Config.versionOverride? s₁.environment = none →
    (Prints (runNextVersion file) s₂ "development" ↔
      ∃ failure, Fails (runLatest file) s₁ (.lookup failure))
  publish : ∀ config publishing t, (prepare path file).run.run s₃ = (.ok (config, publishing), t) →
    publishing.toClient = client ∧ ∃ result final,
      (runPublish path file).run.run s₃ = (result, final) ∧
      Publishes file publishing s₂ s₃ result final
  later : ∀ v, (client.latest.run s₁).1 = .ok v →
    (v.minor < maxComponent → compare v.next v = .gt) ∧ (v.minor = maxComponent → v.next = v)

/-- The commands agree on the version: what is printed as the latest release is what the next
version is counted from, and what is printed as the next version is what is published. -/
theorem commands_agree {path : String} {s₁ s₂ s₃ : Session}
    (hbuild : ((build file).run.run s₁).1 = .ok client)
    (hnext : s₂.environment = s₁.environment) (hpublish : s₃.environment = s₁.environment)
    (hfound : Config.versionOverride? s₁.environment = none →
      client.found? s₂ = client.found? s₁ ∧ client.found? s₃ = client.found? s₁) :
    Agreement path file client s₁ s₂ s₃ := by
  have hbuild₁ := checks_build hbuild
  have hbuild₂ : Checks s₂.environment (build file) (.ok client) := by
    rw [hnext]
    exact hbuild₁
  have hbuild₃ : Checks s₃.environment (build file) (.ok client) := by
    rw [hpublish]
    exact hbuild₁
  rw [← hnext] at hfound
  have hcounted (hnone : Config.versionOverride? s₂.environment = none) (v : ReleaseVersion)
      (hlatest : (client.latest.run s₁).1 = .ok v) :
      Prints (runNextVersion file) s₂ v.next.render :=
    prints_next_of_found hbuild₂ hnone ((hfound hnone).1.trans (congrArg Except.toOption hlatest))
  refine ⟨fun v => prints_latest hbuild₁, fun failure => fails_latest hbuild₁, ?_, ?_, ?_, ?_, ?_,
    fun v _ => ⟨v.compare_next, v.next_of_last⟩⟩
  · rw [← hnext]
    exact fun text fault => fails_next_of_malformed hbuild₂
  · rw [← hnext]
    exact fun text version => prints_next_of_requested hbuild₂
  · rw [← hnext]
    exact hcounted
  · rw [← hnext]
    intro hnone
    constructor
    · intro hprints
      cases hlatest : (client.latest.run s₁).1 with
      | ok v =>
          have heq := (hcounted hnone v hlatest).unique hprints
          exact absurd heq v.next.render_ne_development
      | error failure => exact ⟨failure, fails_latest hbuild₁ hlatest⟩
    · rintro ⟨failure, hfails⟩
      cases hlatest : (client.latest.run s₁).1 with
      | ok v => exact absurd hfails (prints_latest hbuild₁ hlatest).not_fails
      | error failure =>
          have hnothing := (hfound hnone).1.trans (congrArg Except.toOption hlatest)
          exact prints_next_of_notFound hbuild₂ hnone hnothing
  · intro config publishing t hprepare
    obtain rfl := client_of_prepared hbuild₃ hprepare
    refine ⟨rfl, publishes_of_prepared hbuild₂ (hpublish.trans hnext.symm) ?_ hprepare⟩
    intro hnone
    rw [(hfound hnone).1, (hfound hnone).2]

/-- A session with a configuration and an artifact, in which servers give some replies in turn. -/
def sample (replies : List (Nat × String)) : Session where
  environment :=
    { bindings := []
      files :=
        { workingDirectory := []
          entries :=
            [(["config"], .file
                "\x7bowner: o, repository: r, api_url: 'http://h', token: t\x7d".toUTF8),
              (["artifact"], .file .empty)] } }
  network :=
    { replies := replies.map fun reply =>
        let body := reply.2.toUTF8.toList
        { pieces := [(0, Http.writeHead reply.1 [] body.length ++ body)] } }

theorem agreement_of_sample :
    let s := sample [(200, "[\x7b\"tag_name\": \"1.82\"\x7d]")]
    let s' := sample [(200, "[\x7b\"tag_name\": \"1.82\"\x7d]"), (201, "\x7b\"id\": 7\x7d")]
    ∃ client, ((build (some "/config")).run.run s).1 = .ok client ∧
      (client.found? s).map ReleaseVersion.render = some "1.82" ∧
      ((prepare "/artifact" (some "/config")).run.run s').1.isOk ∧
      Agreement "/artifact" (some "/config") client s s s' := by
  intro s s'
  have hfound : (((build (some "/config")).run.run s).1.toOption.map fun client =>
      (client.found? s, client.found? s')) =
      some (some ⟨1, 82, by decide, by decide⟩, some ⟨1, 82, by decide, by decide⟩) := by
    decide +kernel
  cases hbuild : ((build (some "/config")).run.run s).1 with
  | error error =>
      rw [hbuild] at hfound
      cases hfound
  | ok client =>
      rw [hbuild] at hfound
      obtain ⟨hs, hs'⟩ := Prod.mk.inj (Option.some.inj hfound)
      refine ⟨client, rfl, by rw [hs]; decide, by decide +kernel, ?_⟩
      exact commands_agree hbuild rfl rfl fun _ => ⟨rfl, hs'.trans hs.symm⟩

end Command

end ReleaseLine
