import ReleaseLine.Command
import ReleaseLine.Proofs.Exchange

namespace ReleaseLine

/-- The session with one more line printed. -/
def Session.printing (s : Session) (line : String) : Session :=
  { s with printed := s.printed ++ line ++ "\n" }

/-- No call was made: nothing but the log and what is printed has changed. -/
structure Session.Idle (s t : Session) : Prop where
  environment : t.environment = s.environment
  network : t.network = s.network
  trail : t.trail = s.trail
  receipts : t.receipts = s.receipts

theorem Session.Idle.trans {s t u : Session} (h : s.Idle t) (h' : t.Idle u) : s.Idle u where
  environment := h'.environment.trans h.environment
  network := h'.network.trans h.network
  trail := h'.trail.trans h.trail
  receipts := h'.receipts.trans h.receipts

theorem Session.Idle.printing (s : Session) (line : String) : s.Idle (s.printing line) :=
  ⟨rfl, rfl, rfl, rfl⟩

/-- Nothing but the log has changed. -/
structure Session.Alike (s t : Session) : Prop extends s.Idle t where
  printed : t.printed = s.printed

namespace Session.Alike

theorem refl (s : Session) : Alike s s := ⟨⟨rfl, rfl, rfl, rfl⟩, rfl⟩

theorem trans {s t u : Session} (h : Alike s t) (h' : Alike t u) : Alike s u :=
  ⟨h.toIdle.trans h'.toIdle, h'.printed.trans h.printed⟩

theorem logged (s : Session) (record : Log.Record) : Alike s (s.logged record) :=
  ⟨⟨rfl, rfl, rfl, rfl⟩, rfl⟩

theorem map_logged {s t : Session} (h : Alike s t) (record : Log.Record) :
    Alike (s.logged record) (t.logged record) :=
  ⟨⟨h.environment, h.network, h.trail, h.receipts⟩, h.printed⟩

theorem map_audited {s t : Session} (h : Alike s t) (event : AuditEvent) :
    Alike (s.audited event) (t.audited event) :=
  ⟨⟨h.environment, h.network, congrArg (· ++ [event]) h.trail, h.receipts⟩, h.printed⟩

end Session.Alike

namespace Client

variable {α : Type} (c : Client) (op : Operation α) {s t : Session} (h : s.Alike t)

include h

theorem alike_exchanged : (c.exchanged op s).Alike (c.exchanged op t) := by
  have hfiles : s.environment.files = t.environment.files := by rw [h.environment]
  have harrivals := c.arrivals_congr op hfiles h.network.symm
  refine ⟨⟨h.environment, ?_, h.trail, ?_⟩, h.printed⟩
  · change Session.advance t.network _ = Session.advance s.network _
    rw [h.network, harrivals]
  · change t.receipts ++ _ = s.receipts ++ _
    rw [h.receipts, harrivals]

theorem alike_run_perform :
    ((c.perform op).run t).1 = ((c.perform op).run s).1 ∧
      ((c.perform op).run s).2.Alike ((c.perform op).run t).2 := by
  have hfiles : t.environment.files = s.environment.files := by rw [h.environment]
  refine ⟨c.run_perform_congr op hfiles h.network, ?_⟩
  have hstart := (c.alike_exchanged op h).map_logged (submission op)
  rw [run_perform, run_perform, c.ending_congr op hfiles h.network]
  match c.ending op s with
  | .ok response => exact hstart.map_audited _
  | .error .overdue => exact hstart.map_audited _
  | .error .noHead => exact hstart.map_audited _
  | .error (.fault cause) =>
      rw [run_conclude_fault, run_conclude_fault]
      exact hstart.map_audited _

end Client

namespace Command

open Session

variable {α β : Type}

theorem run_bind_ok {program : Run α} {next : α → Run β} {s t : Session} {a : α}
    (h : program.run.run s = (.ok a, t)) : (program >>= next).run.run s = (next a).run.run t := by
  rw [ExceptT.run_bind, StateT.run_bind, h]
  rfl

theorem run_bind_error {program : Run α} {next : α → Run β} {s t : Session} {e : ReleaseError}
    (h : program.run.run s = (.error e, t)) : (program >>= next).run.run s = (.error e, t) := by
  rw [ExceptT.run_bind, StateT.run_bind, h]
  rfl

/-- In some surroundings a program only checks: what it comes to does not depend on anything else,
and nothing but the log changes. -/
def Checks (e : Environment) (program : Run α) (result : Except ReleaseError α) : Prop :=
  ∀ s : Session, s.environment = e → ∃ t, program.run.run s = (result, t) ∧ s.Alike t

variable {e : Environment}

theorem checks_pure (a : α) : Checks e (pure a) (.ok a) := fun s _ => ⟨s, rfl, .refl s⟩

theorem checks_check (result : Except ReleaseError α) : Checks e (check result) result :=
  fun s _ => ⟨s, rfl, .refl s⟩

theorem checks_throw (error : ReleaseError) : Checks e (throw error : Run α) (.error error) :=
  fun s _ => ⟨s, rfl, .refl s⟩

theorem checks_bind {program : Run α} {next : α → Run β} {first : Except ReleaseError α}
    {second : α → Except ReleaseError β} (hfirst : Checks e program first)
    (hsecond : ∀ a, Checks e (next a) (second a)) :
    Checks e (program >>= next) (first >>= second) := by
  intro s hs
  obtain ⟨t, hrun, hst⟩ := hfirst s hs
  cases first with
  | error error => exact ⟨t, run_bind_error hrun, hst⟩
  | ok a =>
      obtain ⟨u, hrun', htu⟩ := hsecond a t (hst.environment.trans hs)
      exact ⟨u, (run_bind_ok hrun).trans hrun', hst.trans htu⟩

theorem checks_session {next : Session → Run α} {result : Except ReleaseError α}
    (h : ∀ s : Session, s.environment = e → Checks e (next s) result) :
    Checks e (getThe Session >>= next) result := fun s hs => h s hs s hs

theorem checks_loadConfig (e : Environment) (file : Option String) :
    ∃ loaded, Checks e (loadConfig file) loaded := by
  cases file with
  | some path =>
      refine ⟨Config.ofFile e.files path, checks_session ?_⟩
      rintro s rfl
      exact checks_check _
  | none =>
      cases husual : e.configFile? with
      | none =>
          refine ⟨.error .noConfigDirectory, checks_session fun s hs t ht => ⟨t, ?_, .refl t⟩⟩
          unfold Config.load
          rw [hs, husual]
          rfl
      | some usual =>
          by_cases hexists : e.files.pathExists usual
          · refine ⟨Config.ofFile e.files usual, checks_session fun s hs t ht => ⟨t, ?_, .refl t⟩⟩
            unfold Config.load
            simp only [hs, husual, hexists, if_true]
            rfl
          · refine ⟨.ok {}, checks_session fun s hs t ht => ?_⟩
            unfold Config.load
            simp only [hs, husual, hexists]
            exact ⟨_, rfl, .logged t _⟩

/-- The client for a configuration, in some surroundings. -/
def clientIn (e : Environment) (config : Config) : Except ReleaseError Client := do
  let api ← config.apiBase
  let repository ← config.repositoryOf
  let store ← config.trustStore e.files
  Client.make e.roots api repository store config.timeouts config.userAgent

theorem checks_clientOf (config : Config) : Checks e (clientOf config) (clientIn e config) := by
  refine checks_bind (checks_check _) fun api => checks_bind (checks_check _) fun repository => ?_
  refine checks_session ?_
  rintro s rfl
  exact checks_bind (checks_check _) fun store => checks_check _

/-- What a publication is prepared with, in some surroundings, from a configuration. -/
def preparedIn (e : Environment) (path : String) (config : Config) :
    Except ReleaseError (Config × PublishingClient) := do
  let token ← config.tokenOf e
  if !e.files.isFile path then throw (.artifactNotFound path)
  let client ← clientIn e config
  return (config, ⟨client, ← config.uploadBase, token⟩)

theorem checks_prepare {file : Option String} {loaded : Except ReleaseError Config}
    (hloaded : Checks e (loadConfig file) loaded) (path : String) :
    Checks e (prepare path file) (loaded >>= preparedIn e path) := by
  refine checks_bind hloaded fun config => checks_session ?_
  rintro s rfl
  refine checks_bind (checks_check _) fun token => ?_
  dsimp only
  have hclient : Checks s.environment (do
      let client ← clientOf config
      return (config, ⟨client, ← check config.uploadBase, token⟩)) (do
      let client ← clientIn s.environment config
      return (config, (⟨client, ← config.uploadBase, token⟩ : PublishingClient))) :=
    checks_bind (checks_clientOf config) fun client =>
      checks_bind (checks_check _) fun uploads => checks_pure _
  split
  · exact checks_bind (checks_throw _) fun _ => hclient
  · exact hclient

theorem api_of_clientIn {config : Config} {client : Client} (h : clientIn e config = .ok client) :
    config.apiBase = .ok client.api := by
  unfold clientIn at h
  obtain ⟨api, hapi, h⟩ := bind_eq_ok_iff.mp h
  obtain ⟨repository, -, h⟩ := bind_eq_ok_iff.mp h
  obtain ⟨store, -, h⟩ := bind_eq_ok_iff.mp h
  unfold Client.make at h
  split at h
  · cases h
  · cases h
    exact hapi

theorem of_preparedIn {path : String} {config config' : Config} {client : PublishingClient}
    (h : preparedIn e path config = .ok (config', client)) :
    config' = config ∧ clientIn e config = .ok client.toClient ∧
      config.uploadBase = .ok client.uploads := by
  unfold preparedIn at h
  obtain ⟨token, -, h⟩ := bind_eq_ok_iff.mp h
  dsimp only at h
  split at h
  · obtain ⟨done, hthrow, -⟩ := bind_eq_ok_iff.mp h
    cases hthrow
  · obtain ⟨plain, hclient, h⟩ := bind_eq_ok_iff.mp h
    obtain ⟨uploads, huploads, h⟩ := bind_eq_ok_iff.mp h
    cases h
    exact ⟨rfl, hclient, huploads⟩

theorem alike_run_prepare {path : String} {file : Option String} {s t : Session}
    {result : Except ReleaseError (Config × PublishingClient)}
    (h : (prepare path file).run.run s = (result, t)) : s.Alike t := by
  obtain ⟨loaded, hloaded⟩ := checks_loadConfig s.environment file
  obtain ⟨u, hrun, hst⟩ := checks_prepare hloaded path s rfl
  rw [h] at hrun
  obtain ⟨-, rfl⟩ := Prod.mk.inj hrun
  exact hst

theorem of_run_prepare {path : String} {file : Option String} {s t : Session} {config : Config}
    {client : PublishingClient}
    (h : (prepare path file).run.run s = (.ok (config, client), t)) :
    Checks s.environment (loadConfig file) (.ok config) ∧
      clientIn s.environment config = .ok client.toClient ∧
      config.uploadBase = .ok client.uploads := by
  obtain ⟨loaded, hloaded⟩ := checks_loadConfig s.environment file
  obtain ⟨u, hrun, -⟩ := checks_prepare hloaded path s rfl
  rw [h] at hrun
  obtain ⟨config', rfl, hprepared⟩ := bind_eq_ok_iff.mp (congrArg Prod.fst hrun).symm
  obtain ⟨rfl, hclient, huploads⟩ := of_preparedIn hprepared
  exact ⟨hloaded, hclient, huploads⟩

end Command

theorem run_bind_eq {α β : Type} {program : StateM Session α} {next : α → StateM Session β}
    {s t : Session} {a : α} (h : program.run s = (a, t)) :
    (program >>= next).run s = (next a).run t := by
  rw [StateT.run_bind, h]
  rfl

/-- The version for what is asked for and for what the latest release is found to be. -/
def decidedVersion (requested : Option String) (found : Option ReleaseVersion) :
    Except ReleaseError VersionNumber :=
  match requested, found with
  | some text, _ => (VersionNumber.parse text).mapError .version
  | none, some latest => .ok (.release latest.next)
  | none, none => .ok .development

theorem decidedVersion_some (text : String) (found : Option ReleaseVersion) :
    decidedVersion (some text) found = (VersionNumber.parse text).mapError .version := rfl

theorem of_decidedVersion_error {requested : Option String} {found : Option ReleaseVersion}
    {error : ReleaseError} (h : decidedVersion requested found = .error error) :
    ∃ text fault, requested = some text ∧ VersionNumber.parse text = .error fault ∧
      error = .version fault := by
  unfold decidedVersion at h
  split at h
  · rename_i text
    obtain ⟨fault, hparse, rfl⟩ := mapError_eq_error_iff.mp h
    exact ⟨text, fault, rfl, hparse, rfl⟩
  · cases h
  · cases h

/-- The latest release, if the lookup of it in a session succeeds. -/
def Client.found? (c : Client) (s : Session) : Option ReleaseVersion :=
  (c.latest.run s).1.toOption

/-- The session once the latest release has been looked up, unless a version is asked for. -/
def Client.lookedUp (c : Client) (s : Session) : Session :=
  match Config.versionOverride? s.environment with
  | some _ => s
  | none => (c.latest.run s).2

theorem Client.found?_eq (c : Client) {s t : Session} (h : s.Alike t) : c.found? t = c.found? s :=
  congrArg Except.toOption (c.alike_run_perform _ h).1

theorem Client.alike_lookedUp (c : Client) {s t : Session} (h : s.Alike t) :
    (c.lookedUp s).Alike (c.lookedUp t) := by
  unfold lookedUp
  rw [h.environment]
  split
  · exact h
  · exact (c.alike_run_perform _ h).2

theorem Client.lookedUp_of_requested (c : Client) {s : Session} {text : String}
    (h : Config.versionOverride? s.environment = some text) : c.lookedUp s = s := by
  unfold lookedUp
  rw [h]

theorem run_versionFor (c : Client) (s : Session) :
    ∃ t, (Command.versionFor c.source).run.run s =
        (decidedVersion (Config.versionOverride? s.environment) (c.found? s), t) ∧
      (c.lookedUp s).Alike t := by
  have hrun : (Command.versionFor c.source).run.run s =
      (determineVersion c.source (Config.versionOverride? s.environment)).run s := rfl
  rw [hrun]
  unfold determineVersion Client.lookedUp Client.found?
  cases Config.versionOverride? s.environment with
  | some text =>
      dsimp only [decidedVersion]
      cases VersionNumber.parse text with
      | error error => exact ⟨s, rfl, .refl s⟩
      | ok version => exact ⟨_, rfl, .logged s _⟩
  | none =>
      dsimp only [Client.source]
      rcases hlatest : c.latest.run s with ⟨found | found, t⟩
      · rw [run_bind_eq hlatest]
        exact ⟨_, rfl, .logged t _⟩
      · rw [run_bind_eq hlatest]
        exact ⟨_, rfl, .logged t _⟩

theorem run_report_bind {β : Type} (level : Log.Level) (message : String)
    (fields : List (String × String)) (next : StateM Session β) (s : Session) :
    (do report level message fields; next : StateM Session β).run s =
      next.run (s.logged ⟨level, .release, message, fields⟩) := rfl

end ReleaseLine
