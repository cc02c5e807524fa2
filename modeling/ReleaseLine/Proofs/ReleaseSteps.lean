import ReleaseLine.Proofs.Publication

/-!
What determining and publishing ask of the service behind them, whatever the service answers. Every
call is noted with its answer; a sequence of steps then asks one block of calls for each step, and
what a step comes to is told by its own block.
-/

namespace ReleaseLine

/-- Whatever looks releases up and publishes them. -/
structure Service (m : Type → Type) where
  source : ReleaseSource m
  publisher : ReleasePublisher m

/-- A call that was made, with its answer. -/
structure Answered where
  call : Call
  answer : Except Failure call.Answer

namespace Answered

def failure? (a : Answered) : Option Failure :=
  match a.answer with
  | .ok _ => none
  | .error failure => some failure

/-- The identifier that the creation of a release returned. -/
def created? : Answered → Option ReleaseId
  | ⟨.create _, .ok id⟩ => some id
  | _ => none

end Answered

def Call.isPublishing : Call → Bool
  | .latest => false
  | .create _ | .upload .. => true

/-- The log of a publisher: its calls without their answers. -/
def publisherLog (asked : List Answered) : List Call :=
  (asked.map (·.call)).filter Call.isPublishing

theorem publisherLog_append (first second : List Answered) :
    publisherLog (first ++ second) = publisherLog first ++ publisherLog second := by
  simp [publisherLog]

namespace Service

variable {m : Type → Type} [Monad m]

instance {ρ : Type} [Log.Logging m] : Log.Logging (StateT ρ m) where
  log record := StateT.lift (Log.Logging.log record)

def ask (service : Service m) : (call : Call) → m (Except Failure call.Answer)
  | .latest => service.source.latest
  | .create version => service.publisher.create version
  | .upload id artifact => service.publisher.upload id artifact

def note (service : Service m) (call : Call) :
    StateT (List Answered) m (Except Failure call.Answer) := do
  let answer ← StateT.lift (service.ask call)
  modify (· ++ [⟨call, answer⟩])
  return answer

/-- The same service, with every call noted. -/
def recorded (service : Service m) : Service (StateT (List Answered) m) where
  source := ⟨service.note .latest⟩
  publisher :=
    ⟨fun version => service.note (.create version),
      fun id artifact => service.note (.upload id artifact)⟩

end Service

inductive Step where
  | determine (requested : Option String)
  | publish (version : VersionNumber) (artifact : Artifact)
deriving DecidableEq

namespace Step

abbrev Answer : Step → Type
  | determine _ => VersionNumber
  | publish .. => ReleaseId

/-- A step that was taken, with what it came to. -/
structure Taken where
  step : Step
  result : Except ReleaseError step.Answer

section

variable {m : Type → Type} [Monad m] [Log.Logging m]

def run (service : Service m) : (step : Step) → m (Except ReleaseError step.Answer)
  | determine requested => determineVersion service.source requested
  | publish version artifact => ReleaseLine.publish service.publisher version artifact

def runAll (service : Service m) : List Step → m (List Taken)
  | [] => return []
  | step :: rest => do
    let result ← step.run service
    return ⟨step, result⟩ :: (← runAll service rest)

end

section Records

variable {σ α β : Type}

/-- From a state on, a program and its recorded version come to the same and end in the same state,
and so much is noted besides. -/
def Records (program : StateM σ α) (recorded : StateT (List Answered) (StateM σ) α) (s : σ)
    (a : α) (asked : List Answered) (t : σ) : Prop :=
  program.run s = (a, t) ∧ ∀ before, (recorded.run before).run s = ((a, before ++ asked), t)

theorem records_pure (a : α) (s : σ) : Records (pure a) (pure a) s a [] s := by
  constructor
  · rfl
  · intro before
    rw [List.append_nil]
    rfl

theorem records_bind {program : StateM σ α} {recorded : StateT (List Answered) (StateM σ) α}
    {next : α → StateM σ β} {next' : α → StateT (List Answered) (StateM σ) β} {s t u : σ} {a : α}
    {b : β} {asked asked' : List Answered} (h : Records program recorded s a asked t)
    (hnext : Records (next a) (next' a) t b asked' u) :
    Records (program >>= next) (recorded >>= next') s b (asked ++ asked') u := by
  constructor
  · rw [StateT.run_bind, h.1]
    exact hnext.1
  · intro before
    rw [StateT.run_bind, StateT.run_bind, h.2 before, ← List.append_assoc]
    exact hnext.2 (before ++ asked)

theorem records_note (service : Service (StateM σ)) (call : Call) (s : σ) :
    ∃ answer t, Records (service.ask call) (service.note call) s answer [⟨call, answer⟩] t :=
  ⟨((service.ask call).run s).1, ((service.ask call).run s).2, rfl, fun _ => rfl⟩

theorem records_report [Log.Logging (StateM σ)] (level : Log.Level) (message : String)
    (fields : List (String × String)) (s : σ) :
    ∃ t, Records (report level message fields) (report level message fields) s () [] t := by
  refine ⟨((report (m := StateM σ) level message fields).run s).2, rfl, ?_⟩
  intro before
  rw [List.append_nil]
  rfl

end Records

/-- The version is determined. Only the source is asked, once, and only where no version is asked
for. -/
structure Determines (requested : Option String) (result : Except ReleaseError VersionNumber)
    (asked : List Answered) : Prop where
  calls : asked.map (·.call) = if requested.isSome then [] else [.latest]
  overridden : ∀ text, requested = some text →
    result = (VersionNumber.parse text).mapError .version
  succeeds : requested = none → ∃ version, result = .ok version
  development_iff : requested = none →
    (result = .ok .development ↔ ∃ failure, asked = [⟨.latest, .error failure⟩])
  next : ∀ latest, asked = [⟨.latest, .ok latest⟩] → result = .ok (.release latest.next)

/-- The calls of a publication, given the identifier that its creation of the release returned. -/
def publicationCalls (version : VersionNumber) (artifact : Artifact) (created : Option ReleaseId) :
    List Call :=
  match version, created with
  | .development, _ => []
  | .release v, none => [.create v]
  | .release v, some id => [.create v, .upload id artifact]

/-- An error of publishing itself, for a reason that its message gives. -/
def RefusesFor (error : ReleaseError) (reason : String) : Prop :=
  error.IsPublishing ∧ error.message = "Release failed: " ++ reason

/-- A version is published. The calls follow from what the creation of the release returned, and a
failure is that of the last call. -/
structure Publishes (version : VersionNumber) (artifact : Artifact)
    (result : Except ReleaseError ReleaseId) (asked : List Answered) : Prop where
  calls : asked.map (·.call) =
    publicationCalls version artifact (asked.findSome? Answered.created?)
  success : ∀ id, result = .ok id ↔ ∃ v, version = .release v ∧
    asked = [⟨.create v, .ok id⟩, ⟨.upload id artifact, .ok ()⟩]
  refusal : version = .development →
    ∃ error, result = .error error ∧ RefusesFor error "Cannot release development version"
  failure : version ≠ .development → ∀ error, result = .error error →
    ∃ last failure, asked.getLast? = some last ∧ last.failure? = some failure ∧
      RefusesFor error failure.format

def Conforms : Taken → List Answered → Prop
  | ⟨.determine requested, result⟩, asked => Determines requested result asked
  | ⟨.publish version artifact, result⟩, asked => Publishes version artifact result asked

/-- The block of a step in the log of the publisher. -/
def Taken.block (taken : Taken) (asked : List Answered) : List Call :=
  match taken.step with
  | .determine _ => []
  | .publish version artifact =>
    publicationCalls version artifact (asked.findSome? Answered.created?)

theorem isPublishing_of_mem_publicationCalls {version : VersionNumber} {artifact : Artifact}
    {created : Option ReleaseId} {call : Call}
    (h : call ∈ publicationCalls version artifact created) : call.isPublishing = true := by
  unfold publicationCalls at h
  split at h
  · cases h
  · obtain rfl := List.mem_singleton.mp h
    rfl
  · rcases List.mem_pair.mp h with rfl | rfl
    · rfl
    · rfl

theorem publisherLog_of_conforms {taken : Taken} {asked : List Answered}
    (h : Conforms taken asked) : publisherLog asked = taken.block asked := by
  rcases taken with ⟨requested | ⟨version, artifact⟩, result⟩
  · have hcalls := h.calls
    unfold publisherLog
    rw [hcalls]
    cases requested with
    | none => rfl
    | some text => rfl
  · have hcalls := h.calls
    unfold publisherLog
    rw [hcalls]
    exact List.filter_eq_self.mpr fun call hcall => isPublishing_of_mem_publicationCalls hcall

variable {σ : Type} [Log.Logging (StateM σ)]

theorem determines_overridden (text : String) :
    Determines (some text) ((VersionNumber.parse text).mapError .version) [] := by
  constructor
  · rfl
  · rintro other ⟨⟩
    rfl
  · rintro ⟨⟩
  · rintro ⟨⟩
  · rintro latest ⟨⟩

theorem determines_found (latest : ReleaseVersion) :
    Determines none (.ok (.release latest.next)) [⟨.latest, .ok latest⟩] := by
  constructor
  · rfl
  · rintro text ⟨⟩
  · exact fun _ => ⟨_, rfl⟩
  · intro _
    constructor
    · rintro ⟨⟩
    · rintro ⟨failure, ⟨⟩⟩
  · rintro other ⟨⟩
    rfl

theorem determines_notFound (failure : Failure) :
    Determines none (.ok .development) [⟨.latest, .error failure⟩] := by
  constructor
  · rfl
  · rintro text ⟨⟩
  · exact fun _ => ⟨_, rfl⟩
  · exact fun _ => ⟨fun _ => ⟨failure, rfl⟩, fun _ => rfl⟩
  · rintro latest ⟨⟩

theorem records_determine (service : Service (StateM σ)) (requested : Option String) (s : σ) :
    ∃ result asked t, Records (determineVersion service.source requested)
        (determineVersion service.recorded.source requested) s result asked t ∧
      Determines requested result asked := by
  unfold determineVersion
  cases requested with
  | some text =>
      have hdetermines := determines_overridden text
      cases hparse : VersionNumber.parse text with
      | error error =>
          rw [hparse] at hdetermines
          refine ⟨_, [], s, ?_, hdetermines⟩
          simp only [hparse]
          exact records_pure _ s
      | ok version =>
          rw [hparse] at hdetermines
          obtain ⟨t, hreport⟩ := records_report .info "Using version override"
            [("version", version.render)] s
          refine ⟨_, [], t, ?_, hdetermines⟩
          simp only [hparse]
          exact records_bind hreport (records_pure _ t)
  | none =>
      obtain ⟨answer, t, hlatest⟩ := records_note service .latest s
      cases answer with
      | ok latest =>
          obtain ⟨u, hreport⟩ := records_report .info "Determined next version"
            [("latest", latest.render), ("version", latest.next.render)] t
          exact ⟨_, _, u, records_bind hlatest (records_bind hreport (records_pure _ u)),
            determines_found latest⟩
      | error failure =>
          obtain ⟨u, hreport⟩ := records_report .warn
            ("Failed to get latest release version, using development version\n" ++ failure.format)
            [] t
          exact ⟨_, _, u, records_bind hlatest (records_bind hreport (records_pure _ u)),
            determines_notFound failure⟩

theorem refusesFor_developmentVersion :
    RefusesFor .developmentVersion "Cannot release development version" := ⟨trivial, rfl⟩

theorem refusesFor_publish (failure : Failure) : RefusesFor (.publish failure) failure.format :=
  ⟨trivial, rfl⟩

theorem publishes_development (artifact : Artifact) :
    Publishes .development artifact (.error .developmentVersion) [] := by
  constructor
  · rfl
  · intro id
    constructor
    · rintro ⟨⟩
    · rintro ⟨v, ⟨⟩, -⟩
  · exact fun _ => ⟨_, rfl, refusesFor_developmentVersion⟩
  · exact fun h => absurd rfl h

theorem publishes_notCreated (v : ReleaseVersion) (artifact : Artifact) (failure : Failure) :
    Publishes (.release v) artifact (.error (.publish failure))
      [⟨.create v, .error failure⟩] := by
  constructor
  · rfl
  · intro id
    constructor
    · rintro ⟨⟩
    · rintro ⟨w, -, ⟨⟩⟩
  · rintro ⟨⟩
  · rintro - error ⟨⟩
    exact ⟨_, failure, rfl, rfl, refusesFor_publish failure⟩

theorem publishes_notUploaded (v : ReleaseVersion) (artifact : Artifact) (id : ReleaseId)
    (failure : Failure) :
    Publishes (.release v) artifact (.error (.publish failure))
      [⟨.create v, .ok id⟩, ⟨.upload id artifact, .error failure⟩] := by
  constructor
  · rfl
  · intro other
    constructor
    · rintro ⟨⟩
    · rintro ⟨w, -, ⟨⟩⟩
  · rintro ⟨⟩
  · rintro - error ⟨⟩
    exact ⟨_, failure, rfl, rfl, refusesFor_publish failure⟩

theorem publishes_uploaded (v : ReleaseVersion) (artifact : Artifact) (id : ReleaseId) :
    Publishes (.release v) artifact (.ok id)
      [⟨.create v, .ok id⟩, ⟨.upload id artifact, .ok ()⟩] := by
  constructor
  · rfl
  · intro other
    constructor
    · rintro ⟨⟩
      exact ⟨v, rfl, rfl⟩
    · rintro ⟨w, -, ⟨⟩⟩
      rfl
  · rintro ⟨⟩
  · rintro - error ⟨⟩

theorem records_publish (service : Service (StateM σ)) (version : VersionNumber)
    (artifact : Artifact) (s : σ) :
    ∃ result asked t, Records (ReleaseLine.publish service.publisher version artifact)
        (ReleaseLine.publish service.recorded.publisher version artifact) s result asked t ∧
      Publishes version artifact result asked := by
  unfold ReleaseLine.publish
  cases version with
  | development => exact ⟨_, [], s, records_pure _ s, publishes_development artifact⟩
  | release v =>
      obtain ⟨t, hstart⟩ := records_report .info "Creating release" [("version", v.render)] s
      obtain ⟨created, u, hcreate⟩ := records_note service (.create v) t
      cases created with
      | error failure =>
          exact ⟨_, _, u, records_bind hstart (records_bind hcreate (records_pure _ u)),
            publishes_notCreated v artifact failure⟩
      | ok id =>
          obtain ⟨w, hbetween⟩ := records_report .info "Uploading artifact"
            [("release_id", id.text), ("artifact", artifact.path)] u
          obtain ⟨uploaded, x, hupload⟩ := records_note service (.upload id artifact) w
          cases uploaded with
          | error failure =>
              exact ⟨_, _, x, records_bind hstart (records_bind hcreate (records_bind hbetween
                (records_bind hupload (records_pure _ x)))),
                publishes_notUploaded v artifact id failure⟩
          | ok done =>
              obtain ⟨y, hend⟩ := records_report .info "Released"
                [("version", v.render), ("release_id", id.text)] x
              exact ⟨_, _, y, records_bind hstart (records_bind hcreate (records_bind hbetween
                (records_bind hupload (records_bind hend (records_pure _ y))))),
                publishes_uploaded v artifact id⟩

theorem records_run (service : Service (StateM σ)) (step : Step) (s : σ) :
    ∃ result asked t, Records (step.run service) (step.run service.recorded) s result asked t ∧
      Conforms ⟨step, result⟩ asked := by
  cases step with
  | determine requested => exact records_determine service requested s
  | publish version artifact => exact records_publish service version artifact s

theorem records_runAll (service : Service (StateM σ)) (steps : List Step) (s : σ) :
    ∃ taken asked t,
      Records (runAll service steps) (runAll service.recorded steps) s taken asked.flatten t ∧
      taken.map (·.step) = steps ∧ List.Forall₂ Conforms taken asked := by
  induction steps generalizing s with
  | nil => exact ⟨[], [], s, records_pure [] s, rfl, .nil⟩
  | cons step rest ih =>
      obtain ⟨result, first, t, hstep, hconforms⟩ := records_run service step s
      obtain ⟨taken, asked, u, hrest, hsteps, hall⟩ := ih t
      have hlater : Records (do return ⟨step, result⟩ :: (← runAll service rest))
          (do return ⟨step, result⟩ :: (← runAll service.recorded rest)) t
          (⟨step, result⟩ :: taken) (asked.flatten ++ []) u :=
        records_bind hrest (records_pure _ u)
      rw [List.append_nil] at hlater
      refine ⟨⟨step, result⟩ :: taken, first :: asked, u, ?_, ?_, .cons hconforms hall⟩
      · exact records_bind hstep hlater
      · rw [List.map_cons, hsteps]

theorem publisherLog_flatten {taken : List Taken} {asked : List (List Answered)}
    (h : List.Forall₂ Conforms taken asked) :
    publisherLog asked.flatten = (List.zipWith Taken.block taken asked).flatten := by
  induction h with
  | nil => rfl
  | cons hconforms _ ih =>
      rw [List.flatten_cons, publisherLog_append, ih, publisherLog_of_conforms hconforms]
      rfl

/-- Whatever a service answers, a sequence of steps asks it one block of calls for each step, in
their order, and each step comes to what its own block tells. Recording the calls changes nothing,
and the log of the publisher is the blocks of the steps one after the other. -/
theorem runAll_blocks (service : Service (StateM σ)) (steps : List Step) (s : σ) :
    ∃ taken asked t,
      (runAll service steps).run s = (taken, t) ∧
      (∀ before, ((runAll service.recorded steps).run before).run s =
        ((taken, before ++ asked.flatten), t)) ∧
      taken.map (·.step) = steps ∧
      List.Forall₂ Conforms taken asked ∧
      publisherLog asked.flatten = (List.zipWith Taken.block taken asked).flatten := by
  obtain ⟨taken, asked, t, ⟨hrun, hrecorded⟩, hsteps, hall⟩ := records_runAll service steps s
  exact ⟨taken, asked, t, hrun, hrecorded, hsteps, hall, publisherLog_flatten hall⟩

end Step

end ReleaseLine
