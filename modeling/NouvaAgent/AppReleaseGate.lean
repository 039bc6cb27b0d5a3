import NouvaAgent.AppRolloutCalls
import NouvaAgent.GatedReleases

namespace NouvaAgent.AppRelease

open Text Interaction Method ReleaseJobs ReleaseGate BuildAndDeploy

variable (d : AppRelease)

def containerName : String :=
  "nouva-app-" ++ slice 8 d.payload.serviceId ++ "-" ++ slice 8 d.payload.deploymentId

def recordedContainer : Option String :=
  d.payload.runtimeMetadata.containerName.or d.payload.runtimeMetadata.containerId

def networkName : String := d.config.projectNetwork d.payload.projectId

def TakenBack : Prop := ∃ jobs, d.payload.releaseJobs = some jobs ∧ jobs.verificationRolledBack = true

def ListedCandidate (id : String) (h : AgentHistory) : Prop :=
  ∃ labels containers, ⟨.request (.listContainersByLabels labels), some (.ok containers)⟩ ∈ h ∧
    ∃ container ∈ containers, container.id = id ∧ withoutSlash container.name = d.containerName

/-- What a deployment may do before the gate is cleared, besides its job: build and look, take away a
container listed under the candidate's name, and finish taking back what was. -/
def Preparatory (c : BuildCall) (before : AgentHistory) : Prop :=
  match c with
  | .allocateAvailableLocalPort => True
  | .ensureContainer spec replace => replace = true ∧ ∃ port resources,
    spec = buildBuildkitContainerSpec d.config
      (buildScopedBuildkitContainerName d.payload.deploymentId) port resources
      d.payload.deploymentId d.payload.serviceId (buildBuildkitCacheVolumeName d.payload.serviceId)
  | .fetchLocalRegistry _ => False
  | .buildApp options => ∃ buildkit, options = d.payload.buildOptions d.config buildkit
  | .agent .now | .agent (.sleep _) => True
  | .agent (.request r) => match r with
    | .inspectContainer _ | .inspectImage _ | .inspectVolume _ | .countContainerExits _ _ _
    | .listContainersByLabels _ | .listContainersUsingVolume _ | .checkTcpConnect _ _ _
    | .fetchTraefikServices | .ensureBaseRuntime => True
    | .ensureNetwork name _ => name = d.networkName
    | .connectNetwork name container =>
      name = d.networkName ∧ container = d.config.traefikContainerName
    | .createVolume name _ => name = buildBuildkitCacheVolumeName d.payload.serviceId
    | .removeContainer name _ _ =>
      name = buildScopedBuildkitContainerName d.payload.deploymentId ∨
        d.ListedCandidate name before ∨ (d.TakenBack ∧ name = d.containerName)
    | .writeLocalTraefikRoute serviceId _ serviceUrl _ =>
      d.TakenBack ∧ serviceId = d.payload.serviceId ∧ ∃ previous, ∃ port : ℤ,
        d.recordedContainer = some previous ∧
          serviceUrl = "http://" ++ previous ++ ":" ++ toString port
    | .removeImage image _ =>
      d.TakenBack ∧ shouldRetainImageReference d.payload.runtimeMetadata image = false
    | _ => False

def gate : ActivationGate where
  releasePhases := d.releasePhases
  releaseJobs := d.payload.releaseJobs
  serviceId := d.payload.serviceId
  deploymentId := d.payload.deploymentId
  Target built target := ∃ r : AppRollout, r.toAppDeployment = d.deployment built ∧
    appResourceSettings d.payload.resourceLimits = .ok r.resources ∧ target = r.releaseTarget
  Preparatory := d.Preparatory

variable {d : AppRelease} {built : BuildAppResult} {α : Type} {r : AppRollout}
  {targets : ReleaseJobTarget → Prop}

/-! The daemon. -/

theorem triple_daemons : Triple recording
    (Only (buildScopedBuildkitContainerName d.payload.deploymentId)) NoDaemon
    d.handleBuildAndDeployApp (fun _ => DaemonsRemoved) DaemonsRemoved := by
  apply Triple.bind (R := fun _ => NoDaemon)
  · apply (triple_daemonless deferWhileBlocking_daemonless).mono
    · exact fun _ h => h
    · exact fun _ _ h => h
    · exact fun _ h => h.removed
  intro _
  apply Triple.bind (triple_prepareAppBuildkitRuntime _ _ _ _)
  intro buildkit
  apply triple_build
  · apply uses_bind (agent_daemonless _)
    intro _
    apply uses_bind (buildApp_uses (daemonless_buildApp _))
    exact fun built => agent_daemonless _
  · exact triple_removeBuildkit d.payload.deploymentId

/-! The gate. -/

abbrev Open (d : AppRelease) (c : AgentCall) : Prop := d.gate.Open (.agent c)

theorem safe_open {σ : Type} {p : AgentMethod σ α} (hp : p.Uses d.Open) :
    Safe (d.gate.AgentGated targets) p :=
  hp.safe fun _ _ h hc => .inr (.inl (hc h))

theorem open_now : d.Open .now := fun _ => trivial

theorem open_sleep (ms : ℤ) : d.Open (.sleep ms) := fun _ => trivial

theorem open_probe (name : String) (c : AgentCall) (hc : AppDeployment.ProbeCall name c) : d.Open c := by
  cases c with
  | now => exact open_now
  | sleep ms => exact open_sleep ms
  | request q =>
    intro h
    cases q with
    | inspectContainer n | countContainerExits id sinceMs untilMs | checkTcpConnect host port ms =>
      exact trivial
    | _ => exact False.elim hc

theorem prepareNetwork_open : (d.deployment built).prepareNetwork.Uses d.Open := by
  apply uses_bind (Agent.uses_request fun _ => trivial)
  intro _
  apply uses_bind (Agent.uses_request fun _ => rfl)
  exact fun _ => Agent.uses_request fun _ => ⟨rfl, rfl⟩

theorem candidateMatches_open {e : AppDeployment} {candidate : DockerContainerInspection} :
    (e.candidateMatches candidate).Uses d.Open := by
  have hextra (declared : List String) (configured : List HostConfigMount)
      (mounts : List ContainerMount) :
      (AppDeployment.extraMountsMatch e.payload.volume declared configured mounts).Uses d.Open := by
    induction mounts with
    | nil => exact uses_pure _
    | cons mount rest ih =>
      unfold AppDeployment.extraMountsMatch
      split
      · exact uses_pure _
      · apply uses_bind (Agent.uses_request fun _ => trivial)
        intro inspected
        split
        · exact ih
        · exact uses_pure _
  have hdeclared : (AppDeployment.declaredVolumes candidate).Uses d.Open := by
    unfold AppDeployment.declaredVolumes
    split
    · exact uses_pure _
    · exact uses_bind (Agent.uses_request fun _ => trivial) fun _ => uses_pure _
  unfold AppDeployment.candidateMatches
  split
  · unfold AppDeployment.appCandidateMountsMatch
    dsimp only
    split
    · exact uses_pure _
    · split
      · exact uses_pure _
      · apply uses_bind hdeclared
        intro declared
        split
        · split
          · exact uses_pure _
          · exact hextra _ _ _
        · exact uses_pure _
  · exact uses_pure _

def Found (d : AppRelease) (built : BuildAppResult) (r : AppRollout) : Prop :=
  r.toAppDeployment = d.deployment built ∧
    appResourceSettings d.payload.resourceLimits = .ok r.resources ∧
    (r.previousContainer = none ∨ r.previousContainer = d.recordedContainer)

theorem livePreviousContainer_recorded {candidate : DockerContainerInspection} :
    ((d.deployment built).livePreviousContainer candidate).Confined (fun _ => True) fun previous =>
      previous = none ∨ previous = d.recordedContainer := by
  have hrecorded (c : Prop) [Decidable c] : (if c then none else d.recordedContainer) = none ∨
      (if c then none else d.recordedContainer) = d.recordedContainer := by
    split
    · exact .inl rfl
    · exact .inr rfl
  unfold AppDeployment.livePreviousContainer
  dsimp only
  split
  · exact confined_pure (hrecorded _)
  · apply confined_bind (confined_any _)
    intro found _
    apply confined_pure
    split
    · exact hrecorded _
    · exact .inl rfl

theorem settleExistingCandidate_recorded {existing : Option DockerContainerInspection} :
    ((d.deployment built).settleExistingCandidate existing).Confined (fun _ => True) fun found =>
      found.1 = none ∨ found.1 = d.recordedContainer := by
  cases existing with
  | none => exact confined_pure (.inr rfl)
  | some candidate =>
    apply confined_bind (confined_any _)
    intro accepted _
    split
    · apply confined_bind livePreviousContainer_recorded
      intro previous hprevious
      split
      · exact confined_bind (confined_any _) fun _ _ => confined_pure hprevious
      · exact confined_bind (confined_any _) fun _ _ => confined_bind (confined_any _) fun _ _ =>
          confined_bind (confined_any _) fun _ _ => confined_pure hprevious
    · exact confined_throw

theorem settleExistingCandidate_uses {existing : Option DockerContainerInspection} :
    ((d.deployment built).settleExistingCandidate existing).Uses fun c => d.Open c ∨
      ∃ candidate, existing = some candidate ∧ c = .request (.removeContainer candidate.id true none) := by
  have hopen {β : Type} {p : AgentAction β} (hp : p.Uses d.Open) : p.Uses fun c => d.Open c ∨
      ∃ candidate, existing = some candidate ∧
        c = .request (.removeContainer candidate.id true none) := hp.mono fun _ => .inl
  have huse (expected : Option String) : ((d.deployment built).assertVolumeUse expected).Uses d.Open := by
    unfold AppDeployment.assertVolumeUse
    split
    · exact uses_pure ()
    · exact AppRollout.assertSingleRunningVolumeConsumer_uses fun _ => trivial
  cases existing with
  | none => exact uses_pure _
  | some candidate =>
    apply uses_bind (hopen candidateMatches_open)
    intro accepted
    split
    · apply uses_bind
      · apply hopen
        unfold AppDeployment.livePreviousContainer
        dsimp only
        split
        · exact uses_pure _
        · exact uses_bind (Agent.uses_request fun _ => trivial) fun _ => uses_pure _
      intro previous
      split
      · exact uses_bind (hopen (huse _)) fun _ => uses_pure _
      · apply uses_bind (Agent.uses_request (.inr ⟨candidate, rfl, rfl⟩))
        intro _
        apply uses_bind (hopen (AppRollout.verifyContainerAbsent_uses fun _ _ => trivial))
        intro _
        exact uses_bind (hopen (huse _)) fun _ => uses_pure _
    · exact uses_throw _

theorem deployment_resourceLimits :
    (d.deployment built).payload.resourceLimits = d.payload.resourceLimits := rfl

theorem triple_findRollout : Triple recording (Along (d.gate.AgentGated targets)) (fun _ => True)
    (d.deployment built).findRollout (fun r _ => d.Found built r) fun _ => True := by
  apply Triple.bind (R := fun resources _ =>
    appResourceSettings d.payload.resourceLimits = .ok resources)
  · refine triple_ofExcept (fun resources hresources _ _ => ?_) fun _ _ => trivial
    cases hlimits : appResourceSettings d.payload.resourceLimits with
    | error text =>
      rw [deployment_resourceLimits, hlimits] at hresources
      cases hresources
    | ok settings =>
      rw [deployment_resourceLimits, hlimits] at hresources
      exact congrArg Except.ok (Except.ok.inj hresources)
  intro resources s h hJ hresources
  revert s h hJ
  suffices hfound : Triple recording (Along (d.gate.AgentGated targets)) (fun _ => True) _
    (fun r _ => d.Found built r) fun _ => True from fun s h hJ => hfound s h hJ trivial
  apply Triple.bind (R := fun containers h => ∀ container ∈ containers,
    withoutSlash container.name = d.containerName → d.ListedCandidate container.id h)
  · apply triple_request
    · exact fun _ _ _ => .inr (.inl trivial)
    · exact fun containers h _ container hmem hname =>
        ⟨[], containers, List.mem_cons_self, container, hmem, rfl, hname⟩
    · exact fun _ _ _ => trivial
  intro containers
  apply Triple.bind (R := fun found _ => found.1 = none ∨ found.1 = d.recordedContainer)
  · have hlisted (candidate : DockerContainerInspection) (hfound : (containers.find? fun container =>
        withoutSlash container.name = (d.deployment built).containerName) = some candidate) :
        candidate ∈ containers ∧ withoutSlash candidate.name = d.containerName :=
      ⟨List.mem_of_find?_eq_some hfound, of_decide_eq_true (List.find?_some
        (p := fun container : DockerContainerInspection =>
          decide (withoutSlash container.name = d.containerName)) hfound)⟩
    apply ((settleExistingCandidate_uses.triple_along ?_ ?_).returning
      settleExistingCandidate_recorded).mono
    · exact fun _ h => h
    · exact fun _ _ h => h.2
    · exact fun _ _ => trivial
    · rintro c a h (hc | ⟨candidate, hfound, rfl⟩) hw
      · exact .inr (.inl (hc h))
      · obtain ⟨hmem, hname⟩ := hlisted candidate hfound
        exact .inr (.inl (.inr (.inl (hw candidate hmem hname))))
    · apply Persistent.forall
      intro container
      apply Persistent.forall
      intro _
      apply Persistent.forall
      intro _
      apply persistent_recording
      rintro e h ⟨labels, containers, hm, hlisted⟩
      exact ⟨labels, containers, List.mem_cons_of_mem _ hm, hlisted⟩
  rintro ⟨previousContainer, adoptedCandidate⟩
  intro s h hJ hprevious
  apply wp_bind_of (R := fun _ _ h => Along (d.gate.AgentGated targets) h)
  · have himage : (d.deployment built).resolveImageId.Uses d.Open := by
      unfold AppDeployment.resolveImageId
      split
      · exact uses_bind (Agent.uses_request fun _ => trivial) fun _ => uses_pure _
      · exact uses_pure _
    apply wp_mono (safe_open himage s h hJ trivial)
    · exact fun _ _ _ h => h.1
    · exact fun _ _ _ h => h
    · exact fun _ h => h
  · exact fun image s h hJ => ⟨hJ, rfl, hresources, hprevious⟩

theorem routeTo_open {serviceUrl : String}
    (hwrite : ∀ hostnames, d.Open (.request
      (.writeLocalTraefikRoute d.payload.serviceId hostnames serviceUrl none))) :
    ((d.deployment built).routeTo serviceUrl).Uses d.Open := by
  have hpoll (deadline : ℤ) (fuel : ℕ) (lastError : String) :
      ((d.deployment built).pollCutover serviceUrl deadline fuel lastError).Uses d.Open := by
    induction fuel generalizing lastError with
    | zero => exact uses_cut
    | succ fuel ih =>
      apply uses_bind (Agent.uses_now open_now)
      intro time
      split
      · apply uses_bind (Agent.uses_request fun _ => trivial)
        intro response
        cases response with
        | failed status => exact uses_bind (Agent.uses_sleep (open_sleep _)) fun _ => ih _
        | ok services =>
          dsimp only
          split
          · exact uses_pure ()
          · exact uses_bind (Agent.uses_sleep (open_sleep _)) fun _ => ih _
      · exact uses_throw _
  apply uses_bind (Agent.uses_request (hwrite _))
  intro _
  exact uses_bind (Agent.uses_now open_now) fun time => hpoll _ _ _

theorem removeRejectedImage_open (htaken : d.TakenBack) (hr : r.toAppDeployment = d.deployment built) :
    r.removeRejectedImage.Uses d.Open := by
  unfold AppRollout.removeRejectedImage
  rw [hr]
  split
  · unfold AppDeployment.removeRejectedAppImage
    split
    · exact uses_pure ()
    · next hretain =>
      have hremove : (Agent.request (.removeImage (d.deployment built).payload.imageUrl true) :
          AgentAction Unit).Uses d.Open :=
        Agent.uses_request fun _ => ⟨htaken, Bool.eq_false_of_not_eq_true hretain⟩
      exact uses_bind (uses_settle hremove) fun _ => uses_pure ()
  · exact uses_pure ()

theorem release_some {runner : ReleasePhaseRunner} {jobs : DeploymentReleasePlan}
    (hr : r.toAppDeployment = d.deployment built) (hrelease : r.release = some (runner, jobs)) :
    d.releasePhases = some runner ∧ d.payload.releaseJobs = some jobs := by
  unfold AppRollout.release at hrelease
  rw [hr] at hrelease
  split at hrelease
  · next hphases hjobs =>
    cases hrelease
    exact ⟨hphases, hjobs⟩
  · cases hrelease

theorem release_none (hr : r.toAppDeployment = d.deployment built) (hrelease : r.release = none) :
    preActivationOf d.releasePhases d.payload.releaseJobs = none := by
  unfold AppRollout.release at hrelease
  rw [hr] at hrelease
  unfold preActivationOf
  cases hphases : d.releasePhases with
  | none => rfl
  | some runner =>
    cases hjobs : d.payload.releaseJobs with
    | none => rfl
    | some jobs =>
      have hsome : (d.deployment built).releasePhases = some runner := hphases
      have hplan : (d.deployment built).payload.releaseJobs = some jobs := hjobs
      rw [hsome, hplan] at hrelease
      cases hrelease

theorem finishRejectedRelease_open (hr : d.Found built r) : r.finishRejectedRelease.Uses d.Open := by
  obtain ⟨hdeployment, -, hrecorded⟩ := hr
  unfold AppRollout.finishRejectedRelease
  split
  · next runner jobs previous serviceUrl hrelease hprevious hurl =>
    split
    · next hrolledBack =>
      have htaken : d.TakenBack := ⟨jobs, (release_some hdeployment hrelease).2, hrolledBack⟩
      have hwrite (hostnames : RouteHostnames) : d.Open (.request
          (.writeLocalTraefikRoute d.payload.serviceId hostnames serviceUrl none)) := by
        intro h
        refine ⟨htaken, rfl, previous, r.previousPort, ?_, ?_⟩
        · have hsome := (present_some hprevious).1
          rw [hsome] at hrecorded
          exact (hrecorded.resolve_left (Option.some_ne_none _)).symm
        · rw [AppRollout.previousServiceUrl, hprevious] at hurl
          exact (Option.some.inj hurl).symm
      apply uses_bind
      · apply uses_bind (AppDeployment.previousAppRuntimeCanServe_uses (open_probe previous))
        intro serves
        split
        · apply uses_bind
          · unfold AppDeployment.moveAppTraffic
            rw [hdeployment]
            apply uses_bind (uses_settle (routeTo_open hwrite))
            rintro (_ | _) <;> exact uses_pure _
          · intro moved
            split
            · split
              · have hremove : (Agent.request (.removeContainer r.containerName true none) :
                    AgentAction Unit).Uses d.Open := by
                  apply Agent.uses_request
                  rw [hdeployment]
                  exact fun h => .inr (.inr ⟨htaken, rfl⟩)
                exact uses_bind (uses_settle hremove) fun _ => uses_pure _
              · exact uses_pure _
            · exact uses_pure _
        · exact uses_pure _
      · intro returned
        split
        · exact uses_bind (removeRejectedImage_open htaken hdeployment) fun _ => uses_throw _
        · exact uses_pure ()
    · exact uses_pure ()
  · exact uses_pure ()

theorem haltTruthfully_halts {error : Failure} {Q : Unit → AgentHistory → Prop} :
    Triple recording (Along (d.gate.AgentGated targets)) (fun _ => True) (r.haltTruthfully error) Q fun _ => True := by
  unfold AppRollout.haltTruthfully
  split
  · apply Triple.bind (R := fun _ _ => True)
    · exact safe_open (AppDeployment.previousAppRuntimeCanServe_uses (open_probe _))
    intro serves
    split
    · exact triple_throw fun _ h => h
    · exact triple_throw fun _ h => h
  · exact triple_throw fun _ h => h

theorem triple_runPreActivation {runner : ReleasePhaseRunner} {target : ReleaseJobTarget}
    {job : PreActivationJobConfig} {rollout : AppRolloutResult}
    (hjob : preActivationOf d.releasePhases d.payload.releaseJobs = some (runner, job))
    (htarget : targets target) (hservice : target.serviceId = d.payload.serviceId)
    (hdeployment : target.deploymentId = d.payload.deploymentId) :
    Triple recording (Along (d.gate.AgentGated targets)) (fun _ => True)
      (runPreActivation runner target (preActivationRequest job.command job.timeoutSeconds) rollout)
      (fun _ => d.gate.Cleared) fun _ => True := by
  apply Triple.bind (R := fun result h => ∀ attempt, result = .succeeded attempt → d.gate.Cleared h)
  · apply Triple.tryCatch (Y := fun _ => True)
    · exact d.gate.triple_run hjob htarget hservice hdeployment
    · intro error
      cases error <;> exact triple_throw fun _ h => h
  · rintro (⟨attempt⟩ | ⟨attempt, failure, message, policy⟩)
    · exact triple_pure fun h hend => hend attempt rfl
    · exact triple_throw fun _ _ => trivial

theorem triple_preActivate (htargets : ∀ target, d.gate.Target built target → targets target)
    (hr : d.Found built r) : Triple recording (Along (d.gate.AgentGated targets)) (fun _ => True)
      r.preActivate (fun _ => d.gate.Cleared) fun _ => True := by
  obtain ⟨hr, hresources, -⟩ := hr
  unfold AppRollout.preActivate
  cases hrelease : r.release with
  | none => exact triple_pure fun h _ => d.gate.cleared_of_none (release_none hr hrelease) h
  | some release =>
    obtain ⟨runner, jobs⟩ := release
    obtain ⟨hphases, hjobs⟩ := release_some hr hrelease
    dsimp only
    cases hpre : jobs.preActivation with
    | none =>
      apply triple_pure
      intro h _
      apply d.gate.cleared_of_none
      simp [preActivationOf, gate, hphases, hjobs, hpre]
    | some job =>
      apply Triple.tryCatch (Y := fun _ => True)
      · apply triple_runPreActivation
        · simp [preActivationOf, hphases, hjobs, hpre]
        · exact htargets _ ⟨r, hr, hresources, rfl⟩
        · show r.payload.serviceId = _
          rw [hr]
          rfl
        · show r.payload.deploymentId = _
          rw [hr]
          rfl
      · exact fun error => haltTruthfully_halts

theorem triple_roll (htargets : ∀ target, d.gate.Target built target → targets target)
    (hr : d.Found built r) : Triple recording (Along (d.gate.AgentGated targets)) (fun _ => True)
      r.roll (fun _ => d.gate.Cleared) fun _ => True := by
  apply Triple.bind (R := fun _ _ => True)
  · exact (safe_open (finishRejectedRelease_open hr)).withLocals
  intro _
  apply Triple.bind (R := fun _ => d.gate.Cleared)
  · exact (triple_preActivate htargets hr).withLocals
  intro _
  exact (Method.triple_unbound (fun _ _ hc => .inl hc) ActivationGate.persistent_cleared).mono
    (fun _ h => h) (fun _ _ h => h) fun _ _ => trivial

theorem triple_deploy (htargets : ∀ target, d.gate.Target built target → targets target) :
    Triple recording (Along (d.gate.AgentGated targets)) (fun _ => True)
      (d.deployment built).deployAppImageWithDependencies (fun _ => d.gate.Cleared)
      fun _ => True := by
  apply Triple.bind (R := fun _ _ => True)
  · exact (safe_open prepareNetwork_open).withLocals
  intro _
  apply Triple.bind triple_findRollout.withLocals
  intro r s h hJ hr
  exact triple_roll htargets hr s h hJ trivial

theorem guarded_buildAndDeployApp (buildkit : AppBuildkitRuntime) :
    Triple recording (Along d.gate.Gated) (fun _ => True)
      (d.buildAndDeployAppWithDependencies buildkit)
      (fun _ h => d.gate.Cleared (agentHistory h)) fun _ => True := by
  have hbase : (request .ensureBaseRuntime).Uses d.gate.Open :=
    uses_agent (Agent.uses_request fun _ => trivial)
  apply Triple.bind (ActivationGate.triple_open hbase fun _ _ _ _ _ _ => trivial)
  intro _
  apply Triple.bind (R := fun built h =>
    ∀ target, d.gate.Target built target → d.gate.Known h target)
  · exact ActivationGate.triple_buildApp fun _ => ⟨buildkit, rfl⟩
  intro built
  have hdeploy (targets : ReleaseJobTarget → Prop)
      (htargets : ∀ target, d.gate.Target built target → targets target) :
      Triple recording (Along (d.gate.AgentGated targets)) (fun _ => True)
        (Method.withLocals {} (d.deployment built).deployAppImageWithDependencies : AgentAction _)
        (fun _ => d.gate.Cleared) fun _ => True := (triple_deploy htargets).withLocals
  exact (ActivationGate.triple_agent hdeploy).mono (fun _ hknown => ⟨hknown, trivial⟩) (fun _ _ h => h) fun _ h => h

theorem guarded_handleBuildAndDeployApp : Triple recording (Along d.gate.Gated) (fun _ => True)
    d.handleBuildAndDeployApp (fun _ h => d.gate.Cleared (agentHistory h)) fun _ => True := by
  have hremove : (removeBuildkit d.payload.deploymentId).Uses d.gate.Open :=
    uses_agent (Agent.uses_request fun _ => .inl rfl)
  have hopen {β : Type} {p : BuildAction Failure β} (hp : p.Uses d.gate.Open) :
      Triple recording (Along d.gate.Gated) (fun _ => True) p (fun _ _ => True) fun _ => True :=
    ActivationGate.triple_open hp fun _ _ _ _ _ _ => trivial
  apply Triple.bind d.gate.triple_deferWhileBlocking
  intro _
  apply Triple.bind (R := fun _ _ => True)
  · apply hopen
    apply prepareAppBuildkitRuntime_uses open_now (open_sleep 250)
    · exact fun _ _ _ _ => trivial
    · exact fun _ => trivial
    · exact fun labels _ => rfl
    · exact fun port resources _ => ⟨rfl, port, resources, rfl⟩
    · exact hremove
  intro buildkit
  apply Triple.finally_ (Q := fun _ h => d.gate.Cleared (agentHistory h)) (Y := fun _ => True)
  · exact guarded_buildAndDeployApp buildkit
  · intro result
    exact ActivationGate.triple_cleared.mono (fun _ h => h) (fun _ _ h => h) fun _ _ => trivial
  · exact hopen hremove

/-- In every run of an app's deployment from source: before its pre-activation job has passed it
only runs that job, builds, looks and settles what earlier attempts left; it deploys nothing before;
and each BuildKit daemon that it asked for it asked to be removed. -/
theorem app_release_gated (d : AppRelease) (env : Environment BuildCall.Answer) :
    let run := (d.handleBuildAndDeployApp ()).run env []
    (∀ later e before, run.2 = later ++ e :: before → d.gate.Gated e before) ∧
    (run.1 ≠ .cut → DaemonsRemoved run.2) ∧
    ∀ result s, run.1 = .done (.ok result, s) → d.gate.Cleared (agentHistory run.2) := by
  intro run
  have hexec := Program.run_exec env (d.handleBuildAndDeployApp ()) []
    (along_iff.mpr fun _ _ _ _ => trivial)
  have hgated := guarded_handleBuildAndDeployApp.exec hexec trivial trivial
  have hdaemons := triple_daemons.exec_ended hexec (by simp [Only]) (by simp [NoDaemon])
  exact ⟨along_iff.mp hgated.1, hdaemons, hgated.2.1⟩

end NouvaAgent.AppRelease
