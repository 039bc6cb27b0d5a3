import NouvaAgent.GatedReleases
import NouvaAgent.WorkerRestoreEvidence

namespace NouvaAgent.WorkerRelease

open Text Interaction Method ReleaseJobs ReleaseGate BuildAndDeploy

variable (d : WorkerRelease)

/-- What a deployment may do before the gate is cleared, besides its job: build, and look. -/
def Preparatory : BuildCall → Prop
  | .allocateAvailableLocalPort => True
  | .ensureContainer spec replace =>
    (replace = true ∧ ∃ port resources, spec = buildBuildkitContainerSpec d.config
      (buildScopedBuildkitContainerName d.payload.deploymentId) port resources
      d.payload.deploymentId d.payload.serviceId
      (buildBuildkitCacheVolumeName d.payload.serviceId)) ∨
    (replace = false ∧ spec = localRegistrySpec d.config ∧
      d.config.imageStoreMode = .localRegistry)
  | .fetchLocalRegistry url =>
    url = "http://127.0.0.1:" ++ toString d.config.localRegistryPort ++ "/v2/" ∧
      d.config.imageStoreMode = .localRegistry
  | .buildApp options => ∃ buildkit, options = d.payload.buildOptions d.config buildkit
  | .agent .now | .agent (.sleep _) => True
  | .agent (.request r) => match r with
    | .inspectContainer _ | .countContainerExits _ _ _ | .listContainersByLabels _
    | .listContainersUsingVolume _ | .checkTcpConnect _ _ _ => True
    | .ensureNetwork name _ => name = d.config.projectNetwork d.payload.projectId
    | .createVolume name _ => name = buildBuildkitCacheVolumeName d.payload.serviceId
    | .removeContainer name _ _ => name = buildScopedBuildkitContainerName d.payload.deploymentId
    | _ => False

def gate : ActivationGate where
  releasePhases := d.releasePhases
  releaseJobs := d.payload.releaseJobs
  serviceId := d.payload.serviceId
  deploymentId := d.payload.deploymentId
  Target built target := ∃ resources,
    toDockerResourceSettings d.payload.resourceLimits = .ok resources ∧
      target = d.releaseTarget built.imageUrl resources
  Preparatory c _ := d.Preparatory c

/-- The service was listed, and of the replicas listed that the control plane recorded, one passed
the readiness check right after that. -/
def StillRuns (h : AgentHistory) : Prop :=
  ∃ containers replica before, WorkerRestore.PassedBeside d.fuel
    ((distinctContainers [] containers).filter (recordedLiveRuntime d.payload.runtimeMetadata))
    replica (⟨.request (.listContainersByLabels (workerServiceLabels d.payload.serviceId)),
      some (.ok containers)⟩ :: before) h

variable {d : WorkerRelease} {α : Type}

theorem step_daemonless {p : BuildAction Failure α} (hp : p.Uses Daemonless) : (step p).Uses Daemonless :=
  uses_mapThrown hp

theorem preActivate_daemonless {runner : ReleasePhaseRunner} {target : ReleaseJobTarget}
    {job : PreActivationJobConfig} : (d.preActivate runner target job).Uses Daemonless := by
  apply uses_bind (step_daemonless (agent_daemonless _))
  intro _
  apply uses_tryCatch
  · apply uses_bind (step_daemonless (agent_daemonless _))
    rintro (error | ⟨attempt⟩ | ⟨attempt, failure, message, policy⟩)
    · cases error <;> exact uses_throw _
    · exact uses_pure ()
    · exact uses_throw _
  · intro error
    cases error with
    | halted message preserved =>
      unfold haltTruthfully
      dsimp only
      split
      · apply uses_bind (step_daemonless (agent_daemonless _))
        intro runs
        split
        · exact uses_throw _
        · exact uses_throw _
      · exact uses_throw _
    | _ => exact uses_throw _

theorem buildAndRelease_daemonless (buildkit : AppBuildkitRuntime) :
    (d.buildAndRelease buildkit).Uses Daemonless := by
  apply uses_bind (step_daemonless (buildApp_uses (daemonless_buildApp _)))
  intro built
  apply uses_bind (step_daemonless _)
  · intro release
    apply uses_bind
    · unfold beforeRollout
      split
      · exact uses_pure ()
      · split
        · exact uses_pure ()
        · exact preActivate_daemonless
    intro _
    apply uses_bind
    · apply uses_bind (step_daemonless (agent_daemonless _))
      rintro (error | result)
      · exact uses_throw _
      · exact uses_pure _
    intro result
    apply uses_bind
    · unfold afterRollout
      split
      · exact uses_pure ()
      · split
        · exact uses_pure ()
        · exact uses_bind (step_daemonless (agent_daemonless _)) fun _ => uses_pure ()
    · exact fun _ => uses_pure _
  · unfold release
    split
    · exact uses_bind (uses_ofExcept _) fun _ => uses_pure _
    · exact uses_pure _

theorem triple_daemons : Triple recording
    (Only (buildScopedBuildkitContainerName d.payload.deploymentId)) NoDaemon
    d.handleBuildAndDeployWorker (fun _ => DaemonsRemoved) DaemonsRemoved := by
  have hkept {β : Type} {p : BuildAction Failure β} (hp : p.Uses Daemonless) :
      Triple recording (Only (buildScopedBuildkitContainerName d.payload.deploymentId)) NoDaemon
        (step p) (fun _ => NoDaemon) DaemonsRemoved :=
    (triple_daemonless (step_daemonless hp)).mono (fun _ h => h) (fun _ _ h => h)
      fun _ h => h.removed
  have hregistry : (ensureLocalRegistryRuntime d.config d.fuel).Uses Daemonless := by
    apply ensureLocalRegistryRuntime_uses (daemonless_agent _) (daemonless_agent _)
    · rintro name ⟨spec, ⟨⟩, -⟩
    · rintro name ⟨other, ⟨⟩, -⟩
  unfold handleBuildAndDeployWorker
  split
  · exact triple_throw fun _ h => h.removed
  · apply Triple.bind (R := fun _ => NoDaemon)
    · exact hkept deferWhileBlocking_daemonless
    intro _
    apply Triple.bind (R := fun _ => NoDaemon)
    · split
      · exact hkept hregistry
      · exact triple_pure fun _ h => h
    intro _
    apply Triple.bind (triple_prepareAppBuildkitRuntime _ _ _ _).mapThrown
    intro buildkit
    exact triple_build (buildAndRelease_daemonless buildkit)
      (triple_removeBuildkit d.payload.deploymentId).mapThrown

/-! The gate. -/

abbrev Guarded (d : WorkerRelease) (P : BuildHistory → Prop) {ε α : Type} (p : BuildAction ε α)
    (Q : BuildHistory → Prop) : Prop :=
  Triple recording (Along d.gate.Gated) P p (fun _ => Q) fun _ => True

abbrev Cleared (d : WorkerRelease) (h : BuildHistory) : Prop := d.gate.Cleared (agentHistory h)

theorem guarded_open {ε : Type} {p : BuildAction ε α} (hp : p.Uses d.gate.Open) :
    d.Guarded (fun _ => True) p fun _ => True :=
  ActivationGate.triple_open hp fun _ _ _ _ _ _ => trivial

theorem open_removeBuildkit : (removeBuildkit d.payload.deploymentId).Uses d.gate.Open :=
  uses_agent (Agent.uses_request fun _ => rfl)

theorem open_prepareAppBuildkitRuntime : (prepareAppBuildkitRuntime d.config d.fuel
    d.payload.deploymentId d.payload.serviceId).Uses d.gate.Open := by
  apply prepareAppBuildkitRuntime_uses (fun _ => trivial) fun _ => trivial
  · exact fun _ _ _ _ => trivial
  · exact fun _ => trivial
  · exact fun labels _ => rfl
  · exact fun port resources _ => .inl ⟨rfl, port, resources, rfl⟩
  · exact open_removeBuildkit

theorem open_ensureLocalRegistryRuntime (hlocal : d.config.imageStoreMode = .localRegistry) :
    (ensureLocalRegistryRuntime d.config d.fuel).Uses d.gate.Open :=
  ensureLocalRegistryRuntime_uses (fun _ => trivial) (fun _ => trivial) (fun _ => ⟨rfl, hlocal⟩)
    (fun _ => .inr ⟨rfl, rfl, hlocal⟩) d.fuel

theorem open_previousWorkerRuntimeRuns {serviceId : String} {metadata : WorkerRuntimeMetadata}
    {fuel : ℕ} : (agent (previousWorkerRuntimeRuns serviceId metadata fuel)).Uses d.gate.Open := by
  have hlist : (WorkerRollout.listWorkerServiceContainers serviceId : AgentAction _).Uses
      fun c => d.gate.Open (.agent c) :=
    uses_bind (Agent.uses_request fun _ => trivial) fun _ => uses_pure _
  apply uses_agent
  apply uses_bind (uses_settle hlist)
  rintro (error | containers)
  · exact uses_pure false
  · apply uses_bind
    · apply uses_lift
      apply uses_allSettled
      intro p hp
      obtain ⟨replica, -, rfl⟩ := List.mem_map.mp hp
      apply (waitForWorkerReadiness_framed _).uses
      intro c hc h
      cases c with
      | request r =>
        cases r with
        | inspectContainer n | countContainerExits id sinceMs untilMs
        | listContainersUsingVolume n => trivial
        | _ => exact False.elim hc
      | _ => trivial
    · exact fun _ => uses_pure _

theorem guarded_cleared {ε : Type} {p : BuildAction ε α} : d.Guarded d.Cleared p d.Cleared :=
  ActivationGate.triple_cleared.mono (fun _ h => h) (fun _ _ h => h) fun _ _ => trivial

theorem guarded_runPreActivation {runner : ReleasePhaseRunner} {job : PreActivationJobConfig}
    {target : ReleaseJobTarget} {liveRuntimePreserved : Bool}
    (hjob : preActivationOf d.releasePhases d.payload.releaseJobs = some (runner, job))
    (hservice : target.serviceId = d.payload.serviceId)
    (hdeployment : target.deploymentId = d.payload.deploymentId) :
    d.Guarded (fun h => d.gate.Known h target) (runPreActivation runner target
      (preActivationRequest job.command job.timeoutSeconds) liveRuntimePreserved) d.Cleared := by
  apply Triple.bind (R := fun result h => ∀ attempt, result = .ok (.succeeded attempt) →
    d.Cleared h)
  · have hran (targets : ReleaseJobTarget → Prop) (htarget : targets target) :=
      (d.gate.triple_run hjob htarget hservice hdeployment).settle
    apply (ActivationGate.triple_agent hran).mapThrown.mono (fun _ h => ⟨h, trivial⟩)
    · rintro result h hend attempt rfl
      exact hend attempt rfl
    · exact fun _ h => h
  · rintro (error | ⟨attempt⟩ | ⟨attempt, failure, message, policy⟩)
    · cases error <;> exact triple_throw fun _ _ => trivial
    · exact triple_pure fun h hend => hend attempt rfl
    · exact triple_throw fun _ _ => trivial

theorem guarded_haltTruthfully {error : WorkerDeployFailure} {Q : BuildHistory → Prop} :
    d.Guarded (fun _ => True) (d.haltTruthfully error) Q := by
  cases error with
  | halted message preserved =>
    unfold haltTruthfully
    dsimp only
    split
    · apply Triple.bind (R := fun _ _ => True)
      · exact (guarded_open (uses_mapThrown open_previousWorkerRuntimeRuns)).mono (fun _ h => h)
          (fun _ _ h => h) fun _ h => h
      intro runs
      split
      · exact triple_throw fun _ h => h
      · exact triple_throw fun _ h => h
    · exact triple_throw fun _ h => h
  | failed e => exact triple_throw fun _ h => h
  | rolledOut e => exact triple_throw fun _ h => h

def Matches (d : WorkerRelease) (release : Option (ReleasePhaseRunner × DeploymentReleasePlan ×
    ReleaseJobTarget)) (h : BuildHistory) : Prop :=
  match release with
  | none => preActivationOf d.releasePhases d.payload.releaseJobs = none
  | some (runner, jobs, target) => d.releasePhases = some runner ∧
    d.payload.releaseJobs = some jobs ∧ target.serviceId = d.payload.serviceId ∧
      target.deploymentId = d.payload.deploymentId ∧ d.gate.Known h target

theorem guarded_release {built : BuildAppResult} : Triple recording (Along d.gate.Gated)
    (fun h => ∀ target, d.gate.Target built target → d.gate.Known h target)
    (d.release built.imageUrl) d.Matches fun _ => True := by
  unfold release
  cases hphases : d.releasePhases with
  | none => exact triple_pure fun _ _ => by simp [Matches, preActivationOf, hphases]
  | some runner =>
    cases hjobs : d.payload.releaseJobs with
    | none => exact triple_pure fun _ _ => by simp [Matches, preActivationOf, hphases, hjobs]
    | some jobs =>
      apply Triple.bind (R := fun resources h =>
        d.gate.Known h (d.releaseTarget built.imageUrl resources))
      · refine triple_ofExcept (fun resources hresources h hknown => ?_) fun _ _ => trivial
        refine hknown _ ⟨resources, ?_, rfl⟩
        cases hlimits : toDockerResourceSettings d.payload.resourceLimits with
        | error text =>
          rw [hlimits] at hresources
          cases hresources
        | ok settings =>
          rw [hlimits] at hresources
          exact congrArg Except.ok (Except.ok.inj hresources)
      · exact fun resources => triple_pure fun _ hknown => ⟨hphases, hjobs, rfl, rfl, hknown⟩

theorem guarded_beforeRollout
    {release : Option (ReleasePhaseRunner × DeploymentReleasePlan × ReleaseJobTarget)} :
    d.Guarded (d.Matches release) (d.beforeRollout release) d.Cleared := by
  have hnone (h : BuildHistory)
      (hjob : preActivationOf d.releasePhases d.payload.releaseJobs = none) : d.Cleared h :=
    d.gate.cleared_of_none hjob _
  unfold beforeRollout
  split
  · exact triple_pure fun _ hm => hnone _ hm
  · next runner jobs target =>
    split
    · next hpre =>
      refine triple_pure fun _ ⟨hphases, hjobs, _⟩ => hnone _ ?_
      simp [preActivationOf, hphases, hjobs, hpre]
    · next job hpre =>
      rintro s h hJ ⟨hphases, hjobs, hservice, hdeployment, hknown⟩
      obtain ⟨_, built, hmem, resources, hresources, rfl⟩ := hknown
      have hjob : preActivationOf d.releasePhases d.payload.releaseJobs = some (runner, job) := by
        simp [preActivationOf, hphases, hjobs, hpre]
      have hnetwork : (request (.ensureNetwork (d.releaseTarget built.imageUrl resources).networkName
          [("nouva.managed", "true"), ("nouva.server.id", d.config.serverId),
            ("nouva.project.id", d.payload.projectId)])).Uses d.gate.Open :=
        uses_agent (Agent.uses_request fun _ => rfl)
      have hactivate : d.Guarded
          (fun h => d.gate.Known h (d.releaseTarget built.imageUrl resources))
          (d.preActivate runner (d.releaseTarget built.imageUrl resources) job) d.Cleared := by
        apply Triple.bind (R := fun _ h => d.gate.Known h (d.releaseTarget built.imageUrl resources))
        · exact (ActivationGate.triple_open (uses_mapThrown hnetwork)
            ActivationGate.persistent_known).mono (fun _ h => h) (fun _ _ h => h) fun _ _ => trivial
        intro _
        apply Triple.tryCatch (Y := fun _ => True)
        · exact guarded_runPreActivation hjob hservice hdeployment
        · exact fun error => guarded_haltTruthfully
      exact hactivate s h hJ ⟨_, built, hmem, resources, hresources, rfl⟩

theorem guarded_buildAndRelease (buildkit : AppBuildkitRuntime) :
    d.Guarded (fun _ => True) (d.buildAndRelease buildkit) d.Cleared := by
  have hopen : d.gate.Open (.buildApp (d.payload.buildOptions d.config buildkit)) :=
    fun _ => ⟨buildkit, rfl⟩
  apply Triple.bind (ActivationGate.triple_buildApp hopen).mapThrown
  intro built
  apply Triple.bind guarded_release.mapThrown
  intro release
  apply Triple.bind guarded_beforeRollout
  intro _
  apply Triple.bind guarded_cleared
  intro result
  apply Triple.bind guarded_cleared
  exact fun _ => triple_pure fun _ h => h

theorem guarded_handleBuildAndDeployWorker :
    d.Guarded (fun _ => True) d.handleBuildAndDeployWorker d.Cleared := by
  unfold handleBuildAndDeployWorker
  split
  · exact triple_throw fun _ h => h
  · apply Triple.bind d.gate.triple_deferWhileBlocking.mapThrown
    intro _
    apply Triple.bind (R := fun _ _ => True)
    · split
      · next hlocal =>
        exact guarded_open (uses_mapThrown (open_ensureLocalRegistryRuntime hlocal))
      · exact triple_pure fun _ h => h
    intro _
    apply Triple.bind (guarded_open (uses_mapThrown open_prepareAppBuildkitRuntime))
    intro buildkit
    apply Triple.finally_ (guarded_buildAndRelease buildkit)
    · exact fun _ => guarded_cleared
    · exact guarded_open (uses_mapThrown open_removeBuildkit)

/-! What a halt says of the live runtime. -/

theorem StillRuns.cons {h : AgentHistory} (e : AgentEvent) (hruns : d.StillRuns h) :
    d.StillRuns (e :: h) := by
  obtain ⟨containers, replica, before, hpassed⟩ := hruns
  exact ⟨containers, replica, before, hpassed.append [e]⟩

theorem anyReplicaRuns_returns {replicas : List DockerContainerInspection} {fuel : ℕ} {s s' : Unit}
    {seg : AgentHistory}
    (h : (WorkerRollout.anyReplicaRuns fuel replicas : AgentAction Bool).Returns s seg true s')
    (before : AgentHistory) :
    ∃ replica, WorkerRestore.PassedBeside fuel replicas replica before (seg ++ before) := by
  obtain ⟨waiting, later, waits, _, rfl, hwaits, hany⟩ := h.of_bind
  obtain ⟨rfl, heq, -⟩ := hany.of_pure
  exact WorkerRestore.passedBeside_of_any hwaits.of_lift.2 heq.symm before

theorem previousWorkerRuntimeRuns_returns {s s' : Unit} {seg : AgentHistory}
    (h : (previousWorkerRuntimeRuns d.payload.serviceId d.payload.runtimeMetadata d.fuel).Returns s seg
      true s') (before : AgentHistory) : d.StillRuns (seg ++ before) := by
  obtain ⟨_, later, found, _, rfl, hfound, hrest⟩ := h.of_bind
  cases found with
  | error e => cases hrest.of_pure.2.1
  | ok found =>
    obtain ⟨_, _, containers, _, rfl, hlist, hdistinct⟩ := hfound.of_settle.of_bind
    obtain ⟨rfl, -⟩ := Agent.returns_request hlist
    obtain ⟨rfl, rfl, -⟩ := hdistinct.of_pure
    obtain ⟨replica, hpassed⟩ := anyReplicaRuns_returns hrest
      (⟨.request (.listContainersByLabels (workerServiceLabels d.payload.serviceId)),
        some (.ok containers)⟩ :: before)
    exact ⟨containers, replica, before, by simpa using hpassed⟩

theorem triple_previousWorkerRuntimeRuns : Triple recording
    (fun h => Along (fun _ _ => True) (agentHistory h)) (fun _ => True)
    (agent (previousWorkerRuntimeRuns d.payload.serviceId d.payload.runtimeMetadata d.fuel))
    (fun runs h => runs = true → d.StillRuns (agentHistory h)) fun _ => True := by
  apply triple_agent (P := fun _ => True) (Q := fun runs h => runs = true → d.StillRuns h)
    (X := fun _ => True)
  intro s h hJ _
  apply wp_mono (wp_returns _ s h)
  · rintro runs t _ ⟨seg, rfl, hreturns⟩
    refine ⟨along_iff.mpr fun _ _ _ _ => trivial, ?_⟩
    rintro rfl
    exact previousWorkerRuntimeRuns_returns hreturns h
  · exact fun _ _ _ _ => ⟨along_iff.mpr fun _ _ _ _ => trivial, trivial⟩
  · exact fun _ _ => along_iff.mpr fun _ _ _ _ => trivial

def Truthful (d : WorkerRelease) (error : WorkerDeployFailure) (h : BuildHistory) : Prop :=
  ∀ message, error = .halted message true →
    d.payload.hasPreviousReplicas = true ∧ d.StillRuns (agentHistory h)

theorem persistent_truthful (error : WorkerDeployFailure) : Persistent recording (d.Truthful error) := by
  apply persistent_recording
  intro e h ht message herror
  obtain ⟨hprevious, hruns⟩ := ht message herror
  refine ⟨hprevious, ?_⟩
  unfold agentHistory
  rw [List.filterMap_cons]
  split
  · exact hruns
  · exact hruns.cons _

theorem truthful_failed (e : Failure) (h : BuildHistory) : d.Truthful (.failed e) h := by
  rintro message ⟨⟩

theorem truthful_rolledOut (e : WorkerRolloutError) (h : BuildHistory) :
    d.Truthful (.rolledOut e) h := by
  rintro message ⟨⟩

theorem truthful_step {p : BuildAction Failure α} : Blames recording d.Truthful (step p) :=
  Blames.mapThrown truthful_failed

def Claims (d : WorkerRelease) (error : WorkerDeployFailure) (_ : BuildHistory) : Prop :=
  ∀ message, error = .halted message true → d.payload.hasPreviousReplicas = true

theorem blames_runPreActivation {runner : ReleasePhaseRunner} {target : ReleaseJobTarget}
    {phaseRequest : ReleasePhaseRequest Unit} : Blames recording d.Claims
      (runPreActivation runner target phaseRequest d.payload.hasPreviousReplicas) := by
  apply Blames.bind
  · apply Blames.mapThrown
    rintro e h message ⟨⟩
  rintro (error | ⟨attempt⟩ | ⟨attempt, failure, message, policy⟩)
  · have hhalt (m : String) (h : BuildHistory) :
        d.Claims (.halted m d.payload.hasPreviousReplicas) h := by
      intro message herror
      cases hprevious : d.payload.hasPreviousReplicas with
      | true => rfl
      | false =>
        rw [hprevious] at herror
        cases herror
    have hfailed (e : Failure) (h : BuildHistory) : d.Claims (.failed e) h := by
      rintro message ⟨⟩
    cases error with
    | releaseJobDeferred m => exact blames_throw (hfailed _)
    | _ => exact blames_throw (hhalt _)
  · exact blames_pure
  · apply blames_throw
    intro h m herror
    cases hprevious : d.payload.hasPreviousReplicas with
    | true => rfl
    | false =>
      rw [hprevious] at herror
      cases herror

theorem haltTruthfully_wp {error : WorkerDeployFailure} {s : Unit} {h : BuildHistory}
    (hclaims : d.Claims error h) : (d.haltTruthfully error).wp recording
      ⟨fun _ _ _ => True, fun e _ w => d.Truthful e w, fun _ => True⟩ s h := by
  cases error with
  | failed e => exact truthful_failed e h
  | rolledOut e => exact truthful_rolledOut e h
  | halted message preserved =>
    unfold haltTruthfully
    dsimp only
    split
    · next hprevious =>
      have hruns := triple_previousWorkerRuntimeRuns (d := d) s h (along_iff.mpr fun _ _ _ _ => trivial)
        trivial
      refine wp_bind_of (R := fun runs _ h => runs = true → d.StillRuns (agentHistory h)) ?_ ?_
      · apply (wp_mapThrown _ _).mpr
        apply wp_mono hruns
        · exact fun _ _ _ h => h.2
        · exact fun e _ h _ => truthful_failed e h
        · exact fun _ _ => trivial
      · intro runs s h hruns
        split
        · next hrun => exact fun _ _ => ⟨hprevious, hruns hrun⟩
        · rintro m ⟨⟩
    · next hprevious =>
      intro m herror
      exact absurd (hclaims m herror) hprevious

theorem blames_preActivate {runner : ReleasePhaseRunner} {target : ReleaseJobTarget}
    {job : PreActivationJobConfig} : Blames recording d.Truthful (d.preActivate runner target job) := by
  apply truthful_step.bind
  intro _
  apply blames_runPreActivation.tryCatch
  exact fun e s w hclaims => haltTruthfully_wp hclaims

theorem blames_buildAndRelease (buildkit : AppBuildkitRuntime) :
    Blames recording d.Truthful (d.buildAndRelease buildkit) := by
  apply truthful_step.bind
  intro built
  apply truthful_step.bind
  intro release
  apply Blames.bind
  · unfold beforeRollout
    split
    · exact blames_pure
    · split
      · exact blames_pure
      · exact blames_preActivate
  intro _
  apply Blames.bind
  · apply truthful_step.bind
    rintro (error | result)
    · exact blames_throw (truthful_rolledOut error)
    · exact blames_pure
  intro result
  apply Blames.bind
  · unfold afterRollout
    split
    · exact blames_pure
    · split
      · exact blames_pure
      · exact truthful_step.bind fun _ => blames_pure
  · exact fun _ => blames_pure

theorem blames_handleBuildAndDeployWorker :
    Blames recording d.Truthful d.handleBuildAndDeployWorker := by
  unfold handleBuildAndDeployWorker
  split
  · exact blames_throw (truthful_failed _)
  · apply truthful_step.bind
    intro _
    apply Blames.bind
    · split
      · exact truthful_step
      · exact blames_pure
    intro _
    apply truthful_step.bind
    intro buildkit
    exact (blames_buildAndRelease buildkit).finally_ truthful_step persistent_truthful

/-- In every run of a worker's deployment from source: before its pre-activation job has passed it
only runs that job, builds and looks; it deploys nothing before; each BuildKit daemon that it asked
for it asked to be removed; and a halt that says that the live runtime is still there has seen it. -/
theorem worker_release_gated (d : WorkerRelease) (env : Environment BuildCall.Answer) :
    let run := (d.handleBuildAndDeployWorker ()).run env []
    (∀ later e before, run.2 = later ++ e :: before → d.gate.Gated e before) ∧
    (run.1 ≠ .cut → DaemonsRemoved run.2) ∧
    (∀ result s, run.1 = .done (.ok result, s) → d.gate.Cleared (agentHistory run.2)) ∧
    ∀ message s, run.1 = .done (.error (.halted message true), s) →
      d.payload.hasPreviousReplicas = true ∧ d.StillRuns (agentHistory run.2) := by
  intro run
  have hexec := Program.run_exec env (d.handleBuildAndDeployWorker ()) []
    (along_iff.mpr fun _ _ _ _ => trivial)
  have hgated := guarded_handleBuildAndDeployWorker.exec hexec trivial trivial
  have hdaemons := triple_daemons.exec_ended hexec (by simp [Only]) (by simp [NoDaemon])
  have hblames := Program.wp_sound (blames_handleBuildAndDeployWorker () []) hexec
  refine ⟨along_iff.mp hgated.1, hdaemons, hgated.2.1, ?_⟩
  intro message s hout
  rw [show ((d.handleBuildAndDeployWorker ()).run env []).1 = _ from hout] at hblames
  exact hblames message rfl

end NouvaAgent.WorkerRelease
