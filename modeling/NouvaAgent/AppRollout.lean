import NouvaAgent.AppRuntime

namespace NouvaAgent

open Text Interaction Agent CandidateReadiness ReleaseJobs

structure AppRollout extends AppDeployment where
  previousContainer : Option String
  adoptedCandidate : Option DockerContainerInspection
  resources : DockerResourceSettings
  resolvedImageId : Option String

structure RolloutLocals where
  snapshotName : Option String := none
  volumeRolloutPhase : AppRolloutPhase := .quiesce
  previousQuiesceStop : Option AppContainerStop := none
  trafficReturnedToPrevious : Bool := false

abbrev RolloutMethod := AgentMethod RolloutLocals

abbrev VerificationMethod := AgentMethod (Option Bool)

namespace AppDeployment

variable (d : AppDeployment)

def recordedContainer : Option String :=
  d.payload.runtimeMetadata.containerName.or d.payload.runtimeMetadata.containerId

def ownsCandidate (candidate : DockerContainerInspection) : Bool :=
  candidate.label "nouva.managed" = some "true" ∧
    candidate.label "nouva.service.id" = some d.payload.serviceId ∧
    candidate.label "nouva.deployment.id" = some d.payload.deploymentId ∧
    candidate.config.bind ContainerConfig.image = some d.payload.imageUrl

def candidateMatches (candidate : DockerContainerInspection) : AgentAction Bool :=
  if d.ownsCandidate candidate then appCandidateMountsMatch candidate d.payload.volume
  else pure false

def livePreviousContainer (candidate : DockerContainerInspection) :
    AgentAction (Option String) :=
  let recorded := if d.recordedContainer = some d.containerName ∨
      d.recordedContainer = some candidate.id ∨ d.recordedContainer = some candidate.name then none
    else d.recordedContainer
  match present recorded with
  | none => pure recorded
  | some previous => do
    let found ← request (.inspectContainer previous)
    pure (if found.isSome then recorded else none)

def assertVolumeUse (expected : Option String) : AgentAction Unit :=
  match d.payload.volume with
  | none => pure ()
  | some volume => assertSingleRunningVolumeConsumer volume.volumeName (present expected)

def settleExistingCandidate (existing : Option DockerContainerInspection) :
    AgentAction (Option String × Option DockerContainerInspection) :=
  match existing with
  | none => pure (d.recordedContainer, none)
  | some candidate => do
    let accepted ← d.candidateMatches candidate
    if accepted then do
      let previousContainer ← d.livePreviousContainer candidate
      if candidate.running then do
        d.assertVolumeUse (some candidate.id)
        pure (previousContainer, some candidate)
      else do
        request (.removeContainer candidate.id true none)
        verifyContainerAbsent (some candidate.id)
        d.assertVolumeUse previousContainer
        pure (previousContainer, none)
    else throw (.error
      "Existing app candidate does not match deployment ownership or configuration")

def resolveImageId : AgentAction (Option String) :=
  if d.dockerLocalImages ∧ present d.payload.imageId = none then do
    let image ← request (.inspectImage d.payload.imageUrl)
    pure (image.map DockerImageInspection.id)
  else pure d.payload.imageId

end AppDeployment

namespace AppRollout

variable (r : AppRollout)

def previous : Option String := present r.previousContainer

def previousServiceUrl : Option String :=
  r.previous.map fun previous => "http://" ++ previous ++ ":" ++ toString r.previousPort

def release : Option (ReleasePhaseRunner × DeploymentReleasePlan) :=
  match r.releasePhases, r.payload.releaseJobs with
  | some runner, some jobs => some (runner, jobs)
  | _, _ => none

def releaseTarget : ReleaseJobTarget where
  serviceId := r.payload.serviceId
  deploymentId := r.payload.deploymentId
  image := r.payload.imageUrl
  pullImage := !r.dockerLocalImages
  networkName := r.config.projectNetwork r.payload.projectId
  envVars := r.payload.candidateEnv
  labels := r.payload.labels r.config "release_job"
  resourceSettings := r.resources
  redactLogLine :=
    r.config.createBuildLogRedactor r.payload.envVars r.payload.platformGeneratedValues

def failedResult (outcome : AppRolloutOutcome) (currentPhase : AppRolloutPhase)
    (liveRuntimePreserved rollbackCompleted : Bool) (active : Option String) : AppRolloutResult where
  strategy := r.strategy
  outcome
  currentPhase
  liveRuntimePreserved
  rollbackCompleted
  activeContainerName := active
  candidateContainerName := some r.containerName

def canServe (container : String) (undoneStop : Option AppContainerStop) : AgentAction Bool :=
  r.previousAppRuntimeCanServe container r.previousPort undoneStop

def removeRejectedImage : AgentAction Unit :=
  if r.dockerLocalImages then r.removeRejectedAppImage else pure ()

/-- Finishes the rollback of an earlier run: whether traffic is back at the previous container. -/
def returnTrafficFromRejectedRelease (previous serviceUrl : String) : AgentAction Bool := do
  let serves ← r.canServe previous none
  if serves then do
    let moved ← r.moveAppTraffic serviceUrl
    if moved then
      if r.adoptedCandidate.isSome then do
        let _ ← Method.settle (request (.removeContainer r.containerName true none))
        pure true
      else pure true
    else pure false
  else pure false

def finishRejectedRelease : AgentAction Unit :=
  match r.release, r.previous, r.previousServiceUrl with
  | some (_, jobs), some previous, some serviceUrl =>
    if jobs.verificationRolledBack then do
      let returned ← r.returnTrafficFromRejectedRelease previous serviceUrl
      if returned then do
        r.removeRejectedImage
        throw (.releaseJobHalt ("Verification of this deployment already failed and traffic was " ++
          "returned to the previous deployment; it is not activated again")
          (r.failedResult .abortedBeforeCutover .release true true r.previousContainer))
      else pure ()
    else pure ()
  | _, _, _ => pure ()

def activeContainerName : Option String :=
  if r.adoptedCandidate.isSome then some r.containerName else r.previousContainer

def activePort : ℤ := if r.adoptedCandidate.isSome then r.appPort else r.previousPort

def haltedBeforeCutover (liveRuntimePreserved : Bool) : AppRolloutResult :=
  r.failedResult .abortedBeforeCutover .release liveRuntimePreserved false r.activeContainerName

end AppRollout

def runPreActivation (runner : ReleasePhaseRunner) (target : ReleaseJobTarget)
    (phaseRequest : ReleasePhaseRequest Unit) (rollout : AppRolloutResult) :
    AgentAction Unit := do
  let result ← Method.tryCatch (ReleaseJobs.run runner target phaseRequest) fun error =>
    match error with
    | .releaseJobDeferred _ => throw error
    | _ => throw (.releaseJobHalt
        (error.message "The pre-activation job could not be run") rollout)
  match result with
  | .unsuccessful _ _ message _ => throw (.releaseJobHalt message rollout)
  | .succeeded _ => pure ()

/-- A verification that could not be carried through has no result, which keeps the deployment. -/
def runVerificationKeepingOnError (runner : ReleasePhaseRunner) (target : ReleaseJobTarget)
    (phaseRequest : ReleasePhaseRequest (Option Bool)) :
    VerificationMethod (Option ReleasePhaseResult) := do
  match ← Method.settle (ReleaseJobs.run runner target phaseRequest) with
  | .ok result => pure (some result)
  | .error _ => pure none

namespace AppRollout

variable (r : AppRollout)

/-- Untouched is not the same as serving: on a halt the live container is probed. -/
def haltTruthfully (error : Failure) : AgentAction Unit :=
  match error, r.activeContainerName with
  | .releaseJobHalt message _, some active => do
    let serves ← r.previousAppRuntimeCanServe active r.activePort none
    if serves then throw error
    else throw (.releaseJobHalt message (r.haltedBeforeCutover false))
  | _, _ => throw error

def preActivate : AgentAction Unit :=
  match r.release with
  | none => pure ()
  | some (runner, jobs) =>
    match jobs.preActivation with
    | none => pure ()
    | some job => Method.tryCatch
        (runPreActivation runner r.releaseTarget
          (preActivationRequest job.command job.timeoutSeconds)
          (r.haltedBeforeCutover r.activeContainerName.isSome))
        r.haltTruthfully

def inspectRetiringAppContainer (containerName : String) :
    AgentAction (Option DockerContainerInspection) := do
  match ← Method.settle (request (.inspectContainer containerName)) with
  | .ok inspection => pure inspection
  | .error _ => pure none

def readRetiringAppContainerState (containerName : String) :
    AgentAction (Option ContainerState) := do
  let inspection ← inspectRetiringAppContainer containerName
  pure (inspection.bind DockerContainerInspection.state)

def readAppContainerBeforeQuiesceStop (containerName : String) :
    AgentAction AppContainerStop := do
  let inspectedAt ← now
  let found ← inspectRetiringAppContainer containerName
  match found with
  | none => pure ⟨none, 0⟩
  | some inspection => do
    let restarts ← countRestartLoop inspection inspectedAt restartLoopThreshold
    pure ⟨inspection.state, restarts⟩

def quiesce : RolloutMethod Unit :=
  match r.previous with
  | none => pure ()
  | some previous => do
    let stop ← readAppContainerBeforeQuiesceStop previous
    Method.assign fun s => { s with previousQuiesceStop := some stop }
    request (.stopContainer previous none none)

def quiesceAndSnapshot (volume : AppVolumeIdentity) : RolloutMethod Unit := do
  AppDeployment.assertSingleRunningVolumeConsumer volume.volumeName r.previous
  r.quiesce
  AppDeployment.assertSingleRunningVolumeConsumer volume.volumeName none
  Method.assign fun s => { s with volumeRolloutPhase := .snapshot }
  let snapshotName ← r.createAppVolumeSnapshot volume
  Method.assign fun s => { s with snapshotName := some snapshotName }

def restartPrevious (previous : String) : AgentAction Unit := do
  request (.startContainer previous)
  r.waitForAppCandidateReadiness previous r.previousPort

def routeToPrevious : AgentAction Unit :=
  match r.previousServiceUrl with
  | none => pure ()
  | some serviceUrl => r.routeTo serviceUrl

def restoreServiceWithoutSnapshot (volume : AppVolumeIdentity) (previous : String) :
    RolloutMethod Bool := do
  AppDeployment.assertSingleRunningVolumeConsumer volume.volumeName none
  r.restartPrevious previous
  r.routeToPrevious
  let s ← Method.locals
  r.canServe previous s.previousQuiesceStop

def snapshotFailed (volume : AppVolumeIdentity) (error : Failure) : RolloutMethod Unit := do
  let liveRuntimePreserved ← (match r.previous with
    | none => pure false
    | some previous => do
      match ← Method.settle (r.restoreServiceWithoutSnapshot volume previous) with
      | .ok serves => pure serves
      | .error _ => pure false : RolloutMethod Bool)
  let s ← Method.locals
  throw (.appRollout (error.message "App volume snapshot failed")
    (r.failedResult .abortedBeforeCutover s.volumeRolloutPhase liveRuntimePreserved false
      r.previousContainer))

def prepareVolume : RolloutMethod Unit :=
  match r.payload.volume, r.adoptedCandidate with
  | some volume, none => do
    request (.createVolume volume.volumeName (buildManagedVolumeLabels volume.volumeId
      (some r.payload.projectId) (some r.payload.serviceId)))
    Method.tryCatch (r.quiesceAndSnapshot volume) (r.snapshotFailed volume)
  | _, _ => pure ()

def startCandidate : AgentAction String :=
  match r.adoptedCandidate with
  | some candidate => pure candidate.id
  | none => request (.ensureContainer (buildAppContainerSpec r.config r.payload r.resources) true
      (!r.dockerLocalImages))

def discardCandidate : AgentAction Unit := do
  request (.removeContainer r.containerName true none)
  if r.payload.volume.isSome then AppDeployment.verifyContainerAbsent (some r.containerName)
  else pure ()

def restoreFailed {α : Type} (error : Failure) : AgentAction α :=
  throw (.appRollout (error.message "App volume restore failed")
    (r.failedResult .rolledBack .restore false false none))

/-- What a failed candidate may have written is undone before the previous container runs again. -/
def restoreVolume (volume : AppVolumeIdentity) (snapshotName : String) : AgentAction Unit := do
  AppDeployment.assertSingleRunningVolumeConsumer volume.volumeName none
  r.restoreAppVolumeSnapshot volume snapshotName

def restoreService (volume : AppVolumeIdentity) (snapshotName : String) : AgentAction Unit := do
  r.restoreVolume volume snapshotName
  let _ ← (match r.previous with
    | some previous => do
      r.restartPrevious previous
      r.routeToPrevious
    | none => r.routeAppServiceWithoutRuntime : AgentAction Unit)
  r.deleteAppVolumeSnapshotBestEffort snapshotName

def restoreAfterCandidateFailure : RolloutMethod Unit := do
  let s ← Method.locals
  match r.payload.volume, s.snapshotName with
  | some volume, some snapshotName =>
    (Method.tryCatch (r.restoreService volume snapshotName) r.restoreFailed : AgentAction Unit)
  | _, _ => pure ()

def candidateFailed (error : Failure) : RolloutMethod Unit :=
  if r.adoptedCandidate.isSome then throw error
  else do
    r.discardCandidate
    r.restoreAfterCandidateFailure
    r.removeRejectedImage
    let s ← Method.locals
    let liveRuntimePreserved ← (match r.previousContainer with
      | some previous => r.canServe previous s.previousQuiesceStop
      | none => pure false : AgentAction Bool)
    throw (.appRollout (error.message "Candidate container failed readiness checks")
      (r.failedResult .abortedBeforeCutover .ready liveRuntimePreserved false r.previousContainer))

def awaitCandidate : RolloutMethod Unit :=
  Method.tryCatch (Method.lift (r.waitForAppCandidateReadiness r.containerName r.appPort))
    r.candidateFailed

def rollbackTarget : Option String :=
  if r.adoptedCandidate = none ∧ r.payload.volume = none then r.previous else none

def wouldRollBack (verification : VerificationJobConfig) (outcome : ReleaseJobOutcome) :
    Option String :=
  if verification.onFailure = .rollback ∧ (outcome = .failed ∨ outcome = .timedOut) then
    r.rollbackTarget
  else none

def probePrevious (target : String) : VerificationMethod Bool := do
  let previousCanServe ← Method.locals
  match previousCanServe with
  | some serves => pure serves
  | none => do
    let serves ← r.canServe target none
    Method.assign fun _ => some serves
    pure serves

def decide (verification : VerificationJobConfig) (outcome : ReleaseJobOutcome) :
    VerificationMethod VerificationConsequence := do
  let available ← (match r.wouldRollBack verification outcome with
    | some target => r.probePrevious target
    | none => pure false : VerificationMethod Bool)
  pure (decideVerificationConsequence outcome verification.onFailure available)

def resolveAppliedPolicy (verification : VerificationJobConfig) (outcome : ReleaseJobOutcome) :
    VerificationMethod (Option VerificationFailurePolicy) := do
  let consequence ← r.decide verification outcome
  pure (some (if consequence = .rollback then .rollback else .keep))

def verificationRequest (verification : VerificationJobConfig) :
    ReleasePhaseRequest (Option Bool) where
  phase := .verification
  command := verification.command
  timeoutSeconds := verification.timeoutSeconds
  phaseEnv := [("NOUVA_CANDIDATE_URL", r.candidateServiceUrl)]
  configuredPolicy := some verification.onFailure
  resolveAppliedPolicy := some (r.resolveAppliedPolicy verification)

def rollBackTraffic (serviceUrl message : String) : RolloutMethod Unit := do
  let moved ← r.moveAppTraffic serviceUrl
  Method.assign fun s => { s with trafficReturnedToPrevious := moved }
  if moved then throw (.error message)
  else do
    let _ ← Method.settle (r.routeTo r.candidateServiceUrl)
    pure ()

def verifyRelease (runner : ReleasePhaseRunner) (verification : VerificationJobConfig) :
    RolloutMethod Unit := do
  let result ← Method.withLocals none (runVerificationKeepingOnError runner r.releaseTarget
    (r.verificationRequest verification))
  match result, r.previousServiceUrl with
  | some (.unsuccessful _ _ message (some .rollback)), some serviceUrl =>
    r.rollBackTraffic serviceUrl message
  | _, _ => pure ()

def verify : RolloutMethod Unit :=
  match r.release with
  | none => pure ()
  | some (runner, jobs) =>
    match jobs.verification with
    | none => pure ()
    | some verification => r.verifyRelease runner verification

def cutOver : RolloutMethod Unit := do
  r.routeTo r.candidateServiceUrl
  r.verify

def rerunPrevious (volume : AppVolumeIdentity) (snapshotName : String) : AgentAction Unit := do
  r.restoreVolume volume snapshotName
  match r.previous with
  | some previous => r.restartPrevious previous
  | none => pure ()

def restoreAfterCutoverFailure : RolloutMethod Unit := do
  let s ← Method.locals
  match r.payload.volume, s.snapshotName with
  | some volume, some snapshotName =>
    (Method.tryCatch (r.rerunPrevious volume snapshotName) r.restoreFailed : AgentAction Unit)
  | _, _ => pure ()

def returnRoute : RolloutMethod Unit := do
  let s ← Method.locals
  let _ ← (if s.trafficReturnedToPrevious then pure ()
    else match r.previousServiceUrl with
      | some serviceUrl => r.routeTo serviceUrl
      | none => r.routeAppServiceWithoutRuntime : AgentAction Unit)
  match r.payload.volume, s.snapshotName with
  | some _, some snapshotName => r.deleteAppVolumeSnapshotBestEffort snapshotName
  | _, _ => pure ()

def cutoverFailed (error : Failure) : RolloutMethod Unit :=
  if r.adoptedCandidate.isSome then throw error
  else do
    r.discardCandidate
    r.restoreAfterCutoverFailure
    let returned ← Method.settle r.returnRoute
    let s ← Method.locals
    let rollbackCompleted := returned.isOk
    let liveRuntimePreserved ← (match rollbackCompleted, r.previous with
      | true, some previous => r.canServe previous s.previousQuiesceStop
      | _, _ => pure false : AgentAction Bool)
    r.removeRejectedImage
    throw (.appRollout (error.message "Traefik cutover failed")
      (r.failedResult .rolledBack .rollback liveRuntimePreserved rollbackCompleted
        r.previousContainer))

def moveTraffic : RolloutMethod Unit := Method.tryCatch r.cutOver r.cutoverFailed

def sigkillExitCode : ℤ := 137

def describeAppContainerStop (beforeStop afterStop : Option ContainerState) :
    PreviousContainerRetirement :=
  let stopEndedIt := beforeStop.bind ContainerState.running = some true ∧
    beforeStop.bind ContainerState.status ≠ some "restarting"
  if stopEndedIt ∧ afterStop.bind ContainerState.exitCode = some sigkillExitCode then .forced
  else .graceful

def retirePreviousAppContainerAttempt (containerName : String)
    (stateBeforeStop : Option ContainerState) : AgentAction PreviousContainerRetirement := do
  let drain := r.rollout.drain
  match ← Method.settle (request (.stopContainer containerName
      (some drain.gracefulStopTimeoutSeconds) (some drain.cleanupTimeoutMs))) with
  | .error _ => do
    match ← Method.settle
        (request (.removeContainer containerName true (some drain.cleanupTimeoutMs))) with
    | .ok _ => pure .forced
    | .error _ => pure .deferred
  | .ok _ => do
    let stateAfterStop ← readRetiringAppContainerState containerName
    match ← Method.settle
        (request (.removeContainer containerName false (some drain.cleanupTimeoutMs))) with
    | .ok _ => pure (describeAppContainerStop stateBeforeStop stateAfterStop)
    | .error _ => pure .deferred

def retireFrom (containerName : String) (stateBeforeStop : Option ContainerState) (attempt : ℤ) :
    ℕ → AgentAction PreviousContainerRetirement
  | 0 => pure .deferred
  | left + 1 => do
    let _ ← (if attempt > 0 then sleep (1000 * attempt) else pure () : AgentAction Unit)
    let outcome ← r.retirePreviousAppContainerAttempt containerName stateBeforeStop
    if outcome ≠ .deferred then pure outcome
    else retireFrom containerName stateBeforeStop (attempt + 1) left

def drainDurationMs : ℤ := if r.payload.volume.isSome then 0 else r.rollout.drain.durationMs

def retirePreviousAppContainer (containerName : String) :
    RolloutMethod PreviousContainerRetirement := do
  let _ ← (if r.drainDurationMs > 0 then sleep r.drainDurationMs else pure () : AgentAction Unit)
  let s ← Method.locals
  let stateBeforeStop ← (match s.previousQuiesceStop with
    | some stop => pure stop.stateBeforeStop
    | none => readRetiringAppContainerState containerName : AgentAction _)
  r.retireFrom containerName stateBeforeStop 0 3

def retirePrevious : RolloutMethod (Option PreviousContainerRetirement) :=
  match r.previous with
  | none => pure none
  | some previous => do
    let retirement ← r.retirePreviousAppContainer previous
    pure (some retirement)

def dropSnapshot : RolloutMethod Unit := do
  let s ← Method.locals
  match r.payload.volume, s.snapshotName with
  | some _, some snapshotName => r.deleteAppVolumeSnapshotBestEffort snapshotName
  | _, _ => pure ()

def nextCurrentImage : RuntimeRetainedImage where
  reference := r.payload.imageUrl
  imageId := r.resolvedImageId
  deploymentId := some r.payload.deploymentId
  commitHash := some r.payload.commitHash

def nextPreviousImage : Option RuntimeRetainedImage :=
  resolveCurrentRuntimeImage r.payload.runtimeMetadata

def removeRetainedRuntimeImage (image : RuntimeRetainedImage) : AgentAction Unit :=
  if image.reference ≠ "" then request (.removeImage image.reference true)
  else match present image.imageId with
    | some imageId => request (.removeImage imageId true)
    | none => pure ()

def retireImage : AgentAction Unit :=
  match resolvePreviousRuntimeImage r.payload.runtimeMetadata with
  | none => pure ()
  | some image =>
    if r.dockerLocalImages ∧ ¬ sameRetainedRuntimeImage (some image) r.nextPreviousImage ∧
        ¬ sameRetainedRuntimeImage (some image) (some r.nextCurrentImage) then do
      let _ ← Method.settle (removeRetainedRuntimeImage image)
      pure ()
    else pure ()

def committedResult (containerId : String) (retirement : Option PreviousContainerRetirement) :
    DeployAppImageResult :=
  let externalHost := r.payload.subdomain ++ "." ++ r.config.appDomain
  let networkName := r.config.projectNetwork r.payload.projectId
  { imageUrl := r.payload.imageUrl
    buildDuration := r.payload.buildDuration
    detectedLanguage := r.payload.detectedLanguage
    detectedFramework := r.payload.detectedFramework
    languageVersion := r.payload.languageVersion
    internalHost := r.containerName
    internalPort := r.appPort
    externalHost
    runtimeMetadata :=
      { containerId
        containerName := r.containerName
        image := r.payload.imageUrl
        imageStoreMode := r.config.imageStoreMode
        currentImage := r.nextCurrentImage
        previousImage := r.nextPreviousImage
        ingressHost := externalHost
        internalPort := r.appPort
        networkName
        clientIngressConfigHash := r.payload.clientIngressConfigHash }
    rollout :=
      { reusedCandidate := r.adoptedCandidate.isSome
        strategy := r.strategy
        outcome := .committed
        currentPhase := .retire
        liveRuntimePreserved := false
        rollbackCompleted := false
        drainDurationMs := some (if r.previous.isSome then r.drainDurationMs else 0)
        previousContainerRetirement := retirement
        activeContainerName := some r.containerName
        candidateContainerName := some r.containerName }
    runtimeInstance :=
      { name := r.containerName
        image := r.payload.imageUrl
        containerId
        containerName := r.containerName
        networkName
        internalHost := r.containerName
        internalPort := r.appPort
        externalHost } }

/-- What follows the cutover, which nothing turns into a failure any more. -/
def commit (containerId : String) : RolloutMethod DeployAppImageResult := do
  let retirement ← r.retirePrevious
  r.dropSnapshot
  r.retireImage
  pure (r.committedResult containerId retirement)

def roll : RolloutMethod DeployAppImageResult := do
  r.finishRejectedRelease
  r.preActivate
  r.prepareVolume
  let containerId ← r.startCandidate
  r.awaitCandidate
  r.moveTraffic
  r.commit containerId

end AppRollout

namespace AppDeployment

variable (d : AppDeployment)

def prepareNetwork : AgentAction Unit := do
  let network := d.config.projectNetwork d.payload.projectId
  request .ensureBaseRuntime
  request (.ensureNetwork network [("nouva.managed", "true"),
    ("nouva.server.id", d.config.serverId), ("nouva.project.id", d.payload.projectId)])
  request (.connectNetwork network d.config.traefikContainerName)

def findRollout : AgentAction AppRollout := do
  let resources ← Method.ofExcept ((appResourceSettings d.payload.resourceLimits).mapError .error)
  let containers ← request (.listContainersByLabels [])
  let (previousContainer, adoptedCandidate) ← d.settleExistingCandidate
    (containers.find? fun container => withoutSlash container.name = d.containerName)
  let resolvedImageId ← d.resolveImageId
  pure { d with previousContainer, adoptedCandidate, resources, resolvedImageId }

def deployAppImageWithDependencies : RolloutMethod DeployAppImageResult := do
  d.prepareNetwork
  let r ← d.findRollout
  r.roll

end AppDeployment

end NouvaAgent
