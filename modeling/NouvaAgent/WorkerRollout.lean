import NouvaAgent.WorkerReadiness
import NouvaAgent.WorkerVolume

namespace NouvaAgent

open Text Interaction Agent WorkerShutdown WorkerVolume CandidateReadiness

inductive WorkerRolloutPhase
  | candidate
  | ready
  | retire
  | restore
  deriving DecidableEq, Repr

structure WorkerRolloutResult where
  strategy : WorkerRolloutStrategy
  outcome : AppRolloutOutcome
  currentPhase : WorkerRolloutPhase
  liveRuntimePreserved : Bool
  rollbackCompleted : Bool
  activeContainerNames : List String
  candidateContainerNames : List String
  policy : WorkerShutdownPolicy
  shutdowns : List WorkerShutdownReport

structure WorkerRolloutError where
  message : String
  rollout : WorkerRolloutResult

structure WorkerRuntimeInstance where
  kind : String := "worker"
  status : String := "running"
  replicaIndex : ℕ
  name : String
  image : String
  containerId : String
  containerName : String
  networkName : String
  internalHost : String
  deriving DecidableEq, Repr

structure WorkerReplica where
  replicaIndex : ℕ
  containerId : String
  containerName : String
  deriving DecidableEq, Repr

/-- The metadata of a committed rollout, less the fields that are always null. -/
structure CommittedWorkerMetadata where
  image : String
  imageStoreMode : AgentImageStoreMode
  currentImage : RuntimeRetainedImage
  previousImage : Option RuntimeRetainedImage
  containerId : Option String
  containerName : Option String
  networkName : String
  replicaCount : ℚ
  replicas : List WorkerReplica
  detectedEntrypoint : Option (List String)
  detectedCommand : Option (List String)
  detectedCommandDisplay : Option String
  workerCommand : Option String
  workerHealthCheckCommand : Option String

structure WorkerDeployResult where
  imageUrl : String
  runtimeMetadata : CommittedWorkerMetadata
  rollout : WorkerRolloutResult
  runtimeInstances : List WorkerRuntimeInstance
  runtimeInstance : Option WorkerRuntimeInstance

/-- The variables of a rollout. The live replicas that it adopts are told apart by their names. -/
structure WorkerRolloutLocals where
  shutdowns : List WorkerShutdownReport := []
  restartsBeforeStop : List (String × ℤ) := []
  adoptedLiveReplicas : List DockerContainerInspection := []
  candidateIds : List (String × String) := []

structure PlannedWorkerRollout where
  image : Option DockerImageInspection
  candidates : List WorkerCandidate
  containers : List DockerContainerInspection
  plan : WorkerRolloutPlan

namespace PlannedWorkerRollout

variable (r : PlannedWorkerRollout)

def candidateNames : List String := r.candidates.map WorkerCandidate.containerName

/-- The containers of these names; of two with one name the latter. -/
def pick (names : List String) : List DockerContainerInspection :=
  names.filterMap fun name =>
    r.containers.reverse.find? fun container => getContainerName container = name

def previousContainers : List DockerContainerInspection := r.pick r.plan.stopBeforeStart

def retiredContainers : List DockerContainerInspection := r.pick r.plan.retireAfterReady

end PlannedWorkerRollout

def workerServiceLabels (serviceId : String) : TextRecord :=
  [("nouva.managed", "true"), ("nouva.kind", "worker"), ("nouva.service.id", serviceId)]

def distinctContainers : (seen : List String) → List DockerContainerInspection →
    List DockerContainerInspection
  | _, [] => []
  | seen, container :: rest =>
    if getContainerIdentifier container ∈ seen then distinctContainers seen rest
    else container :: distinctContainers (getContainerIdentifier container :: seen) rest

def mayStillRun (report : WorkerShutdownReport) : Bool :=
  report.outcome = .hung || report.outcome = .unconfirmed

def describeUnstopped (report : WorkerShutdownReport) : String :=
  if report.outcome = .hung then "did not stop even after SIGKILL"
  else "could not be confirmed stopped because Docker returned an error"

def describeKeptSnapshot (path dataVolume : String) : String :=
  "The volume was not restored; its contents from before this rollout are kept at " ++ path ++
    " in the agent data volume " ++ dataVolume ++ ". Restore it by hand if the data needs " ++
    "recovering, then delete it."

namespace WorkerRollout

variable {σ : Type}

def listWorkerServiceContainers (serviceId : String) :
    AgentMethod σ (List DockerContainerInspection) := do
  let containers ← request (.listContainersByLabels (workerServiceLabels serviceId))
  pure (distinctContainers [] containers)

def assertContainerAbsent (identifier : String) : AgentMethod σ Unit := do
  match ← request (.inspectContainer identifier) with
  | none => pure ()
  | some _ => throw (.error ("Worker container " ++ identifier ++ " still exists after it was removed"))

def assertContainersAbsent (identifiers : List String) : AgentMethod σ Unit :=
  Method.forEach identifiers assertContainerAbsent

def assertContainerStopped (container : DockerContainerInspection) : AgentMethod σ Unit := do
  let current ← request (.inspectContainer (getContainerIdentifier container))
  if (current.map DockerContainerInspection.running).getD false then
    throw (.error ("Previous worker " ++ getContainerName container ++ " is still running"))
  else pure ()

def assertContainersStopped (containers : List DockerContainerInspection) : AgentMethod σ Unit :=
  Method.forEach containers assertContainerStopped

def prepareCandidateSlot (containerName : String) : AgentMethod σ Bool := do
  match ← request (.inspectContainer containerName) with
  | none => pure false
  | some existing =>
    if existing.running then do
      request (.updateContainerRestartPolicy (getContainerIdentifier existing) "unless-stopped")
      pure true
    else do
      request (.removeContainer (getContainerIdentifier existing) false none)
      assertContainersAbsent [getContainerIdentifier existing]
      pure false

def readRestartLoopsBeforeStop :
    List DockerContainerInspection → AgentMethod σ (List (String × ℤ))
  | [] => pure []
  | container :: rest => do
    let inspectedAt ← now
    match ← request (.inspectContainer (getContainerIdentifier container)) with
    | none => readRestartLoopsBeforeStop rest
    | some current => do
      let loop ← countRestartLoop current inspectedAt 3
      let loops ← readRestartLoopsBeforeStop rest
      pure ((getContainerName container, loop) :: loops)

def anyReplicaRuns (fuel : ℕ) (replicas : List DockerContainerInspection) : AgentMethod σ Bool := do
  let waits ← Method.lift (Method.allSettled fuel (replicas.map fun replica =>
    waitForWorkerReadiness fuel
      { containerName := getContainerName replica
        hasHealthcheck := (replica.state.bind ContainerState.health).isSome
        ignoreEarlierRestarts := true }))
  pure (waits.any Except.isOk)

end WorkerRollout

/-- What is known when the previous version is handed the service back. -/
structure WorkerRestore where
  previousContainers : List DockerContainerInspection
  shutdowns : List WorkerShutdownReport
  isRecordedLive : DockerContainerInspection → Bool
  volume : Option AppVolumeIdentity
  restartsBeforeStop : List (String × ℤ)
  fuel : ℕ

structure WorkerRestoreLocals where
  runningNames : List String := []
  foundRunning : List DockerContainerInspection := []
  restarted : Bool := false
  rollbackCompleted : Bool := true

structure WorkerRestoreResult where
  liveRuntimePreserved : Bool
  rollbackCompleted : Bool
  deriving DecidableEq, Repr

namespace WorkerRestore

variable (restore : WorkerRestore)

def outcomeOf (container : DockerContainerInspection) : Option WorkerShutdownOutcome :=
  (restore.shutdowns.reverse.find? fun report =>
    report.containerName = getContainerName container).map WorkerShutdownReport.outcome

def isLeftAlone (container : DockerContainerInspection) : Bool :=
  restore.outcomeOf container = some .hung ||
    (restore.outcomeOf container = some .alreadyStopped && !restore.isRecordedLive container)

def restorePolicy {σ : Type} (container : DockerContainerInspection) : AgentMethod σ Unit :=
  if restore.outcomeOf container = none then pure ()
  else request (.updateContainerRestartPolicy (getContainerIdentifier container) "unless-stopped")

def keepRunning (container current : DockerContainerInspection) :
    AgentMethod WorkerRestoreLocals Unit := do
  restore.restorePolicy container
  Method.assign fun s => { s with
    runningNames := s.runningNames ++ [getContainerName container]
    foundRunning := s.foundRunning ++ [current] }

def review (container : DockerContainerInspection) : AgentMethod WorkerRestoreLocals Bool :=
  if restore.isLeftAlone container then pure false
  else do
    match ← request (.inspectContainer (getContainerIdentifier container)) with
    | none => do
      Method.assign fun s => { s with
        rollbackCompleted := s.rollbackCompleted && decide (restore.outcomeOf container = none) }
      pure false
    | some current =>
      if current.running then do
        restore.keepRunning container current
        pure false
      else pure (restore.outcomeOf container).isSome

def reviewAll : List DockerContainerInspection →
    AgentMethod WorkerRestoreLocals (List DockerContainerInspection)
  | [] => pure []
  | container :: rest => do
    let start ← restore.review container
    let toStart ← reviewAll rest
    pure (if start then container :: toStart else toStart)

def readinessInput (container : DockerContainerInspection) : WorkerReadinessInput where
  containerName := getContainerName container
  hasHealthcheck := false
  restartsBeforeStart :=
    (restore.restartsBeforeStop.reverse.lookup (getContainerName container)).getD 0

def startAgain (container : DockerContainerInspection) : AgentMethod WorkerRestoreLocals Unit := do
  let s ← Method.locals
  assertVolumeUnused restore.volume s.runningNames
  request (.updateContainerRestartPolicy (getContainerIdentifier container) "unless-stopped")
  request (.startContainer (getContainerIdentifier container))
  Method.assign fun s => { s with runningNames := s.runningNames ++ [getContainerName container] }
  match ← Method.settle (waitForWorkerReadiness restore.fuel (restore.readinessInput container)) with
  | .ok _ => Method.assign fun s => { s with restarted := true }
  | .error _ => pure ()

def startStopped : AgentMethod WorkerRestoreLocals Unit := do
  let toStart ← restore.reviewAll restore.previousContainers
  Method.forEach toStart restore.startAgain

def hasRestarted (s : WorkerRestoreLocals) : AgentMethod WorkerRestoreLocals Bool :=
  if s.restarted then pure true else WorkerRollout.anyReplicaRuns restore.fuel s.foundRunning

def restorePreviousWorkerRuntime : AgentAction WorkerRestoreResult := Method.withLocals {} do
  Method.tryCatch restore.startStopped fun _ =>
    Method.assign fun s => { s with rollbackCompleted := false }
  let s ← Method.locals
  let liveRuntimePreserved ← restore.hasRestarted s
  pure ⟨liveRuntimePreserved, s.rollbackCompleted && liveRuntimePreserved⟩

end WorkerRestore

namespace WorkerDeployment

variable (d : WorkerDeployment) {σ : Type}

open WorkerRollout

def policy : WorkerShutdownPolicy := resolveWorkerShutdownPolicy d.payload

def isRecordedLive : DockerContainerInspection → Bool :=
  recordedLiveRuntime d.payload.runtimeMetadata

def isLive (container : DockerContainerInspection) : Bool :=
  container.running || d.isRecordedLive container

def isLeftover (candidates : List WorkerCandidate) (container : DockerContainerInspection) : Bool :=
  !d.isLive container &&
    !decide (getContainerName container ∈ candidates.map WorkerCandidate.containerName)

def createWorkerVolume : AgentMethod σ Unit :=
  match d.payload.volume with
  | none => pure ()
  | some volume => request (.createVolume volume.volumeName
      [("nouva.managed", "true"), ("nouva.server.id", d.environment.serverId),
        ("nouva.volume.id", volume.volumeId), ("nouva.project.id", d.payload.projectId),
        ("nouva.service.id", d.payload.serviceId)])

def rolloutImage : AgentMethod σ (Option DockerImageInspection) :=
  if 0 < d.payload.replicaCount then do
    let image ← d.environment.ensureWorkerImage d.payload.imageUrl
    pure (some image)
  else request (.inspectImage d.payload.imageUrl)

def planRollout (image : Option DockerImageInspection) (candidates : List WorkerCandidate)
    (containers : List DockerContainerInspection) : PlannedWorkerRollout where
  image := image
  candidates := candidates
  containers := containers
  plan := planWorkerRollout d.policy.rolloutPolicy d.payload.volume.isSome d.payload.deploymentId
    (candidates.map WorkerCandidate.containerName)
    (containers.map fun container => ⟨getContainerName container,
      container.label "nouva.deployment.id", d.isLive container⟩)

def prepareWorkerRollout : AgentAction PlannedWorkerRollout := do
  Method.ofExcept (assertReplicaCount d.payload.replicaCount)
  Method.ofExcept (assertVolumeWorkerPayload d.payload)
  d.environment.ensureProjectNetwork d.payload.projectId
  d.createWorkerVolume
  let image ← d.rolloutImage
  let candidates ← Method.ofExcept (buildWorkerContainerSpecs d.environment d.payload image
    d.payload.replicaCount.num.toNat 0)
  let listed ← listWorkerServiceContainers d.payload.serviceId
  let leftovers := listed.filter (d.isLeftover candidates)
  Method.forEach leftovers fun leftover =>
    request (.removeContainer (getContainerIdentifier leftover) false none)
  assertContainersAbsent (leftovers.map getContainerIdentifier)
  let containers := listed.filter fun container => !d.isLeftover candidates container
  assertVolumeUnused d.payload.volume (containers.map getContainerName)
  pure (d.planRollout image candidates containers)

def rolloutResult (r : PlannedWorkerRollout) (outcome : AppRolloutOutcome)
    (currentPhase : WorkerRolloutPhase) (restored : WorkerRestoreResult)
    (activeContainerNames : List String) (s : WorkerRolloutLocals) : WorkerRolloutResult where
  strategy := r.plan.strategy
  outcome := outcome
  currentPhase := currentPhase
  liveRuntimePreserved := restored.liveRuntimePreserved
  rollbackCompleted := restored.rollbackCompleted
  activeContainerNames := activeContainerNames
  candidateContainerNames := r.candidateNames
  policy := d.policy
  shutdowns := s.shutdowns

def retiredRole (container : DockerContainerInspection) : WorkerShutdownRole :=
  if container.label "nouva.deployment.id" = some d.payload.deploymentId then .surplus
  else .previous

def stopOf (roleOf : DockerContainerInspection → WorkerShutdownRole)
    (container : DockerContainerInspection) : WorkerStop :=
  ⟨getContainerIdentifier container, getContainerName container, roleOf container, d.policy⟩

def unconfirmedReport (roleOf : DockerContainerInspection → WorkerShutdownRole)
    (container : DockerContainerInspection) (elapsedMs : ℤ) : WorkerShutdownReport where
  containerName := getContainerName container
  role := roleOf container
  signal := resolveWorkerStopSignal d.policy.signal
    (container.config.bind ContainerConfig.stopSignal)
  gracePeriodSeconds := d.policy.gracePeriodSeconds
  outcome := .unconfirmed
  exitCode := none
  elapsedMs := max 0 elapsedMs

def settledReports (roleOf : DockerContainerInspection → WorkerShutdownRole) (startedAt : ℤ) :
    List (DockerContainerInspection × Except Failure WorkerShutdownReport) →
      AgentMethod σ (List WorkerShutdownReport)
  | [] => pure []
  | (_, .ok report) :: rest => do
    let reports ← settledReports roleOf startedAt rest
    pure (report :: reports)
  | (container, .error _) :: rest => do
    let time ← now
    let reports ← settledReports roleOf startedAt rest
    pure (d.unconfirmedReport roleOf container (time - startedAt) :: reports)

def stopAllGracefully (containers : List DockerContainerInspection)
    (roleOf : DockerContainerInspection → WorkerShutdownRole) :
    AgentMethod WorkerRolloutLocals (List WorkerShutdownReport) := do
  let startedAt ← now
  let settled ← Method.lift (Method.allSettled d.fuel (containers.map fun container =>
    stopWorkerContainerGracefully d.fuel (d.stopOf roleOf container)))
  let reports ← d.settledReports roleOf startedAt (containers.zip settled)
  Method.assign fun s => { s with shutdowns := s.shutdowns ++ reports }
  pure reports

def findContainers : List String → AgentMethod σ (List DockerContainerInspection)
  | [] => pure []
  | name :: names => do
    let found ← request (.inspectContainer name)
    let rest ← findContainers names
    pure (found.toList ++ rest)

def removeStoppedCandidates :
    List (DockerContainerInspection × WorkerShutdownReport) → AgentMethod σ Bool
  | [] => pure true
  | (candidate, report) :: rest =>
    if report.outcome = .hung then do
      let _ ← removeStoppedCandidates rest
      pure false
    else do
      request (.removeContainer (getContainerIdentifier candidate)
        (report.outcome = .unconfirmed) none)
      removeStoppedCandidates rest

def discardGracefully (names : List String) : AgentMethod WorkerRolloutLocals Bool := do
  let started ← findContainers names
  let reports ← d.stopAllGracefully started fun _ => .candidate
  removeStoppedCandidates (started.zip reports)

def forceRemoveCandidate (name : String) : AgentMethod σ Unit := do
  match ← request (.inspectContainer name) with
  | none => pure ()
  | some candidate => request (.removeContainer (getContainerIdentifier candidate) true none)

def forceRemoveCandidates : List String → AgentMethod σ Bool
  | [] => pure true
  | name :: names => do
    let removed ← Method.settle (forceRemoveCandidate name)
    let rest ← forceRemoveCandidates names
    pure (removed.isOk && rest)

def discardFailedCandidates (names : List String) : AgentMethod WorkerRolloutLocals Bool :=
  Method.tryCatch (d.discardGracefully names) fun _ => forceRemoveCandidates names

def snapshotVolume : AgentMethod σ (Option String) :=
  match d.payload.volume with
  | none => pure none
  | some volume => do
    assertNoUnexpectedVolumeConsumer volume.volumeName []
    let snapshotName ← createWorkerVolumeSnapshot d volume
    pure (some snapshotName)

def failUnstopped (report : Option WorkerShutdownReport) (head tail : String) : AgentMethod σ Unit :=
  match report with
  | none => pure ()
  | some report =>
    throw (.error (head ++ report.containerName ++ tail ++ describeUnstopped report))

variable (r : PlannedWorkerRollout)

def resetStaleCandidates : AgentMethod WorkerRolloutLocals Unit := do
  let staleCandidates := r.pick r.plan.resetCandidates
  let reports ← d.stopAllGracefully staleCandidates fun _ => .candidate
  failUnstopped (reports.find? mayStillRun) "Worker " " from an interrupted rollout "
  Method.forEach staleCandidates fun candidate =>
    request (.removeContainer (getContainerIdentifier candidate) false none)
  assertContainersAbsent (staleCandidates.map getContainerIdentifier)

def failUnstoppedPrevious (report : Option WorkerShutdownReport) : AgentMethod σ Unit :=
  match report with
  | none => pure ()
  | some report => throw (.error ("Previous worker " ++ report.containerName ++ " " ++
      describeUnstopped report ++ ", so the new version was not started. Stop it on the server, " ++
      "then redeploy."))

def stopOthers : AgentMethod WorkerRolloutLocals Unit := do
  d.resetStaleCandidates r
  assertVolumeUnused d.payload.volume (r.previousContainers.map getContainerName)
  let restarts ← readRestartLoopsBeforeStop r.previousContainers
  Method.assign fun s => { s with restartsBeforeStop := restarts }
  let reports ← d.stopAllGracefully r.previousContainers d.retiredRole
  failUnstoppedPrevious (reports.find? mayStillRun)
  assertContainersStopped r.previousContainers

def stopPrevious : AgentMethod WorkerRolloutLocals (Option String) := do
  d.stopOthers r
  d.snapshotVolume

def restorePrevious : AgentMethod WorkerRolloutLocals WorkerRestoreResult := do
  let s ← Method.locals
  Method.lift (WorkerRestore.restorePreviousWorkerRuntime
    { previousContainers := r.previousContainers, shutdowns := s.shutdowns
      isRecordedLive := d.isRecordedLive, volume := d.payload.volume
      restartsBeforeStop := s.restartsBeforeStop, fuel := d.fuel })

def abortBeforeStart (error : Failure) : AgentMethod WorkerRolloutLocals WorkerRolloutError := do
  let restored ← d.restorePrevious r
  let s ← Method.locals
  pure ⟨error.message "Stopping the previous worker failed",
    d.rolloutResult r .abortedBeforeCutover .restore ⟨restored.liveRuntimePreserved, false⟩
      (r.previousContainers.map getContainerName) s⟩

def adoptLiveReplicas : AgentMethod WorkerRolloutLocals Unit :=
  Method.assign fun s => { s with
    adoptedLiveReplicas := if r.plan.isStopFirst then [] else
      (r.pick r.candidateNames).filter fun container =>
        container.running && d.isRecordedLive container }

def isAdopted (s : WorkerRolloutLocals) (containerName : String) : Bool :=
  s.adoptedLiveReplicas.any fun container => getContainerName container = containerName

def startCandidate (candidate : WorkerCandidate) : AgentMethod WorkerRolloutLocals Unit := do
  let kept ← prepareCandidateSlot candidate.containerName
  Method.assign fun s => { s with
    adoptedLiveReplicas := s.adoptedLiveReplicas.filter fun container =>
      kept || getContainerName container ≠ candidate.containerName }
  let id ← request (.ensureContainer candidate.spec false false)
  Method.assign fun s => { s with
    candidateIds := s.candidateIds ++ [(candidate.containerName, id)] }

def awaitCandidate (candidate : WorkerCandidate) : AgentMethod WorkerRolloutLocals Unit := do
  let s ← Method.locals
  waitForWorkerReadiness d.fuel
    { containerName := candidate.containerName, hasHealthcheck := candidate.hasHealthcheck
      ignoreEarlierRestarts := isAdopted s candidate.containerName }

def startCandidates : AgentMethod WorkerRolloutLocals Unit := do
  Method.forEach r.candidates startCandidate
  Method.forEach r.candidates d.awaitCandidate

def restoreVolume (snapshotName : Option String) : AgentMethod σ Bool :=
  match snapshotName, d.payload.volume with
  | some snapshotName, some volume => do
    assertNoUnexpectedVolumeConsumer volume.volumeName []
    restoreWorkerVolumeSnapshot d volume snapshotName
    pure true
  | _, _ => pure false

structure Undone where
  volumeRestored : Bool := false
  restored : WorkerRestoreResult := ⟨false, false⟩

def handBack (volumeRestored : Bool) : AgentMethod WorkerRolloutLocals Undone := do
  match ← Method.settle (d.restorePrevious r) with
  | .ok restored => pure ⟨volumeRestored, restored⟩
  | .error _ => pure ⟨volumeRestored, ⟨false, false⟩⟩

def undo (snapshotName : Option String) (candidatesStopped : Bool) :
    AgentMethod WorkerRolloutLocals Undone :=
  if candidatesStopped then do
    match ← Method.settle (d.restoreVolume snapshotName) with
    | .ok volumeRestored => d.handBack r volumeRestored
    | .error _ => pure {}
  else pure {}

/-- A snapshot that was restored goes; one that was not is kept, and where is answered. -/
def disposeSnapshot (snapshotName : Option String) (volumeRestored : Bool) :
    AgentMethod σ (Option String) :=
  match snapshotName with
  | none => pure none
  | some snapshotName =>
    if volumeRestored then do
      deleteWorkerVolumeSnapshotBestEffort d snapshotName
      pure none
    else do
      let keptAt ← now
      let kept ← keepWorkerVolumeSnapshot d snapshotName keptAt
      pure (some kept)

structure FailedWorkerRollout where
  restored : WorkerRestoreResult
  keptSnapshot : Option String := none

def recover (snapshotName : Option String) (candidatesStopped : Bool)
    (untouched : List DockerContainerInspection) :
    AgentMethod WorkerRolloutLocals FailedWorkerRollout :=
  if r.plan.isStopFirst then do
    let undone ← d.undo r snapshotName candidatesStopped
    let keptSnapshot ← d.disposeSnapshot snapshotName undone.volumeRestored
    pure ⟨undone.restored, keptSnapshot⟩
  else do
    let liveRuntimePreserved ← anyReplicaRuns d.fuel untouched
    pure ⟨⟨liveRuntimePreserved, false⟩, none⟩

def removeFailedImage : AgentMethod σ Unit :=
  if d.environment.imageStoreMode = .dockerLocal ∧
      ¬ WorkerImages.shouldRetainWorkerImage d.payload.runtimeMetadata d.payload.imageUrl then do
    let _ ← Method.settle (request (.removeImage d.payload.imageUrl true))
    pure ()
  else pure ()

def failureMessage (error : Failure) (keptSnapshot : Option String) : String :=
  let message := error.message "Worker candidate failed readiness checks"
  match present keptSnapshot with
  | none => message
  | some kept => message ++ ". " ++ describeKeptSnapshot kept d.environment.dataVolume

def failRollout (snapshotName : Option String) (error : Failure) :
    AgentMethod WorkerRolloutLocals WorkerRolloutError := do
  let s ← Method.locals
  let candidatesStopped ← d.discardFailedCandidates
    (r.candidateNames.filter fun name => !isAdopted s name)
  let untouched := s.adoptedLiveReplicas ++ r.retiredContainers
  let failed ← d.recover r snapshotName candidatesStopped untouched
  d.removeFailedImage
  let s ← Method.locals
  pure ⟨d.failureMessage error failed.keptSnapshot,
    d.rolloutResult r .abortedBeforeCutover (if r.plan.isStopFirst then .restore else .ready)
      failed.restored ((r.previousContainers ++ untouched).map getContainerName) s⟩

def cutOver (snapshotName : Option String) :
    AgentMethod WorkerRolloutLocals (Except WorkerRolloutError (Option String)) := do
  d.adoptLiveReplicas r
  match ← Method.settle (d.startCandidates r) with
  | .ok _ => pure (.ok snapshotName)
  | .error error => do
    let failed ← d.failRollout r snapshotName error
    pure (.error failed)

def reachCutover : AgentMethod WorkerRolloutLocals (Except WorkerRolloutError (Option String)) :=
  if r.plan.isStopFirst then do
    match ← Method.settle (d.stopPrevious r) with
    | .error error => do
      let failed ← d.abortBeforeStart r error
      pure (.error failed)
    | .ok snapshotName => d.cutOver r snapshotName
  else d.cutOver r none

def removeRetired (container : DockerContainerInspection) : AgentMethod σ Unit := do
  let _ ← Method.settle (request (.removeContainer (getContainerIdentifier container) false none))
  pure ()

def removeRetiredUnlessRunning (retired : DockerContainerInspection × WorkerShutdownReport) :
    AgentMethod σ Unit :=
  if mayStillRun retired.2 then pure () else removeRetired retired.1

def cleanUpSnapshot (snapshotName : Option String) : AgentMethod σ Unit :=
  match snapshotName with
  | none => pure ()
  | some snapshotName => deleteWorkerVolumeSnapshotBestEffort d snapshotName

def nextCurrentImage : RuntimeRetainedImage :=
  match r.image with
  | some image =>
    ⟨d.payload.imageUrl, some image.id, some d.payload.deploymentId, d.payload.commitHash⟩
  | none => (WorkerImages.resolveCurrentRuntimeImage d.payload.runtimeMetadata).getD
      ⟨d.payload.imageUrl, none, some d.payload.deploymentId, d.payload.commitHash⟩

def nextPreviousImage : Option RuntimeRetainedImage :=
  WorkerImages.resolveCurrentRuntimeImage d.payload.runtimeMetadata

def retiredImage : Option String :=
  match WorkerImages.resolvePreviousRuntimeImage d.payload.runtimeMetadata with
  | none => none
  | some retained =>
    if d.environment.imageStoreMode = .dockerLocal ∧
        ¬ WorkerImages.sameRetainedImage (some retained) (some (d.nextCurrentImage r)) ∧
        ¬ WorkerImages.sameRetainedImage (some retained) d.nextPreviousImage then
      WorkerImages.referenceOf retained
    else none

def removeRetiredImage : AgentMethod σ Unit :=
  match d.retiredImage r with
  | none => pure ()
  | some reference => do
    let _ ← Method.settle (request (.removeImage reference true))
    pure ()

def runtimeInstance (s : WorkerRolloutLocals) (candidate : WorkerCandidate) (replicaIndex : ℕ) :
    WorkerRuntimeInstance where
  replicaIndex := replicaIndex
  name := candidate.containerName
  image := d.payload.imageUrl
  containerId := (s.candidateIds.reverse.lookup candidate.containerName).getD
    candidate.containerName
  containerName := candidate.containerName
  networkName := candidate.projectNetwork
  internalHost := candidate.containerName

def runtimeInstances (s : WorkerRolloutLocals) : List WorkerRuntimeInstance :=
  r.candidates.zipIdx.map fun (candidate, replicaIndex) =>
    d.runtimeInstance s candidate replicaIndex

def deployResult (s : WorkerRolloutLocals) : WorkerDeployResult :=
  let instances := d.runtimeInstances r s
  let imageCommand := match r.candidates.head?.bind WorkerCandidate.imageCommand with
    | some command => some command
    | none => detectWorkerImageCommand r.image
  { imageUrl := d.payload.imageUrl
    runtimeMetadata := {
      image := d.payload.imageUrl
      imageStoreMode := d.environment.imageStoreMode
      currentImage := d.nextCurrentImage r
      previousImage := d.nextPreviousImage
      containerId := instances.head?.map WorkerRuntimeInstance.containerId
      containerName := instances.head?.map WorkerRuntimeInstance.containerName
      networkName := d.environment.projectNetwork d.payload.projectId
      replicaCount := d.payload.replicaCount
      replicas := instances.map fun i => ⟨i.replicaIndex, i.containerId, i.containerName⟩
      detectedEntrypoint := imageCommand.map WorkerImageCommand.entrypoint
      detectedCommand := imageCommand.map WorkerImageCommand.command
      detectedCommandDisplay := imageCommand.map WorkerImageCommand.display
      workerCommand := normalizeWorkerCommand d.payload.startCommand
      workerHealthCheckCommand := normalizeWorkerCommand d.payload.healthCheckCommand }
    rollout := d.rolloutResult r .committed .retire ⟨false, false⟩ r.candidateNames s
    runtimeInstances := instances
    runtimeInstance := instances.head? }

def commitRollout (snapshotName : Option String) :
    AgentMethod WorkerRolloutLocals WorkerDeployResult := do
  let reports ← d.stopAllGracefully r.retiredContainers d.retiredRole
  Method.forEach (r.retiredContainers.zip reports) removeRetiredUnlessRunning
  Method.forEach r.previousContainers removeRetired
  d.cleanUpSnapshot snapshotName
  d.removeRetiredImage r
  let s ← Method.locals
  pure (d.deployResult r s)

def completeRollout : AgentMethod WorkerRolloutLocals (Except WorkerRolloutError WorkerDeployResult) := do
  match ← d.reachCutover r with
  | .error failed => pure (.error failed)
  | .ok snapshotName => do
    let result ← d.commitRollout r snapshotName
    pure (.ok result)

/-- Throws a `WorkerRolloutError` where `.error` is answered. -/
def deployWorkerRuntime : AgentAction (Except WorkerRolloutError WorkerDeployResult) := do
  let r ← d.prepareWorkerRollout
  Method.withLocals {} (d.completeRollout r)

end WorkerDeployment

end NouvaAgent
