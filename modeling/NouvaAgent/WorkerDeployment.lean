import NouvaAgent.WorkerShutdown

namespace NouvaAgent

open Text Interaction Agent WorkerShutdown

/-- What the control plane recorded of a worker. A replica is recorded by its container's name. -/
structure WorkerRuntimeMetadata extends RuntimeMetadata where
  replicas : List (Option String) := []
  replicaCount : Option ℚ := none

structure WorkerDeployOnlyPayload where
  projectId : String
  environmentId : Option String := none
  serviceId : String
  deploymentId : String
  redactionContextVersion : Option String := none
  commitHash : Option String := none
  envVars : TextRecord := []
  imageUrl : String
  volume : Option AppVolumeIdentity := none
  resourceLimits : EffectiveServiceResourceLimits
  replicaCount : ℚ
  startCommand : Option String := none
  healthCheckCommand : Option String := none
  shutdownPolicy : Json := .null
  runtimeMetadata : WorkerRuntimeMetadata := {}

structure WorkerImageCommand where
  entrypoint : List String
  command : List String
  display : String
  deriving DecidableEq, Repr

structure WorkerCandidate where
  containerName : String
  projectNetwork : String
  hasHealthcheck : Bool
  imageCommand : Option WorkerImageCommand
  spec : DockerContainerSpec
  deriving DecidableEq, Repr

structure ExistingWorkerContainer where
  name : String
  deploymentId : Option String
  live : Bool
  deriving DecidableEq, Repr

inductive CandidateFirstReason
  | overlapPolicy
  | noPreviousVersion
  | scaledToZero
  deriving DecidableEq, Repr

inductive StopFirstReason
  | noOverlapPolicy
  | singleWriterVolume
  deriving DecidableEq, Repr

/-- The order in which a rollout starts its own containers and retires the others, by name. -/
inductive WorkerRolloutPlan
  | candidateFirst (reason : CandidateFirstReason) (retireAfterReady : List String)
  | stopFirst (reason : StopFirstReason) (resetCandidates stopBeforeStart : List String)
  deriving DecidableEq, Repr

inductive WorkerRolloutStrategy
  | candidateReadyCutover
  | stopFirstCutover
  | singleWriterSnapshotCutover
  deriving DecidableEq, Repr

def getContainerIdentifier (container : DockerContainerInspection) : String :=
  if container.id = "" then getContainerName container else container.id

def buildWorkerReplicaContainerName (serviceId deploymentId : String) (replicaIndex : ℕ) : String :=
  "nouva-worker-" ++ slice 8 serviceId ++ "-" ++ slice 8 deploymentId ++ "-" ++ toString replicaIndex

def normalizeCommandParts (parts : Option (List String)) : List String :=
  ((parts.getD []).map trim).filter (· ≠ "")

def detectWorkerImageCommand (inspection : Option DockerImageInspection) :
    Option WorkerImageCommand :=
  let entrypoint := normalizeCommandParts (inspection.bind DockerImageInspection.entrypoint)
  let command := normalizeCommandParts (inspection.bind DockerImageInspection.cmd)
  if entrypoint = [] ∧ command = [] then none
  else some ⟨entrypoint, command, String.intercalate " " (entrypoint ++ command)⟩

def imageHasHealthcheck (inspection : Option DockerImageInspection) : Bool :=
  match (inspection.bind DockerImageInspection.healthcheck).bind ImageHealthcheck.test with
  | some (first :: _) => toUpperCase first ≠ "NONE"
  | _ => false

def buildWorkerHealthcheck (command : Option String) : Option ImageHealthcheck :=
  (normalizeWorkerCommand command).map fun command =>
    { test := some ["CMD-SHELL", command], interval := some 10000000000
      timeout := some 5000000000, retries := some 3, startPeriod := some 10000000000 }

def resolveWorkerShutdownPolicy (payload : WorkerDeployOnlyPayload) : WorkerShutdownPolicy :=
  (WorkerShutdownPolicy.parse payload.shutdownPolicy).getD WorkerShutdownPolicy.byDefault

def assertReplicaCount (replicaCount : ℚ) : Except Failure Unit :=
  if replicaCount.isInt ∧ 0 ≤ replicaCount ∧ replicaCount ≤ 32 then .ok ()
  else .error (.error "Worker replicaCount must be an integer from 0 through 32")

def assertVolumeWorkerPayload (payload : WorkerDeployOnlyPayload) : Except Failure Unit :=
  if payload.volume.isSome ∧ 1 < payload.replicaCount then
    .error (.error "Volume-backed workers support at most one continuous replica")
  else .ok ()

def buildWorkerContainerSpec (environment : WorkerRuntimeEnvironment)
    (payload : WorkerDeployOnlyPayload) (image : Option DockerImageInspection)
    (replicaIndex : ℕ) : Except Failure WorkerCandidate :=
  let containerName :=
    buildWorkerReplicaContainerName payload.serviceId payload.deploymentId replicaIndex
  let projectNetwork := environment.projectNetwork payload.projectId
  let startCommand := normalizeWorkerCommand payload.startCommand
  let imageCommand := detectWorkerImageCommand image
  if startCommand = none ∧ imageCommand = none then
    .error (.error ("Worker image " ++ payload.imageUrl ++ " has no runnable default entrypoint or " ++
      "command. Set a worker start command or rebuild the image with a CMD or ENTRYPOINT."))
  else do
    let healthcheck := buildWorkerHealthcheck payload.healthCheckCommand
    let policy := resolveWorkerShutdownPolicy payload
    let resources ← (toDockerResourceSettings payload.resourceLimits).mapError Failure.error
    .ok {
      containerName, projectNetwork, imageCommand
      hasHealthcheck := healthcheck.isSome || imageHasHealthcheck image
      spec := {
        name := containerName
        image := payload.imageUrl
        env := payload.envVars.map fun entry => entry.1 ++ "=" ++ entry.2
        entrypoint := startCommand.map fun _ => ["/bin/sh", "-lc"]
        cmd := startCommand.map fun command => [command]
        labels := buildWorkerLabels
          { serverId := environment.serverId, kind := "worker", projectId := payload.projectId
            environmentId := payload.environmentId, serviceId := payload.serviceId
            deploymentId := some payload.deploymentId
            redactionContextVersion := payload.redactionContextVersion
            replicaIndex := some replicaIndex }
        healthcheck
        stopSignal := policy.signal.map WorkerShutdownSignal.text
        stopTimeoutSeconds := some policy.gracePeriodSeconds
        mounts := (payload.volume.map fun volume =>
          ⟨volume.volumeName, volume.mountPath, false⟩).toList
        restartPolicy := some "unless-stopped"
        resources := some resources
        network := some projectNetwork } }

def buildWorkerContainerSpecs (environment : WorkerRuntimeEnvironment)
    (payload : WorkerDeployOnlyPayload) (image : Option DockerImageInspection) :
    (count index : ℕ) → Except Failure (List WorkerCandidate)
  | 0, _ => .ok []
  | count + 1, index => do
    let candidate ← buildWorkerContainerSpec environment payload image index
    let rest ← buildWorkerContainerSpecs environment payload image count (index + 1)
    .ok (candidate :: rest)

namespace WorkerImages

def resolveCurrentRuntimeImage (metadata : WorkerRuntimeMetadata) : Option RuntimeRetainedImage :=
  metadata.currentImage.or ((present metadata.image).map fun image => ⟨image, none, none, none⟩)

def resolvePreviousRuntimeImage (metadata : WorkerRuntimeMetadata) : Option RuntimeRetainedImage :=
  metadata.previousImage

def sameRetainedImage (left right : Option RuntimeRetainedImage) : Bool :=
  match left, right with
  | some left, some right =>
    match present left.imageId, present right.imageId with
    | some leftId, some rightId => leftId = rightId
    | _, _ => left.reference = right.reference
  | none, none => true
  | _, _ => false

def referenceOf (image : RuntimeRetainedImage) : Option String :=
  (present (some image.reference)).or (present image.imageId)

def shouldRetainWorkerImage (metadata : WorkerRuntimeMetadata) (reference : String) : Bool :=
  [resolveCurrentRuntimeImage metadata, resolvePreviousRuntimeImage metadata].any fun image =>
    image.bind referenceOf = some reference

end WorkerImages

def recordedLiveRuntime (metadata : WorkerRuntimeMetadata)
    (container : DockerContainerInspection) : Bool :=
  let names := (metadata.replicas ++ [metadata.containerName]).filterMap present
  if names ≠ [] then getContainerName container ∈ names
  else
    match metadata.currentImage.bind RuntimeRetainedImage.deploymentId with
    | none => false
    | some deploymentId =>
      container.label "nouva.deployment.id" = some deploymentId &&
        ((number ((container.label "nouva.replica.index").getD "0")).map fun replicaIndex =>
          decide (replicaIndex < metadata.replicaCount.getD 1)).getD false

def planWorkerRollout (rolloutPolicy : WorkerRolloutPolicy) (hasVolume : Bool)
    (deploymentId : String) (candidateNames : List String)
    (containers : List ExistingWorkerContainer) : WorkerRolloutPlan :=
  let existingCandidates := containers.filter fun container => container.name ∈ candidateNames
  let others := containers.filter fun container => container.name ∉ candidateNames
  let otherNames := others.map ExistingWorkerContainer.name
  let resetCandidates := existingCandidates.map ExistingWorkerContainer.name
  let liveOthers := others.filter ExistingWorkerContainer.live
  let olderVersionExists := liveOthers.any fun container =>
    container.deploymentId ≠ some deploymentId
  if candidateNames = [] then .candidateFirst .scaledToZero otherNames
  else if hasVolume ∧ liveOthers ≠ [] then
    .stopFirst .singleWriterVolume resetCandidates otherNames
  else if rolloutPolicy = .noOverlap ∧ olderVersionExists then
    .stopFirst .noOverlapPolicy resetCandidates otherNames
  else
    .candidateFirst (if rolloutPolicy = .overlap ∧ olderVersionExists then .overlapPolicy
      else .noPreviousVersion) otherNames

namespace WorkerRolloutPlan

def strategy : WorkerRolloutPlan → WorkerRolloutStrategy
  | candidateFirst _ _ => .candidateReadyCutover
  | stopFirst .noOverlapPolicy _ _ => .stopFirstCutover
  | stopFirst .singleWriterVolume _ _ => .singleWriterSnapshotCutover

def isStopFirst : WorkerRolloutPlan → Bool
  | stopFirst _ _ _ => true
  | candidateFirst _ _ => false

def resetCandidates : WorkerRolloutPlan → List String
  | stopFirst _ names _ => names
  | candidateFirst _ _ => []

def stopBeforeStart : WorkerRolloutPlan → List String
  | stopFirst _ _ names => names
  | candidateFirst _ _ => []

def retireAfterReady : WorkerRolloutPlan → List String
  | stopFirst _ _ _ => []
  | candidateFirst _ names => names

end WorkerRolloutPlan

end NouvaAgent
