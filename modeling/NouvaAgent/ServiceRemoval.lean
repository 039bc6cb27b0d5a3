import NouvaAgent.VolumeWipe
import NouvaAgent.WorkerDeployment

namespace NouvaAgent

open Text Interaction Host

inductive RemovedServiceType
  | app
  | database
  | worker
  deriving DecidableEq, Repr

structure RemovedRuntime extends RuntimeMetadata where
  imageStoreMode : Option AgentImageStoreMode := none

structure RemoveServicePayload where
  serviceId : String
  serviceType : RemovedServiceType
  containerName : Option String := none
  runtimeMetadata : Option RemovedRuntime := none

structure RemovedInstance where
  kind : String
  containerId : Option String
  containerName : Option String
  replicaIndex : Option ℤ := none
  workerScheduleRunId : Option String := none
  deriving DecidableEq, Repr

inductive CleanupProof
  | deleteService (identifier : Option String) (serviceId : String) (retainedImages : List String)
  | deleteWorker (serviceId : String) (containers retainedImages : List String)
  | deleteVolume (name : String)
  deriving DecidableEq, Repr

structure RemovalResult where
  runtimeInstances : List RemovedInstance
  cleanupProof : Option CleanupProof
  deriving DecidableEq, Repr

/-- A character in lower case; of the rest of Unicode, two that have an ASCII letter for it. -/
def lowered (c : Char) : List Char :=
  if c = '\u212A' then ['k'] else if c = '\u0130' then ['i', '\u0307'] else [c.toLower]

def isNameCharacter (c : Char) : Bool :=
  ('a' ≤ c ∧ c ≤ 'z') || c.isDigit || c ∈ ['_', '.', '-']

/-- `text.replace(/[^a-z0-9_.-]+/g, "-")`, behind a character that it replaces or another. -/
def dashRuns : (replacing : Bool) → List Char → List Char
  | _, [] => []
  | replacing, c :: rest =>
    if isNameCharacter c then c :: dashRuns false rest
    else if replacing then dashRuns true rest
    else '-' :: dashRuns true rest

def buildBuildkitCacheVolumeName (serviceId : String) : String :=
  let sanitized := dashRuns false (serviceId.toList.flatMap lowered)
  "nouva-buildkit-cache-" ++ ((present (some (String.ofList (sanitized.take 32)))).getD "shared")

example : buildBuildkitCacheVolumeName "Service  Ü.1" = "nouva-buildkit-cache-service-.1" := by
  decide

namespace ServiceRemoval

/-! The containers of a service, whether they run or not. -/

def scopeLabels (serviceId : String) (deploymentId : Option String) : TextRecord :=
  [("nouva.managed", "true"), ("nouva.service.id", serviceId)] ++
    ((present deploymentId).map fun id => ("nouva.deployment.id", id)).toList

def hasLabels (labels : TextRecord) (label : String → Option String) : Bool :=
  labels.all fun entry => label entry.1 = some entry.2

def listInScope (labels : TextRecord) : HostAction (List DockerContainerInspection) := do
  let containers ← request (.listContainersByLabels labels)
  pure (containers.filter fun container => hasLabels labels container.label)

def removeInScope (container : DockerContainerInspection) : HostAction Unit :=
  if container.id = "" then throw (.error "Managed container has no ID")
  else request (.removeContainer container.id true none)

def removeScope (labels : TextRecord) : HostAction (List DockerContainerInspection) := do
  let containers ← listInScope labels
  Method.forEach containers removeInScope
  let remaining ← listInScope labels
  if remaining = [] then pure containers
  else throw (.error "Managed service containers still exist after cleanup")

def removeManagedServiceContainers (serviceId : String) (deploymentId : Option String) :
    HostAction (List DockerContainerInspection) :=
  if serviceId = "" ∨ deploymentId = some "" then
    throw (.error "Container cleanup requires a scope")
  else removeScope (scopeLabels serviceId deploymentId)

/-! The images that a service retained. -/

def getRetainedRuntimeImageReferences (metadata : RuntimeMetadata) : List String :=
  ([resolveCurrentRuntimeImage metadata, resolvePreviousRuntimeImage metadata].filterMap fun image =>
    present (image.map RuntimeRetainedImage.reference)).eraseDups

def getRetainedImageReferences (metadata : RuntimeMetadata) : List String :=
  ([WorkerImages.resolveCurrentRuntimeImage { toRuntimeMetadata := metadata },
    WorkerImages.resolvePreviousRuntimeImage { toRuntimeMetadata := metadata }].filterMap fun image =>
      image.bind WorkerImages.referenceOf).eraseDups

def removeImages (references : List String) : HostAction Unit :=
  Method.forEach references fun reference => request (.removeImage reference true)

def verifyImageAbsent (reference : String) : HostAction Unit := do
  match ← request (.inspectImage reference) with
  | some _ => throw (.error ("Docker image " ++ reference ++ " still exists after cleanup"))
  | none => pure ()

def localImages (references : RuntimeMetadata → List String) (metadata : Option RemovedRuntime) :
    List String :=
  match metadata with
  | some metadata =>
    if metadata.imageStoreMode = some .dockerLocal then references metadata.toRuntimeMetadata else []
  | none => []

/-! The handlers. -/

def removeWorkerInstance (container : DockerContainerInspection) : RemovedInstance :=
  let job := container.label "nouva.kind" = some "worker_job"
  { kind := if job then "worker_job" else "worker"
    containerId := some container.id
    containerName := some (getContainerName container)
    replicaIndex := ((((container.label "nouva.replica.index").bind number).filter Rat.isInt).map
      Rat.num)
    workerScheduleRunId := if job then container.label "nouva.schedule.run.id" else none }

def removeWorkerServiceRuntime (serviceId : String) (metadata : Option RemovedRuntime) :
    HostAction RemovalResult := do
  let containers ← removeManagedServiceContainers serviceId none
  let retainedImages := localImages getRetainedImageReferences metadata
  removeImages retainedImages
  pure ⟨containers.map removeWorkerInstance,
    some (.deleteWorker serviceId (containers.map getContainerIdentifier) retainedImages)⟩

def handleRemove (serviceId : String) (metadata : Option RemovedRuntime) (deploymentId : String) :
    HostAction RemovalResult :=
  if deploymentId = "" then throw (.error "App removal requires a deployment ID")
  else do
    let _ ← removeManagedServiceContainers serviceId (some deploymentId)
    removeImages (localImages getRetainedRuntimeImageReferences metadata)
    request (.deleteLocalTraefikRoute serviceId)
    pure ⟨[{ kind := "app", containerId := metadata.bind fun m => m.containerId
             containerName := metadata.bind fun m => m.containerName }], none⟩

def resolveServiceContainerIdentifier (payload : RemoveServicePayload) : Option String :=
  (payload.containerName.or (payload.runtimeMetadata.bind fun m => m.containerId)).or
    (payload.runtimeMetadata.bind fun m => m.containerName)

def deleteRuntime (payload : RemoveServicePayload) : HostAction RemovalResult := do
  let identifier := resolveServiceContainerIdentifier payload
  let _ ← removeManagedServiceContainers payload.serviceId none
  let retainedImages := if payload.serviceType = .app then
    localImages getRetainedRuntimeImageReferences payload.runtimeMetadata else []
  removeImages retainedImages
  VolumeWipe.verifyContainerAbsent identifier
  Method.forEach retainedImages verifyImageAbsent
  request (.deleteLocalTraefikRoute payload.serviceId)
  pure ⟨[{ kind := if payload.serviceType = .app then "app" else "database"
           containerId := payload.runtimeMetadata.bind fun m => m.containerId
           containerName := identifier }],
    some (.deleteService identifier payload.serviceId retainedImages)⟩

def handleDeleteService (payload : RemoveServicePayload) : HostAction RemovalResult := do
  VolumeWipe.removeVolume (buildBuildkitCacheVolumeName payload.serviceId) true
  if payload.serviceType = .worker then
    removeWorkerServiceRuntime payload.serviceId payload.runtimeMetadata
  else deleteRuntime payload

def handleDeleteVolume (volumeName : String) : HostAction RemovalResult := do
  VolumeWipe.removeVolume volumeName true
  VolumeWipe.verifyVolumeAbsent volumeName
  pure ⟨[], some (.deleteVolume volumeName)⟩

end ServiceRemoval

end NouvaAgent
