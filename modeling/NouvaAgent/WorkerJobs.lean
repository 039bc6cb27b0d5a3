import NouvaAgent.Host
import NouvaAgent.WorkerRuntime

namespace NouvaAgent

open Text Interaction Host

/-- The status of a receipt. One that is read back may be any text. -/
inductive WorkerJobStatus
  | created
  | running
  | succeeded
  | failed
  | cancelled
  | missing
  | other (text : String)
  deriving DecidableEq, Repr

namespace WorkerJobStatus

def text : WorkerJobStatus → String
  | created => "created"
  | running => "running"
  | succeeded => "succeeded"
  | failed => "failed"
  | cancelled => "cancelled"
  | missing => "missing"
  | other text => text

def ofText (text : String) : WorkerJobStatus :=
  (([created, running, succeeded, failed, cancelled, missing].find? fun status =>
    status.text = text)).getD (other text)

def Known (status : WorkerJobStatus) : Prop := ∀ text, status ≠ other text

theorem ofText_text {status : WorkerJobStatus} (h : status.Known) : ofText status.text = status := by
  cases status with
  | other text => exact absurd rfl (h text)
  | _ => rfl

end WorkerJobStatus

/-- A missing exit code or time counts as `null`. -/
structure WorkerJobReceipt where
  projectId : String
  serviceId : String
  deploymentId : String
  scheduleRunId : String
  scheduleId : String
  occurrenceKey : String
  jobName : String
  imageUrl : String
  containerId : String
  containerName : String
  status : WorkerJobStatus
  exitCode : FileValue
  createdAt : FileValue
  completedAt : FileValue
  deriving DecidableEq, Repr

structure WorkerJobPayload where
  projectId : String
  environmentId : Option String := none
  serviceId : String
  deploymentId : String
  redactionContextVersion : Option String := none
  scheduleId : String
  scheduleRunId : String
  occurrenceKey : String
  jobName : String
  imageUrl : String
  envVars : TextRecord := []
  command : String
  timeoutSeconds : ℚ
  volume : Option AppVolumeIdentity := none
  resourceLimits : EffectiveServiceResourceLimits

structure WorkerJobRuntimeInstance where
  kind : String := "worker_job"
  status : WorkerJobStatus
  projectId : String
  serviceId : String
  deploymentId : String
  scheduleId : String
  scheduleRunId : String
  workerScheduleRunId : String
  occurrenceKey : String
  name : String
  image : String
  containerId : String
  containerName : String
  networkName : String
  exitCode : FileValue
  startedAt : FileValue
  completedAt : FileValue
  deriving DecidableEq, Repr

structure WorkerJobResult where
  job : WorkerJobRuntimeInstance
  runtimeInstances : Option (List WorkerJobRuntimeInstance) := none
  containerReceipt : WorkerJobReceipt
  timeoutSeconds : Option ℚ := none
  deriving DecidableEq, Repr

structure WorkerJobExpectation where
  projectId : Option String
  deploymentId : Option String
  scheduleId : Option String
  occurrenceKey : Option String

namespace WorkerJobReceipt

def isTerminal (receipt : WorkerJobReceipt) : Bool :=
  receipt.status ∈ [.succeeded, .failed, .cancelled, .missing]

def contents (receipt : WorkerJobReceipt) : FileContents :=
  .object [("version", .number 1), ("projectId", .text receipt.projectId),
    ("serviceId", .text receipt.serviceId), ("deploymentId", .text receipt.deploymentId),
    ("scheduleRunId", .text receipt.scheduleRunId), ("scheduleId", .text receipt.scheduleId),
    ("occurrenceKey", .text receipt.occurrenceKey), ("jobName", .text receipt.jobName),
    ("imageUrl", .text receipt.imageUrl), ("containerId", .text receipt.containerId),
    ("containerName", .text receipt.containerName), ("status", .text receipt.status.text),
    ("exitCode", receipt.exitCode), ("createdAt", receipt.createdAt),
    ("completedAt", receipt.completedAt)]

def ofEntries (scheduleRunId : String) (entries : List (String × FileValue)) :
    Option WorkerJobReceipt :=
  let text (key : String) : Option String := match entries.lookup key with
    | some (.text value) => some value
    | _ => none
  if entries.lookup "version" = some (.number 1) ∧ text "scheduleRunId" = some scheduleRunId then do
    let projectId ← text "projectId"
    let serviceId ← text "serviceId"
    let deploymentId ← text "deploymentId"
    let scheduleId ← text "scheduleId"
    let occurrenceKey ← text "occurrenceKey"
    let jobName ← text "jobName"
    let imageUrl ← text "imageUrl"
    let containerId ← text "containerId"
    let containerName ← text "containerName"
    let status ← text "status"
    some { projectId, serviceId, deploymentId, scheduleRunId, scheduleId, occurrenceKey, jobName
           imageUrl, containerId, containerName, status := .ofText status
           exitCode := (entries.lookup "exitCode").getD .null
           createdAt := (entries.lookup "createdAt").getD .null
           completedAt := (entries.lookup "completedAt").getD .null }
  else none

def ofContents (scheduleRunId : String) (contents : FileContents) :
    Except String WorkerJobReceipt :=
  let invalid := "Worker job receipt for " ++ scheduleRunId ++ " is invalid"
  match contents with
  | .broken message => .error message
  | .value .null => .error "Cannot read properties of null (reading 'version')"
  | .value _ => .error invalid
  | .object entries =>
    match ofEntries scheduleRunId entries with
    | some receipt => .ok receipt
    | none => .error invalid

theorem ofContents_contents {receipt : WorkerJobReceipt} (h : receipt.status.Known) :
    ofContents receipt.scheduleRunId receipt.contents = .ok receipt := by
  simp [ofContents, contents, ofEntries, List.lookup_cons, WorkerJobStatus.ofText_text h]

end WorkerJobReceipt

namespace WorkerJobs

variable (environment : WorkerRuntimeEnvironment)

def getWorkerJobReceiptDirectory (dataDir : String) : String := dataDir ++ "/worker-job-receipts"

def getWorkerJobReceiptPath (dataDir scheduleRunId : String) : String :=
  getWorkerJobReceiptDirectory dataDir ++ "/" ++ base64Url scheduleRunId ++ ".json"

def temporaryReceiptPath (scheduleRunId : String) : String :=
  getWorkerJobReceiptPath environment.dataDir scheduleRunId ++ "." ++
    toString environment.processId ++ ".tmp"

def readWorkerJobReceipt (scheduleRunId : String) : HostAction (Option WorkerJobReceipt) := do
  match ← Method.ask (HostCall.readFile (getWorkerJobReceiptPath environment.dataDir scheduleRunId)) with
  | .ok contents =>
    match WorkerJobReceipt.ofContents scheduleRunId contents with
    | .ok receipt => pure (some receipt)
    | .error message => throw (.error message)
  | .error e => if e.code = some "ENOENT" then pure none else throw (.call e.toCallError)

def writeWorkerJobReceipt (receipt : WorkerJobReceipt) : HostAction Unit := do
  let temporaryPath := temporaryReceiptPath environment receipt.scheduleRunId
  file (.mkdir (getWorkerJobReceiptDirectory environment.dataDir))
  file (.writeFile temporaryPath receipt.contents)
  file (.rename temporaryPath
    (getWorkerJobReceiptPath environment.dataDir receipt.scheduleRunId))

def timestampOrNow (value : Option DateText) : HostAction FileValue :=
  match readTimestampMs value with
  | some ms => pure (.text (toISOString ms))
  | none => do
    let time ← now
    pure (.text (toISOString time))

def completedOrNow (receipt : WorkerJobReceipt) : HostAction FileValue :=
  match receipt.completedAt with
  | .null => do
    let time ← now
    pure (.text (toISOString time))
  | value => pure value

def readRequiredWorkerJobLabel (container : DockerContainerInspection) (key : String) :
    Option String := present ((container.label key).map trim)

def isContainerOfRun (container : DockerContainerInspection) (serviceId scheduleRunId : String) :
    Bool :=
  container.label "nouva.managed" = some "true" &&
  container.label "nouva.kind" = some "worker_job" &&
  container.label "nouva.service.type" = some "worker" &&
  container.label "nouva.service.id" = some serviceId &&
  container.label "nouva.schedule.run.id" = some scheduleRunId &&
  getContainerName container = buildWorkerJobContainerName serviceId scheduleRunId

def asExpected (container : DockerContainerInspection) (key : String) (expected : Option String) :
    Bool :=
  match present expected with
  | some value => container.label key = some value
  | none => true

def meetsExpectation (container : DockerContainerInspection) (expected : WorkerJobExpectation) :
    Bool :=
  asExpected container "nouva.project.id" expected.projectId &&
  asExpected container "nouva.deployment.id" expected.deploymentId &&
  asExpected container "nouva.schedule.id" expected.scheduleId &&
  asExpected container "nouva.schedule.occurrence.key" expected.occurrenceKey

def readWorkerJobIdentity (container : DockerContainerInspection)
    (serviceId scheduleRunId : String) : Option WorkerJobReceipt := do
  let projectId ← readRequiredWorkerJobLabel container "nouva.project.id"
  let deploymentId ← readRequiredWorkerJobLabel container "nouva.deployment.id"
  let scheduleId ← readRequiredWorkerJobLabel container "nouva.schedule.id"
  let occurrenceKey ← readRequiredWorkerJobLabel container "nouva.schedule.occurrence.key"
  let imageUrl ← present ((container.config.bind ContainerConfig.image).map trim)
  let containerId ← present (some (trim container.id))
  some { projectId, serviceId, deploymentId, scheduleRunId, scheduleId, occurrenceKey
         jobName := getContainerName container, imageUrl, containerId
         containerName := getContainerName container, status := .created, exitCode := .null
         createdAt := .null, completedAt := .null }

def exitCodeOf (container : DockerContainerInspection) : ℤ :=
  (container.state.bind ContainerState.exitCode).getD 1

def exitStatus (exitCode : ℤ) : WorkerJobStatus := if exitCode = 0 then .succeeded else .failed

def recoverWorkerJobReceiptFromContainer (container : DockerContainerInspection)
    (serviceId scheduleRunId : String) (expected : WorkerJobExpectation) :
    HostAction (Option WorkerJobReceipt) :=
  if isContainerOfRun container serviceId scheduleRunId && meetsExpectation container expected then
    match readWorkerJobIdentity container serviceId scheduleRunId with
    | none => pure none
    | some identity => do
      let createdAt ← timestampOrNow (container.state.bind ContainerState.startedAt)
      let receipt := { identity with createdAt }
      if container.running then pure (some { receipt with status := .running })
      else if (container.state.bind ContainerState.status).map toLowerCase = some "created" then
        pure (some receipt)
      else do
        let exitCode := exitCodeOf container
        let completedAt ← timestampOrNow (container.state.bind ContainerState.finishedAt)
        pure (some { receipt with
          status := exitStatus exitCode, exitCode := .number exitCode, completedAt })
  else pure none

def recoverMissingWorkerJobReceipt (serviceId scheduleRunId : String)
    (expected : WorkerJobExpectation) : HostAction (Option WorkerJobReceipt) := do
  let containerName := buildWorkerJobContainerName serviceId scheduleRunId
  match ← request (.inspectContainer containerName) with
  | none => pure none
  | some container =>
    match ← recoverWorkerJobReceiptFromContainer container serviceId scheduleRunId expected with
    | none => throw (.error ("Worker job container " ++ containerName ++
        " exists but does not match the scheduled run receipt"))
    | some receipt => do
      writeWorkerJobReceipt environment receipt
      pure (some receipt)

def buildWorkerJobRuntimeInstance (receipt : WorkerJobReceipt) (status : WorkerJobStatus) :
    WorkerJobRuntimeInstance :=
  { status, projectId := receipt.projectId, serviceId := receipt.serviceId
    deploymentId := receipt.deploymentId, scheduleId := receipt.scheduleId
    scheduleRunId := receipt.scheduleRunId, workerScheduleRunId := receipt.scheduleRunId
    occurrenceKey := receipt.occurrenceKey, name := receipt.containerName
    image := receipt.imageUrl, containerId := receipt.containerId
    containerName := receipt.containerName
    networkName := environment.projectNetwork receipt.projectId
    exitCode := receipt.exitCode, startedAt := receipt.createdAt
    completedAt := receipt.completedAt }

def receiptResult (receipt : WorkerJobReceipt) : WorkerJobResult :=
  { job := buildWorkerJobRuntimeInstance environment receipt receipt.status
    containerReceipt := receipt }

def runningResult (receipt : WorkerJobReceipt) : WorkerJobResult :=
  { job := buildWorkerJobRuntimeInstance environment { receipt with status := .running } .running
    containerReceipt := receipt }

def toTerminalWorkerJobReceipt (receipt : WorkerJobReceipt)
    (inspection : Option DockerContainerInspection) : HostAction WorkerJobReceipt :=
  match inspection with
  | none => do
    let completedAt ← completedOrNow receipt
    pure { receipt with status := .missing, completedAt }
  | some container => do
    let completedAt ← completedOrNow receipt
    pure { receipt with
      status := exitStatus (exitCodeOf container), exitCode := .number (exitCodeOf container)
      completedAt }

def settleWorkerJob (receipt : WorkerJobReceipt) (inspection : Option DockerContainerInspection) :
    HostAction WorkerJobResult := do
  let terminalReceipt ← toTerminalWorkerJobReceipt receipt inspection
  writeWorkerJobReceipt environment terminalReceipt
  pure (receiptResult environment terminalReceipt)

def assertWorkerJobVolumeAvailable (volume : Option AppVolumeIdentity) : HostAction Unit :=
  match volume with
  | none => pure ()
  | some volume => do
    let consumers ← request (.listContainersUsingVolume volume.volumeName)
    if consumers.any DockerContainerInspection.running then
      throw (.error ("Volume " ++ volume.volumeName ++ " already has a running consumer"))
    else pure ()

def buildWorkerJobSpec (payload : WorkerJobPayload) (command : String)
    (resources : DockerResourceSettings) : DockerContainerSpec :=
  { name := buildWorkerJobContainerName payload.serviceId payload.scheduleRunId
    image := payload.imageUrl
    env := payload.envVars.map fun entry => entry.1 ++ "=" ++ entry.2
    entrypoint := some ["/bin/sh", "-lc"]
    cmd := some [command]
    labels := buildWorkerLabels
      { serverId := environment.serverId, kind := "worker_job", projectId := payload.projectId
        environmentId := payload.environmentId, serviceId := payload.serviceId
        deploymentId := some payload.deploymentId, scheduleId := some payload.scheduleId
        scheduleRunId := some payload.scheduleRunId
        occurrenceKey := some payload.occurrenceKey
        redactionContextVersion := payload.redactionContextVersion }
    mounts := (payload.volume.map fun volume =>
      ⟨volume.volumeName, volume.mountPath, false⟩).toList
    restartPolicy := some "no"
    resources := some resources
    network := some (environment.projectNetwork payload.projectId) }

def launchWorkerJob (receipt : WorkerJobReceipt) : HostAction WorkerJobReceipt := do
  request (.startContainer receipt.containerId)
  let runningReceipt := { receipt with status := .running }
  writeWorkerJobReceipt environment runningReceipt
  pure runningReceipt

def resumeWorkerJob (receipt : WorkerJobReceipt) : HostAction WorkerJobResult :=
  if receipt.isTerminal then
    pure { receiptResult environment receipt with
      runtimeInstances := some [buildWorkerJobRuntimeInstance environment receipt receipt.status] }
  else do
    let container ← request (.inspectContainer receipt.containerId)
    if (container.map DockerContainerInspection.running).getD false then
      pure (runningResult environment receipt)
    else if receipt.status = .created ∧
        (container.bind fun c => c.state.bind ContainerState.status) = some "created" then do
      let runningReceipt ← launchWorkerJob environment receipt
      pure (receiptResult environment runningReceipt)
    else settleWorkerJob environment receipt container

def newWorkerJobReceipt (payload : WorkerJobPayload) (containerId : String) (createdAt : ℤ) :
    WorkerJobReceipt :=
  { projectId := payload.projectId, serviceId := payload.serviceId
    deploymentId := payload.deploymentId, scheduleRunId := payload.scheduleRunId
    scheduleId := payload.scheduleId, occurrenceKey := payload.occurrenceKey
    jobName := payload.jobName, imageUrl := payload.imageUrl, containerId
    containerName := buildWorkerJobContainerName payload.serviceId payload.scheduleRunId
    status := .created, exitCode := .null, createdAt := .text (toISOString createdAt)
    completedAt := .null }

def launchNewWorkerJob (payload : WorkerJobPayload) (receipt : WorkerJobReceipt) :
    HostAction WorkerJobResult := do
  writeWorkerJobReceipt environment receipt
  let runningReceipt ← launchWorkerJob environment receipt
  let job := buildWorkerJobRuntimeInstance environment runningReceipt .running
  pure { job, runtimeInstances := some [job], containerReceipt := runningReceipt
         timeoutSeconds := some payload.timeoutSeconds }

def createWorkerJob (payload : WorkerJobPayload) (command : String) : HostAction WorkerJobResult := do
  assertWorkerJobVolumeAvailable payload.volume
  agent (environment.ensureProjectNetwork payload.projectId)
  let _ ← agent (environment.ensureWorkerImage payload.imageUrl)
  let containerName := buildWorkerJobContainerName payload.serviceId payload.scheduleRunId
  match ← request (.inspectContainer containerName) with
  | some _ => throw (.error ("Worker job container " ++ containerName ++
      " exists but its receipt could not be recovered. " ++ "Refusing to run the command again."))
  | none => do
    let resources ← Method.ofExcept
      ((toDockerResourceSettings payload.resourceLimits).mapError Failure.error)
    let containerId ← request
      (.createContainer (buildWorkerJobSpec environment payload command resources))
    let createdAt ← now
    launchNewWorkerJob environment payload (newWorkerJobReceipt payload containerId createdAt)

def findWorkerJobReceipt (payload : WorkerJobPayload) : HostAction (Option WorkerJobReceipt) := do
  let expected : WorkerJobExpectation :=
    ⟨some payload.projectId, some payload.deploymentId, some payload.scheduleId,
      some payload.occurrenceKey⟩
  match ← readWorkerJobReceipt environment payload.scheduleRunId with
  | some receipt => pure (some receipt)
  | none =>
    recoverMissingWorkerJobReceipt environment payload.serviceId payload.scheduleRunId expected

def startWorkerJob (payload : WorkerJobPayload) : HostAction WorkerJobResult :=
  match normalizeWorkerCommand (some payload.command) with
  | none => throw (.error "Scheduled worker jobs require an explicit command")
  | some command =>
    if payload.timeoutSeconds.isInt ∧ 60 ≤ payload.timeoutSeconds ∧
        payload.timeoutSeconds ≤ 24 * 60 * 60 then do
      match ← findWorkerJobReceipt environment payload with
      | some receipt => resumeWorkerJob environment receipt
      | none => createWorkerJob environment payload command
    else throw (.error "Worker job timeoutSeconds must be an integer from 60 through 86400")

def requireWorkerJobReceipt (scheduleRunId : String) : HostAction WorkerJobReceipt := do
  match ← readWorkerJobReceipt environment scheduleRunId with
  | some receipt => pure receipt
  | none => throw (.error ("Worker job receipt " ++ scheduleRunId ++ " was not found"))

def inspectWorkerJob (scheduleRunId : String) : HostAction WorkerJobResult := do
  let receipt ← requireWorkerJobReceipt environment scheduleRunId
  if receipt.isTerminal then pure (receiptResult environment receipt)
  else do
    let inspection ← request (.inspectContainer receipt.containerId)
    if (inspection.map DockerContainerInspection.running).getD false then
      pure (runningResult environment receipt)
    else settleWorkerJob environment receipt inspection

def stopWorkerJob (scheduleRunId : String) : HostAction WorkerJobResult := do
  let receipt ← requireWorkerJobReceipt environment scheduleRunId
  if receipt.isTerminal then pure (receiptResult environment receipt)
  else do
    request (.stopContainer receipt.containerId none none)
    let inspection ← request (.inspectContainer receipt.containerId)
    let completedAt ← now
    let exitCode := match inspection.bind fun c => c.state.bind ContainerState.exitCode with
      | some exitCode => .number exitCode
      | none => receipt.exitCode
    let stoppedReceipt := { receipt with
      status := .cancelled, exitCode, completedAt := .text (toISOString completedAt) }
    writeWorkerJobReceipt environment stoppedReceipt
    pure (receiptResult environment stoppedReceipt)

end WorkerJobs

end NouvaAgent
