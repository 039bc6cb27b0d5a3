import NouvaAgent.AppDeployment
import NouvaAgent.CandidateReadiness

namespace NouvaAgent

open Text Interaction Agent CandidateReadiness ReleaseJobs

structure ReadinessOptions where
  alreadyRunning : Bool := false
  restartsBeforeStart : ℤ := 0
  subject : String := "Candidate container"

structure RestartHistory where
  restarts : ℤ
  recentRestarts : ℤ
  outOfMemory : Bool

structure AppContainerStop where
  stateBeforeStop : Option ContainerState
  restartsBeforeStop : ℤ
  deriving DecidableEq, Repr

/-- A rollout to be run: its surroundings' settings, its payload, the runner of its release jobs, and
the fuel of the loops that wait. -/
structure AppDeployment where
  config : AgentRuntimeConfig
  payload : DeployAppImageInput
  releasePhases : Option ReleasePhaseRunner
  fuel : ℕ

namespace AppDeployment

variable (d : AppDeployment)

def containerName : String := d.payload.containerName

def appPort : ℤ := d.payload.appPort

def previousPort : ℤ := resolveAppRuntimePort d.payload.runtimeMetadata d.appPort

def rollout : AppRolloutConfig := resolveAppRolloutConfig d.payload.rollout

def dockerLocalImages : Bool := d.config.isDockerLocalImageStore

def strategy : AppRolloutStrategy :=
  if d.payload.volume.isSome then .singleWriterSnapshotCutover else .candidateReadyCutover

def candidateServiceUrl : String :=
  "http://" ++ d.containerName ++ ":" ++ toString d.appPort

def hostnames : RouteHostnames where
  providedHostname := some (d.payload.providedHostname.getD
    (d.payload.subdomain ++ "." ++ d.config.appDomain))
  customHostnames := d.payload.customHostnames

def readHistory (options : ReadinessOptions) (inspection : DockerContainerInspection)
    (inspectedAt : ℤ) (history : Option RestartHistory) : AgentAction (Option RestartHistory) :=
  match options.alreadyRunning, history with
  | true, none => do
    let restarts ← countRestartLoop inspection inspectedAt restartLoopThreshold
    let up := isRunning inspection && statusOf inspection = some "running"
    pure (some ⟨readRestartCount inspection, options.restartsBeforeStart + restarts,
      up && isOomKilled inspection⟩)
  | _, history => pure history

def assess (options : ReadinessOptions) (containerName : String) (appPort : ℤ)
    (inspection : DockerContainerInspection) (evidence : CandidateRuntimeEvidence)
    (history : Option RestartHistory) : CandidateReadinessAssessment :=
  assessCandidateReadiness
    { containerName, appPort, inspection, evidence
      subject := options.subject
      restartBaseline := (history.map RestartHistory.restarts).getD 0
      recentRestarts := (history.map RestartHistory.recentRestarts).getD 0
      outOfMemoryAtStart := history.map RestartHistory.outOfMemory }

def pollReadiness (containerName : String) (appPort : ℤ) (options : ReadinessOptions)
    (deadline : ℤ) : ℕ → CandidateRuntimeEvidence → Option RestartHistory → String →
      AgentAction Unit
  | 0, _, _, _ => Method.cut
  | fuel + 1, evidence, history, lastError => do
    let time ← now
    if time ≤ deadline then do
      let inspectedAt ← now
      let found ← request (.inspectContainer containerName)
      match found with
      | none => throw (.error (options.subject ++ " " ++ containerName ++ " is missing"))
      | some inspection => do
        let history ← readHistory options inspection inspectedAt history
        let assessment := assess options containerName appPort inspection evidence history
        match assessment.step with
        | .ready => pure ()
        | .failed _ message => throw (.error message)
        | .probe ipAddress unreachableMessage => do
          let reachable ← request
            (.checkTcpConnect ipAddress appPort d.rollout.readiness.tcpConnectTimeoutMs)
          if reachable then pure ()
          else do
            sleep d.rollout.readiness.intervalMs
            pollReadiness containerName appPort options deadline fuel assessment.evidence history
              unreachableMessage
        | .wait message => do
          sleep d.rollout.readiness.intervalMs
          pollReadiness containerName appPort options deadline fuel assessment.evidence history
            message
    else throw (.error lastError)

def waitForAppCandidateReadiness (containerName : String) (appPort : ℤ)
    (options : ReadinessOptions := {}) : AgentAction Unit := do
  let time ← now
  d.pollReadiness containerName appPort options (time + d.rollout.readiness.timeoutMs) d.fuel {}
    none "candidate container did not become ready"

def previousAppRuntimeCanServe (containerName : String) (appPort : ℤ)
    (undoneStop : Option AppContainerStop) : AgentAction Bool := do
  match ← Method.settle (d.waitForAppCandidateReadiness containerName appPort
      { alreadyRunning := true
        restartsBeforeStart := (undoneStop.map AppContainerStop.restartsBeforeStop).getD 0
        subject := "Previous container" }) with
  | .ok _ => pure true
  | .error _ => pure false

def servedUrl (serviceName : String) (services : List TraefikService) : Option String :=
  (services.find? (·.name = some serviceName)).bind TraefikService.serverUrl

def pollCutover (expectedServiceUrl : String) (deadline : ℤ) : ℕ → String → AgentAction Unit
  | 0, _ => Method.cut
  | fuel + 1, lastError => do
    let serviceName := "svc-" ++ d.payload.serviceId ++ "@file"
    let time ← now
    if time ≤ deadline then do
      let response ← request .fetchTraefikServices
      match response with
      | .failed status => do
        sleep d.rollout.cutover.verificationIntervalMs
        pollCutover expectedServiceUrl deadline fuel
          ("Traefik service inspection failed with status " ++ toString status)
      | .ok services =>
        let actualUrl := servedUrl serviceName services
        if actualUrl = some expectedServiceUrl then pure ()
        else do
          sleep d.rollout.cutover.verificationIntervalMs
          pollCutover expectedServiceUrl deadline fuel (match present actualUrl with
            | some url => "Traefik still points " ++ serviceName ++ " at " ++ url
            | none => lastError)
    else throw (.error lastError)

def waitForLocalTraefikCutover (expectedServiceUrl : String) : AgentAction Unit := do
  let time ← now
  d.pollCutover expectedServiceUrl (time + d.rollout.cutover.verificationTimeoutMs) d.fuel
    ("Traefik did not point svc-" ++ d.payload.serviceId ++ "@file at " ++ expectedServiceUrl)

def routeTo (serviceUrl : String) : AgentAction Unit := do
  request (.writeLocalTraefikRoute d.payload.serviceId d.hostnames serviceUrl none)
  d.waitForLocalTraefikCutover serviceUrl

def moveAppTraffic (serviceUrl : String) : AgentAction Bool := do
  match ← Method.settle (d.routeTo serviceUrl) with
  | .ok _ => pure true
  | .error _ => pure false

def routeAppServiceWithoutRuntime : AgentAction Unit :=
  if d.payload.customHostnames = [] then request (.deleteLocalTraefikRoute d.payload.serviceId)
  else match d.config.clientIngressPlaceholderUrl with
    | none => throw (.error "Invalid URL")
    | some placeholderUrl => request (.writeLocalTraefikRoute d.payload.serviceId
        ⟨none, d.payload.customHostnames⟩ placeholderUrl.origin
        (some ⟨false, placeholderUrl.pathname⟩))

def verifyContainerAbsent (identifier : Option String) : AgentAction Unit :=
  match present identifier with
  | none => pure ()
  | some identifier => do
    let found ← request (.inspectContainer identifier)
    match found with
    | some _ => throw (.error ("Docker container " ++ identifier ++ " still exists after cleanup"))
    | none => pure ()

def singleConsumer (expected : Option String) (consumers : List DockerContainerInspection) : Bool :=
  let running := consumers.filter (·.running)
  match expected with
  | none => running = []
  | some expected => running.length ≤ 1 ∧ ∀ container ∈ running,
      container.id = expected ∨ withoutSlash container.name = expected

def assertSingleRunningVolumeConsumer (volumeName : String) (expected : Option String) :
    AgentAction Unit := do
  let consumers ← request (.listContainersUsingVolume volumeName)
  if singleConsumer expected consumers then pure ()
  else throw (.error ("Volume " ++ volumeName ++ " has another running consumer"))

def snapshotImage : String := "alpine:3.21"

def snapshotScript : String := "\n".intercalate
  ["mkdir -p /agent-data/app-volume-snapshots",
    "final=\"/agent-data/app-volume-snapshots/$SNAPSHOT_NAME\"",
    "if [ -s \"$final\" ]; then exit 0; fi",
    "required=$(du -sk /source | awk '\x7bprint $1\x7d')",
    "available=$(df -Pk /agent-data | awk 'NR==2 \x7bprint $4\x7d')",
    "if [ \"$available\" -le \"$required\" ]; then echo \"Insufficient snapshot capacity\" >&2; exit 1; fi",
    "tmp=\"$final.tmp\"",
    "rm -f \"$tmp\"",
    "tar -C /source -czpf \"$tmp\" .",
    "test -s \"$tmp\"",
    "mv \"$tmp\" \"$final\""]

def restoreScript : String := "\n".intercalate
  ["archive=\"/agent-data/app-volume-snapshots/$SNAPSHOT_NAME\"",
    "test -s \"$archive\"",
    "find /target -mindepth 1 -maxdepth 1 -exec rm -rf -- \x7b\x7d +",
    "tar -C /target -xzpf \"$archive\""]

def cleanupScript : String := "rm -f \"/agent-data/app-volume-snapshots/$SNAPSHOT_NAME\""

def taskSpec (name script snapshotName : String) (mounts : List ContainerSpecMount) :
    DockerContainerSpec :=
  { name
    image := snapshotImage
    env := ["SNAPSHOT_NAME=" ++ snapshotName]
    entrypoint := some ["/bin/sh", "-ec"]
    cmd := some [script]
    labels := buildLabels d.config "task" none none none none none
    mounts }

def runTaskContainer (spec : DockerContainerSpec) : AgentAction Unit := do
  request (.pullImage spec.image)
  request (.removeContainer spec.name true none)
  let id ← request (.createContainer spec)
  Method.finally_ (do
    request (.startContainer id)
    let statusCode ← request (.waitContainer id none)
    let logs ← Method.settle (request (.containerLogs id))
    if statusCode ≠ 0 then
      let text := trim (logs.toOption.getD "")
      throw (.error (if text = "" then
        "Task container " ++ spec.name ++ " failed (" ++ toString statusCode ++ ")" else text))
    else pure ()) (request (.removeContainer id true none))

def createAppVolumeSnapshot (volume : AppVolumeIdentity) : AgentAction String := do
  let snapshotName ← Method.ofExcept
    ((buildAppVolumeSnapshotName d.payload.serviceId d.payload.deploymentId).mapError .error)
  request (.createVolume d.config.dataVolume [])
  runTaskContainer (d.taskSpec ("nouva-app-snapshot-" ++ slice 12 d.payload.deploymentId)
    snapshotScript snapshotName [⟨volume.volumeName, "/source", true⟩,
      ⟨d.config.dataVolume, "/agent-data", false⟩])
  pure snapshotName

def restoreAppVolumeSnapshot (volume : AppVolumeIdentity) (snapshotName : String) :
    AgentAction Unit :=
  runTaskContainer (d.taskSpec ("nouva-app-restore-" ++ slice 12 d.payload.deploymentId)
    restoreScript snapshotName [⟨volume.volumeName, "/target", false⟩,
      ⟨d.config.dataVolume, "/agent-data", true⟩])

def deleteAppVolumeSnapshot (snapshotName : String) : AgentAction Unit :=
  runTaskContainer (d.taskSpec ("nouva-app-snapshot-cleanup-" ++ slice 12 d.payload.deploymentId)
    cleanupScript snapshotName [⟨d.config.dataVolume, "/agent-data", false⟩])

def deleteAppVolumeSnapshotBestEffort (snapshotName : String) : AgentAction Unit := do
  let _ ← Method.settle (d.deleteAppVolumeSnapshot snapshotName)
  pure ()

def removeRejectedAppImage : AgentAction Unit :=
  if shouldRetainImageReference d.payload.runtimeMetadata d.payload.imageUrl then pure ()
  else do
    let _ ← Method.settle (request (.removeImage d.payload.imageUrl true))
    pure ()

def isPlatformVolume (volume : Option AppVolumeIdentity) (mount : ContainerMount) : Bool :=
  match volume with
  | none => false
  | some volume => mount.type = some "volume" ∧ mount.name = some volume.volumeName ∧
      mount.destination = some volume.mountPath

/-- `/^[a-f0-9]{64}$/`. -/
def isVolumeId (name : String) : Bool :=
  name.toList.length = 64 ∧ name.toList.all fun c => c.isDigit || ('a' ≤ c && c ≤ 'f')

/-- Whether a mount beyond the platform's own can come from a `VOLUME` of the image: only then does
it have the name of a volume that Docker made for it. -/
def anonymousVolume (volume : Option AppVolumeIdentity) (declared : List String)
    (configured : List HostConfigMount) (mount : ContainerMount) : Option String :=
  match present mount.name, present mount.destination with
  | some name, some destination =>
    if mount.type = some "volume" ∧ isVolumeId name ∧ destination ∈ declared ∧
        some destination ≠ volume.map AppVolumeIdentity.mountPath ∧
        ¬ configured.any (·.target = some destination) then some name
    else none
  | _, _ => none

def unmanagedVolume (name : String) (inspection : Option DockerVolumeInspection) : Bool :=
  match inspection with
  | none => false
  | some volume => volume.name = some name ∧ ¬ (volume.labels.getD []).any fun entry =>
      entry.1 = "nouva.managed" ∨ entry.1 = "nouva.volume.id"

def extraMountsMatch (volume : Option AppVolumeIdentity) (declared : List String)
    (configured : List HostConfigMount) : List ContainerMount → AgentAction Bool
  | [] => pure true
  | mount :: rest =>
    match anonymousVolume volume declared configured mount with
    | none => pure false
    | some name => do
      let inspected ← request (.inspectVolume name)
      if unmanagedVolume name inspected then
        extraMountsMatch volume declared configured rest
      else pure false

def declaredVolumes (candidate : DockerContainerInspection) : AgentAction (Option (List String)) :=
  match present candidate.image with
  | none => pure none
  | some image => do
    let inspected ← request (.inspectImage image)
    pure (inspected.bind DockerImageInspection.volumes)

def appCandidateMountsMatch (candidate : DockerContainerInspection)
    (volume : Option AppVolumeIdentity) : AgentAction Bool :=
  let mounts := candidate.mounts.getD []
  let extraMounts := mounts.filter fun mount => ¬ isPlatformVolume volume mount
  if volume.isSome ∧ ¬ mounts.any (isPlatformVolume volume) then pure false
  else if extraMounts = [] then pure true
  else do
    let declared ← declaredVolumes candidate
    match declared, candidate.hostConfig with
    | some declared, some hostConfig =>
      if hostConfig.binds.getD [] ≠ [] ∨ hostConfig.volumesFrom.getD [] ≠ [] then pure false
      else extraMountsMatch volume declared (hostConfig.mounts.getD []) extraMounts
    | _, _ => pure false

end AppDeployment

end NouvaAgent
