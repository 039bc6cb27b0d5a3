import NouvaAgent.ReleaseJobs

namespace NouvaAgent

open Text

inductive AgentImageStoreMode
  | dockerLocal
  | localRegistry
  deriving DecidableEq, Repr

/-- What `new URL(...)` makes of an address: the parts that a route uses. -/
structure PlaceholderUrl where
  origin : String
  pathname : String
  deriving DecidableEq, Repr

/-- The agent's environment and configuration. The address of the placeholder page is `none` where
it is no URL; the hash of a project's network and the redaction of a log line are given. -/
structure AgentRuntimeConfig where
  serverId : String
  appDomain : String
  dataVolume : String
  traefikContainerName : String
  imageStoreMode : AgentImageStoreMode
  clientIngressPlaceholderUrl : Option PlaceholderUrl
  hashProjectNetwork : String → String
  createBuildLogRedactor : TextRecord → List String → String → String

structure AppVolumeIdentity where
  volumeId : String
  volumeName : String
  mountPath : String
  deriving DecidableEq, Repr

structure RuntimeRetainedImage where
  reference : String
  imageId : Option String
  deploymentId : Option String
  commitHash : Option String
  deriving DecidableEq, Repr

structure RuntimeMetadata where
  containerName : Option String := none
  containerId : Option String := none
  image : Option String := none
  currentImage : Option RuntimeRetainedImage := none
  previousImage : Option RuntimeRetainedImage := none
  internalPort : Option ℚ := none
  deriving DecidableEq, Repr

/-- The numbers of a payload's resource limits; what is not a number counts as missing. -/
structure ServiceResourceLimits where
  cpuMillicores : Option ℚ := none
  memoryBytes : Option ℚ := none
  memoryAndSwapBytes : Option ℚ := none

structure AppRolloutReadinessConfig where
  timeoutMs : ℤ
  intervalMs : ℤ
  tcpConnectTimeoutMs : ℤ

structure AppRolloutCutoverConfig where
  verificationTimeoutMs : ℤ
  verificationIntervalMs : ℤ

structure AppRolloutDrainConfig where
  durationMs : ℤ
  gracefulStopTimeoutSeconds : ℤ
  cleanupTimeoutMs : ℤ

structure AppRolloutConfig where
  readiness : AppRolloutReadinessConfig
  cutover : AppRolloutCutoverConfig
  drain : AppRolloutDrainConfig

structure AppRolloutSettings where
  readinessTimeoutMs : Option ℤ := none
  readinessIntervalMs : Option ℤ := none
  tcpConnectTimeoutMs : Option ℤ := none
  verificationTimeoutMs : Option ℤ := none
  verificationIntervalMs : Option ℤ := none
  drainDurationMs : Option ℤ := none
  gracefulStopTimeoutSeconds : Option ℤ := none
  cleanupTimeoutMs : Option ℤ := none

def defaultAppRolloutConfig : AppRolloutConfig where
  readiness := ⟨60000, 500, 2000⟩
  cutover := ⟨15000, 250⟩
  drain := ⟨30000, 10, 15000⟩

def resolveAppRolloutConfig (settings : AppRolloutSettings) : AppRolloutConfig where
  readiness :=
    { timeoutMs := settings.readinessTimeoutMs.getD defaultAppRolloutConfig.readiness.timeoutMs
      intervalMs := settings.readinessIntervalMs.getD defaultAppRolloutConfig.readiness.intervalMs
      tcpConnectTimeoutMs :=
        settings.tcpConnectTimeoutMs.getD defaultAppRolloutConfig.readiness.tcpConnectTimeoutMs }
  cutover :=
    { verificationTimeoutMs :=
        settings.verificationTimeoutMs.getD defaultAppRolloutConfig.cutover.verificationTimeoutMs
      verificationIntervalMs := settings.verificationIntervalMs.getD
        defaultAppRolloutConfig.cutover.verificationIntervalMs }
  drain :=
    { durationMs := settings.drainDurationMs.getD defaultAppRolloutConfig.drain.durationMs
      gracefulStopTimeoutSeconds := settings.gracefulStopTimeoutSeconds.getD
        defaultAppRolloutConfig.drain.gracefulStopTimeoutSeconds
      cleanupTimeoutMs :=
        settings.cleanupTimeoutMs.getD defaultAppRolloutConfig.drain.cleanupTimeoutMs }

structure PreActivationJobConfig where
  command : String
  timeoutSeconds : ℕ
  deriving DecidableEq, Repr

structure VerificationJobConfig where
  command : String
  timeoutSeconds : ℕ
  onFailure : VerificationFailurePolicy
  deriving DecidableEq, Repr

structure DeploymentReleasePlan where
  preActivation : Option PreActivationJobConfig := none
  verification : Option VerificationJobConfig := none
  verificationRolledBack : Bool := false
  deriving DecidableEq, Repr

structure DeployAppImageInput where
  projectId : String
  environmentId : Option String := none
  serviceId : String
  deploymentId : String
  redactionContextVersion : Option String := none
  commitHash : String
  subdomain : String
  envVars : TextRecord := []
  imageUrl : String
  imageId : Option String := none
  volume : Option AppVolumeIdentity := none
  resourceLimits : ServiceResourceLimits := {}
  rollout : AppRolloutSettings := {}
  runtimeMetadata : RuntimeMetadata := {}
  detectedLanguage : Option String := none
  detectedFramework : Option String := none
  languageVersion : Option String := none
  internalPort : Option ℚ := none
  buildDuration : Option ℚ := none
  providedHostname : Option String := none
  customHostnames : List String := []
  clientIngressConfigHash : Option String := none
  releaseJobs : Option DeploymentReleasePlan := none
  platformGeneratedValues : List String := []

structure AppRuntimeMetadata where
  containerId : String
  containerName : String
  image : String
  imageStoreMode : AgentImageStoreMode
  currentImage : RuntimeRetainedImage
  previousImage : Option RuntimeRetainedImage
  ingressHost : String
  ingressPort : ℤ := 80
  internalPort : ℤ
  networkName : String
  clientIngressConfigHash : Option String
  deriving DecidableEq, Repr

structure AppRuntimeInstance where
  kind : String := "app"
  status : String := "running"
  name : String
  image : String
  containerId : String
  containerName : String
  networkName : String
  internalHost : String
  internalPort : ℤ
  externalHost : String
  externalPort : ℤ := 80
  deriving DecidableEq, Repr

structure DeployAppImageResult where
  imageUrl : String
  buildDuration : Option ℚ
  detectedLanguage : Option String
  detectedFramework : Option String
  languageVersion : Option String
  internalHost : String
  internalPort : ℤ
  externalHost : String
  runtimeMetadata : AppRuntimeMetadata
  rollout : AppRolloutResult
  runtimeInstance : AppRuntimeInstance
  deriving DecidableEq, Repr

/-- A text that is there and not empty: what a condition on it takes for true. -/
def present (text : Option String) : Option String := text.filter (· ≠ "")

theorem present_some {text : Option String} {s : String} (h : present text = some s) :
    text = some s ∧ s ≠ "" := by
  cases text with
  | none => simp [present] at h
  | some t =>
    by_cases ht : t = "" <;> simp_all [present]

def normalizeRetainedRuntimeImage (image : Option RuntimeRetainedImage) :
    Option RuntimeRetainedImage :=
  match image with
  | none => none
  | some image =>
    if trim image.reference = "" then none else some { image with reference := trim image.reference }

def resolveCurrentRuntimeImage (metadata : RuntimeMetadata) : Option RuntimeRetainedImage :=
  match normalizeRetainedRuntimeImage metadata.currentImage with
  | some image => some image
  | none => (present (metadata.image.map trim)).map fun reference => ⟨reference, none, none, none⟩

def resolvePreviousRuntimeImage (metadata : RuntimeMetadata) : Option RuntimeRetainedImage :=
  normalizeRetainedRuntimeImage metadata.previousImage

def sameRetainedRuntimeImage (left right : Option RuntimeRetainedImage) : Bool :=
  match left, right with
  | some left, some right =>
    match present left.imageId, present right.imageId with
    | some leftId, some rightId => leftId = rightId
    | _, _ => left.reference = right.reference
  | _, _ => false

def shouldRetainImageReference (metadata : RuntimeMetadata) (reference : String) : Bool :=
  [resolveCurrentRuntimeImage metadata, resolvePreviousRuntimeImage metadata].any fun image =>
    image.map RuntimeRetainedImage.reference = some reference

def readPort (value : Option ℚ) : Option ℤ :=
  match value with
  | none => none
  | some port => if port.isInt ∧ 1 ≤ port ∧ port ≤ 65535 then some port.num else none

def resolveAppPort (envVars : TextRecord) (metadataPort : Option ℚ) : ℤ :=
  ((readPort ((envVars.lookup "PORT").bind number)).or (readPort metadataPort)).getD 3000

def resolveAppRuntimePort (metadata : RuntimeMetadata) (fallback : ℤ) : ℤ :=
  (readPort metadata.internalPort).getD fallback

def toPositiveIntegerField (value : ℚ) (fieldName : String) : Except String ℤ :=
  if value.isInt ∧ 0 < value then .ok value.num
  else
    let unit := if fieldName = "cpuMillicores" then "millicores"
      else if fieldName = "pidsLimit" then "PIDs" else "bytes"
    .error ("Invalid resourceLimits." ++ fieldName ++ ": expected a positive integer number of " ++
      unit)

def resolveMemoryAndSwapBytes (value : Option ℚ) (memoryBytes : ℤ) : Except String ℤ :=
  match value with
  | none => .ok memoryBytes
  | some value => do
    let memoryAndSwapBytes ← toPositiveIntegerField value "memoryAndSwapBytes"
    if memoryAndSwapBytes < memoryBytes then
      .error ("Invalid resourceLimits.memoryAndSwapBytes: " ++ toString memoryAndSwapBytes ++
        " is below the " ++ toString memoryBytes ++ " byte memory limit it must include")
    else .ok memoryAndSwapBytes

def appResourceSettings (limits : ServiceResourceLimits) : Except String DockerResourceSettings := do
  let memoryBytes ← toPositiveIntegerField (limits.memoryBytes.getD 536870912) "memoryBytes"
  let pidsLimit ← toPositiveIntegerField 256 "pidsLimit"
  let cpuMillicores ← toPositiveIntegerField (limits.cpuMillicores.getD 250) "cpuMillicores"
  let memorySwap ← resolveMemoryAndSwapBytes limits.memoryAndSwapBytes memoryBytes
  .ok ⟨cpuMillicores * 1000000, memoryBytes, memorySwap, pidsLimit⟩

theorem appResourceSettings_swap {limits : ServiceResourceLimits}
    {settings : DockerResourceSettings} (h : appResourceSettings limits = .ok settings) :
    0 < settings.memory ∧ settings.memory ≤ settings.memorySwap := by
  have positive {value : ℚ} {name : String} {n : ℤ}
      (hn : toPositiveIntegerField value name = .ok n) : 0 < n := by
    unfold toPositiveIntegerField at hn
    split at hn
    · next hv =>
      obtain rfl := Except.ok.inj hn
      exact Rat.num_pos.mpr hv.2
    · cases hn
  have swap {value : Option ℚ} {bytes n : ℤ} (hn : resolveMemoryAndSwapBytes value bytes = .ok n) :
      bytes ≤ n := by
    cases value with
    | none => exact (Except.ok.inj hn).le
    | some value =>
      simp only [resolveMemoryAndSwapBytes, bind, Except.bind] at hn
      split at hn
      · cases hn
      · split at hn
        · cases hn
        · next hlt =>
          obtain rfl := Except.ok.inj hn
          exact not_lt.mp hlt
  simp only [appResourceSettings, bind, Except.bind] at h
  split at h
  · cases h
  next bytes hbytes =>
  split at h
  · cases h
  split at h
  · cases h
  split at h
  · cases h
  next n hn =>
  obtain rfl := Except.ok.inj h
  exact ⟨positive hbytes, swap hn⟩

namespace AgentRuntimeConfig

variable (config : AgentRuntimeConfig)

def projectNetwork (projectId : String) : String :=
  "nouva-project-" ++ config.hashProjectNetwork projectId

def isDockerLocalImageStore : Bool := config.imageStoreMode = .dockerLocal

end AgentRuntimeConfig

def labelEntry (key : String) (value : Option String) : TextRecord :=
  match present value with
  | some value => [(key, value)]
  | none => []

def buildLabels (config : AgentRuntimeConfig) (kind : String)
    (projectId serviceId deploymentId environmentId redactionContextVersion : Option String) :
    TextRecord :=
  [("nouva.managed", "true"), ("nouva.server.id", config.serverId), ("nouva.kind", kind)] ++
    labelEntry "nouva.project.id" projectId ++ labelEntry "nouva.service.id" serviceId ++
    labelEntry "nouva.deployment.id" deploymentId ++
    labelEntry "nouva.environment.id" environmentId ++
    labelEntry "nouva.redaction.context.version" redactionContextVersion

def buildManagedVolumeLabels (volumeId : String) (projectId serviceId : Option String) :
    TextRecord :=
  [("nouva.managed", "true"), ("nouva.resource", "volume"), ("nouva.volume.id", volumeId)] ++
    labelEntry "nouva.project.id" projectId ++ labelEntry "nouva.service.id" serviceId

namespace DeployAppImageInput

variable (payload : DeployAppImageInput)

def containerName : String :=
  "nouva-app-" ++ slice 8 payload.serviceId ++ "-" ++ slice 8 payload.deploymentId

def appPort : ℤ := resolveAppPort payload.envVars payload.internalPort

def labels (config : AgentRuntimeConfig) (kind : String) : TextRecord :=
  buildLabels config kind (some payload.projectId) (some payload.serviceId)
    (some payload.deploymentId) payload.environmentId payload.redactionContextVersion

def candidateEnv : TextRecord := TextRecord.set payload.envVars "PORT" (toString payload.appPort)

end DeployAppImageInput

def buildAppContainerSpec (config : AgentRuntimeConfig) (payload : DeployAppImageInput)
    (resources : DockerResourceSettings) : DockerContainerSpec :=
  { name := payload.containerName
    image := payload.imageUrl
    env := payload.candidateEnv.map fun entry => entry.1 ++ "=" ++ entry.2
    labels := payload.labels config "app"
    mounts := (payload.volume.map fun volume =>
      ⟨volume.volumeName, volume.mountPath, false⟩).toList
    restartPolicy := some "unless-stopped"
    resources := some resources
    network := some (config.projectNetwork payload.projectId) }

def isSnapshotIdCharacter (c : Char) : Bool := c.isAlphanum || c = '_' || c = '-'

/-- `/^[A-Za-z0-9][A-Za-z0-9_-]*$/`. -/
def isSnapshotId (value : String) : Bool :=
  match value.toList with
  | [] => false
  | c :: rest => c.isAlphanum && rest.all isSnapshotIdCharacter

def buildAppVolumeSnapshotName (serviceId deploymentId : String) : Except String String :=
  if ¬ isSnapshotId serviceId then .error "App volume snapshot refused an unsafe serviceId"
  else if ¬ isSnapshotId deploymentId then
    .error "App volume snapshot refused an unsafe deploymentId"
  else .ok (serviceId ++ "-" ++ deploymentId ++ ".tar.gz")

theorem buildAppVolumeSnapshotName_plain {serviceId deploymentId name : String}
    (h : buildAppVolumeSnapshotName serviceId deploymentId = .ok name) : '/' ∉ name.toList := by
  have plain {value : String} (hv : isSnapshotId value = true) : '/' ∉ value.toList := by
    unfold isSnapshotId at hv
    split at hv
    · cases hv
    · next c rest hl =>
      rw [hl]
      simp only [Bool.and_eq_true, List.all_eq_true] at hv
      intro hm
      rcases List.mem_cons.mp hm with rfl | hr
      · exact absurd hv.1 (by decide)
      · exact absurd (hv.2 _ hr) (by decide)
  unfold buildAppVolumeSnapshotName at h
  split at h
  · cases h
  · split at h
    · cases h
    · next hs hd =>
      obtain rfl := Except.ok.inj h
      simp [plain (not_not.mp hs), plain (not_not.mp hd)]

end NouvaAgent
