import NouvaAgent.AppBuild
import NouvaAgent.AppRollout
import NouvaAgent.Interaction.Laws
import NouvaAgent.Interaction.Relay
import NouvaAgent.ManagedRuntime
import NouvaAgent.ServerCapacity
import NouvaAgent.ServiceRemoval
import NouvaAgent.WorkerRollout

namespace NouvaAgent

open Text Interaction

structure BuildConfig extends AgentRuntimeConfig where
  dataDir : String
  processId : ℕ
  localRegistryHost : String
  localRegistryPort : ℕ
  localRegistryContainerName : String
  buildkitGcKeepStorage : String
  os : ServerCapacity.Os

structure BuildContainerSpec extends RuntimeContainerSpec where
  resources : Option DockerResourceSettings := none
  deriving DecidableEq, Repr

structure BuildAppOptions where
  repoUrl : String
  commitHash : String
  deploymentId : String
  envVars : TextRecord
  imageStoreMode : AgentImageStoreMode
  localRegistryHost : String
  localRegistryPort : ℕ
  buildkitAddress : String
  builderMemoryBytes : ℤ
  appBuildType : Option AppBuild.AppBuildType
  appBuildConfig : Option AppBuild.AppBuildConfig
  platformGeneratedValues : List String

structure BuildAppResult where
  imageUrl : String
  imageId : Option String
  buildDuration : ℚ
  detectedLanguage : Option String
  detectedFramework : Option String
  languageVersion : Option String
  internalPort : Option ℚ

inductive BuildCall
  | agent (c : AgentCall)
  | allocateAvailableLocalPort
  | ensureContainer (spec : BuildContainerSpec) (replace : Bool)
  | fetchLocalRegistry (url : String)
  | buildApp (options : BuildAppOptions)

abbrev BuildCall.Answer : BuildCall → Type
  | agent c => c.Answer
  | allocateAvailableLocalPort => Except CallError ℕ
  | ensureContainer _ _ => Except CallError String
  | fetchLocalRegistry _ => Except CallError ℕ
  | buildApp _ => Except CallError BuildAppResult

abbrev BuildAction (ε α : Type) := Action BuildCall.Answer ε α

structure AppBuildkitRuntime where
  address : String
  memoryBytes : ℤ

namespace BuildAndDeploy

def agent {α : Type} (p : AgentAction α) : BuildAction Failure α :=
  Method.relay BuildCall.agent (fun _ r => r) p

def request (r : Request) : BuildAction Failure r.Result := agent (Agent.request r)

def answered {α : Type} (r : Except CallError α) : BuildAction Failure α :=
  Method.ofExcept (r.mapError Failure.call)

def buildkitImage : String := "moby/buildkit:v0.17.0"

def buildkitStatePath : String := "/var/lib/buildkit"

def defaultBuildkitPort : ℕ := 1234

def buildScopedBuildkitContainerName (deploymentId : String) : String :=
  let sanitized := dashRuns false (deploymentId.toList.flatMap lowered)
  "nouva-buildkitd-" ++ ((present (some (String.ofList (sanitized.take 24)))).getD "build")

def createBuildkitAddress (port : ℕ) : String := "tcp://127.0.0.1:" ++ toString port

/-- What `resolveBuildkitPort` reads back from the address of `port`. -/
def resolveBuildkitPort (port : ℕ) : ℕ :=
  if 1 ≤ port ∧ port ≤ 65535 then port else defaultBuildkitPort

def buildkitResourceLimits (config : BuildConfig) : EffectiveServiceResourceLimits :=
  let limits := ServerCapacity.getBuildkitResourceLimits config.os
  { cpuMillicores := some limits.cpuMillicores
    memoryBytes := some limits.memoryBytes
    pidsLimit := some limits.pidsLimit }

def buildBuildkitContainerSpec (config : BuildConfig) (name : String) (port : ℕ)
    (resources : DockerResourceSettings) (deploymentId serviceId cacheVolumeName : String) :
    BuildContainerSpec where
  name
  image := buildkitImage
  cmd := ["--addr", "tcp://0.0.0.0:" ++ toString port, "--oci-worker-gc",
    "--oci-worker-gc-keepstorage", config.buildkitGcKeepStorage]
  labels := buildLabels config.toAgentRuntimeConfig "buildkit" none (some serviceId)
    (some deploymentId) none none
  privileged := true
  networkMode := some "host"
  restartPolicy := some "no"
  binds := [cacheVolumeName ++ ":" ++ buildkitStatePath]
  resources := some resources

def localRegistrySpec (config : BuildConfig) : BuildContainerSpec where
  name := config.localRegistryContainerName
  image := "registry:2"
  cmd := []
  labels := buildLabels config.toAgentRuntimeConfig "registry" none none none none none
  exposedPorts := ["5000/tcp"]
  portBindings := [("5000/tcp", [⟨"127.0.0.1", toString config.localRegistryPort⟩])]
  restartPolicy := some "unless-stopped"
  binds := []

def pollBuildkit (address : String) (port : ℕ) (deadline : ℤ) : ℕ → BuildAction Failure Unit
  | 0 => Method.cut
  | fuel + 1 => do
    let time ← agent Agent.now
    if time < deadline then do
      let connected ← request (.checkTcpConnect "127.0.0.1" port 500)
      if connected then pure ()
      else do
        agent (Agent.sleep 250)
        pollBuildkit address port deadline fuel
    else throw (.error ("BuildKit did not become ready at " ++ address ++ " within 15000ms"))

def waitForBuildkitAvailability (port fuel : ℕ) : BuildAction Failure Unit := do
  let time ← agent Agent.now
  pollBuildkit (createBuildkitAddress port) (resolveBuildkitPort port) (time + 15000) fuel

def describeLastFailure : Option CallError → String
  | some e => if e.isError then ": " ++ e.text else ""
  | none => ""

def registryFailure : Except CallError ℕ → CallError
  | .ok status => ⟨true, "registry answered " ++ toString status, none⟩
  | .error e => e

def registryAnswers : Except CallError ℕ → Bool
  | .ok status => 200 ≤ status ∧ status < 300
  | .error _ => false

def pollLocalRegistry (config : BuildConfig) (deadline : ℤ) :
    ℕ → Option CallError → BuildAction Failure Unit
  | 0, _ => Method.cut
  | fuel + 1, lastFailure => do
    let time ← agent Agent.now
    if time < deadline then do
      let response ← Method.ask
        (.fetchLocalRegistry ("http://127.0.0.1:" ++ toString config.localRegistryPort ++ "/v2/"))
      if registryAnswers response then pure ()
      else do
        agent (Agent.sleep 250)
        pollLocalRegistry config deadline fuel (some (registryFailure response))
    else throw (.error ("Local registry did not become ready on 127.0.0.1:" ++
      toString config.localRegistryPort ++ " within 15000ms" ++ describeLastFailure lastFailure))

def waitForLocalRegistryAvailability (config : BuildConfig) (fuel : ℕ) : BuildAction Failure Unit :=
  do
    let time ← agent Agent.now
    pollLocalRegistry config (time + 15000) fuel none

def ensureContainer (spec : BuildContainerSpec) (replace : Bool) : BuildAction Failure Unit := do
  let answer ← Method.ask (.ensureContainer spec replace)
  let _ ← answered answer
  pure ()

def ensureLocalRegistryRuntime (config : BuildConfig) (fuel : ℕ) : BuildAction Failure Unit := do
  ensureContainer (localRegistrySpec config) false
  waitForLocalRegistryAvailability config fuel

def startBuildkit (config : BuildConfig) (fuel port : ℕ) (deploymentId serviceId : String) :
    BuildAction Failure Unit := do
  let resources ← Method.ofExcept
    ((toDockerResourceSettings (buildkitResourceLimits config)).mapError Failure.error)
  ensureContainer (buildBuildkitContainerSpec config
    (buildScopedBuildkitContainerName deploymentId) port resources deploymentId serviceId
    (buildBuildkitCacheVolumeName serviceId)) true
  waitForBuildkitAvailability port fuel

def removeBuildkit (deploymentId : String) : BuildAction Failure Unit :=
  request (.removeContainer (buildScopedBuildkitContainerName deploymentId) true none)

def prepareAppBuildkitRuntime (config : BuildConfig) (fuel : ℕ) (deploymentId serviceId : String) :
    BuildAction Failure AppBuildkitRuntime := do
  let allocated ← Method.ask .allocateAvailableLocalPort
  let port ← answered allocated
  request (.createVolume (buildBuildkitCacheVolumeName serviceId)
    (buildLabels config.toAgentRuntimeConfig "buildkit-cache" none (some serviceId) none none none))
  Method.tryCatch (startBuildkit config fuel port deploymentId serviceId) fun error => do
    removeBuildkit deploymentId
    throw error
  pure
    { address := createBuildkitAddress port
      memoryBytes := (ServerCapacity.getBuildkitResourceLimits config.os).memoryBytes }

def buildApp (options : BuildAppOptions) : BuildAction Failure BuildAppResult := do
  let built ← Method.ask (.buildApp options)
  answered built

end BuildAndDeploy

/-! Apps. -/

structure AppDeployPayload where
  repoUrl : String
  commitHash : String
  subdomain : String
  projectId : String
  environmentId : Option String := none
  serviceId : String
  deploymentId : String
  redactionContextVersion : Option String := none
  envVars : TextRecord := []
  platformGeneratedValues : List String := []
  appBuildType : Option AppBuild.AppBuildType := none
  appBuildConfig : Option AppBuild.AppBuildConfig := none
  volume : Option AppVolumeIdentity := none
  resourceLimits : ServiceResourceLimits := {}
  rollout : AppRolloutSettings := {}
  runtimeMetadata : RuntimeMetadata := {}
  providedHostname : Option String := none
  customHostnames : List String := []
  clientIngressConfigHash : Option String := none
  releaseJobs : Option DeploymentReleasePlan := none

namespace AppDeployPayload

def buildOptions (payload : AppDeployPayload) (config : BuildConfig) (buildkit : AppBuildkitRuntime) :
    BuildAppOptions where
  repoUrl := payload.repoUrl
  commitHash := payload.commitHash
  deploymentId := payload.deploymentId
  envVars := payload.envVars
  imageStoreMode := config.imageStoreMode
  localRegistryHost := config.localRegistryHost
  localRegistryPort := config.localRegistryPort
  buildkitAddress := buildkit.address
  builderMemoryBytes := buildkit.memoryBytes
  appBuildType := payload.appBuildType
  appBuildConfig := payload.appBuildConfig
  platformGeneratedValues := payload.platformGeneratedValues

def deployAppImageInput (payload : AppDeployPayload) (built : BuildAppResult) :
    DeployAppImageInput where
  projectId := payload.projectId
  environmentId := payload.environmentId
  serviceId := payload.serviceId
  deploymentId := payload.deploymentId
  redactionContextVersion := payload.redactionContextVersion
  commitHash := payload.commitHash
  subdomain := payload.subdomain
  envVars := payload.envVars
  imageUrl := built.imageUrl
  imageId := built.imageId
  volume := payload.volume
  resourceLimits := payload.resourceLimits
  rollout := payload.rollout
  runtimeMetadata := payload.runtimeMetadata
  detectedLanguage := built.detectedLanguage
  detectedFramework := built.detectedFramework
  languageVersion := built.languageVersion
  internalPort := built.internalPort
  buildDuration := some built.buildDuration
  providedHostname := payload.providedHostname
  customHostnames := payload.customHostnames
  clientIngressConfigHash := payload.clientIngressConfigHash
  releaseJobs := payload.releaseJobs
  platformGeneratedValues := payload.platformGeneratedValues

end AppDeployPayload

def preActivationOf (releasePhases : Option ReleasePhaseRunner)
    (releaseJobs : Option DeploymentReleasePlan) :
    Option (ReleasePhaseRunner × PreActivationJobConfig) :=
  match releasePhases, releaseJobs.bind DeploymentReleasePlan.preActivation with
  | some runner, some job => some (runner, job)
  | _, _ => none

structure AppRelease where
  config : BuildConfig
  payload : AppDeployPayload
  releasePhases : Option ReleasePhaseRunner
  fuel : ℕ

namespace BuildAndDeploy

def deferWhileBlocking (releasePhases : Option ReleasePhaseRunner)
    (releaseJobs : Option DeploymentReleasePlan) (serviceId deploymentId : String) :
    BuildAction Failure Unit :=
  match preActivationOf releasePhases releaseJobs with
  | some (runner, _) =>
    agent (ReleaseJobs.deferWhileBlockingJobRuns runner serviceId deploymentId)
  | none => pure ()

end BuildAndDeploy

namespace AppRelease

open BuildAndDeploy

variable (d : AppRelease)

def deployment (built : BuildAppResult) : AppDeployment where
  config := d.config.toAgentRuntimeConfig
  payload := d.payload.deployAppImageInput built
  releasePhases := d.releasePhases
  fuel := d.fuel

def buildAndDeployAppWithDependencies (buildkit : AppBuildkitRuntime) :
    BuildAction Failure DeployAppImageResult := do
  request .ensureBaseRuntime
  let built ← buildApp (d.payload.buildOptions d.config buildkit)
  agent (Method.withLocals {} (d.deployment built).deployAppImageWithDependencies)

def handleBuildAndDeployApp : BuildAction Failure DeployAppImageResult := do
  deferWhileBlocking d.releasePhases d.payload.releaseJobs d.payload.serviceId d.payload.deploymentId
  let buildkit ←
    prepareAppBuildkitRuntime d.config d.fuel d.payload.deploymentId d.payload.serviceId
  Method.finally_ (d.buildAndDeployAppWithDependencies buildkit)
    (removeBuildkit d.payload.deploymentId)

end AppRelease

/-! Workers. -/

structure WorkerDeployPayload where
  repoUrl : String
  commitHash : String
  projectId : String
  environmentId : Option String := none
  serviceId : String
  deploymentId : String
  redactionContextVersion : Option String := none
  envVars : TextRecord := []
  platformGeneratedValues : List String := []
  appBuildType : Option AppBuild.AppBuildType := none
  appBuildConfig : Option AppBuild.AppBuildConfig := none
  startCommand : Option String := none
  healthCheckCommand : Option String := none
  replicaCount : ℚ
  shutdownPolicy : Json := .null
  volume : Option AppVolumeIdentity := none
  resourceLimits : EffectiveServiceResourceLimits
  runtimeMetadata : WorkerRuntimeMetadata := {}
  releaseJobs : Option DeploymentReleasePlan := none

namespace WorkerDeployPayload

def buildOptions (payload : WorkerDeployPayload) (config : BuildConfig)
    (buildkit : AppBuildkitRuntime) : BuildAppOptions where
  repoUrl := payload.repoUrl
  commitHash := payload.commitHash
  deploymentId := payload.deploymentId
  envVars := payload.envVars
  imageStoreMode := config.imageStoreMode
  localRegistryHost := config.localRegistryHost
  localRegistryPort := config.localRegistryPort
  buildkitAddress := buildkit.address
  builderMemoryBytes := buildkit.memoryBytes
  appBuildType := payload.appBuildType
  appBuildConfig := payload.appBuildConfig
  platformGeneratedValues := payload.platformGeneratedValues

def deployOnly (payload : WorkerDeployPayload) (imageUrl : String) : WorkerDeployOnlyPayload where
  projectId := payload.projectId
  environmentId := payload.environmentId
  serviceId := payload.serviceId
  deploymentId := payload.deploymentId
  redactionContextVersion := payload.redactionContextVersion
  commitHash := some payload.commitHash
  envVars := payload.envVars
  imageUrl
  volume := payload.volume
  resourceLimits := payload.resourceLimits
  replicaCount := payload.replicaCount
  startCommand := payload.startCommand
  healthCheckCommand := payload.healthCheckCommand
  shutdownPolicy := payload.shutdownPolicy
  runtimeMetadata := payload.runtimeMetadata

def hasPreviousReplicas (payload : WorkerDeployPayload) : Bool :=
  (present payload.runtimeMetadata.containerName).isSome ||
    (present payload.runtimeMetadata.containerId).isSome ||
    decide (0 < payload.runtimeMetadata.replicas.length)

end WorkerDeployPayload

inductive WorkerDeployFailure
  | failed (error : Failure)
  | halted (message : String) (liveRuntimePreserved : Bool)
  | rolledOut (error : WorkerRolloutError)

structure WorkerBuildResult extends WorkerDeployResult where
  buildDuration : ℚ
  detectedLanguage : Option String
  detectedFramework : Option String
  languageVersion : Option String

structure WorkerRelease where
  config : BuildConfig
  payload : WorkerDeployPayload
  releasePhases : Option ReleasePhaseRunner
  fuel : ℕ

namespace WorkerRelease

open BuildAndDeploy

/-- Never throws, because it runs while another failure is reported. -/
def previousWorkerRuntimeRuns (serviceId : String) (runtimeMetadata : WorkerRuntimeMetadata)
    (fuel : ℕ) : AgentAction Bool := do
  match ← Method.settle (WorkerRollout.listWorkerServiceContainers serviceId) with
  | .error _ => pure false
  | .ok containers =>
    WorkerRollout.anyReplicaRuns fuel (containers.filter (recordedLiveRuntime runtimeMetadata))

def step {α : Type} (p : BuildAction Failure α) : BuildAction WorkerDeployFailure α :=
  Method.mapThrown .failed p

variable (d : WorkerRelease)

def getWorkerRuntimeEnvironment : WorkerRuntimeEnvironment where
  serverId := d.config.serverId
  imageStoreMode := d.config.imageStoreMode
  dataDir := d.config.dataDir
  dataVolume := d.config.dataVolume
  hashProjectNetwork := d.config.hashProjectNetwork
  processId := d.config.processId

def deployment (imageUrl : String) : WorkerDeployment where
  environment := d.getWorkerRuntimeEnvironment
  payload := d.payload.deployOnly imageUrl
  fuel := d.fuel

def releaseTarget (image : String) (resourceSettings : DockerResourceSettings) :
    ReleaseJobTarget where
  serviceId := d.payload.serviceId
  deploymentId := d.payload.deploymentId
  image
  pullImage := !d.config.isDockerLocalImageStore
  networkName := d.config.projectNetwork d.payload.projectId
  envVars := d.payload.envVars
  labels := buildLabels d.config.toAgentRuntimeConfig "release_job" (some d.payload.projectId)
    (some d.payload.serviceId) (some d.payload.deploymentId) d.payload.environmentId
    d.payload.redactionContextVersion
  resourceSettings
  redactLogLine :=
    d.config.createBuildLogRedactor d.payload.envVars d.payload.platformGeneratedValues

def release (image : String) :
    BuildAction Failure (Option (ReleasePhaseRunner × DeploymentReleasePlan × ReleaseJobTarget)) :=
  match d.releasePhases, d.payload.releaseJobs with
  | some runner, some jobs => do
    let resources ← Method.ofExcept
      ((toDockerResourceSettings d.payload.resourceLimits).mapError Failure.error)
    pure (some (runner, jobs, d.releaseTarget image resources))
  | _, _ => pure none

def runPreActivation (runner : ReleasePhaseRunner) (target : ReleaseJobTarget)
    (phaseRequest : ReleasePhaseRequest Unit) (liveRuntimePreserved : Bool) :
    BuildAction WorkerDeployFailure Unit := do
  match ← step (agent (Method.settle (ReleaseJobs.run runner target phaseRequest))) with
  | .error (.releaseJobDeferred message) => throw (.failed (.releaseJobDeferred message))
  | .error error =>
    throw (.halted (error.message "The pre-activation job could not be run") liveRuntimePreserved)
  | .ok (.unsuccessful _ _ message _) => throw (.halted message liveRuntimePreserved)
  | .ok (.succeeded _) => pure ()

/-- Untouched is not the same as running: on a halt the previous replicas are checked. -/
def haltTruthfully (error : WorkerDeployFailure) : BuildAction WorkerDeployFailure Unit :=
  match error with
  | .halted message _ =>
    if d.payload.hasPreviousReplicas then do
      let runs ← step (agent
        (previousWorkerRuntimeRuns d.payload.serviceId d.payload.runtimeMetadata d.fuel))
      if runs then throw error else throw (.halted message false)
    else throw error
  | _ => throw error

def preActivate (runner : ReleasePhaseRunner) (target : ReleaseJobTarget)
    (job : PreActivationJobConfig) : BuildAction WorkerDeployFailure Unit := do
  step (request (.ensureNetwork target.networkName [("nouva.managed", "true"),
    ("nouva.server.id", d.config.serverId), ("nouva.project.id", d.payload.projectId)]))
  Method.tryCatch
    (runPreActivation runner target (preActivationRequest job.command job.timeoutSeconds)
      d.payload.hasPreviousReplicas)
    d.haltTruthfully

/-- Workers only keep: there is nothing idle to return to. -/
def verificationRequest (job : VerificationJobConfig) : ReleasePhaseRequest (Option Bool) where
  phase := .verification
  command := job.command
  timeoutSeconds := job.timeoutSeconds
  configuredPolicy := some job.onFailure
  resolveAppliedPolicy := some fun _ => pure (some .keep)

def verify (runner : ReleasePhaseRunner) (target : ReleaseJobTarget)
    (job : VerificationJobConfig) : BuildAction WorkerDeployFailure Unit := do
  let _ ← step (agent (Method.withLocals none
    (runVerificationKeepingOnError runner target (verificationRequest job))))
  pure ()

def rollOut (imageUrl : String) : BuildAction WorkerDeployFailure WorkerDeployResult := do
  match ← step (agent (d.deployment imageUrl).deployWorkerRuntime) with
  | .error error => throw (.rolledOut error)
  | .ok result => pure result

def beforeRollout (release : Option (ReleasePhaseRunner × DeploymentReleasePlan × ReleaseJobTarget)) :
    BuildAction WorkerDeployFailure Unit :=
  match release with
  | none => pure ()
  | some (runner, jobs, target) =>
    match jobs.preActivation with
    | none => pure ()
    | some job => d.preActivate runner target job

def afterRollout (release : Option (ReleasePhaseRunner × DeploymentReleasePlan × ReleaseJobTarget)) :
    BuildAction WorkerDeployFailure Unit :=
  match release with
  | none => pure ()
  | some (runner, jobs, target) =>
    match jobs.verification with
    | none => pure ()
    | some job => verify runner target job

def buildAndRelease (buildkit : AppBuildkitRuntime) :
    BuildAction WorkerDeployFailure WorkerBuildResult := do
  let built ← step (buildApp (d.payload.buildOptions d.config buildkit))
  let release ← step (d.release built.imageUrl)
  d.beforeRollout release
  let result ← d.rollOut built.imageUrl
  afterRollout release
  pure { result with
    buildDuration := built.buildDuration
    detectedLanguage := built.detectedLanguage
    detectedFramework := built.detectedFramework
    languageVersion := built.languageVersion }

def handleBuildAndDeployWorker : BuildAction WorkerDeployFailure WorkerBuildResult := do
  if d.payload.appBuildType = some .static then
    throw (.failed (.error "Worker services do not support Static builds"))
  else do
    step (deferWhileBlocking d.releasePhases d.payload.releaseJobs d.payload.serviceId
      d.payload.deploymentId)
    let _ ← (if d.config.imageStoreMode = .localRegistry then
      step (ensureLocalRegistryRuntime d.config d.fuel) else pure ())
    let buildkit ← step
      (prepareAppBuildkitRuntime d.config d.fuel d.payload.deploymentId d.payload.serviceId)
    Method.finally_ (d.buildAndRelease buildkit) (step (removeBuildkit d.payload.deploymentId))

end WorkerRelease

end NouvaAgent
