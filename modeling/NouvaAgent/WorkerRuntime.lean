import NouvaAgent.AppDeployment

namespace NouvaAgent

open Text Interaction

/-- The agent's settings, as far as the workers need them. The hash of a project's network is
given. -/
structure WorkerRuntimeEnvironment where
  serverId : String
  imageStoreMode : AgentImageStoreMode
  dataDir : String
  dataVolume : String
  hashProjectNetwork : String → String
  processId : ℕ

structure EffectiveServiceResourceLimits where
  cpuMillicores : Option ℚ
  memoryBytes : Option ℚ
  memoryAndSwapBytes : Option ℚ := none
  pidsLimit : Option ℚ
  deriving DecidableEq, Repr

def toDockerResourceSettings (limits : EffectiveServiceResourceLimits) :
    Except String DockerResourceSettings :=
  match limits.cpuMillicores, limits.memoryBytes, limits.pidsLimit with
  | some cpu, some memory, some pids => do
    let memoryBytes ← toPositiveIntegerField memory "memoryBytes"
    let pidsLimit ← toPositiveIntegerField pids "pidsLimit"
    let cpuMillicores ← toPositiveIntegerField cpu "cpuMillicores"
    let memorySwap ← resolveMemoryAndSwapBytes limits.memoryAndSwapBytes memoryBytes
    .ok ⟨cpuMillicores * 1000000, memoryBytes, memorySwap, pidsLimit⟩
  | _, _, _ => .error
      "Invalid resourceLimits payload: expected complete effective CPU, memory, and PID limits"

def normalizeWorkerCommand (command : Option String) : Option String := present (command.map trim)

def getContainerName (container : DockerContainerInspection) : String :=
  withoutSlash container.name

structure WorkerLabels where
  serverId : String
  kind : String
  projectId : String
  environmentId : Option String := none
  serviceId : String
  deploymentId : Option String := none
  replicaIndex : Option ℕ := none
  scheduleId : Option String := none
  scheduleRunId : Option String := none
  occurrenceKey : Option String := none
  redactionContextVersion : Option String := none

def buildWorkerLabels (input : WorkerLabels) : TextRecord :=
  [("nouva.managed", "true"), ("nouva.server.id", input.serverId), ("nouva.kind", input.kind),
    ("nouva.service.type", "worker"), ("nouva.project.id", input.projectId),
    ("nouva.service.id", input.serviceId)] ++
  labelEntry "nouva.environment.id" input.environmentId ++
  labelEntry "nouva.deployment.id" input.deploymentId ++
  (input.replicaIndex.map fun index => ("nouva.replica.index", toString index)).toList ++
  labelEntry "nouva.schedule.id" input.scheduleId ++
  labelEntry "nouva.schedule.run.id" input.scheduleRunId ++
  labelEntry "nouva.schedule.occurrence.key" input.occurrenceKey ++
  labelEntry "nouva.redaction.context.version" input.redactionContextVersion

def buildWorkerJobContainerName (serviceId scheduleRunId : String) : String :=
  "nouva-worker-job-" ++ slice 8 serviceId ++ "-" ++ slice 8 scheduleRunId

namespace WorkerRuntimeEnvironment

variable (environment : WorkerRuntimeEnvironment) {σ : Type}

def projectNetwork (projectId : String) : String :=
  "nouva-project-" ++ environment.hashProjectNetwork projectId

def ensureProjectNetwork (projectId : String) : AgentMethod σ Unit :=
  Agent.request (.ensureNetwork (environment.projectNetwork projectId)
    [("nouva.managed", "true"), ("nouva.server.id", environment.serverId),
      ("nouva.project.id", projectId)])

def findWorkerImage (imageUrl : String) : AgentMethod σ (Option DockerImageInspection) := do
  match ← Agent.request (.inspectImage imageUrl) with
  | some image => pure (some image)
  | none =>
    if environment.imageStoreMode = .dockerLocal then pure none
    else do
      Agent.request (.pullImage imageUrl)
      Agent.request (.inspectImage imageUrl)

def ensureWorkerImage (imageUrl : String) : AgentMethod σ DockerImageInspection := do
  match ← environment.findWorkerImage imageUrl with
  | some image => pure image
  | none => throw (.error ("Worker image " ++ imageUrl ++ " is not available locally"))

variable {S : AgentCall → Prop}

theorem ensureProjectNetwork_uses (projectId : String)
    (h : ∀ name labels, S (.request (.ensureNetwork name labels))) :
    (environment.ensureProjectNetwork projectId : AgentMethod σ Unit).Uses S :=
  Agent.uses_request (h _ _)

theorem ensureWorkerImage_uses (imageUrl : String)
    (hinspect : S (.request (.inspectImage imageUrl))) (hpull : S (.request (.pullImage imageUrl))) :
    (environment.ensureWorkerImage imageUrl : AgentMethod σ _).Uses S := by
  have hfind : (environment.findWorkerImage imageUrl : AgentMethod σ _).Uses S := by
    refine Method.uses_bind (Agent.uses_request hinspect) fun inspection => ?_
    cases inspection with
    | some image => exact Method.uses_pure _
    | none =>
      dsimp only
      split
      · exact Method.uses_pure _
      · exact Method.uses_bind (Agent.uses_request hpull) fun _ => Agent.uses_request hinspect
  refine Method.uses_bind hfind fun image => ?_
  cases image with
  | some image => exact Method.uses_pure _
  | none => exact Method.uses_throw _

end WorkerRuntimeEnvironment

end NouvaAgent
