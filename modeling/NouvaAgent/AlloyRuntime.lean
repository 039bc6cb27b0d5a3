import Mathlib.Data.List.Sort
import NouvaAgent.AlloyStaticConfig
import NouvaAgent.TraefikRuntime

namespace NouvaAgent

open Text Interaction ManagedRuntime

structure AlloyProcess extends TraefikProcess where
  redactSensitiveText : String → TextRecord → String

structure AlloyRuntimePaths where
  rootDir : String
  dataDir : String
  configDir : String
  dynamicConfigPath : String
  staticConfigPath : String
  candidateConfigDir : String
  candidateDynamicConfigPath : String
  candidateStaticConfigPath : String

structure ReconcileAlloyOptions where
  paths : Option AlloyRuntimePaths := none
  timeoutMs : ℤ := 30000
  intervalMs : ℤ := 500

namespace AlloyRuntime

def alloyContainerName : String := "nouva-alloy"

def alloyHttpHost : String := "127.0.0.1"

def alloyHttpPort : ℕ := 12345

def alloyConfigHashLabel : String := "nouva.alloy.config-sha"

def alloyConfigLayoutLabel : String := "nouva.alloy.config-layout"

def alloyRoleLabel : String := "nouva.alloy.role"

def alloyValidationContainerName : String := "nouva-alloy-config-validation"

def alloyConfigLayoutVersion : String := "static-dynamic-v1"

def defaultSystemRedactionContextVersion : String := "unversioned-v1"

def agentDataDirInContainer : String := "/var/lib/nouva-agent"

def alloyMemoryLimitBytes : ℤ := 512 * 1024 * 1024

/-- `/^[a-zA-Z0-9][a-zA-Z0-9._:-]{0,127}$/`. -/
def isRedactionContextVersion (version : String) : Bool :=
  match version.toList with
  | [] => false
  | first :: rest => first.isAlphanum && rest.length ≤ 127 &&
      rest.all fun c => c.isAlphanum || "._:-".toList.contains c

/-- `/^[A-Za-z0-9_-]{1,64}$/`. -/
def isRedactionContextScopeId (id : String) : Bool :=
  id ≠ "" && id.toList.length ≤ 64 && id.toList.all fun c => c.isAlphanum || c == '_' || c == '-'

def resolveSystemRedactionContextVersion (input : AlloyRuntimeInput) : Except Failure String :=
  let given := (input.redactionContextVersion.map trim).getD ""
  let version := if given = "" then defaultSystemRedactionContextVersion else given
  if isRedactionContextVersion version then .ok version
  else .error (.error "Alloy redaction context version is invalid.")

def putScope (byScope : List AgentRedactionContextScopeVersion)
    (value : AgentRedactionContextScopeVersion) :
    Except Failure (List AgentRedactionContextScopeVersion) :=
  if value.kind ≠ "deployment" ∧ value.kind ≠ "database" then
    .error (.error "Alloy redaction context scope kind is invalid.")
  else if !isRedactionContextScopeId value.id || value.id = observabilityNoneLabelValue then
    .error (.error "Alloy redaction context scope id is invalid.")
  else if !isRedactionContextVersion value.version then
    .error (.error "Alloy redaction context scope version is invalid.")
  else
    match byScope.find? fun other => other.kind == value.kind && other.id == value.id with
    | none => .ok (byScope ++ [value])
    | some existing =>
      if existing.version ≠ value.version then
        .error (.error "Alloy redaction context scope has conflicting versions.")
      else .ok byScope

def primaryWeight (c : Char) : ℕ :=
  if c = '_' then 0 else if c = '-' then 1 else c.toLower.toNat

/-- `left.localeCompare(right) <= 0`, for the characters that a scope can have: the case only
matters where all else is equal, and a small letter comes first. -/
def localeLe (left right : String) : Bool :=
  let weights := fun text : String => text.toList.map primaryWeight
  let cases := fun text : String => text.toList.map fun c => if c.isUpper then 1 else 0
  weights left < weights right || (weights left = weights right && cases left ≤ cases right)

def scopeLe (left right : AgentRedactionContextScopeVersion) : Bool :=
  if left.kind = right.kind then localeLe left.id right.id else localeLe left.kind right.kind

def normalizeRedactionContextScopeVersions
    (values : Option (List AgentRedactionContextScopeVersion)) :
    Except Failure (List AgentRedactionContextScopeVersion) := do
  let byScope ← (values.getD []).foldlM putScope []
  .ok (byScope.insertionSort fun left right => scopeLe left right)

def renderRedactionContextScopeRule (scope : AgentRedactionContextScopeVersion) : String :=
  if scope.kind = "deployment" then
    "  rule \x7b\n    source_labels = [\"deployment_id\"]\n    regex         = " ++ quote scope.id ++
      "\n    target_label  = \"redaction_context_version\"\n    replacement   = " ++
      quote scope.version ++ "\n  \x7d"
  else
    "  rule \x7b\n    source_labels = [\"service_type\", \"service_id\"]\n    separator     = \";\"\n" ++
      "    regex         = " ++ quote ("database;" ++ scope.id) ++
      "\n    target_label  = \"redaction_context_version\"\n    replacement   = " ++
      quote scope.version ++ "\n  \x7d"

def renderSystemRule (version : String) : String :=
  "  rule \x7b\n    source_labels = [\"service_type\", \"redaction_context_version\"]\n" ++
    "    separator     = \";\"\n    target_label  = \"redaction_context_version\"\n" ++
    "    regex         = \"system;$\"\n    replacement   = " ++ quote version ++ "\n  \x7d"

def renderRelabel (component receiver rules : String) : String :=
  component ++ " \"nouva_redaction_context\" \x7b\n  forward_to = [" ++ receiver ++ "]\n\n" ++ rules ++
    "\n\x7d"

def renderAlloyDynamicConfig (input : AlloyRuntimeInput) : Except Failure String := do
  let version ← resolveSystemRedactionContextVersion input
  let scopes ← normalizeRedactionContextScopeVersions input.redactionContextScopeVersions
  let rules := "\n\n".intercalate
    (renderSystemRule version :: scopes.map renderRedactionContextScopeRule)
  .ok ("\n\n".intercalate
    [renderRelabel "loki.relabel" "loki.write.nouva.receiver" rules,
      renderRelabel "prometheus.relabel" "prometheus.remote_write.nouva.receiver" rules, ""])

def getAlloyRuntimePaths (dataDir : String) : AlloyRuntimePaths where
  rootDir := dataDir ++ "/alloy"
  dataDir := dataDir ++ "/alloy/data"
  configDir := dataDir ++ "/alloy/config"
  dynamicConfigPath := dataDir ++ "/alloy/config/redaction-context.alloy"
  staticConfigPath := dataDir ++ "/alloy/config/static.alloy"
  candidateConfigDir := dataDir ++ "/alloy/config.candidate"
  candidateDynamicConfigPath := dataDir ++ "/alloy/config.candidate/redaction-context.alloy"
  candidateStaticConfigPath := dataDir ++ "/alloy/config.candidate/static.alloy"

def afterFirstColon (bind : String) : String :=
  String.ofList ([':'].intercalate ((bind.toList.splitOn ':').drop 1))

def resolveAlloyDataVolume (inspection : Option RuntimeInspection) (fallback : String) : String :=
  let binds := (inspection.bind RuntimeInspection.binds).getD []
  let existingBind := binds.find? fun bind =>
    startsWith agentDataDirInContainer (afterFirstColon bind)
  match existingBind with
  | none => fallback
  | some bind =>
    let source := trim (String.ofList ((bind.toList.splitOn ':').headD []))
    if source = "" then fallback else source

def getAlloyRunArguments : List String :=
  ["run", "--stability.level=experimental",
    "--server.http.listen-addr=0.0.0.0:" ++ toString alloyHttpPort,
    "--storage.path=" ++ agentDataDirInContainer ++ "/alloy/data",
    agentDataDirInContainer ++ "/alloy/config"]

def hasExpectedRunArguments (inspection : Option RuntimeInspection) : Bool :=
  (inspection.bind RuntimeInspection.cmd).getD [] = getAlloyRunArguments

/-- A host that cannot enforce a memory limit stores the pair 0 and -1. -/
def hasMemoryBound (inspection : Option RuntimeInspection) : Bool :=
  let memory := inspection.bind RuntimeInspection.memory
  memory = some alloyMemoryLimitBytes ||
    (memory = some 0 && inspection.bind RuntimeInspection.memorySwap = some (-1))

def hasManagedContainerLogConfig (inspection : Option RuntimeInspection) : Bool :=
  inspection.bind RuntimeInspection.logConfig = some managedContainerLogConfig

def hasRequiredBinds (inspection : Option RuntimeInspection) : Bool :=
  let binds := (inspection.bind RuntimeInspection.binds).getD []
  [dockerSocket ++ ":" ++ dockerSocket, "/:/rootfs:ro", "/sys:/sys:ro", "/var/run:/var/run:ro",
      "/var/lib/docker:/var/lib/docker:ro"].all (fun head => binds.any (startsWith head)) &&
    binds.any fun bind => agentDataDirInContainer.toList.isSuffixOf bind.toList

def isAlloyContainerCurrent (inspection : Option RuntimeInspection) (input : AlloyRuntimeInput)
    (stateHash : String) : Bool :=
  inspection.bind RuntimeInspection.running = some true &&
    inspection.bind RuntimeInspection.image = some input.config.observability.alloyImage &&
    label inspection alloyConfigHashLabel = some stateHash &&
    label inspection alloyConfigLayoutLabel = some alloyConfigLayoutVersion &&
    hasExpectedRunArguments inspection && hasMemoryBound inspection &&
    hasManagedContainerLogConfig inspection &&
    hasPortBinding inspection (toString alloyHttpPort ++ "/tcp")
      ⟨alloyHttpHost, toString alloyHttpPort⟩ &&
    hasRequiredBinds inspection

def buildAlloyContainerSpec (input : AlloyRuntimeInput) (stateHash : String) :
    RuntimeContainerSpec where
  name := alloyContainerName
  image := input.config.observability.alloyImage
  cmd := getAlloyRunArguments
  labels := [("nouva.managed", "true"), ("nouva.kind", "observability"),
    ("nouva.server.id", input.serverId), (alloyRoleLabel, "collector"),
    (alloyConfigHashLabel, stateHash), (alloyConfigLayoutLabel, alloyConfigLayoutVersion)]
  exposedPorts := [toString alloyHttpPort ++ "/tcp"]
  portBindings := [(toString alloyHttpPort ++ "/tcp",
    [⟨alloyHttpHost, toString alloyHttpPort⟩])]
  binds := [dockerSocket ++ ":" ++ dockerSocket, "/:/rootfs:ro", "/sys:/sys:ro",
    "/var/run:/var/run:ro", "/var/lib/docker:/var/lib/docker:ro",
    input.dataVolume ++ ":" ++ agentDataDirInContainer]
  restartPolicy := some "unless-stopped"
  logConfig := some managedContainerLogConfig
  privileged := true
  memory := some alloyMemoryLimitBytes
  memorySwap := some alloyMemoryLimitBytes
  network := some input.config.localTraefikNetwork

def buildAlloyValidationContainerSpec (input : AlloyRuntimeInput) : RuntimeContainerSpec where
  name := alloyValidationContainerName
  image := input.config.observability.alloyImage
  cmd := ["validate", "--stability.level=experimental",
    agentDataDirInContainer ++ "/alloy/config.candidate"]
  binds := [input.dataVolume ++ ":" ++ agentDataDirInContainer ++ ":ro"]
  networkMode := some "none"

variable {σ : Type}

def ensureAlloyState (paths : AlloyRuntimePaths) : RuntimeMethod σ Unit := do
  request (.change (.mkdir paths.rootDir))
  request (.change (.mkdir paths.dataDir))
  request (.change (.mkdir paths.configDir))

structure AlloyProbeResult where
  configPresent : Bool
  healthOk : Bool
  imagePresent : Bool
  inspection : Option RuntimeInspection

def alloyUrl (path : String) : String :=
  "http://" ++ alloyHttpHost ++ ":" ++ toString alloyHttpPort ++ path

def probeConfig (paths : AlloyRuntimePaths) : RuntimeMethod σ Bool := do
  let found ← Method.settle do
    request (.access paths.staticConfigPath)
    request (.access paths.dynamicConfigPath)
  match found with
  | .ok _ => pure true
  | .error _ => pure false

def probeMetrics : RuntimeMethod σ Bool := do
  match ← Method.settle (request (.fetch "GET" (alloyUrl "/metrics"))) with
  | .ok response => pure response.ok
  | .error _ => pure false

def probeAlloyRuntime (paths : AlloyRuntimePaths) (input : AlloyRuntimeInput) :
    RuntimeMethod σ AlloyProbeResult := do
  let inspection ← request (.inspectContainer alloyContainerName)
  let imagePresent ← request (.inspectImage input.config.observability.alloyImage)
  let configPresent ← probeConfig paths
  if isRunning inspection then do
    let healthOk ← probeMetrics
    pure { configPresent, healthOk, imagePresent, inspection }
  else pure { configPresent, healthOk := false, imagePresent, inspection }

def lastErrorOf (probe : AlloyProbeResult) : Option String :=
  if !isRunning probe.inspection then some "Alloy container is not running"
  else if !probe.configPresent then some "Alloy config file is missing"
  else if !probe.imagePresent then some "Alloy image is not present locally"
  else if !probe.healthOk then
    some ("Alloy metrics endpoint is not reachable on " ++ alloyHttpHost ++ ":" ++
      toString alloyHttpPort)
  else none

def pollHealth (paths : AlloyRuntimePaths) (input : AlloyRuntimeInput)
    (options : ReconcileAlloyOptions) (startedAt : ℤ) : ℕ → (lastError : String) →
    RuntimeMethod σ Unit
  | 0, _ => Method.cut
  | fuel + 1, lastError => do
    let time ← now
    if time - startedAt < options.timeoutMs then do
      let probe ← probeAlloyRuntime paths input
      match lastErrorOf probe with
      | none => pure ()
      | some lastError => do
        sleep options.intervalMs
        pollHealth paths input options startedAt fuel lastError
    else throw (.error lastError)

def waitForAlloyHealth (fuel : ℕ) (paths : AlloyRuntimePaths) (input : AlloyRuntimeInput)
    (options : ReconcileAlloyOptions) : RuntimeMethod σ Unit := do
  let startedAt ← now
  pollHealth paths input options startedAt fuel "Alloy runtime did not become healthy"

section

variable (process : AlloyProcess) (input : AlloyRuntimeInput)

def safeLogs (version logs : String) : String :=
  if logs = "" then ""
  else slice 2048 (process.redactSensitiveText logs
    [("NOUVA_AGENT_TOKEN", input.agentToken), ("NOUVA_REDACTION_CONTEXT_VERSION", version)])

def awaitValidation (containerId : String) : RuntimeMethod σ Unit := do
  request (.startContainer containerId)
  let status ← request (.waitContainer containerId 30000)
  if status ≠ 0 then do
    let logs ← request (.containerLogs containerId)
    let version ← Method.ofExcept (resolveSystemRedactionContextVersion input)
    let shown := safeLogs process input version logs
    throw (.error ("Alloy configuration validation failed" ++
      if shown = "" then "" else ": " ++ shown))
  else pure ()

def validateAlloyConfig (pullImage : Bool) : RuntimeMethod σ Unit := do
  if pullImage then request (.pullImage input.config.observability.alloyImage) else pure ()
  request (.removeContainer alloyValidationContainerName true)
  let containerId ← request (.createContainer (buildAlloyValidationContainerSpec input))
  Method.finally_ (awaitValidation process input containerId)
    (request (.removeContainer alloyValidationContainerName true))

end

def writeAlloyCandidateConfig (paths : AlloyRuntimePaths)
    (staticContents dynamicContents : String) : RuntimeMethod σ Unit := do
  request (.change (.rm paths.candidateConfigDir true))
  writeManagedFile paths.candidateStaticConfigPath staticContents
  writeManagedFile paths.candidateDynamicConfigPath dynamicContents

def reloadRequest : RuntimeRequest := .fetch "POST" (alloyUrl "/-/reload")

def reloadAlloyConfig : RuntimeMethod σ Unit := do
  let response ← request reloadRequest
  if response.ok then pure ()
  else throw (.error ("Alloy configuration reload failed with status " ++ toString response.status))

section

variable (fuel : ℕ) (paths : AlloyRuntimePaths) (input : AlloyRuntimeInput)
  (options : ReconcileAlloyOptions)

def reloadHealthy : RuntimeMethod σ Unit := do
  reloadAlloyConfig
  waitForAlloyHealth fuel paths input options

def nextPath : String := paths.dynamicConfigPath ++ ".next"

def restoreDynamicConfig (previousContents : Option String) : RuntimeMethod σ Unit :=
  match previousContents with
  | none => request (.change (.rm paths.dynamicConfigPath false))
  | some contents => writeManagedFile paths.dynamicConfigPath contents

def rollBackDynamicConfig (previousContents : Option String) : RuntimeMethod σ Unit := do
  restoreDynamicConfig paths previousContents
  match ← Method.settle (reloadHealthy fuel paths input options) with
  | .error rollbackError => throw (.error
      ("Alloy configuration reload failed and rollback did not become healthy: " ++
        rollbackError.message "unknown rollback failure"))
  | .ok _ => throw (.error
      "Alloy configuration reload failed; the previous fragment was restored")

def replaceAlloyDynamicConfig (dynamicContents : String) : RuntimeMethod σ Unit := do
  let previousContents ← readManagedFile paths.dynamicConfigPath
  writeManagedFile (nextPath paths) dynamicContents
  request (.change (.rename (nextPath paths) paths.dynamicConfigPath))
  try reloadHealthy fuel paths input options
  catch _ => rollBackDynamicConfig fuel paths input options previousContents

def recreateAlloy (present : Bool) (staticContents dynamicContents stateHash : String) :
    RuntimeMethod σ Unit := do
  writeManagedFile paths.staticConfigPath staticContents
  writeManagedFile paths.dynamicConfigPath dynamicContents
  if present then request (.removeContainer alloyContainerName true) else pure ()
  request (.ensureNetwork input.config.localTraefikNetwork)
  let _ ← request (.ensureContainer (buildAlloyContainerSpec input stateHash) false false)
  waitForAlloyHealth fuel paths input options
  request (.change (.rm (paths.rootDir ++ "/config.alloy") false))

def applyAlloyConfig (process : AlloyProcess) (present staticRuntimeCurrent : Bool)
    (staticContents dynamicContents stateHash : String) : RuntimeMethod σ Unit := do
  let pullImage ← if staticRuntimeCurrent then do
      let found ← request (.inspectImage input.config.observability.alloyImage)
      pure !found
    else pure true
  validateAlloyConfig process input pullImage
  if staticRuntimeCurrent then
    replaceAlloyDynamicConfig fuel paths input options dynamicContents
  else
    recreateAlloy fuel paths input options present staticContents dynamicContents stateHash

end

def runtimeInput (input : AlloyRuntimeInput) (inspection : Option RuntimeInspection) :
    AlloyRuntimeInput :=
  { input with dataVolume := resolveAlloyDataVolume inspection input.dataVolume }

def pathsOf (input : AlloyRuntimeInput) (options : ReconcileAlloyOptions) : AlloyRuntimePaths :=
  options.paths.getD (getAlloyRuntimePaths input.dataDir)

def staticConfig (process : AlloyProcess) (input : AlloyRuntimeInput) : Except Failure String :=
  (renderAlloyStaticConfig input process.traefikContainerName
    TraefikRuntime.traefikAdminPort).mapError Failure.error

def reconcileInspected (process : AlloyProcess) (fuel : ℕ) (paths : AlloyRuntimePaths)
    (input : AlloyRuntimeInput) (options : ReconcileAlloyOptions)
    (inspection : Option RuntimeInspection) : RuntimeMethod σ Unit := do
  let staticContents ← Method.ofExcept (staticConfig process input)
  let dynamicContents ← Method.ofExcept (renderAlloyDynamicConfig input)
  let stateHash := process.sha256 staticContents
  let activeStaticContents ← readManagedFile paths.staticConfigPath
  let activeDynamicContents ← readManagedFile paths.dynamicConfigPath
  let staticRuntimeCurrent := decide (activeStaticContents = some staticContents) &&
    isAlloyContainerCurrent inspection input stateHash
  if staticRuntimeCurrent && decide (activeDynamicContents = some dynamicContents) then pure ()
  else do
    writeAlloyCandidateConfig paths staticContents dynamicContents
    Method.finally_
      (applyAlloyConfig fuel paths input options process inspection.isSome staticRuntimeCurrent
        staticContents dynamicContents stateHash)
      (request (.change (.rm paths.candidateConfigDir true)))

def reconcileAlloyRuntime (process : AlloyProcess) (fuel : ℕ) (input : AlloyRuntimeInput)
    (options : ReconcileAlloyOptions) : RuntimeMethod σ Unit := do
  if input.config.observability.enabled then
    if hasOrganization input then do
      ensureAlloyState (pathsOf input options)
      let inspection ← request (.inspectContainer alloyContainerName)
      reconcileInspected process fuel (pathsOf input options) (runtimeInput input inspection)
        options inspection
    else throw (.error "Alloy runtime requires an organization ID.")
  else pure ()

end AlloyRuntime

end NouvaAgent
