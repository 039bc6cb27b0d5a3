import NouvaAgent.ManagedRuntime
import NouvaAgent.ReleaseJobs
import NouvaAgent.TrustedPeers

namespace NouvaAgent

open Text Interaction ManagedRuntime

/-- What the module takes from its process, and the SHA-256 digest. -/
structure TraefikProcess where
  traefikImage : String := "traefik:v3.5"
  traefikContainerName : String := "nouva-traefik"
  sha256 : String → String

namespace TraefikRuntime

variable {σ : Type}

def traefikAdminHost : String := "127.0.0.1"

def traefikAdminPort : ℕ := 8082

def traefikCandidateAdminPort : ℕ := 8083

def traefikConfigHashLabel : String := "nouva.traefik.static-config-sha"

def traefikRoleLabel : String := "nouva.traefik.role"

def traefikApiEntrypoint : String := "traefik"

def agentDataDirInContainer : String := "/var/lib/nouva-agent"

def acmeFileMode : ℕ := 0o600

structure TraefikRuntimePaths where
  staticDir : String
  dynamicDir : String
  acmeDir : String
  staticConfigPath : String
  acmeStoragePath : String

def getTraefikRuntimePaths (dataDir : String) : TraefikRuntimePaths where
  staticDir := dataDir ++ "/traefik/static"
  dynamicDir := dataDir ++ "/traefik/dynamic"
  acmeDir := dataDir ++ "/traefik/acme"
  staticConfigPath := dataDir ++ "/traefik/static/traefik.yml"
  acmeStoragePath := dataDir ++ "/traefik/acme/acme.json"

structure TraefikConfig where
  localTraefikNetwork : String
  trustedForwardedPeers : Option (List String)

structure ReconcileOptions where
  dataVolume : String
  labels : TextRecord := []
  dataDir : String := agentDataDirInContainer
  timeoutMs : ℤ := 15000
  intervalMs : ℤ := 250

inductive FailurePhase
  | preflight
  | cutover
  deriving DecidableEq

inductive RollbackStatus
  | notNeeded
  | succeeded
  | failed
  deriving DecidableEq

/-- `lastTraefikRuntimeFailure`, but for its time. -/
structure TraefikRuntimeFailure where
  phase : FailurePhase
  message : String
  rollbackStatus : RollbackStatus
  deriving DecidableEq

abbrev TraefikMethod (α : Type) := RuntimeMethod (Option TraefikRuntimeFailure) α

def serializeYaml (lines : List String) : String := "\n".intercalate lines ++ "\n"

def hasPrimaryPortBindings (inspection : Option RuntimeInspection) : Bool :=
  hasPortBinding inspection "80/tcp" ⟨"0.0.0.0", "80"⟩ &&
    hasPortBinding inspection "443/tcp" ⟨"0.0.0.0", "443"⟩

def hasAdminBinding (inspection : Option RuntimeInspection) (adminHostPort : ℕ) : Bool :=
  hasPortBinding inspection "8082/tcp" ⟨traefikAdminHost, toString adminHostPort⟩

def lines (content : List Char) : List (List Char) :=
  let pieces := content.splitOn '\n'
  (pieces.dropLast.map fun line => if line.getLast? = some '\r' then line.dropLast else line) ++
    pieces.getLast?.toList

/-- `/^ {2}routers:\s*$/`. -/
def opensRouters (line : List Char) : Bool :=
  match line.splitAt 10 with
  | (head, rest) => head == "  routers:".toList && rest.all isWhiteSpace

/-- `/^ {0,2}\S/`. -/
def closesRouters (line : List Char) : Bool :=
  (line.takeWhile (· = ' ')).length ≤ 2 &&
    ((line.dropWhile (· = ' ')).head?.any fun c => !isWhiteSpace c)

/-- `/^ {4}[^\s:]+:\s*$/`. -/
def declaresRouter (line : List Char) : Bool :=
  let rest := line.drop 4
  let name := rest.takeWhile fun c => !isWhiteSpace c && c ≠ ':'
  line.take 4 == "    ".toList && !name.isEmpty &&
    match rest.drop name.length with
    | ':' :: spaces => spaces.all isWhiteSpace
    | _ => false

def countDeclaredTraefikRouters (content : String) : ℕ :=
  ((lines content.toList).foldl (fun (inRouters, count) line =>
    if opensRouters line then (true, count)
    else if closesRouters line then (false, count)
    else if inRouters && declaresRouter line then (inRouters, count + 1)
    else (inRouters, count)) (false, 0)).2

example : countDeclaredTraefikRouters
    "http:\n  routers:\n    http-a:\n      rule: x\n    https-a:\n  services:\n    svc-a:\n" = 2 := by
  decide +kernel

structure RouteFileCount where
  routeFileCount : ℕ
  expectedRouterCount : ℕ

def countRoutersIn (dynamicDir : String) (file : DirectoryEntry) : RuntimeMethod ℕ Unit := do
  match ← readManagedFile (dynamicDir ++ "/" ++ file.name) with
  | some content => Method.assign (· + countDeclaredTraefikRouters content)
  | none => pure ()

def countRouteFiles (dynamicDir : String) : RuntimeMethod σ RouteFileCount := do
  match ← Method.settle (request (.readDirectory dynamicDir)) with
  | .error _ => pure ⟨0, 0⟩
  | .ok entries => do
    let routeFiles := entries.filter fun entry =>
      entry.isFile && ".yml".toList.isSuffixOf entry.name.toList
    let expected ← Method.withLocals 0 do
      Method.forEach routeFiles (countRoutersIn dynamicDir)
      Method.locals
    pure ⟨routeFiles.length, expected⟩

def adminUrl (adminPort : ℕ) (path : String) : String :=
  "http://" ++ traefikAdminHost ++ ":" ++ toString adminPort ++ path

def isManagedRouter (router : TraefikRouter) : Bool :=
  match router.rule with
  | none => false
  | some rule => decide ("Host(`".toList <:+: rule.toList) &&
      (router.provider = some "file" ||
        (router.name.any fun name => "@file".toList.isSuffixOf name.toList))

def fetchManagedRouterCount (adminPort : ℕ) : RuntimeMethod σ (Option ℕ) := do
  let response ← request (.fetch "GET" (adminUrl adminPort "/api/http/routers"))
  if response.ok then do
    let routers ← Method.ofExcept (response.routers.mapError Failure.call)
    pure (some (routers.filter isManagedRouter).length)
  else pure none

inductive ServerCheckStatus
  | pass
  | warn
  | fail
  deriving DecidableEq

structure TraefikProbeResult where
  inspection : Option RuntimeInspection
  pingOk : Bool
  expectedRouterCount : ℕ
  managedRouterCount : Option ℕ
  acmeStatus : ServerCheckStatus
  acmeMessage : String

def formatMode (mode : ℕ) : String := "0" ++ String.ofList (Nat.toDigits 8 (mode % 512))

def probeAcme (paths : TraefikRuntimePaths) : RuntimeMethod σ (ServerCheckStatus × String) := do
  let probed ← Method.settle do
    request (.access paths.acmeStoragePath)
    request (.stat paths.acmeStoragePath)
  match probed with
  | .error e => pure (.fail, e.message "ACME storage is not accessible")
  | .ok mode =>
    if mode % 512 = acmeFileMode then
      pure (.pass, "ACME storage is readable, writable, and mode 0600")
    else
      pure (.warn, "ACME storage is readable and writable but mode is " ++ formatMode mode)

def fetchPing (adminPort : ℕ) : RuntimeMethod σ Bool := do
  match ← Method.settle (request (.fetch "GET" (adminUrl adminPort "/ping"))) with
  | .ok response => pure response.ok
  | .error _ => pure false

def probeTraefikRuntime (paths : TraefikRuntimePaths) (containerName : String) (adminPort : ℕ) :
    RuntimeMethod σ TraefikProbeResult := do
  let inspection ← request (.inspectContainer containerName)
  let counts ← countRouteFiles paths.dynamicDir
  let (pingOk, managedRouterCount) ← if isRunning inspection then do
      let pingOk ← fetchPing adminPort
      let counted ← Method.settle (fetchManagedRouterCount adminPort)
      pure (pingOk, counted.toOption.join)
    else pure (false, none)
  let (acmeStatus, acmeMessage) ← probeAcme paths
  pure { inspection, pingOk, expectedRouterCount := counts.expectedRouterCount,
         managedRouterCount, acmeStatus, acmeMessage }

structure HealthExpectation where
  containerName : String
  adminPort : ℕ
  expectPublicBindings : Bool

def lastErrorOf (expected : HealthExpectation) (probe : TraefikProbeResult) : Option String :=
  if !isRunning probe.inspection then some "Traefik container is not running"
  else if expected.expectPublicBindings && !hasPrimaryPortBindings probe.inspection then
    some "Traefik public port bindings are incomplete"
  else if !hasAdminBinding probe.inspection expected.adminPort then
    some "Traefik admin binding is missing"
  else if !probe.pingOk then some "Traefik ping endpoint is not healthy"
  else if probe.acmeStatus = .fail then some probe.acmeMessage
  else if 0 < probe.expectedRouterCount ∧
      probe.managedRouterCount.all (fun count => decide (count < probe.expectedRouterCount)) then
    some "Traefik has not loaded all file-provider routes"
  else none

def pollHealth (paths : TraefikRuntimePaths) (options : ReconcileOptions)
    (expected : HealthExpectation) (startedAt : ℤ) :
    ℕ → (lastError : String) → RuntimeMethod σ Unit
  | 0, _ => Method.cut
  | fuel + 1, lastError => do
    let time ← now
    if time - startedAt < options.timeoutMs then do
      let probe ← probeTraefikRuntime paths expected.containerName expected.adminPort
      match lastErrorOf expected probe with
      | none => pure ()
      | some lastError => do
        sleep options.intervalMs
        pollHealth paths options expected startedAt fuel lastError
    else throw (.error lastError)

def waitForTraefikHealth (fuel : ℕ) (paths : TraefikRuntimePaths) (options : ReconcileOptions)
    (expected : HealthExpectation) : RuntimeMethod σ Unit := do
  let startedAt ← now
  pollHealth paths options expected startedAt fuel "Traefik runtime did not become healthy"

def isManagedProjectNetwork (serverId : Option String) (network : RuntimeNetwork) : Bool :=
  let labels := network.labels.getD []
  labels.lookup "nouva.managed" = some "true" && (labels.lookup "nouva.project.id").isSome &&
    serverId.all fun serverId => serverId = "" || labels.lookup "nouva.server.id" = some serverId

/-- A network that is gone by now needs no connection. -/
def connectProjectNetwork (containerName : String) (network : RuntimeNetwork) :
    RuntimeAction Unit := do
  match ← Method.settle (request (.connectNetwork network.name containerName)) with
  | .ok _ => pure ()
  | .error e =>
    if e.status = some 404 then do
      if ← request (.inspectNetwork network.name) then throw e else pure ()
    else throw e

/-- The connections are made side by side, and a rejected one rejects them all. -/
def connectTraefikToManagedProjectNetworks (fuel : ℕ) (containerName : String)
    (serverId : Option String) : RuntimeMethod σ Unit := do
  let networks ← request .listNetworks
  let projectNetworks := networks.filter (isManagedProjectNetwork serverId)
  let connected ← Method.lift (Method.allSettled fuel
    (projectNetworks.map (connectProjectNetwork containerName)))
  Method.forEach connected Method.ofExcept

def writeEmptyAcmeStorage (paths : TraefikRuntimePaths) : RuntimeMethod σ Unit :=
  writeManagedFile paths.acmeStoragePath "{}\n" (some acmeFileMode)

def ensureTraefikState (paths : TraefikRuntimePaths) : RuntimeMethod σ Unit := do
  request (.change (.mkdir paths.staticDir))
  request (.change (.mkdir paths.dynamicDir))
  request (.change (.mkdir paths.acmeDir))
  try
    let currentContent ← request (.readFile paths.acmeStoragePath)
    if trim currentContent = "" then writeEmptyAcmeStorage paths
    else request (.change (.chmod paths.acmeStoragePath acmeFileMode))
  catch _ => writeEmptyAcmeStorage paths

def forwardedHeaders (forwardingPeers : List String) : List String :=
  if forwardingPeers = [] then []
  else ["    forwardedHeaders:", "      trustedIPs:"] ++
    forwardingPeers.map fun peer => "        - " ++ peer

def renderTraefikStaticConfig (paths : TraefikRuntimePaths)
    (trustedForwardedPeers : Option (List String)) : String :=
  serializeYaml (
    ["api:", "  insecure: true", "  dashboard: true", "ping:",
      "  entryPoint: " ++ traefikApiEntrypoint, "entryPoints:", "  web:",
      "    address: \":80\""] ++
    forwardedHeaders (TrustedPeers.selectTrustedForwardedPeers trustedForwardedPeers) ++
    ["  websecure:", "    address: \":443\"", "  " ++ traefikApiEntrypoint ++ ":",
      "    address: \":8082\"", "metrics:", "  prometheus:",
      "    entryPoint: " ++ traefikApiEntrypoint, "    addEntryPointsLabels: false",
      "    addRoutersLabels: false", "    addServicesLabels: true", "providers:", "  file:",
      "    directory: \"" ++ paths.dynamicDir ++ "\"", "    watch: true",
      "certificatesResolvers:", "  letsencrypt:", "    acme:",
      "      storage: \"" ++ paths.acmeStoragePath ++ "\"", "      httpChallenge:",
      "        entryPoint: web"])

section

variable (process : TraefikProcess) (fuel : ℕ) (config : TraefikConfig) (options : ReconcileOptions)

def primaryName : String := process.traefikContainerName

def candidateName : String := process.traefikContainerName ++ "-candidate"

def paths : TraefikRuntimePaths := getTraefikRuntimePaths options.dataDir

def staticConfig : String :=
  renderTraefikStaticConfig (paths options) config.trustedForwardedPeers

def stateHash : String := process.sha256 (staticConfig config options)

def serverId : Option String := options.labels.lookup "nouva.server.id"

def isTraefikContainerCurrent (inspection : Option RuntimeInspection) : Bool :=
  isRunning inspection &&
    inspection.bind RuntimeInspection.image = some process.traefikImage &&
    label inspection traefikConfigHashLabel = some (stateHash process config options) &&
    hasPrimaryPortBindings inspection && hasAdminBinding inspection traefikAdminPort

def buildTraefikContainerSpec (name image : String) (publicBindings : Bool) (adminHostPort : ℕ) :
    RuntimeContainerSpec where
  name
  image
  cmd := ["--configFile=" ++ agentDataDirInContainer ++ "/traefik/static/traefik.yml"]
  labels := options.labels.spread [(traefikConfigHashLabel, stateHash process config options),
    (traefikRoleLabel, if publicBindings then "primary" else "candidate")]
  exposedPorts := ["80/tcp", "443/tcp", "8082/tcp"]
  binds := [options.dataVolume ++ ":" ++ agentDataDirInContainer]
  portBindings := (if publicBindings then
      [("80/tcp", [⟨"0.0.0.0", "80"⟩]), ("443/tcp", [⟨"0.0.0.0", "443"⟩])] else []) ++
    [("8082/tcp", [⟨traefikAdminHost, toString adminHostPort⟩])]
  restartPolicy := some (if publicBindings then "unless-stopped" else "no")
  logConfig := some managedContainerLogConfig
  network := some config.localTraefikNetwork

def candidateSpec : RuntimeContainerSpec :=
  buildTraefikContainerSpec process config options (candidateName process) process.traefikImage
    false traefikCandidateAdminPort

def primarySpec (image : String) : RuntimeContainerSpec :=
  buildTraefikContainerSpec process config options (primaryName process) image true
    traefikAdminPort

def removePrimary : RuntimeRequest := .removeContainer (primaryName process) true

def removeCandidate : RuntimeRequest := .removeContainer (candidateName process) true

def createPrimary (image : String) : RuntimeRequest :=
  .ensureContainer (primarySpec process config options image) true true

def recordTraefikRuntimeFailure (phase : FailurePhase) (message : String)
    (rollbackStatus : RollbackStatus) : TraefikMethod Unit :=
  Method.assign fun _ => some { phase, message, rollbackStatus }

def checkCandidate : RuntimeMethod σ Unit := do
  connectTraefikToManagedProjectNetworks fuel (candidateName process) (serverId options)
  waitForTraefikHealth fuel (paths options) options
    ⟨candidateName process, traefikCandidateAdminPort, false⟩

def checkPrimary : RuntimeMethod σ Unit := do
  connectTraefikToManagedProjectNetworks fuel (primaryName process) (serverId options)
  waitForTraefikHealth fuel (paths options) options
    ⟨primaryName process, traefikAdminPort, true⟩

def preflight : TraefikMethod Unit := do
  request (.pullImage process.traefikImage)
  request (removeCandidate process)
  let _ ← request (.ensureContainer (candidateSpec process config options) true true)
  try checkCandidate process fuel options
  catch error => do
    request (removeCandidate process)
    recordTraefikRuntimeFailure .preflight (error.message "Traefik candidate preflight failed")
      .notNeeded
    throw error

def restorePrevious (previousImage : String) : RuntimeMethod σ Unit := do
  let _ ← request (createPrimary process config options previousImage)
  checkPrimary process fuel options

def rollBack (previousImage : Option String) (error : Failure) : TraefikMethod Unit := do
  request (removePrimary process)
  let rollbackStatus ← match previousImage.filter (· ≠ "") with
    | none => pure RollbackStatus.notNeeded
    | some image => do
      match ← Method.settle (restorePrevious process fuel config options image) with
      | .ok _ => pure .succeeded
      | .error _ => pure .failed
  recordTraefikRuntimeFailure .cutover (error.message "Traefik cutover failed") rollbackStatus
  throw error

def verifyCutover (previousImage : Option String) : TraefikMethod Unit := do
  try
    checkPrimary process fuel options
    Method.assign fun _ => none
  catch error => rollBack process fuel config options previousImage error

def cutOver (previousImage : Option String) : TraefikMethod Unit := do
  request (removePrimary process)
  let _ ← request (createPrimary process config options process.traefikImage)
  Method.finally_ (verifyCutover process fuel config options previousImage)
    (request (removeCandidate process))

def reconcileTraefikRuntime : TraefikMethod Unit := do
  ensureTraefikState (paths options)
  request (.ensureNetwork config.localTraefikNetwork)
  writeManagedFile (paths options).staticConfigPath (staticConfig config options)
  let current ← request (.inspectContainer (primaryName process))
  if isTraefikContainerCurrent process config options current then do
    connectTraefikToManagedProjectNetworks fuel (primaryName process) (serverId options)
    Method.assign fun _ => none
  else do
    preflight process fuel config options
    cutOver process fuel config options (current.bind RuntimeInspection.image)

end

end TraefikRuntime

end NouvaAgent
