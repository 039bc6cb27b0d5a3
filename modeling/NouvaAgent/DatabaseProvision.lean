import NouvaAgent.CandidateReadiness
import NouvaAgent.Host
import NouvaAgent.WorkerRuntime

namespace NouvaAgent

open Text Interaction Host

inductive DatabaseEngine
  | postgres
  | mongodb
  | mysql
  | redis
  deriving DecidableEq, Repr

def DatabaseEngine.text : DatabaseEngine → String
  | postgres => "postgres"
  | mongodb => "mongodb"
  | mysql => "mysql"
  | redis => "redis"

structure DatabaseProvisionPayload where
  projectId : String
  environmentId : Option String := none
  serviceId : String
  redactionContextVersion : Option String := none
  serviceName : String
  variant : DatabaseEngine
  volumeId : String
  volumeName : String
  mountPath : String
  imageUrl : Option String
  envVars : Option TextRecord
  containerArgs : Option (List String)
  dataPath : Option String
  internalPort : ℤ
  externalHost : Option String
  externalPort : Option ℚ
  publicAccessEnabled : Bool
  resourceLimits : ServiceResourceLimits := {}
  runtimeMetadata : RuntimeMetadata := {}
  credentials : TextRecord := []
  pgbackrestRepositoryGeneration : Option ℚ

/-- What the agent needs beside a payload. Whether a container publishes a port is read from its
inspection; that reading is given. -/
structure DatabaseHost where
  config : AgentRuntimeConfig
  ownsPublicPort : DockerContainerInspection → DatabaseProvisionPayload → Bool
  dataDir : String
  fuel : ℕ

structure DatabaseContainerFile where
  path : String
  content : String
  mode : ℕ
  uid : ℕ
  gid : ℕ
  deriving DecidableEq, Repr

structure ResolvedDatabaseProvisionSpec where
  image : String
  envVars : TextRecord
  containerArgs : List String
  mountPath : String
  dataPath : String
  internalPort : ℤ

structure DatabaseProbeCredentials where
  username : String
  password : String
  database : Option String
  deriving DecidableEq, Repr

structure DatabaseReadinessProbeCommand where
  env : List String
  entrypoint : List String
  cmd : List String
  deriving DecidableEq, Repr

structure TaskContainerOptions where
  name : String
  image : String
  env : List String := []
  entrypoint : Option (List String) := none
  cmd : List String
  mounts : List ContainerSpecMount := []
  networkMode : Option String := none
  timeoutMs : Option ℕ := none
  pull : Bool := true

structure DatabaseProvisionResult where
  internalHost : String
  internalPort : ℤ
  externalHost : Option String
  externalPort : Option ℚ
  containerId : String
  containerName : String
  image : String
  volumeName : String
  mountPath : String
  dataPath : String
  networkName : String
  deriving DecidableEq, Repr

def joinLines (lines : List String) : String := String.intercalate "\n" lines

def includesText (part text : String) : Bool :=
  text.toList.tails.any fun rest => part.toList.isPrefixOf rest

namespace DatabaseProvision

def repositorySecretOptions : TextRecord :=
  [("PGBACKREST_REPO1_S3_KEY", "repo1-s3-key"),
    ("PGBACKREST_REPO1_S3_KEY_SECRET", "repo1-s3-key-secret"),
    ("PGBACKREST_REPO1_CIPHER_PASS", "repo1-cipher-pass")]

def splitEntry (entry : String) : Option (String × String) :=
  let name := entry.toList.takeWhile (· ≠ '=')
  match entry.toList.drop name.length with
  | _ :: value => if name = [] then none else some (String.ofList name, String.ofList value)
  | [] => none

def secretOption (entry : String) : Option (String × String × String) := do
  let (name, value) ← splitEntry entry
  let option ← repositorySecretOptions.lookup name
  some (name, option, value)

def readSecretOptions : List String → Except String (List String × List String)
  | [] => .ok ([], [])
  | entry :: rest =>
    match secretOption entry with
    | none => (readSecretOptions rest).map fun (kept, options) => (entry :: kept, options)
    | some (name, option, value) =>
      if value.toList.any (fun c => c = '\r' ∨ c = '\n') then
        .error (name ++ " cannot contain a line break")
      else (readSecretOptions rest).map fun (kept, options) =>
        (kept, (option ++ "=" ++ value) :: options)

def separatePgBackrestCredentials (env : List String) :
    Except String (List String × List DatabaseContainerFile) :=
  (readSecretOptions env).map fun (kept, options) =>
    if options = [] then (kept, [])
    else
      (kept.filter (fun entry => !startsWith "PGBACKREST_CONFIG_INCLUDE_PATH=" entry) ++
          ["PGBACKREST_CONFIG_INCLUDE_PATH=/etc/nouva/pgbackrest"],
        [{ path := "/etc/nouva/pgbackrest/repository-credentials.conf"
           content := joinLines (["[global]"] ++ options ++ [""])
           mode := 0o600, uid := 999, gid := 999 }])

def resolveDatabaseProvisionSpec (payload : DatabaseProvisionPayload) :
    Except String ResolvedDatabaseProvisionSpec :=
  match present payload.imageUrl, present payload.dataPath, payload.envVars,
    payload.containerArgs with
  | some image, some dataPath, some envVars, some containerArgs =>
    .ok { image, envVars, containerArgs, mountPath := payload.mountPath, dataPath
          internalPort := payload.internalPort }
  | _, _, _, _ => .error
      ("Database payload is missing hydrated executor fields (imageUrl, envVars, containerArgs, " ++
        "dataPath). The control plane must hydrate these via " ++
        "buildDatabaseProvisionExecutorConfig before dispatching work.")

def databaseResourceSettings (limits : ServiceResourceLimits) (engine : DatabaseEngine) :
    Except String DockerResourceSettings :=
  let (cpu, memory, pids) : ℚ × ℚ × ℚ :=
    if engine = .redis then (250, 268435456, 256) else (500, 1073741824, 512)
  toDockerResourceSettings
    { cpuMillicores := some (limits.cpuMillicores.getD cpu)
      memoryBytes := some (limits.memoryBytes.getD memory)
      memoryAndSwapBytes := limits.memoryAndSwapBytes
      pidsLimit := some pids }

end DatabaseProvision

namespace DatabaseProvisionPayload

variable (payload : DatabaseProvisionPayload)

def containerName : String := "nouva-" ++ payload.variant.text ++ "-" ++ slice 12 payload.serviceId

end DatabaseProvisionPayload

namespace DatabaseProvision

variable (host : DatabaseHost)

def databaseLabels (payload : DatabaseProvisionPayload) : TextRecord :=
  buildLabels host.config "database" (some payload.projectId) (some payload.serviceId) none
    payload.environmentId payload.redactionContextVersion ++
  [("nouva.service.variant", payload.variant.text)]

def buildDatabaseContainerSpec (payload : DatabaseProvisionPayload) :
    Except String (ResolvedDatabaseProvisionSpec × DockerContainerSpec) := do
  let resolved ← resolveDatabaseProvisionSpec payload
  let (env, _) ← separatePgBackrestCredentials
    (resolved.envVars.map fun entry => entry.1 ++ "=" ++ entry.2)
  let resources ← databaseResourceSettings payload.resourceLimits payload.variant
  .ok (resolved,
    { name := payload.containerName
      image := resolved.image
      env
      cmd := if resolved.containerArgs = [] then none else some resolved.containerArgs
      labels := databaseLabels host payload
      mounts := [⟨payload.volumeName, resolved.mountPath, false⟩]
      restartPolicy := some "unless-stopped"
      resources := some resources
      network := some (host.config.projectNetwork payload.projectId) })

def preflightDatabasePublicPort (payload : DatabaseProvisionPayload) : HostAction Unit :=
  if payload.publicAccessEnabled then
    match readPort payload.externalPort with
    | none => throw (.error ("Public database access requires a valid external port between 1 and " ++
        "65535. Update the server agent and retry provisioning."))
    | some port => do
      let existing ← request (.inspectContainer payload.containerName)
      if (existing.map fun container => host.ownsPublicPort container payload).getD false then
        pure ()
      else
        match ← Method.ask (HostCall.listenOnPort port) with
        | .ok _ => pure ()
        | .error _ => throw (.error ("Public database port " ++ toString port ++
            " is already occupied on this server. Remove the host listener or conflicting " ++
            "container, then retry provisioning."))
  else pure ()

def deployDatabaseContainer (payload : DatabaseProvisionPayload) :
    HostAction (ResolvedDatabaseProvisionSpec × String) := do
  preflightDatabasePublicPort host payload
  let (resolved, spec) ← Method.ofExcept
    ((buildDatabaseContainerSpec host payload).mapError Failure.error)
  let network := host.config.projectNetwork payload.projectId
  request (.ensureNetwork network [("nouva.managed", "true"),
    ("nouva.server.id", host.config.serverId), ("nouva.project.id", payload.projectId)])
  request (.connectNetwork network host.config.traefikContainerName)
  request (.createVolume payload.volumeName
    (buildManagedVolumeLabels payload.volumeId (some payload.projectId) (some payload.serviceId)))
  let containerId ← request (.ensureContainer spec true true)
  pure (resolved, containerId)

def readEnvValue (envVars : TextRecord) (name : String) : Option String :=
  present (envVars.lookup name)

def readRedisPassword (containerArgs : List String) : Option String :=
  present ((containerArgs.dropWhile (· ≠ "--requirepass")).tail.head?)

def readDatabaseProbeCredentialsFromRuntime (engine : DatabaseEngine) (envVars : TextRecord)
    (containerArgs : List String) : Option DatabaseProbeCredentials :=
  match engine with
  | .postgres => do
    let username ← readEnvValue envVars "POSTGRES_USER"
    let password ← readEnvValue envVars "POSTGRES_PASSWORD"
    some ⟨username, password, some ((readEnvValue envVars "POSTGRES_DB").getD username)⟩
  | .mongodb => do
    let username ← readEnvValue envVars "MONGO_INITDB_ROOT_USERNAME"
    let password ← readEnvValue envVars "MONGO_INITDB_ROOT_PASSWORD"
    some ⟨username, password, some "admin"⟩
  | .mysql => do
    let username ← readEnvValue envVars "MYSQL_USER"
    let password ← readEnvValue envVars "MYSQL_PASSWORD"
    some ⟨username, password, readEnvValue envVars "MYSQL_DATABASE"⟩
  | .redis => do
    let password ← readRedisPassword containerArgs
    some ⟨"default", password, none⟩

def getDatabaseProbeCredentials (payload : DatabaseProvisionPayload)
    (resolved : ResolvedDatabaseProvisionSpec) : Except String DatabaseProbeCredentials :=
  match readDatabaseProbeCredentialsFromRuntime payload.variant resolved.envVars
    resolved.containerArgs with
  | some credentials => .ok credentials
  | none =>
    match present ((payload.credentials.lookup "username").map trim),
      present (payload.credentials.lookup "password") with
    | some username, some password =>
      .ok ⟨username, password, payload.credentials.lookup "database"⟩
    | _, _ => .error ("Database readiness for " ++ payload.serviceName ++ " cannot be verified: " ++
        "the provisioning request did not include service credentials")

def buildDatabaseReadinessProbe (engine : DatabaseEngine) (host : String) (port : ℤ)
    (credentials : DatabaseProbeCredentials) : DatabaseReadinessProbeCommand :=
  let shared := ["NOUVA_PROBE_USERNAME=" ++ credentials.username, "NOUVA_PROBE_HOST=" ++ host,
    "NOUVA_PROBE_PORT=" ++ toString port]
  match engine with
  | .postgres =>
    { env := ["PGPASSWORD=" ++ credentials.password, "PGHOST=" ++ host,
        "PGPORT=" ++ toString port, "PGUSER=" ++ credentials.username,
        "PGDATABASE=" ++ (present (credentials.database.map trim)).getD credentials.username,
        "PGCONNECT_TIMEOUT=5"]
      entrypoint := ["/bin/sh"]
      cmd := ["-c", joinLines ["set -eu",
        "psql -w -X -t -A -v ON_ERROR_STOP=1 -c \"SELECT 1\" >/dev/null 2>&1"]] }
  | .mongodb =>
    { env := ("NOUVA_PROBE_PASSWORD=" ++ credentials.password) :: shared
      entrypoint := ["/bin/sh"]
      cmd := ["-c", joinLines ["set -eu",
        "mongosh --quiet --host \"$NOUVA_PROBE_HOST\" --port \"$NOUVA_PROBE_PORT\" " ++
        "-u \"$NOUVA_PROBE_USERNAME\" -p \"$NOUVA_PROBE_PASSWORD\" " ++
        "--authenticationDatabase admin --eval 'if (db.adminCommand(\x7b ping: 1 \x7d).ok !== 1) " ++
        "\x7b quit(1); \x7d' >/dev/null 2>&1"]] }
  | .mysql =>
    { env := ("MYSQL_PWD=" ++ credentials.password) :: shared
      entrypoint := ["/bin/sh"]
      cmd := ["-c", joinLines ["set -eu",
        "mysql -h\"$NOUVA_PROBE_HOST\" -P\"$NOUVA_PROBE_PORT\" -u\"$NOUVA_PROBE_USERNAME\" " ++
        "--protocol=tcp --connect-timeout=5 -N -B -e \"SELECT 1\" >/dev/null 2>&1"]] }
  | .redis =>
    { env := ("REDISCLI_AUTH=" ++ credentials.password) :: shared.tail
      entrypoint := ["/bin/sh"]
      cmd := ["-c", joinLines ["set -eu",
        "reply=$(redis-cli -h \"$NOUVA_PROBE_HOST\" -p \"$NOUVA_PROBE_PORT\" PING 2>/dev/null)",
        "test \"$reply\" = 'PONG'"]] }

def awaitTask (id name : String) (timeoutMs : Option ℕ) : HostAction Unit := do
  request (.startContainer id)
  let statusCode ← request (.waitContainer id timeoutMs)
  let logs ← Method.settle (request (.containerLogs id))
  if statusCode ≠ 0 then
    throw (.error ((present (logs.toOption.map trim)).getD
      ("Task container " ++ name ++ " failed (" ++ toString statusCode ++ ")")))
  else pure ()

def pullTaskImage (options : TaskContainerOptions) : HostAction Unit :=
  if options.pull then request (.pullImage options.image) else pure ()

def runTaskContainer (options : TaskContainerOptions) : HostAction Unit := do
  pullTaskImage options
  request (.removeContainer options.name true none)
  let (env, _) ← Method.ofExcept
    ((separatePgBackrestCredentials options.env).mapError Failure.error)
  let id ← request (.createContainer
    { name := options.name, image := options.image, env, entrypoint := options.entrypoint
      cmd := some options.cmd, labels := buildLabels host.config "task" none none none none none
      mounts := options.mounts, network := options.networkMode })
  Method.finally_ (awaitTask id options.name options.timeoutMs)
    (request (.removeContainer id true none))

def runDatabaseReadinessProbe (serviceId image projectNetwork namePrefix : String)
    (probe : DatabaseReadinessProbeCommand) : HostAction Unit :=
  runTaskContainer host
    { name := namePrefix ++ slice 12 serviceId, image, env := probe.env
      entrypoint := some probe.entrypoint, cmd := probe.cmd, networkMode := some projectNetwork
      timeoutMs := some 20000, pull := false }

def hasKnownKernelIncompatibility (containerName : String) : HostAction Bool := do
  match ← Method.settle (request (.containerLogs containerName)) with
  | .ok logs => pure (includesText "MongoDB cannot start: Linux kernel versions" logs)
  | .error _ => pure false

def describeKernelIncompatibility (containerName : String) : String :=
  "Database container " ++ containerName ++ " cannot start: this MongoDB build rejects the " ++
    "server's Linux kernel and refuses to start (upstream MongoDB SERVER-121912 and " ++
    "SERVER-131779). Use a MongoDB build and server kernel combination upstream supports; the " ++
    "guard cannot be safely bypassed."

def failReadiness {α : Type} (containerName message : String) : HostAction α := do
  let guarded ← hasKnownKernelIncompatibility containerName
  throw (.error (if guarded then describeKernelIncompatibility containerName else message))

def probeWhenDue (probe : HostAction Unit) (up : Bool) (probeIntervalMs nextProbeAt : ℤ) :
    HostAction (Bool × ℤ) :=
  if up then do
    let time ← now
    if nextProbeAt ≤ time then do
      let probedAt ← now
      match ← Method.settle probe with
      | .ok _ => pure (true, probedAt + probeIntervalMs)
      | .error _ => pure (false, probedAt + probeIntervalMs)
    else pure (false, nextProbeAt)
  else pure (false, nextProbeAt)

structure DatabaseReadinessWait where
  containerName : String
  engine : DatabaseEngine
  timeoutMs : ℤ := 180000
  intervalMs : ℤ := 2000
  probeIntervalMs : ℤ := 10000
  restartBaseline : ℤ := 0

def pollDatabaseReadiness (wait : DatabaseReadinessWait) (probe : HostAction Unit) (deadline : ℤ) :
    ℕ → CandidateRuntimeEvidence → ℤ → String → HostAction Unit
  | 0, _, _, _ => Method.cut
  | fuel + 1, evidence, nextProbeAt, lastStatus => do
    let time ← now
    if time ≤ deadline then do
      match ← request (.inspectContainer wait.containerName) with
      | none => throw (.error ("Database container " ++ wait.containerName ++
          " is missing on the server"))
      | some inspection => do
        let assessment := CandidateReadiness.assessCandidateReadiness
          { containerName := wait.containerName, appPort := 0, inspection, evidence
            subject := "Database container", restartBaseline := wait.restartBaseline }
        let lastStatus := (CandidateReadiness.statusOf inspection).getD lastStatus
        match assessment.step with
        | .failed _ message => failReadiness wait.containerName message
        | step => do
          let up := match step with
            | .wait _ => CandidateReadiness.isRunning inspection
            | _ => true
          let (ready, nextProbeAt) ← probeWhenDue probe up wait.probeIntervalMs nextProbeAt
          if ready then pure ()
          else do
            agent (Agent.sleep wait.intervalMs)
            pollDatabaseReadiness wait probe deadline fuel assessment.evidence nextProbeAt
              lastStatus
    else
      failReadiness wait.containerName ("Database container " ++ wait.containerName ++
        " did not accept authenticated " ++ wait.engine.text ++ " connections within " ++
        toString ((2 * wait.timeoutMs + 1000) / 2000) ++ "s (container status " ++ lastStatus ++
        (if 0 < evidence.restarts then ", " ++ toString evidence.restarts ++ " restarts" else "") ++
        "); the database is not serving its port")

def waitForDatabaseReadiness (wait : DatabaseReadinessWait) (probe : HostAction Unit) :
    HostAction Unit := do
  let time ← now
  pollDatabaseReadiness wait probe (time + wait.timeoutMs) host.fuel {} 0 "unknown"

def handleDatabaseProvision (payload : DatabaseProvisionPayload) :
    HostAction DatabaseProvisionResult := do
  let (resolved, containerId) ← deployDatabaseContainer host payload
  let credentials ← Method.ofExcept
    ((getDatabaseProbeCredentials payload resolved).mapError Failure.error)
  let network := host.config.projectNetwork payload.projectId
  waitForDatabaseReadiness host { containerName := payload.containerName, engine := payload.variant }
    (runDatabaseReadinessProbe host payload.serviceId resolved.image network "nouva-db-ready-"
      (buildDatabaseReadinessProbe payload.variant payload.containerName resolved.internalPort
        credentials))
  pure { internalHost := payload.containerName, internalPort := resolved.internalPort
         externalHost := if payload.publicAccessEnabled then payload.externalHost else none
         externalPort := if payload.publicAccessEnabled then payload.externalPort else none
         containerId, containerName := payload.containerName, image := resolved.image
         volumeName := payload.volumeName, mountPath := resolved.mountPath
         dataPath := resolved.dataPath, networkName := network }

end DatabaseProvision

end NouvaAgent
