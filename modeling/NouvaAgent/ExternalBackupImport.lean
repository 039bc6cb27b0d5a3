import NouvaAgent.ExternalBackupVerification
import NouvaAgent.HelperTasks
import NouvaAgent.VolumeWipe

namespace NouvaAgent

open Text Interaction Host HelperTasks ExternalBackup

structure PlatformBackupDestination where
  bucket : String
  endpoint : String
  region : String
  pathStyle : Bool
  verifyTls : Bool
  accessKeyId : String
  secretAccessKey : String

structure ImportExternalBackupPayload where
  projectId : String
  serviceId : String
  variant : ExternalBackupImportVariant
  version : String
  importId : String
  format : ExternalBackupImportFormat
  artifactSha256 : String
  artifactSizeBytes : ℚ
  objectKey : String
  targetVolumeId : String
  targetVolumeName : String
  targetMountPath : String
  destination : PlatformBackupDestination
  imageUrl : String
  envVars : TextRecord
  containerArgs : List String
  dataPath : String

inductive ImportFailure
  | importError (rejection : Rejection)
  | other (failure : Failure)
  deriving DecidableEq

structure ImportResult where
  volumeName : String
  verifiedAt : String
  importProof : Json
  deriving DecidableEq

abbrev ImportAction (α : Type) := Action HostCall.Answer ImportFailure α

namespace ExternalBackupImport

def externalBackupImportArtifactPath : String := "/nouva-import/artifact.bin"

def externalBackupImportStageTarget : String := "/stage"

def externalBackupImportRestoredMarker : String := "NOUVA_IMPORT_RESTORED:"

def buildArchiveDestinationEnv (destination : PlatformBackupDestination) (objectKey : String) :
    List String :=
  let flag (value : Bool) := if value then "true" else "false"
  ["RCLONE_CONFIG_NOUVAARCHIVE_TYPE=s3", "RCLONE_CONFIG_NOUVAARCHIVE_PROVIDER=Other",
    "RCLONE_CONFIG_NOUVAARCHIVE_ENV_AUTH=false",
    "RCLONE_CONFIG_NOUVAARCHIVE_ACCESS_KEY_ID=" ++ destination.accessKeyId,
    "RCLONE_CONFIG_NOUVAARCHIVE_SECRET_ACCESS_KEY=" ++ destination.secretAccessKey,
    "RCLONE_CONFIG_NOUVAARCHIVE_ENDPOINT=" ++ destination.endpoint,
    "RCLONE_CONFIG_NOUVAARCHIVE_REGION=" ++ destination.region,
    "RCLONE_CONFIG_NOUVAARCHIVE_FORCE_PATH_STYLE=" ++ flag destination.pathStyle,
    "RCLONE_CONFIG_NOUVAARCHIVE_INSECURE_SKIP_VERIFY=" ++ flag (!destination.verifyTls),
    "RCLONE_CONFIG_NOUVAARCHIVE_NO_CHECK_BUCKET=true",
    "BACKUP_ACCESS_KEY_ID=" ++ destination.accessKeyId,
    "BACKUP_SECRET_ACCESS_KEY=" ++ destination.secretAccessKey,
    "BACKUP_ENDPOINT=" ++ destination.endpoint, "BACKUP_REGION=" ++ destination.region,
    "BACKUP_BUCKET=" ++ destination.bucket, "BACKUP_OBJECT_KEY=" ++ objectKey,
    "BACKUP_FORCE_PATH_STYLE=" ++ flag destination.pathStyle]

def remoteLine : String :=
  "remote=\"nouvaarchive:$\x7bBACKUP_BUCKET\x7d/$\x7bBACKUP_OBJECT_KEY\x7d\""

def shellDefault (name fallback : String) : String := "$\x7b" ++ name ++ ":-" ++ fallback ++ "\x7d"

def buildExternalBackupImportFetchScript (headerSampleBytes : ℕ) : String := joinLines ["set -eu",
  remoteLine, "artifact=\"" ++ externalBackupImportStageTarget ++ "/artifact.bin\"",
  "rclone copyto \"$remote\" \"$artifact\"",
  "actual_sha256=$(sha256sum \"$artifact\" | cut -d \" \" -f 1)",
  "actual_size=$(wc -c < \"$artifact\" | tr -d \" \")",
  "header=$(head -c " ++ toString headerSampleBytes ++ " \"$artifact\" | base64 | tr -d \"\\n\")",
  "printf \"NOUVA_SHA256:%s\\n\" \"$actual_sha256\"",
  "printf \"NOUVA_SIZE_BYTES:%s\\n\" \"$actual_size\"",
  "printf \"NOUVA_ARTIFACT_HEADER:%s\\n\" \"$header\""]

def restoredLine : String :=
  "printf \"" ++ externalBackupImportRestoredMarker ++ "%s\\n\" 1"

def buildPostgresExternalBackupImportScript : String :=
  let socketDir := "\"" ++ shellDefault "POSTGRES_SOCKET_DIR" "/var/lib/postgresql/.sockets" ++ "\""
  let password := shellDefault "POSTGRES_PASSWORD" ""
  joinLines ["set -eu", "mkdir -p \"$NOUVA_DATA_PATH\" " ++ socketDir ++ " /var/run/postgresql",
    "chown -R 999:999 \"$NOUVA_DATA_PATH\" || true", "/nouva/entrypoint.sh &",
    "entrypoint_pid=\"$!\"", "cleanup() \x7b",
    "  if kill -0 \"$entrypoint_pid\" 2>/dev/null; then",
    "    kill -TERM \"$entrypoint_pid\" || true", "    wait \"$entrypoint_pid\" || true", "  fi",
    "\x7d", "trap cleanup EXIT INT TERM", "export PGHOST=" ++ socketDir,
    "export PGPORT=\"" ++ shellDefault "POSTGRES_PORT" "5433" ++ "\"",
    "export PGUSER=\"" ++ shellDefault "POSTGRES_USER" "postgres" ++ "\"",
    "export PGDATABASE=\"" ++ shellDefault "POSTGRES_DB" "postgres" ++ "\"",
    "if [ -n \"" ++ password ++ "\" ]; then export PGPASSWORD=\"" ++ password ++ "\"; fi",
    "ready=0", "for i in $(seq 1 300); do",
    "  if pg_isready -h \"$PGHOST\" -p \"$PGPORT\" -U \"$PGUSER\" >/dev/null 2>&1; " ++
      "then ready=1; break; fi",
    "  if ! kill -0 \"$entrypoint_pid\" 2>/dev/null; then break; fi", "  sleep 1", "done",
    "if [ \"$ready\" != 1 ]; then",
    "  echo \"The destination PostgreSQL server did not start for this import\" >&2", "  exit 1",
    "fi",
    "pg_restore --single-transaction --exit-on-error --no-owner --no-privileges " ++
      "--dbname \"$PGDATABASE\" \"$NOUVA_IMPORT_ARTIFACT\"",
    restoredLine,
    "relations=$(psql -Atqc \"select count(*) from pg_class c join pg_namespace n on n.oid = " ++
      "c.relnamespace where c.relkind in ('r','p','m') and n.nspname not in " ++
      "('pg_catalog','information_schema') and n.nspname !~ '^pg_toast'\")",
    "psql -Atqc \"checkpoint\" >/dev/null",
    "printf \"NOUVA_IMPORT_RELATIONS:%s\\n\" \"$relations\""]

def buildRedisExternalBackupImportScript : String :=
  let total (field : String) := "$(printf \"%s\\n\" \"$keyspace\" | grep \"^db\" | " ++
    "cut -d \"=\" -f " ++ field ++ " | cut -d \",\" -f 1 | " ++
    "awk '\x7b total += $1 \x7d END \x7b printf \"%d\\n\", total \x7d')"
  joinLines ["set -eu", "mkdir -p \"$NOUVA_DATA_PATH\"",
    "cp \"$NOUVA_IMPORT_ARTIFACT\" \"$NOUVA_DATA_PATH/dump.rdb\"", restoredLine,
    "redis-server --port 6380 --bind 127.0.0.1 --dir \"$NOUVA_DATA_PATH\" --dbfilename dump.rdb " ++
      "--appendonly no --daemonize yes",
    "ready=0", "for i in $(seq 1 120); do",
    "  if redis-cli -h 127.0.0.1 -p 6380 PING 2>/dev/null | grep -q PONG; " ++
      "then ready=1; break; fi",
    "  sleep 1", "done", "if [ \"$ready\" != 1 ]; then",
    "  echo \"The destination Redis server did not load the imported snapshot\" >&2", "  exit 1",
    "fi", "keyspace=$(redis-cli -h 127.0.0.1 -p 6380 INFO keyspace | tr -d \"\\r\")",
    "keys=" ++ total "2", "volatile=" ++ total "3",
    "redis-cli -h 127.0.0.1 -p 6380 SHUTDOWN NOSAVE >/dev/null 2>&1 || true",
    "printf \"NOUVA_IMPORT_KEYS:%s\\n\" \"$keys\"",
    "printf \"NOUVA_IMPORT_VOLATILE_KEYS:%s\\n\" \"$volatile\""]

/-! What the fetch task reports. -/

def base64Value (c : Char) : Option ℕ :=
  if 'A' ≤ c ∧ c ≤ 'Z' then some (c.toNat - 'A'.toNat)
  else if 'a' ≤ c ∧ c ≤ 'z' then some (c.toNat - 'a'.toNat + 26)
  else if '0' ≤ c ∧ c ≤ '9' then some (c.toNat - '0'.toNat + 52)
  else if c = '+' ∨ c = '-' then some 62
  else if c = '/' ∨ c = '_' then some 63
  else none

def joinSextets : List ℕ → List UInt8
  | a :: b :: c :: d :: rest =>
    [UInt8.ofNat (a * 4 + b / 16), UInt8.ofNat (b % 16 * 16 + c / 4),
      UInt8.ofNat (c % 4 * 64 + d)] ++ joinSextets rest
  | [a, b, c] => [UInt8.ofNat (a * 4 + b / 16), UInt8.ofNat (b % 16 * 16 + c / 4)]
  | [a, b] => [UInt8.ofNat (a * 4 + b / 16)]
  | _ => []

/-- `Buffer.from(text, "base64")`: it ends at the padding, and skips what is no Base64. -/
def decodeBase64 (text : String) : List UInt8 :=
  joinSextets ((text.toList.takeWhile (· ≠ '=')).filterMap base64Value)

example : decodeBase64 "UkVESVMwMDEx" = [82, 69, 68, 73, 83, 48, 48, 49, 49] := by decide

def trimmedLogLine (logs head : String) : Option String :=
  present ((extractPrefixedLogLine logs head).map trim)

def readImportCount (logs head : String) : Option ℕ :=
  match trimmedLogLine logs head with
  | some raw =>
    if raw.toList.all Char.isDigit then
      (readDigits 10 raw.toList).filter fun n => isSafeInteger (some n)
    else none
  | none => none

def parseExternalBackupImportObservation (logs : String) :
    Except Rejection ExternalBackupArtifactObservation :=
  match trimmedLogLine logs "NOUVA_SHA256:", readImportCount logs "NOUVA_SIZE_BYTES:",
    trimmedLogLine logs "NOUVA_ARTIFACT_HEADER:" with
  | some sha256, some sizeBytes, some headerBase64 =>
    .ok { sha256 := utf16 sha256, sizeBytes := some sizeBytes
          headerSample := decodeBase64 headerBase64 }
  | _, _, _ => .error ⟨.integrityMismatch, units ("The artifact was downloaded without complete " ++
      "integrity evidence, so it cannot be verified")⟩

/-! The handler. -/

def inspectCandidates : List String → HostAction (Option String)
  | [] => pure none
  | candidate :: rest => do
    let inspection ← request (.inspectContainer candidate)
    match present (((inspection.bind DockerContainerInspection.config).bind
      ContainerConfig.image).map trim) with
    | some image => pure (some image)
    | none => inspectCandidates rest

def resolveAgentTaskImage (env : TextRecord) : HostAction String :=
  let read (name : String) := present ((env.lookup name).map trim)
  match (read "NOUVA_AGENT_IMAGE").or (read "NOUVA_AGENT_TARGET_IMAGE") with
  | some configured => pure configured
  | none => do
    let found ← inspectCandidates ([read "HOSTNAME", read "NOUVA_AGENT_CONTAINER_NAME",
      some "nouva-agent"].filterMap id).eraseDups
    pure (found.getD "ghcr.io/nouvalabs/nouva-agent:latest")

section

variable (payload : ImportExternalBackupPayload)

def helperPayload : HydratedHelperPayload :=
  { imageUrl := some payload.imageUrl, envVars := some payload.envVars
    containerArgs := some payload.containerArgs, mountPath := some payload.targetMountPath
    dataPath := some payload.dataPath }

def shortId : String := slice 12 payload.importId

def stageVolume : String := "nouva-import-stage-" ++ shortId payload

def buildImportStageVolumeLabels : TextRecord :=
  [("nouva.managed", "true"), ("nouva.resource", "import-stage"),
    ("nouva.import.id", payload.importId), ("nouva.service.id", payload.serviceId)]

def queued : QueuedImportExternalBackupPayload :=
  { importId := utf16 payload.importId, format := payload.format, variant := payload.variant
    version := utf16 payload.version, artifactSha256 := utf16 payload.artifactSha256
    artifactSizeBytes := some payload.artifactSizeBytes
    targetVolumeId := utf16 payload.targetVolumeId
    targetVolumeName := utf16 payload.targetVolumeName }

def fetchTask (agentTaskImage : String) : TaskContainerOptions :=
  { name := "nouva-import-fetch-" ++ shortId payload
    image := agentTaskImage
    env := buildArchiveDestinationEnv payload.destination payload.objectKey
    cmd := ["sh", "-c",
      buildExternalBackupImportFetchScript externalBackupImportHeaderSampleBytes]
    mounts := [⟨stageVolume payload, externalBackupImportStageTarget, false⟩]
    timeoutMs := some (60 * 60000) }

def restoreScript : String :=
  match payload.variant with
  | .postgres => buildPostgresExternalBackupImportScript
  | .redis => buildRedisExternalBackupImportScript

def restoreTask (spec : HelperSpec) : TaskContainerOptions :=
  { name := "nouva-import-restore-" ++ shortId payload
    image := spec.image
    env := spec.env ++ ["NOUVA_STAGED_RESTORE=1", "NOUVA_DATA_PATH=" ++ spec.dataPath,
      "NOUVA_IMPORT_ARTIFACT=" ++ externalBackupImportArtifactPath]
    entrypoint := some ["sh", "-c"]
    cmd := [restoreScript payload]
    mounts := [⟨payload.targetVolumeName, spec.mountPath, false⟩,
      ⟨stageVolume payload, "/nouva-import", true⟩]
    networkMode := some "none"
    timeoutMs := some (6 * 60 * 60000) }

def cleanupTask (agentTaskImage : String) : TaskContainerOptions :=
  { name := "nouva-import-cleanup-" ++ shortId payload
    image := agentTaskImage
    env := buildArchiveDestinationEnv payload.destination payload.objectKey
    cmd := ["sh", "-c",
      joinLines ["set -eu", remoteLine, "rclone deletefile \"$remote\" || true"]]
    timeoutMs := some (10 * 60000) }

def fetchRejection (failure : Failure) : Rejection :=
  ⟨.artifactMissing, utf16 ("The uploaded artifact could not be retrieved: " ++
    failure.message "unknown error")⟩

def restoreRejection (failure : Failure) : Rejection :=
  let message := failure.message "unknown error"
  ⟨if includesText externalBackupImportRestoredMarker message then .validationFailed
    else .restoreFailed, utf16 message⟩

def verifyFetched (fetchLogs : String) :
    Except Rejection (ExternalBackupArtifactObservation × Units) :=
  match parseExternalBackupImportObservation fetchLogs with
  | .error rejection => .error rejection
  | .ok observed =>
    match verifyExternalBackupArtifact
      ⟨payload.format, utf16 payload.artifactSha256, some payload.artifactSizeBytes⟩ observed
      ⟨payload.variant, utf16 payload.version⟩ with
    | .rejected rejection => .error rejection
    | .verified _ sourceEngineVersion => .ok (observed, sourceEngineVersion)

def importCounts (restoreLogs : String) : ImportCounts :=
  { relationCount := (readImportCount restoreLogs "NOUVA_IMPORT_RELATIONS:").getD 0
    keyCount := (readImportCount restoreLogs "NOUVA_IMPORT_KEYS:").getD 0
    volatileKeyCount := (readImportCount restoreLogs "NOUVA_IMPORT_VOLATILE_KEYS:").getD 0 }

def importResult (observed : ExternalBackupArtifactObservation) (sourceEngineVersion : Units)
    (restoreLogs : String) (validatedAt : ℤ) : ImportResult :=
  { volumeName := payload.targetVolumeName
    verifiedAt := toISOString validatedAt
    importProof := importProof (queued payload) observed sourceEngineVersion
      (importCounts restoreLogs) (utf16 (toISOString validatedAt)) }

end

structure PreparedImport where
  spec : HelperSpec
  agentTaskImage : String
  deriving DecidableEq, Repr

variable (host : DatabaseHost) (payload : ImportExternalBackupPayload)

def prepareImport (env : TextRecord) : HostAction PreparedImport := do
  let spec ← Method.ofExcept
    ((resolveHydratedHelperSpec (helperPayload payload)).mapError Failure.error)
  let agentTaskImage ← resolveAgentTaskImage env
  VolumeWipe.removeVolume (stageVolume payload) true
  request (.createVolume (stageVolume payload) (buildImportStageVolumeLabels payload))
  pure ⟨spec, agentTaskImage⟩

def createTargetVolume : HostAction Unit :=
  request (.createVolume payload.targetVolumeName (buildManagedVolumeLabels payload.targetVolumeId
    (some payload.projectId) (some payload.serviceId)))

def importArtifact (prepared : PreparedImport) : ImportAction ImportResult := do
  let fetchLogs ← Method.mapThrown (fun e => .importError (fetchRejection e))
    (runTaskContainerForLogs host (fetchTask payload prepared.agentTaskImage))
  let (observed, sourceEngineVersion) ← Method.ofExcept
    ((verifyFetched payload fetchLogs).mapError ImportFailure.importError)
  Method.mapThrown .other (createTargetVolume payload)
  let restoreLogs ← Method.mapThrown (fun e => .importError (restoreRejection e))
    (runTaskContainerForLogs host (restoreTask payload prepared.spec))
  let validatedAt ← Method.mapThrown .other now
  pure (importResult payload observed sourceEngineVersion restoreLogs validatedAt)

/-- The `finally` block; what becomes of the deletion is only logged. -/
def cleanUpImport (prepared : PreparedImport) : HostAction Unit := do
  VolumeWipe.removeVolume (stageVolume payload) true
  let _ ← Method.settle
    (runTaskContainerForLogs host (cleanupTask payload prepared.agentTaskImage))
  pure ()

def importStaged (prepared : PreparedImport) : ImportAction ImportResult :=
  Method.finally_ (importArtifact host payload prepared)
    (Method.mapThrown .other (cleanUpImport host payload prepared))

def handleImportExternalBackup (env : TextRecord) : ImportAction ImportResult := do
  let prepared ← Method.mapThrown .other (prepareImport payload env)
  importStaged host payload prepared

end ExternalBackupImport

end NouvaAgent
