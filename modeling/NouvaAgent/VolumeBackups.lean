import NouvaAgent.DatabaseHealth
import NouvaAgent.ExternalBackupImport
import NouvaAgent.PgBackrestBackups

namespace NouvaAgent

open Text Interaction Host HelperTasks

inductive VolumeBackupEngine
  | pgbackrest
  | snapshot
  deriving DecidableEq, Repr

structure VolumeBackupPayload extends CreateVolumeBackupPayload where
  engine : VolumeBackupEngine
  variant : DatabaseEngine
  serviceId : String
  destination : PlatformBackupDestination
  credentials : TextRecord
  runtimeMetadata : Option RuntimeMetadata

structure RestoreVolumeBackupPayload where
  engine : VolumeBackupEngine
  variant : DatabaseEngine
  projectId : String
  serviceId : String
  backupId : String
  targetVolumeId : String
  targetVolumeName : String
  targetMountPath : String
  backupCompletedAt : Option String
  pgbackrestSet : Option String
  expectedObjectKey : String
  artifactFormat : String
  artifactSha256 : Option String
  destination : PlatformBackupDestination
  imageUrl : Option String
  envVars : Option TextRecord
  containerArgs : Option (List String)
  dataPath : Option String

structure RestorePostgresPitrPayload extends DatabaseProvisionPayload where
  restoreTarget : String
  sourcePgbackrestSet : Option String

structure DeleteVolumeBackupPayload where
  engine : VolumeBackupEngine
  projectId : String
  volumeId : String
  backupId : String
  destination : PlatformBackupDestination

structure ExpireVolumeBackupRepositoryPayload where
  volumeId : String
  imageUrl : Option String
  envVars : TextRecord

structure ArchiveEvidence where
  sizeBytes : ℚ
  artifactSha256 : String
  deriving DecidableEq, Repr

structure ArchiveIntegrityProof extends ArchiveEvidence where
  version : ℕ := 1
  engine : String
  backupId : String
  objectKey : String
  artifactFormat : String
  sourceMode : Option String := none
  checks : List String
  deriving DecidableEq, Repr

structure ArchiveBackupResult extends ArchiveEvidence where
  objectKey : String
  artifactFormat : String
  verifiedAt : String
  integrityProof : ArchiveIntegrityProof
  deriving DecidableEq, Repr

inductive VolumeBackupResult
  | pgbackrest (result : PgBackrestBackupResult)
  | archive (result : ArchiveBackupResult)
  deriving DecidableEq, Repr

structure RestoreProof where
  version : ℕ := 1
  backupId : String
  targetVolumeId : String
  targetVolumeName : String
  validationMethod : String
  isolatedDatabaseStarted : Bool := true
  validatedAt : String
  deriving DecidableEq, Repr

structure RestoreResult where
  volumeName : String
  verifiedAt : String
  restoreProof : RestoreProof
  deriving DecidableEq, Repr

namespace VolumeBackups

open ExternalBackupImport (buildArchiveDestinationEnv remoteLine resolveAgentTaskImage)

/-! The scripts of the tasks. -/

def manifestLine (fields arguments : String) : String :=
  "printf '\x7b\"version\":1,\"backupId\":\"%s\",\"artifactFormat\":\"" ++ fields ++
    "\"\x7d\\n' \"$NOUVA_BACKUP_ID\" " ++ arguments ++ "> \"$work_dir/manifest.json\""

/-- The script that makes an archive, uploads it and checks it: `dump` leaves the archive, `checks`
look at what was downloaded again, and `evidence` is printed last. -/
def archiveBackupScript (engine : String) (dump checks evidence : List String) : String :=
  joinLines (["set -eu", remoteLine, "work_dir=$(mktemp -d)",
    "archive=\"/tmp/nouva-" ++ engine ++ "-backup.tar.gz\"",
    "download=\"/tmp/nouva-" ++ engine ++ "-backup.download.tar.gz\"", "uploaded=0",
    "cleanup() \x7b rm -rf \"$work_dir\" \"$archive\" \"$download\"; if [ \"$uploaded\" " ++
      "= 1 ] && [ \"$\x7bNOUVA_BACKUP_OK:-0\x7d\" != 1 ]; then rclone deletefile " ++
      "\"$remote\" || true; fi; \x7d", "trap cleanup EXIT INT TERM"] ++ dump ++
    ["sha256=$(sha256sum \"$archive\" | cut -d \" \" -f 1)",
    "size_bytes=$(wc -c < \"$archive\" | tr -d \" \")", "rclone copyto \"$archive\" \"$remote\"",
    "uploaded=1", "rclone copyto \"$remote\" \"$download\"",
    "download_sha256=$(sha256sum \"$download\" | cut -d \" \" -f 1)",
    "test \"$sha256\" = \"$download_sha256\"", "mkdir \"$work_dir/restore\"",
    "tar -C \"$work_dir/restore\" -xzf \"$download\"",
    "test \"$(find \"$work_dir/restore\" -mindepth 1 -maxdepth 1 -type f | wc -l | tr -d " ++
      "\" \")\" = 2"] ++ checks ++
    ["printf \"NOUVA_SIZE_BYTES:%s\\n\" \"$size_bytes\"",
    "printf \"NOUVA_SHA256:%s\\n\" \"$sha256\""] ++ evidence ++ ["NOUVA_BACKUP_OK=1"])

def mongoBackupScript : String := archiveBackupScript "mongodb"
  ["mongodump --host 127.0.0.1 --port 27017 --username \"$MONGODB_USERNAME\" --password " ++
      "\"$MONGODB_PASSWORD\" --authenticationDatabase admin " ++
      "--archive=\"$work_dir/dump.archive.gz\" --gzip --quiet",
    manifestLine "mongodb-archive-tar-v1" "",
    "tar -C \"$work_dir\" -czf \"$archive\" manifest.json dump.archive.gz"]
  ["mongorestore --host 127.0.0.1 --port 27017 --username \"$MONGODB_USERNAME\" " ++
      "--password \"$MONGODB_PASSWORD\" --authenticationDatabase admin " ++
      "--archive=\"$work_dir/restore/dump.archive.gz\" --gzip --dryRun --quiet"]
  []

def mysqlBackupScript : String := archiveBackupScript "mysql"
  ["test -s /stage/dump.sql", "gzip -c /stage/dump.sql > \"$work_dir/dump.sql.gz\"",
    manifestLine "mysql-dump-tar-v1" "",
    "tar -C \"$work_dir\" -czf \"$archive\" manifest.json dump.sql.gz"]
  ["gzip -t \"$work_dir/restore/dump.sql.gz\"",
    "gzip -dc \"$work_dir/restore/dump.sql.gz\" | tail -n 1 | grep -q \"Dump completed\""]
  []

def redisBackupScript : String := archiveBackupScript "redis"
  ["appendonly=$(redis-cli -h 127.0.0.1 --raw CONFIG GET appendonly | tail -n 1)",
    "save=$(redis-cli -h 127.0.0.1 --raw CONFIG GET save | tail -n 1)",
    "if [ \"$appendonly\" = yes ] && [ -n \"$save\" ]; then source_mode=mixed; elif [ " ++
      "\"$appendonly\" = yes ]; then source_mode=aof; elif [ -n \"$save\" ]; then " ++
      "source_mode=rdb; else source_mode=none; fi",
    "redis-cli -h 127.0.0.1 --rdb \"$work_dir/dump.rdb\"", "redis-check-rdb \"$work_dir/dump.rdb\"",
    manifestLine "redis-rdb-tar-v1\",\"sourceMode\":\"%s" "\"$source_mode\" ",
    "tar -C \"$work_dir\" -czf \"$archive\" manifest.json dump.rdb"]
  ["redis-check-rdb \"$work_dir/restore/dump.rdb\"",
    "redis-server --port 6380 --bind 127.0.0.1 --dir \"$work_dir/restore\" --dbfilename " ++
      "dump.rdb --appendonly no --daemonize yes",
    "for i in $(seq 1 30); do redis-cli -h 127.0.0.1 -p 6380 PING | grep -q PONG && " ++
      "break; sleep 1; test \"$i\" -lt 30; done",
    "if [ \"$source_mode\" = aof ] || [ \"$source_mode\" = mixed ]; then redis-cli -h " ++
      "127.0.0.1 -p 6380 CONFIG SET appendonly yes >/dev/null; redis-cli -h 127.0.0.1 -p " ++
      "6380 BGREWRITEAOF >/dev/null; for i in $(seq 1 60); do state=$(redis-cli -h " ++
      "127.0.0.1 -p 6380 --raw INFO persistence | sed -n " ++
      "\"s/^aof_rewrite_in_progress:\\([01]\\).*/\\1/p\" | tr -d \"\\r\"); test \"$state\" " ++
      "= 0 && break; sleep 1; test \"$i\" -lt 60; done; fi",
    "redis-cli -h 127.0.0.1 -p 6380 SHUTDOWN NOSAVE || true"]
  ["printf \"NOUVA_REDIS_SOURCE_MODE:%s\\n\" \"$source_mode\""]

def buildMysqlDumpScript : String := joinLines [
  "set -eu",
  "schemas=$(mysql -h127.0.0.1 -P3306 -uroot --protocol=tcp -N -e \"SELECT schema_name " ++
    "FROM information_schema.schemata WHERE schema_name NOT IN " ++
    "('mysql','information_schema','performance_schema','sys')\")", "test -n \"$schemas\"",
  "mysqldump -h127.0.0.1 -P3306 -uroot --protocol=tcp --single-transaction --routines " ++
    "--events --triggers --set-gtid-purged=OFF --databases $schemas > /stage/dump.sql",
  "test -s /stage/dump.sql"]

def buildMysqlRestoreReplayScript : String := joinLines [
  "set -eu", "test -n \"$MYSQL_ROOT_PASSWORD\"", "test -n \"$MYSQL_DATABASE\"",
  "docker-entrypoint.sh mysqld &", "pid=$!", "ready=0", "i=0", "while [ \"$i\" -lt 1500 ]; do",
  "  if ! kill -0 \"$pid\" 2>/dev/null; then echo \"mysqld exited before the restore " ++
    "replay completed\" >&2; exit 1; fi",
  "  if MYSQL_PWD=\"$MYSQL_ROOT_PASSWORD\" mysqladmin -h127.0.0.1 -P3306 -uroot " ++
    "--protocol=tcp ping >/dev/null 2>&1; then ready=1; break; fi", "  i=$((i + 1))", "  sleep 1",
  "done", "test \"$ready\" = 1",
  "schema_count=$(MYSQL_PWD=\"$MYSQL_ROOT_PASSWORD\" mysql -h127.0.0.1 -P3306 -uroot " ++
    "--protocol=tcp -N -e \"SELECT COUNT(*) FROM information_schema.schemata WHERE " ++
    "schema_name = '$MYSQL_DATABASE'\")", "test \"$schema_count\" = 1",
  "MYSQL_PWD=\"$MYSQL_ROOT_PASSWORD\" mysqladmin -h127.0.0.1 -P3306 -uroot " ++
    "--protocol=tcp shutdown", "wait \"$pid\"", "printf \"NOUVA_MYSQL_RESTORE_VALIDATED:1\\n\""]

def archiveRestoreScript (file : String) (before restore : List String) : String :=
  joinLines (["set -eu", remoteLine, "archive=\"/tmp/nouva-volume-backup.tar.gz\""] ++ before ++
    ["rclone copyto \"$remote\" \"$archive\"",
    "actual_sha256=$(sha256sum \"$archive\" | cut -d \" \" -f 1)",
    "if [ -n \"$EXPECTED_SHA256\" ]; then test \"$actual_sha256\" = \"$EXPECTED_SHA256\"; fi",
    "entries=$(tar -tzf \"$archive\")",
    "test \"$(printf \"%s\\n\" \"$entries\" | wc -l | tr -d \" \")\" = 2",
    "printf \"%s\\n\" \"$entries\" | grep -qx \"manifest.json\"",
    "printf \"%s\\n\" \"$entries\" | grep -qx \"" ++ file ++ "\""] ++ restore ++
    ["printf \"NOUVA_SHA256:%s\\n\" \"$actual_sha256\""])

def mysqlFetchScript : String := archiveRestoreScript "dump.sql.gz" []
  ["tar -C /stage -xzf \"$archive\" dump.sql.gz", "gzip -t /stage/dump.sql.gz"]

def redisRestoreScript : String := archiveRestoreScript "dump.rdb" ["mkdir -p /target"]
  ["tar -C /target -xzf \"$archive\" dump.rdb", "redis-check-rdb /target/dump.rdb",
    "redis-server --port 6380 --bind 127.0.0.1 --dir /target --dbfilename dump.rdb " ++
      "--appendonly no --daemonize yes",
    "for i in $(seq 1 30); do redis-cli -h 127.0.0.1 -p 6380 PING | grep -q PONG && " ++
      "break; sleep 1; test \"$i\" -lt 30; done",
    "redis-cli -h 127.0.0.1 -p 6380 SHUTDOWN NOSAVE || true"]

def buildPgBackrestRestoreAndPromoteScript : String := joinLines [
  "set -eu",
  "mkdir -p \"$NOUVA_DATA_PATH\" \"$\x7bPOSTGRES_SOCKET_DIR:-/var/lib/postgresql/.so" ++
    "ckets\x7d\" /var/run/postgresql", "chown -R 999:999 \"$NOUVA_DATA_PATH\" || true",
  "if [ -x /nouva/generate_config.sh ]; then /nouva/generate_config.sh; fi",
  "case \"$\x7bRESTORE_TYPE:-time\x7d\" in", "  immediate)",
  "    if [ -z \"$\x7bRESTORE_SET:-\x7d\" ]; then echo \"Immediate restore requires " ++
    "RESTORE_SET\" >&2; exit 1; fi",
  "    pgbackrest --stanza=\"$PGBACKREST_STANZA\" --set=\"$RESTORE_SET\" --delta " ++
    "--type=immediate --target-action=promote --log-level-console=info restore", "    ;;",
  "  time)",
  "    if [ -z \"$\x7bRESTORE_TARGET:-\x7d\" ]; then echo \"Time restore requires " ++
    "RESTORE_TARGET\" >&2; exit 1; fi", "    if [ -n \"$\x7bRESTORE_SET:-\x7d\" ]; then",
  "      pgbackrest --stanza=\"$PGBACKREST_STANZA\" --set=\"$RESTORE_SET\" --delta " ++
    "--type=time --target=\"$RESTORE_TARGET\" --target-timeline=current " ++
    "--target-action=promote --log-level-console=info restore", "    else",
  "      pgbackrest --stanza=\"$PGBACKREST_STANZA\" --delta --type=time " ++
    "--target=\"$RESTORE_TARGET\" --target-timeline=current --target-action=promote " ++
    "--log-level-console=info restore", "    fi", "    ;;", "  *)",
  "    echo \"Unsupported RESTORE_TYPE: $RESTORE_TYPE\" >&2", "    exit 1", "    ;;", "esac",
  "export PGHOST=\"$\x7bPOSTGRES_SOCKET_DIR:-/var/lib/postgresql/.sockets\x7d\"",
  "export PGPORT=\"$\x7bPOSTGRES_PORT:-5433\x7d\"",
  "export NOUVA_PROMOTE_DB=\"$\x7bPOSTGRES_DB:-postgres\x7d\"",
  "export NOUVA_PROMOTE_USER=\"$\x7bPOSTGRES_USER:-postgres\x7d\"",
  "if [ -n \"$\x7bPOSTGRES_PASSWORD:-\x7d\" ]; then export " ++
    "PGPASSWORD=\"$\x7bPOSTGRES_PASSWORD\x7d\"; fi", "/nouva/entrypoint.sh &",
  "entrypoint_pid=\"$!\"", "cleanup() \x7b", "  if kill -0 \"$entrypoint_pid\" 2>/dev/null; then",
  "    kill -TERM \"$entrypoint_pid\" || true", "    wait \"$entrypoint_pid\" || true", "  fi",
  "\x7d", "trap cleanup EXIT INT TERM", "for i in $(seq 1 180); do",
  "  recovery_state=$(psql -h \"$PGHOST\" -p \"$PGPORT\" -U \"$NOUVA_PROMOTE_USER\" -d " ++
    "\"$NOUVA_PROMOTE_DB\" -Atqc \"select case when pg_is_in_recovery() then 't' else " ++
    "'f' end\" 2>/dev/null || true)", "  if [ \"$recovery_state\" = \"f\" ]; then",
  "    psql -h \"$PGHOST\" -p \"$PGPORT\" -U \"$NOUVA_PROMOTE_USER\" -d " ++
    "\"$NOUVA_PROMOTE_DB\" -c \"checkpoint\" >/dev/null 2>&1 || true", "    exit 0", "  fi",
  "  if ! kill -0 \"$entrypoint_pid\" 2>/dev/null; then", "    wait \"$entrypoint_pid\"", "  fi",
  "  sleep 1", "  if [ \"$i\" -eq 180 ]; then",
  "    echo \"Restored Postgres did not promote within 180 seconds\" >&2", "    exit 1", "  fi",
  "done"]

def expireScript : String := joinLines [
  "set -eu", "if [ -x /nouva/generate_config.sh ]; then /nouva/generate_config.sh; fi",
  "pgbackrest --stanza=\"$PGBACKREST_STANZA\" --log-level-console=info expire",
  "if info_output=$(pgbackrest --stanza=\"$PGBACKREST_STANZA\" --output=json info " ++
    "2>/dev/null); then",
  "  printf 'NOUVA_PGBACKREST_INFO:%s\\n' \"$(printf '%s' \"$info_output\" | tr -d '\\n')\"", "fi"]

/-! Backups. -/

section

variable (payload : VolumeBackupPayload)

def shortId : String := slice 12 payload.backupId

def runtimeContainer : Option String :=
  present ((payload.runtimeMetadata.bind RuntimeMetadata.containerId).or
    (payload.runtimeMetadata.bind RuntimeMetadata.containerName))

def requireRuntime (name : String) : Except String String :=
  match runtimeContainer payload with
  | some container => .ok container
  | none => .error
      (name ++ " backup requires the authoritative live runtime container identity")

def archiveTask (agentTaskImage script : String) (env : List String)
    (mounts : List ContainerSpecMount) (networkMode : Option String) : TaskContainerOptions :=
  { name := "nouva-backup-" ++ shortId payload
    image := agentTaskImage
    env := buildArchiveDestinationEnv payload.destination payload.expectedObjectKey ++
      ["NOUVA_BACKUP_ID=" ++ payload.backupId] ++ env
    cmd := ["sh", "-c", script]
    mounts
    networkMode
    timeoutMs := some (30 * 60000) }

@[irreducible] def readArchiveEvidence (logs : String) : Option ArchiveEvidence := do
  let exact ← DatabaseHealth.parseInt
    ((extractPrefixedLogLine logs "NOUVA_SIZE_BYTES:").getD "")
  let sizeBytes ← toDouble exact
  let artifactSha256 ← present (extractPrefixedLogLine logs "NOUVA_SHA256:")
  some ⟨sizeBytes, artifactSha256⟩

@[irreducible] def readRedisEvidence (logs : String) : Option (ArchiveEvidence × String) := do
  let evidence ← readArchiveEvidence logs
  let sourceMode ← present (extractPrefixedLogLine logs "NOUVA_REDIS_SOURCE_MODE:")
  some (evidence, sourceMode)

def requireEvidence {α : Type} (name : String) : Option α → Except String α
  | some evidence => .ok evidence
  | none => .error (name ++ " backup did not return complete integrity evidence")

def archiveResult (engine format : String) (checks : List String) (sourceMode : Option String)
    (evidence : ArchiveEvidence) (verifiedAt : ℤ) : ArchiveBackupResult :=
  { evidence with
    objectKey := payload.expectedObjectKey
    artifactFormat := payload.artifactFormat
    verifiedAt := toISOString verifiedAt
    integrityProof :=
      { evidence with
        engine
        backupId := payload.backupId
        objectKey := payload.expectedObjectKey
        artifactFormat := format
        sourceMode
        checks } }

structure MongoBackup where
  runtimeContainer : String
  username : String
  password : String
  deriving DecidableEq, Repr

def prepareMongoBackup : Except String MongoBackup := do
  if payload.artifactFormat ≠ "mongodb-archive-tar-v1" then
    .error "MongoDB backup requires mongodb-archive-tar-v1 artifacts"
  else
    let runtimeContainer ← requireRuntime payload "MongoDB"
    match present ((payload.credentials.lookup "username").map trim),
      present (payload.credentials.lookup "password") with
    | some username, some password => .ok ⟨runtimeContainer, username, password⟩
    | _, _ => .error "MongoDB backup requires service credentials"

def mongoTask (backup : MongoBackup) (agentTaskImage : String) : TaskContainerOptions :=
  archiveTask payload agentTaskImage mongoBackupScript
    ["MONGODB_USERNAME=" ++ backup.username, "MONGODB_PASSWORD=" ++ backup.password] []
    (some ("container:" ++ backup.runtimeContainer))

structure MysqlBackup where
  runtimeContainer : String
  rootPassword : String
  serviceImage : String
  deriving DecidableEq, Repr

def prepareMysqlBackup : Except String MysqlBackup := do
  if payload.artifactFormat ≠ "mysql-dump-tar-v1" then
    .error "MySQL backup requires mysql-dump-tar-v1 artifacts"
  else
    let runtimeContainer ← requireRuntime payload "MySQL"
    match present (payload.credentials.lookup "password") with
    | none => .error "MySQL backup requires service credentials"
    | some rootPassword =>
      match present (payload.imageUrl.map trim) with
      | some serviceImage => .ok ⟨runtimeContainer, rootPassword, serviceImage⟩
      | none => .error "MySQL backup requires the hydrated service image reference"

def backupStageVolume : String := "nouva-backup-stage-" ++ shortId payload

def buildBackupStageVolumeLabels (kind backupId serviceId : String) : TextRecord :=
  [("nouva.managed", "true"), ("nouva.resource", kind), ("nouva.backup.id", backupId),
    ("nouva.service.id", serviceId)]

def backupStageLabels : TextRecord :=
  buildBackupStageVolumeLabels "backup-stage" payload.backupId payload.serviceId

def mysqlDumpTask (backup : MysqlBackup) : TaskContainerOptions :=
  { name := "nouva-backup-dump-" ++ shortId payload
    image := backup.serviceImage
    env := ["MYSQL_PWD=" ++ backup.rootPassword]
    entrypoint := some ["sh", "-c"]
    cmd := [buildMysqlDumpScript]
    mounts := [⟨backupStageVolume payload, "/stage", false⟩]
    networkMode := some ("container:" ++ backup.runtimeContainer)
    timeoutMs := some (30 * 60000) }

def mysqlUploadTask (agentTaskImage : String) : TaskContainerOptions :=
  archiveTask payload agentTaskImage mysqlBackupScript []
    [⟨backupStageVolume payload, "/stage", true⟩] none

def redisTask (container agentTaskImage : String) : TaskContainerOptions :=
  archiveTask payload agentTaskImage redisBackupScript
    ["REDISCLI_AUTH=" ++ (payload.credentials.lookup "password").getD ""] []
    (some ("container:" ++ container))

end

/-- A volume that is there for as long as `body` runs. -/
def withStageVolume {α : Type} (name : String) (labels : TextRecord) (body : HostAction α) :
    HostAction α := do
  VolumeWipe.removeVolume name true
  request (.createVolume name labels)
  Method.finally_ body (VolumeWipe.removeVolume name true)

section

variable (host : DatabaseHost) (env : TextRecord) (payload : VolumeBackupPayload)

def completeArchive (name engine format : String) (checks : List String)
    (evidence : Option (ArchiveEvidence × Option String)) : HostAction ArchiveBackupResult := do
  let (evidence, sourceMode) ← Method.ofExcept
    ((requireEvidence name evidence).mapError Failure.error)
  let verifiedAt ← now
  pure (archiveResult payload engine format checks sourceMode evidence verifiedAt)

def handleCreateMongoArchiveBackup : HostAction ArchiveBackupResult := do
  let backup ← Method.ofExcept ((prepareMongoBackup payload).mapError Failure.error)
  let agentTaskImage ← resolveAgentTaskImage env
  let logs ← runTaskContainerForLogs host (mongoTask payload backup agentTaskImage)
  completeArchive payload "MongoDB" "mongodb" "mongodb-archive-tar-v1"
    ["mongodumpSucceeded", "mongorestoreDryRun", "uploadChecksumVerified"]
    ((readArchiveEvidence logs).map (·, none))

def handleCreateMysqlDumpBackup : HostAction ArchiveBackupResult := do
  let backup ← Method.ofExcept ((prepareMysqlBackup payload).mapError Failure.error)
  let agentTaskImage ← resolveAgentTaskImage env
  let logs ← withStageVolume (backupStageVolume payload) (backupStageLabels payload) do
    let _ ← runTaskContainerForLogs host (mysqlDumpTask payload backup)
    runTaskContainerForLogs host (mysqlUploadTask payload agentTaskImage)
  completeArchive payload "MySQL" "mysql" "mysql-dump-tar-v1"
    ["mysqldumpSucceeded", "dumpCompletedMarkerVerified", "uploadChecksumVerified"]
    ((readArchiveEvidence logs).map (·, none))

def handleCreateRedisBackup : HostAction ArchiveBackupResult := do
  let container ← Method.ofExcept ((requireRuntime payload "Redis").mapError Failure.error)
  let agentTaskImage ← resolveAgentTaskImage env
  let logs ← runTaskContainerForLogs host (redisTask payload container agentTaskImage)
  completeArchive payload "Redis" "redis" "redis-rdb-tar-v1"
    ["redisCheckRdb", "uploadChecksumVerified", "isolatedRestoreVerified"]
    ((readRedisEvidence logs).map fun (evidence, sourceMode) => (evidence, some sourceMode))

def handleCreateArchiveBackup : HostAction ArchiveBackupResult :=
  match payload.variant with
  | .mongodb => handleCreateMongoArchiveBackup host env payload
  | .mysql => handleCreateMysqlDumpBackup host env payload
  | .redis => handleCreateRedisBackup host env payload
  | .postgres => throw (.error
      ("Database-native snapshot backups do not support " ++ payload.variant.text))

def handleCreateVolumeBackup (engine : EngineErrors) : HostAction VolumeBackupResult :=
  match payload.engine with
  | .pgbackrest => do
    let result ← PgBackrestBackups.handleCreatePgBackrestBackup engine host
      payload.toCreateVolumeBackupPayload
    pure (.pgbackrest result)
  | .snapshot => do
    let result ← handleCreateArchiveBackup host env payload
    pure (.archive result)

end

/-! What is done with the backups that there are. -/

section

variable (host : DatabaseHost) (env : TextRecord)

def deleteTask (payload : DeleteVolumeBackupPayload) (agentTaskImage : String) :
    TaskContainerOptions :=
  { name := "nouva-delete-backup-" ++ slice 12 payload.backupId
    image := agentTaskImage
    env := buildArchiveDestinationEnv payload.destination
      ("archives/v1/projects/" ++ payload.projectId ++ "/volumes/" ++ payload.volumeId ++
        "/backups/" ++ payload.backupId ++ ".tar.gz")
    cmd := ["sh", "-c",
      joinLines ["set -eu", remoteLine, "rclone deletefile \"$remote\" || true"]]
    timeoutMs := some (10 * 60000) }

def handleDeleteVolumeBackup (payload : DeleteVolumeBackupPayload) : HostAction Unit :=
  match payload.engine with
  | .pgbackrest => pure ()
  | .snapshot => do
    let agentTaskImage ← resolveAgentTaskImage env
    let _ ← runTaskContainerForLogs host (deleteTask payload agentTaskImage)
    pure ()

def expireTask (payload : ExpireVolumeBackupRepositoryPayload) : TaskContainerOptions :=
  { name := "nouva-pgbackrest-expire-" ++ slice 12 payload.volumeId
    image := payload.imageUrl.getD "postgres:17"
    env := payload.envVars.map fun entry => entry.1 ++ "=" ++ entry.2
    entrypoint := some ["sh", "-c"]
    cmd := [expireScript]
    timeoutMs := some (30 * 60000) }

def handleExpireVolumeBackupRepository (engine : EngineErrors)
    (payload : ExpireVolumeBackupRepositoryPayload) : HostAction (List Units) := do
  let logs ← runTaskContainerForLogs host (expireTask payload)
  let entries ← Method.ofExcept ((PgBackrestBackups.readInfo
    (PgBackrestInfo.parsePgBackrestInfo engine) logs).mapError Failure.error)
  pure (entries.map PgBackrestInfoBackup.label)

end

/-! Restores. -/

section

variable (payload : RestoreVolumeBackupPayload)

def restoreHelper : HydratedHelperPayload :=
  { imageUrl := payload.imageUrl, envVars := payload.envVars, containerArgs := payload.containerArgs
    mountPath := some payload.targetMountPath, dataPath := payload.dataPath }

def restoreResult (validationMethod : String) (verifiedAt validatedAt : ℤ) : RestoreResult :=
  { volumeName := payload.targetVolumeName
    verifiedAt := toISOString verifiedAt
    restoreProof :=
      { backupId := payload.backupId
        targetVolumeId := payload.targetVolumeId
        targetVolumeName := payload.targetVolumeName
        validationMethod
        validatedAt := toISOString validatedAt } }

def targetLabels : TextRecord :=
  buildManagedVolumeLabels payload.targetVolumeId (some payload.projectId) (some payload.serviceId)

def restoreStageVolume : String := "nouva-restore-stage-" ++ slice 12 payload.backupId

def restoreStageLabels : TextRecord :=
  buildBackupStageVolumeLabels "restore-stage" payload.backupId payload.serviceId

def fetchEnv : List String :=
  buildArchiveDestinationEnv payload.destination payload.expectedObjectKey ++
    ["EXPECTED_SHA256=" ++ payload.artifactSha256.getD ""]

def mysqlFetchTask (agentTaskImage : String) : TaskContainerOptions :=
  { name := "nouva-restore-fetch-" ++ slice 12 payload.backupId
    image := agentTaskImage
    env := fetchEnv payload
    cmd := ["sh", "-c", mysqlFetchScript]
    mounts := [⟨restoreStageVolume payload, "/stage", false⟩]
    timeoutMs := some (30 * 60000) }

def mysqlReplayTask (spec : HelperSpec) : TaskContainerOptions :=
  { name := "nouva-restore-replay-" ++ slice 12 payload.backupId
    image := spec.image
    env := spec.env
    entrypoint := some ["sh", "-c"]
    cmd := [buildMysqlRestoreReplayScript]
    mounts := [⟨payload.targetVolumeName, spec.mountPath, false⟩,
      ⟨restoreStageVolume payload, "/docker-entrypoint-initdb.d", true⟩]
    timeoutMs := some (30 * 60000) }

def redisRestoreTask (agentTaskImage : String) : TaskContainerOptions :=
  { name := "nouva-restore-backup-" ++ slice 12 payload.backupId
    image := agentTaskImage
    env := fetchEnv payload
    cmd := ["sh", "-c", redisRestoreScript]
    mounts := [⟨payload.targetVolumeName, "/target", false⟩]
    timeoutMs := some (30 * 60000) }

def pgBackrestRestoreTask (spec : HelperSpec) : TaskContainerOptions :=
  { name := "nouva-pgbackrest-restore-" ++ slice 12 payload.targetVolumeId
    image := spec.image
    env := spec.env ++
      ["RESTORE_TYPE=" ++ (if (present payload.pgbackrestSet).isSome then "immediate" else "time"),
        "RESTORE_TARGET=" ++ payload.backupCompletedAt.getD "",
        "RESTORE_SET=" ++ payload.pgbackrestSet.getD "", "NOUVA_STAGED_RESTORE=1",
        "NOUVA_DATA_PATH=" ++ spec.dataPath]
    entrypoint := some ["sh", "-c"]
    cmd := [buildPgBackrestRestoreAndPromoteScript]
    mounts := [⟨payload.targetVolumeName, spec.mountPath, false⟩]
    timeoutMs := some (30 * 60000) }

def prepareMysqlRestore : Except String HelperSpec := do
  if payload.artifactFormat ≠ "mysql-dump-tar-v1" then
    .error "MySQL restore requires mysql-dump-tar-v1 artifacts"
  else
    let spec ← resolveHydratedHelperSpec (restoreHelper payload)
    if present (spec.envVars.lookup "MYSQL_ROOT_PASSWORD") = none ∨
        present (spec.envVars.lookup "MYSQL_DATABASE") = none then
      .error "MySQL restore requires MYSQL_ROOT_PASSWORD and MYSQL_DATABASE init variables"
    else .ok spec

def preparePgBackrestRestore : Except String HelperSpec :=
  if present payload.pgbackrestSet = none ∧ present payload.backupCompletedAt = none then
    .error "Backup restore is missing both pgbackrestSet and backupCompletedAt"
  else resolveHydratedHelperSpec (restoreHelper payload)

end

section

variable (host : DatabaseHost) (env : TextRecord) (payload : RestoreVolumeBackupPayload)

def createTarget : HostAction Unit :=
  request (.createVolume payload.targetVolumeName (targetLabels payload))

def completeRestore (validationMethod : String) : HostAction RestoreResult := do
  let verifiedAt ← now
  let validatedAt ← now
  pure (restoreResult payload validationMethod verifiedAt validatedAt)

def handleRestoreMysqlDumpBackup : HostAction RestoreResult := do
  let spec ← Method.ofExcept ((prepareMysqlRestore payload).mapError Failure.error)
  let agentTaskImage ← resolveAgentTaskImage env
  createTarget payload
  withStageVolume (restoreStageVolume payload) (restoreStageLabels payload) do
    let _ ← runTaskContainerForLogs host (mysqlFetchTask payload agentTaskImage)
    let _ ← runTaskContainerForLogs host (mysqlReplayTask payload spec)
    pure ()
  completeRestore payload "mysql-startup-sql-read"

def handleRestoreRedisBackup : HostAction RestoreResult := do
  let agentTaskImage ← resolveAgentTaskImage env
  createTarget payload
  let _ ← runTaskContainerForLogs host (redisRestoreTask payload agentTaskImage)
  completeRestore payload "redis-load-ping"

def handleRestoreArchiveBackup : HostAction RestoreResult :=
  match payload.variant with
  | .mysql => handleRestoreMysqlDumpBackup host env payload
  | .redis => handleRestoreRedisBackup host env payload
  | _ => throw (.error
      ("Database-native snapshot restore does not support " ++ payload.variant.text))

def handleRestorePgBackrestBackup : HostAction RestoreResult := do
  let spec ← Method.ofExcept ((preparePgBackrestRestore payload).mapError Failure.error)
  createTarget payload
  let _ ← runTaskContainerForLogs host (pgBackrestRestoreTask payload spec)
  completeRestore payload "postgres-startup-sql-read"

def handleRestoreVolumeBackup : HostAction RestoreResult :=
  match payload.engine with
  | .pgbackrest => handleRestorePgBackrestBackup host payload
  | .snapshot => handleRestoreArchiveBackup host env payload

end

section

variable (host : DatabaseHost) (payload : RestorePostgresPitrPayload)

def pitrTask (spec : ResolvedDatabaseProvisionSpec) : TaskContainerOptions :=
  { name := "nouva-pgbackrest-pitr-" ++ slice 12 payload.serviceId
    image := spec.image
    env := spec.envVars.map (fun entry => entry.1 ++ "=" ++ entry.2) ++
      ["RESTORE_TYPE=time", "RESTORE_TARGET=" ++ payload.restoreTarget,
        "RESTORE_SET=" ++ payload.sourcePgbackrestSet.getD "", "NOUVA_STAGED_RESTORE=1",
        "NOUVA_DATA_PATH=" ++ spec.dataPath]
    entrypoint := some ["sh", "-c"]
    cmd := [buildPgBackrestRestoreAndPromoteScript]
    mounts := [⟨payload.volumeName, spec.mountPath, false⟩]
    timeoutMs := some (30 * 60000) }

def handleRestorePostgresPitr : HostAction String := do
  let spec ← Method.ofExcept ((DatabaseProvision.resolveDatabaseProvisionSpec
    payload.toDatabaseProvisionPayload).mapError Failure.error)
  let _ ← runTaskContainerForLogs host (pitrTask payload spec)
  pure "PITR restore ready to apply"

end

end VolumeBackups

end NouvaAgent
