import NouvaAgent.LogRedaction
import Mathlib.Algebra.Order.Floor.Defs
import Mathlib.Data.Rat.Floor

namespace NouvaAgent.WorkResult

open LiteralRedaction LogRedaction Json

def workerShutdownSignals : List Units :=
  [units "SIGTERM", units "SIGINT", units "SIGQUIT", units "SIGHUP", units "SIGUSR1",
    units "SIGUSR2"]

def workerRolloutPolicies : List Units := [units "overlap", units "no_overlap"]

def workerShutdownOutcomes : List Units :=
  [units "exited", units "forced", units "already_stopped", units "hung", units "unconfirmed"]

def workerShutdownRoles : List Units := [units "previous", units "surplus", units "candidate"]

def textIn (allowed : Units → Bool) : Option Json → Option Units
  | some (.str value) => if allowed value then some value else none
  | _ => none

def numberIn (allowed : ℚ → Bool) : Option Json → Option ℚ
  | some (.num value) => if allowed value then some value else none
  | _ => none

def orNull (read : Option Json → Option Json) (value : Option Json) : Option Json :=
  if value = some .null then some .null else read value

/-- `/^SIG[A-Z][A-Z0-9+]{0,15}$/`. -/
def isWorkerStopSignalName (value : Units) : Bool :=
  (units "SIG").isPrefixOf value &&
    match value.drop 3 with
    | [] => false
    | c :: rest => isUpper c && rest.length ≤ 15 && rest.all fun c => isUpper c || isDigit c || c == 43

def isInteger (value : ℚ) : Bool := value.den == 1

def isWorkerShutdownGracePeriodSeconds (value : ℚ) : Bool :=
  isInteger value && decide (1 ≤ value) && decide (value ≤ 3600)

def readWorkerShutdownPolicy (record : List (Units × Json)) : Option (List (Units × Json)) := do
  let signal ← orNull (fun value => (textIn workerShutdownSignals.contains value).map .str)
    (get? record (units "signal"))
  let gracePeriodSeconds ← numberIn isWorkerShutdownGracePeriodSeconds
    (get? record (units "gracePeriodSeconds"))
  let rolloutPolicy ← textIn workerRolloutPolicies.contains (get? record (units "rolloutPolicy"))
  return [(units "signal", signal), (units "gracePeriodSeconds", .num gracePeriodSeconds),
    (units "rolloutPolicy", .str rolloutPolicy)]

def parseWorkerShutdownPolicy : Json → Json
  | .obj record =>
    match readWorkerShutdownPolicy record with
    | some policy => .obj policy
    | none => .null
  | _ => .null

structure WorkerShutdownReport where
  containerName : Units
  role : Units
  signal : Units
  gracePeriodSeconds : ℚ
  outcome : Units
  exitCode : Json
  elapsedMs : ℤ

def parseWorkerShutdownReport : Json → Option WorkerShutdownReport
  | .obj record => do
    let containerName ← textIn (fun value => 0 < value.length) (get? record (units "containerName"))
    let role ← textIn workerShutdownRoles.contains (get? record (units "role"))
    let signal ← textIn isWorkerStopSignalName (get? record (units "signal"))
    let gracePeriodSeconds ← numberIn isWorkerShutdownGracePeriodSeconds
      (get? record (units "gracePeriodSeconds"))
    let outcome ← textIn workerShutdownOutcomes.contains (get? record (units "outcome"))
    let exitCode ← orNull (fun value => (numberIn isInteger value).map .num)
      (get? record (units "exitCode"))
    let elapsedMs ← numberIn (fun value => decide (0 ≤ value)) (get? record (units "elapsedMs"))
    return { containerName := containerName
             role := role
             signal := signal
             gracePeriodSeconds := gracePeriodSeconds
             outcome := outcome
             exitCode := exitCode
             elapsedMs := (elapsedMs + 1 / 2).floor }
  | _ => none

def parseWorkerShutdownReports : Json → List WorkerShutdownReport
  | .arr entries => entries.filterMap parseWorkerShutdownReport
  | _ => []

def shutdownReportEntries (report : WorkerShutdownReport) (containerName : Json) :
    List (Units × Json) :=
  [(units "containerName", containerName), (units "role", .str report.role),
    (units "signal", .str report.signal),
    (units "gracePeriodSeconds", .num report.gracePeriodSeconds),
    (units "outcome", .str report.outcome), (units "exitCode", report.exitCode),
    (units "elapsedMs", .num report.elapsedMs)]

def policyFields (rollout : List (Units × Json)) : List (Units × Json) :=
  match get? rollout (units "policy") with
  | none => []
  | some policy => [(units "policy", parseWorkerShutdownPolicy policy)]

def redactReport (redactContainerName : Units → Option Json) (report : WorkerShutdownReport) :
    Option Json :=
  (redactContainerName report.containerName).map fun containerName =>
    .obj (shutdownReportEntries report containerName)

def shutdownFields (rollout : List (Units × Json)) (redactContainerName : Units → Option Json) :
    Option (List (Units × Json)) :=
  match get? rollout (units "shutdowns") with
  | none => some []
  | some shutdowns =>
    ((parseWorkerShutdownReports shutdowns).mapM (redactReport redactContainerName)).map
      fun reports => [(units "shutdowns", .arr reports)]

/-- The shutdown fields that the rollout has, rebuilt from their vocabularies. -/
def sanitizeWorkerRolloutShutdownFields (rollout : List (Units × Json))
    (redactContainerName : Units → Option Json) : Option (List (Units × Json)) :=
  (shutdownFields rollout redactContainerName).map (policyFields rollout ++ ·)

def agentRolloutResultVocabulary : List (Units × List Units) :=
  [(units "currentPhase", [units "release", units "quiesce", units "snapshot", units "candidate",
      units "ready", units "cutover", units "verify", units "retire", units "restore",
      units "rollback"]),
    (units "outcome", [units "committed", units "aborted_before_cutover", units "rolled_back"]),
    (units "previousContainerRetirement", [units "graceful", units "forced", units "deferred"]),
    (units "strategy", [units "candidate_ready_cutover", units "single_writer_snapshot_cutover",
      units "stop_first_cutover"])]

def vocabularyFields (vocabulary : List (Units × (Units → Bool))) (record : List (Units × Json)) :
    List (Units × Json) :=
  vocabulary.filterMap fun (key, allowed) =>
    (textIn allowed (get? record key)).map fun value => (key, .str value)

def rolloutVocabulary : List (Units × (Units → Bool)) :=
  agentRolloutResultVocabulary.map fun (key, allowed) => (key, allowed.contains)

def collectAgentRolloutVocabularyFields (rollout : List (Units × Json)) : List (Units × Json) :=
  vocabularyFields rolloutVocabulary rollout

def agentRuntimeInstanceKinds : List Units :=
  [units "app", units "database", units "worker", units "worker_job"]

def runtimeInstanceVocabulary : List (Units × (Units → Bool)) :=
  [(units "kind", agentRuntimeInstanceKinds.contains)]

def collectAgentRuntimeInstanceVocabularyFields (instance_ : List (Units × Json)) :
    List (Units × Json) :=
  vocabularyFields runtimeInstanceVocabulary instance_

def externalBackupImportFormats : List Units :=
  [units "postgres-custom-dump-v1", units "redis-rdb-v1"]

def externalBackupImportVariants : List Units := [units "postgres", units "redis"]

def externalBackupImportValidationMethods : List Units :=
  [units "postgres-startup-sql-read", units "redis-load-ping"]

/-- `\d{1,max}`. -/
def isDigits (max : ℕ) (value : Units) : Bool :=
  1 ≤ value.length && value.length ≤ max && value.all isDigit

/-- `/^\d{1,3}(?:\.\d{1,3}){0,2}$/`. -/
def isEngineReleaseVersion (value : Units) : Bool :=
  (value.splitOn 46).length ≤ 3 && (value.splitOn 46).all (isDigits 3)

/-- `/^rdb-\d{1,4}$/`. -/
def isRdbSourceVersion (value : Units) : Bool :=
  (units "rdb-").isPrefixOf value && isDigits 4 (value.drop 4)

def externalBackupImportProofVocabulary : List (Units × (Units → Bool)) :=
  [(units "format", externalBackupImportFormats.contains),
    (units "destinationVariant", externalBackupImportVariants.contains),
    (units "validationMethod", externalBackupImportValidationMethods.contains),
    (units "destinationVersion", isEngineReleaseVersion),
    (units "sourceEngineVersion", fun value =>
      isEngineReleaseVersion value || isRdbSourceVersion value)]

def collectExternalBackupImportProofVocabularyFields (proof : List (Units × Json)) :
    List (Units × Json) :=
  vocabularyFields externalBackupImportProofVocabulary proof

def agentResultDescriptiveKeys : List Units :=
  [units "detectedFramework", units "detectedLanguage", units "languageVersion"]

def agentRuntimeMetadataDescriptiveKeys : List Units :=
  [units "detectedCommand", units "detectedCommandDisplay", units "detectedEntrypoint",
    units "workerCommand", units "workerHealthCheckCommand"]

def agentResultDescriptiveMask : Json := .str (units "[DESCRIPTIVE]")

def diagnosticMask : Json := .str (units "[DIAGNOSTIC]")

def maskOwn (mask : Json) (entries : List (Units × Json)) (key : Units) : List (Units × Json) :=
  if hasOwn entries key then define entries key mask else entries

def maskAgentResultDescriptiveFields (key : Units) (value : Json) : Json :=
  if agentResultDescriptiveKeys.contains key then agentResultDescriptiveMask
  else match value with
    | .obj entries =>
      if key = units "runtimeMetadata" then
        .obj (agentRuntimeMetadataDescriptiveKeys.foldl
          (maskOwn agentResultDescriptiveMask) entries)
      else value
    | value => value

def agentWorkResultProtocolKeys : List Units :=
  [units "activePgbackrestSets", units "artifactFormat", units "artifactSha256",
    units "buildDuration", units "cleanupProof", units "completedAt", units "containerId",
    units "containerName", units "detectedFramework", units "detectedLanguage", units "exitCode",
    units "externalHost", units "externalPort", units "imageUrl", units "importFailure",
    units "importProof", units "integrityProof", units "internalHost", units "internalPort",
    units "job", units "languageVersion", units "objectKey", units "pgbackrestSet",
    units "pgbackrestType", units "restoreProof", units "rollout", units "runtimeInstance",
    units "runtimeInstances", units "runtimeMetadata", units "scheduleRunId", units "sizeBytes",
    units "startedAt", units "status", units "statusMessage", units "verifiedAt"]

def ownEntries : Json → Option (List (Units × Json))
  | .obj entries => some entries
  | .arr items => some ((List.range items.length).zip items |>.map fun (i, item) =>
      (units (toString i), item))
  | _ => none

def normalizeAgentProtocolValueForConflictCheck (key : Units) (value : Json) : Json :=
  if key = units "statusMessage" then diagnosticMask
  else if key = units "importFailure" ∧ (ownEntries value).isSome then
    .obj (define ((ownEntries value).getD []) (units "message") diagnosticMask)
  else match value with
    | .obj entries =>
      if key = units "job" then .obj (maskOwn diagnosticMask entries (units "statusMessage"))
      else maskAgentResultDescriptiveFields key value
    | value => maskAgentResultDescriptiveFields key value

def agentProtocolValueHasRedactionConflict (key : Units) (value sanitizedValue : Json) : Bool :=
  normalizeAgentProtocolValueForConflictCheck key value ≠
    normalizeAgentProtocolValueForConflictCheck key sanitizedValue

/-- `toObject`, as far as its own properties are read. -/
def toObject (value : Json) : List (Units × Json) := (ownEntries value).getD []

def keepRuntimeInstanceKind (instance_ sanitized : Json) : Json :=
  match sanitized with
  | .obj entries =>
    .obj (spread entries (collectAgentRuntimeInstanceVocabularyFields (toObject instance_)))
  | sanitized => sanitized

def keepImportProofVocabulary (proof sanitized : Json) : Json :=
  match sanitized with
  | .obj entries =>
    .obj (spread entries (collectExternalBackupImportProofVocabularyFields (toObject proof)))
  | sanitized => sanitized

def keepVocabulary (redactContainerName : Units → Option Json) (key : Units)
    (value sanitized : Json) : Option Json :=
  if key = units "runtimeInstance" then some (keepRuntimeInstanceKind value sanitized)
  else if key = units "importProof" then some (keepImportProofVocabulary value sanitized)
  else match value, sanitized with
    | .arr items, .arr sanitizedItems =>
      if key = units "runtimeInstances" then
        some (.arr (List.zipWith keepRuntimeInstanceKind items sanitizedItems))
      else some sanitized
    | .obj rollout, .obj entries =>
      if key = units "rollout" then
        (sanitizeWorkerRolloutShutdownFields rollout redactContainerName).map fun fields =>
          .obj (spread (spread entries (collectAgentRolloutVocabularyFields rollout)) fields)
      else some sanitized
    | _, _ => some sanitized

def sanitizeAgentProtocolValue (process : LogProcess) (key : Units) (value : Json)
    (environmentVariables : EnvironmentVariableMap)
    (operationalValues assignedNames : List Units) : Option Json :=
  (sanitizeSensitiveProtocolValue process value environmentVariables operationalValues
    assignedNames).bind fun sanitized =>
      keepVocabulary (fun containerName => sanitizeSensitiveProtocolValue process
        (.str containerName) environmentVariables operationalValues assignedNames)
        key value sanitized

inductive SanitizeError where
  /-- `encodeURIComponent` threw on an operational value. -/
  | uriError
  | redactionConflict
  deriving DecidableEq, Repr

section

variable (process : LogProcess) (result : List (Units × Json))
  (environmentVariables : EnvironmentVariableMap) (operationalValues assignedNames : List Units)

/-- `delete safeResult["[REDACTED]"]` where a field has the name of a variable. -/
def dropRedactedKey (key : Units) (safeResult : List (Units × Json)) : List (Units × Json) :=
  if hasOwn result key && (environmentVariables.map Prod.fst).contains key then
    delete safeResult redactedLogValue
  else safeResult

/-- One turn of the loop over the protocol's keys. -/
def sanitizeProtocolKey (safeResult : List (Units × Json)) (key : Units) :
    Except SanitizeError (List (Units × Json)) :=
  match get? result key with
  | none => .ok safeResult
  | some value =>
    match sanitizeAgentProtocolValue process key value environmentVariables operationalValues
      assignedNames with
    | none => .error .uriError
    | some sanitizedProtocolValue =>
      if agentProtocolValueHasRedactionConflict key value sanitizedProtocolValue then
        .error .redactionConflict
      else .ok (dropRedactedKey result environmentVariables key
        (assign safeResult key sanitizedProtocolValue))

def sanitizeProtocolKeys : List Units → List (Units × Json) →
    Except SanitizeError (List (Units × Json))
  | [], safeResult => .ok safeResult
  | key :: keys, safeResult =>
    match sanitizeProtocolKey process result environmentVariables operationalValues assignedNames
      safeResult key with
    | .error error => .error error
    | .ok safeResult => sanitizeProtocolKeys keys safeResult

def sanitizeAgentWorkResult : Option (List (Units × Json)) →
    Except SanitizeError (Option (List (Units × Json)))
  | none => .ok none
  | some result =>
    match sanitizeSensitiveValue process (.obj result) environmentVariables operationalValues
      assignedNames with
    | none => .error .uriError
    | some (.obj safeResult) =>
      (sanitizeProtocolKeys process result environmentVariables operationalValues assignedNames
        agentWorkResultProtocolKeys safeResult).map some
    | some _ => .ok none

end

end NouvaAgent.WorkResult
