import NouvaAgent.AssignedNames
import NouvaAgent.Interaction.Interpretation
import NouvaAgent.WorkReportingOrder
import NouvaAgent.WorkRollback

namespace NouvaAgent

open Text Interaction

/-! The operational values of a payload. -/

namespace PayloadValues

open Json AssignedNames

def agentWorkPayloadOperationalPathKeys : List Units := [units "dataPath", units "mountPath"]

def agentWorkPayloadOperationalIdentityKeys : List Units :=
  [units "containerName", units "externalHost", units "imageUrl", units "internalHost",
    units "networkName", units "providedHostname", units "serviceName", units "subdomain",
    units "volumeName"]

def agentWorkPayloadOperationalListKeys : List Units := [units "customHostnames"]

def agentWorkPayloadOperationalRecordKeys : List Units :=
  [units "runtimeMetadata", units "volume"]

def minOperationalIdentityLength : ℕ := 3

def maxOperationalRecordDepth : ℕ := 4

def identityValues : Json → List Units
  | .str value =>
    if minOperationalIdentityLength ≤ (LogRedaction.trim value).length then
      [LogRedaction.trim value]
    else []
  | _ => []

def pathValues : Json → List Units
  | .str value => if LogRedaction.trim value ≠ [] then [LogRedaction.trim value] else []
  | _ => []

def listValues : Json → List Units
  | .arr entries => entries.flatMap identityValues
  | _ => []

/-- `collectOperationalRecordValues`, so many levels above the deepest that is read. -/
def collectOperationalRecordValues : ℕ → Json → List Units
  | levels + 1, .arr entries => entries.flatMap (collectOperationalRecordValues levels)
  | levels + 1, .obj entries => entries.flatMap fun entry =>
    collectOperationalRecordValues levels entry.2
  | _, value => identityValues value

def collectAgentWorkPayloadOperationalValues (record : List (Units × Json)) : List Units :=
  let read (values : Json → List Units) (keys : List Units) :=
    keys.flatMap fun key => (get? record key).elim [] values
  (read pathValues agentWorkPayloadOperationalPathKeys ++
    read identityValues agentWorkPayloadOperationalIdentityKeys ++
    read listValues agentWorkPayloadOperationalListKeys ++
    read (collectOperationalRecordValues maxOperationalRecordDepth)
      agentWorkPayloadOperationalRecordKeys).eraseDups

end PayloadValues

inductive WorkKind
  | deployApp | redeployApp | rollbackApp
  | deployWorker | redeployWorker | rollbackWorker | scaleWorker
  | restartApp | restartDatabase | restartWorker
  | removeApp | removeWorker
  | startWorkerJob | inspectWorkerJob | stopWorkerJob | cleanupWorkerJob
  | provisionDatabase | applyDatabaseVolume
  | deleteService | deleteVolume | deleteProject | wipeVolume
  | createVolumeBackup | deleteVolumeBackup | restoreVolumeBackup | restorePostgresPitr
  | importExternalBackup | expireVolumeBackupRepository
  | reconcileServiceResources | syncRouting | updateAgent
  deriving DecidableEq, Repr

def WorkKind.named : List (String × WorkKind) :=
  [("deploy_app", deployApp), ("redeploy_app", redeployApp), ("rollback_app", rollbackApp),
    ("deploy_worker", deployWorker), ("redeploy_worker", redeployWorker),
    ("rollback_worker", rollbackWorker), ("scale_worker", scaleWorker),
    ("restart_app", restartApp), ("restart_database", restartDatabase),
    ("restart_worker", restartWorker), ("remove_app", removeApp), ("remove_worker", removeWorker),
    ("start_worker_job", startWorkerJob), ("inspect_worker_job", inspectWorkerJob),
    ("stop_worker_job", stopWorkerJob), ("cleanup_worker_job", cleanupWorkerJob),
    ("provision_database", provisionDatabase), ("apply_database_volume", applyDatabaseVolume),
    ("delete_service", deleteService), ("delete_volume", deleteVolume),
    ("delete_project", deleteProject), ("wipe_volume", wipeVolume),
    ("create_volume_backup", createVolumeBackup), ("delete_volume_backup", deleteVolumeBackup),
    ("restore_volume_backup", restoreVolumeBackup),
    ("restore_postgres_pitr", restorePostgresPitr),
    ("import_external_backup", importExternalBackup),
    ("expire_volume_backup_repository", expireVolumeBackupRepository),
    ("reconcile_service_resources", reconcileServiceResources), ("sync_routing", syncRouting),
    ("update_agent", updateAgent)]

inductive WorkError
  | classified (message : String) (result : List (Units × Json))
  | deferred (message : String)
  | error (message : String)
  | other
  deriving DecidableEq, Repr

def WorkError.message : WorkError → String
  | classified message _ | deferred message | error message => message
  | other => "Unknown agent work failure"

def WorkError.result : WorkError → Option (List (Units × Json))
  | classified _ result => some result
  | _ => none

structure Handled where
  result : List (Units × Json)
  updater : Bool := false
  deriving DecidableEq, Repr

/-- What processing a work item asks for. A build log is closed with its exit, where it has one. -/
inductive WorkCall
  | ready
  | stopLease
  | leaseLost
  | handle (kind : WorkKind)
  | closeBuildLog (exit : Option (Bool × String))
  | removeContainer (identifier : Units)
  | post (report : AgentTerminalReport)
  | sleep (ms : ℕ)
  | log (message : String)
  | requestAgentUpdate
  deriving DecidableEq, Repr

abbrev WorkCall.Answer : WorkCall → Type
  | ready | leaseLost => Bool
  | handle _ => Except WorkError Handled
  | removeContainer _ => Except CallError Unit
  | closeBuildLog _ | stopLease | post _ | sleep _ => Except ReportFailure Unit
  | log _ | requestAgentUpdate => Unit

abbrev WorkEvent := Event WorkCall.Answer

abbrev WorkHistory := History WorkCall.Answer

structure WorkLocals where
  result : Option (List (Units × Json)) := none
  pendingAgentUpdater : Bool := false
  completionDelivery : AgentUpdateCompletionDelivery := .pending

abbrev WorkMethod (α : Type) := Method WorkCall.Answer ReportFailure WorkLocals α

structure AgentWorkRecord where
  id : String
  kind : String
  leaseId : Option String
  payload : List (Units × Json)

structure WorkProcess where
  redaction : LogRedaction.LogProcess
  redactSensitiveText : List (Units × Option Units) → List Units → String → String
  parsedMessage : String → Option String

def ApiRequestError.message (error : ApiRequestError) : String :=
  error.method ++ " " ++ error.pathName ++ " failed (" ++ toString error.status ++ "): " ++
    error.responseBody

def buildLogWorkKinds : List String :=
  ["deploy_app", "redeploy_app", "deploy_worker", "redeploy_worker"]

def redactionConflictMessage : String :=
  "Agent work result conflicts with protected environment material"

def readApiRequestErrorMessage (process : WorkProcess) (error : ApiRequestError)
    (fallback : String) : String :=
  match present ((process.parsedMessage error.responseBody).map trim) with
  | some message => message
  | none => (present (some (trim error.responseBody))).getD fallback

def toRecord (value : Json) : List (Units × Option Units) :=
  (WorkResult.toObject value).filterMap fun entry => match entry.2 with
    | .str text => some (entry.1, some text)
    | _ => none

namespace AgentWorkRecord

variable (process : WorkProcess) (item : AgentWorkRecord)

def environmentVariables : List (Units × Option Units) :=
  toRecord ((Json.get? item.payload (units "envVars")).getD .null)

def operationalValues : List Units :=
  PayloadValues.collectAgentWorkPayloadOperationalValues item.payload

def assignedNames : List Units := AssignedNames.collectAgentWorkAssignedNames (.obj item.payload)

def redact (message : String) : String :=
  process.redactSensitiveText item.environmentVariables item.operationalValues message

def redactError (error : ReportFailure) : String :=
  match error with
  | .api error => item.redact process error.message
  | .other message => item.redact process message

def sanitize (result : Option (List (Units × Json))) :
    Except WorkResult.SanitizeError (Option (List (Units × Json))) :=
  WorkResult.sanitizeAgentWorkResult process.redaction item.environmentVariables
    item.operationalValues item.assignedNames result

/-- `buildAgentWorkFailureReport`: where the result cannot be redacted, the report has none. -/
def failureReport (error : WorkError) : Except ReportFailure AgentTerminalReport :=
  match item.sanitize process error.result with
  | .ok result => .ok (.fail result (item.redact process error.message))
  | .error .redactionConflict => .ok (.fail none (item.redact process error.message))
  | .error .uriError => .error (.other "URI malformed")

def publishesBuildLog : Bool :=
  decide (item.kind ∈ buildLogWorkKinds) &&
    match Json.get? item.payload (units "deploymentId") with
    | some (.str deploymentId) => decide (deploymentId ≠ [])
    | _ => false

def startedContainers (result : List (Units × Json)) : List Units :=
  WorkRollback.startedContainers ⟨item.kind, item.payload, some result⟩

end AgentWorkRecord

namespace WorkItem

variable (process : WorkProcess) (item : AgentWorkRecord)

def answered {α : Type} (r : Except ReportFailure α) : WorkMethod α := Method.ofExcept r

def log (message : String) : WorkMethod Unit := Method.ask (WorkCall.log message)

def removeStarted (identifier : Units) : WorkMethod Unit := do
  match ← Method.ask (WorkCall.removeContainer identifier) with
  | .ok _ => pure ()
  | .error _ => log ("[nouva-agent] failed to remove a container after work " ++ item.id ++
      " produced an unreportable result")

def rollback : WorkMethod Unit := do
  let locals ← Method.locals
  match locals.result with
  | none => pure ()
  | some result => Method.forEach (item.startedContainers result) (removeStarted item)

def reportUnreportableResult (errorMessage : String) : WorkMethod AgentTerminalReport := do
  rollback item
  pure (.fail none (item.redact process errorMessage))

def closeBuildLog (exit : Option (Bool × String)) : WorkMethod Unit :=
  if item.publishesBuildLog then do answered (← Method.ask (WorkCall.closeBuildLog exit))
  else pure ()

def warnLeaseLost : WorkMethod Unit := do
  if ← Method.ask WorkCall.leaseLost then
    log ("[nouva-agent] work " ++ item.id ++ " finished locally after a lease renewal failed; " ++
      "reporting anyway")
  else pure ()

def conclude (ended : Except WorkError (List (Units × Json))) : WorkMethod AgentWorkOutcome :=
  match ended with
  | .error (.deferred message) => do
    closeBuildLog item none
    pure (.released message)
  | .error error => do
    closeBuildLog item (some (false, item.redact process error.message))
    warnLeaseLost item
    let report ← answered (item.failureReport process error)
    pure (.terminal report)
  | .ok result => do
    closeBuildLog item (some (true, "Deployment finished"))
    warnLeaseLost item
    match item.sanitize process (some result) with
    | .ok safeResult => pure (.terminal (.complete safeResult))
    | .error .redactionConflict => do
      let report ← reportUnreportableResult process item redactionConflictMessage
      pure (.terminal report)
    | .error .uriError => throw (.other "URI malformed")

def runHandler (kind : WorkKind) : WorkMethod (Except WorkError (List (Units × Json))) := do
  match ← Method.ask (WorkCall.handle kind) with
  | .ok handled => do
    Method.assign fun locals => { locals with
      result := some handled.result
      pendingAgentUpdater := decide (kind = .updateAgent) && handled.updater }
    pure (.ok handled.result)
  | .error error => pure (.error error)

def prepare : WorkMethod AgentWorkOutcome := do
  match WorkKind.named.lookup item.kind with
  | none => conclude process item (.error (.error ("Unsupported work kind: " ++ item.kind)))
  | some kind => do
    let ended ← runHandler kind
    conclude process item ended

def send (report : AgentTerminalReport) : WorkMethod (Except ReportFailure Unit) := do
  let answer ← Method.ask (WorkCall.post report)
  if report.isComplete then
    Method.assign fun locals => { locals with
      completionDelivery := recordAgentUpdateCompletionAttempt locals.completionDelivery
        (match answer with
          | .ok _ => none
          | .error error => some error) }
  else pure ()
  pure answer

def callback : (c : ReportCall) → WorkMethod c.Answer
  | .prepare => (prepare process item).settle
  | .send report => send report
  | .rejectResult error => (reportUnreportableResult process item (readApiRequestErrorMessage process
      error "Agent work result was rejected by the control plane")).settle
  | .stopLease => Method.ask WorkCall.stopLease
  | .sleep ms => Method.ask (WorkCall.sleep ms)
  | .log message => log message

def restartAgent : WorkMethod Unit := do
  let locals ← Method.locals
  if locals.pendingAgentUpdater then
    if shouldStartAgentUpdater locals.completionDelivery then
      Method.ask WorkCall.requestAgentUpdate
    else log ("[nouva-agent] work " ++ item.id ++ " (" ++ item.kind ++
      ") completion was not accepted; skipping the agent restart")
  else pure ()

def stopLease : WorkMethod Unit := do
  answered (← Method.ask WorkCall.stopLease)

def processWorkItem : WorkMethod Unit := do
  log ("[nouva-agent] processing work " ++ item.id ++ " (" ++ item.kind ++ ")")
  if present item.leaseId = none then
    log ("[nouva-agent] work " ++ item.id ++ " (" ++ item.kind ++ ") failed: missing lease ID")
  else if ← Method.ask WorkCall.ready then do
    Method.interpret (callback process item)
      (ReportedWork.executeAndReportAgentWork ⟨item.id, item.kind⟩ (item.redactError process))
    restartAgent item
  else stopLease

end WorkItem

end NouvaAgent
