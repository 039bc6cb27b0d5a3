import NouvaAgent.Agent

namespace NouvaAgent

open Text Interaction Agent

variable {σ α : Type}

namespace TextRecord

def set (record : TextRecord) (key value : String) : TextRecord :=
  if record.any (·.1 = key) then record.map fun entry => if entry.1 = key then (key, value) else entry
  else record ++ [(key, value)]

def spread (record other : TextRecord) : TextRecord :=
  other.foldl (fun record entry => set record entry.1 entry.2) record

end TextRecord

structure ReleaseJobTarget where
  serviceId : String
  deploymentId : String
  image : String
  pullImage : Bool
  networkName : String
  envVars : TextRecord
  labels : TextRecord
  resourceSettings : DockerResourceSettings
  redactLogLine : String → String

structure ReleasePhaseRequest (σ : Type) where
  phase : ReleasePhase
  command : String
  timeoutSeconds : ℕ
  phaseEnv : TextRecord := []
  resolveAppliedPolicy :
    Option (ReleaseJobOutcome → AgentMethod σ (Option VerificationFailurePolicy)) := none
  configuredPolicy : Option VerificationFailurePolicy := none

def preActivationRequest (command : String) (timeoutSeconds : ℕ) : ReleasePhaseRequest σ :=
  { phase := .preActivation, command, timeoutSeconds }

inductive ReleasePhaseResult
  | succeeded (attempt : ℕ)
  | unsuccessful (attempt : ℕ) (outcome : ReleaseJobFailure) (message : String)
      (appliedPolicy : Option VerificationFailurePolicy)
  deriving DecidableEq, Repr

structure ReleasePhaseRunner where
  onBuildLog : Bool
  fuel : ℕ

namespace ReleaseJobs

def pollIntervalMs : ℤ := 1000

def stopGraceSeconds : ℤ := 5

def logTailLines : ℕ := 1000

def controlPlaneRetryBudgetMs : ℤ := 120000

def controlPlaneRetryInitialDelayMs : ℤ := 2000

def controlPlaneRetryMaxDelayMs : ℤ := 30000

def phaseLabel : ReleasePhase → String
  | .preActivation => "pre-activation"
  | .verification => "verification"

def buildReleaseJobContainerName (serviceId deploymentId : String) (phase : ReleasePhase)
    (attempt : ℕ) : String :=
  let phase := match phase with
    | .preActivation => "pre"
    | .verification => "verify"
  "nouva-release-" ++ slice 8 serviceId ++ "-" ++ slice 8 deploymentId ++ "-" ++ phase ++ "-" ++
    toString attempt

theorem buildReleaseJobContainerName_inj {serviceId deploymentId : String} {phase : ReleasePhase}
    {n m : ℕ} (h : buildReleaseJobContainerName serviceId deploymentId phase n =
      buildReleaseJobContainerName serviceId deploymentId phase m) : n = m := by
  unfold buildReleaseJobContainerName at h
  exact toString_injective ((String.append_right_inj _).mp h)

def observeContainer (inspection : Option DockerContainerInspection) :
    ReleaseJobContainerObservation :=
  match inspection with
  | none => .missing
  | some container =>
    let status := container.state.bind ContainerState.status
    if container.running = true ∨ status = some "running" ∨ status = some "restarting" then .running
    else if status = some "created" then .created
    else .exited ((container.state.bind ContainerState.exitCode).getD 1)
      (container.state.bind ContainerState.startedAt)
      (container.state.bind ContainerState.finishedAt)

def readStartedAtMs (inspection : Option DockerContainerInspection) : Option ℤ :=
  readTimestampMs (inspection.bind fun container => container.state.bind ContainerState.startedAt)

/-- Network failures and 5xx are worth repeating; a 4xx answer will not change. -/
def isRetryableControlPlaneError (error : Failure) : Bool :=
  match error.status with
  | none => true
  | some status => decide (status ≥ 500)

def prepareImage (target : ReleaseJobTarget) : AgentMethod σ Unit := do
  let image ← request (.inspectImage target.image)
  if image = none then
    if target.pullImage then request (.pullImage target.image)
    else throw (.error ("Docker image " ++ target.image ++ " is not present locally"))
  else pure ()

def removeSettledAttempts (target : ReleaseJobTarget) (phase : ReleasePhase) :
    AgentMethod σ Unit := do
  let leftovers ← request (.listContainersByLabels [("nouva.kind", "release_job"),
    ("nouva.deployment.id", target.deploymentId), ("nouva.release.phase", phase.text)])
  Method.forEach leftovers fun container =>
    if observeContainer (some container) ≠ .running then
      request (.removeContainer container.id true none)
    else pure ()

def listServiceJobs (serviceId : String) : AgentMethod σ (List DockerContainerInspection) :=
  request (.listContainersByLabels [("nouva.kind", "release_job"),
    ("nouva.service.id", serviceId)])

def timeoutOf (container : DockerContainerInspection) : Option ℚ :=
  ((container.label "nouva.release.timeout_seconds").bind number).filter (0 < ·)

def stopOverdueJob (container : DockerContainerInspection) : AgentMethod σ Bool :=
  match timeoutOf container, readStartedAtMs (some container) with
  | some timeoutSeconds, some startedAtMs => do
    let time ← now
    if (time : ℚ) ≥ startedAtMs + timeoutSeconds * 1000 then do
      request (.stopContainer container.id (some stopGraceSeconds) none)
      let inspection ← request (.inspectContainer container.id)
      pure (observeContainer inspection = .running)
    else pure true
  | _, _ => pure true

def blocksClaim (deploymentId : String) (phase : ReleasePhase)
    (container : DockerContainerInspection) : Bool :=
  observeContainer (some container) = .running ∧
    (container.label "nouva.deployment.id" ≠ some deploymentId ∨
      container.label "nouva.release.phase" = some phase.text)

def readRunningJobsOf (deploymentId : String) (phase : ReleasePhase) :
    List DockerContainerInspection → List String → AgentMethod σ (List String)
  | [], running => pure running
  | container :: rest, running =>
    if blocksClaim deploymentId phase container then do
      let stillRunning ← stopOverdueJob container
      match container.label "nouva.deployment.id" with
      | some id =>
        readRunningJobsOf deploymentId phase rest
          (if stillRunning ∧ id ≠ "" ∧ id ∉ running then running ++ [id] else running)
      | none => readRunningJobsOf deploymentId phase rest running
    else readRunningJobsOf deploymentId phase rest running

def readRunningJobs (serviceId deploymentId : String) (phase : ReleasePhase) :
    AgentMethod σ (List String) := do
  let containers ← listServiceJobs serviceId
  readRunningJobsOf deploymentId phase containers []

def removeOtherDeploymentsExitedJobs (target : ReleaseJobTarget) (phase : ReleasePhase) :
    AgentMethod σ Unit := do
  let containers ← listServiceJobs target.serviceId
  let others := containers.filter fun container =>
    container.label "nouva.deployment.id" ≠ some target.deploymentId
  Method.forEach others fun container =>
    if phase = .verification ∧
        container.label "nouva.release.phase" ≠ some ReleasePhase.verification.text then pure ()
    else if observeContainer (some container) = .running then pure ()
    else request (.removeContainer container.id true none)

def discardUnreportedVerification (containerName : String) : AgentMethod σ Unit := do
  let _ ← Method.settle (request (.removeContainer containerName true none))
  pure ()

def jobContainerSpec (target : ReleaseJobTarget) (request : ReleasePhaseRequest σ)
    (containerName : String) (attempt : ℕ) : DockerContainerSpec :=
  let env := TextRecord.spread (TextRecord.spread target.envVars request.phaseEnv)
    [("NOUVA_RELEASE_PHASE", request.phase.text), ("NOUVA_DEPLOYMENT_ID", target.deploymentId)]
  { name := containerName
    image := target.image
    env := env.map fun entry => entry.1 ++ "=" ++ entry.2
    entrypoint := some ["/bin/sh", "-c"]
    cmd := some [request.command]
    labels := TextRecord.spread target.labels
      [("nouva.kind", "release_job"), ("nouva.service.id", target.serviceId),
        ("nouva.deployment.id", target.deploymentId), ("nouva.release.phase", request.phase.text),
        ("nouva.release.attempt", toString attempt),
        ("nouva.release.timeout_seconds", toString request.timeoutSeconds)]
    restartPolicy := some "no"
    resources := some target.resourceSettings
    network := some target.networkName }

def createJobContainer (target : ReleaseJobTarget) (phaseRequest : ReleasePhaseRequest σ)
    (containerName : String) (attempt : ℕ) : AgentMethod σ Unit := do
  let _ ← request (.createContainer (jobContainerSpec target phaseRequest containerName attempt))
  pure ()

structure JobExit where
  observation : ReleaseJobContainerObservation
  stoppedByDeadline : Bool
  deriving DecidableEq, Repr

def hasEnded : ReleaseJobContainerObservation → Bool
  | .exited _ _ _ | .missing => true
  | .created | .running => false

def awaitExit (containerName : String) (deadlineMs : ℤ) : ℕ → AgentMethod σ JobExit
  | 0 => Method.cut
  | fuel + 1 => do
    let inspection ← request (.inspectContainer containerName)
    let observation := observeContainer inspection
    if hasEnded observation then pure ⟨observation, false⟩
    else do
      let time ← now
      if time ≥ deadlineMs then do
        request (.stopContainer containerName (some stopGraceSeconds) none)
        let inspection ← request (.inspectContainer containerName)
        pure ⟨observeContainer inspection, true⟩
      else do
        let time ← now
        sleep (min pollIntervalMs (max 0 (deadlineMs - time)))
        awaitExit containerName deadlineMs fuel

def shipLogs (runner : ReleasePhaseRunner) (containerName : String) : AgentMethod σ Unit :=
  if runner.onBuildLog then do
    let _ ← Method.settle (request (.containerLogEntries containerName logTailLines))
    pure ()
  else pure ()

def repeatControlPlaneCall (call : AgentMethod σ α) (giveUp : Failure → Bool → Failure)
    (giveUpAtMs : ℤ) : ℕ → Bool → ℤ → AgentMethod σ α
  | 0, _, _ => Method.cut
  | fuel + 1, retried, delayMs => do
    match ← Method.settle call with
    | .ok a => pure a
    | .error error =>
      if isRetryableControlPlaneError error then do
        let time ← now
        if time + delayMs > giveUpAtMs then throw (giveUp error retried)
        else do
          sleep delayMs
          repeatControlPlaneCall call giveUp giveUpAtMs fuel true
            (min (delayMs * 2) controlPlaneRetryMaxDelayMs)
      else throw (giveUp error retried)

def callControlPlane (runner : ReleasePhaseRunner) (call : AgentMethod σ α)
    (giveUp : Failure → Bool → Failure) : AgentMethod σ α := do
  let time ← now
  repeatControlPlaneCall call giveUp (time + controlPlaneRetryBudgetMs) runner.fuel false
    controlPlaneRetryInitialDelayMs

def deferWhileUnreachable (phase : ReleasePhase) (error : Failure) (action : String) : Failure :=
  if phase = .verification ∨ ¬ isRetryableControlPlaneError error then error
  else .releaseJobDeferred ("Could not " ++ action ++ " the " ++ phaseLabel phase ++
    " job with the control plane; the deployment will pick it up again")

def claimPhase (runner : ReleasePhaseRunner) (phase : ReleasePhase)
    (runningJobDeploymentIds : List String) : AgentMethod σ ReleaseJobClaimResponse :=
  callControlPlane runner (request (.claim phase runningJobDeploymentIds)) fun error retried =>
    if retried ∧ error.status = some 409 then
      .releaseJobDeferred ("The control plane returned this deployment to the queue while " ++
        "claiming the " ++ phaseLabel phase ++ " job")
    else deferWhileUnreachable phase error "claim"

def reportOutcome (runner : ReleasePhaseRunner) (phase : ReleasePhase)
    (report : ReleaseJobReport) : AgentMethod σ Unit :=
  callControlPlane runner (request (.report phase report)) fun error _ =>
    deferWhileUnreachable phase error "report the outcome of"

inductive AttemptStart
  | started (atMs : ℤ)
  | notStarted (error : Failure)
  deriving DecidableEq, Repr

def startAttempt (containerName : String) (start : AgentMethod σ Unit) :
    AgentMethod σ AttemptStart := do
  match ← Method.settle start with
  | .ok _ => do
    let time ← now
    pure (.started time)
  | .error error => do
    match ← Method.settle (request (.inspectContainer containerName)) with
    | .error _ => throw error
    | .ok inspection =>
      match readStartedAtMs inspection with
      | some startedAtMs => pure (.started startedAtMs)
      | none =>
        if observeContainer inspection = .running then do
          let time ← now
          pure (.started time)
        else pure (.notStarted error)

structure AttemptReport where
  outcome : ReleaseJobOutcome
  exitCode : Option ℤ
  appliedPolicy : Option VerificationFailurePolicy
  startFailure : Option String
  deriving DecidableEq, Repr

def errorText : Failure → String
  | .call error => error.text
  | error => error.message ""

def reportNotStarted (runner : ReleasePhaseRunner) (phaseRequest : ReleasePhaseRequest σ)
    (attempt : ℕ) (error : Failure) : AgentMethod σ AttemptReport := do
  let appliedPolicy := match phaseRequest.phase with
    | .verification => some VerificationFailurePolicy.keep
    | .preActivation => none
  let time ← now
  reportOutcome runner phaseRequest.phase
    { attempt, outcome := .failed, exitCode := none, startedAt := none, finishedAt := time,
      appliedPolicy }
  pure ⟨.failed, none, appliedPolicy, some (errorText error)⟩

def exitOutcome (exit : JobExit) (timeoutSeconds : ℕ) : ReleaseJobOutcome :=
  match exit.observation with
  | .exited exitCode startedAt finishedAt =>
    classifyReleaseJobExit exitCode startedAt finishedAt timeoutSeconds exit.stoppedByDeadline
  | _ => .outcomeUnknown

def exitCodeOf : ReleaseJobContainerObservation → Option ℤ
  | .exited exitCode _ _ => some exitCode
  | _ => none

def startedAtOf : ReleaseJobContainerObservation → Option DateText
  | .exited _ startedAt _ => startedAt.filter (·.text ≠ "")
  | _ => none

def resolvePolicy (phaseRequest : ReleasePhaseRequest σ) (outcome : ReleaseJobOutcome) :
    AgentMethod σ (Option VerificationFailurePolicy) :=
  if outcome = .succeeded then pure none
  else match phaseRequest.resolveAppliedPolicy with
    | none => pure none
    | some resolve => resolve outcome

def reportExit (runner : ReleasePhaseRunner) (phaseRequest : ReleasePhaseRequest σ)
    (containerName : String) (attempt : ℕ) (exit : JobExit) : AgentMethod σ AttemptReport := do
  let outcome := exitOutcome exit phaseRequest.timeoutSeconds
  let exitCode := exitCodeOf exit.observation
  let _ ← (if exitCode.isSome then shipLogs runner containerName else pure ())
  let appliedPolicy ← resolvePolicy phaseRequest outcome
  let time ← now
  reportOutcome runner phaseRequest.phase
    { attempt, outcome, exitCode, startedAt := startedAtOf exit.observation, finishedAt := time,
      appliedPolicy }
  pure ⟨outcome, exitCode, appliedPolicy, none⟩

def awaitAndReport (runner : ReleasePhaseRunner) (phaseRequest : ReleasePhaseRequest σ)
    (containerName : String) (attempt : ℕ) (startedAtMs : ℤ) : AgentMethod σ AttemptReport := do
  let exit ← awaitExit containerName (startedAtMs + phaseRequest.timeoutSeconds * 1000) runner.fuel
  reportExit runner phaseRequest containerName attempt exit

def reportStart (runner : ReleasePhaseRunner) (phaseRequest : ReleasePhaseRequest σ)
    (containerName : String) (attempt : ℕ) : AttemptStart → AgentMethod σ AttemptReport
  | .started atMs => awaitAndReport runner phaseRequest containerName attempt atMs
  | .notStarted error => reportNotStarted runner phaseRequest attempt error

def startJob (target : ReleaseJobTarget) (phaseRequest : ReleasePhaseRequest σ)
    (containerName : String) (attempt : ℕ) : AgentMethod σ Unit := do
  removeSettledAttempts target phaseRequest.phase
  createJobContainer target phaseRequest containerName attempt
  request (.startContainer containerName)

def runAttempt (runner : ReleasePhaseRunner) (target : ReleaseJobTarget)
    (phaseRequest : ReleasePhaseRequest σ) (containerName : String) (attempt : ℕ) :
    AgentMethod σ AttemptReport := do
  let start ← startAttempt containerName (startJob target phaseRequest containerName attempt)
  reportStart runner phaseRequest containerName attempt start

/-- The claim was answered `resume`: reads what the attempt's container did, and starts it only
when it certainly never ran. -/
def resumeAttempt (runner : ReleasePhaseRunner) (phaseRequest : ReleasePhaseRequest σ)
    (containerName : String) (attempt : ℕ) : AgentMethod σ AttemptReport := do
  let inspection ← request (.inspectContainer containerName)
  match decideReleaseJobRecovery (observeContainer inspection) phaseRequest.timeoutSeconds with
  | .start => do
    let start ← startAttempt containerName (request (.startContainer containerName))
    reportStart runner phaseRequest containerName attempt start
  | .wait =>
    match readStartedAtMs inspection with
    | some startedAtMs => awaitAndReport runner phaseRequest containerName attempt startedAtMs
    | none => do
      let time ← now
      awaitAndReport runner phaseRequest containerName attempt time
  | .record _ _ =>
    reportExit runner phaseRequest containerName attempt ⟨observeContainer inspection, false⟩
  | .declareUnknown => reportExit runner phaseRequest containerName attempt ⟨.missing, false⟩

def describeResult (target : ReleaseJobTarget) (phaseRequest : ReleasePhaseRequest σ) (attempt : ℕ)
    (reported : AttemptReport) : ReleasePhaseResult :=
  match reported.outcome with
  | .succeeded => .succeeded attempt
  | .unsuccessful failure =>
    let base := (describeReportedReleaseJob phaseRequest.phase reported.outcome attempt
      reported.exitCode phaseRequest.timeoutSeconds phaseRequest.configuredPolicy
      reported.appliedPolicy).getD (describeReleaseJobOutcome phaseRequest.phase failure attempt
        reported.exitCode phaseRequest.timeoutSeconds)
    let described := match reported.startFailure.filter (· ≠ "") with
      | some text => base ++ " Start error: " ++ target.redactLogLine text
      | none => base
    .unsuccessful attempt failure described reported.appliedPolicy

def settleAttempt (target : ReleaseJobTarget) (phaseRequest : ReleasePhaseRequest σ)
    (containerName : String) (attempt : ℕ) (report : AgentMethod σ AttemptReport) :
    AgentMethod σ ReleasePhaseResult := do
  let reported ← Method.tryCatch report fun error =>
    -- An unacknowledged pre-activation attempt keeps its container: a later lease resumes it.
    match phaseRequest.phase with
    | .verification => do
      discardUnreportedVerification containerName
      throw error
    | .preActivation => throw error
  let _ ← Method.settle (request (.removeContainer containerName true none))
  pure (describeResult target phaseRequest attempt reported)

def act (runner : ReleasePhaseRunner) (target : ReleaseJobTarget)
    (phaseRequest : ReleasePhaseRequest σ) (claim : ReleaseJobClaimResponse) :
    AgentMethod σ ReleasePhaseResult :=
  let nameOf := buildReleaseJobContainerName target.serviceId target.deploymentId phaseRequest.phase
  match claim with
  | .wait _ message => throw (.releaseJobDeferred message)
  | .skip attempt => do
    removeSettledAttempts target phaseRequest.phase
    pure (.succeeded attempt)
  | .halt attempt status message => do
    removeSettledAttempts target phaseRequest.phase
    pure (.unsuccessful attempt status message none)
  | .run attempt => do
    removeOtherDeploymentsExitedJobs target phaseRequest.phase
    settleAttempt target phaseRequest (nameOf attempt) attempt
      (runAttempt runner target phaseRequest (nameOf attempt) attempt)
  | .resume attempt =>
    settleAttempt target phaseRequest (nameOf attempt) attempt
      (resumeAttempt runner phaseRequest (nameOf attempt) attempt)

def run (runner : ReleasePhaseRunner) (target : ReleaseJobTarget)
    (phaseRequest : ReleasePhaseRequest σ) : AgentMethod σ ReleasePhaseResult := do
  -- The image is prepared before the claim, so a missing one never uses up an attempt.
  prepareImage target
  let runningJobs ← readRunningJobs target.serviceId target.deploymentId phaseRequest.phase
  let claim ← claimPhase runner phaseRequest.phase runningJobs
  act runner target phaseRequest claim

def deferWhileBlockingJobRuns (runner : ReleasePhaseRunner) (serviceId deploymentId : String) :
    AgentMethod σ Unit := do
  let runningJobs ← readRunningJobs serviceId deploymentId .preActivation
  if runningJobs = [] then pure ()
  else do
    let claim ← claimPhase runner .preActivation runningJobs
    match claim with
    | .wait _ message => throw (.releaseJobDeferred message)
    | _ => pure ()

end ReleaseJobs

end NouvaAgent
