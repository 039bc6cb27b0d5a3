import NouvaAgent.Text

namespace NouvaAgent

open Text

inductive ReleasePhase
  | preActivation
  | verification
  deriving DecidableEq, Repr

inductive VerificationFailurePolicy
  | keep
  | rollback
  deriving DecidableEq, Repr

inductive ReleaseJobFailure
  | failed
  | timedOut
  | outcomeUnknown
  deriving DecidableEq, Repr

inductive ReleaseJobOutcome
  | succeeded
  | unsuccessful (failure : ReleaseJobFailure)
  deriving DecidableEq, Repr

inductive ReleaseJobStatus
  | pending
  | running
  | ended (outcome : ReleaseJobOutcome)
  deriving DecidableEq, Repr

inductive ReleaseJobResolution
  | retry
  | markSucceeded
  deriving DecidableEq, Repr

namespace ReleaseJobFailure

def text : ReleaseJobFailure → String
  | failed => "failed"
  | timedOut => "timed_out"
  | outcomeUnknown => "outcome_unknown"

end ReleaseJobFailure

namespace ReleaseJobOutcome

abbrev failed : ReleaseJobOutcome := .unsuccessful .failed

abbrev timedOut : ReleaseJobOutcome := .unsuccessful .timedOut

abbrev outcomeUnknown : ReleaseJobOutcome := .unsuccessful .outcomeUnknown

def text : ReleaseJobOutcome → String
  | succeeded => "succeeded"
  | unsuccessful failure => failure.text

end ReleaseJobOutcome

def ReleaseJobStatus.text : ReleaseJobStatus → String
  | pending => "pending"
  | running => "running"
  | ended outcome => outcome.text

def ReleasePhase.text : ReleasePhase → String
  | preActivation => "pre_activation"
  | verification => "verification"

inductive ReleaseJobClaimResponse
  | run (attempt : ℕ)
  | resume (attempt : ℕ)
  | skip (attempt : ℕ)
  | wait (attempt : ℕ) (message : String)
  | halt (attempt : ℕ) (status : ReleaseJobFailure) (message : String)
  deriving DecidableEq, Repr

structure ReleaseJobReport where
  attempt : ℕ
  outcome : ReleaseJobOutcome
  exitCode : Option ℤ
  startedAt : Option DateText
  /-- The clock reading that `new Date(..).toISOString()` writes. -/
  finishedAt : ℤ
  appliedPolicy : Option VerificationFailurePolicy
  deriving DecidableEq, Repr

structure ReleaseJobRecordState where
  status : ReleaseJobStatus
  attempt : ℕ
  statusMessage : Option String
  /-- The lease whose claim started the current attempt. -/
  claimedLeaseId : Option String
  deriving DecidableEq, Repr

structure ReleaseJobClaimTransition where
  attempt : ℕ
  deriving DecidableEq, Repr

structure ReleaseJobClaimDecision where
  response : ReleaseJobClaimResponse
  transition : Option ReleaseJobClaimTransition
  deriving DecidableEq, Repr

def ReleasePhase.jobLabel : ReleasePhase → String
  | preActivation => "Pre-activation job"
  | verification => "Verification"

def describeReleaseJobOutcome (phase : ReleasePhase) (outcome : ReleaseJobFailure) (attempt : ℕ)
    (exitCode : Option ℤ) (timeoutSeconds : ℕ) : String :=
  match outcome with
  | .failed =>
    match exitCode with
    | none => phase.jobLabel ++ " could not be started"
    | some code => phase.jobLabel ++ " failed with exit code " ++ toString code
  | .timedOut => phase.jobLabel ++ " timed out after " ++ toString timeoutSeconds ++ "s"
  | .outcomeUnknown =>
    let lost := phase.jobLabel ++ " attempt " ++ toString attempt ++
      " was started but its result was lost; it was not run again"
    match phase with
    | .preActivation => lost ++ ". Check its effect, then retry it or mark it succeeded"
    | .verification => lost

def decideReleaseJobClaim (record : ReleaseJobRecordState) (claimingLeaseId : String) :
    ReleaseJobClaimDecision :=
  match record.status with
  | .pending =>
    let attempt := record.attempt + 1
    ⟨.run attempt, some ⟨attempt⟩⟩
  | .running =>
    if record.claimedLeaseId = some claimingLeaseId then ⟨.run record.attempt, none⟩
    else ⟨.resume record.attempt, none⟩
  | .ended .succeeded => ⟨.skip record.attempt, none⟩
  | .ended (.unsuccessful failure) =>
    ⟨.halt record.attempt failure
      (record.statusMessage.getD ("Release job ended as " ++ failure.text)), none⟩

inductive ReleaseJobReportDecision
  | record
  | duplicate
  | reject (message : String)
  deriving DecidableEq, Repr

def decideReleaseJobReport (record : ReleaseJobRecordState) (attempt : ℕ)
    (outcome : ReleaseJobOutcome) : ReleaseJobReportDecision :=
  if attempt ≠ record.attempt then
    .reject ("Release job attempt " ++ toString attempt ++ " is not the current attempt " ++
      toString record.attempt)
  else if record.status = .running then .record
  else if record.status = .ended outcome then .duplicate
  else .reject ("Release job attempt " ++ toString record.attempt ++ " is already recorded as " ++
    record.status.text)

inductive ReleaseJobContainerObservation
  | missing
  | created
  | running
  | exited (exitCode : ℤ) (startedAt finishedAt : Option DateText)
  deriving DecidableEq, Repr

def exitCodeOutcome (exitCode : ℤ) : ReleaseJobOutcome :=
  if exitCode = 0 then .succeeded else .failed

def classifyReleaseJobExit (exitCode : ℤ) (startedAt finishedAt : Option DateText)
    (timeoutSeconds : ℕ) (stoppedByDeadline : Bool) : ReleaseJobOutcome :=
  match readTimestampMs startedAt, readTimestampMs finishedAt with
  | some started, some finished =>
    if finished - started ≥ timeoutSeconds * 1000 then .timedOut else exitCodeOutcome exitCode
  | _, _ => if stoppedByDeadline then .timedOut else exitCodeOutcome exitCode

inductive ReleaseJobRecovery
  | start
  | wait
  | record (outcome : ReleaseJobOutcome) (exitCode : ℤ)
  | declareUnknown
  deriving DecidableEq, Repr

def decideReleaseJobRecovery (observation : ReleaseJobContainerObservation)
    (timeoutSeconds : ℕ) : ReleaseJobRecovery :=
  match observation with
  | .created => .start
  | .running => .wait
  | .exited exitCode startedAt finishedAt =>
    .record (classifyReleaseJobExit exitCode startedAt finishedAt timeoutSeconds false) exitCode
  | .missing => .declareUnknown

inductive VerificationConsequence
  | none
  | keep (reason : String)
  | rollback
  deriving DecidableEq, Repr

def decideVerificationConsequence (outcome : ReleaseJobOutcome)
    (policy : VerificationFailurePolicy) (rollbackAvailable : Bool) : VerificationConsequence :=
  match outcome with
  | .succeeded => .none
  | .outcomeUnknown =>
    .keep "The verification result is unknown, so the new deployment keeps serving"
  | .failed | .timedOut =>
    match policy with
    | .keep => .keep "The service keeps the new deployment when verification fails"
    | .rollback =>
      if rollbackAvailable then .rollback
      else .keep
        "The previous deployment cannot take traffic back, so the new deployment keeps serving"

inductive ReleaseJobResolutionDecision
  | ok (nextStatus : ReleaseJobStatus)
  | refused (message : String)
  deriving DecidableEq, Repr

def decideReleaseJobResolution (phase : ReleasePhase) (status : ReleaseJobStatus)
    (resolution : ReleaseJobResolution) : ReleaseJobResolutionDecision :=
  match phase with
  | .verification =>
    .refused "Only a pre-activation job can be resolved; redeploy to verify again"
  | .preActivation =>
    match resolution, status with
    | .retry, .ended (.unsuccessful _) => .ok .pending
    | .retry, _ => .refused ("A " ++ status.text ++ " pre-activation job cannot be retried")
    | .markSucceeded, .ended .outcomeUnknown => .ok (.ended .succeeded)
    | .markSucceeded, _ =>
      .refused "Only a pre-activation job whose outcome is unknown can be marked succeeded"

def describeReportedReleaseJob (phase : ReleasePhase) (outcome : ReleaseJobOutcome) (attempt : ℕ)
    (exitCode : Option ℤ) (timeoutSeconds : ℕ)
    (configuredPolicy appliedPolicy : Option VerificationFailurePolicy) : Option String :=
  match outcome with
  | .succeeded => none
  | .unsuccessful failure =>
    let base := describeReleaseJobOutcome phase failure attempt exitCode timeoutSeconds
    let neverStarted := failure = .failed ∧ exitCode = none
    if phase = .preActivation then some (base ++ ". The new deployment was not activated.")
    else if appliedPolicy = some .rollback then
      some (base ++
        ". Traffic was returned to the previous deployment; no data or schema was rolled back.")
    else if configuredPolicy = some .rollback ∧ failure ≠ .outcomeUnknown ∧ ¬ neverStarted then
      some (base ++
        ". The previous deployment could not take traffic back, so the new deployment keeps serving.")
    else some (base ++ ". The new deployment keeps serving.")

theorem decideVerificationConsequence_rollback {outcome : ReleaseJobOutcome}
    {policy : VerificationFailurePolicy} {available : Bool} :
    decideVerificationConsequence outcome policy available = .rollback ↔
      (outcome = .failed ∨ outcome = .timedOut) ∧ policy = .rollback ∧ available = true := by
  rcases outcome with _ | _ | _ | _ <;> cases policy <;> cases available <;>
    simp [decideVerificationConsequence]

theorem classifyReleaseJobExit_definite (exitCode : ℤ) (startedAt finishedAt : Option DateText)
    (timeoutSeconds : ℕ) (stoppedByDeadline : Bool) :
    classifyReleaseJobExit exitCode startedAt finishedAt timeoutSeconds stoppedByDeadline ≠
      .outcomeUnknown := by
  have hcode : exitCodeOutcome exitCode ≠ .outcomeUnknown := by
    unfold exitCodeOutcome
    split <;> simp
  unfold classifyReleaseJobExit
  split
  · split
    · simp
    · exact hcode
  · split
    · simp
    · exact hcode

end NouvaAgent
