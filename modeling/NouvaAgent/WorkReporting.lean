import NouvaAgent.Interaction.Method
import NouvaAgent.Json

namespace NouvaAgent

open Interaction

structure ApiRequestError where
  method : String
  pathName : String
  status : ℤ
  responseBody : String
  deriving DecidableEq, Repr

/-- What the calls around a report are rejected with: an answer of the control plane, or any other
error, by its message. -/
inductive ReportFailure
  | api (error : ApiRequestError)
  | other (message : String)
  deriving DecidableEq, Repr

/-- A result is the list of an object's properties, or null. -/
inductive AgentTerminalReport
  | complete (result : Option (List (Units × Json)))
  | fail (result : Option (List (Units × Json))) (errorMessage : String)
  deriving DecidableEq, Repr

inductive AgentWorkOutcome
  | terminal (report : AgentTerminalReport)
  | released (reason : String)
  deriving DecidableEq, Repr

inductive ReportCall
  | prepare
  | send (report : AgentTerminalReport)
  | rejectResult (error : ApiRequestError)
  | stopLease
  | sleep (ms : ℕ)
  | log (message : String)
  deriving DecidableEq, Repr

abbrev ReportCall.Answer : ReportCall → Type
  | prepare => Except ReportFailure AgentWorkOutcome
  | rejectResult _ => Except ReportFailure AgentTerminalReport
  | send _ | stopLease | sleep _ => Except ReportFailure Unit
  | log _ => Unit

abbrev ReportEvent := Event ReportCall.Answer

abbrev ReportHistory := History ReportCall.Answer

abbrev ReportMethod (α : Type) := Method ReportCall.Answer ReportFailure Bool α

namespace AgentTerminalReport

def isComplete : AgentTerminalReport → Bool
  | complete _ => true
  | fail _ _ => false

def kind : AgentTerminalReport → String
  | complete _ => "complete"
  | fail _ _ => "fail"

end AgentTerminalReport

/-- Whether the control plane may have taken a report all the same. -/
def ReportFailure.isTransient : ReportFailure → Bool
  | api error => 500 ≤ error.status || error.status = 408 || error.status = 429
  | other _ => true

structure ReportedWork where
  id : String
  kind : String

namespace WorkReporting

def answered {α : Type} (r : Except ReportFailure α) : ReportMethod α := Method.ofExcept r

def prepare : ReportMethod AgentWorkOutcome := do
  answered (← Method.ask ReportCall.prepare)

def send (report : AgentTerminalReport) : ReportMethod Unit := do
  answered (← Method.ask (ReportCall.send report))

def rejectResult (error : ApiRequestError) : ReportMethod AgentTerminalReport := do
  answered (← Method.ask (ReportCall.rejectResult error))

def stopLease : ReportMethod Unit := do
  answered (← Method.ask ReportCall.stopLease)

def sleep (ms : ℕ) : ReportMethod Unit := do
  answered (← Method.ask (ReportCall.sleep ms))

def log (message : String) : ReportMethod Unit := Method.ask (ReportCall.log message)

def attemptSend (report : AgentTerminalReport) (retry : ReportFailure → ReportMethod Unit) :
    ReportMethod Unit := do
  match ← Method.settle (send report) with
  | .ok _ => pure ()
  | .error error => do
    Method.assign fun mayBeCommitted => mayBeCommitted || (error.isTransient && report.isComplete)
    if error.isTransient then retry error else throw error

def sendWithRetry (report : AgentTerminalReport) : (retries : ℕ) → ReportMethod Unit
  | 0 => attemptSend report throw
  | retries + 1 => attemptSend report fun _ => do
    sleep (1000 * 2 ^ (2 - retries))
    sendWithRetry report retries

def isSuperseded : ReportFailure → Option ℤ
  | .api error => if error.status = 404 ∨ error.status = 409 then some error.status else none
  | .other _ => none

/-- The refusal of a completion's content that allows its result to be rejected. -/
def refusal (report : AgentTerminalReport) (mayBeCommitted : Bool) :
    ReportFailure → Option ApiRequestError
  | .api error =>
    if error.status = 422 ∧ report.isComplete ∧ !mayBeCommitted then some error else none
  | .other _ => none

end WorkReporting

namespace ReportedWork

open WorkReporting

variable (work : ReportedWork) (redactError : ReportFailure → String)

def logPrefix : String := "[nouva-agent] work " ++ work.id ++ " (" ++ work.kind ++ ")"

def logFailure (report : AgentTerminalReport) : ReportMethod Unit :=
  match report with
  | .fail _ errorMessage => log (work.logPrefix ++ " failed: " ++ errorMessage)
  | .complete _ => pure ()

def sendReport (report : AgentTerminalReport) : ReportMethod Unit := do
  sendWithRetry report 3
  if report.isComplete then log (work.logPrefix ++ " completed") else pure ()

def handleSendFailure (report : AgentTerminalReport) (error : ReportFailure) :
    ReportMethod Unit := do
  let mayBeCommitted ← Method.locals
  match refusal report mayBeCommitted error with
  | some refused => do
    let replacement ← rejectResult refused
    work.logFailure replacement
    sendWithRetry replacement 3
  | none =>
    match isSuperseded error with
    | some status =>
      log (work.logPrefix ++ " terminal report superseded (" ++ toString status ++ ")")
    | none => log (work.logPrefix ++ " " ++ report.kind ++ " report failed: " ++ redactError error)

def prepareAndReport : ReportMethod Unit := do
  match ← prepare with
  | .released reason => log (work.logPrefix ++ " returned to the queue: " ++ reason)
  | .terminal report => do
    work.logFailure report
    Method.tryCatch (work.sendReport report) (work.handleSendFailure redactError report)

/-- What happens to the work, its lease apart. -/
def executeAndReport : ReportMethod Unit :=
  Method.tryCatch (work.prepareAndReport redactError) fun error =>
    log (work.logPrefix ++ " failed during execution/reporting: " ++ redactError error)

def executeAndReportAgentWork : Action ReportCall.Answer ReportFailure Unit :=
  Method.withLocals false (Method.finally_ (work.executeAndReport redactError) stopLease)

end ReportedWork

inductive AgentUpdateCompletionDelivery
  | pending
  | delivered
  | unconfirmed
  | rejected
  deriving DecidableEq, Repr

def recordAgentUpdateCompletionAttempt (current : AgentUpdateCompletionDelivery)
    (error : Option ReportFailure) : AgentUpdateCompletionDelivery :=
  match error with
  | none => .delivered
  | some error => if error.isTransient ∨ current = .unconfirmed then .unconfirmed else .rejected

def shouldStartAgentUpdater (delivery : AgentUpdateCompletionDelivery) : Bool :=
  delivery = .delivered || delivery = .unconfirmed

def completionAttempt : ReportEvent → Option (Option ReportFailure)
  | ⟨.send (.complete _), some (.ok _)⟩ => some none
  | ⟨.send (.complete _), some (.error error)⟩ => some (some error)
  | _ => none

def completionDelivery (h : ReportHistory) : AgentUpdateCompletionDelivery :=
  (h.reverse.filterMap completionAttempt).foldl recordAgentUpdateCompletionAttempt .pending

end NouvaAgent
