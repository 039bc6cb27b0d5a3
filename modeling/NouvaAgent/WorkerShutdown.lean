import NouvaAgent.CandidateReadiness
import NouvaAgent.Json
import NouvaAgent.WorkerRuntime

namespace NouvaAgent

open Text Interaction Agent

inductive WorkerShutdownSignal
  | sigterm
  | sigint
  | sigquit
  | sighup
  | sigusr1
  | sigusr2
  deriving DecidableEq, Repr

inductive WorkerRolloutPolicy
  | overlap
  | noOverlap
  deriving DecidableEq, Repr

structure WorkerShutdownPolicy where
  signal : Option WorkerShutdownSignal
  gracePeriodSeconds : ℕ
  valid : 1 ≤ gracePeriodSeconds ∧ gracePeriodSeconds ≤ 3600
  rolloutPolicy : WorkerRolloutPolicy
  deriving DecidableEq

inductive WorkerShutdownOutcome
  | exited
  | forced
  | alreadyStopped
  | hung
  | unconfirmed
  deriving DecidableEq, Repr

inductive WorkerShutdownRole
  | previous
  | surplus
  | candidate
  deriving DecidableEq, Repr

structure WorkerShutdownReport where
  containerName : String
  role : WorkerShutdownRole
  signal : String
  gracePeriodSeconds : ℕ
  outcome : WorkerShutdownOutcome
  exitCode : Option ℤ
  elapsedMs : ℤ
  deriving DecidableEq, Repr

namespace WorkerShutdownSignal

def text : WorkerShutdownSignal → String
  | sigterm => "SIGTERM"
  | sigint => "SIGINT"
  | sigquit => "SIGQUIT"
  | sighup => "SIGHUP"
  | sigusr1 => "SIGUSR1"
  | sigusr2 => "SIGUSR2"

def all : List WorkerShutdownSignal := [sigterm, sigint, sigquit, sighup, sigusr1, sigusr2]

def parse (value : Units) : Option WorkerShutdownSignal :=
  all.find? fun signal => units signal.text = value

theorem parse_text (signal : WorkerShutdownSignal) : parse (units signal.text) = some signal := by
  cases signal <;> decide +kernel

end WorkerShutdownSignal

namespace WorkerShutdownPolicy

def byDefault : WorkerShutdownPolicy where
  signal := none
  gracePeriodSeconds := 30
  valid := by decide
  rolloutPolicy := .overlap

def parseSignal (value : Option Json) : Option (Option WorkerShutdownSignal) :=
  match value with
  | some .null => some none
  | some (.str value) => (WorkerShutdownSignal.parse value).map some
  | _ => none

def parseRolloutPolicy (value : Option Json) : Option WorkerRolloutPolicy :=
  if value = some (.str (units "overlap")) then some .overlap
  else if value = some (.str (units "no_overlap")) then some .noOverlap
  else none

def parse (value : Json) : Option WorkerShutdownPolicy :=
  match value with
  | .obj entries =>
    match parseSignal (Json.get? entries (units "signal")),
      Json.get? entries (units "gracePeriodSeconds"),
      parseRolloutPolicy (Json.get? entries (units "rolloutPolicy")) with
    | some signal, some (.num seconds), some rolloutPolicy =>
      if h : seconds.isInt ∧ 1 ≤ seconds.num.toNat ∧ seconds.num.toNat ≤ 3600 then
        some ⟨signal, seconds.num.toNat, h.2, rolloutPolicy⟩
      else none
    | _, _, _ => none
  | _ => none

end WorkerShutdownPolicy

namespace WorkerShutdown

/-- `toUpperCase` of a character, as far as it leads to letters from `A` to `Z`: no other character
of its results occurs in the name of a signal. -/
def upperCase (c : Char) : List Char :=
  match c with
  | 'ß' => ['S', 'S']
  | 'ı' => ['I']
  | 'ſ' => ['S']
  | 'ﬀ' => ['F', 'F']
  | 'ﬁ' => ['F', 'I']
  | 'ﬂ' => ['F', 'L']
  | 'ﬃ' => ['F', 'F', 'I']
  | 'ﬄ' => ['F', 'F', 'L']
  | 'ﬅ' => ['S', 'T']
  | 'ﬆ' => ['S', 'T']
  | c => [c.toUpper]

def toUpperCase (text : String) : String := String.ofList (text.toList.flatMap upperCase)

def isStopSignalCharacter (c : Char) : Bool := c.isUpper || c.isDigit || c = '+'

/-- `/^SIG[A-Z][A-Z0-9+]{0,15}$/`. -/
def isWorkerStopSignalName (value : String) : Bool :=
  match value.toList with
  | 'S' :: 'I' :: 'G' :: c :: rest =>
    c.isUpper && rest.length ≤ 15 && rest.all isStopSignalCharacter
  | _ => false

def signalNamesByNumber : TextRecord :=
  [("1", "SIGHUP"), ("2", "SIGINT"), ("3", "SIGQUIT"), ("9", "SIGKILL"), ("10", "SIGUSR1"),
    ("12", "SIGUSR2"), ("15", "SIGTERM"), ("28", "SIGWINCH")]

def resolveWorkerStopSignal (policySignal : Option WorkerShutdownSignal)
    (containerStopSignal : Option String) : String :=
  match policySignal with
  | some signal => signal.text
  | none =>
    let raw := toUpperCase (trim (containerStopSignal.getD ""))
    let named :=
      if raw ≠ "" ∧ raw.toList.all Char.isDigit then signalNamesByNumber.lookup raw
      else if startsWith "SIG" raw then some raw
      else some ("SIG" ++ raw)
    (named.filter isWorkerStopSignalName).getD "SIGTERM"

example : resolveWorkerStopSignal none (some " quit ") = "SIGQUIT" := by decide +kernel

example : resolveWorkerStopSignal none (some "15") = "SIGTERM" := by decide +kernel

theorem text_named (signal : WorkerShutdownSignal) : isWorkerStopSignalName signal.text = true := by
  cases signal <;> decide +kernel

theorem getD_named (named : Option String) :
    isWorkerStopSignalName ((named.filter isWorkerStopSignalName).getD "SIGTERM") = true := by
  cases hf : named.filter isWorkerStopSignalName with
  | none => decide +kernel
  | some name => exact (Option.filter_eq_some_iff.mp hf).2

theorem resolveWorkerStopSignal_named (policySignal : Option WorkerShutdownSignal)
    (containerStopSignal : Option String) :
    isWorkerStopSignalName (resolveWorkerStopSignal policySignal containerStopSignal) = true := by
  cases policySignal with
  | some signal => exact text_named signal
  | none =>
    dsimp only [resolveWorkerStopSignal]
    apply getD_named

structure RunningState where
  running : Bool
  exitCode : Option ℤ
  stopSignal : Option String

variable {σ : Type}

def readRunningState (identifier : String) : AgentMethod σ RunningState := do
  match ← request (.inspectContainer identifier) with
  | none => pure ⟨false, none, none⟩
  | some inspection => pure ⟨inspection.running, inspection.state.bind ContainerState.exitCode,
      inspection.config.bind ContainerConfig.stopSignal⟩

/-- The state of the container once it has stopped, or `none` where the deadline passed. -/
def waitUntilStopped (identifier : String) (deadline : ℤ) : ℕ → AgentMethod σ (Option RunningState)
  | 0 => Method.cut
  | fuel + 1 => do
    let state ← readRunningState identifier
    if state.running then do
      let time ← now
      if deadline - time ≤ 0 then pure none
      else do
        sleep (min 500 (deadline - time))
        waitUntilStopped identifier deadline fuel
    else pure (some state)

structure WorkerStop where
  identifier : String
  containerName : String
  role : WorkerShutdownRole
  policy : WorkerShutdownPolicy

namespace WorkerStop

variable (stop : WorkerStop)

def report (startedAt : ℤ) (signal : String) (outcome : WorkerShutdownOutcome)
    (exitCode : Option ℤ) : AgentMethod σ WorkerShutdownReport := do
  let time ← now
  pure { containerName := stop.containerName, role := stop.role, signal
         gracePeriodSeconds := stop.policy.gracePeriodSeconds, outcome, exitCode
         elapsedMs := max 0 (time - startedAt) }

def kill (fuel : ℕ) (startedAt : ℤ) (signal : String) : AgentMethod σ WorkerShutdownReport := do
  let _ ← request (.killContainer stop.identifier "SIGKILL")
  let time ← now
  match ← waitUntilStopped stop.identifier (time + 15000) fuel with
  | some state => stop.report startedAt signal .forced state.exitCode
  | none => stop.report startedAt signal .hung none

def signalled (fuel : ℕ) (startedAt : ℤ) (signal : String) :
    AgentMethod σ WorkerShutdownReport := do
  let _ ← request (.killContainer stop.identifier signal)
  let deadline := startedAt + stop.policy.gracePeriodSeconds * 1000
  match ← waitUntilStopped stop.identifier deadline fuel with
  | some state => stop.report startedAt signal .exited state.exitCode
  | none => stop.kill fuel startedAt signal

end WorkerStop

def stopWorkerContainerGracefully (fuel : ℕ) (stop : WorkerStop) :
    AgentMethod σ WorkerShutdownReport := do
  let startedAt ← now
  let initial ← readRunningState stop.identifier
  let signal := resolveWorkerStopSignal stop.policy.signal initial.stopSignal
  if initial.running then do
    match ← Method.settle (request (.updateContainerRestartPolicy stop.identifier "no")) with
    | .ok _ => stop.signalled fuel startedAt signal
    | .error e =>
      -- A container that is gone by now is as good as stopped.
      if e.status = some 404 then stop.report startedAt signal .alreadyStopped none
      else throw e
  else stop.report startedAt signal .alreadyStopped initial.exitCode

end WorkerShutdown

end NouvaAgent
