import NouvaAgent.CandidateReadiness
import NouvaAgent.WorkerRuntime

namespace NouvaAgent

open Text Interaction Agent CandidateReadiness

structure WorkerReadinessInput where
  containerName : String
  hasHealthcheck : Bool
  ignoreEarlierRestarts : Bool := false
  restartsBeforeStart : ℤ := 0
  timeoutMs : ℤ := 60000
  intervalMs : ℤ := 500
  runningGraceMs : ℤ := 10000
  crashLoopRestartCount : ℤ := 3

structure WorkerReadinessState where
  runningSince : Option ℤ := none
  observedRestartCount : Option ℤ := none
  restartBaseline : Option ℤ
  recentRestarts : ℤ
  recoveredFromRecentRestarts : Bool := false

namespace WorkerReadinessInput

variable (input : WorkerReadinessInput) {σ : Type}

def initial : WorkerReadinessState where
  restartBaseline := if input.ignoreEarlierRestarts then none else some 0
  recentRestarts := input.restartsBeforeStart

def failure (message : String) : Failure :=
  .error ("Worker candidate " ++ input.containerName ++ message)

def readBaseline (inspection : DockerContainerInspection) (inspectedAt restartCount : ℤ)
    (state : WorkerReadinessState) : AgentMethod σ (ℤ × WorkerReadinessState) :=
  match state.restartBaseline with
  | some baseline => pure (baseline, state)
  | none => do
    let recentRestarts ← countRecentRestarts inspection inspectedAt
    pure (restartCount, { state with
      restartBaseline := some restartCount
      recentRestarts := recentRestarts
      recoveredFromRecentRestarts :=
        hasOutlastedRestartLoop inspection inspectedAt input.crashLoopRestartCount })

def countedRestarts (state : WorkerReadinessState) (observedRestarts : ℤ) : ℤ :=
  (if state.recoveredFromRecentRestarts ∧ observedRestarts = 0 then 0 else state.recentRestarts) +
    observedRestarts

def healthOf (inspection : DockerContainerInspection) : Option String :=
  ((inspection.state.bind ContainerState.health).bind ContainerHealth.status).map toLowerCase

def judge (inspection : DockerContainerInspection) (restartCount baseline : ℤ)
    (state : WorkerReadinessState) : Except Failure WorkerReadinessState :=
  let observedRestarts := max 0 (restartCount - baseline)
  let restarts := countedRestarts state observedRestarts
  if input.crashLoopRestartCount ≤ restarts then
    .error (input.failure (" is crash-looping (" ++ toString restarts ++ " restarts)"))
  else if healthOf inspection = some "unhealthy" then .error (input.failure " became unhealthy")
  else
    let restarted := (state.observedRestartCount.map fun count => decide (count < restartCount)).getD
      false
    .ok { state with
      runningSince := if restarted then none else state.runningSince
      observedRestartCount := some restartCount }

/-- A container that waits out its restart back-off is reported as running. -/
def isStarted (inspection : DockerContainerInspection) : Bool :=
  inspection.running && statusOf inspection ≠ some "restarting"

def settle (inspection : DockerContainerInspection) (runningSince : Option ℤ) :
    AgentMethod σ (Bool × Option ℤ) :=
  if input.hasHealthcheck then
    pure (healthOf inspection = some "healthy" && isStarted inspection, runningSince)
  else if isStarted inspection then
    match runningSince with
    | some since => do
      let time ← now
      pure (decide (input.runningGraceMs ≤ time - since), some since)
    | none => do
      let since ← now
      let time ← now
      pure (decide (input.runningGraceMs ≤ time - since), some since)
  else pure (false, none)

theorem readBaseline_eq_lift (inspection : DockerContainerInspection)
    (inspectedAt restartCount : ℤ) (state : WorkerReadinessState) :
    (input.readBaseline inspection inspectedAt restartCount state : AgentMethod σ _) =
      Method.lift (input.readBaseline inspection inspectedAt restartCount state) := by
  unfold readBaseline
  split
  · rfl
  · exact Method.bind_eq_lift (countRecentRestarts_eq_lift _ _) fun _ => rfl

theorem settle_eq_lift (inspection : DockerContainerInspection) (runningSince : Option ℤ) :
    (input.settle inspection runningSince : AgentMethod σ _) =
      Method.lift (input.settle inspection runningSince) := by
  unfold settle
  split
  · rfl
  split
  · split
    · exact Method.bind_eq_lift rfl fun _ => rfl
    · exact Method.bind_eq_lift rfl fun _ => Method.bind_eq_lift rfl fun _ => rfl
  · rfl

def timeoutMessage : String :=
  if input.hasHealthcheck then
    " did not become healthy within " ++ toString input.timeoutMs ++ "ms"
  else " did not remain running for " ++ toString input.runningGraceMs ++ "ms"

def poll (deadline : ℤ) : ℕ → WorkerReadinessState → AgentMethod σ Unit
  | 0, _ => Method.cut
  | fuel + 1, state => do
    let time ← now
    if time ≤ deadline then do
      let inspectedAt ← now
      match ← request (.inspectContainer input.containerName) with
      | none => throw (input.failure " is missing")
      | some inspection =>
        match (statusOf inspection).filter (· ∈ terminalStatuses) with
        | some status => throw (input.failure (" is not running (" ++ status ++ ")"))
        | none => do
          let restartCount := inspection.restartCount.getD 0
          let (baseline, state) ← input.readBaseline inspection inspectedAt restartCount state
          let state ← Method.ofExcept (input.judge inspection restartCount baseline state)
          let (ready, runningSince) ← input.settle inspection state.runningSince
          if ready then pure ()
          else do
            sleep input.intervalMs
            poll deadline fuel { state with runningSince }
    else throw (input.failure input.timeoutMessage)

theorem poll_eq_lift (deadline : ℤ) (fuel : ℕ) (state : WorkerReadinessState) :
    (input.poll deadline fuel state : AgentMethod σ Unit) =
      Method.lift (input.poll deadline fuel state) := by
  induction fuel generalizing state with
  | zero => rfl
  | succ fuel ih =>
    refine Method.bind_eq_lift rfl fun time => ?_
    split
    · refine Method.bind_eq_lift rfl fun inspectedAt => ?_
      refine Method.bind_eq_lift (request_eq_lift _) fun found => ?_
      cases found with
      | none => rfl
      | some inspection =>
        dsimp only
        split
        · rfl
        · refine Method.bind_eq_lift (input.readBaseline_eq_lift _ _ _ _) fun baseline => ?_
          refine Method.bind_eq_lift (Method.ofExcept_eq_lift _) fun state => ?_
          refine Method.bind_eq_lift (input.settle_eq_lift _ _) fun settled => ?_
          split
          · rfl
          · exact Method.bind_eq_lift rfl fun _ => ih _
    · rfl

end WorkerReadinessInput

def waitForWorkerReadiness {σ : Type} (fuel : ℕ) (input : WorkerReadinessInput) :
    AgentMethod σ Unit := do
  let time ← now
  input.poll (time + input.timeoutMs) fuel input.initial

theorem waitForWorkerReadiness_eq_lift {σ : Type} (fuel : ℕ) (input : WorkerReadinessInput) :
    (waitForWorkerReadiness fuel input : AgentMethod σ Unit) =
      Method.lift (waitForWorkerReadiness fuel input) :=
  Method.bind_eq_lift rfl fun _ => input.poll_eq_lift _ _ _

end NouvaAgent
