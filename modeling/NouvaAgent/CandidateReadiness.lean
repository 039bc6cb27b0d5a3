import Mathlib.Data.List.Induction
import NouvaAgent.Agent

namespace NouvaAgent

open Text Interaction Agent

structure CandidateRuntimeEvidence where
  outOfMemory : Bool := false
  restarts : ℤ := 0
  exitCode : Option ℤ := none
  memoryLimitBytes : Option ℤ := none
  memorySwapLimitBytes : Option ℤ := none
  deriving DecidableEq, Repr

inductive CandidateReadinessFailureCause
  | outOfMemory
  | restartLoop
  | exited
  | unhealthy
  deriving DecidableEq, Repr

inductive CandidateReadinessStep
  | ready
  | failed (cause : CandidateReadinessFailureCause) (message : String)
  | probe (ipAddress unreachableMessage : String)
  | wait (message : String)
  deriving DecidableEq, Repr

structure CandidateReadinessAssessment where
  evidence : CandidateRuntimeEvidence
  step : CandidateReadinessStep
  deriving DecidableEq, Repr

structure CandidateReadinessInput where
  containerName : String
  appPort : ℤ
  inspection : DockerContainerInspection
  evidence : CandidateRuntimeEvidence
  subject : String := "Candidate container"
  restartBaseline : ℤ := 0
  recentRestarts : ℤ := 0
  outOfMemoryAtStart : Option Bool := none

namespace CandidateReadiness

def restartLoopThreshold : ℤ := 2

def terminalStatuses : List String := ["exited", "dead", "removing"]

/-- Docker reports an unbounded `MemorySwap` allowance as -1. -/
def unlimitedSwap : ℤ := -1

def recentExitWindowMs : ℤ := 300000

def statusOf (inspection : DockerContainerInspection) : Option String :=
  (inspection.state.bind ContainerState.status).map toLowerCase

def isRunning (inspection : DockerContainerInspection) : Bool :=
  inspection.state.bind ContainerState.running = some true

def isOomKilled (inspection : DockerContainerInspection) : Bool :=
  inspection.state.bind ContainerState.oomKilled = some true

def readRestartCount (inspection : DockerContainerInspection) : ℤ :=
  max 0 (inspection.restartCount.getD 0)

def readPositiveByteLimit (value : Option ℤ) : Option ℤ := value.filter (0 < ·)

def readSwapByteLimit (value : Option ℤ) : Option ℤ :=
  if value = some unlimitedSwap then value else readPositiveByteLimit value

/-- A zero exit code only means something once the process is known to be down. -/
def readReportedExitCode (inspection : DockerContainerInspection) : Option ℤ :=
  match inspection.state.bind ContainerState.exitCode with
  | none => none
  | some exitCode =>
    let terminated := (statusOf inspection).any fun status =>
      decide (status = "restarting" ∨ status ∈ terminalStatuses)
    if terminated = true ∨ exitCode ≠ 0 then some exitCode else none

/-- A clean exit reported later does not erase the failing code seen before. -/
def mergeExitCode (previous reported : Option ℤ) : Option ℤ :=
  if reported = none ∨ (reported = some 0 ∧ previous ≠ none) then previous else reported

def readOutOfMemory (inspection : DockerContainerInspection) (observedRestarts : ℤ)
    (outOfMemoryAtStart : Option Bool) : Bool :=
  isOomKilled inspection && match outOfMemoryAtStart with
    | none => true
    | some atStart => !atStart && (decide (0 < observedRestarts) || !isRunning inspection ||
        statusOf inspection = some "restarting")

def recordEvidence (previous : CandidateRuntimeEvidence) (inspection : DockerContainerInspection)
    (restartBaseline recentRestarts : ℤ) (outOfMemoryAtStart : Option Bool) :
    CandidateRuntimeEvidence :=
  let restarts := max previous.restarts
    (recentRestarts + max 0 (readRestartCount inspection - restartBaseline))
  { outOfMemory := previous.outOfMemory ||
      readOutOfMemory inspection (restarts - recentRestarts) outOfMemoryAtStart
    restarts
    exitCode := mergeExitCode previous.exitCode (readReportedExitCode inspection)
    memoryLimitBytes :=
      (readPositiveByteLimit (inspection.hostConfig.bind ContainerHostConfig.memory)).or
        previous.memoryLimitBytes
    memorySwapLimitBytes :=
      (readSwapByteLimit (inspection.hostConfig.bind ContainerHostConfig.memorySwap)).or
        previous.memorySwapLimitBytes }

/-- `Number.isInteger(value) ? value : value.toFixed(1)`, for a positive value. -/
def formatTenths (value : ℚ) : String :=
  if value.isInt then toString value.num
  else
    let tenths := (value * 10 + 1 / 2).floor
    toString (tenths / 10) ++ "." ++ toString (tenths % 10)

def formatByteSize (bytes : ℤ) : String :=
  let mebibytes : ℚ := bytes / 1048576
  if mebibytes ≥ 1024 then formatTenths (mebibytes / 1024) ++ " GiB"
  else formatTenths mebibytes ++ " MiB"

def formatRestarts (restarts : ℤ) : String :=
  toString restarts ++ " restart" ++ if restarts = 1 then "" else "s"

def describeMemoryLimits (evidence : CandidateRuntimeEvidence) : List String :=
  match evidence.memoryLimitBytes with
  | none => []
  | some limit =>
    let swap := match evidence.memorySwapLimitBytes with
      | none => []
      | some swapLimit =>
        if swapLimit = unlimitedSwap then ["swap unlimited"]
        else if swapLimit = limit then ["swap disabled"]
        else if swapLimit > limit then ["memory and swap limit " ++ formatByteSize swapLimit]
        else []
    ("memory limit " ++ formatByteSize limit) :: swap

def describeOutOfMemory (subject containerName : String) (evidence : CandidateRuntimeEvidence) :
    String :=
  let details := describeMemoryLimits evidence ++
    if evidence.restarts > 0 then [formatRestarts evidence.restarts] else []
  let suffix := if details = [] then "" else " (" ++ ", ".intercalate details ++ ")"
  subject ++ " " ++ containerName ++ " ran out of memory and was killed" ++ suffix ++
    "; raise the service memory limit and redeploy"

def describeRestartLoop (subject containerName : String) (evidence : CandidateRuntimeEvidence) :
    String :=
  let details := formatRestarts evidence.restarts :: match evidence.exitCode with
    | none => []
    | some exitCode => ["last exit code " ++ toString exitCode]
  subject ++ " " ++ containerName ++ " keeps restarting (" ++ ", ".intercalate details ++
    "); the process is exiting instead of serving traffic"

def describeTerminalStatus (subject containerName status : String)
    (evidence : CandidateRuntimeEvidence) : String :=
  let exit := match evidence.exitCode with
    | none => ""
    | some exitCode => ", exit code " ++ toString exitCode
  subject ++ " " ++ containerName ++ " is not running (" ++ status ++ exit ++ ")"

def resolveContainerIpAddress (inspection : DockerContainerInspection) : Option String :=
  (inspection.networks.getD []).findSome? fun network => network.2.filter (· ≠ "")

def healthStatus (inspection : DockerContainerInspection) : Option String :=
  (inspection.state.bind ContainerState.health).bind fun health => health.status.map toLowerCase

def assessHealth (subject containerName : String) (appPort : ℤ)
    (inspection : DockerContainerInspection) : CandidateReadinessStep :=
  match inspection.state.bind ContainerState.health with
  | some health =>
    let status := ((health.status.map toLowerCase).filter (· ≠ "")).getD "unknown"
    if status = "healthy" then .ready
    else if status = "unhealthy" then
      .failed .unhealthy (subject ++ " " ++ containerName ++ " became unhealthy")
    else .wait (subject ++ " " ++ containerName ++ " health status is " ++ status)
  | none =>
    match resolveContainerIpAddress inspection with
    | none => .wait (subject ++ " " ++ containerName ++ " has no routable IP address yet")
    | some ipAddress => .probe ipAddress (subject ++ " " ++ containerName ++
        " is not accepting TCP traffic on " ++ toString appPort)

def assessCandidateReadiness (input : CandidateReadinessInput) : CandidateReadinessAssessment :=
  let evidence := recordEvidence input.evidence input.inspection input.restartBaseline
    input.recentRestarts input.outOfMemoryAtStart
  let terminal := (statusOf input.inspection).filter (· ∈ terminalStatuses)
  if evidence.outOfMemory then
    ⟨evidence, .failed .outOfMemory
      (describeOutOfMemory input.subject input.containerName evidence)⟩
  else match terminal with
    | some status => ⟨evidence, .failed .exited
        (describeTerminalStatus input.subject input.containerName status evidence)⟩
    | none =>
      if evidence.restarts ≥ restartLoopThreshold then
        ⟨evidence, .failed .restartLoop
          (describeRestartLoop input.subject input.containerName evidence)⟩
      else ⟨evidence, assessHealth input.subject input.containerName input.appPort
        input.inspection⟩

theorem assessCandidateReadiness_evidence (input : CandidateReadinessInput) :
    (assessCandidateReadiness input).evidence = recordEvidence input.evidence input.inspection
      input.restartBaseline input.recentRestarts input.outOfMemoryAtStart := by
  unfold assessCandidateReadiness
  dsimp only
  split
  · rfl
  · split
    · rfl
    · split <;> rfl

theorem assessCandidateReadiness_grows (input : CandidateReadinessInput) :
    (input.evidence.outOfMemory → (assessCandidateReadiness input).evidence.outOfMemory) ∧
      input.evidence.restarts ≤ (assessCandidateReadiness input).evidence.restarts := by
  rw [assessCandidateReadiness_evidence]
  constructor
  · intro h
    simp [recordEvidence, h]
  · exact le_max_left _ _

theorem mergeExitCode_retains {previous : Option ℤ} (reported : Option ℤ) {code : ℤ}
    (hp : previous = some code) (hc : code ≠ 0) :
    ∃ merged, mergeExitCode previous reported = some merged ∧ merged ≠ 0 := by
  unfold mergeExitCode
  split
  · exact ⟨code, hp, hc⟩
  · next hkept =>
    rw [not_or, not_and_or] at hkept
    obtain ⟨hsome, hnonzero⟩ := hkept
    obtain ⟨merged, rfl⟩ := Option.ne_none_iff_exists'.mp hsome
    refine ⟨merged, rfl, fun hzero => ?_⟩
    subst hzero hp
    simp at hnonzero

structure Retained (earlier later : CandidateRuntimeEvidence) : Prop where
  outOfMemory : earlier.outOfMemory = true → later.outOfMemory = true
  restarts : earlier.restarts ≤ later.restarts
  exitCode : ∀ code, earlier.exitCode = some code → code ≠ 0 →
    ∃ later', later.exitCode = some later' ∧ later' ≠ 0

theorem Retained.refl (evidence : CandidateRuntimeEvidence) : Retained evidence evidence where
  outOfMemory := id
  restarts := le_refl _
  exitCode := fun code h hne => ⟨code, h, hne⟩

theorem Retained.trans {first second third : CandidateRuntimeEvidence}
    (h : Retained first second) (h' : Retained second third) : Retained first third where
  outOfMemory := fun hfirst => h'.outOfMemory (h.outOfMemory hfirst)
  restarts := le_trans h.restarts h'.restarts
  exitCode := fun code hcode hne => by
    obtain ⟨code', hcode', hne'⟩ := h.exitCode code hcode hne
    exact h'.exitCode code' hcode' hne'

theorem reported_unhealthy_iff (status : Option String) :
    (status.filter (· ≠ "")).getD "unknown" = "unhealthy" ↔ status = some "unhealthy" := by
  cases status with
  | none => simp
  | some status =>
    by_cases hempty : status = "" <;> simp [Option.filter, hempty]

theorem assessHealth_failed_iff {subject containerName : String} {appPort : ℤ}
    {inspection : DockerContainerInspection} :
    (∃ cause message, assessHealth subject containerName appPort inspection = .failed cause message) ↔
      healthStatus inspection = some "unhealthy" := by
  unfold assessHealth healthStatus
  cases inspection.state.bind ContainerState.health with
  | none =>
    dsimp only [Option.bind_none]
    cases resolveContainerIpAddress inspection <;> simp
  | some health =>
    rw [Option.bind_some, ← reported_unhealthy_iff]
    dsimp only
    generalize ((health.status.map toLowerCase).filter (· ≠ "")).getD "unknown" = status
    split
    · next hhealthy => simp [hhealthy]
    · split
      · next hunhealthy => simp [hunhealthy]
      · next hunhealthy => simp [hunhealthy]

theorem assessCandidateReadiness_failed_iff {input : CandidateReadinessInput} :
    (∃ cause message, (assessCandidateReadiness input).step = .failed cause message) ↔
      (assessCandidateReadiness input).evidence.outOfMemory = true ∨
        (∃ status ∈ terminalStatuses, statusOf input.inspection = some status) ∨
        restartLoopThreshold ≤ (assessCandidateReadiness input).evidence.restarts ∨
        healthStatus input.inspection = some "unhealthy" := by
  rw [assessCandidateReadiness_evidence]
  unfold assessCandidateReadiness
  dsimp only
  split
  · next hkilled => exact iff_of_true ⟨_, _, rfl⟩ (.inl hkilled)
  · next hkilled =>
    rw [or_iff_right hkilled]
    split
    · next status hterminal =>
      obtain ⟨hstatus, hmem⟩ := Option.filter_eq_some_iff.mp hterminal
      exact iff_of_true ⟨_, _, rfl⟩ (.inl ⟨status, of_decide_eq_true hmem, hstatus⟩)
    · next hterminal =>
      have hlive : ¬ ∃ status ∈ terminalStatuses, statusOf input.inspection = some status := by
        rintro ⟨status, hmem, hstatus⟩
        simp [hstatus, hmem] at hterminal
      rw [or_iff_right hlive]
      split
      · next hlooping => exact iff_of_true ⟨_, _, rfl⟩ (.inl hlooping)
      · next hlooping => exact assessHealth_failed_iff.trans (or_iff_right hlooping).symm

theorem assessCandidateReadiness_condemned {input : CandidateReadinessInput}
    (h : (assessCandidateReadiness input).evidence.outOfMemory = true ∨
      restartLoopThreshold ≤ (assessCandidateReadiness input).evidence.restarts) :
    ∃ cause message, (assessCandidateReadiness input).step = .failed cause message :=
  assessCandidateReadiness_failed_iff.mpr (h.imp_right fun hlooping => .inr (.inl hlooping))

def inspect (input : CandidateReadinessInput) (evidence : CandidateRuntimeEvidence)
    (inspection : DockerContainerInspection) : CandidateReadinessAssessment :=
  assessCandidateReadiness { input with inspection, evidence }

theorem inspect_retains (input : CandidateReadinessInput) (evidence : CandidateRuntimeEvidence)
    (inspection : DockerContainerInspection) :
    Retained evidence (inspect input evidence inspection).evidence where
  outOfMemory := (assessCandidateReadiness_grows { input with inspection, evidence }).1
  restarts := (assessCandidateReadiness_grows { input with inspection, evidence }).2
  exitCode := fun code hcode hne => by
    unfold inspect
    rw [assessCandidateReadiness_evidence]
    exact mergeExitCode_retains _ hcode hne

def observed (input : CandidateReadinessInput) (inspections : List DockerContainerInspection) :
    CandidateRuntimeEvidence :=
  inspections.foldl (fun evidence inspection => (inspect input evidence inspection).evidence)
    input.evidence

theorem observed_append_singleton (input : CandidateReadinessInput)
    (inspections : List DockerContainerInspection) (inspection : DockerContainerInspection) :
    observed input (inspections ++ [inspection]) =
      (inspect input (observed input inspections) inspection).evidence := by
  simp [observed]

theorem observed_retained (input : CandidateReadinessInput)
    (earlier later : List DockerContainerInspection) :
    Retained (observed input earlier) (observed input (earlier ++ later)) := by
  induction later using List.reverseRecOn with
  | nil =>
    rw [List.append_nil]
    exact Retained.refl _
  | append_singleton later inspection ih =>
    rw [← List.append_assoc, observed_append_singleton]
    exact ih.trans (inspect_retains ..)

/-- Whatever the container shows later: the memory kill and the restarts that were recorded stay, a
failing exit code stays a failing one, and a container once seen killed or looping is failed at
every look from then on. -/
theorem failure_evidence_is_never_forgotten (input : CandidateReadinessInput)
    (earlier later : List DockerContainerInspection) :
    ((observed input earlier).outOfMemory = true →
        (observed input (earlier ++ later)).outOfMemory = true) ∧
      (observed input earlier).restarts ≤ (observed input (earlier ++ later)).restarts ∧
      (∀ code, (observed input earlier).exitCode = some code → code ≠ 0 →
        ∃ code', (observed input (earlier ++ later)).exitCode = some code' ∧ code' ≠ 0) ∧
      ∀ inspection, (observed input earlier).outOfMemory = true ∨
          restartLoopThreshold ≤ (observed input earlier).restarts →
        ∃ cause message, (inspect input (observed input (earlier ++ later)) inspection).step =
          .failed cause message := by
  have hkept := observed_retained input earlier later
  refine ⟨hkept.outOfMemory, hkept.restarts, hkept.exitCode, fun inspection hseen => ?_⟩
  have hlook := hkept.trans (inspect_retains input _ inspection)
  apply assessCandidateReadiness_condemned
  rcases hseen with hkilled | hlooping
  · exact .inl (hlook.outOfMemory hkilled)
  · exact .inr (le_trans hlooping hlook.restarts)

theorem assessCandidateReadiness_terminal {input : CandidateReadinessInput} {status : String}
    (hs : statusOf input.inspection = some status) (ht : status ∈ terminalStatuses) :
    ∃ cause message, (assessCandidateReadiness input).step = .failed cause message :=
  assessCandidateReadiness_failed_iff.mpr (.inr (.inl ⟨status, ht, hs⟩))

variable {σ : Type}

def countRecentRestarts (inspection : DockerContainerInspection) (untilMs : ℤ) :
    AgentMethod σ ℤ :=
  let restarts := readRestartCount inspection
  if restarts = 0 then pure 0
  else do
    match ← Method.settle (request
        (.countContainerExits inspection.id (untilMs - recentExitWindowMs) untilMs)) with
    | .ok exits => pure (min restarts exits)
    | .error _ => pure 0

theorem countRecentRestarts_eq_lift (inspection : DockerContainerInspection) (untilMs : ℤ) :
    (countRecentRestarts inspection untilMs : AgentMethod σ ℤ) =
      Method.lift (countRecentRestarts inspection untilMs) := by
  unfold countRecentRestarts
  dsimp only
  split
  · rfl
  · refine Method.bind_eq_lift (Method.settle_eq_lift (request_eq_lift _)) fun r => ?_
    cases r <;> rfl

/-- Whether the container has been up for longer than a loop of `loopThreshold` restarts would
have let it. A start that Docker does not report, which reads as `NaN`, is no evidence of that. -/
def hasOutlastedRestartLoop (inspection : DockerContainerInspection) (untilMs loopThreshold : ℤ) :
    Bool :=
  isRunning inspection && statusOf inspection = some "running" &&
    match (inspection.state.bind ContainerState.startedAt).bind DateText.parsed with
    | none => false
    | some startedAt =>
      decide ((startedAt : ℚ) ≤ untilMs - recentExitWindowMs / loopThreshold)

def countRestartLoop (inspection : DockerContainerInspection) (untilMs loopThreshold : ℤ) :
    AgentMethod σ ℤ :=
  if hasOutlastedRestartLoop inspection untilMs loopThreshold then pure 0
  else countRecentRestarts inspection untilMs

end CandidateReadiness

end NouvaAgent
