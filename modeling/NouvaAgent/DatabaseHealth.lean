import NouvaAgent.DatabaseProvision
import NouvaAgent.Interaction.Arrays

namespace NouvaAgent

open Text Interaction DatabaseProvision

structure ListedContainer where
  id : String
  names : Option (List String) := none
  labels : Option TextRecord := none
  deriving DecidableEq, Repr

structure DatabaseInspection extends DockerContainerInspection where
  env : Option (List String)
  cmd : Option (List String)
  portBindings : Option (List String)

structure ManagedDatabaseContainer where
  serviceId : String
  containerId : String
  containerName : String
  engine : DatabaseEngine
  deriving DecidableEq, Repr

structure InventoriedDatabaseContainer where
  serviceId : String
  containerId : String
  containerName : String
  engine : Option DatabaseEngine
  deriving DecidableEq, Repr

inductive DatabaseRuntimeHealthState
  | ready
  | unavailable
  | unknown
  deriving DecidableEq, Repr

inductive DatabaseRuntimeHealthReason
  | authenticatedProbeSucceeded
  | containerMissing
  | containerRestarting
  | containerExited
  | containerPaused
  | incompatibleHostKernel
  | probeUnavailable
  deriving DecidableEq, Repr

structure DatabaseRuntimeHealthObservation where
  serviceId : String
  containerId : String
  containerName : String
  engine : String
  state : DatabaseRuntimeHealthState
  reason : DatabaseRuntimeHealthReason
  observedAt : String
  deriving DecidableEq, Repr

structure DatabaseRuntimeHealthReport where
  observedAt : String
  containers : ℕ
  deriving DecidableEq, Repr

def InventoriedDatabaseContainer.managed (container : InventoriedDatabaseContainer)
    (engine : DatabaseEngine) : ManagedDatabaseContainer :=
  { serviceId := container.serviceId, containerId := container.containerId
    containerName := container.containerName, engine }

abbrev DatabaseIdentity := String × String × String × String

def InventoriedDatabaseContainer.identity (container : InventoriedDatabaseContainer) : DatabaseIdentity :=
  (container.serviceId, container.containerId, container.containerName,
    (container.engine.map DatabaseEngine.text).getD "")

def DatabaseRuntimeHealthObservation.identity (observation : DatabaseRuntimeHealthObservation) :
    DatabaseIdentity :=
  (observation.serviceId, observation.containerId, observation.containerName, observation.engine)

namespace DatabaseHealth

inductive HealthCall
  | inspectContainer (containerName : String)
  | containerLogs (containerName : String)
  | runProbe (container : ManagedDatabaseContainer) (inspection : DatabaseInspection)
      (probe : DatabaseReadinessProbeCommand)
  | now

abbrev HealthCall.Answer : HealthCall → Type
  | inspectContainer _ => Except CallError (Option DatabaseInspection)
  | containerLogs _ => Except CallError String
  | runProbe _ _ _ => Except CallError Unit
  | now => ℤ

abbrev HealthProgram (α : Type) := Program HealthCall.Answer α

def databaseEngines : List DatabaseEngine := [.postgres, .mongodb, .mysql, .redis]

def readEngineFromContainerName (containerName : String) : Option DatabaseEngine :=
  databaseEngines.find? fun engine => startsWith ("nouva-" ++ engine.text ++ "-") containerName

def readManagedDatabaseContainer (container : ListedContainer) :
    Option InventoriedDatabaseContainer := do
  let labels := container.labels.getD []
  let serviceId ← present (labels.lookup "nouva.service.id")
  let containerName ← present ((container.names.bind List.head?).map withoutSlash)
  if labels.lookup "nouva.kind" ≠ some "database" then none
  else
    let labelled := (labels.lookup "nouva.service.variant").bind fun variant =>
      databaseEngines.find? (·.text = variant)
    some { serviceId, containerId := container.id, containerName
           engine := labelled.or (readEngineFromContainerName containerName) }

def setEntry (record : TextRecord) (name value : String) : TextRecord :=
  if record.any (·.1 = name) then record.map fun entry => if entry.1 = name then (name, value) else entry
  else record ++ [(name, value)]

def readEnvVars (inspection : DatabaseInspection) : TextRecord :=
  ((inspection.env.getD []).filterMap splitEntry).foldl
    (fun record entry => setEntry record entry.1 entry.2) []

def readDatabaseProbeCredentials (engine : DatabaseEngine) (inspection : DatabaseInspection) :
    Option DatabaseProbeCredentials :=
  readDatabaseProbeCredentialsFromRuntime engine (readEnvVars inspection) (inspection.cmd.getD [])

def parseInt (text : String) : Option ℤ :=
  let (negative, unsigned) := match text.toList.dropWhile isWhiteSpace with
    | '-' :: rest => (true, rest)
    | '+' :: rest => (false, rest)
    | rest => (false, rest)
  let digits := unsigned.takeWhile Char.isDigit
  if digits = [] then none
  else (readDigits 10 digits).map fun n => if negative then -n else n

def defaultEnginePort : DatabaseEngine → ℤ
  | .postgres => 5432
  | .mongodb => 27017
  | .mysql => 3306
  | .redis => 6379

def resolveDatabaseInternalPort (engine : DatabaseEngine) (inspection : DatabaseInspection) : ℤ :=
  ((inspection.portBindings.getD []).findSome? fun key =>
    (parseInt (String.ofList (key.toList.takeWhile (· ≠ '/')))).filter (0 < ·)).getD
      (defaultEnginePort engine)

def unavailableReason (status : String) : Option DatabaseRuntimeHealthReason :=
  if status = "restarting" then some .containerRestarting
  else if status ∈ ["exited", "dead", "removing"] then some .containerExited
  else if status = "paused" then some .containerPaused
  else none

section

variable (container : ManagedDatabaseContainer)

def report (state : DatabaseRuntimeHealthState) (reason : DatabaseRuntimeHealthReason) :
    HealthProgram DatabaseRuntimeHealthObservation :=
  .call .now fun time => .ret
    { serviceId := container.serviceId, containerId := container.containerId
      containerName := container.containerName, engine := container.engine.text, state, reason
      observedAt := toISOString time }

def hasKnownKernelIncompatibility (containerName : String) : HealthProgram Bool :=
  .call (.containerLogs containerName) fun
    | .ok logs => .ret (includesText "MongoDB cannot start: Linux kernel versions" logs)
    | .error _ => .ret false

def probeDatabase (inspection : DatabaseInspection) (credentials : DatabaseProbeCredentials) :
    HealthProgram DatabaseRuntimeHealthObservation :=
  let probe := buildDatabaseReadinessProbe container.engine container.containerName
    (resolveDatabaseInternalPort container.engine inspection) credentials
  .call (.runProbe container inspection probe) fun
    | .error _ => report container .unknown .probeUnavailable
    | .ok () => report container .ready .authenticatedProbeSucceeded

def observeInspected (inspection : DatabaseInspection) :
    HealthProgram DatabaseRuntimeHealthObservation :=
  let status := (CandidateReadiness.statusOf inspection.toDockerContainerInspection).getD ""
  match unavailableReason status with
  | some reason => (hasKnownKernelIncompatibility container.containerName).bind fun incompatible =>
      report container .unavailable (if incompatible then .incompatibleHostKernel else reason)
  | none =>
    if CandidateReadiness.isRunning inspection.toDockerContainerInspection then
      match readDatabaseProbeCredentials container.engine inspection with
      | none => report container .unknown .probeUnavailable
      | some credentials => probeDatabase container inspection credentials
    else report container .unknown .probeUnavailable

def observeDatabaseRuntimeHealth : HealthProgram DatabaseRuntimeHealthObservation :=
  .call (.inspectContainer container.containerName) fun
    | .error _ => report container .unknown .probeUnavailable
    | .ok none => report container .unavailable .containerMissing
    | .ok (some inspection) => observeInspected container inspection

end

structure Collection where
  observedAt : String
  listing : List ListedContainer
  concurrency : Option ℚ

/-- A call of `observeDatabaseRuntimeHealth` that a worker awaits, with the answers it has had. -/
structure Flight where
  index : ℕ
  container : ManagedDatabaseContainer
  answered : History HealthCall.Answer
  program : HealthProgram DatabaseRuntimeHealthObservation

structure Finished where
  index : ℕ
  events : History HealthCall.Answer
  observation : DatabaseRuntimeHealthObservation

/-- The locals that the workers share, and what has happened so far, the latest last. The array
`observations` is the one at reference 0. -/
structure State where
  arrays : Arrays DatabaseRuntimeHealthObservation
  next : ℕ := 0
  flights : List Flight := []
  published : List DatabaseRuntimeHealthReport := []
  started : List ℕ := []
  finished : List Finished := []
  returned : Option DatabaseRuntimeHealthReport := none

def takeNext : List InventoriedDatabaseContainer → ℕ → ℕ × Option (ℕ × ManagedDatabaseContainer)
  | [], next => (next, none)
  | container :: rest, next =>
    match container.engine with
    | none => takeNext rest (next + 1)
    | some engine => (next + 1, some (next, container.managed engine))

namespace Collection

variable (c : Collection) (s : State)

def containers : List InventoriedDatabaseContainer := c.listing.filterMap readManagedDatabaseContainer

def placeholder (container : InventoriedDatabaseContainer) : DatabaseRuntimeHealthObservation :=
  { serviceId := container.serviceId, containerId := container.containerId
    containerName := container.containerName
    engine := (container.engine.map DatabaseEngine.text).getD "", state := .unknown
    reason := .probeUnavailable, observedAt := c.observedAt }

def observations : ℕ := 0

def snapshot : State × DatabaseRuntimeHealthReport :=
  ({ s with arrays := s.arrays.allocate ((s.arrays.read observations).getD []) },
    ⟨c.observedAt, s.arrays.length⟩)

def publish : State :=
  let (copied, report) := c.snapshot s
  { copied with published := s.published ++ [report] }

def worker : State :=
  match takeNext (c.containers.drop s.next) s.next with
  | (next, none) => { s with next }
  | (next, some (index, container)) => { s with
      next
      started := s.started ++ [index]
      flights := s.flights ++ [⟨index, container, [], observeDatabaseRuntimeHealth container⟩] }

/-- `Math.min(concurrency, containers.length)` as an array's length. -/
def workers : ℕ := (min (max 1 (c.concurrency.getD 2)) (c.containers.length : ℚ)).floor.toNat

def start : State :=
  (c.worker)^[c.workers] (c.publish { arrays := [c.containers.map c.placeholder] })

def resume (flight : Flight) (observation : DatabaseRuntimeHealthObservation) : State :=
  c.worker (c.publish { s with
    arrays := s.arrays.store observations flight.index observation
    finished := s.finished ++ [⟨flight.index, flight.answered, observation⟩] })

def finish : State :=
  let (copied, report) := c.snapshot s
  { copied with returned := some report }

end Collection

inductive Step (c : Collection) : State → State → Prop
  | answer {s : State} {before after : List Flight} {flight : Flight} {call : HealthCall}
      {next : call.Answer → HealthProgram DatabaseRuntimeHealthObservation} (answer : call.Answer)
      (h : s.flights = before ++ { flight with program := .call call next } :: after) :
      Step c s { s with flights := before ++ { flight with
        answered := ⟨call, some answer⟩ :: flight.answered, program := next answer } :: after }
  | resume {s : State} {before after : List Flight} {flight : Flight}
      {observation : DatabaseRuntimeHealthObservation}
      (h : s.flights = before ++ { flight with program := .ret observation } :: after) :
      Step c s (c.resume { s with flights := before ++ after } flight observation)
  | finish {s : State} (h : s.flights = []) (hreturned : s.returned = none) :
      Step c s (c.finish s)

inductive Reachable (c : Collection) : State → Prop
  | start : Reachable c c.start
  | step {s s' : State} (h : Reachable c s) (hs : Step c s s') : Reachable c s'

end DatabaseHealth

end NouvaAgent
