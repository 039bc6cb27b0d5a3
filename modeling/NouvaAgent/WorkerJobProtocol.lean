import Mathlib.Logic.Relation
import NouvaAgent.WorkerJobs

namespace NouvaAgent.WorkerJobProtocol

open Text Interaction Host Method WorkerJobs

structure ScheduledRun where
  dataDir : String
  serviceId : String
  scheduleRunId : String

namespace ScheduledRun

variable (run : ScheduledRun)

def containerName : String := buildWorkerJobContainerName run.serviceId run.scheduleRunId

def receiptPath : String := getWorkerJobReceiptPath run.dataDir run.scheduleRunId

end ScheduledRun

inductive JobState
  | created
  | running
  | exited (code : ℤ)
  deriving DecidableEq

/-- Docker's ids are written without white space. -/
structure JobContainer where
  id : String
  trimmed : trim id = id
  state : JobState

inductive Mark
  | created
  | started
  | returned (status : WorkerJobStatus)
  deriving DecidableEq

structure Jobs where
  containers : String → Option JobContainer
  log : List Mark

structure World where
  files : Files
  jobs : Jobs

namespace Jobs

def put (j : Jobs) (name : String) (c : JobContainer) : Jobs :=
  { j with containers := Function.update j.containers name (some c) }

def mark (j : Jobs) (m : Mark) : Jobs := { j with log := m :: j.log }

def Refers (j : Jobs) (nameOrId name : String) (c : JobContainer) : Prop :=
  j.containers name = some c ∧ (nameOrId = name ∨ nameOrId = c.id)

end Jobs

/-- A container that runs exits on its own. No restart policy starts it again. -/
inductive Drift : Jobs → Jobs → Prop
  | exits (j : Jobs) (name : String) (c : JobContainer) (code : ℤ)
      (hc : j.containers name = some c) (hs : c.state = .running) :
      Drift j (j.put name { c with state := .exited code })

/-- Docker refuses a second container of one name. -/
def Makes (j : Jobs) (name id : String) (j' : Jobs) : Prop :=
  ∃ htrim : trim id = id, j.containers name = none ∧
    j' = (j.put name ⟨id, htrim, .created⟩).mark .created

def CreateEffect (j : Jobs) (name : String) (r : Option (Except CallError String)) (j' : Jobs) :
    Prop :=
  match r with
  | some (.ok id) => Makes j name id j'
  | _ => j' = j ∨ ∃ id, Makes j name id j'

/-- Starting a container that is not running runs its command, were it for a second time. -/
def Starts (j : Jobs) (nameOrId : String) (j' : Jobs) : Prop :=
  ∃ name c, j.Refers nameOrId name c ∧ c.state ≠ .running ∧
    j' = (j.put name { c with state := .running }).mark .started

def StartEffect (j : Jobs) (nameOrId : String) (r : Option (Except CallError Unit)) (j' : Jobs) :
    Prop :=
  match r with
  | some (.ok _) => Starts j nameOrId j' ∨
      ((∀ name c, j.Refers nameOrId name c → c.state = .running) ∧ j' = j)
  | _ => j' = j ∨ Starts j nameOrId j'

def Reflects (c : JobContainer) (inspection : DockerContainerInspection) : Prop :=
  inspection.id = c.id ∧ ∃ state, inspection.state = some state ∧
    match c.state with
    | .created => state.running = some false ∧ state.status = some "created"
    | .running => state.running = some true
    | .exited code => state.running = some false ∧ state.exitCode = some code ∧
        ∃ status, state.status = some status ∧ status ∈ ["exited", "dead", "removing"]

/-- Docker reports the state of the run's containers. Another container, which may bear the same
name, is no container of this run. -/
def Truthful (run : ScheduledRun) (j : Jobs) (nameOrId : String)
    (r : Option (Except CallError (Option DockerContainerInspection))) : Prop :=
  ∀ answer, r = some (.ok answer) →
    (∀ name c, j.Refers nameOrId name c → ∃ inspection, answer = some inspection ∧
      Reflects c inspection) ∧
    ((∀ name c, ¬ j.Refers nameOrId name c) → ∀ inspection, answer = some inspection →
      inspection.label "nouva.schedule.run.id" ≠ some run.scheduleRunId)

def effect (run : ScheduledRun) (w : World) : (c : HostCall) → Option c.Answer → World → Prop
  | .agent (.request (.createContainer spec)), r, w' =>
    w'.files = w.files ∧ CreateEffect w.jobs spec.name r w'.jobs
  | .agent (.request (.startContainer nameOrId)), r, w' =>
    w'.files = w.files ∧ StartEffect w.jobs nameOrId r w'.jobs
  | .agent (.request (.inspectContainer nameOrId)), r, w' =>
    w' = w ∧ Truthful run w.jobs nameOrId r
  | .readFile path, r, w' => w' = w ∧ ReadEffect path r w.files
  | .file step, r, w' => w'.jobs = w.jobs ∧ step.Effect r w.files w'.files
  | _, _, w' => w' = w

def model (run : ScheduledRun) : Model HostCall.Answer World := fun w c r w' =>
  ∃ j, Relation.ReflTransGen Drift w.jobs j ∧ effect run { w with jobs := j } c r w'

inductive JobCall
  | start (payload : WorkerJobPayload)
  | inspect
  | stop

namespace JobCall

def For (run : ScheduledRun) : JobCall → Prop
  | start payload =>
    payload.serviceId = run.serviceId ∧ payload.scheduleRunId = run.scheduleRunId
  | inspect | stop => True

def perform (run : ScheduledRun) (environment : WorkerRuntimeEnvironment) :
    JobCall → HostAction WorkerJobResult
  | start payload => startWorkerJob environment payload
  | inspect => inspectWorkerJob environment run.scheduleRunId
  | stop => stopWorkerJob environment run.scheduleRunId

end JobCall

namespace World

def stored (run : ScheduledRun) (w : World) : Option WorkerJobReceipt :=
  (w.files run.receiptPath).bind fun contents =>
    (WorkerJobReceipt.ofContents run.scheduleRunId contents).toOption

def returning (w : World) : Outcome (Except Failure WorkerJobResult × Unit) → World
  | .done (.ok result, _) => { w with jobs := w.jobs.mark (.returned result.job.status) }
  | _ => w

end World

/-- The worlds reached by calls for the run, one at a time, each of them in a world that `G` admits.
Every call may fail or be cut off at any step, before or after the step took effect; none cleans the
run up. -/
inductive Reachable (run : ScheduledRun) (G : World → JobCall → Prop) : World → Prop
  | initial (files : Files) (h : files run.receiptPath = none) :
      Reachable run G ⟨files, fun _ => none, []⟩
  | drift {w : World} {j : Jobs} (h : Reachable run G w) (hd : Drift w.jobs j) :
      Reachable run G { w with jobs := j }
  | call {w w' : World} {o : Outcome (Except Failure WorkerJobResult × Unit)}
      (h : Reachable run G w) (environment : WorkerRuntimeEnvironment)
      (henvironment : environment.dataDir = run.dataDir) (c : JobCall) (hfor : c.For run)
      (hG : G w c) (hrun : Program.Exec (model run) (c.perform run environment ()) w o w') :
      Reachable run G (w'.returning o)

def Ran (run : ScheduledRun) (j : Jobs) : Prop :=
  .started ∈ j.log ∧ ∃ c, j.containers run.containerName = some c ∧ c.state = .exited 0

def NeverStarted (run : ScheduledRun) (w : World) : Prop :=
  ∃ receipt c, w.stored run = some receipt ∧ receipt.isTerminal = false ∧
    w.jobs.containers run.containerName = some c ∧ c.state = .created

/-- No inspection looks at a job whose start was cut off before its container was started. -/
def Careful (run : ScheduledRun) (w : World) : JobCall → Prop
  | .inspect => ¬ NeverStarted run w
  | _ => True

structure Once (run : ScheduledRun) (j : Jobs) : Prop where
  others : ∀ name, name ≠ run.containerName → j.containers name = none
  created : j.log.count .created ≤ 1
  unmade : j.containers run.containerName = none → .created ∉ j.log ∧ .started ∉ j.log
  started : j.log.count .started ≤ 1
  unstarted : ∀ c, j.containers run.containerName = some c → (c.state = .created ↔ .started ∉ j.log)

structure Recorded (run : ScheduledRun) (receipt : WorkerJobReceipt) (j : Jobs) : Prop where
  known : receipt.status.Known
  id : receipt.scheduleRunId = run.scheduleRunId
  container : ∃ c, j.containers run.containerName = some c ∧ receipt.containerId = c.id ∧
    (receipt.status = .running → c.state ≠ .created) ∧
    (receipt.status = .succeeded → c.state = .exited 0)

def Ended (run : ScheduledRun) (j : Jobs) : Prop :=
  ∃ c, j.containers run.containerName = some c ∧ c.state = .exited 0

structure Honest (run : ScheduledRun) (w : World) : Prop where
  stored : ∀ contents, w.files run.receiptPath = some contents →
    ∃ receipt, contents = receipt.contents ∧ Recorded run receipt w.jobs
  returned : .returned .succeeded ∈ w.jobs.log → Ended run w.jobs

structure Inv (run : ScheduledRun) (b : Prop) (w : World) : Prop where
  once : Once run w.jobs
  honest : b → Honest run w

def Stable (P : Jobs → Prop) : Prop := ∀ j j', Drift j j' → P j → P j'

variable {run : ScheduledRun} {b : Prop} {w : World} {j j' : Jobs} {P : Jobs → Prop}

@[simp] theorem Jobs.put_self (j : Jobs) (name : String) (c : JobContainer) :
    (j.put name c).containers name = some c := Function.update_self name _ _

@[simp] theorem Jobs.put_log (j : Jobs) (name : String) (c : JobContainer) :
    (j.put name c).log = j.log := rfl

@[simp] theorem Jobs.mark_containers (j : Jobs) (m : Mark) :
    (j.mark m).containers = j.containers := rfl

@[simp] theorem Jobs.mark_log (j : Jobs) (m : Mark) : (j.mark m).log = m :: j.log := rfl

theorem Jobs.put_of_ne {name other : String} (h : other ≠ name) (j : Jobs) (c : JobContainer) :
    (j.put name c).containers other = j.containers other := Function.update_of_ne h _ _

theorem Once.refers {nameOrId name : String} {c : JobContainer} (h : Once run j)
    (hr : j.Refers nameOrId name c) : name = run.containerName := by
  by_contra hn
  have hc := hr.1
  simp [h.others name hn] at hc

theorem Stable.drifts (hP : Stable P) (hd : Relation.ReflTransGen Drift j j') (h : P j) : P j' := by
  induction hd with
  | refl => exact h
  | tail _ hd ih => exact hP _ _ hd ih

theorem stable_and {R : Jobs → Prop} (hP : Stable P) (hR : Stable R) : Stable fun j => P j ∧ R j :=
  fun j j' hd h => ⟨hP j j' hd h.1, hR j j' hd h.2⟩

theorem stable_const (p : Prop) : Stable fun _ => p := fun _ _ _ h => h

theorem stable_imp {p : Prop} (hP : Stable P) : Stable fun j => p → P j :=
  fun j j' hd h hp => hP j j' hd (h hp)

theorem Drift.container {name : String} {c' : JobContainer} (hd : Drift j j')
    (h : j'.containers name = some c') : ∃ c, j.containers name = some c ∧ c'.id = c.id ∧
      (c' = c ∨ (c.state = .running ∧ ∃ code, c'.state = .exited code)) := by
  cases hd with
  | exits name' c code hc hs =>
    by_cases hn : name = name'
    · subst hn
      obtain rfl : { c with state := .exited code } = c' := by
        simpa [Jobs.put] using h
      exact ⟨c, hc, rfl, .inr ⟨hs, code, rfl⟩⟩
    · exact ⟨c', by simpa [Jobs.put, hn] using h, rfl, .inl rfl⟩

theorem Drift.kept {name : String} {c : JobContainer} (hd : Drift j j')
    (h : j.containers name = some c) : ∃ c', j'.containers name = some c' ∧ c'.id = c.id ∧
      (c' = c ∨ (c.state = .running ∧ ∃ code, c'.state = .exited code)) := by
  cases hd with
  | exits name' d code hd hs =>
    by_cases hn : name = name'
    · subst hn
      obtain rfl : d = c := Option.some.inj (hd.symm.trans h)
      exact ⟨{ d with state := .exited code }, by simp [Jobs.put], rfl, .inr ⟨hs, code, rfl⟩⟩
    · exact ⟨c, by simpa [Jobs.put, hn] using h, rfl, .inl rfl⟩

theorem Drift.log (hd : Drift j j') : j'.log = j.log := by
  cases hd
  rfl

theorem Drift.absent {name : String} (hd : Drift j j') (h : j.containers name = none) :
    j'.containers name = none := by
  cases hc : j'.containers name with
  | none => rfl
  | some c' =>
    obtain ⟨c, hc, _⟩ := hd.container hc
    simp [h] at hc

theorem stable_container {name : String} {R : JobContainer → Prop}
    (h : ∀ c code, c.state = .running → R c → R { c with state := .exited code }) :
    Stable fun j => ∃ c, j.containers name = some c ∧ R c := by
  rintro j j' ⟨name', d, code, hd, hs⟩ ⟨c, hc, hR⟩
  by_cases hn : name = name'
  · subst hn
    obtain rfl : d = c := Option.some.inj (hd.symm.trans hc)
    exact ⟨_, by simp [Jobs.put], h d code hs hR⟩
  · exact ⟨c, by simpa [Jobs.put, hn] using hc, hR⟩

theorem once_stable (run : ScheduledRun) : Stable (Once run) := by
  intro j j' hd h
  have hlog := hd.log
  refine ⟨fun name hn => hd.absent (h.others name hn), hlog ▸ h.created, fun hnone => ?_,
    hlog ▸ h.started, fun c' hc' => ?_⟩
  · rw [hlog]
    cases hc : j.containers run.containerName with
    | none => exact h.unmade hc
    | some c =>
      obtain ⟨c', hc', _⟩ := hd.kept hc
      simp [hnone] at hc'
  · rw [hlog]
    obtain ⟨c, hc, _, rfl | ⟨hs, code, hcode⟩⟩ := hd.container hc'
    · exact h.unstarted _ hc
    · rw [← h.unstarted c hc, hs, hcode]
      simp

theorem ended_stable (run : ScheduledRun) : Stable (Ended run) :=
  stable_container fun c code hs hc => by simp [hs] at hc

theorem recorded_stable (run : ScheduledRun) (receipt : WorkerJobReceipt) :
    Stable (Recorded run receipt) := by
  intro j j' hd h
  refine ⟨h.known, h.id, stable_container ?_ j j' hd h.container⟩
  rintro c code hs ⟨hid, hrunning, hsucceeded⟩
  refine ⟨hid, fun _ => by simp, fun hr => ?_⟩
  have := hsucceeded hr
  simp [hs] at this

theorem honest_stable (run : ScheduledRun) (files : Files) :
    Stable fun j => Honest run ⟨files, j⟩ := by
  intro j j' hd h
  refine ⟨fun contents hc => ?_, fun hr => ?_⟩
  · obtain ⟨receipt, heq, hrec⟩ := h.stored contents hc
    exact ⟨receipt, heq, recorded_stable run receipt _ _ hd hrec⟩
  · have hlog : j'.log = j.log := hd.log
    exact ended_stable run _ _ hd (h.returned (hlog ▸ hr))

theorem inv_stable (run : ScheduledRun) (b : Prop) (files : Files) :
    Stable fun j => Inv run b ⟨files, j⟩ := fun j j' hd h =>
  ⟨once_stable run j j' hd h.once, fun hb => honest_stable run files j j' hd (h.honest hb)⟩

theorem Inv.drifts (hd : Relation.ReflTransGen Drift w.jobs j) (h : Inv run b w) :
    Inv run b { w with jobs := j } := (inv_stable run b w.files).drifts hd h

def Calm : HostCall → Prop
  | .agent (.request r) => match r with
    | .createContainer _ | .startContainer _ => False
    | _ => True
  | .file _ => False
  | _ => True

theorem Calm.keeps {c : HostCall} {r : Option c.Answer} {w' : World} (hc : Calm c)
    (hm : model run w c r w') : ∃ j, Relation.ReflTransGen Drift w.jobs j ∧
      w' = { w with jobs := j } := by
  obtain ⟨j, hd, he⟩ := hm
  refine ⟨j, hd, ?_⟩
  cases c with
  | agent c =>
    cases c with
    | request q =>
      cases q with
      | createContainer spec => exact hc.elim
      | startContainer nameOrId => exact hc.elim
      | inspectContainer nameOrId => exact he.1
      | _ => exact he
    | now => exact he
    | sleep ms => exact he
  | readFile path => exact he.1
  | file step => exact hc.elim
  | removeVolume name force => exact he
  | listenOnPort port => exact he
  | restartContainer nameOrId => exact he

section

variable {α : Type}

abbrev Gives (run : ScheduledRun) (b : Prop) (R : α → World → Prop) : Post Failure Unit α World :=
  Post.keeping (Inv run b) R

theorem calm_gives {p : HostAction α} (hu : p.Uses Calm) (hP : Stable P) (h : Inv run b w)
    (hp : P w.jobs) : p.wp (model run) (Gives run b fun _ w => P w.jobs) () w := by
  refine hu.keeping (fun w c r w' hc hm h hp => ?_) h hp
  obtain ⟨j, hd, rfl⟩ := Calm.keeps hc hm
  exact ⟨h.drifts hd, hP.drifts hd hp⟩

end

def statusOf (inspection : DockerContainerInspection) : Option String :=
  inspection.state.bind ContainerState.status

structure Shows (c : JobContainer) (inspection : DockerContainerInspection) : Prop where
  id : inspection.id = c.id
  running : inspection.running = true → c.state ≠ .created
  stopped : inspection.running = false →
    (c.state = .created ∧ statusOf inspection = some "created") ∨
      (c.state = .exited (exitCodeOf inspection) ∧
        (statusOf inspection).map toLowerCase ≠ some "created")

theorem lowerCase_created : toLowerCase "created" = "created" := by decide +kernel

theorem Reflects.shows {c : JobContainer} {inspection : DockerContainerInspection}
    (h : Reflects c inspection) : Shows c inspection := by
  obtain ⟨hid, state, hstate, h⟩ := h
  have hrunning : inspection.running = state.running.getD false := by
    simp [DockerContainerInspection.running, hstate]
  have hstatus : statusOf inspection = state.status := by simp [statusOf, hstate]
  have hcode : exitCodeOf inspection = state.exitCode.getD 1 := by simp [exitCodeOf, hstate]
  cases hc : c.state with
  | created =>
    rw [hc] at h
    obtain ⟨hr, hs⟩ := h
    rw [hr] at hrunning
    exact ⟨hid, fun ht => by simp [hrunning] at ht, fun _ => .inl ⟨hc, hstatus.trans hs⟩⟩
  | running =>
    rw [hc] at h
    rw [h] at hrunning
    exact ⟨hid, fun _ => by simp [hc], fun ht => by simp [hrunning] at ht⟩
  | exited code =>
    rw [hc] at h
    obtain ⟨hr, hx, status, hs, hmem⟩ := h
    rw [hr] at hrunning
    refine ⟨hid, fun ht => by simp [hrunning] at ht, fun _ => .inr ⟨?_, ?_⟩⟩
    · rw [hcode, hx, hc, Option.getD_some]
    · have hne : ∀ s ∈ ["exited", "dead", "removing"], toLowerCase s ≠ "created" := by
        decide +kernel
      rw [hstatus, hs, Option.map_some, ne_eq, Option.some.injEq]
      exact hne status hmem

structure Saw (run : ScheduledRun) (nameOrId : String) (answer : Option DockerContainerInspection)
    (j : Jobs) : Prop where
  found : ∀ name c, j.Refers nameOrId name c → ∃ inspection, answer = some inspection ∧
    Shows c inspection
  foreign : (∀ name c, ¬ j.Refers nameOrId name c) → ∀ inspection, answer = some inspection →
    inspection.label "nouva.schedule.run.id" ≠ some run.scheduleRunId

theorem saw_stable (run : ScheduledRun) (nameOrId : String)
    (answer : Option DockerContainerInspection) : Stable (Saw run nameOrId answer) := by
  intro j j' hd h
  refine ⟨fun name c' hr => ?_, fun hnone => h.foreign fun name c hr => ?_⟩
  · obtain ⟨hc', hname⟩ := hr
    obtain ⟨c, hc, hid, hstate⟩ := hd.container hc'
    obtain ⟨inspection, hanswer, hshows⟩ := h.found name c ⟨hc, hid ▸ hname⟩
    refine ⟨inspection, hanswer, ?_⟩
    rcases hstate with rfl | ⟨hs, code, hcode⟩
    · exact hshows
    -- The container ran when it was looked at, so the inspection cannot say that it does not.
    refine ⟨hshows.id.trans hid.symm, fun _ => by simp [hcode], fun hr => ?_⟩
    rcases hshows.stopped hr with ⟨hcreated, _⟩ | ⟨hexited, _⟩
    · simp [hcreated] at hs
    · simp [hexited] at hs
  · obtain ⟨hc, hname⟩ := hr
    obtain ⟨c', hc', hid, _⟩ := hd.kept hc
    exact hnone name c' ⟨hc', hid ▸ hname⟩

theorem inspect_gives (nameOrId : String) (hP : Stable P) (h : Inv run b w) (hp : P w.jobs) :
    (request (.inspectContainer nameOrId) : HostAction _).wp (model run)
      (Gives run b fun answer w => P w.jobs ∧ Saw run nameOrId answer w.jobs) () w := by
  refine (wp_request _).mpr ⟨?_, ?_, ?_⟩
  · rintro w' ⟨j, hd, rfl, _⟩
    exact h.drifts hd
  · rintro e w' ⟨j, hd, rfl, _⟩
    exact h.drifts hd
  · rintro answer w' ⟨j, hd, rfl, htrue⟩
    obtain ⟨hfound, hforeign⟩ := htrue answer rfl
    refine ⟨h.drifts hd, hP.drifts hd hp, fun name c hr => ?_, hforeign⟩
    obtain ⟨inspection, hanswer, hreflects⟩ := hfound name c hr
    exact ⟨inspection, hanswer, hreflects.shows⟩

variable {environment : WorkerRuntimeEnvironment}

theorem read_gives (henv : environment.dataDir = run.dataDir) (hP : Stable P) (h : Inv run b w)
    (hp : P w.jobs) : (readWorkerJobReceipt environment run.scheduleRunId).wp (model run)
      (Gives run b fun r w' => P w'.jobs ∧ ∀ receipt, r = some receipt → b →
        Recorded run receipt w'.jobs ∧ w.stored run = some receipt) () w := by
  refine (wp_bind _ _).mpr ((wp_ask _).mpr ⟨?_, ?_⟩)
  · rintro w' ⟨j, hd, rfl, _⟩
    exact h.drifts hd
  · rintro (e | contents) w' ⟨j, hd, rfl, hread⟩
    · have hinv : Inv run b { w with jobs := j } := h.drifts hd
      dsimp only
      split
      · exact keeping_pure hinv ⟨hP.drifts hd hp, fun _ hr => nomatch hr⟩
      · exact hinv
    · have hinv : Inv run b { w with jobs := j } := h.drifts hd
      have hfile : w.files run.receiptPath = some contents := by
        have := hread.1 contents rfl
        rwa [henv] at this
      dsimp only
      split
      · next receipt hreceipt =>
        refine keeping_pure hinv ⟨hP.drifts hd hp, fun r hr hb => ?_⟩
        obtain rfl := Option.some.inj hr
        obtain ⟨receipt', rfl, hrec⟩ := (hinv.honest hb).stored contents hfile
        have hparse := WorkerJobReceipt.ofContents_contents hrec.known
        rw [hrec.id, hreceipt] at hparse
        obtain rfl := Except.ok.inj hparse
        refine ⟨hrec, ?_⟩
        simp [World.stored, hfile, hreceipt, Except.toOption]
      · exact hinv

theorem file_gives (step : FileStep) (hP : Stable P) (h : Inv run b w) (hp : P w.jobs)
    (hstep : ∀ files, step.Takes w.files files ∨ step.Fails w.files files → b →
      ∀ contents, files run.receiptPath = some contents → w.files run.receiptPath = some contents ∨
        ∃ receipt, contents = receipt.contents ∧ Recorded run receipt w.jobs) :
    (file step : HostAction Unit).wp (model run)
      (Gives run b fun _ w' => P w'.jobs ∧ step.Takes w.files w'.files) () w := by
  have hinv (j : Jobs) (files : Files) (hd : Relation.ReflTransGen Drift w.jobs j)
      (hs : step.Takes w.files files ∨ step.Fails w.files files) : Inv run b ⟨files, j⟩ := by
    have hkept : Inv run b { w with jobs := j } := h.drifts hd
    refine ⟨hkept.once, fun hb => ⟨fun contents hc => ?_, (hkept.honest hb).returned⟩⟩
    rcases hstep files hs hb contents hc with hold | ⟨receipt, heq, hrec⟩
    · exact (hkept.honest hb).stored contents hold
    · exact ⟨receipt, heq, (recorded_stable run receipt).drifts hd hrec⟩
  refine (wp_file _).mpr ⟨?_, ?_, ?_⟩
  · rintro ⟨files, j⟩ ⟨_, hd, rfl, he⟩
    exact hinv j files hd he
  · rintro e ⟨files, j⟩ ⟨_, hd, rfl, he⟩
    exact hinv j files hd he
  · rintro ⟨files, j⟩ ⟨_, hd, rfl, he⟩
    exact ⟨hinv j files hd (.inl he), hP.drifts hd hp, he⟩

theorem temporaryReceiptPath_ne (environment : WorkerRuntimeEnvironment) (id : String) :
    getWorkerJobReceiptPath environment.dataDir id ≠ temporaryReceiptPath environment id := by
  intro h
  have hlength := congrArg String.length h
  simp only [temporaryReceiptPath, String.length_append] at hlength
  have htmp : ".tmp".length = 4 := by decide
  omega

theorem write_gives (henv : environment.dataDir = run.dataDir) {receipt : WorkerJobReceipt}
    (hP : Stable P) (h : Inv run b w) (hp : P w.jobs) (hr : b → Recorded run receipt w.jobs) :
    (writeWorkerJobReceipt environment receipt).wp (model run)
      (Gives run b fun _ w => P w.jobs) () w := by
  have hpath (hb : b) : run.receiptPath =
      getWorkerJobReceiptPath environment.dataDir receipt.scheduleRunId := by
    rw [henv, (hr hb).id]
    rfl
  have hR : Stable fun j => P j ∧ (b → Recorded run receipt j) :=
    stable_and hP (stable_imp (recorded_stable run receipt))
  refine keeping_bind (T := fun _ w => P w.jobs ∧ (b → Recorded run receipt w.jobs))
    (keeping_mono (file_gives _ hR h ⟨hp, hr⟩ ?_) fun _ _ h => h.1) fun _ w h hp => ?_
  · rintro files (rfl | rfl) _ contents hc <;> exact .inl hc
  refine keeping_bind (T := fun _ w => (P w.jobs ∧ (b → Recorded run receipt w.jobs)) ∧
      w.files (temporaryReceiptPath environment receipt.scheduleRunId) = some receipt.contents)
    (keeping_mono (file_gives _ hR h hp ?_) ?_) fun _ w h hp => ?_
  · rintro files (rfl | ⟨left, rfl⟩) hb contents hc <;>
      rw [hpath hb, Function.update_of_ne (temporaryReceiptPath_ne _ _), ← hpath hb] at hc <;>
      exact .inl hc
  · rintro _ w' ⟨hp, htakes⟩
    exact ⟨hp, by rw [htakes, Function.update_self]⟩
  refine keeping_mono (file_gives _ hR h hp.1 ?_) fun _ _ h => h.1.1
  rintro files (⟨contents', hc', rfl⟩ | rfl) hb contents hc
  · rw [hpath hb, Function.update_self] at hc
    rw [hp.2] at hc'
    exact .inr ⟨receipt, (Option.some.inj hc).symm.trans (Option.some.inj hc').symm,
      hp.1.2 hb⟩
  · exact .inl hc

def Startable (nameOrId : String) (j : Jobs) : Prop :=
  ∀ name c, j.Refers nameOrId name c → c.state = .created

theorem startable_stable (nameOrId : String) : Stable (Startable nameOrId) := by
  rintro j j' hd h name c' ⟨hc', hname⟩
  obtain ⟨c, hc, hid, rfl | ⟨hs, _⟩⟩ := hd.container hc'
  · exact h name _ ⟨hc, hname⟩
  · have := h name c ⟨hc, hid ▸ hname⟩
    simp [this] at hs

theorem start_once {nameOrId : String} (h : Once run j) (hs : Startable nameOrId j)
    (hstart : Starts j nameOrId j') : Once run j' ∧
      ∀ c, j.containers run.containerName = some c →
        j'.containers run.containerName = some { c with state := .running } := by
  obtain ⟨name, c, hr, hne, rfl⟩ := hstart
  obtain rfl := h.refers hr
  have hunstarted := (h.unstarted c hr.1).mp (hs _ c hr)
  have hcount : j.log.count .started = 0 := List.count_eq_zero.mpr hunstarted
  refine ⟨⟨fun name hn => ?_, ?_, fun hnone => ?_, ?_, fun c' hc' => ?_⟩, fun c' hc' => ?_⟩
  · rw [Jobs.mark_containers, Jobs.put_of_ne hn, h.others name hn]
  · simpa using h.created
  · simp at hnone
  · simp [hcount]
  · obtain rfl := Option.some.inj ((j.put_self _ _).symm.trans hc')
    simp
  · obtain rfl := Option.some.inj (hr.1.symm.trans hc')
    exact j.put_self _ _

theorem start_honest {nameOrId : String} (h : Once run w.jobs) (hs : Startable nameOrId w.jobs)
    (hh : Honest run w) (hstart : Starts w.jobs nameOrId j) : Honest run ⟨w.files, j⟩ := by
  obtain ⟨name, c, hr, hne, rfl⟩ := hstart
  obtain rfl := h.refers hr
  have hcreated := hs _ c hr
  refine ⟨fun contents hc => ?_, fun hret => ?_⟩
  · obtain ⟨receipt, heq, hrec⟩ := hh.stored contents hc
    obtain ⟨d, hd, hid, _, hsucceeded⟩ := hrec.container
    obtain rfl := Option.some.inj (hr.1.symm.trans hd)
    refine ⟨receipt, heq, hrec.known, hrec.id, _, w.jobs.put_self _ _, hid, by simp, fun hs => ?_⟩
    have hexited := hsucceeded hs
    simp [hcreated] at hexited
  · have hold : .returned .succeeded ∈ w.jobs.log := by simpa using hret
    obtain ⟨d, hd, hended⟩ := hh.returned hold
    obtain rfl := Option.some.inj (hr.1.symm.trans hd)
    simp [hcreated] at hended

theorem make_inv {id : String} (h : Inv run b w) (hmake : Makes w.jobs run.containerName id j) :
    Inv run b { w with jobs := j } ∧ ∃ c, j.containers run.containerName = some c ∧ id = c.id ∧
      c.state = .created := by
  obtain ⟨htrim, hnone, rfl⟩ := hmake
  obtain ⟨hcreated, hstarted⟩ := h.once.unmade hnone
  have hcount : w.jobs.log.count .created = 0 := List.count_eq_zero.mpr hcreated
  refine ⟨⟨⟨fun name hn => ?_, ?_, fun hn => ?_, ?_, fun c hc => ?_⟩, fun hb => ⟨?_, ?_⟩⟩,
    _, w.jobs.put_self _ _, rfl, rfl⟩
  · rw [Jobs.mark_containers, Jobs.put_of_ne hn, h.once.others name hn]
  · simp [hcount]
  · simp at hn
  · simpa using h.once.started
  · obtain rfl := Option.some.inj ((w.jobs.put_self _ _).symm.trans hc)
    simpa using hstarted
  · intro contents hc
    obtain ⟨receipt, _, hrec⟩ := (h.honest hb).stored contents hc
    obtain ⟨c, hc, _⟩ := hrec.container
    simp [hnone] at hc
  · intro hret
    have hold : .returned .succeeded ∈ w.jobs.log := by simpa using hret
    obtain ⟨c, hc, _⟩ := (h.honest hb).returned hold
    simp [hnone] at hc

def Fresh (run : ScheduledRun) (id : String) (j : Jobs) : Prop :=
  ∃ c, j.containers run.containerName = some c ∧ id = c.id ∧ c.state = .created

theorem fresh_stable (run : ScheduledRun) (id : String) : Stable (Fresh run id) :=
  stable_container fun c code hs hc => by simp [hs] at hc

theorem Fresh.startable {id : String} (h : Fresh run id j) (ho : Once run j) : Startable id j := by
  intro name c hr
  obtain ⟨d, hd, _, hcreated⟩ := h
  obtain rfl := ho.refers hr
  obtain rfl := Option.some.inj (hd.symm.trans hr.1)
  exact hcreated

theorem create_gives {spec : DockerContainerSpec} (hname : spec.name = run.containerName)
    (h : Inv run b w) : (request (.createContainer spec) : HostAction String).wp (model run)
      (Gives run b fun id w => Fresh run id w.jobs) () w := by
  refine (wp_request _).mpr ⟨?_, ?_, ?_⟩
  · rintro ⟨files, j⟩ ⟨_, hd, hf, he⟩
    obtain rfl : files = w.files := hf
    rw [hname] at he
    rcases he with rfl | ⟨id, hmake⟩
    · exact h.drifts hd
    · exact (make_inv (h.drifts hd) hmake).1
  · rintro e ⟨files, j⟩ ⟨_, hd, hf, he⟩
    obtain rfl : files = w.files := hf
    rw [hname] at he
    rcases he with rfl | ⟨id, hmake⟩
    · exact h.drifts hd
    · exact (make_inv (h.drifts hd) hmake).1
  · rintro id ⟨files, j⟩ ⟨j₀, hd, hf, he⟩
    obtain rfl : files = w.files := hf
    rw [hname] at he
    have hinv : Inv run b { w with jobs := j₀ } := h.drifts hd
    exact make_inv (w := { w with jobs := j₀ }) hinv he

theorem start_gives {receipt : WorkerJobReceipt} (h : Inv run b w)
    (hs : Startable receipt.containerId w.jobs) (hr : b → Recorded run receipt w.jobs) :
    (request (.startContainer receipt.containerId) : HostAction Unit).wp (model run)
      (Gives run b fun _ w => b → Recorded run { receipt with status := .running } w.jobs) () w := by
  have started {j j' : Jobs} (hd : Relation.ReflTransGen Drift w.jobs j)
      (hstart : Starts j receipt.containerId j') : Inv run b ⟨w.files, j'⟩ ∧
        (b → Recorded run { receipt with status := .running } j') := by
    have hinv : Inv run b { w with jobs := j } := h.drifts hd
    have hstartable := (startable_stable _).drifts hd hs
    obtain ⟨honce, hc⟩ := start_once hinv.once hstartable hstart
    have hhonest (hb : b) : Honest run ⟨w.files, j'⟩ :=
      start_honest (w := { w with jobs := j }) hinv.once hstartable (hinv.honest hb) hstart
    refine ⟨⟨honce, hhonest⟩, fun hb => ?_⟩
    have hrec := (recorded_stable run receipt).drifts hd (hr hb)
    obtain ⟨c, hc', hid, _⟩ := hrec.container
    exact ⟨fun _ => by simp, hrec.id, _, hc c hc', hid, by simp, by simp⟩
  refine (wp_request _).mpr ⟨?_, ?_, ?_⟩
  · rintro ⟨files, j⟩ ⟨_, hd, hf, he⟩
    obtain rfl : files = w.files := hf
    rcases he with rfl | hstart
    · exact h.drifts hd
    · exact (started hd hstart).1
  · rintro e ⟨files, j⟩ ⟨_, hd, hf, he⟩
    obtain rfl : files = w.files := hf
    rcases he with rfl | hstart
    · exact h.drifts hd
    · exact (started hd hstart).1
  · rintro _ ⟨files, j⟩ ⟨_, hd, hf, he⟩
    obtain rfl : files = w.files := hf
    rcases he with hstart | ⟨hrunning, rfl⟩
    · exact started hd hstart
    refine ⟨h.drifts hd, fun hb => ?_⟩
    have hrec := (recorded_stable run receipt).drifts hd (hr hb)
    obtain ⟨c, hc, hid, _⟩ := hrec.container
    have hstate := hrunning _ c ⟨hc, .inr hid⟩
    exact ⟨fun _ => by simp, hrec.id, c, hc, hid, by simp [hstate], by simp⟩

section

variable (henv : environment.dataDir = run.dataDir)

include henv

theorem launch_gives {receipt : WorkerJobReceipt} (h : Inv run b w)
    (hs : Startable receipt.containerId w.jobs) (hr : b → Recorded run receipt w.jobs) :
    (launchWorkerJob environment receipt).wp (model run)
      (Gives run b fun running _ => running = { receipt with status := .running }) () w := by
  refine keeping_bind (start_gives h hs hr) fun _ w h hr => ?_
  refine keeping_bind (write_gives henv (stable_const True) h trivial hr) fun _ w h _ => ?_
  exact keeping_pure h rfl

def Sound (run : ScheduledRun) (b : Prop) (result : WorkerJobResult) (w : World) : Prop :=
  b → result.job.status = .succeeded → Ended run w.jobs

/-- The process of the job is known to have ended as the inspection says. -/
def Settled (run : ScheduledRun) (receipt : WorkerJobReceipt)
    (inspection : Option DockerContainerInspection) (j : Jobs) : Prop :=
  receipt.scheduleRunId = run.scheduleRunId ∧ ∃ c, j.containers run.containerName = some c ∧
    receipt.containerId = c.id ∧
      ∃ container, inspection = some container ∧ c.state = .exited (exitCodeOf container)

omit henv in
theorem settled_stable (receipt : WorkerJobReceipt)
    (inspection : Option DockerContainerInspection) : Stable (Settled run receipt inspection) := by
  rintro j j' hd ⟨hid, hc⟩
  refine ⟨hid, stable_container (fun c code hs h => ?_) j j' hd hc⟩
  obtain ⟨_, container, _, hexited⟩ := h
  simp [hs] at hexited

omit henv in
theorem exitStatus_succeeded {code : ℤ} : exitStatus code = .succeeded ↔ code = 0 := by
  unfold exitStatus
  split <;> simp_all

omit henv in
theorem exitStatus_known (code : ℤ) : (exitStatus code).Known ∧ exitStatus code ≠ .running := by
  unfold exitStatus
  split <;> simp [WorkerJobStatus.Known]

omit henv in
theorem completedOrNow_uses (receipt : WorkerJobReceipt) : (completedOrNow receipt).Uses Calm := by
  unfold completedOrNow
  split
  · exact uses_bind (uses_now trivial) fun _ => uses_pure _
  · exact uses_pure _

omit henv in
theorem toTerminal_gives {receipt : WorkerJobReceipt}
    {inspection : Option DockerContainerInspection} (h : Inv run b w)
    (hs : b → Settled run receipt inspection w.jobs) :
    (toTerminalWorkerJobReceipt receipt inspection).wp (model run)
      (Gives run b fun terminal w => b → Recorded run terminal w.jobs) () w := by
  cases inspection with
  | none =>
    refine keeping_bind (calm_gives (completedOrNow_uses receipt)
      (stable_imp (settled_stable receipt none)) h hs) fun time w h hs => ?_
    refine keeping_pure h fun hb => ?_
    obtain ⟨_, c, _, _, container, hnone, _⟩ := hs hb
    cases hnone
  | some container =>
    refine keeping_bind (calm_gives (completedOrNow_uses receipt)
      (stable_imp (settled_stable receipt (some container))) h hs) fun time w h hs => ?_
    refine keeping_pure h fun hb => ?_
    obtain ⟨hid, c, hc, hcid, _, heq, hexited⟩ := hs hb
    obtain rfl := Option.some.inj heq
    refine ⟨(exitStatus_known _).1, hid, c, hc, hcid, fun _ => by simp [hexited], fun hs => ?_⟩
    rw [hexited, exitStatus_succeeded.mp hs]

theorem settle_gives {receipt : WorkerJobReceipt} {inspection : Option DockerContainerInspection}
    (h : Inv run b w) (hs : b → Settled run receipt inspection w.jobs) :
    (settleWorkerJob environment receipt inspection).wp (model run)
      (Gives run b (Sound run b)) () w := by
  refine keeping_bind (toTerminal_gives h hs) fun terminal w h hr => ?_
  refine keeping_bind (write_gives henv (stable_imp (recorded_stable run terminal)) h hr hr)
    fun _ w h hr => ?_
  refine keeping_pure h fun hb hsucceeded => ?_
  obtain ⟨c, hc, _, _, hexited⟩ := (hr hb).container
  exact ⟨c, hc, hexited hsucceeded⟩

omit henv in
theorem saw_stopped {receipt : WorkerJobReceipt} {answer : Option DockerContainerInspection}
    (hr : Recorded run receipt j) (hsaw : Saw run receipt.containerId answer j)
    (hstopped : (answer.map DockerContainerInspection.running).getD false = false) :
    (answer.bind statusOf = some "created" ∧ ∃ c, j.containers run.containerName = some c ∧
      c.state = .created) ∨ Settled run receipt answer j := by
  obtain ⟨c, hc, hid, _⟩ := hr.container
  obtain ⟨inspection, rfl, hshows⟩ := hsaw.found _ c ⟨hc, .inr hid⟩
  rcases hshows.stopped hstopped with ⟨hcreated, hstatus⟩ | ⟨hexited, _⟩
  · exact .inl ⟨hstatus, c, hc, hcreated⟩
  · exact .inr ⟨hr.id, c, hc, hid, inspection, rfl, hexited⟩

omit henv in
theorem saw_startable {nameOrId : String} {answer : Option DockerContainerInspection}
    (hsaw : Saw run nameOrId answer j)
    (hstopped : (answer.map DockerContainerInspection.running).getD false = false)
    (hstatus : answer.bind statusOf = some "created") : Startable nameOrId j := by
  intro name c hr
  obtain ⟨inspection, rfl, hshows⟩ := hsaw.found name c hr
  have hstatus : statusOf inspection = some "created" := hstatus
  rcases hshows.stopped hstopped with ⟨hcreated, _⟩ | ⟨_, hne⟩
  · exact hcreated
  · rw [hstatus, Option.map_some, lowerCase_created] at hne
    exact absurd rfl hne

omit henv in
theorem receiptResult_sound {receipt : WorkerJobReceipt} (hr : b → Recorded run receipt w.jobs) :
    Sound run b (receiptResult environment receipt) w := by
  intro hb hsucceeded
  obtain ⟨c, hc, _, _, hexited⟩ := (hr hb).container
  exact ⟨c, hc, hexited hsucceeded⟩

theorem resume_gives {receipt : WorkerJobReceipt} (h : Inv run b w)
    (hr : b → Recorded run receipt w.jobs) :
    (resumeWorkerJob environment receipt).wp (model run) (Gives run b (Sound run b)) () w := by
  unfold resumeWorkerJob
  split
  · exact keeping_pure h (receiptResult_sound hr)
  next hterminal =>
  refine keeping_bind (inspect_gives _ (stable_imp (recorded_stable run receipt)) h hr)
    fun answer w h hsaw => ?_
  obtain ⟨hr, hsaw⟩ := hsaw
  split
  · exact keeping_pure h fun _ hs => by cases hs
  next hrunning =>
  have hstopped : (answer.map DockerContainerInspection.running).getD false = false := by
    simpa using hrunning
  split
  · next hcreated =>
    refine keeping_bind (launch_gives henv h (saw_startable hsaw hstopped hcreated.2) hr)
      fun running w h hrun => ?_
    exact keeping_pure h fun _ hs => by cases hrun ▸ hs
  · next hcreated =>
    refine settle_gives henv h fun hb => ?_
    rcases saw_stopped (hr hb) hsaw hstopped with ⟨hstatus, c, hc, hstate⟩ | hsettled
    -- Of what was never started, only a receipt that says `created` is not terminal.
    · obtain ⟨d, hd, _, hnot, _⟩ := (hr hb).container
      obtain rfl := Option.some.inj (hc.symm.trans hd)
      have hknown := (hr hb).known
      have hne : receipt.status ≠ .created := fun hs => hcreated ⟨hs, hstatus⟩
      cases hs : receipt.status with
      | created => exact absurd hs hne
      | running => exact absurd hstate (hnot hs)
      | other text => exact absurd hs (hknown text)
      | _ => simp [WorkerJobReceipt.isTerminal, hs] at hterminal
    · exact hsettled

omit henv

theorem timestampOrNow_uses (value : Option DateText) : (timestampOrNow value).Uses Calm := by
  unfold timestampOrNow
  split
  · exact uses_pure _
  · exact uses_bind (uses_now trivial) fun _ => uses_pure _

theorem readWorkerJobIdentity_spec {container : DockerContainerInspection}
    {serviceId scheduleRunId : String} {identity : WorkerJobReceipt}
    (h : readWorkerJobIdentity container serviceId scheduleRunId = some identity) :
    identity.containerId = trim container.id ∧ identity.scheduleRunId = scheduleRunId ∧
      identity.status = .created := by
  simp only [readWorkerJobIdentity, Option.bind_eq_bind, Option.bind_eq_some_iff] at h
  obtain ⟨_, _, _, _, _, _, _, _, _, _, id, hid, h⟩ := h
  obtain rfl := Option.some.inj h
  exact ⟨(Option.some.inj (present_some hid).1).symm, rfl, rfl⟩

theorem recoverFrom_gives {container : DockerContainerInspection}
    {expected : WorkerJobExpectation} (h : Inv run b w)
    (hsaw : Saw run run.containerName (some container) w.jobs) :
    (recoverWorkerJobReceiptFromContainer container run.serviceId run.scheduleRunId expected).wp
      (model run)
      (Gives run b fun r w => ∀ receipt, r = some receipt → Recorded run receipt w.jobs) () w := by
  have hsome (hof : isContainerOfRun container run.serviceId run.scheduleRunId = true)
      {w : World} (h : Inv run b w) (hsaw : Saw run run.containerName (some container) w.jobs) :
      ∃ c, w.jobs.containers run.containerName = some c ∧ Shows c container := by
    cases hc : w.jobs.containers run.containerName with
    | none =>
      refine absurd ?_ (hsaw.foreign (fun name c hr => ?_) container rfl)
      · simp only [isContainerOfRun, Bool.and_eq_true, decide_eq_true_eq] at hof
        exact hof.1.2
      · obtain rfl := h.once.refers hr
        exact absurd hr.1 (by simp [hc])
    | some c =>
      obtain ⟨_, heq, hshows⟩ := hsaw.found _ c ⟨hc, .inl rfl⟩
      exact ⟨c, rfl, Option.some.inj heq ▸ hshows⟩
  unfold recoverWorkerJobReceiptFromContainer
  split
  · next hmatches =>
    have hof := (Bool.and_eq_true _ _ ▸ hmatches).1
    split
    · exact keeping_pure h fun _ hr => nomatch hr
    next identity hidentity =>
    obtain ⟨hid, hrun, hstatus⟩ := readWorkerJobIdentity_spec hidentity
    refine keeping_bind (calm_gives (timestampOrNow_uses _) (saw_stable _ _ _) h hsaw)
      fun createdAt w h hsaw => ?_
    obtain ⟨c, hc, hshows⟩ := hsome hof h hsaw
    have hcid : identity.containerId = c.id := by rw [hid, hshows.id, c.trimmed]
    dsimp only
    split
    · next hrunning =>
      refine keeping_pure h fun receipt hr => ?_
      obtain rfl := Option.some.inj hr
      exact ⟨fun _ => by simp, hrun, c, hc, hcid, fun _ => hshows.running hrunning, by simp⟩
    next hrunning =>
    have hstopped : container.running = false := by simpa using hrunning
    split
    · refine keeping_pure h fun receipt hr => ?_
      obtain rfl := Option.some.inj hr
      exact ⟨fun _ => by simp [hstatus], hrun, c, hc, hcid, by simp [hstatus], by simp [hstatus]⟩
    · next hlower =>
      refine keeping_bind (calm_gives (timestampOrNow_uses _) (saw_stable _ _ _) h hsaw)
        fun completedAt w h hsaw => ?_
      refine keeping_pure h fun receipt hr => ?_
      obtain rfl := Option.some.inj hr
      obtain ⟨c, hc, hshows⟩ := hsome hof h hsaw
      have hcid : identity.containerId = c.id := by rw [hid, hshows.id, c.trimmed]
      rcases hshows.stopped hstopped with ⟨_, hs⟩ | ⟨hexited, _⟩
      · have hs : container.state.bind ContainerState.status = some "created" := hs
        rw [hs, Option.map_some, lowerCase_created] at hlower
        exact absurd rfl hlower
      · refine ⟨(exitStatus_known _).1, hrun, c, hc, hcid, fun _ => by simp [hexited],
          fun hs => ?_⟩
        rw [hexited, exitStatus_succeeded.mp hs]
  · exact keeping_pure h fun _ hr => nomatch hr

include henv

theorem recoverMissing_gives {expected : WorkerJobExpectation} (h : Inv run b w) :
    (recoverMissingWorkerJobReceipt environment run.serviceId run.scheduleRunId expected).wp
      (model run) (Gives run b fun r w => ∀ receipt, r = some receipt →
        b → Recorded run receipt w.jobs) () w := by
  refine keeping_bind (inspect_gives _ (stable_const True) h trivial) fun answer w h hsaw => ?_
  cases answer with
  | none => exact keeping_pure h fun _ hr => nomatch hr
  | some container =>
    refine keeping_bind (recoverFrom_gives h hsaw.2) fun recovered w h hr => ?_
    cases recovered with
    | none => exact h
    | some receipt =>
      have hrec := hr receipt rfl
      refine keeping_bind (write_gives henv (recorded_stable run receipt) h hrec fun _ => hrec)
        fun _ w h hrec => ?_
      refine keeping_pure h fun r hr _ => ?_
      obtain rfl := Option.some.inj hr
      exact hrec

theorem find_gives {payload : WorkerJobPayload} (hservice : payload.serviceId = run.serviceId)
    (hrun : payload.scheduleRunId = run.scheduleRunId) (h : Inv run b w) :
    (findWorkerJobReceipt environment payload).wp (model run)
      (Gives run b fun r w => ∀ receipt, r = some receipt → b → Recorded run receipt w.jobs)
      () w := by
  unfold findWorkerJobReceipt
  rw [hservice, hrun]
  refine keeping_bind (read_gives henv (stable_const True) h trivial) fun found w h hr => ?_
  cases found with
  | some receipt => exact keeping_pure h fun r heq hb => (hr.2 r heq hb).1
  | none => exact recoverMissing_gives henv h

theorem create_job_gives {payload : WorkerJobPayload} {command : String}
    (hservice : payload.serviceId = run.serviceId)
    (hrun : payload.scheduleRunId = run.scheduleRunId) (h : Inv run b w) :
    (createWorkerJob environment payload command).wp (model run)
      (Gives run b (Sound run b)) () w := by
  have hvolume : (assertWorkerJobVolumeAvailable payload.volume).Uses Calm := by
    unfold assertWorkerJobVolumeAvailable
    split
    · exact uses_pure _
    · refine uses_bind (uses_request trivial) fun consumers => ?_
      split
      · exact uses_throw _
      · exact uses_pure _
  have hnetwork : (agent (environment.ensureProjectNetwork payload.projectId) :
      HostAction Unit).Uses Calm :=
    uses_agent (environment.ensureProjectNetwork_uses _ fun _ _ => trivial)
  have himage : (agent (environment.ensureWorkerImage payload.imageUrl) : HostAction _).Uses Calm :=
    uses_agent (environment.ensureWorkerImage_uses _ trivial trivial)
  have hname (command : String) (resources : DockerResourceSettings) :
      (buildWorkerJobSpec environment payload command resources).name = run.containerName := by
    simp [buildWorkerJobSpec, ScheduledRun.containerName, hservice, hrun]
  refine keeping_bind (calm_gives hvolume (stable_const True) h trivial) fun _ w h _ => ?_
  refine keeping_bind (calm_gives hnetwork (stable_const True) h trivial) fun _ w h _ => ?_
  refine keeping_bind (calm_gives himage (stable_const True) h trivial) fun _ w h _ => ?_
  refine keeping_bind (calm_gives (uses_request trivial) (stable_const True) h trivial)
    fun existing w h _ => ?_
  cases existing with
  | some container => exact h
  | none =>
    refine keeping_bind (calm_gives (uses_ofExcept _) (stable_const True) h trivial)
      fun resources w h _ => ?_
    refine keeping_bind (create_gives (hname command resources) h) fun id w h hfresh => ?_
    refine keeping_bind (calm_gives (uses_now trivial) (fresh_stable run id) h hfresh)
      fun time w h hfresh => ?_
    have hrecorded {w : World} (hfresh : Fresh run id w.jobs) :
        Recorded run (newWorkerJobReceipt payload id time) w.jobs := by
      obtain ⟨c, hc, hid, _⟩ := hfresh
      exact ⟨fun _ => by simp [newWorkerJobReceipt], hrun, c, hc, hid,
        by simp [newWorkerJobReceipt], by simp [newWorkerJobReceipt]⟩
    refine keeping_bind (write_gives henv (fresh_stable run id) h hfresh fun _ => hrecorded hfresh)
      fun _ w h hfresh => ?_
    refine keeping_bind (launch_gives henv h (hfresh.startable h.once) fun _ => hrecorded hfresh)
      fun running w h _ => ?_
    exact keeping_pure h fun _ hs => by cases hs

theorem startWorkerJob_gives {payload : WorkerJobPayload}
    (hservice : payload.serviceId = run.serviceId)
    (hrun : payload.scheduleRunId = run.scheduleRunId) (h : Inv run b w) :
    (startWorkerJob environment payload).wp (model run) (Gives run b (Sound run b)) () w := by
  unfold startWorkerJob
  split
  · exact h
  · split
    · refine keeping_bind (find_gives henv hservice hrun h) fun found w h hr => ?_
      cases found with
      | some receipt => exact resume_gives henv h (hr receipt rfl)
      | none => exact create_job_gives henv hservice hrun h
    · exact h

theorem require_gives (hP : Stable P) (h : Inv run b w) (hp : P w.jobs) :
    (requireWorkerJobReceipt environment run.scheduleRunId).wp (model run)
      (Gives run b fun receipt w' => P w'.jobs ∧ (b → Recorded run receipt w'.jobs ∧
        w.stored run = some receipt)) () w := by
  refine keeping_bind (read_gives henv hP h hp) fun found w h hr => ?_
  cases found with
  | some receipt => exact keeping_pure h ⟨hr.1, hr.2 receipt rfl⟩
  | none => exact h

theorem inspectWorkerJob_gives (h : Inv run b w) (hstarted : b → ¬ NeverStarted run w) :
    (inspectWorkerJob environment run.scheduleRunId).wp (model run)
      (Gives run b (Sound run b)) () w := by
  have hstable : Stable fun j => b → ∀ receipt, w.stored run = some receipt →
      receipt.isTerminal = false → ∀ c, j.containers run.containerName = some c →
        c.state ≠ .created := by
    intro j j' hd hj hb receipt hr ht c' hc'
    obtain ⟨c, hc, _, rfl | ⟨_, code, hcode⟩⟩ := hd.container hc'
    · exact hj hb receipt hr ht _ hc
    · simp [hcode]
  refine keeping_bind (require_gives henv hstable h fun hb receipt hr ht c hc hs =>
    hstarted hb ⟨receipt, c, hr, ht, hc, hs⟩) fun receipt w' h hr => ?_
  obtain ⟨hnever, hr⟩ := hr
  split
  · exact keeping_pure h (receiptResult_sound fun hb => (hr hb).1)
  next hterminal =>
  have hterminal : receipt.isTerminal = false := by simpa using hterminal
  refine keeping_bind (inspect_gives _ (stable_and hstable (stable_imp (recorded_stable run receipt)))
    h ⟨hnever, fun hb => (hr hb).1⟩) fun answer w'' h hsaw => ?_
  obtain ⟨⟨hnever, hrec⟩, hsaw⟩ := hsaw
  split
  · exact keeping_pure h fun _ hs => by cases hs
  next hrunning =>
  refine settle_gives henv h fun hb => ?_
  rcases saw_stopped (hrec hb) hsaw (by simpa using hrunning) with ⟨_, c, hc, hs⟩ | hsettled
  · exact absurd hs (hnever hb receipt (hr hb).2 hterminal c hc)
  · exact hsettled

theorem stopWorkerJob_gives (h : Inv run b w) :
    (stopWorkerJob environment run.scheduleRunId).wp (model run)
      (Gives run b (Sound run b)) () w := by
  refine keeping_bind (require_gives henv (stable_const True) h trivial) fun receipt w h hr => ?_
  dsimp only
  split
  · exact keeping_pure h (receiptResult_sound fun hb => (hr.2 hb).1)
  have hrec := stable_imp (p := b) (recorded_stable run receipt)
  refine keeping_bind (calm_gives (uses_request trivial) hrec h fun hb => (hr.2 hb).1)
    fun _ w h hr => ?_
  refine keeping_bind (calm_gives (uses_request trivial) hrec h hr) fun answer w h hr => ?_
  refine keeping_bind (calm_gives (uses_now trivial) hrec h hr) fun time w h hr => ?_
  refine keeping_bind (write_gives henv (stable_const True) h trivial fun hb => ?_) fun _ w h _ => ?_
  · obtain ⟨_, hid, c, hc, hcid, _⟩ := hr hb
    exact ⟨fun _ => by simp, hid, c, hc, hcid, by simp, by simp⟩
  · exact keeping_pure h fun _ hs => by cases hs

theorem perform_gives {c : JobCall} (hfor : c.For run) (h : Inv run b w)
    (hcareful : b → Careful run w c) :
    (c.perform run environment).wp (model run) (Gives run b (Sound run b)) () w := by
  cases c with
  | start payload => exact startWorkerJob_gives henv hfor.1 hfor.2 h
  | inspect => exact inspectWorkerJob_gives henv h hcareful
  | stop => exact stopWorkerJob_gives henv h

end

theorem returning_inv {o : Outcome (Except Failure WorkerJobResult × Unit)}
    (h : (Gives run b (Sound run b)).outcome o w) : Inv run b (w.returning o) := by
  rcases o with ⟨e | result, _⟩ | _
  · exact h
  · obtain ⟨⟨honce, hhonest⟩, hsound⟩ := h
    refine ⟨⟨honce.others, ?_, fun hn => ?_, ?_, fun c hc => ?_⟩, fun hb => ⟨?_, fun hret => ?_⟩⟩
    · simpa [World.returning] using honce.created
    · simpa [World.returning] using honce.unmade hn
    · simpa [World.returning] using honce.started
    · simpa [World.returning] using honce.unstarted c hc
    · intro contents hc
      obtain ⟨receipt, heq, hrec⟩ := (hhonest hb).stored contents hc
      exact ⟨receipt, heq, hrec.known, hrec.id, hrec.container⟩
    · rcases List.mem_cons.mp hret with heq | hold
      · exact hsound hb (Mark.returned.inj heq).symm
      · exact (hhonest hb).returned hold
  · exact h

theorem Reachable.inv {G : World → JobCall → Prop} (h : Reachable run G w)
    (hG : b → ∀ w c, G w c → Careful run w c) : Inv run b w := by
  induction h with
  | initial files h =>
    refine ⟨⟨fun _ _ => rfl, by simp, by simp, by simp, by simp⟩, fun _ => ⟨?_, by simp⟩⟩
    intro contents hc
    simp [h] at hc
  | drift _ hd ih => exact inv_stable run b _ _ _ hd ih
  | call _ environment henv c hfor hg hrun ih =>
    exact returning_inv (Program.wp_sound
      (perform_gives henv hfor ih fun hb => hG hb _ _ hg) hrun)

/-- Whatever fails or is cut off, one container is made for a run, and its command starts once. -/
theorem worker_job_starts_once (h : Reachable run (fun _ _ => True) w) :
    w.jobs.log.count .created ≤ 1 ∧ w.jobs.log.count .started ≤ 1 := by
  have hinv : Inv run False w := h.inv fun hb => hb.elim
  exact ⟨hinv.once.created, hinv.once.started⟩

theorem Inv.ran (h : Inv run b w) (he : Ended run w.jobs) : Ran run w.jobs := by
  obtain ⟨c, hc, hexited⟩ := he
  refine ⟨?_, c, hc, hexited⟩
  by_contra hnot
  have hcreated := (h.once.unstarted c hc).mpr hnot
  simp [hexited] at hcreated

/-- While no inspection looks at a job whose start was cut off before its container was started, a
receipt says `succeeded`, and a call answers so, only of a job that ran and exited with code 0. -/
theorem worker_job_succeeded_ran (h : Reachable run (Careful run) w) :
    (∀ receipt, w.stored run = some receipt → receipt.status = .succeeded → Ran run w.jobs) ∧
      (.returned .succeeded ∈ w.jobs.log → Ran run w.jobs) := by
  have hinv : Inv run True w := h.inv fun _ _ _ hg => hg
  have hhonest := hinv.honest trivial
  refine ⟨fun receipt hr hs => ?_, fun hret => hinv.ran (hhonest.returned hret)⟩
  obtain ⟨contents, hc, hparse⟩ := Option.bind_eq_some_iff.mp hr
  obtain ⟨stored, rfl, hrec⟩ := hhonest.stored contents hc
  rw [← hrec.id, WorkerJobReceipt.ofContents_contents hrec.known] at hparse
  obtain rfl := Option.some.inj hparse
  obtain ⟨c, hc, _, _, hexited⟩ := hrec.container
  exact hinv.ran ⟨c, hc, hexited hs⟩

section

variable {α : Type} {o : Outcome (Except Failure WorkerJobResult × Unit)}

theorem exec_request {r : Request} {a : r.Result} {w' : World}
    (h : effect run w (.agent (.request r)) (some (.ok a)) w') :
    Program.Exec (model run) (request r ()) w (.done (.ok a, ())) w' :=
  .call (r := .ok a) ⟨w.jobs, .refl, h⟩ (.ret _ _)

theorem exec_now : Program.Exec (model run) (now ()) w (.done (.ok 0, ())) w :=
  .call (r := (0 : ℤ)) ⟨w.jobs, .refl, rfl⟩ (.ret _ _)

theorem exec_file {step : FileStep} {files : Files} (h : step.Takes w.files files) :
    Program.Exec (model run) (file step ()) w (.done (.ok (), ())) { w with files } := by
  refine .call (r := .ok ()) ?_ (.ret _ _)
  exact ⟨w.jobs, .refl, rfl, h⟩

variable (henv : environment.dataDir = run.dataDir)

include henv

theorem exec_read_none (h : w.files run.receiptPath = none) :
    Program.Exec (model run) (readWorkerJobReceipt environment run.scheduleRunId ()) w
      (.done (.ok none, ())) w := by
  refine .call (r := .error ⟨⟨true, "no such file", none⟩, some "ENOENT"⟩)
    ⟨w.jobs, .refl, rfl, ?_, ?_⟩ (.ret _ _)
  · exact fun contents hc => by cases hc
  · intro e he _
    rw [henv]
    exact h

theorem exec_read {receipt : WorkerJobReceipt} (hknown : receipt.status.Known)
    (hid : receipt.scheduleRunId = run.scheduleRunId)
    (h : w.files run.receiptPath = some receipt.contents) :
    Program.Exec (model run) (readWorkerJobReceipt environment run.scheduleRunId ()) w
      (.done (.ok (some receipt), ())) w := by
  refine .call (r := .ok receipt.contents) ⟨w.jobs, .refl, rfl, ?_, ?_⟩ ?_
  · intro contents hc
    obtain rfl := Except.ok.inj (Option.some.inj hc)
    rw [henv]
    exact h
  · exact fun e he => by cases he
  · have hparse := WorkerJobReceipt.ofContents_contents hknown
    rw [hid] at hparse
    simp only [Program.bind, hparse]
    exact .ret _ _

theorem exec_write {receipt : WorkerJobReceipt} (hid : receipt.scheduleRunId = run.scheduleRunId) :
    ∃ files, files run.receiptPath = some receipt.contents ∧
      Program.Exec (model run) (writeWorkerJobReceipt environment receipt ()) w
        (.done (.ok (), ())) { w with files } := by
  have hpath : run.receiptPath =
      getWorkerJobReceiptPath environment.dataDir receipt.scheduleRunId := by
    rw [henv, hid]
    rfl
  refine ⟨_, ?_, exec_bind (exec_file rfl) (exec_bind (exec_file rfl) (exec_file
    ⟨receipt.contents, Function.update_self _ _ _, rfl⟩))⟩
  rw [hpath, Function.update_self]

omit henv in
theorem truthful_one {nameOrId : String} {c : JobContainer} {inspection : DockerContainerInspection}
    (hothers : ∀ name, name ≠ run.containerName → j.containers name = none)
    (hc : j.containers run.containerName = some c) (hid : nameOrId = c.id)
    (hi : Reflects c inspection) : Truthful run j nameOrId (some (.ok (some inspection))) := by
  intro answer ha
  obtain rfl := Except.ok.inj (Option.some.inj ha)
  refine ⟨fun name d hr => ⟨inspection, rfl, ?_⟩, fun hnone => ?_⟩
  · have hname : name = run.containerName := by
      by_contra hn
      exact absurd hr.1 (by simp [hothers name hn])
    subst hname
    obtain rfl := Option.some.inj (hc.symm.trans hr.1)
    exact hi
  · exact absurd ⟨hc, .inr hid⟩ (hnone run.containerName c)

omit henv in
theorem truthful_none {nameOrId : String} (hnone : ∀ name, j.containers name = none) :
    Truthful run j nameOrId (some (.ok none)) := by
  intro answer ha
  obtain rfl := Except.ok.inj (Option.some.inj ha)
  exact ⟨fun name c hr => absurd hr.1 (by simp [hnone]), fun _ _ h => nomatch h⟩

theorem exec_inspect {receipt : WorkerJobReceipt} {c : JobContainer}
    {inspection : DockerContainerInspection} (hknown : receipt.status.Known)
    (hid : receipt.scheduleRunId = run.scheduleRunId) (hterminal : receipt.isTerminal = false)
    (hfile : w.files run.receiptPath = some receipt.contents)
    (hothers : ∀ name, name ≠ run.containerName → w.jobs.containers name = none)
    (hc : w.jobs.containers run.containerName = some c) (hcid : receipt.containerId = c.id)
    (hi : Reflects c inspection) (hstopped : inspection.running = false)
    (hcode : exitCodeOf inspection = 0) (hcompleted : receipt.completedAt = .null) :
    ∃ files result, result.job.status = .succeeded ∧ Program.Exec (model run)
      (inspectWorkerJob environment run.scheduleRunId ()) w (.done (.ok result, ()))
        { w with files } := by
  have htime : Program.Exec (model run) (completedOrNow receipt ()) w
      (.done (.ok (.text (toISOString 0)), ())) w := by
    simp only [completedOrNow, hcompleted]
    exact exec_bind exec_now (.ret _ _)
  have hterm : Program.Exec (model run) (toTerminalWorkerJobReceipt receipt (some inspection) ()) w
      (.done (.ok _, ())) w := exec_bind htime (.ret _ _)
  let terminal : WorkerJobReceipt := { receipt with
    status := exitStatus (exitCodeOf inspection), exitCode := .number (exitCodeOf inspection)
    completedAt := .text (toISOString 0) }
  have hterminalId : terminal.scheduleRunId = run.scheduleRunId := hid
  obtain ⟨files, _, hwrite⟩ := exec_write henv (w := w) hterminalId
  refine ⟨files, receiptResult environment terminal, exitStatus_succeeded.mpr hcode, ?_⟩
  refine exec_bind (exec_bind (exec_read henv hknown hid hfile) (.ret _ _)) ?_
  simp only [hterminal]
  refine exec_bind (exec_request (a := some inspection)
    ⟨rfl, truthful_one hothers hc hcid hi⟩) ?_
  simp only [Option.map_some, Option.getD_some, hstopped]
  exact exec_bind hterm (exec_bind hwrite (.ret _ _))

theorem exec_start {payload : WorkerJobPayload} {command : String}
    {resources : DockerResourceSettings} (hservice : payload.serviceId = run.serviceId)
    (hrun : payload.scheduleRunId = run.scheduleRunId)
    (hcommand : normalizeWorkerCommand (some payload.command) = some command)
    (htime : payload.timeoutSeconds.isInt ∧ 60 ≤ payload.timeoutSeconds ∧
      payload.timeoutSeconds ≤ 24 * 60 * 60) (hvolume : payload.volume = none)
    (hresources : toDockerResourceSettings payload.resourceLimits = .ok resources)
    (hfile : w.files run.receiptPath = none) (hnone : ∀ name, w.jobs.containers name = none)
    {id : String} (htrim : trim id = id) : ∃ files receipt,
      receipt.status = .created ∧ receipt.scheduleRunId = run.scheduleRunId ∧
      receipt.containerId = id ∧ receipt.completedAt = .null ∧
      files run.receiptPath = some receipt.contents ∧ ∀ w',
        (Program.Exec (model run) (launchWorkerJob environment receipt ())
            ⟨files, (w.jobs.put run.containerName ⟨id, htrim, .created⟩).mark .created⟩ .cut w' →
          Program.Exec (model run) (startWorkerJob environment payload ()) w .cut w') ∧
        (Program.Exec (model run) (launchWorkerJob environment receipt ())
            ⟨files, (w.jobs.put run.containerName ⟨id, htrim, .created⟩).mark .created⟩
            (.done (.ok { receipt with status := .running }, ())) w' →
          ∃ result, result.job.status = .running ∧ Program.Exec (model run)
            (startWorkerJob environment payload ()) w (.done (.ok result, ())) w') := by
  let receipt := newWorkerJobReceipt payload id 0
  have hid : receipt.scheduleRunId = run.scheduleRunId := hrun
  obtain ⟨files, hfiles, hwrite⟩ := exec_write henv (w := ⟨w.files, (w.jobs.put run.containerName
    ⟨id, htrim, .created⟩).mark .created⟩) hid
  have hfind : Program.Exec (model run) (findWorkerJobReceipt environment payload ()) w
      (.done (.ok none, ())) w := by
    unfold findWorkerJobReceipt
    rw [hservice, hrun]
    refine exec_bind (exec_read_none henv hfile) ?_
    exact exec_bind (exec_request (a := none) ⟨rfl, truthful_none hnone⟩) (.ret _ _)
  have hname (command : String) : (buildWorkerJobSpec environment payload command resources).name =
      run.containerName := by
    simp [buildWorkerJobSpec, ScheduledRun.containerName, hservice, hrun]
  have hmake (command : String) : effect run w (.agent (.request (.createContainer
      (buildWorkerJobSpec environment payload command resources)))) (some (.ok id))
      ⟨w.files, (w.jobs.put run.containerName ⟨id, htrim, .created⟩).mark .created⟩ := by
    refine ⟨rfl, ?_⟩
    rw [hname]
    exact ⟨htrim, hnone _, rfl⟩
  have hbegin {o : Outcome (Except Failure WorkerJobResult × Unit)} {w' : World}
      (h : Program.Exec (model run) (createWorkerJob environment payload command ()) w o w') :
      Program.Exec (model run) (startWorkerJob environment payload ()) w o w' := by
    unfold startWorkerJob
    rw [hcommand]
    dsimp only
    rw [if_pos htime]
    exact exec_bind hfind h
  have hprepare {o : Outcome (Except Failure WorkerJobResult × Unit)} {w' : World}
      (h : Program.Exec (model run) (launchNewWorkerJob environment payload receipt ())
        ⟨w.files, (w.jobs.put run.containerName ⟨id, htrim, .created⟩).mark .created⟩ o w') :
      Program.Exec (model run) (startWorkerJob environment payload ()) w o w' := by
    refine hbegin ?_
    unfold createWorkerJob
    rw [hvolume, hresources]
    refine exec_bind (.ret _ _) ?_
    refine .call (r := .ok ()) ⟨w.jobs, .refl, rfl⟩ ?_
    refine .call (r := .ok (some ⟨"image", none, none, none, none⟩)) ⟨w.jobs, .refl, rfl⟩ ?_
    refine exec_bind (exec_request (a := none) ⟨rfl, truthful_none hnone⟩) ?_
    refine exec_bind (.ret _ _) ?_
    refine exec_bind (exec_request (hmake command)) ?_
    refine exec_bind exec_now ?_
    exact h
  refine ⟨files, receipt, rfl, hid, rfl, rfl, hfiles, fun w' => ⟨fun h => ?_, fun h => ?_⟩⟩
  · exact hprepare (exec_bind hwrite (exec_bind_cut _ h))
  · exact ⟨_, rfl, hprepare (exec_bind hwrite (exec_bind h (.ret _ _)))⟩

end

theorem exec_launch {receipt : WorkerJobReceipt} {c : JobContainer}
    (henv : environment.dataDir = run.dataDir) (hid : receipt.scheduleRunId = run.scheduleRunId)
    (hc : w.jobs.containers run.containerName = some c) (hcid : receipt.containerId = c.id)
    (hcreated : c.state = .created) : ∃ files,
      files run.receiptPath = some { receipt with status := .running }.contents ∧
      Program.Exec (model run) (launchWorkerJob environment receipt ()) w
        (.done (.ok { receipt with status := .running }, ()))
        ⟨files, (w.jobs.put run.containerName { c with state := .running }).mark .started⟩ := by
  have hrunning : { receipt with status := .running }.scheduleRunId = run.scheduleRunId := hid
  obtain ⟨files, hfiles, hwrite⟩ := exec_write henv (w := ⟨w.files, (w.jobs.put run.containerName
    { c with state := .running }).mark .started⟩) hrunning
  have hstart : Program.Exec (model run) (request (.startContainer receipt.containerId) ()) w
      (.done (.ok (), ()))
      ⟨w.files, (w.jobs.put run.containerName { c with state := .running }).mark .started⟩ :=
    exec_request ⟨rfl, .inl ⟨_, c, ⟨hc, .inr hcid⟩, by simp [hcreated], rfl⟩⟩
  exact ⟨files, hfiles, exec_bind hstart (exec_bind hwrite (.ret _ _))⟩

theorem Reachable.mono {G H : World → JobCall → Prop} (h : Reachable run G w)
    (hGH : ∀ w c, G w c → H w c) : Reachable run H w := by
  induction h with
  | initial files h => exact .initial files h
  | drift _ hd ih => exact .drift ih hd
  | call _ environment henv c hfor hg hrun ih =>
    exact .call ih environment henv c hfor (hGH _ _ hg) hrun

def reportRun : ScheduledRun := ⟨"/data", "service", "schedule-run"⟩

def reportEnvironment : WorkerRuntimeEnvironment :=
  ⟨"server", .dockerLocal, "/data", "nouva-data", id, 1⟩

def reportPayload : WorkerJobPayload :=
  { projectId := "project", serviceId := "service", deploymentId := "deployment"
    scheduleId := "schedule", scheduleRunId := "schedule-run", occurrenceKey := "2024-01-01"
    jobName := "report", imageUrl := "image", command := "report", timeoutSeconds := 60
    resourceLimits := { cpuMillicores := some 250, memoryBytes := some 1024, pidsLimit := some 64 } }

def created : JobContainer := ⟨"id", by decide +kernel, .created⟩

theorem reportEnvironment_dataDir : reportEnvironment.dataDir = reportRun.dataDir := rfl

theorem reportPayload_service : reportPayload.serviceId = reportRun.serviceId := rfl

theorem reportPayload_accepted : normalizeWorkerCommand (some reportPayload.command) =
    some "report" ∧ (reportPayload.timeoutSeconds.isInt ∧ 60 ≤ reportPayload.timeoutSeconds ∧
      reportPayload.timeoutSeconds ≤ 24 * 60 * 60) ∧
    toDockerResourceSettings reportPayload.resourceLimits =
      .ok ⟨250000000, 1024, 1024, 64⟩ := by decide +kernel

def idle (status : String) : DockerContainerInspection :=
  ⟨"id", "/report", none, none, some ⟨some false, some status, some 0, none, none, none, none⟩,
    none, none, none, none⟩

def made : Jobs := ((⟨fun _ => none, []⟩ : Jobs).put reportRun.containerName created).mark .created

def finished : Jobs :=
  ((((made.put reportRun.containerName { created with state := .running }).mark .started).mark
    (.returned .running)).put reportRun.containerName { created with state := .exited 0 })

theorem made_job : made.containers reportRun.containerName = some created := by
  rw [made, Jobs.mark_containers, Jobs.put_self]

theorem made_others (name : String) (h : name ≠ reportRun.containerName) :
    made.containers name = none := Function.update_of_ne h _ _

theorem finished_others (name : String) (h : name ≠ reportRun.containerName) :
    finished.containers name = none := by
  rw [finished, Jobs.put_of_ne h, Jobs.mark_containers, Jobs.mark_containers, Jobs.put_of_ne h,
    made_others name h]

theorem report_starts : ∃ (files : Files) (receipt : WorkerJobReceipt),
    receipt.scheduleRunId = reportRun.scheduleRunId ∧ receipt.containerId = "id" ∧
    receipt.completedAt = .null ∧ receipt.status = .created ∧
    (files reportRun.receiptPath = some receipt.contents ∧
      Reachable reportRun (Careful reportRun) ⟨files, made⟩) ∧
    ∃ files : Files, files reportRun.receiptPath = some { receipt with status := .running }.contents ∧
      Reachable reportRun (Careful reportRun) ⟨files, finished⟩ := by
  obtain ⟨hcommand, htime, hresources⟩ := reportPayload_accepted
  obtain ⟨files, receipt, hstatus, hid, hcid, hcompleted, hfile, hstart⟩ :=
    exec_start (w := ⟨fun _ => none, fun _ => none, []⟩) reportEnvironment_dataDir
      reportPayload_service rfl hcommand htime rfl hresources rfl (fun _ => rfl) created.trimmed
  refine ⟨files, receipt, hid, hcid, hcompleted, hstatus, ⟨hfile, ?_⟩, ?_⟩
  · refine .call (.initial (fun _ => none) rfl) reportEnvironment rfl (.start reportPayload)
      ⟨rfl, rfl⟩ trivial ((hstart _).1 (.lost ?_))
    exact ⟨_, .refl, rfl, .inl rfl⟩
  obtain ⟨files', hfile', hlaunch⟩ := exec_launch (w := ⟨files, made⟩)
    reportEnvironment_dataDir hid made_job hcid rfl
  obtain ⟨result, hrunning, hexec⟩ := (hstart _).2 hlaunch
  have hstarted := Reachable.call (G := Careful reportRun) (.initial (fun _ => none) rfl)
    reportEnvironment rfl (.start reportPayload) ⟨rfl, rfl⟩ trivial hexec
  simp only [World.returning, hrunning] at hstarted
  have hexits : Drift (((made.put reportRun.containerName { created with state := .running }).mark
      .started).mark (.returned .running)) finished :=
    .exits _ _ { created with state := .running } 0
      (by rw [Jobs.mark_containers, Jobs.mark_containers, Jobs.put_self]) rfl
  exact ⟨files', hfile', hstarted.drift hexits⟩

theorem report_succeeded : ∃ w, Reachable reportRun (Careful reportRun) w ∧
    w.jobs.log = [.returned .succeeded, .returned .running, .started, .created] := by
  obtain ⟨_, receipt, hid, hcid, hcompleted, _, _, files, hfile, hreached⟩ := report_starts
  have hreflects : Reflects { created with state := .exited 0 } (idle "exited") :=
    ⟨rfl, _, rfl, rfl, rfl, _, rfl, by simp⟩
  have hknown : { receipt with status := .running }.status.Known := fun text => nofun
  obtain ⟨files', result, hsucceeded, hexec⟩ := exec_inspect (w := ⟨files, finished⟩)
    reportEnvironment_dataDir hknown hid rfl hfile finished_others (Jobs.put_self _ _ _)
    hcid hreflects rfl rfl hcompleted
  have hcareful : Careful reportRun ⟨files, finished⟩ .inspect := by
    rintro ⟨_, c, _, _, hc, hstate⟩
    obtain rfl := Option.some.inj ((Jobs.put_self _ _ _).symm.trans hc)
    cases hstate
  refine ⟨_, hreached.call reportEnvironment rfl .inspect trivial hcareful hexec, ?_⟩
  simp only [World.returning, hsucceeded]
  rfl

theorem worker_job_starts_once_report : ∃ w : World,
    w.jobs.log = [.returned .succeeded, .returned .running, .started, .created] ∧
      w.jobs.log.count .created ≤ 1 ∧ w.jobs.log.count .started ≤ 1 := by
  obtain ⟨w, hreached, hlog⟩ := report_succeeded
  exact ⟨w, hlog, worker_job_starts_once (hreached.mono fun _ _ _ => trivial)⟩

theorem worker_job_succeeded_ran_report : ∃ w : World, .returned .succeeded ∈ w.jobs.log ∧
    (∀ receipt, w.stored reportRun = some receipt → receipt.status = .succeeded →
      Ran reportRun w.jobs) ∧ (.returned .succeeded ∈ w.jobs.log → Ran reportRun w.jobs) := by
  obtain ⟨w, hreached, hlog⟩ := report_succeeded
  exact ⟨w, by simp [hlog], worker_job_succeeded_ran hreached⟩

/-- An inspection after a start that was cut off says `succeeded` of a job that never ran. -/
theorem worker_job_succeeded_unstarted : ∃ w : World, Reachable reportRun (fun _ _ => True) w ∧
    w.jobs.log = [.returned .succeeded, .created] ∧ ¬ Ran reportRun w.jobs := by
  obtain ⟨files, receipt, hid, hcid, hcompleted, hstatus, ⟨hfile, hreached⟩, _⟩ := report_starts
  have hreflects : Reflects created (idle "created") := ⟨rfl, _, rfl, rfl, rfl⟩
  obtain ⟨files', result, hsucceeded, hexec⟩ := exec_inspect (w := ⟨files, made⟩)
    reportEnvironment_dataDir (fun _ => by simp [hstatus]) hid
    (by simp [WorkerJobReceipt.isTerminal, hstatus]) hfile made_others made_job hcid
    hreflects rfl rfl hcompleted
  refine ⟨_, (hreached.mono fun _ _ _ => trivial).call reportEnvironment rfl .inspect trivial
    trivial hexec, ?_, ?_⟩
  · simp only [World.returning, hsucceeded]
    rfl
  · rintro ⟨hstarted, _⟩
    simp [World.returning, made] at hstarted

end NouvaAgent.WorkerJobProtocol
