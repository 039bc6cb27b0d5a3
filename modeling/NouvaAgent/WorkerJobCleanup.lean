import NouvaAgent.Interaction.Relay
import NouvaAgent.WorkerJobProtocol

namespace NouvaAgent

open Text Interaction Host

inductive JobCleanupCall
  | host (c : HostCall)
  | removeFile (path : String)
  deriving DecidableEq, Repr

abbrev JobCleanupCall.Answer : JobCleanupCall → Type
  | host c => c.Answer
  | removeFile _ => Except FileError Unit

abbrev JobCleanupAction (α : Type) := Action JobCleanupCall.Answer Failure α

structure CleanedWorkerJob where
  containerReceipt : Option WorkerJobReceipt
  identifier : String
  deriving DecidableEq, Repr

namespace WorkerJobs

def onHost {α : Type} (p : HostAction α) : JobCleanupAction α := p.relay .host fun _ r => r

def removeFile (path : String) : JobCleanupAction Unit :=
  Method.bind (Method.ask (JobCleanupCall.removeFile path)) fun
    | .ok _ => Method.pure ()
    | .error e => Method.throw (.call e.toCallError)

variable (environment : WorkerRuntimeEnvironment) (serviceId scheduleRunId : String)

def readOrRecoverWorkerJobReceipt : HostAction (Option WorkerJobReceipt) := do
  match ← readWorkerJobReceipt environment scheduleRunId with
  | some receipt => pure (some receipt)
  | none =>
    recoverMissingWorkerJobReceipt environment serviceId scheduleRunId ⟨none, none, none, none⟩

def removeWorkerJobContainer (receipt : WorkerJobReceipt) : HostAction Unit := do
  let inspection ← request (.inspectContainer receipt.containerId)
  if (inspection.map DockerContainerInspection.running).getD false then
    throw (.error ("Worker job " ++ scheduleRunId ++ " is still running and cannot be cleaned up"))
  else request (.removeContainer receipt.containerId true none)

def assertWorkerJobContainerGone (receipt : WorkerJobReceipt) : HostAction Unit := do
  match ← request (.inspectContainer receipt.containerId) with
  | some _ => throw (.error
      ("Worker job container " ++ receipt.containerName ++ " still exists after cleanup"))
  | none => pure ()

def cleanupWorkerJob : JobCleanupAction CleanedWorkerJob := do
  match ← onHost (readOrRecoverWorkerJobReceipt environment serviceId scheduleRunId) with
  | none => pure ⟨none, buildWorkerJobContainerName serviceId scheduleRunId⟩
  | some receipt => do
    onHost (removeWorkerJobContainer scheduleRunId receipt)
    onHost (assertWorkerJobContainerGone receipt)
    removeFile (getWorkerJobReceiptPath environment.dataDir scheduleRunId)
    pure ⟨some receipt, receipt.containerId⟩

end WorkerJobs

namespace WorkerJobCleanup

open Method WorkerJobs WorkerJobProtocol

structure Lives where
  world : World
  removed : List Jobs

def Removes (j : Jobs) (nameOrId : String) (force : Bool) (j' : Jobs) : Prop :=
  ∃ name c, j.Refers nameOrId name c ∧ (force = true ∨ c.state ≠ .running) ∧
    j' = ⟨Function.update j.containers name none, []⟩

/-- A removal of what is not there is answered as one that was carried out. -/
def RemoveEffect (s : Lives) (nameOrId : String) (force : Bool)
    (r : Option (Except CallError Unit)) (s' : Lives) : Prop :=
  s'.world.files = s.world.files ∧
    ((Removes s.world.jobs nameOrId force s'.world.jobs ∧
        s'.removed = s.world.jobs :: s.removed) ∨
      (r = some (.ok ()) → ∀ name c, ¬ s.world.jobs.Refers nameOrId name c) ∧
        s'.world.jobs = s.world.jobs ∧ s'.removed = s.removed)

/-- `rm` with `force`: a file that is not there is as good as removed. -/
def RemoveFileEffect (path : String) (r : Option (Except FileError Unit)) (files files' : Files) :
    Prop :=
  files' = Function.update files path none ∨ r ≠ some (.ok ()) ∧ files' = files

def effect (run : ScheduledRun) (s : Lives) : (c : JobCleanupCall) → Option c.Answer → Lives → Prop
  | .host (.agent (.request (.removeContainer nameOrId force _))), r, s' =>
    RemoveEffect s nameOrId force r s'
  | .host c, r, s' => WorkerJobProtocol.effect run s.world c r s'.world ∧ s'.removed = s.removed
  | .removeFile path, r, s' =>
    RemoveFileEffect path r s.world.files s'.world.files ∧ s'.world.jobs = s.world.jobs ∧
      s'.removed = s.removed

def model (run : ScheduledRun) : Model JobCleanupCall.Answer Lives := fun s c r s' =>
  ∃ j, Relation.ReflTransGen Drift s.world.jobs j ∧
    effect run { s with world := { s.world with jobs := j } } c r s'

/-- Starts, inspections, stops and cleanups of the run, one at a time. Each may fail or be cut off
at any step, before or after the step took effect. -/
inductive Reachable (run : ScheduledRun) : Lives → Prop
  | initial (files : Files) (h : files run.receiptPath = none) :
      Reachable run ⟨⟨files, fun _ => none, []⟩, []⟩
  | drift {s : Lives} {j : Jobs} (h : Reachable run s) (hd : Drift s.world.jobs j) :
      Reachable run { s with world := { s.world with jobs := j } }
  | call {s : Lives} {w' : World} {o : Outcome (Except Failure WorkerJobResult × Unit)}
      (h : Reachable run s) (environment : WorkerRuntimeEnvironment)
      (henvironment : environment.dataDir = run.dataDir) (c : JobCall) (hfor : c.For run)
      (hrun : Program.Exec (WorkerJobProtocol.model run) (c.perform run environment ()) s.world o w') :
      Reachable run { s with world := w'.returning o }
  | cleanup {s s' : Lives} {o : Outcome (Except Failure CleanedWorkerJob × Unit)}
      (h : Reachable run s) (environment : WorkerRuntimeEnvironment)
      (henvironment : environment.dataDir = run.dataDir)
      (hrun : Program.Exec (model run)
        (cleanupWorkerJob environment run.serviceId run.scheduleRunId ()) s o s') :
      Reachable run s'

def Retired (run : ScheduledRun) (j : Jobs) : Prop :=
  Once run j ∧ ∀ c, j.containers run.containerName = some c → c.state ≠ .running

structure Inv (run : ScheduledRun) (s : Lives) : Prop where
  current : WorkerJobProtocol.Inv run False s.world
  removed : ∀ j ∈ s.removed, Retired run j

def Absent (nameOrId : String) (j : Jobs) : Prop := ∀ name c, ¬ j.Refers nameOrId name c

def Still (nameOrId : String) (j : Jobs) : Prop :=
  ∀ name c, j.Refers nameOrId name c → c.state ≠ .running

variable {run : ScheduledRun} {s : Lives} {w : World} {j j' : Jobs} {nameOrId : String}

theorem absent_stable (nameOrId : String) : Stable (Absent nameOrId) := by
  intro j j' hd h name c' hr
  obtain ⟨c, hc, hid, -⟩ := hd.container hr.1
  exact h name c ⟨hc, hid ▸ hr.2⟩

theorem still_stable (nameOrId : String) : Stable (Still nameOrId) := by
  intro j j' hd h name c' hr
  obtain ⟨c, hc, hid, rfl | ⟨hrunning, -⟩⟩ := hd.container hr.1
  · exact h name c' ⟨hc, hr.2⟩
  · exact absurd hrunning (h name c ⟨hc, hid ▸ hr.2⟩)

theorem absent_of_saw (h : Saw run nameOrId none j) : Absent nameOrId j := by
  intro name c hr
  obtain ⟨_, hnone, -⟩ := h.found name c hr
  cases hnone

theorem still_of_saw {answer : Option DockerContainerInspection} (h : Saw run nameOrId answer j)
    (hstopped : (answer.map DockerContainerInspection.running).getD false = false) :
    Still nameOrId j := by
  intro name c hr hrunning
  obtain ⟨inspection, rfl, hshows⟩ := h.found name c hr
  obtain ⟨hcreated, -⟩ | ⟨hexited, -⟩ := hshows.stopped hstopped
  · rw [hcreated] at hrunning
    cases hrunning
  · rw [hexited] at hrunning
    cases hrunning

/-! What the cleanup shares with the other calls. -/

def Keeps : HostCall → Prop
  | .agent (.request (.removeContainer _ _ _)) => False
  | _ => True

theorem model_host {c : HostCall} {r : Option c.Answer} {s' : Lives} (hc : Keeps c) :
    model run s (.host c) r s' ↔
      WorkerJobProtocol.model run s.world c r s'.world ∧ s'.removed = s.removed := by
  have hhost (s : Lives) : effect run s (.host c) r s' ↔
      WorkerJobProtocol.effect run s.world c r s'.world ∧ s'.removed = s.removed := by
    cases c with
    | agent c =>
      cases c with
      | request q =>
        cases q with
        | removeContainer name force timeoutMs => exact False.elim hc
        | _ => exact .rfl
      | _ => exact .rfl
    | _ => exact .rfl
  constructor
  · rintro ⟨j, hd, he⟩
    exact ⟨⟨j, hd, ((hhost _).mp he).1⟩, ((hhost _).mp he).2⟩
  · rintro ⟨⟨j, hd, he⟩, hremoved⟩
    exact ⟨j, hd, (hhost _).mpr ⟨he, hremoved⟩⟩

abbrev Gives {α : Type} (run : ScheduledRun) (R : α → World → Prop) : Post Failure Unit α Lives :=
  Post.keeping (Inv run) fun a s => R a s.world

theorem onHost_gives {α : Type} {p : HostAction α} {R : α → World → Prop} (hu : p.Uses Keeps)
    (h : Inv run s) (hp : p.wp (WorkerJobProtocol.model run)
      (WorkerJobProtocol.Gives run False R) () s.world) :
    (onHost p).wp (model run) (Gives run R) () s := by
  have hM (v : Lives) (c : HostCall) (r : Option c.Answer) (v' : Lives) (hc : Keeps c)
      (hm : model run v (.host c) r v') :
      WorkerJobProtocol.model run v.world c (r.map fun r => r) v'.world ∧ v'.removed = v.removed := by
    rwa [Option.map_id', ← model_host hc]
  have hrelay := wp_relay (M := model run) (f := .host) (g := fun _ r => r) hM hu hp
  have hinv {s' : Lives} (hs : WorkerJobProtocol.Inv run False s'.world ∧ s'.removed = s.removed) :
      Inv run s' := ⟨hs.1, hs.2 ▸ h.removed⟩
  apply wp_mono hrelay
  · exact fun a _ s' hq => ⟨hinv hq.1, hq.2⟩
  · exact fun _ _ s' hq => hinv hq
  · exact fun s' hq => hinv hq

theorem onHost_bind_gives {α β : Type} {p : HostAction β} {q : β → HostAction α}
    {T : β → World → Prop} {R : α → World → Prop} (hp : (onHost p).wp (model run) (Gives run T) () s)
    (hq : ∀ b s, Inv run s → T b s.world → (onHost (q b)).wp (model run) (Gives run R) () s) :
    (onHost (Method.bind p q)).wp (model run) (Gives run R) () s := by
  rw [onHost, relay_bind]
  exact keeping_bind hp hq

theorem uses_file {step : FileStep} : (file step : HostAction Unit).Uses Keeps := by
  apply uses_bind (uses_ask trivial)
  rintro (e | _)
  · exact uses_throw _
  · exact uses_pure _

theorem writeWorkerJobReceipt_uses (environment : WorkerRuntimeEnvironment)
    (receipt : WorkerJobReceipt) : (writeWorkerJobReceipt environment receipt).Uses Keeps := by
  apply uses_bind uses_file
  intro _
  apply uses_bind uses_file
  intro _
  exact uses_file

theorem readWorkerJobReceipt_uses (environment : WorkerRuntimeEnvironment) (scheduleRunId : String) :
    (readWorkerJobReceipt environment scheduleRunId).Uses Keeps := by
  apply uses_bind (uses_ask trivial)
  rintro (e | contents)
  · dsimp only
    split
    · exact uses_pure _
    · exact uses_throw _
  · dsimp only
    split
    · exact uses_pure _
    · exact uses_throw _

theorem recover_uses (container : DockerContainerInspection) (serviceId scheduleRunId : String)
    (expected : WorkerJobExpectation) :
    (recoverWorkerJobReceiptFromContainer container serviceId scheduleRunId expected).Uses Keeps := by
  have htime (value : Option DateText) : (timestampOrNow value).Uses Keeps := by
    unfold timestampOrNow
    split
    · exact uses_pure _
    · exact uses_bind (uses_now trivial) fun _ => uses_pure _
  unfold recoverWorkerJobReceiptFromContainer
  split
  · split
    · exact uses_pure _
    · apply uses_bind (htime _)
      intro createdAt
      dsimp only
      split
      · exact uses_pure _
      · split
        · exact uses_pure _
        · exact uses_bind (htime _) fun _ => uses_pure _
  · exact uses_pure _

theorem readOrRecoverWorkerJobReceipt_uses (environment : WorkerRuntimeEnvironment)
    (serviceId scheduleRunId : String) :
    (readOrRecoverWorkerJobReceipt environment serviceId scheduleRunId).Uses Keeps := by
  apply uses_bind (readWorkerJobReceipt_uses environment scheduleRunId)
  intro found
  cases found with
  | some receipt => exact uses_pure _
  | none =>
    apply uses_bind (uses_request trivial)
    intro container
    cases container with
    | none => exact uses_pure _
    | some container =>
      apply uses_bind (recover_uses container serviceId scheduleRunId _)
      intro recovered
      cases recovered with
      | none => exact uses_throw _
      | some receipt =>
        exact uses_bind (writeWorkerJobReceipt_uses environment receipt) fun _ => uses_pure _

/-! The steps of a cleanup. -/

section

variable {environment : WorkerRuntimeEnvironment} (henv : environment.dataDir = run.dataDir)

include henv

theorem readOrRecover_gives (h : WorkerJobProtocol.Inv run False w) :
    (readOrRecoverWorkerJobReceipt environment run.serviceId run.scheduleRunId).wp
      (WorkerJobProtocol.model run) (WorkerJobProtocol.Gives run False fun r w =>
        r = none → Absent run.containerName w.jobs) () w := by
  apply keeping_bind (read_gives henv (stable_const True) h trivial)
  intro found w h _
  cases found with
  | some receipt => exact keeping_pure h nofun
  | none =>
    apply keeping_bind (inspect_gives _ (stable_const True) h trivial)
    intro answer w h hsaw
    cases answer with
    | none => exact keeping_pure h fun _ => absent_of_saw hsaw.2
    | some container =>
      apply keeping_bind (recoverFrom_gives h hsaw.2)
      intro recovered w h _
      cases recovered with
      | none => exact h
      | some receipt =>
        apply keeping_bind (write_gives henv (stable_const True) h trivial False.elim)
        intro _ w h _
        exact keeping_pure h nofun

omit henv in
theorem removal_inv {r : Option (Except CallError Unit)} {s' : Lives} (h : Inv run s)
    (hstill : Still nameOrId s.world.jobs)
    (hm : model run s (.host (.agent (.request (.removeContainer nameOrId true none)))) r s') :
    Inv run s' := by
  obtain ⟨j, hd, hfiles, ⟨⟨name, c, hr, -, hj⟩, hremoved⟩ | ⟨-, hj, hremoved⟩⟩ := hm
  · have honce : Once run j := (once_stable run).drifts hd h.current.once
    have hname : name = run.containerName := honce.refers hr
    subst hname
    constructor
    · constructor
      · rw [hj]
        constructor
        · intro other hother
          exact (Function.update_of_ne hother _ _).trans (honce.others other hother)
        · simp
        · simp
        · simp
        · simp
      · exact False.elim
    · have hretired : Retired run j := by
        constructor
        · exact honce
        · intro c' hc'
          obtain rfl : c = c' := Option.some.inj (hr.1.symm.trans hc')
          exact (still_stable nameOrId).drifts hd hstill _ c hr
      rw [hremoved]
      exact List.forall_mem_cons.mpr ⟨hretired, h.removed⟩
  · constructor
    · constructor
      · rw [hj]
        exact (once_stable run).drifts hd h.current.once
      · exact False.elim
    · rw [hremoved]
      exact h.removed

omit henv in
theorem removeContainer_gives (h : Inv run s) (hstill : Still nameOrId s.world.jobs) :
    (onHost (request (.removeContainer nameOrId true none))).wp (model run)
      (Gives run fun _ _ => True) () s := by
  constructor
  · exact fun s' hm => removal_inv h hstill hm
  · rintro (e | _) s' hm
    · exact removal_inv h hstill hm
    · exact ⟨removal_inv h hstill hm, trivial⟩

omit henv in
theorem inspectContainer_gives (h : Inv run s) :
    (onHost (request (.inspectContainer nameOrId))).wp (model run)
      (Gives run fun answer w => Saw run nameOrId answer w.jobs) () s := by
  have huses : (request (.inspectContainer nameOrId) : HostAction _).Uses Keeps :=
    uses_request trivial
  apply keeping_mono (onHost_gives huses h
    (inspect_gives nameOrId (stable_const True) h.current trivial))
  exact fun _ _ hsaw => hsaw.2

omit henv in
theorem removeWorkerJobContainer_gives (receipt : WorkerJobReceipt) (h : Inv run s) :
    (onHost (removeWorkerJobContainer run.scheduleRunId receipt)).wp (model run)
      (Gives run fun _ _ => True) () s := by
  apply onHost_bind_gives (inspectContainer_gives h)
  intro answer s h hsaw
  split
  · exact h
  · next hrunning => exact removeContainer_gives h (still_of_saw hsaw (by simpa using hrunning))

omit henv in
theorem assertWorkerJobContainerGone_gives (receipt : WorkerJobReceipt) (h : Inv run s) :
    (onHost (assertWorkerJobContainerGone receipt)).wp (model run)
      (Gives run fun _ w => Absent receipt.containerId w.jobs) () s := by
  apply onHost_bind_gives (inspectContainer_gives h)
  intro answer s h hsaw
  cases answer with
  | some container => exact h
  | none => exact ⟨h, absent_of_saw hsaw⟩

omit henv in
theorem removeFile_gives {path : String} (h : Inv run s) (habsent : Absent nameOrId s.world.jobs) :
    (removeFile path).wp (model run)
      (Gives run fun _ w => Absent nameOrId w.jobs ∧ w.files path = none) () s := by
  have hkept {r : Option (Except FileError Unit)} {s' : Lives}
      (hm : model run s (.removeFile path) r s') : Inv run s' ∧ Absent nameOrId s'.world.jobs := by
    obtain ⟨j, hd, -, hj, hremoved⟩ := hm
    constructor
    · constructor
      · constructor
        · rw [hj]
          exact (once_stable run).drifts hd h.current.once
        · exact False.elim
      · rw [hremoved]
        exact h.removed
    · rw [hj]
      exact (absent_stable nameOrId).drifts hd habsent
  constructor
  · exact fun s' hm => (hkept hm).1
  · rintro (e | _) s' hm
    · exact (hkept hm).1
    · refine ⟨(hkept hm).1, (hkept hm).2, ?_⟩
      obtain ⟨j, hd, hfiles | ⟨hfailed, -⟩, -, -⟩ := hm
      · rw [hfiles, Function.update_self]
      · exact absurd rfl hfailed

/-- What a cleanup certifies, where it returns. -/
def Certified (run : ScheduledRun) (cleaned : CleanedWorkerJob) (w : World) : Prop :=
  Absent cleaned.identifier w.jobs ∧
    ∀ receipt, cleaned.containerReceipt = some receipt → w.files run.receiptPath = none

theorem cleanupWorkerJob_gives (h : Inv run s) :
    (cleanupWorkerJob environment run.serviceId run.scheduleRunId).wp (model run)
      (Gives run (Certified run)) () s := by
  apply keeping_bind (onHost_gives (readOrRecoverWorkerJobReceipt_uses _ _ _) h
    (readOrRecover_gives henv h.current))
  intro found s h hfound
  cases found with
  | none =>
    apply keeping_pure h
    refine ⟨hfound rfl, ?_⟩
    rintro receipt ⟨⟩
  | some receipt =>
    apply keeping_bind (removeWorkerJobContainer_gives receipt h)
    intro _ s h _
    apply keeping_bind (assertWorkerJobContainerGone_gives receipt h)
    intro _ s h habsent
    apply keeping_bind (removeFile_gives h habsent)
    rintro _ s h ⟨habsent, hfile⟩
    apply keeping_pure h
    refine ⟨habsent, fun _ _ => ?_⟩
    rw [henv] at hfile
    exact hfile

end

theorem Reachable.inv (h : Reachable run s) : Inv run s := by
  induction h with
  | initial files hfiles =>
    exact ⟨(WorkerJobProtocol.Reachable.initial (G := fun _ _ => True) files hfiles).inv
      False.elim, fun _ hj => (List.not_mem_nil hj).elim⟩
  | drift _ hd ih => exact ⟨inv_stable run False _ _ _ hd ih.current, ih.removed⟩
  | call _ environment henv c hfor hrun ih =>
    exact ⟨returning_inv (Program.wp_sound (perform_gives henv hfor ih.current False.elim) hrun),
      ih.removed⟩
  | cleanup _ environment henv hrun ih =>
    have hend := Program.wp_sound (cleanupWorkerJob_gives henv ih) hrun
    rename_i o _
    obtain ⟨e | cleaned, _⟩ | _ := o
    · exact hend
    · exact hend.1
    · exact hend

/-- Of each container of the run, those cleaned up included, the command was started at most once,
and none was removed while it ran. -/
theorem cleaned_worker_jobs_start_once (h : Reachable run s) :
    (∀ j ∈ s.world.jobs :: s.removed, j.log.count .created ≤ 1 ∧ j.log.count .started ≤ 1) ∧
    (∀ j ∈ s.removed, ∀ c, j.containers run.containerName = some c → c.state ≠ .running) ∧
    ∀ environment, environment.dataDir = run.dataDir → ∀ cleaned u s',
      Program.Exec (model run) (cleanupWorkerJob environment run.serviceId run.scheduleRunId ()) s
        (.done (.ok cleaned, u)) s' → Certified run cleaned s'.world := by
  have hinv := h.inv
  refine ⟨?_, ?_, ?_⟩
  · rw [List.forall_mem_cons]
    constructor
    · exact ⟨hinv.current.once.created, hinv.current.once.started⟩
    · exact fun j hj => ⟨(hinv.removed j hj).1.created, (hinv.removed j hj).1.started⟩
  · exact fun j hj => (hinv.removed j hj).2
  · intro environment henv cleaned u s' hrun
    exact (Program.wp_sound (cleanupWorkerJob_gives henv hinv) hrun).2

/-! A run in which a job is started, exits, and is cleaned up. -/

section

theorem exec_onHost {α : Type} {p : Program HostCall.Answer α} {w w' : World} {o : Outcome α}
    (removed : List Jobs) (hp : p.Confined Keeps fun _ => True)
    (h : Program.Exec (WorkerJobProtocol.model run) p w o w') :
    Program.Exec (model run) (p.relay .host fun _ r => r) ⟨w, removed⟩ o ⟨w', removed⟩ := by
  have hmodel {c : HostCall} {r : Option c.Answer} {w w' : World} (hc : Keeps c)
      (hm : WorkerJobProtocol.model run w c r w') :
      model run ⟨w, removed⟩ (.host c) r ⟨w', removed⟩ := (model_host hc).mpr ⟨hm, rfl⟩
  induction h with
  | ret a w => exact .ret a _
  | cut w => exact .cut _
  | call hs hn ih => exact .call (hmodel hp.1 hs) (ih (hp.2 _))
  | lost hs => exact .lost (hmodel hp.1 hs)
  | pick n hn ih => exact .pick n (ih (hp n))

theorem exec_onHost_bind {α β : Type} {p : HostAction β} {q : β → HostAction α} {s s' s'' : Lives}
    {b : β} {o : Outcome (Except Failure α × Unit)}
    (hp : Program.Exec (model run) (onHost p ()) s (.done (.ok b, ())) s')
    (hq : Program.Exec (model run) (onHost (q b) ()) s' o s'') :
    Program.Exec (model run) (onHost (Method.bind p q) ()) s o s'' := by
  rw [onHost, relay_bind]
  exact exec_bind hp hq

theorem exec_inspectContainer {j : Jobs} {files : Files} {removed : List Jobs}
    {answer : Option DockerContainerInspection}
    (h : Truthful run j nameOrId (some (.ok answer))) :
    Program.Exec (model run) (onHost (request (.inspectContainer nameOrId)) ())
      ⟨⟨files, j⟩, removed⟩ (.done (.ok answer, ())) ⟨⟨files, j⟩, removed⟩ :=
  .call (r := .ok answer) ⟨j, .refl, ⟨rfl, h⟩, rfl⟩ (.ret _ _)

theorem exec_removeContainer {s' : Lives}
    (h : effect run s (.host (.agent (.request (.removeContainer nameOrId true none))))
      (some (.ok ())) s') :
    Program.Exec (model run) (onHost (request (.removeContainer nameOrId true none)) ()) s
      (.done (.ok (), ())) s' :=
  .call (r := .ok ()) ⟨s.world.jobs, .refl, h⟩ (.ret _ _)

theorem exec_removeFile {path : String} {s' : Lives}
    (h : effect run s (.removeFile path) (some (.ok ())) s') :
    Program.Exec (model run) (removeFile path ()) s (.done (.ok (), ())) s' :=
  .call (r := .ok ()) ⟨s.world.jobs, .refl, h⟩ (.ret _ _)

theorem reachable_of_calls {G : World → JobCall → Prop} (h : WorkerJobProtocol.Reachable run G w) :
    Reachable run ⟨w, []⟩ := by
  induction h with
  | initial files h => exact .initial files h
  | drift _ hd ih => exact .drift ih hd
  | call _ environment henv c hfor _ hrun ih => exact .call ih environment henv c hfor hrun

theorem exec_cleanup {environment : WorkerRuntimeEnvironment} {receipt : WorkerJobReceipt}
    {c : JobContainer} {inspection : DockerContainerInspection} {files : Files}
    (henv : environment.dataDir = run.dataDir) (hknown : receipt.status.Known)
    (hid : receipt.scheduleRunId = run.scheduleRunId)
    (hfile : files run.receiptPath = some receipt.contents)
    (hothers : ∀ name, name ≠ run.containerName → j.containers name = none)
    (hc : j.containers run.containerName = some c) (hcid : receipt.containerId = c.id)
    (hi : Reflects c inspection) (hstopped : inspection.running = false) :
    Program.Exec (model run) (cleanupWorkerJob environment run.serviceId run.scheduleRunId ())
      ⟨⟨files, j⟩, []⟩ (.done (.ok ⟨some receipt, receipt.containerId⟩, ()))
      ⟨⟨Function.update files run.receiptPath none,
        ⟨Function.update j.containers run.containerName none, []⟩⟩, [j]⟩ := by
  have hnone (name : String) : Function.update j.containers run.containerName none name = none := by
    by_cases h : name = run.containerName
    · rw [h, Function.update_self]
    · rw [Function.update_of_ne h, hothers name h]
  have hread : Program.Exec (WorkerJobProtocol.model run)
      (readOrRecoverWorkerJobReceipt environment run.serviceId run.scheduleRunId ()) ⟨files, j⟩
      (.done (.ok (some receipt), ())) ⟨files, j⟩ :=
    exec_bind (exec_read henv hknown hid hfile) (.ret _ _)
  have hremove : Program.Exec (model run)
      (onHost (removeWorkerJobContainer run.scheduleRunId receipt) ()) ⟨⟨files, j⟩, []⟩
      (.done (.ok (), ()))
      ⟨⟨files, ⟨Function.update j.containers run.containerName none, []⟩⟩, [j]⟩ := by
    apply exec_onHost_bind (exec_inspectContainer (truthful_one hothers hc hcid hi))
    rw [Option.map_some, Option.getD_some, hstopped, if_neg Bool.false_ne_true]
    exact exec_removeContainer ⟨rfl, .inl ⟨⟨_, c, ⟨hc, .inr hcid⟩, .inl rfl, rfl⟩, rfl⟩⟩
  have hgone : Program.Exec (model run) (onHost (assertWorkerJobContainerGone receipt) ())
      ⟨⟨files, ⟨Function.update j.containers run.containerName none, []⟩⟩, [j]⟩
      (.done (.ok (), ()))
      ⟨⟨files, ⟨Function.update j.containers run.containerName none, []⟩⟩, [j]⟩ := by
    apply exec_onHost_bind (exec_inspectContainer (truthful_none hnone))
    exact .ret _ _
  have hfiles : Program.Exec (model run)
      (removeFile (getWorkerJobReceiptPath environment.dataDir run.scheduleRunId) ())
      ⟨⟨files, ⟨Function.update j.containers run.containerName none, []⟩⟩, [j]⟩
      (.done (.ok (), ()))
      ⟨⟨Function.update files run.receiptPath none,
        ⟨Function.update j.containers run.containerName none, []⟩⟩, [j]⟩ := by
    rw [henv]
    exact exec_removeFile ⟨.inl rfl, rfl, rfl⟩
  apply exec_bind (exec_onHost [] (readOrRecoverWorkerJobReceipt_uses _ _ _ _) hread)
  apply exec_bind hremove
  apply exec_bind hgone
  exact exec_bind hfiles (.ret _ _)

theorem cleaned_worker_jobs_start_once_report : ∃ (s : Lives) (cleaned : CleanedWorkerJob),
    s.removed = [finished] ∧
    (∀ j ∈ s.world.jobs :: s.removed, j.log.count .created ≤ 1 ∧ j.log.count .started ≤ 1) ∧
    (∀ j ∈ s.removed, ∀ c, j.containers reportRun.containerName = some c → c.state ≠ .running) ∧
    cleaned.containerReceipt ≠ none ∧ Certified reportRun cleaned s.world := by
  obtain ⟨_, receipt, hid, hcid, _, _, _, files, hfile, hreached⟩ := report_starts
  have hknown : { receipt with status := .running }.status.Known := fun text => nofun
  have hreflects : Reflects { created with state := .exited 0 } (idle "exited") :=
    ⟨rfl, _, rfl, rfl, rfl, _, rfl, by simp⟩
  have hexec := exec_cleanup reportEnvironment_dataDir hknown hid hfile finished_others
    (Jobs.put_self _ _ _) hcid hreflects rfl
  have hlives := reachable_of_calls hreached
  have honce := cleaned_worker_jobs_start_once
    (Reachable.cleanup hlives reportEnvironment reportEnvironment_dataDir hexec)
  have hcertified := (cleaned_worker_jobs_start_once hlives).2.2 reportEnvironment
    reportEnvironment_dataDir _ _ _ hexec
  exact ⟨_, _, rfl, honce.1, honce.2.1, Option.some_ne_none _, hcertified⟩

end

end WorkerJobCleanup

end NouvaAgent
