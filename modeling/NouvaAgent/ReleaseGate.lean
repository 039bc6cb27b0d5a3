import NouvaAgent.Interaction.Triples
import NouvaAgent.VerificationEvidence

namespace NouvaAgent.ReleaseGate

open Text Interaction Agent Method ReleaseJobs

variable {σ : Type} {runner : ReleasePhaseRunner} {target : ReleaseJobTarget}
  {phaseRequest : ReleasePhaseRequest σ} {s s' : σ} {seg h : AgentHistory} {name : String}
  {attempt : ℕ} {reported : AttemptReport} {phase : ReleasePhase}

abbrev jobName (target : ReleaseJobTarget) (phase : ReleasePhase) (attempt : ℕ) : String :=
  buildReleaseJobContainerName target.serviceId target.deploymentId phase attempt

def ExitedWell (name : String) (h : AgentHistory) : Prop :=
  ∃ inspection startedAt finishedAt,
    ⟨.request (.inspectContainer name), some (.ok inspection)⟩ ∈ h ∧
      observeContainer inspection = .exited 0 startedAt finishedAt

def SuccessReported (phase : ReleasePhase) (attempt : ℕ) (h : AgentHistory) : Prop :=
  ∃ report : ReleaseJobReport, report.attempt = attempt ∧ report.outcome = .succeeded ∧
    ⟨.request (.report phase report), some (.ok ())⟩ ∈ h

/-- The phase has succeeded: an attempt had before this claim, or the claimed one did. -/
def Passed (serviceId deploymentId : String) (phase : ReleasePhase) (h : AgentHistory) : Prop :=
  (∃ jobs attempt, ⟨.request (.claim phase jobs), some (.ok (.skip attempt))⟩ ∈ h) ∨
    ∃ attempt, Claimed phase attempt h ∧ SuccessReported phase attempt h ∧
      ExitedWell (buildReleaseJobContainerName serviceId deploymentId phase attempt) h

theorem ExitedWell.mono (he : ExitedWell name seg) (hseg : seg ⊆ h) : ExitedWell name h := by
  obtain ⟨inspection, startedAt, finishedAt, hm, hseen⟩ := he
  exact ⟨inspection, startedAt, finishedAt, hseg hm, hseen⟩

theorem SuccessReported.mono (hr : SuccessReported phase attempt seg) (hseg : seg ⊆ h) :
    SuccessReported phase attempt h := by
  obtain ⟨report, hattempt, houtcome, hm⟩ := hr
  exact ⟨report, hattempt, houtcome, hseg hm⟩

theorem Passed.mono {serviceId deploymentId : String} (hp : Passed serviceId deploymentId phase seg)
    (hseg : seg ⊆ h) : Passed serviceId deploymentId phase h := by
  obtain ⟨jobs, attempt, hm⟩ | ⟨attempt, ⟨jobs, hclaimed⟩, hreported, hexited⟩ := hp
  · exact .inl ⟨jobs, attempt, hseg hm⟩
  · refine .inr ⟨attempt, ⟨jobs, ?_⟩, hreported.mono hseg, hexited.mono hseg⟩
    exact hclaimed.imp (fun hm => hseg hm) fun hm => hseg hm

def Ended (phase : ReleasePhase) (name : String) (attempt : ℕ) (h : AgentHistory) : Prop :=
  ExitedWell name h ∧ SuccessReported phase attempt h

theorem Ended.mono (he : Ended phase name attempt seg) (hseg : seg ⊆ h) :
    Ended phase name attempt h := ⟨he.1.mono hseg, he.2.mono hseg⟩

theorem exitOutcome_succeeded {exit : JobExit} {timeoutSeconds : ℕ}
    (h : exitOutcome exit timeoutSeconds = .succeeded) :
    ∃ startedAt finishedAt, exit.observation = .exited 0 startedAt finishedAt := by
  have hcode {exitCode : ℤ} (h : exitCodeOutcome exitCode = .succeeded) : exitCode = 0 := by
    unfold exitCodeOutcome at h
    split at h
    · assumption
    · cases h
  cases hseen : exit.observation with
  | exited exitCode startedAt finishedAt =>
    rw [exitOutcome, hseen] at h
    simp only [classifyReleaseJobExit] at h
    have hzero : exitCode = 0 := by
      split at h
      · split at h
        · cases h
        · exact hcode h
      · split at h
        · cases h
        · exact hcode h
    exact ⟨startedAt, finishedAt, by rw [hzero]⟩
  | _ =>
    rw [exitOutcome, hseen] at h
    cases h

theorem reportExit_succeeded {exit : JobExit} {inspection : Option DockerContainerInspection}
    (h : (reportExit runner phaseRequest name attempt exit).Returns s seg reported s')
    (houtcome : reported.outcome = .succeeded) (hseen : exit.observation = observeContainer inspection)
    {before : AgentHistory}
    (hm : ⟨.request (.inspectContainer name), some (.ok inspection)⟩ ∈ before) :
    Ended phaseRequest.phase name attempt (seg ++ before) := by
  obtain ⟨_, _, _, _, rfl, _, hrest⟩ := h.of_bind
  obtain ⟨_, _, policy, _, rfl, _, hrest⟩ := hrest.of_bind
  obtain ⟨_, _, time, _, rfl, _, hrest⟩ := hrest.of_bind
  obtain ⟨_, _, _, _, rfl, hreport, hrest⟩ := hrest.of_bind
  obtain ⟨rfl, rfl, _⟩ := hrest.of_pure
  obtain ⟨startedAt, finishedAt, hexit⟩ := exitOutcome_succeeded houtcome
  constructor
  · exact ⟨inspection, startedAt, finishedAt, List.mem_append_right _ hm, hseen.symm.trans hexit⟩
  · refine ⟨_, ?_, ?_, List.mem_append_left _ (List.mem_append_left _ (List.mem_append_left _
      (List.mem_append_left _ (List.mem_append_right _ (reportOutcome_returns hreport)))))⟩
    · rfl
    · exact houtcome

theorem awaitAndReport_succeeded {startedAtMs : ℤ}
    (h : (awaitAndReport runner phaseRequest name attempt startedAtMs).Returns s seg reported s')
    (houtcome : reported.outcome = .succeeded) : Ended phaseRequest.phase name attempt seg := by
  obtain ⟨_, _, exit, _, rfl, hexit, hreport⟩ := h.of_bind
  obtain ⟨inspection, hm, hseen⟩ := awaitExit_returns hexit
  exact reportExit_succeeded hreport houtcome hseen hm

theorem reportStart_succeeded {start : AttemptStart}
    (h : (reportStart runner phaseRequest name attempt start).Returns s seg reported s')
    (houtcome : reported.outcome = .succeeded) : Ended phaseRequest.phase name attempt seg := by
  cases start with
  | started atMs => exact awaitAndReport_succeeded h houtcome
  | notStarted error =>
    obtain ⟨_, _, time, _, rfl, _, hrest⟩ := h.of_bind
    obtain ⟨_, _, _, _, rfl, _, hend⟩ := hrest.of_bind
    obtain ⟨_, rfl, _⟩ := hend.of_pure
    cases houtcome

theorem runAttempt_succeeded
    (h : (runAttempt runner target phaseRequest name attempt).Returns s seg reported s')
    (houtcome : reported.outcome = .succeeded) : Ended phaseRequest.phase name attempt seg := by
  obtain ⟨_, _, start, _, rfl, _, hreport⟩ := h.of_bind
  exact (reportStart_succeeded hreport houtcome).mono (List.subset_append_left _ _)

theorem resumeAttempt_succeeded
    (h : (resumeAttempt runner phaseRequest name attempt).Returns s seg reported s')
    (houtcome : reported.outcome = .succeeded) : Ended phaseRequest.phase name attempt seg := by
  obtain ⟨_, _, inspection, _, rfl, hlook, hrest⟩ := h.of_bind
  obtain ⟨rfl, rfl⟩ := returns_request hlook
  split at hrest
  · obtain ⟨_, _, start, _, rfl, _, hreport⟩ := hrest.of_bind
    exact (reportStart_succeeded hreport houtcome).mono
      (List.Subset.trans (List.subset_append_left _ _) (List.subset_append_left _ _))
  · split at hrest
    · exact (awaitAndReport_succeeded hrest houtcome).mono (List.subset_append_left _ _)
    · obtain ⟨_, _, time, _, rfl, _, hreport⟩ := hrest.of_bind
      exact (awaitAndReport_succeeded hreport houtcome).mono
        (List.Subset.trans (List.subset_append_left _ _) (List.subset_append_left _ _))
  · exact reportExit_succeeded hrest houtcome rfl List.mem_cons_self
  · obtain ⟨_, _, _, _, rfl, _, hrest⟩ := hrest.of_bind
    obtain ⟨_, _, policy, _, rfl, _, hrest⟩ := hrest.of_bind
    obtain ⟨_, _, time, _, rfl, _, hrest⟩ := hrest.of_bind
    obtain ⟨_, _, _, _, rfl, _, hrest⟩ := hrest.of_bind
    obtain ⟨_, rfl, _⟩ := hrest.of_pure
    cases houtcome

theorem settleAttempt_succeeded {report : AgentMethod σ AttemptReport} {n : ℕ}
    (hreport : ∀ part reported t, report.Returns s part reported t →
      reported.outcome = .succeeded → Ended phaseRequest.phase name attempt part)
    (h : (settleAttempt target phaseRequest name attempt report).Returns s seg (.succeeded n) s') :
    Ended phaseRequest.phase name attempt seg := by
  obtain ⟨part, reported, t, hpart, hreturns, hresult⟩ := settleAttempt_returns h
  unfold describeResult at hresult
  cases houtcome : reported.outcome with
  | succeeded => exact (hreport part reported t hreturns houtcome).mono hpart.subset
  | unsuccessful failure =>
    rw [houtcome] at hresult
    cases hresult

theorem run_succeeded {n : ℕ}
    (h : (run runner target phaseRequest).Returns s seg (.succeeded n) s') :
    Passed target.serviceId target.deploymentId phaseRequest.phase seg := by
  obtain ⟨_, _, _, _, rfl, _, hrest⟩ := h.of_bind
  obtain ⟨_, _, jobs, _, rfl, _, hrest⟩ := hrest.of_bind
  obtain ⟨claimed, acted, response, _, rfl, hclaim, hact⟩ := hrest.of_bind
  have hm := claimPhase_returns hclaim
  cases response with
  | wait attempt text => exact absurd hact Returns.not_throw
  | skip attempt => exact .inl ⟨jobs, attempt, by simp [hm]⟩
  | halt attempt status text =>
    obtain ⟨_, _, _, _, rfl, _, hend⟩ := hact.of_bind
    cases hend.of_pure.2.1
  | run attempt =>
    obtain ⟨_, _, _, _, rfl, _, hsettle⟩ := hact.of_bind
    have hended := settleAttempt_succeeded
      (fun _ _ _ hreturns houtcome => runAttempt_succeeded hreturns houtcome) hsettle
    refine .inr ⟨attempt, ⟨jobs, .inl (by simp [hm])⟩, hended.2.mono ?_, hended.1.mono ?_⟩
    · simp
    · simp
  | resume attempt =>
    have hended := settleAttempt_succeeded
      (fun _ _ _ hreturns houtcome => resumeAttempt_succeeded hreturns houtcome) hact
    refine .inr ⟨attempt, ⟨jobs, .inr (by simp [hm])⟩, hended.2.mono ?_, hended.1.mono ?_⟩
    · simp
    · simp

/-! What the runner may do meanwhile. -/

/-- A listing of release jobs showed this container. -/
def Listed (id : String) (h : AgentHistory) : Prop :=
  ∃ labels containers, ⟨.request (.listContainersByLabels labels), some (.ok containers)⟩ ∈ h ∧
    ("nouva.kind", "release_job") ∈ labels ∧ ∃ container ∈ containers, container.id = id

theorem persistent_listed (id : String) : Persistent recording (Listed id) := by
  apply persistent_recording
  rintro e h ⟨labels, containers, hm, hlisted⟩
  exact ⟨labels, containers, List.mem_cons_of_mem _ hm, hlisted⟩

def OwnCall (name : String) (phase : ReleasePhase) : AgentCall → Prop
  | .now | .sleep _ => True
  | .request r => match r with
    | .inspectContainer n | .startContainer n | .stopContainer n _ _ | .removeContainer n _ _
    | .containerLogEntries n _ => n = name
    | .report p _ => p = phase
    | _ => False

/-- What runs no job: it looks, asks the control plane, and stops or removes listed release jobs. -/
def WatcherMay (phase : ReleasePhase) (c : AgentCall) (before : AgentHistory) : Prop :=
  match c with
  | .now | .sleep _ => True
  | .request r => match r with
    | .inspectContainer _ | .listContainersByLabels _ => True
    | .claim p _ => p = phase
    | .stopContainer id _ _ | .removeContainer id _ _ => Listed id before
    | _ => False

/-- It touches no container but release jobs: those of its own attempts, and those listed. -/
def RunnerMay (target : ReleaseJobTarget) (phaseRequest : ReleasePhaseRequest σ) (c : AgentCall)
    (before : AgentHistory) : Prop :=
  let own := jobName target phaseRequest.phase
  match c with
  | .now | .sleep _ => True
  | .request r => match r with
    | .inspectContainer _ | .listContainersByLabels _ | .containerLogEntries _ _ => True
    | .inspectImage image | .pullImage image => image = target.image
    | .claim p _ | .report p _ => p = phaseRequest.phase
    | .createContainer spec =>
      ∃ attempt, spec = jobContainerSpec target phaseRequest (own attempt) attempt
    | .startContainer name => ∃ attempt, name = own attempt
    | .stopContainer id _ _ | .removeContainer id _ _ =>
      Listed id before ∨ ∃ attempt, id = own attempt
    | _ => False

section

variable {G : AgentEvent → AgentHistory → Prop} {P X : AgentHistory → Prop} {r : Request}
  {Q : r.Result → AgentHistory → Prop}

theorem triple_request (hG : ∀ a h, P h → G ⟨.request r, a⟩ h)
    (hQ : ∀ a h, P h → Q a (⟨.request r, some (.ok a)⟩ :: h))
    (hX : ∀ e h, P h → X (⟨.request r, some (.error e)⟩ :: h)) :
    Triple recording (Along G) P (request r : AgentMethod σ r.Result) Q X := by
  intro s h hJ hP
  apply (wp_request r).mpr
  refine ⟨?_, ?_, ?_⟩
  · rintro _ ⟨rfl, -⟩
    exact ⟨hG _ h hP, hJ⟩
  · rintro e _ ⟨rfl, -⟩
    exact ⟨⟨hG _ h hP, hJ⟩, hX e h hP⟩
  · rintro a _ ⟨rfl, -⟩
    exact ⟨⟨hG _ h hP, hJ⟩, hQ a h hP⟩

end

theorem WatcherMay.mayRun {c : AgentCall} (hc : WatcherMay phaseRequest.phase c h) :
    RunnerMay target phaseRequest c h := by
  cases c with
  | now => trivial
  | sleep ms => trivial
  | request r =>
    cases r with
    | inspectContainer n | listContainersByLabels labels => trivial
    | claim p jobs => exact hc
    | stopContainer id seconds ms | removeContainer id force ms => exact .inl hc
    | _ => exact False.elim hc

section

variable {G : AgentEvent → AgentHistory → Prop}
  (hG : ∀ c a h, WatcherMay phase c h → G ⟨c, a⟩ h)

def ListedCall (containers : List DockerContainerInspection) : AgentCall → Prop
  | .now => True
  | .request r => match r with
    | .inspectContainer _ => True
    | .stopContainer id _ _ | .removeContainer id _ _ => ∃ container ∈ containers, container.id = id
    | _ => False
  | _ => False

include hG in
theorem ListedCall.allowed {containers : List DockerContainerInspection} {c : AgentCall}
    (hc : ListedCall containers c) (hl : ∀ container ∈ containers, Listed container.id h)
    (a : Option c.Answer) : G ⟨c, a⟩ h := by
  apply hG
  cases c with
  | now => trivial
  | sleep ms => exact False.elim hc
  | request r =>
    cases r with
    | inspectContainer n => trivial
    | stopContainer id seconds ms | removeContainer id force ms =>
      obtain ⟨container, hmem, rfl⟩ := hc
      exact hl container hmem
    | _ => exact False.elim hc

include hG in
theorem safe_listed {α : Type} {labels : TextRecord}
    {f : List DockerContainerInspection → AgentMethod σ α}
    (hlabels : ("nouva.kind", "release_job") ∈ labels)
    (hf : ∀ containers, (f containers).Uses (ListedCall containers)) :
    Safe G (Method.bind (request (.listContainersByLabels labels)) f) := by
  apply Triple.bind (R := fun containers h => ∀ container ∈ containers, Listed container.id h)
  · apply triple_request
    · exact fun a h _ => hG _ a h trivial
    · exact fun containers h _ container hmem =>
        ⟨labels, containers, List.mem_cons_self, hlabels, container, hmem, rfl⟩
    · exact fun _ _ _ => trivial
  intro containers
  apply ((hf containers).triple_along _ _).mono
  · exact fun _ h => h
  · exact fun _ _ _ => trivial
  · exact fun _ _ => trivial
  · exact fun c a h hc hl => hc.allowed hG hl a
  · exact .forall fun container => .forall fun _ => persistent_listed container.id

include hG in
theorem safe_readRunningJobs {serviceId deploymentId : String} {phase' : ReleasePhase} :
    Safe G (readRunningJobs serviceId deploymentId phase' : AgentMethod σ (List String)) := by
  apply safe_listed hG (by simp)
  intro containers
  apply (readRunningJobsOf_framed _ _ _ _ _).uses
  exact fun container hmem =>
    stopOverdueJob_framed container trivial ⟨container, hmem, rfl⟩ trivial

include hG in
theorem safe_removeSettledAttempts :
    Safe G (removeSettledAttempts target phase : AgentMethod σ Unit) := by
  apply safe_listed hG (by simp)
  intro containers
  apply uses_forEach
  intro container hmem
  split
  · exact uses_request ⟨container, hmem, rfl⟩
  · exact uses_pure ()

include hG in
theorem safe_removeOtherDeploymentsExitedJobs :
    Safe G (removeOtherDeploymentsExitedJobs target phase : AgentMethod σ Unit) := by
  apply safe_listed hG (by simp)
  intro containers
  apply uses_forEach
  intro container hmem
  split
  · exact uses_pure ()
  · split
    · exact uses_pure ()
    · exact uses_request ⟨container, (List.mem_filter.mp hmem).1, rfl⟩

include hG in
theorem safe_claimPhase (jobs : List String) : Safe G (claimPhase runner phase jobs :
    AgentMethod σ ReleaseJobClaimResponse) := by
  have hclaim : (claimPhase runner phase jobs : AgentMethod σ ReleaseJobClaimResponse).Uses fun c =>
      c = .request (.claim phase jobs) ∨ c = .now ∨ ∃ ms, c = .sleep ms :=
    (claimPhase_framed (.inl rfl) (.inr (.inl rfl)) fun ms => .inr (.inr ⟨ms, rfl⟩)).uses
  apply hclaim.safe
  rintro _ a h (rfl | rfl | ⟨ms, rfl⟩)
  · exact hG _ a h rfl
  · exact hG _ a h trivial
  · exact hG _ a h trivial

end

theorem safe_deferWhileBlockingJobRuns {G : AgentEvent → AgentHistory → Prop}
    {serviceId deploymentId : String}
    (hG : ∀ c a h, WatcherMay .preActivation c h → G ⟨c, a⟩ h) :
    Safe G (deferWhileBlockingJobRuns runner serviceId deploymentId : AgentMethod σ Unit) := by
  apply (safe_readRunningJobs hG).bind
  intro jobs
  split
  · exact triple_pure fun _ h => h
  · apply (safe_claimPhase hG jobs).bind
    intro claim
    cases claim with
    | wait attempt message => exact triple_throw fun _ h => h
    | _ => exact triple_pure fun _ h => h

theorem OwnCall.may {c : AgentCall}
    (hc : OwnCall (jobName target phaseRequest.phase attempt) phaseRequest.phase c) :
    RunnerMay target phaseRequest c h := by
  cases c with
  | now => trivial
  | sleep ms => trivial
  | request r =>
    cases r with
    | inspectContainer n | containerLogEntries n tail => trivial
    | startContainer n => exact ⟨attempt, hc⟩
    | stopContainer id seconds ms | removeContainer id force ms => exact .inr ⟨attempt, hc⟩
    | report p report => exact hc
    | _ => exact False.elim hc

/-! An attempt of a phase that applies no policy. -/

section

variable (hnone : phaseRequest.resolveAppliedPolicy = none)

include hnone

theorem reportExit_own (exit : JobExit) : (reportExit runner phaseRequest name attempt exit).Uses
    (OwnCall name phaseRequest.phase) := by
  apply reportExit_uses
  · intro resolve outcome hresolve
    rw [hnone] at hresolve
    cases hresolve
  · trivial
  · exact fun _ => trivial
  · exact rfl
  · exact fun _ => rfl

theorem awaitAndReport_own (startedAtMs : ℤ) :
    (awaitAndReport runner phaseRequest name attempt startedAtMs).Uses
      (OwnCall name phaseRequest.phase) := by
  have hexit (deadlineMs : ℤ) (fuel : ℕ) : (awaitExit name deadlineMs fuel :
      AgentMethod σ JobExit).Framed (OwnCall name phaseRequest.phase) :=
    awaitExit_framed name deadlineMs fuel trivial (fun _ => trivial) rfl rfl
  apply uses_bind (hexit _ _).uses
  exact fun exit => reportExit_own hnone exit

theorem reportStart_own (start : AttemptStart) :
    (reportStart runner phaseRequest name attempt start).Uses (OwnCall name phaseRequest.phase) := by
  cases start with
  | started atMs => exact awaitAndReport_own hnone atMs
  | notStarted error =>
    exact reportNotStarted_uses attempt error trivial (fun _ => trivial) fun _ => rfl

theorem resumeAttempt_own : (resumeAttempt runner phaseRequest name attempt).Uses
    (OwnCall name phaseRequest.phase) := by
  have hlook : (request (.inspectContainer name) : AgentMethod σ _).Framed
      (OwnCall name phaseRequest.phase) := framed_request rfl
  have hstart : (request (.startContainer name) : AgentMethod σ Unit).Framed
      (OwnCall name phaseRequest.phase) := framed_request rfl
  apply uses_bind hlook.uses
  intro inspection
  split
  · apply uses_bind (startAttempt_framed hstart trivial rfl).uses
    exact fun start => reportStart_own hnone start
  · split
    · exact awaitAndReport_own hnone _
    · exact uses_bind (uses_now trivial) fun time => awaitAndReport_own hnone time
  · exact reportExit_own hnone _
  · exact reportExit_own hnone _

end

section

variable {G : AgentEvent → AgentHistory → Prop}
  (hG : ∀ c a h, RunnerMay target phaseRequest c h → G ⟨c, a⟩ h)

include hG

theorem watcher_allowed (c : AgentCall) (a : Option c.Answer) (h : AgentHistory)
    (hc : WatcherMay phaseRequest.phase c h) : G ⟨c, a⟩ h := hG c a h hc.mayRun

theorem safe_own {α : Type} {p : AgentMethod σ α} {n : ℕ}
    (hp : p.Uses (OwnCall (jobName target phaseRequest.phase n) phaseRequest.phase)) : Safe G p :=
  hp.safe fun c a h hc => hG c a h hc.may

theorem safe_ask {r : Request} (hr : ∀ h, RunnerMay target phaseRequest (.request r) h) :
    Safe G (request r : AgentMethod σ r.Result) :=
  triple_request (fun a h _ => hG _ a h (hr h)) (fun _ _ _ => trivial) fun _ _ _ => trivial

theorem safe_startJob (attempt : ℕ) :
    Safe G (startJob target phaseRequest (jobName target phaseRequest.phase attempt) attempt) := by
  apply (safe_removeSettledAttempts (watcher_allowed hG)).bind
  intro _
  have hcreate : Safe G
      (createJobContainer target phaseRequest (jobName target phaseRequest.phase attempt) attempt) :=
    Safe.bind (safe_ask hG fun h => ⟨attempt, rfl⟩) fun _ => triple_pure fun _ h => h
  apply hcreate.bind
  exact fun _ => safe_ask hG fun h => ⟨attempt, rfl⟩

theorem safe_runAttempt (hnone : phaseRequest.resolveAppliedPolicy = none) (attempt : ℕ) :
    Safe G (runAttempt runner target phaseRequest (jobName target phaseRequest.phase attempt)
      attempt) := by
  have hstarted : Safe G (startAttempt (jobName target phaseRequest.phase attempt)
      (startJob target phaseRequest (jobName target phaseRequest.phase attempt) attempt)) := by
    apply Triple.bind (R := fun _ _ => True)
    · apply (safe_startJob hG attempt).settle.mono (fun _ h => h)
      · exact fun _ _ _ => trivial
      · exact fun _ _ => trivial
    rintro (error | ⟨⟩)
    · apply safe_own hG (n := attempt)
      have hlook : (request (.inspectContainer (jobName target phaseRequest.phase attempt)) :
          AgentMethod σ _).Uses
            (OwnCall (jobName target phaseRequest.phase attempt) phaseRequest.phase) :=
        uses_request rfl
      apply uses_bind (uses_settle hlook)
      rintro (_ | inspection)
      · exact uses_throw error
      · dsimp only
        split
        · exact uses_pure _
        · split
          · exact uses_bind (uses_now trivial) fun _ => uses_pure _
          · exact uses_pure _
    · exact safe_own hG (n := attempt) (uses_bind (uses_now trivial) fun _ => uses_pure _)
  apply hstarted.bind
  exact fun start => safe_own hG (reportStart_own hnone start)

theorem safe_settleAttempt {attempt : ℕ} {report : AgentMethod σ AttemptReport}
    (hreport : Safe G report) : Safe G (settleAttempt target phaseRequest
      (jobName target phaseRequest.phase attempt) attempt report) := by
  have hremove : (request (.removeContainer (jobName target phaseRequest.phase attempt) true none) :
      AgentMethod σ Unit).Uses
        (OwnCall (jobName target phaseRequest.phase attempt) phaseRequest.phase) :=
    uses_request rfl
  apply Safe.bind
  · apply hreport.tryCatch
    intro error
    split
    · apply safe_own hG (n := attempt)
      exact uses_bind (uses_bind (uses_settle hremove) fun _ => uses_pure ()) fun _ => uses_throw error
    · exact triple_throw fun _ h => h
  · intro reported
    exact safe_own hG (uses_bind (uses_settle hremove) fun _ => uses_pure _)

theorem safe_act (hnone : phaseRequest.resolveAppliedPolicy = none)
    (claim : ReleaseJobClaimResponse) : Safe G (act runner target phaseRequest claim) := by
  cases claim with
  | wait attempt message => exact triple_throw fun _ h => h
  | skip attempt =>
    exact (safe_removeSettledAttempts (watcher_allowed hG)).bind fun _ => triple_pure fun _ h => h
  | halt attempt status message =>
    exact (safe_removeSettledAttempts (watcher_allowed hG)).bind fun _ => triple_pure fun _ h => h
  | run attempt =>
    apply (safe_removeOtherDeploymentsExitedJobs (watcher_allowed hG)).bind
    exact fun _ => safe_settleAttempt hG (safe_runAttempt hG hnone attempt)
  | resume attempt =>
    exact safe_settleAttempt hG (safe_own hG (resumeAttempt_own hnone))

theorem safe_run (hnone : phaseRequest.resolveAppliedPolicy = none) :
    Safe G (run runner target phaseRequest) := by
  have hprepare : (prepareImage target : AgentMethod σ Unit).Uses fun c =>
      c = .request (.inspectImage target.image) ∨ c = .request (.pullImage target.image) := by
    apply (prepareImage_framed target _).uses
    rintro r (rfl | rfl)
    · exact .inl rfl
    · exact .inr rfl
  apply Safe.bind
  · apply hprepare.safe
    rintro _ a h (rfl | rfl)
    · exact hG _ a h rfl
    · exact hG _ a h rfl
  intro _
  apply (safe_readRunningJobs (watcher_allowed hG)).bind
  intro jobs
  apply (safe_claimPhase (watcher_allowed hG) jobs).bind
  exact fun claim => safe_act hG hnone claim

end

theorem triple_run {G : AgentEvent → AgentHistory → Prop}
    (hG : ∀ c a h, RunnerMay target phaseRequest c h → G ⟨c, a⟩ h)
    (hnone : phaseRequest.resolveAppliedPolicy = none) :
    Triple recording (Along G) (fun _ => True) (run runner target phaseRequest)
      (fun result h => ∀ attempt, result = .succeeded attempt →
        Passed target.serviceId target.deploymentId phaseRequest.phase h)
      fun _ => True := by
  intro s h hJ _
  apply wp_mono (wp_and (safe_run hG hnone s h hJ trivial) (wp_returns _ s h))
  · rintro result t _ ⟨⟨hJ, -⟩, seg, rfl, hreturns⟩
    refine ⟨hJ, ?_⟩
    rintro attempt rfl
    exact (run_succeeded hreturns).mono (List.subset_append_left _ _)
  · exact fun _ _ _ hend => hend.1
  · exact fun _ hend => hend.1

end NouvaAgent.ReleaseGate
