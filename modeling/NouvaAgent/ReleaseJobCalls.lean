import NouvaAgent.ReleaseJobs

namespace NouvaAgent.ReleaseJobs

open Text Interaction Agent Method

variable {σ α : Type} {S : AgentCall → Prop}

def FollowCall (phase : ReleasePhase) : AgentCall → Prop
  | .now | .sleep _ => True
  | .request r => match r with
    | .listContainersByLabels _ | .inspectContainer _ | .removeContainer _ _ _
    | .containerLogEntries _ _ => True
    | .stopContainer _ seconds _ => seconds.isSome
    | .report p _ => p = phase
    | _ => False

def JobCall (target : ReleaseJobTarget) (phase : ReleasePhase) : AgentCall → Prop
  | .now | .sleep _ => True
  | .request r => match r with
    | .listContainersByLabels _ | .inspectContainer _ | .removeContainer _ _ _
    | .containerLogEntries _ _ => True
    | .stopContainer _ seconds _ => seconds.isSome
    | .report p _ => p = phase
    | .createContainer spec =>
      ∃ attempt, spec.name =
        buildReleaseJobContainerName target.serviceId target.deploymentId phase attempt
    | .startContainer name =>
      ∃ attempt, name =
        buildReleaseJobContainerName target.serviceId target.deploymentId phase attempt
    | _ => False

def RunnerCall (target : ReleaseJobTarget) (phase : ReleasePhase) (c : AgentCall) : Prop :=
  JobCall target phase c ∨ (∃ jobs, c = .request (.claim phase jobs)) ∨
    c = .request (.inspectImage target.image) ∨ c = .request (.pullImage target.image)

theorem FollowCall.job {target : ReleaseJobTarget} {phase : ReleasePhase} {c : AgentCall}
    (h : FollowCall phase c) : JobCall target phase c := by
  cases c with
  | request r => cases r <;> first | exact h | exact h.elim
  | now => trivial
  | sleep ms => trivial

theorem prepareImage_framed (target : ReleaseJobTarget)
    (himage : ∀ r, r = .inspectImage target.image ∨ r = .pullImage target.image →
      S (.request r)) : (prepareImage target : AgentMethod σ Unit).Framed S := by
  refine framed_bind (framed_request (himage _ (.inl rfl))) fun image => ?_
  split
  · split
    · exact framed_request (himage _ (.inr rfl))
    · exact framed_throw _
  · exact framed_pure ()

theorem repeatControlPlaneCall_framed {call : AgentMethod σ α} {giveUp : Failure → Bool → Failure}
    (hcall : call.Framed S) (hnow : S .now) (hsleep : ∀ ms, S (.sleep ms)) (giveUpAtMs : ℤ)
    (fuel : ℕ) (retried : Bool) (delayMs : ℤ) :
    (repeatControlPlaneCall call giveUp giveUpAtMs fuel retried delayMs).Framed S := by
  induction fuel generalizing retried delayMs with
  | zero => exact framed_cut
  | succ fuel ih =>
    refine framed_bind (framed_settle hcall) fun r => ?_
    cases r with
    | ok a => exact framed_pure a
    | error e =>
      dsimp only
      split
      · refine framed_bind (framed_now hnow) fun time => ?_
        split
        · exact framed_throw _
        · exact framed_bind (framed_sleep (hsleep _)) fun _ => ih _ _
      · exact framed_throw _

theorem callControlPlane_framed {runner : ReleasePhaseRunner} {call : AgentMethod σ α}
    {giveUp : Failure → Bool → Failure} (hcall : call.Framed S) (hnow : S .now)
    (hsleep : ∀ ms, S (.sleep ms)) : (callControlPlane runner call giveUp).Framed S :=
  framed_bind (framed_now hnow) fun _ => repeatControlPlaneCall_framed hcall hnow hsleep _ _ _ _

/-- What the call keeps when it fails, the clock and the pauses between tries keep as well; so
every end of the whole loop is an end of one try. -/
theorem callControlPlane_wp {W : Type} {M : Model AgentCall.Answer W}
    {runner : ReleasePhaseRunner} {call : AgentMethod σ α} {giveUp : Failure → Bool → Failure}
    {J : W → Prop} {R : α → σ → W → Prop} {s : σ} {w : W}
    (hcall : ∀ s w, J w → call.wp M ⟨R, fun _ _ => J, J⟩ s w)
    (hnow : ∀ w r w', M w .now r w' → J w → J w')
    (hsleep : ∀ ms w r w', M w (.sleep ms) r w' → J w → J w') (hw : J w) :
    (callControlPlane runner call giveUp).wp M ⟨R, fun _ _ => J, J⟩ s w := by
  have loop (giveUpAtMs : ℤ) (fuel : ℕ) : ∀ (retried : Bool) (delayMs : ℤ) (s : σ) (w : W), J w →
      (repeatControlPlaneCall call giveUp giveUpAtMs fuel retried delayMs).wp M
        ⟨R, fun _ _ => J, J⟩ s w := by
    induction fuel with
    | zero => exact fun _ _ _ _ hw => hw
    | succ fuel ih =>
      intro retried delayMs s w hw
      refine wp_bind_of (R := fun r s w => (∀ a, r = .ok a → R a s w) ∧ (r.isOk = false → J w))
        ((wp_settle call).mpr (wp_mono (hcall s w hw) (fun a s w h => ⟨?_, ?_⟩)
          (fun e s w h => ⟨?_, fun _ => h⟩) fun _ h => h)) ?_
      · rintro b hb
        exact Except.ok.inj hb ▸ h
      · exact fun hb => nomatch hb
      · exact fun _ hb => nomatch hb
      rintro (e | a) s w ⟨hok, herr⟩
      · have h := herr rfl
        dsimp only
        split
        · refine wp_bind_of (R := fun _ _ => J)
            ⟨fun _ hs => hnow _ _ _ hs h, fun _ _ hs => hnow _ _ _ hs h⟩ fun time s w h => ?_
          split
          · exact h
          · exact wp_bind_of (R := fun _ _ => J)
              ⟨fun _ hs => hsleep _ _ _ _ hs h, fun _ _ hs => hsleep _ _ _ _ hs h⟩
              fun _ s w h => ih _ _ s w h
        · exact h
      · exact hok a rfl
  exact wp_bind_of (R := fun _ _ => J)
    ⟨fun _ hs => hnow _ _ _ hs hw, fun _ _ hs => hnow _ _ _ hs hw⟩ fun _ s w h => loop _ _ _ _ s w h

theorem claimPhase_framed {runner : ReleasePhaseRunner} {phase : ReleasePhase} {jobs : List String}
    (hclaim : S (.request (.claim phase jobs))) (hnow : S .now) (hsleep : ∀ ms, S (.sleep ms)) :
    (claimPhase runner phase jobs : AgentMethod σ ReleaseJobClaimResponse).Framed S :=
  callControlPlane_framed (framed_request hclaim) hnow hsleep

theorem reportOutcome_framed {runner : ReleasePhaseRunner} {phase : ReleasePhase}
    {report : ReleaseJobReport} (hreport : S (.request (.report phase report))) (hnow : S .now)
    (hsleep : ∀ ms, S (.sleep ms)) :
    (reportOutcome runner phase report : AgentMethod σ Unit).Framed S :=
  callControlPlane_framed (framed_request hreport) hnow hsleep

theorem stopOverdueJob_framed (container : DockerContainerInspection) (hnow : S .now)
    (hstop : S (.request (.stopContainer container.id (some stopGraceSeconds) none)))
    (hinspect : S (.request (.inspectContainer container.id))) :
    (stopOverdueJob container : AgentMethod σ Bool).Framed S := by
  unfold stopOverdueJob
  split
  · refine framed_bind (framed_now hnow) fun time => ?_
    split
    · exact framed_bind (framed_request hstop) fun _ => framed_bind (framed_request hinspect) fun _ =>
        framed_pure _
    · exact framed_pure _
  · exact framed_pure _

theorem readRunningJobsOf_framed (deploymentId : String) (phase : ReleasePhase)
    (containers : List DockerContainerInspection) (running : List String)
    (h : ∀ container ∈ containers, (stopOverdueJob container : AgentMethod σ Bool).Framed S) :
    (readRunningJobsOf deploymentId phase containers running : AgentMethod σ _).Framed S := by
  induction containers generalizing running with
  | nil => exact framed_pure _
  | cons container rest ih =>
    rw [List.forall_mem_cons] at h
    unfold readRunningJobsOf
    split
    · refine framed_bind h.1 fun _ => ?_
      split
      · exact ih _ h.2
      · exact ih _ h.2
    · exact ih _ h.2

theorem readRunningJobs_framed (serviceId deploymentId : String) (phase : ReleasePhase)
    (hnow : S .now) (hlist : ∀ labels, S (.request (.listContainersByLabels labels)))
    (hstop : ∀ id, S (.request (.stopContainer id (some stopGraceSeconds) none)))
    (hinspect : ∀ id, S (.request (.inspectContainer id))) :
    (readRunningJobs serviceId deploymentId phase : AgentMethod σ _).Framed S :=
  framed_bind (framed_request (hlist _)) fun _ => readRunningJobsOf_framed _ _ _ _
    fun container _ => stopOverdueJob_framed container hnow (hstop _) (hinspect _)

theorem removeSettledAttempts_framed (target : ReleaseJobTarget) (phase : ReleasePhase)
    (hlist : ∀ labels, S (.request (.listContainersByLabels labels)))
    (hremove : ∀ id, S (.request (.removeContainer id true none))) :
    (removeSettledAttempts target phase : AgentMethod σ Unit).Framed S :=
  framed_bind (framed_request (hlist _)) fun _ => framed_forEach fun _ _ => by
    split
    · exact framed_request (hremove _)
    · exact framed_pure ()

theorem removeOtherDeploymentsExitedJobs_framed (target : ReleaseJobTarget) (phase : ReleasePhase)
    (hlist : ∀ labels, S (.request (.listContainersByLabels labels)))
    (hremove : ∀ id, S (.request (.removeContainer id true none))) :
    (removeOtherDeploymentsExitedJobs target phase : AgentMethod σ Unit).Framed S :=
  framed_bind (framed_request (hlist _)) fun _ => framed_forEach fun _ _ => by
    split
    · exact framed_pure ()
    · split
      · exact framed_pure ()
      · exact framed_request (hremove _)

theorem awaitExit_framed (containerName : String) (deadlineMs : ℤ) (fuel : ℕ) (hnow : S .now)
    (hsleep : ∀ ms, S (.sleep ms)) (hinspect : S (.request (.inspectContainer containerName)))
    (hstop : S (.request (.stopContainer containerName (some stopGraceSeconds) none))) :
    (awaitExit containerName deadlineMs fuel : AgentMethod σ JobExit).Framed S := by
  induction fuel with
  | zero => exact framed_cut
  | succ fuel ih =>
    refine framed_bind (framed_request hinspect) fun _ => ?_
    dsimp only
    split
    · exact framed_pure _
    · refine framed_bind (framed_now hnow) fun _ => ?_
      split
      · exact framed_bind (framed_request hstop) fun _ => framed_bind (framed_request hinspect) fun _ =>
          framed_pure _
      · exact framed_bind (framed_now hnow) fun _ => framed_bind (framed_sleep (hsleep _)) fun _ => ih

theorem shipLogs_framed (runner : ReleasePhaseRunner) (containerName : String)
    (hlogs : S (.request (.containerLogEntries containerName logTailLines))) :
    (shipLogs runner containerName : AgentMethod σ Unit).Framed S := by
  unfold shipLogs
  split
  · exact framed_bind (framed_settle (framed_request hlogs)) fun _ => framed_pure ()
  · exact framed_pure ()

theorem resolvePolicy_uses {phaseRequest : ReleasePhaseRequest σ}
    (hpolicy : ∀ resolve outcome, phaseRequest.resolveAppliedPolicy = some resolve →
      (resolve outcome).Uses S) (outcome : ReleaseJobOutcome) :
    (resolvePolicy phaseRequest outcome).Uses S := by
  unfold resolvePolicy
  split
  · exact uses_pure _
  · split
    · exact uses_pure _
    · next resolve hr => exact hpolicy resolve outcome hr

theorem reportExit_uses {runner : ReleasePhaseRunner} {phaseRequest : ReleasePhaseRequest σ}
    (containerName : String) (attempt : ℕ) (exit : JobExit)
    (hpolicy : ∀ resolve outcome, phaseRequest.resolveAppliedPolicy = some resolve →
      (resolve outcome).Uses S) (hnow : S .now) (hsleep : ∀ ms, S (.sleep ms))
    (hlogs : S (.request (.containerLogEntries containerName logTailLines)))
    (hreport : ∀ report, S (.request (.report phaseRequest.phase report))) :
    (reportExit runner phaseRequest containerName attempt exit).Uses S := by
  refine uses_bind ?_ fun _ => uses_bind (resolvePolicy_uses hpolicy _)
    fun _ => uses_bind (uses_now hnow) fun _ =>
      uses_bind (reportOutcome_framed (hreport _) hnow hsleep).uses fun _ => uses_pure _
  split
  · exact (shipLogs_framed runner containerName hlogs).uses
  · exact uses_pure _

theorem startAttempt_framed {containerName : String} {start : AgentMethod σ Unit}
    (hstart : start.Framed S) (hnow : S .now)
    (hinspect : S (.request (.inspectContainer containerName))) :
    (startAttempt containerName start).Framed S := by
  refine framed_bind (framed_settle hstart) fun r => ?_
  cases r with
  | ok _ => exact framed_bind (framed_now hnow) fun _ => framed_pure _
  | error e =>
    refine framed_bind (framed_settle (framed_request hinspect)) fun r => ?_
    cases r with
    | error _ => exact framed_throw _
    | ok inspection =>
      dsimp only
      split
      · exact framed_pure _
      · split
        · exact framed_bind (framed_now hnow) fun _ => framed_pure _
        · exact framed_pure _

theorem reportNotStarted_uses {runner : ReleasePhaseRunner} {phaseRequest : ReleasePhaseRequest σ}
    (attempt : ℕ) (error : Failure) (hnow : S .now) (hsleep : ∀ ms, S (.sleep ms))
    (hreport : ∀ report, S (.request (.report phaseRequest.phase report))) :
    (reportNotStarted runner phaseRequest attempt error).Uses S :=
  uses_bind (uses_now hnow) fun _ => uses_bind (reportOutcome_framed (hreport _) hnow hsleep).uses
    fun _ => uses_pure _

section

variable {runner : ReleasePhaseRunner} {target : ReleaseJobTarget}
  {phaseRequest : ReleasePhaseRequest σ}

theorem awaitAndReport_uses (hS : ∀ c, FollowCall phaseRequest.phase c → S c)
    (hpolicy : ∀ resolve outcome, phaseRequest.resolveAppliedPolicy = some resolve →
      (resolve outcome).Uses S) (name : String) (attempt : ℕ) (startedAtMs : ℤ) :
    (awaitAndReport runner phaseRequest name attempt startedAtMs).Uses S :=
  uses_bind (awaitExit_framed name _ _ (hS _ trivial) (fun _ => hS _ trivial) (hS _ trivial)
    (hS _ rfl)).uses fun _ => reportExit_uses name attempt _ hpolicy (hS _ trivial)
      (fun _ => hS _ trivial) (hS _ trivial) fun _ => hS _ rfl

theorem reportStart_uses (hS : ∀ c, FollowCall phaseRequest.phase c → S c)
    (hpolicy : ∀ resolve outcome, phaseRequest.resolveAppliedPolicy = some resolve →
      (resolve outcome).Uses S) (name : String) (attempt : ℕ) (start : AttemptStart) :
    (reportStart runner phaseRequest name attempt start).Uses S := by
  cases start with
  | started atMs => exact awaitAndReport_uses hS hpolicy name attempt atMs
  | notStarted e =>
    exact reportNotStarted_uses attempt e (hS _ trivial) (fun _ => hS _ trivial) fun _ => hS _ rfl

theorem startJob_framed (hS : ∀ c, JobCall target phaseRequest.phase c → S c) (attempt : ℕ) :
    (startJob target phaseRequest (buildReleaseJobContainerName target.serviceId
      target.deploymentId phaseRequest.phase attempt) attempt).Framed S :=
  framed_bind (removeSettledAttempts_framed target _ (fun _ => hS _ trivial) fun _ => hS _ trivial)
    fun _ => framed_bind (framed_bind (framed_request (hS _ ⟨attempt, rfl⟩)) fun _ => framed_pure ())
      fun _ => framed_request (hS _ ⟨attempt, rfl⟩)

theorem runAttempt_uses (hS : ∀ c, JobCall target phaseRequest.phase c → S c)
    (hpolicy : ∀ resolve outcome, phaseRequest.resolveAppliedPolicy = some resolve →
      (resolve outcome).Uses S) (attempt : ℕ) :
    (runAttempt runner target phaseRequest (buildReleaseJobContainerName target.serviceId
      target.deploymentId phaseRequest.phase attempt) attempt).Uses S :=
  uses_bind (startAttempt_framed (startJob_framed hS attempt) (hS _ trivial) (hS _ trivial)).uses
    fun start => reportStart_uses (fun c hc => hS c hc.job) hpolicy _ _ start

theorem resumeAttempt_uses (hS : ∀ c, JobCall target phaseRequest.phase c → S c)
    (hpolicy : ∀ resolve outcome, phaseRequest.resolveAppliedPolicy = some resolve →
      (resolve outcome).Uses S) (attempt : ℕ) :
    (resumeAttempt runner phaseRequest (buildReleaseJobContainerName target.serviceId
      target.deploymentId phaseRequest.phase attempt) attempt).Uses S := by
  have hexit (exit : JobExit) : (reportExit runner phaseRequest (buildReleaseJobContainerName
      target.serviceId target.deploymentId phaseRequest.phase attempt) attempt exit).Uses S :=
    reportExit_uses _ attempt exit hpolicy (hS _ trivial) (fun _ => hS _ trivial) (hS _ trivial)
      fun _ => hS _ rfl
  refine uses_bind (uses_request (hS _ trivial)) fun inspection => ?_
  split
  · exact uses_bind (Framed.uses (startAttempt_framed (framed_request (hS _ ⟨attempt, rfl⟩))
      (hS _ trivial) (hS _ trivial))) fun start => reportStart_uses (fun c hc => hS c hc.job) hpolicy _ _ start
  · split
    · exact awaitAndReport_uses (fun c hc => hS c hc.job) hpolicy _ _ _
    · exact uses_bind (uses_now (hS _ trivial)) fun _ => awaitAndReport_uses (fun c hc => hS c hc.job) hpolicy _ _ _
  · exact hexit _
  · exact hexit _

theorem settleAttempt_uses (hS : ∀ c, FollowCall phaseRequest.phase c → S c) (name : String)
    (attempt : ℕ) {report : AgentMethod σ AttemptReport} (hr : report.Uses S) :
    (settleAttempt target phaseRequest name attempt report).Uses S := by
  have hremove : (request (.removeContainer name true none) : AgentMethod σ Unit).Uses S :=
    uses_request (hS _ trivial)
  refine uses_bind (uses_tryCatch hr fun e => ?_) fun _ =>
    uses_bind (uses_settle hremove) fun _ => uses_pure _
  split
  · exact uses_bind (uses_bind (uses_settle hremove) fun _ => uses_pure ()) fun _ => uses_throw e
  · exact uses_throw e

theorem act_uses (hS : ∀ c, JobCall target phaseRequest.phase c → S c)
    (hpolicy : ∀ resolve outcome, phaseRequest.resolveAppliedPolicy = some resolve →
      (resolve outcome).Uses S) (claim : ReleaseJobClaimResponse) :
    (act runner target phaseRequest claim).Uses S := by
  have hsettled : (removeSettledAttempts target phaseRequest.phase : AgentMethod σ Unit).Uses S :=
    (removeSettledAttempts_framed target _ (fun _ => hS _ trivial) fun _ => hS _ trivial).uses
  cases claim with
  | wait attempt message => exact uses_throw _
  | skip attempt => exact uses_bind hsettled fun _ => uses_pure _
  | halt attempt status message => exact uses_bind hsettled fun _ => uses_pure _
  | run attempt =>
    exact uses_bind (removeOtherDeploymentsExitedJobs_framed target _ (fun _ => hS _ trivial)
      fun _ => hS _ trivial).uses fun _ =>
        settleAttempt_uses (fun c hc => hS c hc.job) _ _ (runAttempt_uses hS hpolicy attempt)
  | resume attempt => exact settleAttempt_uses (fun c hc => hS c hc.job) _ _ (resumeAttempt_uses hS hpolicy attempt)

theorem deferWhileBlockingJobRuns_uses (serviceId deploymentId : String) (hnow : S .now)
    (hsleep : ∀ ms, S (.sleep ms))
    (hlist : ∀ labels, S (.request (.listContainersByLabels labels)))
    (hstop : ∀ id, S (.request (.stopContainer id (some stopGraceSeconds) none)))
    (hinspect : ∀ id, S (.request (.inspectContainer id)))
    (hclaim : ∀ jobs, S (.request (.claim .preActivation jobs))) :
    (deferWhileBlockingJobRuns runner serviceId deploymentId : AgentMethod σ Unit).Uses S := by
  refine uses_bind (readRunningJobs_framed _ _ _ hnow hlist hstop hinspect).uses fun jobs => ?_
  split
  · exact uses_pure ()
  · refine uses_bind (claimPhase_framed (hclaim jobs) hnow hsleep).uses fun claim => ?_
    cases claim with
    | wait attempt message => exact uses_throw _
    | run attempt => exact uses_pure ()
    | resume attempt => exact uses_pure ()
    | skip attempt => exact uses_pure ()
    | halt attempt status message => exact uses_pure ()

theorem run_uses (hS : ∀ c, RunnerCall target phaseRequest.phase c → S c)
    (hpolicy : ∀ resolve outcome, phaseRequest.resolveAppliedPolicy = some resolve →
      (resolve outcome).Uses S) : (run runner target phaseRequest).Uses S := by
  have hjob (c : AgentCall) (hc : JobCall target phaseRequest.phase c) : S c := hS c (.inl hc)
  refine uses_bind (prepareImage_framed target ?_).uses fun _ => uses_bind
    (readRunningJobs_framed _ _ _ (hjob _ trivial) (fun _ => hjob _ trivial) (fun _ => hjob _ rfl)
      fun _ => hjob _ trivial).uses fun jobs =>
    uses_bind (claimPhase_framed (hS _ (.inr (.inl ⟨jobs, rfl⟩))) (hjob _ trivial)
      fun _ => hjob _ trivial).uses fun claim => act_uses hjob hpolicy claim
  rintro r (rfl | rfl)
  · exact hS _ (.inr (.inr (.inl rfl)))
  · exact hS _ (.inr (.inr (.inr rfl)))

end

end NouvaAgent.ReleaseJobs
