import NouvaAgent.AppRolloutCalls
import NouvaAgent.ReleaseJobEvidence

namespace NouvaAgent

open Text Interaction Agent Method ReleaseJobs

namespace ReleaseJobs

variable {σ α : Type} {s s' : σ} {seg h : AgentHistory} {runner : ReleasePhaseRunner}
  {target : ReleaseJobTarget} {phaseRequest : ReleasePhaseRequest σ} {name : String} {attempt : ℕ}
  {failure : ReleaseJobFailure} {reported : AttemptReport}

def JobEnded (name : String) (timeoutSeconds : ℕ) (outcome : ReleaseJobOutcome) (h : AgentHistory) :
    Prop :=
  ∃ inspection stoppedByDeadline,
    ⟨.request (.inspectContainer name), some (.ok inspection)⟩ ∈ h ∧
      exitOutcome ⟨observeContainer inspection, stoppedByDeadline⟩ timeoutSeconds = outcome

/-- The phase's own callback chose to roll back, and the control plane acknowledged a report of
`attempt` that says so. -/
structure RollbackReported (phaseRequest : ReleasePhaseRequest σ) (s : σ) (attempt : ℕ)
    (failure : ReleaseJobFailure) (h : AgentHistory) : Prop where
  chosen : ∃ resolve part s', phaseRequest.resolveAppliedPolicy = some resolve ∧ part <:+: h ∧
    (resolve (.unsuccessful failure)).Returns s part (some .rollback) s'
  acknowledged : ∃ report : ReleaseJobReport, report.attempt = attempt ∧
    report.outcome = .unsuccessful failure ∧ report.appliedPolicy = some .rollback ∧
      ⟨.request (.report phaseRequest.phase report), some (.ok ())⟩ ∈ h

def RolledBack (phaseRequest : ReleasePhaseRequest σ) (s : σ) (name : String) (attempt : ℕ)
    (outcome : ReleaseJobOutcome) (h : AgentHistory) : Prop :=
  ∃ failure, outcome = .unsuccessful failure ∧ JobEnded name phaseRequest.timeoutSeconds outcome h ∧
    RollbackReported phaseRequest s attempt failure h

theorem JobEnded.mono {timeoutSeconds : ℕ} {outcome : ReleaseJobOutcome}
    (he : JobEnded name timeoutSeconds outcome seg) (hseg : seg <:+: h) :
    JobEnded name timeoutSeconds outcome h := by
  obtain ⟨inspection, stopped, hm, ho⟩ := he
  exact ⟨inspection, stopped, hseg.subset hm, ho⟩

theorem RollbackReported.mono (hr : RollbackReported phaseRequest s attempt failure seg)
    (hseg : seg <:+: h) : RollbackReported phaseRequest s attempt failure h := by
  obtain ⟨⟨resolve, part, s', hresolve, hpart, hreturns⟩, report, ha, ho, hp, hm⟩ := hr
  exact ⟨⟨resolve, part, s', hresolve, hpart.trans hseg, hreturns⟩, report, ha, ho, hp,
    hseg.subset hm⟩

theorem RolledBack.mono {outcome : ReleaseJobOutcome}
    (hr : RolledBack phaseRequest s name attempt outcome seg) (hseg : seg <:+: h) :
    RolledBack phaseRequest s name attempt outcome h := by
  obtain ⟨failure, houtcome, hended, hreported⟩ := hr
  exact ⟨failure, houtcome, hended.mono hseg, hreported.mono hseg⟩

theorem callControlPlane_returns {call : AgentMethod σ α}
    {giveUp : Failure → Bool → Failure} {a : α}
    (h : (callControlPlane runner call giveUp).Returns s seg a s') :
    ∃ t part t', part <:+: seg ∧ call.Returns t part a t' := by
  have loop (giveUpAtMs : ℤ) (fuel : ℕ) : ∀ (retried : Bool) (delayMs : ℤ) (s s' : σ)
      (seg : AgentHistory), (repeatControlPlaneCall call giveUp giveUpAtMs fuel retried
        delayMs).Returns s seg a s' → ∃ t part t', part <:+: seg ∧ call.Returns t part a t' := by
    induction fuel with
    | zero =>
      intro retried delayMs s s' seg h
      cases h
    | succ fuel ih =>
      intro retried delayMs s s' seg h
      obtain ⟨before, later, r, t, rfl, hcall, h⟩ := h.of_bind
      cases r with
      | ok b =>
        obtain ⟨rfl, rfl, rfl⟩ := h.of_pure
        exact ⟨s, before, s', List.infix_refl _, hcall.of_settle⟩
      | error e =>
        dsimp only at h
        split at h
        · obtain ⟨_, _, time, _, rfl, _, h⟩ := h.of_bind
          split at h
          · exact absurd h Returns.not_throw
          · obtain ⟨_, _, _, _, rfl, _, h⟩ := h.of_bind
            obtain ⟨t, part, t', hpart, hreturns⟩ := ih _ _ _ _ _ h
            refine ⟨t, part, t', hpart.trans ?_, hreturns⟩
            exact (((List.infix_append_left).trans List.infix_append_left).trans
              List.infix_append_left)
        · exact absurd h Returns.not_throw
  obtain ⟨before, later, time, t, rfl, _, h⟩ := h.of_bind
  obtain ⟨t, part, t', hpart, hreturns⟩ := loop _ _ _ _ _ _ _ h
  exact ⟨t, part, t', hpart.trans List.infix_append_left, hreturns⟩

theorem reportOutcome_returns {phase : ReleasePhase} {report : ReleaseJobReport}
    (h : (reportOutcome runner phase report : AgentMethod σ Unit).Returns s seg () s') :
    ⟨.request (.report phase report), some (.ok ())⟩ ∈ seg := by
  obtain ⟨t, part, t', hpart, hreturns⟩ := callControlPlane_returns h
  obtain ⟨rfl, _⟩ := returns_request hreturns
  exact hpart.subset List.mem_cons_self

theorem claimPhase_returns {phase : ReleasePhase} {jobs : List String}
    {response : ReleaseJobClaimResponse}
    (h : (claimPhase runner phase jobs : AgentMethod σ _).Returns s seg response s') :
    ⟨.request (.claim phase jobs), some (.ok response)⟩ ∈ seg := by
  obtain ⟨t, part, t', hpart, hreturns⟩ := callControlPlane_returns h
  obtain ⟨rfl, _⟩ := returns_request hreturns
  exact hpart.subset List.mem_cons_self

theorem awaitExit_returns {deadlineMs : ℤ} {fuel : ℕ} {exit : JobExit}
    (h : (awaitExit name deadlineMs fuel : AgentMethod σ JobExit).Returns s seg exit s') :
    ∃ inspection, ⟨.request (.inspectContainer name), some (.ok inspection)⟩ ∈ seg ∧
      exit.observation = observeContainer inspection := by
  induction fuel generalizing s seg with
  | zero => cases h
  | succ fuel ih =>
    obtain ⟨_, _, inspection, _, rfl, hlook, hrest⟩ := h.of_bind
    obtain ⟨rfl, rfl⟩ := returns_request hlook
    dsimp only at hrest
    split at hrest
    · obtain ⟨rfl, rfl, _⟩ := hrest.of_pure
      exact ⟨inspection, List.mem_cons_self, rfl⟩
    · obtain ⟨_, _, time, _, rfl, _, hrest⟩ := hrest.of_bind
      split at hrest
      · obtain ⟨_, _, _, _, rfl, _, hrest⟩ := hrest.of_bind
        obtain ⟨_, _, again, _, rfl, hlook, hend⟩ := hrest.of_bind
        obtain ⟨rfl, rfl⟩ := returns_request hlook
        obtain ⟨rfl, rfl, _⟩ := hend.of_pure
        exact ⟨again, by simp, rfl⟩
      · obtain ⟨_, _, _, _, rfl, _, hrest⟩ := hrest.of_bind
        obtain ⟨_, _, _, _, rfl, _, hrest⟩ := hrest.of_bind
        obtain ⟨inspection, hm, ho⟩ := ih hrest
        exact ⟨inspection, by simp [hm], ho⟩

theorem resolvePolicy_returns {outcome : ReleaseJobOutcome}
    (h : (resolvePolicy phaseRequest outcome).Returns s seg (some .rollback) s') :
    ∃ failure resolve, outcome = .unsuccessful failure ∧
      phaseRequest.resolveAppliedPolicy = some resolve ∧
        (resolve outcome).Returns s seg (some .rollback) s' := by
  unfold resolvePolicy at h
  cases outcome with
  | succeeded => exact absurd (h.of_pure).2.1 (by simp)
  | unsuccessful failure =>
    rw [if_neg (by simp)] at h
    split at h
    · exact absurd (h.of_pure).2.1 (by simp)
    · next resolve hresolve => exact ⟨failure, resolve, rfl, hresolve, h⟩

theorem reportExit_returns {exit : JobExit}
    (h : (reportExit runner phaseRequest name attempt exit).Returns s seg reported s')
    (hpolicy : reported.appliedPolicy = some .rollback) :
    ∃ failure, reported.outcome = .unsuccessful failure ∧
      exitOutcome exit phaseRequest.timeoutSeconds = .unsuccessful failure ∧
        RollbackReported phaseRequest s attempt failure seg := by
  have hframed : (if (exitCodeOf exit.observation).isSome then shipLogs runner name
      else Method.pure () : AgentMethod σ Unit).Framed fun _ => True := by
    split
    · exact shipLogs_framed runner name trivial
    · exact framed_pure ()
  obtain ⟨_, _, _, rfl, _, hrest⟩ := h.of_bind_framed hframed
  obtain ⟨chose, _, policy, _, rfl, hchose, hrest⟩ := hrest.of_bind
  obtain ⟨_, _, time, _, rfl, _, hrest⟩ := hrest.of_bind
  obtain ⟨_, _, _, _, rfl, hreport, hrest⟩ := hrest.of_bind
  obtain ⟨rfl, rfl, _⟩ := hrest.of_pure
  obtain rfl : policy = some .rollback := hpolicy
  obtain ⟨failure, resolve, houtcome, hresolve, hreturns⟩ := resolvePolicy_returns hchose
  have hm := reportOutcome_returns hreport
  refine ⟨failure, houtcome, houtcome, ⟨resolve, chose, _, hresolve, ?_, houtcome ▸ hreturns⟩,
    ⟨_, ?_, ?_, ?_, List.mem_append_left _ (List.mem_append_left _ (List.mem_append_left _
      (List.mem_append_right _ hm)))⟩⟩
  · exact List.infix_append_of_infix_left List.infix_append_right
  · rfl
  · exact houtcome
  · rfl

theorem reportExit_rolledBack {exit : JobExit} {inspection : Option DockerContainerInspection}
    (h : (reportExit runner phaseRequest name attempt exit).Returns s seg reported s')
    (hpolicy : reported.appliedPolicy = some .rollback)
    (hseen : exit.observation = observeContainer inspection) {before : AgentHistory}
    (hm : ⟨.request (.inspectContainer name), some (.ok inspection)⟩ ∈ before) :
    RolledBack phaseRequest s name attempt reported.outcome (seg ++ before) := by
  obtain ⟨failure, houtcome, hexit, hreported⟩ := reportExit_returns h hpolicy
  refine ⟨failure, houtcome, ⟨inspection, exit.stoppedByDeadline, List.mem_append_right _ hm, ?_⟩,
    hreported.mono List.infix_append_left⟩
  rw [← hseen, houtcome]
  exact hexit

theorem awaitAndReport_rolledBack {startedAtMs : ℤ}
    (h : (awaitAndReport runner phaseRequest name attempt startedAtMs).Returns s seg reported s')
    (hpolicy : reported.appliedPolicy = some .rollback) :
    RolledBack phaseRequest s name attempt reported.outcome seg := by
  obtain ⟨_, _, exit, rfl, hexit, hreport⟩ := h.of_bind_framed (S := fun _ => True)
    (awaitExit_framed name _ _ trivial (fun _ => trivial) trivial trivial)
  obtain ⟨inspection, hm, hseen⟩ := awaitExit_returns hexit
  exact reportExit_rolledBack hreport hpolicy hseen hm

theorem reportStart_rolledBack {start : AttemptStart}
    (h : (reportStart runner phaseRequest name attempt start).Returns s seg reported s')
    (hpolicy : reported.appliedPolicy = some .rollback) :
    RolledBack phaseRequest s name attempt reported.outcome seg := by
  cases start with
  | started atMs => exact awaitAndReport_rolledBack h hpolicy
  | notStarted error =>
    obtain ⟨_, _, time, _, rfl, _, hrest⟩ := h.of_bind
    obtain ⟨_, _, _, _, rfl, _, hend⟩ := hrest.of_bind
    obtain ⟨_, rfl, _⟩ := hend.of_pure
    cases hphase : phaseRequest.phase <;> simp [hphase] at hpolicy

theorem runAttempt_rolledBack
    (h : (runAttempt runner target phaseRequest name attempt).Returns s seg reported s')
    (hpolicy : reported.appliedPolicy = some .rollback) :
    RolledBack phaseRequest s name attempt reported.outcome seg := by
  have hjob : (startJob target phaseRequest name attempt).Framed fun _ => True :=
    framed_bind (removeSettledAttempts_framed target _ (fun _ => trivial) fun _ => trivial)
      fun _ => framed_bind (framed_bind (framed_request trivial) fun _ => framed_pure ())
        fun _ => framed_request trivial
  obtain ⟨_, _, start, rfl, _, hreport⟩ := h.of_bind_framed
    (startAttempt_framed hjob trivial trivial)
  exact (reportStart_rolledBack hreport hpolicy).mono List.infix_append_left

theorem resumeAttempt_rolledBack
    (h : (resumeAttempt runner phaseRequest name attempt).Returns s seg reported s')
    (hpolicy : reported.appliedPolicy = some .rollback) :
    RolledBack phaseRequest s name attempt reported.outcome seg := by
  obtain ⟨_, _, inspection, _, rfl, hlook, hrest⟩ := h.of_bind
  obtain ⟨rfl, rfl⟩ := returns_request hlook
  split at hrest
  · obtain ⟨_, _, start, rfl, _, hreport⟩ := hrest.of_bind_framed (S := fun _ => True)
      (startAttempt_framed (framed_request trivial) trivial trivial)
    exact (reportStart_rolledBack hreport hpolicy).mono
      (List.infix_append_of_infix_left List.infix_append_left)
  · split at hrest
    · exact (awaitAndReport_rolledBack hrest hpolicy).mono List.infix_append_left
    · obtain ⟨_, _, time, rfl, _, hreport⟩ := hrest.of_bind_framed (S := fun _ => True)
        (framed_now trivial)
      exact (awaitAndReport_rolledBack hreport hpolicy).mono
        (List.infix_append_of_infix_left List.infix_append_left)
  · exact reportExit_rolledBack hrest hpolicy rfl List.mem_cons_self
  · next hmissing =>
    refine reportExit_rolledBack hrest hpolicy ?_ List.mem_cons_self
    cases hobserved : observeContainer inspection with
    | missing => rfl
    | _ => simp [decideReleaseJobRecovery, hobserved] at hmissing

theorem settleAttempt_returns {report : AgentMethod σ AttemptReport} {result : ReleasePhaseResult}
    (h : (settleAttempt target phaseRequest name attempt report).Returns s seg result s') :
    ∃ part reported t, part <:+: seg ∧ report.Returns s part reported t ∧
      result = describeResult target phaseRequest attempt reported := by
  obtain ⟨before, _, reported, t, rfl, hreport, hrest⟩ := h.of_bind
  obtain ⟨_, _, _, _, rfl, _, hend⟩ := hrest.of_bind
  obtain ⟨_, rfl, _⟩ := hend.of_pure
  obtain hreport | ⟨_, _, error, _, rfl, _, hhandler⟩ := hreport.of_tryCatch
  · exact ⟨before, reported, t, List.infix_append_right, hreport, rfl⟩
  · split at hhandler
    · obtain ⟨_, _, _, _, rfl, _, hthrow⟩ := hhandler.of_bind
      exact absurd hthrow Returns.not_throw
    · exact absurd hhandler Returns.not_throw

theorem settleAttempt_rolledBack {report : AgentMethod σ AttemptReport} {n : ℕ} {message : String}
    (hreport : ∀ part reported t, report.Returns s part reported t →
      reported.appliedPolicy = some .rollback →
        RolledBack phaseRequest s name attempt reported.outcome part)
    (h : (settleAttempt target phaseRequest name attempt report).Returns s seg
      (.unsuccessful n failure message (some .rollback)) s') :
    n = attempt ∧ RolledBack phaseRequest s name attempt (.unsuccessful failure) seg := by
  obtain ⟨part, reported, t, hpart, hreturns, hresult⟩ := settleAttempt_returns h
  unfold describeResult at hresult
  cases houtcome : reported.outcome with
  | succeeded => simp [houtcome] at hresult
  | unsuccessful f =>
    simp only [houtcome, ReleasePhaseResult.unsuccessful.injEq] at hresult
    obtain ⟨rfl, rfl, _, hpolicy⟩ := hresult
    exact ⟨rfl, houtcome ▸ (hreport part reported t hreturns hpolicy.symm).mono hpart⟩

theorem run_rolledBack {message : String} (h : (run runner target phaseRequest).Returns s seg
      (.unsuccessful attempt failure message (some .rollback)) s') :
    Claimed phaseRequest.phase attempt seg ∧ RolledBack phaseRequest s
      (buildReleaseJobContainerName target.serviceId target.deploymentId phaseRequest.phase attempt)
      attempt (.unsuccessful failure) seg := by
  obtain ⟨prepared, _, _, rfl, _, hrest⟩ := h.of_bind_framed (S := fun _ => True)
    (prepareImage_framed target fun _ _ => trivial)
  obtain ⟨listed, _, jobs, rfl, _, hrest⟩ := hrest.of_bind_framed (S := fun _ => True)
    (readRunningJobs_framed _ _ _ trivial (fun _ => trivial) (fun _ => trivial) fun _ => trivial)
  obtain ⟨claimed, acted, response, rfl, hclaim, hact⟩ := hrest.of_bind_framed (S := fun _ => True)
    (claimPhase_framed trivial trivial fun _ => trivial)
  have hm := claimPhase_returns hclaim
  have hacted : acted <:+: acted ++ claimed ++ listed ++ prepared :=
    (List.infix_append_left.trans List.infix_append_left).trans List.infix_append_left
  cases response with
  | wait n text => exact absurd hact Returns.not_throw
  | skip n =>
    obtain ⟨_, _, _, _, rfl, _, hend⟩ := hact.of_bind
    exact absurd hend.of_pure.2.1 (by simp)
  | halt n status text =>
    obtain ⟨_, _, _, _, rfl, _, hend⟩ := hact.of_bind
    exact absurd hend.of_pure.2.1 (by simp)
  | run n =>
    obtain ⟨_, settled, _, rfl, _, hsettle⟩ := hact.of_bind_framed (S := fun _ => True)
      (removeOtherDeploymentsExitedJobs_framed target _ (fun _ => trivial) fun _ => trivial)
    obtain ⟨rfl, hr⟩ := settleAttempt_rolledBack
      (fun _ _ _ hreturns hpolicy => runAttempt_rolledBack hreturns hpolicy) hsettle
    exact ⟨⟨jobs, .inl (by simp [hm])⟩, hr.mono (List.infix_append_left.trans hacted)⟩
  | resume n =>
    obtain ⟨rfl, hr⟩ := settleAttempt_rolledBack
      (fun _ _ _ hreturns hpolicy => resumeAttempt_rolledBack hreturns hpolicy) hact
    exact ⟨⟨jobs, .inr (by simp [hm])⟩, hr.mono hacted⟩

end ReleaseJobs

end NouvaAgent
