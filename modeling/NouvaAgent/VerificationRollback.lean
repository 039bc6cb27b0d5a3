import NouvaAgent.AppRolloutPreserved
import NouvaAgent.VerificationEvidence

namespace NouvaAgent.AppRollout

open Text Interaction Agent Method AppDeployment CandidateReadiness ReleaseJobs

variable {d : AppDeployment} {r : AppRollout} {F : AgentEvent → AgentHistory → Prop}
  {e : AgentEvent} {h seg : AgentHistory}

def SetsRoute : AgentCall → Prop
  | .request (.writeLocalTraefikRoute _ _ _ _) | .request (.deleteLocalTraefikRoute _) => True
  | _ => False

def Verifying (h : AgentHistory) : Prop :=
  ∃ jobs answer, (⟨.request (.claim .verification jobs), answer⟩ : AgentEvent) ∈ h

def Moved (h : AgentHistory) : Prop :=
  ∃ later e before, h = later ++ e :: before ∧ SetsRoute e.call ∧ Verifying before

def Found (d : AppDeployment) (r : AppRollout) (h : AgentHistory) : Prop :=
  ∃ later found network, h = later ++ (found ++ network) ∧
    Ran d.prepareNetwork network (.ok ()) ∧ Ran d.findRollout found (.ok r)

def Returned {α : Type} (p : AgentAction α) (a : α) (h : AgentHistory) : Prop :=
  ∃ seg, seg <:+: h ∧ Ran p seg (.ok a)

def JobExited (name : String) (timeoutSeconds : ℕ) (outcome : ReleaseJobOutcome)
    (h : AgentHistory) : Prop :=
  ∃ inspection exitCode startedAt finishedAt stoppedByDeadline,
    ⟨.request (.inspectContainer name), some (.ok inspection)⟩ ∈ h ∧
      observeContainer inspection = .exited exitCode startedAt finishedAt ∧
        classifyReleaseJobExit exitCode startedAt finishedAt timeoutSeconds stoppedByDeadline =
          outcome

/-- An attempt of the verification ran and ended as failed or timed out, and the control plane
acknowledged a report of it whose applied policy is to roll back. -/
def FailureReported (r : AppRollout) (h : AgentHistory) : Prop :=
  ∃ runner jobs verification attempt, ∃ report : ReleaseJobReport,
    r.release = some (runner, jobs) ∧ jobs.verification = some verification ∧
    Claimed .verification attempt h ∧ report.attempt = attempt ∧
    (report.outcome = .failed ∨ report.outcome = .timedOut) ∧
    JobExited (buildReleaseJobContainerName r.payload.serviceId r.payload.deploymentId .verification
      attempt) verification.timeoutSeconds report.outcome h ∧
    report.appliedPolicy = some .rollback ∧
    ⟨.request (.report .verification report), some (.ok ())⟩ ∈ h

/-- What lets the verification of `r` return traffic to the container `previous`. -/
structure MayReturn (r : AppRollout) (previous : String) (h : AgentHistory) : Prop where
  unshared : r.payload.volume = none
  fresh : r.adoptedCandidate = none
  target : r.previous = some previous
  serves : Returned (r.previousAppRuntimeCanServe previous r.previousPort none) true h
  reported : FailureReported r h

def Serving (d : AppDeployment) (serviceUrl : String) (seg : AgentHistory) : Prop :=
  ∃ services since, seg = ⟨.request .fetchTraefikServices, some (.ok (.ok services))⟩ :: (since ++
      [⟨.request (.writeLocalTraefikRoute d.payload.serviceId d.hostnames serviceUrl none),
        some (.ok ())⟩]) ∧
    (∀ e ∈ since, ¬ SetsRoute e.call) ∧
    servedUrl ("svc-" ++ d.payload.serviceId ++ "@file") services = some serviceUrl

def Confirmed (d : AppDeployment) (serviceUrl : String) (h : AgentHistory) : Prop :=
  ∃ later seg before, h = later ++ (seg ++ before) ∧ Serving d serviceUrl seg ∧ Verifying before

def Warranted (d : AppDeployment) (h : AgentHistory) : Prop :=
  ∃ r previous, Found d r h ∧ MayReturn r previous h

def TrafficReturned (d : AppDeployment) (h : AgentHistory) : Prop :=
  ∃ r serviceUrl, Found d r h ∧ r.previousServiceUrl = some serviceUrl ∧ Confirmed d serviceUrl h

/-- The route is set because of the verification only where that is warranted, and then the
candidate is removed only once the traffic is back. -/
def RollsBackSoundly (d : AppDeployment) (e : AgentEvent) (before : AgentHistory) : Prop :=
  (SetsRoute e.call → Verifying before → Warranted d before) ∧
    (Removes d.containerName e.call → Moved before → TrafficReturned d before)

/-- The metadata name the candidate's own container as the one that served before, and no container
of that name was found. -/
def Misrecorded (d : AppDeployment) (h : AgentHistory) : Prop :=
  d.recordedContainer = some d.containerName ∧ ∃ containers,
    ⟨.request (.listContainersByLabels []), some (.ok containers)⟩ ∈ h ∧
      ∀ container ∈ containers, withoutSlash container.name ≠ d.containerName

theorem Found.cons (hf : Found d r h) : Found d r (e :: h) := by
  obtain ⟨later, found, network, rfl, hnetwork, hran⟩ := hf
  exact ⟨e :: later, found, network, rfl, hnetwork, hran⟩

theorem Returned.mono {α : Type} {p : AgentAction α} {a : α} (hr : Returned p a seg)
    (hseg : seg <:+: h) : Returned p a h := by
  obtain ⟨part, hpart, hran⟩ := hr
  exact ⟨part, hpart.trans hseg, hran⟩

theorem FailureReported.mono (hr : FailureReported r seg) (hseg : seg <:+: h) :
    FailureReported r h := by
  obtain ⟨runner, jobs, verification, attempt, report, hrelease, hverification, hclaimed, hattempt,
    houtcome, hexited, hpolicy, hm⟩ := hr
  refine ⟨runner, jobs, verification, attempt, report, hrelease, hverification, ?_, hattempt,
    houtcome, ?_, hpolicy, hseg.subset hm⟩
  · exact hclaimed.imp fun _ hclaim => hclaim.imp (fun hm => hseg.subset hm) fun hm => hseg.subset hm
  · obtain ⟨inspection, exitCode, startedAt, finishedAt, stopped, hm, hseen, hclassified⟩ := hexited
    exact ⟨inspection, exitCode, startedAt, finishedAt, stopped, hseg.subset hm, hseen, hclassified⟩

theorem FailureReported.verifying (hr : FailureReported r h) : Verifying h := by
  obtain ⟨_, _, _, _, _, _, _, ⟨jobs, hm | hm⟩, _⟩ := hr <;> exact ⟨jobs, _, hm⟩

theorem MayReturn.mono {previous : String} (hm : MayReturn r previous seg) (hseg : seg <:+: h) :
    MayReturn r previous h :=
  { hm with serves := hm.serves.mono hseg, reported := hm.reported.mono hseg }

theorem Warranted.cons (hw : Warranted d h) : Warranted d (e :: h) := by
  obtain ⟨r, previous, hfound, hmay⟩ := hw
  exact ⟨r, previous, hfound.cons, hmay.mono (List.suffix_cons e h).isInfix⟩

theorem TrafficReturned.cons (ht : TrafficReturned d h) : TrafficReturned d (e :: h) := by
  obtain ⟨r, serviceUrl, hfound, hurl, later, seg, before, rfl, hserving, hverifying⟩ := ht
  exact ⟨r, serviceUrl, hfound.cons, hurl, e :: later, seg, before, rfl, hserving, hverifying⟩

theorem moved_cons : Moved (e :: h) ↔ (SetsRoute e.call ∧ Verifying h) ∨ Moved h := by
  constructor
  · rintro ⟨later, e', before, heq, hset, hverifying⟩
    cases later with
    | nil =>
      obtain ⟨rfl, rfl⟩ := List.cons.inj heq
      exact .inl ⟨hset, hverifying⟩
    | cons _ later => exact .inr ⟨later, e', before, (List.cons.inj heq).2, hset, hverifying⟩
  · rintro (⟨hset, hverifying⟩ | ⟨later, e', before, rfl, hset, hverifying⟩)
    · exact ⟨[], e, h, rfl, hset, hverifying⟩
    · exact ⟨e :: later, e', before, rfl, hset, hverifying⟩

theorem verifying_nil : ¬ Verifying [] := fun ⟨_, _, hm⟩ => List.not_mem_nil hm

theorem not_moved (hv : ¬ Verifying h) : ¬ Moved h := by
  rintro ⟨later, e, before, rfl, _, jobs, answer, hm⟩
  exact hv ⟨jobs, answer, List.mem_append_right _ (List.mem_cons_of_mem _ hm)⟩

theorem sound_unmoved (hm : ¬ Moved h) : Along (RollsBackSoundly d) h := by
  induction h with
  | nil => trivial
  | cons e h ih =>
    rw [moved_cons, not_or] at hm
    exact ⟨⟨fun hset hverifying => absurd ⟨hset, hverifying⟩ hm.1, fun _ hmoved =>
      absurd hmoved hm.2⟩, ih hm.2⟩

def Unverifying : AgentCall → Prop
  | .request (.claim .verification _) => False
  | _ => True

theorem not_verifying_cons (hc : Unverifying e.call) (hv : ¬ Verifying h) : ¬ Verifying (e :: h) := by
  rintro ⟨jobs, answer, hm⟩
  obtain rfl | hm := List.mem_cons.mp hm
  · exact hc
  · exact hv ⟨jobs, answer, hm⟩

theorem not_moved_cons (hc : ¬ SetsRoute e.call) (hm : ¬ Moved h) : ¬ Moved (e :: h) := fun hmoved =>
  (moved_cons.mp hmoved).elim (fun hset => hc hset.1) hm

def Warrantedly (d : AppDeployment) (h : AgentHistory) : Prop :=
  Along (RollsBackSoundly d) h ∧ Warranted d h

theorem warrantedly_cons (hc : ¬ Removes d.containerName e.call) (hw : Warrantedly d h) :
    Warrantedly d (e :: h) :=
  ⟨⟨⟨fun _ _ => hw.2, fun hremoves => absurd hremoves hc⟩, hw.1⟩, hw.2.cons⟩

theorem returned_cons (hw : Warrantedly d h ∧ TrafficReturned d h) :
    Warrantedly d (e :: h) ∧ TrafficReturned d (e :: h) :=
  ⟨⟨⟨⟨fun _ _ => hw.1.2, fun _ _ => hw.2⟩, hw.1.1⟩, hw.1.2.cons⟩, hw.2.cons⟩

theorem resolveAppliedPolicy_returns {verification : VerificationJobConfig}
    {outcome : ReleaseJobOutcome} {known : Option Bool}
    (h : (r.resolveAppliedPolicy verification outcome).Returns none seg (some .rollback) known) :
    (outcome = .failed ∨ outcome = .timedOut) ∧ ∃ previous, r.rollbackTarget = some previous ∧
      Returned (r.canServe previous none) true seg := by
  obtain ⟨_, _, consequence, _, rfl, hdecide, hpolicy⟩ := h.of_bind
  obtain ⟨rfl, hrollback, _⟩ := hpolicy.of_pure
  have hconsequence : consequence = .rollback := by
    by_contra hne
    simp [hne] at hrollback
  obtain ⟨_, _, available, _, rfl, hprobe, hdecided⟩ := hdecide.of_bind
  obtain ⟨rfl, hdecision, _⟩ := hdecided.of_pure
  obtain ⟨houtcome, _, rfl⟩ :=
    decideVerificationConsequence_rollback.mp (hdecision.symm.trans hconsequence)
  refine ⟨houtcome, ?_⟩
  split at hprobe
  · next previous htarget =>
    unfold wouldRollBack at htarget
    split at htarget
    · refine ⟨previous, htarget, ?_⟩
      obtain ⟨_, _, known, _, rfl, hknown, hrest⟩ := hprobe.of_bind
      obtain ⟨rfl, rfl, rfl⟩ := hknown.of_locals
      obtain ⟨probe, _, serves, _, rfl, hserves, hrest⟩ := hrest.of_bind
      obtain ⟨_, _, _, _, rfl, hassign, hend⟩ := hrest.of_bind
      obtain ⟨rfl, _⟩ := hassign.of_assign
      obtain ⟨rfl, rfl, _⟩ := hend.of_pure
      obtain ⟨_, hran⟩ := hserves.of_lift
      exact ⟨probe, by simp, hran⟩
    · cases htarget
  · exact absurd hprobe.of_pure.2.1 (by simp)

theorem jobExited {name : String} {timeoutSeconds : ℕ} {outcome : ReleaseJobOutcome}
    (he : JobEnded name timeoutSeconds outcome h) (ho : outcome ≠ .outcomeUnknown) :
    JobExited name timeoutSeconds outcome h := by
  obtain ⟨inspection, stopped, hm, rfl⟩ := he
  cases hseen : observeContainer inspection with
  | exited exitCode startedAt finishedAt =>
    exact ⟨inspection, exitCode, startedAt, finishedAt, stopped, hm, hseen, by
      simp [exitOutcome]⟩
  | _ => simp [exitOutcome, hseen] at ho

theorem runVerification_returns {runner : ReleasePhaseRunner} {jobs : DeploymentReleasePlan}
    {verification : VerificationJobConfig} {attempt : ℕ} {failure : ReleaseJobFailure}
    {message : String} {known : Option Bool} (hrelease : r.release = some (runner, jobs))
    (hverification : jobs.verification = some verification)
    (h : (runVerificationKeepingOnError runner r.releaseTarget
      (r.verificationRequest verification)).Returns none seg
        (some (.unsuccessful attempt failure message (some .rollback))) known) :
    ∃ previous, MayReturn r previous seg := by
  obtain ⟨_, _, result, _, rfl, hsettled, hend⟩ := h.of_bind
  cases result with
  | error _ => exact absurd hend.of_pure.2.1 (by simp)
  | ok result =>
    obtain ⟨rfl, hresult, _⟩ := hend.of_pure
    obtain rfl := Option.some.inj hresult
    obtain ⟨hclaimed, _, ⟨⟩, hended, ⟨resolve, part, _, hresolve, hpart, hreturns⟩, report, hattempt,
      houtcome, hpolicy, hm⟩ := run_rolledBack hsettled.of_settle
    obtain rfl := Option.some.inj hresolve
    obtain ⟨hfailed, previous, htarget, hserves⟩ := resolveAppliedPolicy_returns hreturns
    unfold rollbackTarget at htarget
    split at htarget
    · next hfresh =>
      refine ⟨previous, hfresh.2, hfresh.1, htarget, hserves.mono hpart, runner, jobs, verification,
        attempt, report, hrelease, hverification, hclaimed, hattempt, houtcome ▸ hfailed, ?_, hpolicy,
        hm⟩
      rw [houtcome]
      exact jobExited hended (by rcases hfailed with h | h <;> simp [h])
    · cases htarget

theorem pollCutover_returns {serviceUrl lastError : String} {deadline : ℤ} {fuel : ℕ}
    (h : (d.pollCutover serviceUrl deadline fuel lastError).Returns () seg () ()) :
    ∃ services since, seg = ⟨.request .fetchTraefikServices, some (.ok (.ok services))⟩ :: since ∧
      (∀ e ∈ since, ¬ SetsRoute e.call) ∧
        servedUrl ("svc-" ++ d.payload.serviceId ++ "@file") services = some serviceUrl := by
  induction fuel generalizing lastError seg with
  | zero => cases h
  | succ fuel ih =>
    -- A look that does not end the wait leaves the rest of it to the induction.
    have again {before later : AgentHistory} {ms : ℤ} {message : String}
        (hbefore : ∀ e ∈ before, ¬ SetsRoute e.call)
        (hrest : (Method.bind (sleep ms) fun _ =>
          d.pollCutover serviceUrl deadline fuel message).Returns () later () ()) :
        ∃ services since, later ++ before =
          ⟨.request .fetchTraefikServices, some (.ok (.ok services))⟩ :: since ∧
            (∀ e ∈ since, ¬ SetsRoute e.call) ∧
              servedUrl ("svc-" ++ d.payload.serviceId ++ "@file") services = some serviceUrl := by
      obtain ⟨_, _, _, _, rfl, hsleep, hpoll⟩ := hrest.of_bind
      obtain ⟨rfl, _⟩ := hsleep.of_ask
      obtain ⟨services, since, rfl, hsince, hserved⟩ := ih hpoll
      refine ⟨services, since ++ (⟨.sleep ms, some ()⟩ :: before), by simp, fun e he => ?_, hserved⟩
      rw [List.mem_append, List.mem_cons] at he
      obtain he | rfl | he := he
      · exact hsince e he
      · exact id
      · exact hbefore e he
    obtain ⟨_, _, time, _, rfl, hnow, hrest⟩ := h.of_bind
    obtain ⟨rfl, _⟩ := hnow.of_ask
    split at hrest
    · obtain ⟨_, _, response, _, rfl, hfetch, hlooked⟩ := hrest.of_bind
      obtain ⟨rfl, _⟩ := returns_request hfetch
      have hlook : ∀ e ∈ [⟨.request .fetchTraefikServices, some (.ok response)⟩, ⟨.now, some time⟩],
          ¬ SetsRoute (e : AgentEvent).call := by
        simp [SetsRoute]
      cases response with
      | failed status =>
        rw [List.append_assoc]
        exact again hlook hlooked
      | ok services =>
        dsimp only at hlooked
        split at hlooked
        · next hserved =>
          obtain ⟨rfl, _⟩ := hlooked.of_pure
          exact ⟨services, [⟨.now, some time⟩], rfl, by simp [SetsRoute], hserved⟩
        · rw [List.append_assoc]
          exact again hlook hlooked
    · exact absurd hrest Returns.not_throw

theorem moveAppTraffic_returns {serviceUrl : String}
    (h : (d.moveAppTraffic serviceUrl).Returns () seg true ()) : Serving d serviceUrl seg := by
  obtain ⟨_, _, result, _, rfl, hsettled, hend⟩ := h.of_bind
  cases result with
  | error _ => exact absurd hend.of_pure.2.1 (by simp)
  | ok _ =>
    obtain ⟨rfl, _⟩ := hend.of_pure
    obtain ⟨_, _, _, _, rfl, hwrite, hrest⟩ := hsettled.of_settle.of_bind
    obtain ⟨rfl, _⟩ := returns_request hwrite
    obtain ⟨_, _, time, _, rfl, hnow, hpoll⟩ := hrest.of_bind
    obtain ⟨rfl, _⟩ := hnow.of_ask
    obtain ⟨services, since, rfl, hsince, hserved⟩ := pollCutover_returns hpoll
    refine ⟨services, since ++ [⟨.now, some time⟩], by simp, fun e he => ?_, hserved⟩
    obtain he | he := List.mem_append.mp he
    · exact hsince e he
    · rw [List.mem_singleton.mp he]
      exact id

def Tasks : AgentCall → Prop
  | .request r => match r with
    | .pullImage _ | .removeContainer _ _ _ | .createContainer _ | .startContainer _
    | .waitContainer _ _ | .containerLogs _ => True
    | _ => False
  | _ => False

theorem runTaskContainer_uses {S : AgentCall → Prop} {spec : DockerContainerSpec}
    (hS : ∀ c, Tasks c → S c) : (runTaskContainer spec).Uses S := by
  refine uses_bind (uses_request (hS _ trivial)) fun _ => uses_bind (uses_request (hS _ trivial))
    fun _ => uses_bind (uses_request (hS _ trivial)) fun id =>
      uses_finally ?_ (uses_request (hS _ trivial))
  refine uses_bind (uses_request (hS _ trivial)) fun _ => uses_bind (uses_request (hS _ trivial))
    fun statusCode => uses_bind (uses_settle (uses_request (hS _ trivial))) fun logs => ?_
  split
  · exact uses_throw _
  · exact uses_pure ()

theorem tasks_unverifying {c : AgentCall} (hc : Tasks c) : Unverifying c := by
  cases c with
  | request q => cases q <;> first | exact hc.elim | trivial
  | now => trivial
  | sleep ms => trivial

theorem passive_unverifying {c : AgentCall} (hc : Passive c) : Unverifying c := by
  cases c with
  | request q => cases q <;> first | exact hc.elim | trivial
  | now => trivial
  | sleep ms => trivial

theorem setupCall_unverifying {c : AgentCall} (hc : SetupCall c) : Unverifying c := by
  cases c with
  | request q => cases q <;> first | exact hc.elim | trivial
  | now => trivial
  | sleep ms => trivial

theorem preActivation_unverifying {target : ReleaseJobTarget} {c : AgentCall}
    (hc : RunnerCall target .preActivation c) : Unverifying c := by
  obtain hc | ⟨jobs, rfl⟩ | rfl | rfl := hc
  · cases c with
    | request q => cases q <;> first | exact hc.elim | trivial
    | now => trivial
    | sleep ms => trivial
  all_goals trivial

theorem assertConsumer_unverifying {volumeName : String} {expected : Option String} :
    (assertSingleRunningVolumeConsumer volumeName expected).Uses Unverifying :=
  assertSingleRunningVolumeConsumer_uses trivial

theorem restartPrevious_unverifying {previous : String} :
    (r.restartPrevious previous).Uses Unverifying :=
  uses_bind (uses_request trivial) fun _ => waits_passive.mono fun _ => passive_unverifying

theorem createAppVolumeSnapshot_unverifying {volume : AppVolumeIdentity} :
    (r.createAppVolumeSnapshot volume).Uses Unverifying :=
  uses_bind (uses_ofExcept _) fun _ => uses_bind (uses_request trivial) fun _ =>
    uses_bind (runTaskContainer_uses fun _ => tasks_unverifying) fun _ => uses_pure _

theorem deleteSnapshot_uses {S : AgentCall → Prop} {snapshotName : String}
    (hS : ∀ c, Tasks c → S c) : (d.deleteAppVolumeSnapshotBestEffort snapshotName).Uses S :=
  uses_bind (uses_settle (runTaskContainer_uses hS)) fun _ => uses_pure ()

theorem restoreVolume_unverifying {volume : AppVolumeIdentity} {snapshotName : String} :
    (r.restoreVolume volume snapshotName).Uses Unverifying :=
  uses_bind assertConsumer_unverifying fun _ => runTaskContainer_uses fun _ => tasks_unverifying

theorem prepareVolume_unverifying : r.prepareVolume.Uses Unverifying := by
  have hquiesce : r.quiesce.Uses Unverifying := by
    unfold quiesce
    split
    · exact uses_pure ()
    · exact uses_bind (uses_lift (readAppContainerBeforeQuiesceStop_passive.mono
        fun _ => passive_unverifying)) fun _ => uses_bind (uses_assign _) fun _ =>
          uses_request trivial
  have hservice (volume : AppVolumeIdentity) (previous : String) :
      (r.restoreServiceWithoutSnapshot volume previous).Uses Unverifying :=
    uses_bind (uses_lift assertConsumer_unverifying) fun _ =>
      uses_bind (uses_lift restartPrevious_unverifying) fun _ =>
        uses_bind (uses_lift (routeToPrevious_passive.mono fun _ => passive_unverifying)) fun _ =>
          uses_bind uses_locals fun _ =>
            uses_lift (canServe_passive.mono fun _ => passive_unverifying)
  unfold prepareVolume
  split
  · refine uses_bind (uses_request trivial) fun _ => uses_tryCatch (uses_bind
      (uses_lift assertConsumer_unverifying) fun _ => uses_bind hquiesce fun _ =>
        uses_bind (uses_lift assertConsumer_unverifying) fun _ => uses_bind (uses_assign _) fun _ =>
          uses_bind (uses_lift createAppVolumeSnapshot_unverifying) fun _ => uses_assign _)
      fun error => uses_bind ?_ fun _ => uses_bind uses_locals fun _ => uses_throw _
    split
    · exact uses_pure _
    · refine uses_bind (uses_settle (hservice _ _)) fun result => ?_
      cases result <;> exact uses_pure _
  · exact uses_pure ()

theorem discardCandidate_unverifying : r.discardCandidate.Uses Unverifying := by
  refine uses_bind (uses_request trivial) fun _ => ?_
  split
  · exact verifyContainerAbsent_uses fun _ => trivial
  · exact uses_pure ()

theorem candidateFailed_unverifying {error : Failure} :
    (r.candidateFailed error).Uses Unverifying := by
  have hservice (volume : AppVolumeIdentity) (snapshotName : String) :
      (r.restoreService volume snapshotName).Uses Unverifying := by
    refine uses_bind restoreVolume_unverifying fun _ => uses_bind ?_ fun _ =>
      deleteSnapshot_uses fun _ => tasks_unverifying
    split
    · exact uses_bind restartPrevious_unverifying fun _ =>
        routeToPrevious_passive.mono fun _ => passive_unverifying
    · exact routeAppServiceWithoutRuntime_passive.mono fun _ => passive_unverifying
  have hrestore : r.restoreAfterCandidateFailure.Uses Unverifying := by
    refine uses_bind uses_locals fun _ => ?_
    split
    · exact uses_lift (uses_tryCatch (hservice _ _) fun _ => uses_throw _)
    · exact uses_pure ()
  unfold candidateFailed
  split
  · exact uses_throw _
  · refine uses_bind (uses_lift discardCandidate_unverifying) fun _ => uses_bind hrestore fun _ =>
      uses_bind (uses_lift (removeRejectedImage_passive.mono fun _ => passive_unverifying)) fun _ =>
        uses_bind uses_locals fun _ => uses_bind (uses_lift ?_) fun _ => uses_throw _
    split
    · exact canServe_passive.mono fun _ => passive_unverifying
    · exact uses_pure _

theorem cutoverFailed_unverifying {error : Failure} : (r.cutoverFailed error).Uses Unverifying := by
  have hrerun (volume : AppVolumeIdentity) (snapshotName : String) :
      (r.rerunPrevious volume snapshotName).Uses Unverifying := by
    refine uses_bind restoreVolume_unverifying fun _ => ?_
    split
    · exact restartPrevious_unverifying
    · exact uses_pure ()
  have hrestore : r.restoreAfterCutoverFailure.Uses Unverifying := by
    refine uses_bind uses_locals fun _ => ?_
    split
    · exact uses_lift (uses_tryCatch (hrerun _ _) fun _ => uses_throw _)
    · exact uses_pure ()
  have hroute : r.returnRoute.Uses Unverifying := by
    refine uses_bind uses_locals fun _ => uses_bind (uses_lift ?_) fun _ => ?_
    · split
      · exact uses_pure ()
      · split
        · exact routeTo_passive.mono fun _ => passive_unverifying
        · exact routeAppServiceWithoutRuntime_passive.mono fun _ => passive_unverifying
    · split
      · exact uses_lift (deleteSnapshot_uses fun _ => tasks_unverifying)
      · exact uses_pure ()
  unfold cutoverFailed
  split
  · exact uses_throw _
  · refine uses_bind (uses_lift discardCandidate_unverifying) fun _ => uses_bind hrestore fun _ =>
      uses_bind (uses_settle hroute) fun _ => uses_bind uses_locals fun _ =>
        uses_bind (uses_lift ?_) fun _ =>
          uses_bind (uses_lift (removeRejectedImage_passive.mono fun _ => passive_unverifying))
            fun _ => uses_throw _
    split
    · exact canServe_passive.mono fun _ => passive_unverifying
    · exact uses_pure _

theorem probe_routeless {name : String} {c : AgentCall} (hc : ProbeCall name c) : ¬ SetsRoute c := by
  cases c with
  | request q => cases q <;> first | exact hc.elim | exact id
  | now => exact id
  | sleep ms => exact id

theorem runnerCall_routeless {target : ReleaseJobTarget} {phase : ReleasePhase} {c : AgentCall}
    (hc : RunnerCall target phase c) : ¬ SetsRoute c := by
  obtain hc | ⟨jobs, rfl⟩ | rfl | rfl := hc
  · cases c with
    | request q => cases q <;> first | exact hc.elim | exact id
    | now => exact id
    | sleep ms => exact id
  all_goals exact id

theorem tasks_routeless {c : AgentCall} (hc : Tasks c) : ¬ SetsRoute c := by
  cases c with
  | request q => cases q <;> first | exact hc.elim | exact id
  | now => exact id
  | sleep ms => exact id

theorem routeCall_keeps {name : String} {c : AgentCall} (hc : RouteCall c) : ¬ Removes name c := by
  cases c with
  | request q => cases q <;> first | exact hc.elim | exact id
  | now => exact id
  | sleep ms => exact id

def GaveWay (r : AppRollout) (h : AgentHistory) : Prop :=
  (Warrantedly r.toAppDeployment h ∧ TrafficReturned r.toAppDeployment h) ∧ r.payload.volume = none

def Verified (r : AppRollout) (h : AgentHistory) : Prop :=
  ¬ Moved h ∨ (Warrantedly r.toAppDeployment h ∧ r.payload.volume = none)

theorem rollBackTraffic_sound {serviceUrl message : String} {s : RolloutLocals}
    (hf : Found r.toAppDeployment r h) (hurl : r.previousServiceUrl = some serviceUrl)
    (hvolume : r.payload.volume = none) (hv : Verifying h) (hw : Warrantedly r.toAppDeployment h) :
    (r.rollBackTraffic serviceUrl message).wp (assuming F)
      ⟨fun _ _ => Verified r,
        fun _ _ => GaveWay r, Along (RollsBackSoundly r.toAppDeployment)⟩ s h := by
  have keep {α : Type} {p : AgentAction α} {h : AgentHistory} (hp : p.Uses RouteCall)
      (hf : Found r.toAppDeployment r h) (hw : Warrantedly r.toAppDeployment h) :
      p.wp (assuming F) (Post.always fun h =>
        Found r.toAppDeployment r h ∧ Warrantedly r.toAppDeployment h) () h :=
    hp.wp_assuming (fun _ _ hc hj => ⟨hj.1.cons, warrantedly_cons (routeCall_keeps hc) hj.2⟩) ⟨hf, hw⟩
  refine wp_bind_of (R := fun moved _ h => Warrantedly r.toAppDeployment h ∧
    (moved = true → TrafficReturned r.toAppDeployment h)) ((wp_lift _).mpr (wp_mono
      (wp_and (wp_and (keep (moveAppTraffic_uses fun _ hc => hc) hf hw)
        (wp_returns (r.moveAppTraffic serviceUrl) () h))
        (moveAppTraffic_throws (X := fun _ => False)).wp)
      (fun moved _ h' hm => ⟨hm.1.1.2, ?_⟩) (fun _ _ _ hm => hm.2.elim) fun _ hm => hm.1.1.2.1))
    fun moved s h hm => ?_
  · rintro rfl
    obtain ⟨seg, rfl, hreturns⟩ := hm.1.2
    exact ⟨r, serviceUrl, hm.1.1.1, hurl, [], seg, h, rfl, moveAppTraffic_returns hreturns, hv⟩
  · refine wp_bind_of (R := fun _ _ h => Warrantedly r.toAppDeployment h ∧
      (moved = true → TrafficReturned r.toAppDeployment h)) hm fun _ s h hm => ?_
    split
    · next hmoved => exact ⟨⟨hm.1, hm.2 hmoved⟩, hvolume⟩
    · have hback : (r.routeTo r.candidateServiceUrl).Uses RouteCall := routeTo_uses fun _ hc => hc
      refine wp_bind_of (R := fun _ _ => Warrantedly r.toAppDeployment) ((wp_settle _).mpr
        ((wp_lift _).mpr (wp_mono (hback.wp_assuming (fun _ _ hc hj =>
          warrantedly_cons (routeCall_keeps hc) hj) hm.1) (fun _ _ _ h => h) (fun _ _ _ h => h)
          fun _ h => h.1))) fun _ s h hw => ?_
      exact .inr ⟨hw, hvolume⟩

theorem verify_sound {s : RolloutLocals} (hf : Found r.toAppDeployment r h) (hm : ¬ Moved h) :
    r.verify.wp (assuming F) ⟨fun _ _ => Verified r, fun _ _ => GaveWay r,
      Along (RollsBackSoundly r.toAppDeployment)⟩ s h := by
  unfold verify
  split
  · exact .inl hm
  · next runner jobs hrelease =>
    split
    · exact .inl hm
    · next verification hverification =>
      let p := runVerificationKeepingOnError runner r.releaseTarget
        (r.verificationRequest verification)
      have huses : p.Uses fun c => ¬ SetsRoute c :=
        runVerification_uses (fun _ _ => probe_routeless) fun _ => runnerCall_routeless
      have hthrows : p.Throws fun _ => False := by
        refine throws_bind throws_settle fun result => ?_
        cases result <;> exact throws_pure _
      refine wp_bind_of (R := fun result _ h => (Found r.toAppDeployment r h ∧ ¬ Moved h) ∧
        ∀ attempt failure message, result = some (.unsuccessful attempt failure message
          (some .rollback)) → ∃ previous, MayReturn r previous h) ((wp_withLocals none p).mpr
            (wp_mono (wp_and (wp_and (huses.wp_assuming (F := F) (J := fun h =>
              Found r.toAppDeployment r h ∧ ¬ Moved h) (fun _ _ hc hj =>
                ⟨hj.1.cons, not_moved_cons hc hj.2⟩) ⟨hf, hm⟩) (wp_returns p none h)) hthrows.wp)
              (fun result _ h' hr => ⟨hr.1.1, ?_⟩) (fun _ _ _ hr => hr.2.elim)
              fun _ hr => sound_unmoved hr.1.1.2)) fun result s h hr => ?_
      · rintro attempt failure message rfl
        obtain ⟨seg, rfl, hreturns⟩ := hr.1.2
        obtain ⟨previous, hmay⟩ := runVerification_returns hrelease hverification hreturns
        exact ⟨previous, hmay.mono List.infix_append_left⟩
      · split
        · next attempt failure message serviceUrl hurl =>
          obtain ⟨previous, hmay⟩ := hr.2 attempt failure message rfl
          exact rollBackTraffic_sound hr.1.1 hurl hmay.unshared hmay.reported.verifying
            ⟨sound_unmoved hr.1.2, r, previous, hr.1.1, hmay⟩
        · exact .inl hr.1.2

def Unverified (r : AppRollout) (h : AgentHistory) : Prop :=
  Found r.toAppDeployment r h ∧ ¬ Verifying h

theorem Unverified.sound (hu : Unverified r h) : Along (RollsBackSoundly d) h :=
  sound_unmoved (not_moved hu.2)

theorem unverified_wp {σ α : Type} {p : AgentMethod σ α} {s : σ} (hp : p.Uses Unverifying)
    (hu : Unverified r h) : p.wp (assuming F) (Post.always (Unverified r)) s h :=
  hp.wp_assuming (fun _ _ hc hj => ⟨hj.1.cons, not_verifying_cons hc hj.2⟩) hu

theorem cutOver_sound {s : RolloutLocals} (hu : Unverified r h) : r.cutOver.wp (assuming F)
    ⟨fun _ _ => Verified r, fun _ _ h => Unverified r h ∨ GaveWay r h,
      Along (RollsBackSoundly r.toAppDeployment)⟩ s h := by
  refine wp_bind_of (R := fun _ _ => Unverified r) (wp_mono (unverified_wp (uses_lift
    (routeTo_passive.mono fun _ => passive_unverifying)) hu) (fun _ _ _ h => h)
      (fun _ _ _ h => .inl h) fun _ h => h.sound) fun _ s h hu => ?_
  exact wp_mono (verify_sound hu.1 (not_moved hu.2)) (fun _ _ _ h => h) (fun _ _ _ h => .inr h)
    fun _ h => h

theorem moveTraffic_sound {s : RolloutLocals} (hu : Unverified r h) : r.moveTraffic.wp (assuming F)
    ⟨fun _ _ => Verified r, fun _ _ => Along (RollsBackSoundly r.toAppDeployment),
      Along (RollsBackSoundly r.toAppDeployment)⟩ s h := by
  refine (wp_tryCatch _ _).mpr (wp_mono (cutOver_sound hu) (fun _ _ _ h => h) ?_ fun _ h => h)
  rintro error s h (hu | ⟨hw, hvolume⟩)
  · exact wp_mono (unverified_wp cutoverFailed_unverifying hu) (fun _ _ _ h => .inl (not_moved h.2))
      (fun _ _ _ h => h.sound) fun _ h => h.sound
  · -- With the traffic back, nothing that a failed cutover does is asked about any more.
    have hany : (r.cutoverFailed error).wp (assuming F) (Post.always fun h =>
        Warrantedly r.toAppDeployment h ∧ TrafficReturned r.toAppDeployment h) s h :=
      cutoverFailed_unverifying.wp_assuming (fun _ _ _ => returned_cons) hw
    exact wp_mono hany (fun _ _ _ h => .inr ⟨h.1, hvolume⟩) (fun _ _ _ h => h.1.1) fun _ h => h.1.1

theorem commit_uses {S : AgentCall → Prop} {containerId : String} (hdrop : r.dropSnapshot.Uses S)
    (hpassive : ∀ c, Passive c → ¬ SetsRoute c → S c)
    (hstop : ∀ name seconds ms, S (.request (.stopContainer name seconds ms)))
    (hremove : ∀ name force ms, r.previous = some name →
      S (.request (.removeContainer name force ms))) : (r.commit containerId).Uses S :=
  uses_bind (retirePrevious_uses (fun _ => hpassive _ trivial id)
    (fun _ _ => hpassive _ trivial id) (fun _ _ _ _ => hstop _ _ _)
    fun name _ _ hp => hremove name _ _ hp) fun _ => uses_bind hdrop fun _ =>
      uses_bind (uses_lift (retireImage_uses fun _ _ => hpassive _ trivial id)) fun _ => uses_pure _

theorem commit_sound {containerId : String} {s : RolloutLocals}
    (hapart : r.previous ≠ some r.containerName) (hv : Verified r h) :
    (r.commit containerId).wp (assuming F)
      (Post.always (Along (RollsBackSoundly r.toAppDeployment))) s h := by
  rcases hv with hm | ⟨hw, hvolume⟩
  · have hdrop : r.dropSnapshot.Uses fun c => ¬ SetsRoute c := by
      refine uses_bind uses_locals fun _ => ?_
      split
      · exact uses_lift (deleteSnapshot_uses fun _ => tasks_routeless)
      · exact uses_pure ()
    have huses : (r.commit containerId).Uses fun c => ¬ SetsRoute c :=
      commit_uses hdrop (fun _ _ hc => hc) (fun _ _ _ => id) fun _ _ _ _ => id
    exact wp_mono (huses.wp_assuming (fun _ _ => not_moved_cons) hm)
      (fun _ _ _ hm => sound_unmoved hm) (fun _ _ _ hm => sound_unmoved hm)
      fun _ hm => sound_unmoved hm
  · have hdrop : r.dropSnapshot.Uses fun c => ¬ Removes r.containerName c := by
      refine uses_bind uses_locals fun _ => ?_
      rw [hvolume]
      exact uses_pure ()
    have huses : (r.commit containerId).Uses fun c => ¬ Removes r.containerName c := by
      refine commit_uses hdrop (fun c hc _ => ?_) (fun _ _ _ => id) fun name _ _ hp hname => ?_
      · cases c with
        | request q => cases q <;> first | exact hc.elim | exact id
        | now => exact id
        | sleep ms => exact id
      · exact hapart (hname ▸ hp)
    exact wp_mono (huses.wp_assuming (fun _ _ => warrantedly_cons) hw) (fun _ _ _ hw => hw.1)
      (fun _ _ _ hw => hw.1) fun _ hw => hw.1

theorem roll_sound {s : RolloutLocals} (hapart : r.previous ≠ some r.containerName)
    (hu : Unverified r h) : r.roll.wp (assuming F)
      (Post.always (Along (RollsBackSoundly r.toAppDeployment))) s h := by
  have keep {α : Type} {p : RolloutMethod α} {s : RolloutLocals} {h : AgentHistory}
      (hp : p.Uses Unverifying) (hu : Unverified r h) : p.wp (assuming F)
        ⟨fun _ _ => Unverified r, fun _ _ => Along (RollsBackSoundly r.toAppDeployment),
          Along (RollsBackSoundly r.toAppDeployment)⟩ s h :=
    wp_mono (unverified_wp hp hu) (fun _ _ _ h => h) (fun _ _ _ h => h.sound) fun _ h => h.sound
  have hfinish : r.finishRejectedRelease.Uses Unverifying :=
    finishRejectedRelease_uses (fun _ _ hc => passive_unverifying (probeCall_passive hc))
      (fun _ hc => passive_unverifying (routeCall_passive hc)) (fun _ _ => trivial) trivial
  have hpre : r.preActivate.Uses Unverifying :=
    preActivate_uses (fun _ _ hc => passive_unverifying (probeCall_passive hc))
      fun _ => preActivation_unverifying
  have hstart : r.startCandidate.Uses Unverifying := by
    unfold startCandidate
    split
    · exact uses_pure _
    · exact uses_request trivial
  have hawait : r.awaitCandidate.Uses Unverifying := uses_tryCatch (uses_lift
    (waits_passive.mono fun _ => passive_unverifying)) fun _ => candidateFailed_unverifying
  refine wp_bind_of (keep (uses_lift hfinish) hu) fun _ s h hu => ?_
  refine wp_bind_of (keep (uses_lift hpre) hu) fun _ s h hu => ?_
  refine wp_bind_of (keep prepareVolume_unverifying hu) fun _ s h hu => ?_
  refine wp_bind_of (keep (uses_lift hstart) hu) fun containerId s h hu => ?_
  refine wp_bind_of (keep hawait hu) fun _ s h hu => ?_
  exact wp_bind_of (moveTraffic_sound hu) fun _ s h hv => commit_sound hapart hv

theorem findRollout_misrecorded (hran : Ran d.findRollout seg (.ok r))
    (hp : r.previous = some d.containerName) : Misrecorded d seg := by
  obtain ⟨s, s', hreturns : d.findRollout.Returns s seg r s'⟩ := hran
  obtain ⟨_, _, resources, _, rfl, _, hrest⟩ := hreturns.of_bind
  obtain ⟨_, _, containers, _, rfl, hlist, hlisted⟩ := hrest.of_bind
  obtain ⟨rfl, _⟩ := returns_request hlist
  obtain ⟨_, _, found, _, rfl, hsettle, hsettled⟩ := hlisted.of_bind
  obtain ⟨_, _, image, _, rfl, _, hend⟩ := hsettled.of_bind
  obtain ⟨_, rfl, _⟩ := hend.of_pure
  obtain ⟨_, hnone, hsome⟩ := hsettle.ran.confined settleExistingCandidate_confined
  have hprevious : found.1 = some d.containerName := (present_some hp).1
  cases hexisting : containers.find? fun container =>
      withoutSlash container.name = d.containerName with
  | none =>
    rw [hnone hexisting] at hprevious
    refine ⟨hprevious, containers, by simp, fun container hc => ?_⟩
    simpa using List.find?_eq_none.mp hexisting container hc
  | some candidate => exact absurd hprevious (hsome (by rw [hexisting]; rfl))

theorem Misrecorded.append (hm : Misrecorded d h) (later : AgentHistory) :
    Misrecorded d (later ++ h) := by
  obtain ⟨hrecorded, containers, hlisted, hnone⟩ := hm
  exact ⟨hrecorded, containers, List.mem_append_right _ hlisted, hnone⟩

theorem deploy_sound : d.deployAppImageWithDependencies.wp (assuming F)
    (Post.always fun h => Misrecorded d h ∨ Along (RollsBackSoundly d) h) {} [] := by
  have hnetwork : d.prepareNetwork.Uses Unverifying := prepareNetwork_uses fun _ => setupCall_unverifying
  have hfind : d.findRollout.Uses Unverifying := findRollout_uses fun _ => setupCall_unverifying
  have unverified {h : AgentHistory} (hv : ¬ Verifying h) :
      Misrecorded d h ∨ Along (RollsBackSoundly d) h := .inr (sound_unmoved (not_moved hv))
  refine wp_bind_of (R := fun _ _ h => ¬ Verifying h ∧ Ran d.prepareNetwork h (.ok ()))
    ((wp_lift _).mpr (wp_mono (wp_and (hnetwork.wp_assuming (fun _ _ => not_verifying_cons)
      verifying_nil) (wp_ran d.prepareNetwork () [])) (fun _ _ _ h => ⟨h.1, ?_⟩)
      (fun _ _ _ h => unverified h.1) fun _ h => unverified h.1)) fun _ s network hn => ?_
  · obtain ⟨seg, hseg, hran⟩ := h.2
    rwa [hseg, List.append_nil]
  refine wp_bind_of (R := fun r _ h => r.toAppDeployment = d ∧ Unverified r h ∧
    (r.previous = some d.containerName → Misrecorded d h)) ((wp_lift _).mpr (wp_mono
      (wp_and (wp_and (hfind.wp_assuming (fun _ _ => not_verifying_cons) hn.1)
        (wp_ran d.findRollout () network)) (findRollout_wp network))
      (fun r _ h hr => ?_) (fun _ _ _ h => unverified h.1.1) fun _ h => unverified h.1.1))
      fun r s h hr => ?_
  · obtain ⟨⟨hv, found, rfl, hran⟩, rfl, _⟩ := hr
    refine ⟨rfl, ⟨⟨[], found, network, rfl, hn.2, hran⟩, hv⟩, fun hp => ?_⟩
    obtain ⟨hrecorded, containers, hlisted, hnone⟩ := findRollout_misrecorded hran hp
    exact ⟨hrecorded, containers, List.mem_append_left _ hlisted, hnone⟩
  obtain ⟨rfl, hu, hmisrecorded⟩ := hr
  by_cases hp : r.previous = some r.containerName
  · exact wp_mono (wp_grows_and (wp_true r.roll s h) (hmisrecorded hp).append)
      (fun _ _ _ h => .inl h.2) (fun _ _ _ h => .inl h.2) fun _ h => .inl h.2
  · exact wp_mono (roll_sound hp hu) (fun _ _ _ h => .inr h) (fun _ _ _ h => .inr h) fun _ h => .inr h

/-- Whatever the job, the control plane, Docker and the proxy do: traffic is moved because of a
verification only with a warrant, and the candidate is then removed only when the traffic is back,
unless the metadata took the candidate for the container that served before. -/
theorem verification_rollback_sound (d : AppDeployment) (env : AgentEnvironment)
    (hrecorded : ¬ Misrecorded d ((d.deployAppImageWithDependencies {}).run env []).2) :
    Along (RollsBackSoundly d) ((d.deployAppImageWithDependencies {}).run env []).2 :=
  (always_run (@deploy_sound d fun _ _ => True) (along_iff.mpr fun _ _ _ _ => trivial)).resolve_left
    hrecorded

def verifiedDeployment (previous : String) : AppDeployment :=
  { sampleDeployment none with
    payload :=
      { (sampleDeployment none).payload with
        releaseJobs := some { verification := some ⟨"check", 60, .rollback⟩ }
        runtimeMetadata := { containerName := some previous } }
    releasePhases := some ⟨false, 2⟩ }

def claimsVerification : AgentEvent → Bool
  | ⟨.request (.claim .verification _), _⟩ => true
  | _ => false

def proxyAnswers : AgentEvent → Bool
  | ⟨.request .fetchTraefikServices, some (.ok _)⟩ => true
  | _ => false

def routedTo : AgentEvent → Option String
  | ⟨.request (.writeLocalTraefikRoute _ _ serviceUrl _), some (.ok _)⟩ => some serviceUrl
  | _ => none

/-- Surroundings in which all goes well but that the job of the verification exits with code 1. The
proxy may be down from the moment the verification is claimed. -/
def failingVerification (proxyGoesDown : Bool) : AgentEnvironment :=
  answering fun h r => match r with
    | .fetchTraefikServices =>
      if proxyGoesDown && h.any claimsVerification then .error ⟨true, "connection refused", none⟩
      else .ok (.ok [⟨some "svc-service1@file", h.findSome? routedTo⟩])
    | r => .ok (wellAnswer (fun name =>
        let container := sampleContainer name "healthy"
        if name = "nouva-release-service1-deploy01-verify-1" then some { container with
          state := some ⟨some false, some "exited", some 1, some false, none, none, none⟩ }
        else some container) (.run 1) r)

def verifiedRun (previous : String) (proxyGoesDown : Bool) : AgentHistory :=
  (((verifiedDeployment previous).deployAppImageWithDependencies {}).run
    (failingVerification proxyGoesDown) []).2

theorem verification_rollback_sound_returned :
    (verifiedRun "old-app" false).findSome? routedTo = some "http://old-app:3000" ∧
      Along (RollsBackSoundly (verifiedDeployment "old-app")) (verifiedRun "old-app" false) := by
  refine ⟨by decide +kernel, ?_⟩
  unfold verifiedRun
  exact verification_rollback_sound (verifiedDeployment "old-app") (failingVerification false)
    fun hm => absurd hm.1 (by decide +kernel)

theorem verifying_iff : Verifying h ↔ h.any claimsVerification = true := by
  rw [List.any_eq_true]
  constructor
  · rintro ⟨jobs, answer, hm⟩
    exact ⟨_, hm, rfl⟩
  · rintro ⟨e, hm, he⟩
    unfold claimsVerification at he
    split at he
    · exact ⟨_, _, hm⟩
    · cases he

theorem not_confirmed {pre post : AgentHistory} {serviceUrl : String}
    (hpre : ∀ e ∈ pre, ¬ proxyAnswers e) (hpost : ¬ Verifying post) :
    ¬ Confirmed d serviceUrl (pre ++ post) := by
  rintro ⟨later, seg, before, heq, ⟨services, since, rfl, _, _⟩, hverifying⟩
  have hrest (mid : AgentHistory) (hmid : post = mid ++ before) : False := by
    obtain ⟨jobs, answer, hm⟩ := hverifying
    exact hpost ⟨jobs, answer, hmid ▸ List.mem_append_right mid hm⟩
  obtain ⟨mid, rfl, hmid⟩ | ⟨mid, rfl, hmid⟩ := List.append_eq_append_iff.mp heq
  · exact hrest (mid ++ _) (by rw [hmid, List.append_assoc])
  · cases mid with
    | nil => exact hrest _ hmid.symm
    | cons e mid =>
      obtain ⟨rfl, _⟩ := List.cons.inj hmid
      exact hpre _ (List.mem_append_right _ List.mem_cons_self) rfl

def misrecordedRun : AgentHistory := verifiedRun "nouva-app-service1-deploy01" true

/-- Where the metadata name the candidate itself, the candidate is removed as the container that
served before, though the proxy confirmed no move. -/
theorem verification_rollback_unsound :
    ¬ Along (RollsBackSoundly (verifiedDeployment "nouva-app-service1-deploy01"))
      misrecordedRun := by
  intro h
  have hremove : misrecordedRun = ⟨.request (.removeContainer "nouva-app-service1-deploy01" false
    (some 15000)), some (.ok ())⟩ :: misrecordedRun.drop 1 := rfl
  have hwrite : misrecordedRun.drop 12 = ⟨.request (.writeLocalTraefikRoute "service1"
    ⟨some "shop.apps.example", []⟩ "http://nouva-app-service1-deploy01:3000" none),
      some (.ok ())⟩ :: misrecordedRun.drop 13 := rfl
  have hbefore := (List.take_append_drop 11 (misrecordedRun.drop 1)).symm
  rw [List.drop_drop, hwrite] at hbefore
  have hmoved : Moved (misrecordedRun.drop 1) :=
    ⟨_, _, _, hbefore, trivial, verifying_iff.mpr (by decide +kernel)⟩
  have hname : "nouva-app-service1-deploy01" =
    (verifiedDeployment "nouva-app-service1-deploy01").containerName := by decide +kernel
  rw [hremove] at h
  obtain ⟨_, _, _, _, hconfirmed⟩ := h.1.2 hname hmoved
  rw [← List.take_append_drop 27 (misrecordedRun.drop 1)] at hconfirmed
  have hsilent : (((misrecordedRun.drop 1).take 27).all fun e => !proxyAnswers e) = true := by
    decide +kernel
  refine not_confirmed (fun e he => ?_) (fun hv => ?_) hconfirmed
  · simpa using List.all_eq_true.mp hsilent e he
  · exact absurd (verifying_iff.mp hv) (by decide +kernel)

end NouvaAgent.AppRollout
