import NouvaAgent.AppRuntimeCalls
import NouvaAgent.ReleaseJobCalls

namespace NouvaAgent.AppRollout

open Text Interaction Agent Method AppDeployment CandidateReadiness ReleaseJobs

variable {S : AgentCall → Prop} {X : Failure → Prop} {d : AppDeployment} {r : AppRollout}

theorem removeRejectedImage_uses {S : AgentCall → Prop}
    (h : ∀ image force, S (.request (.removeImage image force))) : r.removeRejectedImage.Uses S := by
  unfold removeRejectedImage
  split
  · exact removeRejectedAppImage_uses h
  · exact uses_pure ()

theorem removeRejectedImage_throws : r.removeRejectedImage.Throws X := by
  unfold removeRejectedImage
  split
  · exact removeRejectedAppImage_throws
  · exact throws_pure ()

theorem startCandidate_throws (hX : Plain X) : r.startCandidate.Throws X := by
  unfold startCandidate
  split
  · exact throws_pure _
  · exact throws_request hX.1

theorem discardCandidate_throws (hX : Plain X) :
    r.discardCandidate.Throws X := by
  refine throws_bind (throws_request hX.1) fun _ => ?_
  split
  · exact verifyContainerAbsent_throws hX
  · exact throws_pure ()

theorem rollBackTraffic_throws (hX : Plain X) {serviceUrl message : String} :
    (r.rollBackTraffic serviceUrl message).Throws X := by
  refine throws_bind (throws_lift moveAppTraffic_throws) fun moved =>
    throws_bind (throws_assign _) fun _ => ?_
  split
  · exact throws_throw (hX.2 message)
  · exact throws_bind throws_settle fun _ => throws_pure ()

theorem verify_throws (hX : Plain X) : r.verify.Throws X := by
  unfold verify
  split
  · exact throws_pure ()
  · split
    · exact throws_pure ()
    · refine throws_bind (throws_withLocals (throws_bind throws_settle fun result => ?_))
        fun result => ?_
      · cases result <;> exact throws_pure _
      · split
        · exact rollBackTraffic_throws hX
        · exact throws_pure ()

theorem cutOver_throws (hX : Plain X) : r.cutOver.Throws X :=
  throws_bind (throws_lift (routeTo_throws hX)) fun _ => verify_throws hX

theorem retirePreviousAppContainerAttempt_throws {name : String}
    {before : Option ContainerState} :
    (r.retirePreviousAppContainerAttempt name before).Throws X := by
  refine throws_bind throws_settle fun stopped => ?_
  cases stopped with
  | error _ =>
    refine throws_bind throws_settle fun removed => ?_
    cases removed <;> exact throws_pure _
  | ok _ =>
    refine throws_bind (throws_bind (throws_bind throws_settle fun found => ?_)
      fun _ => throws_pure _) fun _ => throws_bind throws_settle fun removed => ?_
    · cases found <;> exact throws_pure _
    · cases removed <;> exact throws_pure _

theorem retireFrom_throws {name : String} {before : Option ContainerState}
    (attempt : ℤ) (left : ℕ) : (r.retireFrom name before attempt left).Throws X := by
  induction left generalizing attempt with
  | zero => exact throws_pure _
  | succ left ih =>
    refine throws_bind ?_ fun _ => throws_bind retirePreviousAppContainerAttempt_throws
      fun outcome => ?_
    · split
      · exact throws_ask _
      · exact throws_pure ()
    · split
      · exact throws_pure _
      · exact ih _

theorem retirePrevious_throws : r.retirePrevious.Throws X := by
  unfold retirePrevious
  split
  · exact throws_pure _
  · refine throws_bind (throws_bind (throws_lift ?_) fun _ => throws_bind throws_locals fun s =>
      throws_bind (throws_lift ?_) fun before => throws_lift (retireFrom_throws _ _))
      fun _ => throws_pure _
    · split
      · exact throws_ask _
      · exact throws_pure ()
    · split
      · exact throws_pure _
      · refine throws_bind (throws_bind throws_settle fun found => ?_) fun _ => throws_pure _
        cases found <;> exact throws_pure _

theorem dropSnapshot_throws : r.dropSnapshot.Throws X := by
  refine throws_bind throws_locals fun s => ?_
  split
  · exact throws_lift (throws_bind throws_settle fun _ => throws_pure ())
  · exact throws_pure ()

theorem retireImage_throws : r.retireImage.Throws X := by
  unfold retireImage
  split
  · exact throws_pure ()
  · split
    · exact throws_bind throws_settle fun _ => throws_pure ()
    · exact throws_pure ()

theorem commit_throws {containerId : String} :
    (r.commit containerId).Throws X :=
  throws_bind retirePrevious_throws fun _ => throws_bind dropSnapshot_throws fun _ =>
    throws_bind (throws_lift retireImage_throws) fun _ => throws_pure _

theorem extraMountsMatch_throws (hX : Plain X)
    {volume : Option AppVolumeIdentity} {declared : List String}
    {configured : List HostConfigMount} (mounts : List ContainerMount) :
    (extraMountsMatch volume declared configured mounts).Throws X := by
  induction mounts with
  | nil => exact throws_pure _
  | cons mount rest ih =>
    unfold extraMountsMatch
    split
    · exact throws_pure _
    · refine throws_bind (throws_request hX.1) fun inspected => ?_
      split
      · exact ih
      · exact throws_pure _

theorem candidateMatches_throws (hX : Plain X)
    {candidate : DockerContainerInspection} : (d.candidateMatches candidate).Throws X := by
  have hdeclared : (declaredVolumes candidate).Throws X := by
    unfold declaredVolumes
    split
    · exact throws_pure _
    · exact throws_bind (throws_request hX.1) fun _ => throws_pure _
  unfold candidateMatches
  split
  · unfold appCandidateMountsMatch
    dsimp only
    split
    · exact throws_pure _
    · split
      · exact throws_pure _
      · refine throws_bind hdeclared fun declared => ?_
        split
        · split
          · exact throws_pure _
          · exact extraMountsMatch_throws hX _
        · exact throws_pure _
  · exact throws_pure _

theorem findRollout_throws (hX : Plain X) : d.findRollout.Throws X := by
  have huse (expected : Option String) : (d.assertVolumeUse expected).Throws X := by
    unfold assertVolumeUse
    split
    · exact throws_pure ()
    · exact assertSingleRunningVolumeConsumer_throws hX
  have hlive (candidate : DockerContainerInspection) :
      (d.livePreviousContainer candidate).Throws X := by
    unfold livePreviousContainer
    dsimp only
    split
    · exact throws_pure _
    · exact throws_bind (throws_request hX.1) fun _ => throws_pure _
  refine throws_bind (throws_ofExcept fun e he => ?_) fun resources =>
    throws_bind (throws_request hX.1) fun containers => throws_bind ?_ fun found =>
      throws_bind ?_ fun image => throws_pure _
  · cases hresources : appResourceSettings d.payload.resourceLimits with
    | ok a => rw [hresources] at he; cases he
    | error message =>
      rw [hresources] at he
      obtain rfl := Except.error.inj he
      exact hX.2 message
  · unfold settleExistingCandidate
    split
    · exact throws_pure _
    · refine throws_bind (candidateMatches_throws hX) fun accepted => ?_
      split
      · refine throws_bind (hlive _) fun previous => ?_
        split
        · exact throws_bind (huse _) fun _ => throws_pure _
        · exact throws_bind (throws_request hX.1) fun _ =>
            throws_bind (verifyContainerAbsent_throws hX) fun _ =>
              throws_bind (huse _) fun _ => throws_pure _
      · exact throws_throw (hX.2 _)
  · unfold resolveImageId
    split
    · exact throws_bind (throws_request hX.1) fun _ => throws_pure _
    · exact throws_pure _

theorem runPreActivation_throws {runner : ReleasePhaseRunner} {target : ReleaseJobTarget}
    {phaseRequest : ReleasePhaseRequest Unit} {rollout : AppRolloutResult} :
    (runPreActivation runner target phaseRequest rollout).Throws fun e =>
      (∃ message, e = .releaseJobDeferred message) ∨
        ∃ message, e = .releaseJobHalt message rollout := by
  refine throws_bind (throws_tryCatch fun error => ?_) fun result => ?_
  · cases error with
    | releaseJobDeferred message => exact throws_throw (.inl ⟨message, rfl⟩)
    | _ => exact throws_throw (.inr ⟨_, rfl⟩)
  · cases result with
    | succeeded attempt => exact throws_pure ()
    | unsuccessful attempt outcome message policy => exact throws_throw (.inr ⟨message, rfl⟩)

def SetupCall : AgentCall → Prop
  | .request r => match r with
    | .ensureBaseRuntime | .ensureNetwork _ _ | .connectNetwork _ _ | .listContainersByLabels _
    | .listContainersUsingVolume _ | .inspectContainer _ | .inspectImage _ | .inspectVolume _
    | .removeContainer _ _ _ => True
    | _ => False
  | _ => False

theorem prepareNetwork_uses (hS : ∀ c, SetupCall c → S c) : d.prepareNetwork.Uses S :=
  uses_bind (uses_request (hS _ trivial)) fun _ => uses_bind (uses_request (hS _ trivial))
    fun _ => uses_request (hS _ trivial)

theorem candidateMatches_uses (hS : ∀ c, SetupCall c → S c)
    {candidate : DockerContainerInspection} : (d.candidateMatches candidate).Uses S := by
  have hextra (declared : List String) (configured : List HostConfigMount)
      (mounts : List ContainerMount) :
      (extraMountsMatch d.payload.volume declared configured mounts).Uses S := by
    induction mounts with
    | nil => exact uses_pure _
    | cons mount rest ih =>
      unfold extraMountsMatch
      split
      · exact uses_pure _
      · refine uses_bind (uses_request (hS _ trivial)) fun inspected => ?_
        split
        · exact ih
        · exact uses_pure _
  have hdeclared : (declaredVolumes candidate).Uses S := by
    unfold declaredVolumes
    split
    · exact uses_pure _
    · exact uses_bind (uses_request (hS _ trivial)) fun _ => uses_pure _
  unfold candidateMatches
  split
  · unfold appCandidateMountsMatch
    dsimp only
    split
    · exact uses_pure _
    · split
      · exact uses_pure _
      · refine uses_bind hdeclared fun declared => ?_
        split
        · split
          · exact uses_pure _
          · exact hextra _ _ _
        · exact uses_pure _
  · exact uses_pure _

theorem assertSingleRunningVolumeConsumer_uses {volumeName : String} {expected : Option String}
    (h : S (.request (.listContainersUsingVolume volumeName))) :
    (assertSingleRunningVolumeConsumer volumeName expected).Uses S := by
  refine uses_bind (uses_request h) fun consumers => ?_
  split
  · exact uses_pure ()
  · exact uses_throw _

theorem verifyContainerAbsent_uses {identifier : Option String}
    (h : ∀ name, S (.request (.inspectContainer name))) :
    (verifyContainerAbsent identifier).Uses S := by
  unfold verifyContainerAbsent
  cases present identifier with
  | none => exact uses_pure ()
  | some name =>
    refine uses_bind (uses_request (h name)) fun found => ?_
    cases found with
    | none => exact uses_pure ()
    | some _ => exact uses_throw _

theorem findRollout_uses (hS : ∀ c, SetupCall c → S c) : d.findRollout.Uses S := by
  have huse (expected : Option String) : (d.assertVolumeUse expected).Uses S := by
    unfold assertVolumeUse
    split
    · exact uses_pure ()
    · exact assertSingleRunningVolumeConsumer_uses (hS _ trivial)
  have hlive (candidate : DockerContainerInspection) :
      (d.livePreviousContainer candidate).Uses S := by
    unfold livePreviousContainer
    dsimp only
    split
    · exact uses_pure _
    · exact uses_bind (uses_request (hS _ trivial)) fun _ => uses_pure _
  refine uses_bind (uses_ofExcept _) fun resources => uses_bind (uses_request (hS _ trivial))
    fun containers => uses_bind ?_ fun found => uses_bind ?_ fun image => uses_pure _
  · unfold settleExistingCandidate
    split
    · exact uses_pure _
    · refine uses_bind (candidateMatches_uses hS) fun accepted => ?_
      split
      · refine uses_bind (hlive _) fun previous => ?_
        split
        · exact uses_bind (huse _) fun _ => uses_pure _
        · exact uses_bind (uses_request (hS _ trivial)) fun _ =>
            uses_bind (verifyContainerAbsent_uses fun _ => hS _ trivial) fun _ =>
              uses_bind (huse _) fun _ => uses_pure _
      · exact uses_throw _
  · unfold resolveImageId
    split
    · exact uses_bind (uses_request (hS _ trivial)) fun _ => uses_pure _
    · exact uses_pure _

section

variable (hprobe : ∀ name c, ProbeCall name c → S c) (hroute : ∀ c, RouteCall c → S c)
  (himage : ∀ image force, S (.request (.removeImage image force)))

include hprobe hroute himage in
theorem finishRejectedRelease_uses
    (hremove : S (.request (.removeContainer r.containerName true none))) :
    r.finishRejectedRelease.Uses S := by
  have hreturn (previous serviceUrl : String) :
      (r.returnTrafficFromRejectedRelease previous serviceUrl).Uses S := by
    refine uses_bind (previousAppRuntimeCanServe_uses (hprobe _)) fun serves => ?_
    split
    · refine uses_bind (moveAppTraffic_uses hroute) fun moved => ?_
      split
      · split
        · exact uses_bind (uses_settle (uses_request hremove)) fun _ => uses_pure _
        · exact uses_pure _
      · exact uses_pure _
    · exact uses_pure _
  unfold finishRejectedRelease
  split
  · split
    · refine uses_bind (hreturn _ _) fun returned => ?_
      split
      · exact uses_bind (removeRejectedImage_uses himage) fun _ => uses_throw _
      · exact uses_pure ()
    · exact uses_pure ()
  · exact uses_pure ()

include hprobe in
theorem preActivate_uses
    (hrun : ∀ c, RunnerCall r.releaseTarget .preActivation c → S c) : r.preActivate.Uses S := by
  unfold preActivate
  split
  · exact uses_pure ()
  · split
    · exact uses_pure ()
    · refine uses_tryCatch (uses_bind (uses_tryCatch (run_uses hrun fun _ _ hr => nomatch hr)
        fun e => ?_) fun result => ?_) fun e => ?_
      · cases e <;> exact uses_throw _
      · cases result with
        | succeeded attempt => exact uses_pure ()
        | unsuccessful attempt outcome message policy => exact uses_throw _
      · unfold haltTruthfully
        split
        · refine uses_bind (previousAppRuntimeCanServe_uses (hprobe _)) fun serves => ?_
          split
          · exact uses_throw _
          · exact uses_throw _
        · exact uses_throw _

include hprobe in
theorem resolveAppliedPolicy_uses {verification : VerificationJobConfig}
    {outcome : ReleaseJobOutcome} : (r.resolveAppliedPolicy verification outcome).Uses S := by
  refine uses_bind (uses_bind ?_ fun available => uses_pure _) fun consequence => uses_pure _
  split
  · refine uses_bind uses_locals fun known => ?_
    cases known with
    | some serves => exact uses_pure _
    | none =>
      exact uses_bind (uses_lift (previousAppRuntimeCanServe_uses (hprobe _))) fun _ =>
        uses_bind (uses_assign _) fun _ => uses_pure _
  · exact uses_pure _

include hprobe in
theorem runVerification_uses {runner : ReleasePhaseRunner} {verification : VerificationJobConfig}
    (hrun : ∀ c, RunnerCall r.releaseTarget .verification c → S c) :
    (runVerificationKeepingOnError runner r.releaseTarget
      (r.verificationRequest verification)).Uses S := by
  refine uses_bind (uses_settle (run_uses hrun fun resolve outcome hr => ?_)) fun result => ?_
  · obtain rfl := Option.some.inj hr
    exact resolveAppliedPolicy_uses hprobe
  · cases result <;> exact uses_pure _

include hprobe hroute in
theorem verify_uses (hrun : ∀ c, RunnerCall r.releaseTarget .verification c → S c) :
    r.verify.Uses S := by
  unfold verify
  split
  · exact uses_pure ()
  · split
    · exact uses_pure ()
    · refine uses_bind (uses_withLocals (runVerification_uses hprobe hrun)) fun result => ?_
      split
      · refine uses_bind (uses_lift (moveAppTraffic_uses hroute)) fun moved =>
          uses_bind (uses_assign _) fun _ => ?_
        split
        · exact uses_throw _
        · exact uses_bind (uses_settle (uses_lift (routeTo_uses hroute))) fun _ => uses_pure ()
      · exact uses_pure ()

end

theorem retirePrevious_uses (hsleep : ∀ ms, S (.sleep ms))
    (hinspect : ∀ name, r.previous = some name → S (.request (.inspectContainer name)))
    (hstop : ∀ name seconds ms, r.previous = some name →
      S (.request (.stopContainer name (some seconds) (some ms))))
    (hremove : ∀ name force ms, r.previous = some name →
      S (.request (.removeContainer name force (some ms)))) : r.retirePrevious.Uses S := by
  have hstate (name : String) (hp : r.previous = some name) :
      (readRetiringAppContainerState name).Uses S := by
    refine uses_bind (uses_bind (uses_settle (uses_request (hinspect name hp))) fun found => ?_)
      fun _ => uses_pure _
    cases found <;> exact uses_pure _
  have hattempt (name : String) (before : Option ContainerState) (hp : r.previous = some name) :
      (r.retirePreviousAppContainerAttempt name before).Uses S := by
    refine uses_bind (uses_settle (uses_request (hstop name _ _ hp))) fun stopped => ?_
    cases stopped with
    | error _ =>
      refine uses_bind (uses_settle (uses_request (hremove name _ _ hp))) fun removed => ?_
      cases removed <;> exact uses_pure _
    | ok _ =>
      refine uses_bind (hstate name hp) fun _ =>
        uses_bind (uses_settle (uses_request (hremove name _ _ hp))) fun removed => ?_
      cases removed <;> exact uses_pure _
  have hretire (name : String) (before : Option ContainerState) (hp : r.previous = some name)
      (left : ℕ) (attempt : ℤ) : (r.retireFrom name before attempt left).Uses S := by
    induction left generalizing attempt with
    | zero => exact uses_pure _
    | succ left ih =>
      refine uses_bind ?_ fun _ => uses_bind (hattempt name before hp) fun outcome => ?_
      · split
        · exact uses_sleep (hsleep _)
        · exact uses_pure ()
      · split
        · exact uses_pure _
        · exact ih _
  unfold retirePrevious
  split
  · exact uses_pure _
  · next name hp =>
    refine uses_bind (uses_bind (uses_lift ?_) fun _ => uses_bind uses_locals fun s =>
      uses_bind (uses_lift ?_) fun before => uses_lift (hretire name _ hp _ _)) fun _ => uses_pure _
    · split
      · exact uses_sleep (hsleep _)
      · exact uses_pure ()
    · split
      · exact uses_pure _
      · exact hstate name hp

theorem retireImage_uses (himage : ∀ image force, S (.request (.removeImage image force))) :
    r.retireImage.Uses S := by
  unfold retireImage
  split
  · exact uses_pure ()
  · split
    · refine uses_bind (uses_settle ?_) fun _ => uses_pure ()
      unfold removeRetainedRuntimeImage
      split
      · exact uses_request (himage _ _)
      · split
        · exact uses_request (himage _ _)
        · exact uses_pure ()
    · exact uses_pure ()

def Passive : AgentCall → Prop
  | .now | .sleep _ => True
  | .request r => match r with
    | .inspectContainer _ | .countContainerExits _ _ _ | .checkTcpConnect _ _ _
    | .writeLocalTraefikRoute _ _ _ _ | .deleteLocalTraefikRoute _ | .fetchTraefikServices
    | .removeImage _ _ => True
    | _ => False

theorem probeCall_passive {name : String} {c : AgentCall} (hc : ProbeCall name c) : Passive c := by
  cases c with
  | request q => cases q <;> first | exact hc.elim | trivial
  | now => trivial
  | sleep ms => trivial

theorem routeCall_passive {c : AgentCall} (hc : RouteCall c) : Passive c := by
  cases c with
  | request q => cases q <;> first | exact hc.elim | trivial
  | now => trivial
  | sleep ms => trivial

theorem waits_passive {name : String} {port : ℤ} {options : ReadinessOptions} :
    (d.waitForAppCandidateReadiness name port options).Uses Passive :=
  waitForAppCandidateReadiness_uses fun _ => probeCall_passive

theorem canServe_passive {name : String} {stop : Option AppContainerStop} :
    (r.canServe name stop).Uses Passive :=
  previousAppRuntimeCanServe_uses fun _ => probeCall_passive

theorem routeTo_passive {serviceUrl : String} : (d.routeTo serviceUrl).Uses Passive :=
  routeTo_uses fun _ => routeCall_passive

theorem routeToPrevious_passive : r.routeToPrevious.Uses Passive := by
  unfold routeToPrevious
  split
  · exact uses_pure ()
  · exact routeTo_passive

theorem routeAppServiceWithoutRuntime_passive : d.routeAppServiceWithoutRuntime.Uses Passive :=
  routeAppServiceWithoutRuntime_uses fun _ => routeCall_passive

theorem removeRejectedImage_passive : r.removeRejectedImage.Uses Passive :=
  removeRejectedImage_uses fun _ _ => trivial

theorem readAppContainerBeforeQuiesceStop_passive {name : String} :
    (readAppContainerBeforeQuiesceStop name).Uses Passive := by
  refine uses_bind (uses_now trivial) fun inspectedAt => uses_bind
    (uses_bind (uses_settle (uses_request trivial)) fun found => ?_) fun found => ?_
  · cases found <;> exact uses_pure _
  · cases found with
    | none => exact uses_pure _
    | some inspection =>
      have hcount : (countRestartLoop inspection inspectedAt restartLoopThreshold :
          AgentAction ℤ).Uses Passive := countRestartLoop_uses fun _ _ _ => trivial
      exact uses_bind hcount fun _ => uses_pure _

theorem retireImage_passive : r.retireImage.Uses Passive := retireImage_uses fun _ _ => trivial

theorem cutOver_uses {S : AgentCall → Prop} (hpassive : ∀ c, Passive c → S c)
    (hrun : ∀ c, RunnerCall r.releaseTarget .verification c → S c) : r.cutOver.Uses S :=
  uses_bind (uses_lift (routeTo_uses fun c hc => hpassive c (routeCall_passive hc))) fun _ =>
    verify_uses (fun _ c hc => hpassive c (probeCall_passive hc))
      (fun c hc => hpassive c (routeCall_passive hc)) hrun

end NouvaAgent.AppRollout
