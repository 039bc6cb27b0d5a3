import NouvaAgent.AppRolloutCalls
import NouvaAgent.AgentHistory

namespace NouvaAgent.AppRollout

open Text Interaction Agent Method AppDeployment

variable {σ α β : Type} {d : AppDeployment} {F : AgentEvent → AgentHistory → Prop}

def Handles (name : String) : AgentCall → Prop
  | .request r => match r with
    | .startContainer n | .stopContainer n _ _ | .killContainer n _ | .removeContainer n _ _ =>
      n = name
    | .createContainer spec | .ensureContainer spec _ _ => spec.name = name
    | _ => False
  | _ => False

/-- A probe found that `name` can serve, and it was left alone since. -/
def Serves (d : AppDeployment) (name : String) (h : AgentHistory) : Prop :=
  ∃ later seg before port stop, h = later ++ (seg ++ before) ∧
    Ran (d.previousAppRuntimeCanServe name port stop) seg (.ok true) ∧
    ∀ e ∈ later, ¬ Handles name e.call

/-- Where an error says that the live runtime was preserved, the container it names serves. -/
def Truthful (d : AppDeployment) (error : Failure) (h : AgentHistory) : Prop :=
  ∀ rollout, error.rollout = some rollout → rollout.liveRuntimePreserved = true →
    ∃ active, rollout.activeContainerName = some active ∧ Serves d active h

def Silent (error : Failure) : Prop :=
  ∀ rollout, error.rollout = some rollout → rollout.liveRuntimePreserved = false

def Candid (d : AppDeployment) (p : AgentMethod σ α) : Prop :=
  ∀ s h, p.wp (assuming F) ⟨fun _ _ _ => True, fun e _ h => Truthful d e h, fun _ => True⟩ s h

theorem Serves.cons {name : String} {e : AgentEvent} {h : AgentHistory}
    (he : ¬ Handles name e.call) (hs : Serves d name h) : Serves d name (e :: h) := by
  obtain ⟨later, seg, before, port, stop, rfl, hran, hleft⟩ := hs
  refine ⟨e :: later, seg, before, port, stop, rfl, hran, ?_⟩
  rw [List.forall_mem_cons]
  exact ⟨he, hleft⟩

theorem Silent.truthful {error : Failure} {h : AgentHistory} (hs : Silent error) :
    Truthful d error h := by
  intro rollout hr hlive
  rw [hs rollout hr] at hlive
  cases hlive

theorem plain_silent : Plain Silent := ⟨fun _ _ h => (nomatch h), fun _ _ h => (nomatch h)⟩

theorem candid_throws {p : AgentMethod σ α} (hp : p.Throws Silent) : Candid (F := F) d p :=
  fun _ _ => wp_mono hp.wp (fun _ _ _ h => h) (fun _ _ _ h => h.truthful) fun _ h => h

theorem candid_bind {p : AgentMethod σ β} {f : β → AgentMethod σ α} (hp : Candid (F := F) d p)
    (hf : ∀ b, Candid (F := F) d (f b)) : Candid (F := F) d (Method.bind p f) := fun s h =>
  wp_bind_of (R := fun _ _ _ => True) (hp s h) fun b s h _ => hf b s h

theorem candid_tryCatch {p : AgentMethod σ α} {f : Failure → AgentMethod σ α}
    (hf : ∀ e, Candid (F := F) d (f e)) : Candid (F := F) d (Method.tryCatch p f) := fun s h =>
  (wp_tryCatch _ _).mpr (wp_mono (wp_true p s h) (fun _ _ _ h => h) (fun e s h _ => hf e s h)
    fun _ h => h)

theorem candid_lift {p : AgentAction α} (hp : Candid (F := F) d p) :
    Candid (F := F) d (Method.lift p : AgentMethod σ α) := fun _ h => (wp_lift p).mpr (hp () h)

theorem canServe_wp {name : String} {port : ℤ} {stop : Option AppContainerStop}
    (h : AgentHistory) : (d.previousAppRuntimeCanServe name port stop).wp (assuming F)
      ⟨fun serves _ h => serves = true → Serves d name h, fun _ _ _ => False, fun _ => True⟩ () h := by
  have hthrows : (d.previousAppRuntimeCanServe name port stop).Throws fun _ => False :=
    previousAppRuntimeCanServe_throws
  refine wp_mono (wp_and (wp_ran _ () h) hthrows.wp) ?_ (fun _ _ _ h => h.2) fun _ _ => trivial
  rintro serves _ h' ⟨⟨seg, rfl, hran⟩, _⟩ rfl
  exact ⟨[], seg, h, port, stop, rfl, hran, fun _ he => nomatch he⟩

variable {r : AppRollout}

theorem passive_unhandled {name : String} {c : AgentCall} (hc : Passive c) :
    ¬ Handles name c := by
  cases c with
  | request q => cases q <;> first | exact hc.elim | exact id
  | now => exact id
  | sleep ms => exact id

theorem serves_keeps {name : String} (h : AgentHistory) (c : AgentCall) (a : Option c.Answer)
    (h' : AgentHistory) (hc : ¬ Handles name c) (hm : assuming F h c a h') (hs : Serves d name h) :
    Serves d name h' := by
  obtain ⟨rfl, _⟩ := hm
  exact hs.cons hc

/-- The candidate an adopted rollout found is not the container recorded before it. -/
def Apart (r : AppRollout) : Prop := r.adoptedCandidate.isSome → r.previous ≠ some r.containerName

theorem removeRejectedImage_wp {name : String} {h : AgentHistory}
    (hs : Serves d name h) : r.removeRejectedImage.wp (assuming F)
      ⟨fun _ _ => Serves d name, fun _ _ _ => False, fun _ => True⟩ () h := by
  have huses : r.removeRejectedImage.Uses fun c => ¬ Handles name c :=
    removeRejectedImage_passive.mono fun _ => passive_unhandled
  have hthrows : r.removeRejectedImage.Throws fun _ => False := removeRejectedImage_throws
  exact wp_mono (wp_and (huses.wp serves_keeps hs) hthrows.wp) (fun _ _ _ h => h.1)
    (fun _ _ _ h => h.2) fun _ _ => trivial

theorem returnTrafficFromRejectedRelease_wp {previous serviceUrl : String} (hr : Apart r)
    (hp : r.previous = some previous) (h : AgentHistory) :
    (r.returnTrafficFromRejectedRelease previous serviceUrl).wp (assuming F)
      ⟨fun returned _ h => returned = true → Serves r.toAppDeployment previous h,
        fun _ _ _ => False, fun _ => True⟩ () h := by
  refine wp_bind_of (R := fun serves _ h => serves = true → Serves r.toAppDeployment previous h)
    (canServe_wp h) fun serves _ h hs => ?_
  split
  · next hserves =>
    have huses : (r.moveAppTraffic serviceUrl).Uses fun c => ¬ Handles previous c :=
      moveAppTraffic_uses fun _ hc => passive_unhandled (routeCall_passive hc)
    have hthrows : (r.moveAppTraffic serviceUrl).Throws fun _ => False := moveAppTraffic_throws
    refine wp_bind_of (R := fun _ _ => Serves r.toAppDeployment previous)
      (wp_mono (wp_and (huses.wp serves_keeps (hs hserves)) hthrows.wp) (fun _ _ _ h => h.1)
        (fun _ _ _ h => h.2) fun _ _ => trivial) fun moved _ h hs => ?_
    split
    · split
      · next hadopted =>
        have hapart : ¬ Handles previous (.request (.removeContainer r.containerName true none)) :=
          fun he => hr hadopted (hp.trans (congrArg some he.symm))
        refine wp_bind_of (R := fun _ _ => Serves r.toAppDeployment previous)
          ((wp_settle _).mpr ((wp_request_assuming _).mpr ⟨fun _ => trivial,
            fun _ _ => hs.cons hapart, fun _ _ => hs.cons hapart⟩)) fun _ _ h hs => ?_
        exact fun _ => hs
      · exact fun _ => hs
    · exact fun hf => nomatch hf
  · exact fun hf => nomatch hf

theorem previous_recorded {previous : String} (hp : r.previous = some previous) :
    r.previousContainer = some previous := (present_some hp).1

theorem finishRejectedRelease_candid (hr : Apart r) :
    Candid (F := F) r.toAppDeployment r.finishRejectedRelease := by
  intro s h
  unfold finishRejectedRelease
  split
  · next jobs previous serviceUrl _ hp _ =>
    split
    · refine wp_bind_of (R := fun returned _ h => returned = true →
        Serves r.toAppDeployment previous h) (wp_mono (returnTrafficFromRejectedRelease_wp hr hp h)
          (fun _ _ _ h => h) (fun _ _ _ h => h.elim) fun _ h => h) fun returned _ h hs => ?_
      split
      · next hreturned =>
        refine wp_bind_of (R := fun _ _ => Serves r.toAppDeployment previous)
          (wp_mono (removeRejectedImage_wp (hs hreturned)) (fun _ _ _ h => h)
            (fun _ _ _ h => h.elim) fun _ h => h) fun _ _ h hs => ?_
        rintro rollout hrollout _
        obtain rfl := Option.some.inj hrollout
        exact ⟨previous, previous_recorded hp, hs⟩
      · trivial
    · trivial
  · trivial

theorem haltTruthfully_wp {error : Failure} (he : (∃ message, error = .releaseJobDeferred message) ∨
    ∃ message, error = .releaseJobHalt message (r.haltedBeforeCutover r.activeContainerName.isSome))
    (h : AgentHistory) : (r.haltTruthfully error).wp (assuming F) ⟨fun _ _ _ => True,
      fun e _ h => Truthful r.toAppDeployment e h, fun _ => True⟩ () h := by
  have hsilent (message : String) (hidden : AppRolloutResult)
      (hl : hidden.liveRuntimePreserved = false) : Silent (.releaseJobHalt message hidden) := by
    intro rollout hr
    obtain rfl := Option.some.inj hr
    exact hl
  obtain ⟨message, rfl⟩ | ⟨message, rfl⟩ := he
  · intro rollout hr
    cases hr
  · cases hactive : r.activeContainerName with
    | none =>
      simp only [haltTruthfully, hactive]
      exact (hsilent message _ rfl).truthful
    | some active =>
      simp only [haltTruthfully, hactive]
      refine wp_bind_of (R := fun serves _ h => serves = true → Serves r.toAppDeployment active h)
        (wp_mono (canServe_wp h) (fun _ _ _ h => h) (fun _ _ _ h => h.elim) fun _ h => h)
        fun serves _ h hs => ?_
      split
      · next hserves =>
        rintro rollout hr _
        obtain rfl := Option.some.inj hr
        exact ⟨active, hactive, hs hserves⟩
      · exact (hsilent message _ rfl).truthful

theorem preActivate_candid : Candid (F := F) r.toAppDeployment r.preActivate := by
  intro s h
  unfold preActivate
  split
  · trivial
  · split
    · trivial
    · exact (wp_tryCatch _ _).mpr (wp_mono runPreActivation_throws.wp (fun _ _ _ h => h)
        (fun _ _ h he => haltTruthfully_wp he h) fun _ h => h)

theorem failedResult_truthful {message : String} {outcome : AppRolloutOutcome}
    {phase : AppRolloutPhase} {live completed : Bool} {h : AgentHistory}
    (hl : live = true → ∃ previous, r.previousContainer = some previous ∧
      Serves r.toAppDeployment previous h) : Truthful r.toAppDeployment
      (.appRollout message (r.failedResult outcome phase live completed r.previousContainer)) h := by
  intro rollout hr hlive
  obtain rfl := Option.some.inj hr
  exact hl hlive

theorem snapshotFailed_candid (volume : AppVolumeIdentity) (error : Failure) :
    Candid (F := F) r.toAppDeployment (r.snapshotFailed volume error) := by
  intro s h
  refine wp_bind_of (R := fun live _ h => live = true → ∃ previous,
    r.previousContainer = some previous ∧ Serves r.toAppDeployment previous h) ?_
    fun live s h hl => failedResult_truthful hl
  split
  · exact fun hf => nomatch hf
  · next previous hp =>
    refine wp_bind_of (R := fun result _ h => result = .ok true →
      Serves r.toAppDeployment previous h) ((wp_settle _).mpr ?_) fun result s h hs => ?_
    · have herr (e : Failure) (s : RolloutLocals) (h : AgentHistory) :
          (.error e : Except Failure Bool) = .ok true → Serves r.toAppDeployment previous h :=
        fun hf => nomatch hf
      refine wp_bind_any herr (fun _ => trivial) fun _ s h => ?_
      refine wp_bind_any herr (fun _ => trivial) fun _ s h => ?_
      refine wp_bind_any herr (fun _ => trivial) fun _ s h => ?_
      refine (wp_lift _).mpr (wp_mono (canServe_wp h) (fun serves _ h hs hok => ?_)
        (fun _ _ _ h => h.elim) fun _ h => h)
      exact hs (Except.ok.inj hok)
    · cases result with
      | ok serves => exact fun hserves => ⟨previous, previous_recorded hp, hs (by rw [hserves])⟩
      | error e => exact fun hf => nomatch hf

theorem prepareVolume_candid : Candid (F := F) r.toAppDeployment r.prepareVolume := by
  unfold prepareVolume
  split
  · next volume _ _ =>
    exact candid_bind (candid_throws (throws_request plain_silent.1)) fun _ =>
      candid_tryCatch (snapshotFailed_candid volume)
  · exact candid_throws (throws_pure ())

theorem restoreFailed_throws {α : Type} (error : Failure) :
    (r.restoreFailed error : AgentAction α).Throws Silent := by
  refine throws_throw fun rollout hr => ?_
  obtain rfl := Option.some.inj hr
  rfl

theorem restoreAfterCandidateFailure_throws : r.restoreAfterCandidateFailure.Throws Silent := by
  refine throws_bind throws_locals fun s => ?_
  split
  · exact throws_lift (throws_tryCatch restoreFailed_throws)
  · exact throws_pure ()

theorem restoreAfterCutoverFailure_throws : r.restoreAfterCutoverFailure.Throws Silent := by
  refine throws_bind throws_locals fun s => ?_
  split
  · exact throws_lift (throws_tryCatch restoreFailed_throws)
  · exact throws_pure ()

theorem candidateFailed_candid {error : Failure} (he : Silent error) :
    Candid (F := F) r.toAppDeployment (r.candidateFailed error) := by
  unfold candidateFailed
  split
  · exact candid_throws (throws_throw he)
  · refine candid_bind (candid_throws (throws_lift (discardCandidate_throws plain_silent)))
      fun _ => candid_bind (candid_throws restoreAfterCandidateFailure_throws) fun _ =>
        candid_bind (candid_throws (throws_lift removeRejectedImage_throws)) fun _ =>
          candid_bind (candid_throws throws_locals) fun stop => ?_
    intro s h
    refine wp_bind_of (R := fun live _ h => live = true → ∃ previous,
      r.previousContainer = some previous ∧ Serves r.toAppDeployment previous h) ?_
      fun live s h hl => failedResult_truthful hl
    refine (wp_lift _).mpr ?_
    split
    · next previous hp =>
      exact wp_mono (canServe_wp h) (fun serves _ h hs hserves => ⟨previous, hp, hs hserves⟩)
        (fun _ _ _ h => h.elim) fun _ h => h
    · exact fun hf => nomatch hf

theorem awaitCandidate_candid : Candid (F := F) r.toAppDeployment r.awaitCandidate := fun _ _ =>
  (wp_tryCatch _ _).mpr (wp_mono
    (throws_lift (waitForAppCandidateReadiness_throws plain_silent)).wp (fun _ _ _ h => h)
    (fun _ s h he => candidateFailed_candid he s h) fun _ h => h)

theorem cutoverFailed_candid {error : Failure} (he : Silent error) :
    Candid (F := F) r.toAppDeployment (r.cutoverFailed error) := by
  unfold cutoverFailed
  split
  · exact candid_throws (throws_throw he)
  · refine candid_bind (candid_throws (throws_lift (discardCandidate_throws plain_silent)))
      fun _ => candid_bind (candid_throws restoreAfterCutoverFailure_throws) fun _ =>
        candid_bind (candid_throws throws_settle) fun returned =>
          candid_bind (candid_throws throws_locals) fun stop => ?_
    intro s h
    refine wp_bind_of (R := fun live _ h => live = true → ∃ previous,
      r.previousContainer = some previous ∧ Serves r.toAppDeployment previous h) ?_
      fun live s h hl => ?_
    · refine (wp_lift _).mpr ?_
      split
      · next previous _ hp =>
        exact wp_mono (canServe_wp h)
          (fun serves _ h hs hserves => ⟨previous, previous_recorded hp, hs hserves⟩)
          (fun _ _ _ h => h.elim) fun _ h => h
      · exact fun hf => nomatch hf
    · refine wp_bind_of (R := fun _ _ h => live = true → ∃ previous,
        r.previousContainer = some previous ∧ Serves r.toAppDeployment previous h) ?_
        fun _ s h hl => failedResult_truthful hl
      refine (wp_lift _).mpr ?_
      cases live with
      | false =>
        have hthrows : r.removeRejectedImage.Throws fun _ => False := removeRejectedImage_throws
        refine wp_mono hthrows.wp (fun _ _ _ _ hf => ?_) (fun _ _ _ h => h.elim) fun _ h => h
        cases hf
      | true =>
        obtain ⟨previous, hp, hs⟩ := hl rfl
        exact wp_mono (removeRejectedImage_wp hs) (fun _ _ _ hs _ => ⟨previous, hp, hs⟩)
          (fun _ _ _ h => h.elim) fun _ h => h

theorem moveTraffic_candid : Candid (F := F) r.toAppDeployment r.moveTraffic := fun _ _ =>
  (wp_tryCatch _ _).mpr (wp_mono (cutOver_throws plain_silent).wp (fun _ _ _ h => h)
    (fun _ s h he => cutoverFailed_candid he s h) fun _ h => h)

theorem roll_candid (hr : Apart r) : Candid (F := F) r.toAppDeployment r.roll :=
  candid_bind (candid_lift (finishRejectedRelease_candid hr)) fun _ =>
    candid_bind (candid_lift preActivate_candid) fun _ =>
      candid_bind prepareVolume_candid fun _ =>
        candid_bind (candid_throws (throws_lift (startCandidate_throws plain_silent))) fun _ =>
          candid_bind awaitCandidate_candid fun _ =>
            candid_bind moveTraffic_candid fun _ => candid_throws commit_throws

theorem livePreviousContainer_confined {candidate : DockerContainerInspection} :
    (d.livePreviousContainer candidate).Confined (fun _ => True) (· ≠ some d.containerName) := by
  have hrecorded : (if d.recordedContainer = some d.containerName ∨
      d.recordedContainer = some candidate.id ∨ d.recordedContainer = some candidate.name then none
      else d.recordedContainer) ≠ some d.containerName := by
    split
    · exact (Option.some_ne_none _).symm
    · next hne => exact fun he => hne (.inl he)
  unfold livePreviousContainer
  dsimp only
  split
  · exact confined_pure hrecorded
  · refine confined_bind (confined_any _) fun found _ => confined_pure ?_
    split
    · exact hrecorded
    · exact (Option.some_ne_none _).symm

/-- The recorded container is only taken for granted where no container has the candidate's name. -/
theorem settleExistingCandidate_confined {existing : Option DockerContainerInspection} :
    (d.settleExistingCandidate existing).Confined (fun _ => True) fun found =>
      (existing = none → found = (d.recordedContainer, none)) ∧
        (existing.isSome → found.1 ≠ some d.containerName) := by
  cases existing with
  | none => exact confined_pure ⟨fun _ => rfl, fun hs => nomatch hs⟩
  | some candidate =>
    refine confined_bind (confined_any _) fun accepted _ => ?_
    split
    · refine confined_bind livePreviousContainer_confined fun previous hp => ?_
      split
      · exact confined_bind (confined_any _) fun _ _ =>
          confined_pure ⟨nofun, fun _ => hp⟩
      · exact confined_bind (confined_any _) fun _ _ => confined_bind (confined_any _) fun _ _ =>
          confined_bind (confined_any _) fun _ _ => confined_pure ⟨nofun, fun _ => hp⟩
    · exact confined_throw

theorem findRollout_wp (h : AgentHistory) : d.findRollout.wp (assuming F)
    ⟨fun r _ _ => r.toAppDeployment = d ∧ Apart r, fun _ _ _ => True, fun _ => True⟩ () h := by
  refine wp_bind_any (fun _ _ _ => trivial) (fun _ => trivial) fun resources _ h => ?_
  refine wp_bind_any (fun _ _ _ => trivial) (fun _ => trivial) fun containers _ h => ?_
  refine wp_bind_of settleExistingCandidate_confined.wp fun found _ h hf => ?_
  refine wp_bind_any (fun _ _ _ => trivial) (fun _ => trivial) fun image _ h => ?_
  refine ⟨rfl, fun hadopted hp => ?_⟩
  cases hexisting : containers.find? fun container =>
      withoutSlash container.name = d.containerName with
  | none =>
    rw [hf.1 hexisting] at hadopted
    exact nomatch hadopted
  | some candidate => exact hf.2 (by rw [hexisting]; rfl) (present_some hp).1

theorem deploy_candid : Candid (F := F) d d.deployAppImageWithDependencies := by
  have hnetwork : d.prepareNetwork.Throws Silent :=
    throws_bind (throws_request plain_silent.1) fun _ =>
      throws_bind (throws_request plain_silent.1) fun _ => throws_request plain_silent.1
  refine candid_bind (candid_lift (candid_throws hnetwork)) fun _ => ?_
  intro s h
  refine wp_bind_of (R := fun r _ _ => r.toAppDeployment = d ∧ Apart r) ((wp_lift _).mpr
    (wp_mono (wp_and (findRollout_wp h) (findRollout_throws plain_silent).wp)
      (fun _ _ _ h => h.1) (fun _ _ _ h => h.2.truthful) fun _ h => h.1)) fun r s h hr => ?_
  obtain ⟨rfl, hapart⟩ := hr
  exact roll_candid hapart s h

/-- A rollout that fails and says it preserved the live runtime names a container that a probe
found able to serve, and that it did not stop, start or remove after that. -/
theorem live_runtime_preserved_truthful (d : AppDeployment) (env : AgentEnvironment)
    {error : Failure} {rollout : AppRolloutResult} {s : RolloutLocals}
    (hend : ((d.deployAppImageWithDependencies {}).run env []).1 = .done (.error error, s))
    (hrollout : error.rollout = some rollout) (hlive : rollout.liveRuntimePreserved = true) :
    ∃ active, rollout.activeContainerName = some active ∧
      Serves d active ((d.deployAppImageWithDependencies {}).run env []).2 := by
  have hrun := Program.run_exec (F := fun _ _ => True) env (d.deployAppImageWithDependencies {}) []
    (along_iff.mpr fun _ _ _ _ => trivial)
  rw [hend] at hrun
  exact Program.wp_sound (deploy_candid {} []) hrun rollout hrollout hlive

def removes (name : String) : AgentEvent → Bool
  | ⟨.request (.removeContainer n _ _), some (.ok ())⟩ => n = name
  | _ => false

def unhealthyCandidate : AgentEnvironment :=
  answering fun h r => match r with
    | .fetchTraefikServices => .ok (.ok [⟨some "svc-service1@file", some "http://old-app:3000"⟩])
    | r => .ok (wellAnswer (fun name =>
        if name = "old-app" then some (sampleContainer name "healthy")
        else if h.any (removes name) then none
        else some (sampleContainer name "unhealthy")) (.skip 1) r)

def restoredOutcome : Outcome (Except Failure DeployAppImageResult × RolloutLocals) × AgentHistory :=
  ((sampleDeployment (some sampleVolume)).deployAppImageWithDependencies {}).run unhealthyCandidate []

def preserves : Outcome (Except Failure DeployAppImageResult × RolloutLocals) → Bool
  | .done (.error error, _) => error.rollout.any AppRolloutResult.liveRuntimePreserved
  | _ => false

/-- The previous container was stopped for the snapshot of its volume, which is restored before it
is started again. -/
theorem live_runtime_preserved_truthful_restored : ∃ error rollout s active,
    restoredOutcome.1 = .done (.error error, s) ∧ error.rollout = some rollout ∧
      rollout.liveRuntimePreserved = true ∧ rollout.activeContainerName = some active ∧
      Serves (sampleDeployment (some sampleVolume)) active restoredOutcome.2 := by
  have hpreserves : preserves restoredOutcome.1 = true := by decide +kernel
  cases hend : restoredOutcome.1 with
  | cut => exact nomatch hend ▸ hpreserves
  | done r =>
    obtain ⟨error | result, s⟩ := r
    · rw [hend] at hpreserves
      obtain ⟨rollout, hrollout, hlive⟩ := (Option.any_eq_true _ _).mp hpreserves
      obtain ⟨active, hactive, hserves⟩ := live_runtime_preserved_truthful
        (sampleDeployment (some sampleVolume)) unhealthyCandidate hend hrollout hlive
      exact ⟨error, rollout, s, active, rfl, hrollout, hlive, hactive, hserves⟩
    · exact nomatch hend ▸ hpreserves

end NouvaAgent.AppRollout
