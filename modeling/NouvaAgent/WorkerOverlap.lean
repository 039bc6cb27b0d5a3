import NouvaAgent.WorkerOverlapEvidence

namespace NouvaAgent

open Text Interaction Agent Method WorkerShutdown WorkerVolume WorkerRollout

namespace WorkerRestore

variable {restore : WorkerRestore} {S : AgentCall → Prop}

/-- A container is started again only if the rollout tried to stop it. -/
theorem restorePreviousWorkerRuntime_uses (hlooks : ∀ c, Looks c → S c)
    (hpolicy : ∀ nameOrId, S (.request (.updateContainerRestartPolicy nameOrId "unless-stopped")))
    (hstart : ∀ container ∈ restore.previousContainers, (restore.outcomeOf container).isSome →
      S (.request (.startContainer (getContainerIdentifier container)))) :
    restore.restorePreviousWorkerRuntime.Uses S := by
  have hreview (container : DockerContainerInspection) : (restore.review container).Confined S
      fun start => start = true → (restore.outcomeOf container).isSome = true := by
    unfold review
    split
    · exact confined_pure (fun h => nomatch h)
    · have hlook : (request (.inspectContainer (getContainerIdentifier container)) :
          AgentMethod WorkerRestoreLocals _).Uses S := uses_request (hlooks _ trivial)
      refine confined_bind hlook.confined fun found _ => ?_
      cases found with
      | none =>
        exact confined_bind (uses_assign _).confined fun _ _ => confined_pure (fun h => nomatch h)
      | some current =>
        dsimp only
        split
        · refine confined_bind (Uses.confined ?_) fun _ _ => confined_pure (fun h => nomatch h)
          refine uses_bind ?_ fun _ => uses_assign _
          unfold restorePolicy
          split
          · exact uses_pure ()
          · exact uses_request (hpolicy _)
        · exact confined_pure id
  have hreviews (containers : List DockerContainerInspection) :
      (restore.reviewAll containers).Confined S fun toStart => ∀ container ∈ toStart,
        container ∈ containers ∧ (restore.outcomeOf container).isSome = true := by
    induction containers with
    | nil => exact confined_pure (by simp)
    | cons container rest ih =>
      refine confined_bind (hreview container) fun start hsome => confined_bind ih fun toStart hrest => ?_
      refine confined_pure fun other hother => ?_
      split at hother
      · next hyes =>
        obtain rfl | hother := List.mem_cons.mp hother
        · exact ⟨List.mem_cons_self, hsome hyes⟩
        · exact ⟨List.mem_cons_of_mem _ (hrest other hother).1, (hrest other hother).2⟩
      · exact ⟨List.mem_cons_of_mem _ (hrest other hother).1, (hrest other hother).2⟩
  have hstarts : restore.startStopped.Uses S := by
    refine fun s => (confined_bind (hreviews _) (R := fun _ => True) fun toStart heach =>
      Uses.confined (uses_forEach fun container hm => ?_)) s |>.mono (fun _ h => h) fun _ _ => trivial
    refine uses_bind uses_locals fun _ => uses_bind (assertVolumeUnused_framed hlooks).uses fun _ => ?_
    refine uses_bind (uses_request (hpolicy _)) fun _ => ?_
    refine uses_bind (uses_request (hstart _ (heach _ hm).1 (heach _ hm).2)) fun _ => ?_
    refine uses_bind (uses_assign _) fun _ => ?_
    refine uses_bind (uses_settle (waitForWorkerReadiness_framed hlooks).uses) fun r => ?_
    cases r with
    | ok _ => exact uses_assign _
    | error _ => exact uses_pure ()
  have hruns (s : WorkerRestoreLocals) : (restore.hasRestarted s).Uses S := by
    unfold hasRestarted
    split
    · exact uses_pure _
    · refine uses_bind (uses_lift (uses_allSettled fun p hp => ?_)) fun _ => uses_pure _
      obtain ⟨replica, -, rfl⟩ := List.mem_map.mp hp
      exact (waitForWorkerReadiness_framed hlooks).uses
  refine uses_withLocals (uses_bind (uses_tryCatch hstarts fun _ => uses_assign _) fun _ => ?_)
  exact uses_bind uses_locals fun s => uses_bind (hruns s) fun _ => uses_pure _

end WorkerRestore

namespace WorkerDeployment

variable (d : WorkerDeployment)

/-- No candidate is left: what an interrupted attempt left in their slots is gone, and of those that
this attempt started each has been discarded. -/
def CandidatesGone (r : PlannedWorkerRollout) (h : AgentHistory) : Prop :=
  (∀ container ∈ r.pick r.candidateNames, Gone container h) ∧
    ∀ name ∈ r.candidateNames, (∀ e ∈ h, ¬ Ensures name e.call) ∨ Discarded name h

/-- What must hold when a candidate is started, and when a container is started that is not the
agent's own task. -/
def NeverOverlaps (e : AgentEvent) (before : AgentHistory) : Prop :=
  (∀ spec replace pull, e.call = .request (.ensureContainer spec replace pull) →
    ∃ r prepared, prepared <:+ before ∧ Ran d.prepareWorkerRollout prepared (.ok r) ∧
      (∃ candidate ∈ r.candidates, spec = candidate.spec ∧ spec.name = candidate.containerName) ∧
      (r.plan.isStopFirst = true ∨ d.payload.volume.isSome = true →
        d.OthersStopped r prepared before)) ∧
  ∀ identifier, e.call = .request (.startContainer identifier) →
    (∀ spec, (⟨.request (.createContainer spec), some (.ok identifier)⟩ : AgentEvent) ∉ before) →
    ∃ r prepared, prepared <:+ before ∧ Ran d.prepareWorkerRollout prepared (.ok r) ∧
      identifier ∈ r.previousContainers.map getContainerIdentifier ∧ CandidatesGone r before

def Inert : AgentCall → Prop
  | .request r => match r with
    | .ensureContainer _ _ _ | .startContainer _ => False
    | _ => True
  | _ => True

def Minor (e : AgentEvent) (before : AgentHistory) : Prop :=
  (∀ spec replace pull, e.call ≠ .request (.ensureContainer spec replace pull)) ∧
    ∀ identifier, e.call = .request (.startContainer identifier) →
      ∃ spec, (⟨.request (.createContainer spec), some (.ok identifier)⟩ : AgentEvent) ∈ before

def Kept (J : AgentHistory → Prop) : Prop := ∀ e h, Minor e h → J h → J (e :: h)

def Stable (P : AgentHistory → Prop) : Prop :=
  ∀ e h, (∀ spec replace pull, e.call ≠ .request (.ensureContainer spec replace pull)) →
    P h → P (e :: h)

structure Sound (prepared : AgentHistory) (P : AgentHistory → Prop) (h : AgentHistory) : Prop where
  along : Along d.NeverOverlaps h
  prepared : prepared <:+ h
  holds : P h

def Unstarted (h : AgentHistory) : Prop := ∀ e ∈ h, ∀ name, ¬ Ensures name e.call

def SlotsCleared (r : PlannedWorkerRollout) (h : AgentHistory) : Prop :=
  ∀ container ∈ r.pick r.candidateNames, Gone container h

/-- Once the stop of a previous container was reported, no candidate is left. -/
def MayHandBack (r : PlannedWorkerRollout) (s : WorkerRolloutLocals) (h : AgentHistory) : Prop :=
  (∃ container ∈ r.previousContainers, ∃ report ∈ s.shutdowns,
    report.containerName = getContainerName container) → CandidatesGone r h

structure Underway (r : PlannedWorkerRollout) (prepared : AgentHistory) (s : WorkerRolloutLocals)
    (h : AgentHistory) : Prop where
  sound : d.Sound prepared (fun h => r.plan.isStopFirst = true → SlotsCleared r h) h
  adopted : r.plan.isStopFirst = true → s.adoptedLiveReplicas = []

def MayStart (r : PlannedWorkerRollout) (prepared h : AgentHistory) : Prop :=
  r.candidates ≠ [] → r.plan.isStopFirst = true ∨ d.payload.volume.isSome = true →
    d.OthersStopped r prepared h

variable {d} {r : PlannedWorkerRollout} {J P : AgentHistory → Prop} {prepared h seg : AgentHistory}
  {e : AgentEvent} {σ α : Type} {container : DockerContainerInspection}

theorem minor_of_inert (he : Inert e.call) : Minor e h := by
  constructor
  · rintro spec replace pull hc
    rw [hc] at he
    exact he
  · rintro identifier hc
    rw [hc] at he
    exact he.elim

theorem neverOverlaps_of_minor (he : Minor e h) : d.NeverOverlaps e h := by
  refine ⟨fun spec replace pull hc => absurd hc (he.1 spec replace pull), fun identifier hc hnew => ?_⟩
  obtain ⟨spec, hm⟩ := he.2 identifier hc
  exact absurd hm (hnew spec)

theorem kept_along : Kept (Along d.NeverOverlaps) :=
  fun _ _ he h => ⟨neverOverlaps_of_minor he, h⟩

theorem Stable.kept (hP : Stable P) : Kept (d.Sound prepared P) := fun e h he hs =>
  ⟨⟨neverOverlaps_of_minor he, hs.along⟩, hs.prepared.trans (List.suffix_cons e h),
    hP e h he.1 hs.holds⟩

theorem inert_wp {p : AgentMethod σ α} {s : σ} (hp : p.Uses Inert) (hJ : Kept J) (hj : J h) :
    p.wp recording (Post.always J) s h :=
  hp.wp_assuming (fun e h hc hj => hJ e h (minor_of_inert hc) hj) hj

theorem looks_inert {c : AgentCall} (hc : Looks c) : Inert c := by
  cases c with
  | request r => cases r <;> first | exact hc.elim | trivial
  | _ => trivial

theorem stops_inert {stop : WorkerStop} {c : AgentCall} (hc : Stops stop c) : Inert c := by
  cases c with
  | request r => cases r <;> first | exact hc.elim | trivial
  | _ => trivial

theorem stopAllGracefully_inert {containers : List DockerContainerInspection}
    {roleOf : DockerContainerInspection → WorkerShutdownRole} :
    (d.stopAllGracefully containers roleOf).Uses Inert :=
  stopAllGracefully_uses trivial fun _ _ _ => stops_inert

theorem runWorkerVolumeTask_wp {spec : DockerContainerSpec} {s : σ} (hJ : Kept J) (hj : J h) :
    (runWorkerVolumeTask spec).wp recording (Post.always J) s h := by
  have request_any {r : Request} (hr : Inert (.request r)) {h : AgentHistory} (hj : J h)
      {f : r.Result → AgentMethod σ Unit} {s : σ}
      (hf : ∀ a, J (⟨.request r, some (.ok a)⟩ :: h) →
        (f a).wp recording (Post.always J) s (⟨.request r, some (.ok a)⟩ :: h)) :
      (Method.bind (request r) f).wp recording (Post.always J) s h := by
    have hnext : ∀ answer, J (⟨.request r, answer⟩ :: h) := fun answer =>
      hJ _ _ (minor_of_inert hr) hj
    exact (wp_bind _ _).mpr ((wp_request_assuming _).mpr
      ⟨fun _ => hnext _, fun _ _ => hnext _, fun a _ => hf a (hnext _)⟩)
  refine request_any (r := .pullImage spec.image) trivial hj fun _ hj => ?_
  refine request_any (r := .removeContainer spec.name true none) trivial hj fun _ hj => ?_
  refine request_any (r := .createContainer spec) trivial hj fun id hj => ?_
  have hstart : ∀ answer, J (⟨.request (.startContainer id), answer⟩ ::
      ⟨.request (.createContainer spec), some (.ok id)⟩ :: _) := fun answer => by
    refine hJ _ _ ⟨fun _ _ _ => by simp, fun identifier hc => ⟨spec, ?_⟩⟩ hj
    obtain rfl : id = identifier := by simpa using hc
    exact List.mem_cons_self
  have hremove {h : AgentHistory} {s : σ} (hj : J h) :
      (request (.removeContainer id true none) : AgentMethod σ Unit).wp recording
        (Post.always J) s h := inert_wp (uses_request trivial) hJ hj
  refine (wp_finally _ _).mpr ((wp_bind _ _).mpr ((wp_request_assuming _).mpr
    ⟨fun _ => hstart _, fun _ _ => hremove (hstart _), fun _ _ => ?_⟩))
  refine wp_mono (inert_wp (J := J) ?_ hJ (hstart _)) (fun _ _ _ hj => hremove hj)
    (fun _ _ _ hj => hremove hj) fun _ hj => hj
  refine uses_bind (uses_request trivial) fun status => ?_
  split
  · exact uses_pure ()
  · exact uses_bind (uses_settle (uses_request trivial)) fun _ => uses_throw _

theorem snapshotVolume_wp {s : σ} (hJ : Kept J) (hj : J h) :
    (d.snapshotVolume : AgentMethod σ _).wp recording (Post.always J) s h := by
  unfold snapshotVolume
  split
  · exact hj
  · next volume _ =>
    have hunused : (assertVolumeUnused (some volume) [] : AgentMethod σ Unit).Uses Inert :=
      (assertVolumeUnused_framed fun _ => looks_inert).uses
    refine wp_bind_of (R := fun _ _ => J) (inert_wp hunused hJ hj) fun _ s h hj => ?_
    refine wp_bind_of (R := fun _ _ => J) ?_ fun _ _ _ hj => hj
    refine wp_bind_of (R := fun _ _ => J) (inert_wp (uses_request trivial) hJ hj) fun _ s h hj => ?_
    exact wp_bind_of (R := fun _ _ => J) (runWorkerVolumeTask_wp hJ hj) fun _ _ _ hj => hj

theorem restoreVolume_wp {snapshotName : Option String} {s : σ} (hJ : Kept J) (hj : J h) :
    (d.restoreVolume snapshotName : AgentMethod σ _).wp recording (Post.always J) s h := by
  unfold restoreVolume
  split
  · next volume _ =>
    have hunused : (assertVolumeUnused (some volume) [] : AgentMethod σ Unit).Uses Inert :=
      (assertVolumeUnused_framed fun _ => looks_inert).uses
    refine wp_bind_of (R := fun _ _ => J) (inert_wp hunused hJ hj) fun _ s h hj => ?_
    exact wp_bind_of (R := fun _ _ => J) (runWorkerVolumeTask_wp hJ hj) fun _ _ _ hj => hj
  · exact hj

theorem deleteSnapshot_wp {snapshotName : String} {s : σ} (hJ : Kept J) (hj : J h) :
    (deleteWorkerVolumeSnapshotBestEffort d snapshotName : AgentMethod σ Unit).wp recording
      (Post.always J) s h :=
  wp_bind_of (R := fun _ _ => J) ((wp_settle _).mpr (runWorkerVolumeTask_wp hJ hj))
    fun _ _ _ hj => hj

theorem disposeSnapshot_wp {snapshotName : Option String} {volumeRestored : Bool} {s : σ}
    (hJ : Kept J) (hj : J h) : (d.disposeSnapshot snapshotName volumeRestored :
      AgentMethod σ _).wp recording (Post.always J) s h := by
  unfold disposeSnapshot
  split
  · exact hj
  · split
    · exact wp_bind_of (R := fun _ _ => J) (deleteSnapshot_wp hJ hj) fun _ _ _ hj => hj
    · refine wp_bind_of (R := fun _ _ => J) (inert_wp (uses_now trivial) hJ hj) fun _ s h hj => ?_
      refine wp_bind_of (R := fun _ _ => J) ?_ fun _ _ _ hj => hj
      refine wp_bind_of (R := fun _ _ => J) ((wp_settle _).mpr (runWorkerVolumeTask_wp hJ hj)) ?_
      rintro (_ | _) _ _ hj <;> exact hj

theorem not_ensures (he : ∀ spec replace pull, e.call ≠
    .request (.ensureContainer spec replace pull)) (name : String) : ¬ Ensures name e.call :=
  fun ⟨spec, replace, pull, hc, _⟩ => he spec replace pull hc

theorem unstarted_stable : Stable Unstarted := fun _ _ he hu =>
  List.forall_mem_cons.mpr ⟨not_ensures he, hu⟩

theorem SlotsCleared.cons (hs : SlotsCleared r h) : SlotsCleared r (e :: h) := fun container hm => by
  simpa using (hs container hm).within [e] []

theorem candidatesGone_stable : Stable (CandidatesGone r) := by
  rintro e h he ⟨hslots, hgone⟩
  refine ⟨SlotsCleared.cons hslots, fun name hname => (hgone name hname).imp (fun hnone => ?_) ?_⟩
  · exact List.forall_mem_cons.mpr ⟨not_ensures he name, hnone⟩
  · rintro ⟨later, before, rfl, hcleared, hlater⟩
    exact ⟨e :: later, before, rfl, by simpa using hcleared.within [e] [],
      List.forall_mem_cons.mpr ⟨not_ensures he name, hlater⟩⟩

theorem candidatesGone_of_unstarted (hu : Unstarted h) (hs : SlotsCleared r h) :
    CandidatesGone r h := ⟨hs, fun name _ => .inl fun e he => hu e he name⟩

theorem mayHandBack_stable {s : WorkerRolloutLocals} : Stable (MayHandBack r s) :=
  fun e h he hm hreported => candidatesGone_stable e h he (hm hreported)

theorem restorePrevious_wp {s : WorkerRolloutLocals}
    (hran : Ran d.prepareWorkerRollout prepared (.ok r))
    (hs : d.Sound prepared (MayHandBack r s) h) :
    (d.restorePrevious r).wp recording (Post.always (Along d.NeverOverlaps)) s h := by
  let S (c : AgentCall) : Prop := Inert c ∨ ∃ container ∈ r.previousContainers,
    (∃ report ∈ s.shutdowns, report.containerName = getContainerName container) ∧
      c = .request (.startContainer (getContainerIdentifier container))
  have huses : (WorkerRestore.restorePreviousWorkerRuntime
      { previousContainers := r.previousContainers, shutdowns := s.shutdowns
        isRecordedLive := d.isRecordedLive, volume := d.payload.volume
        restartsBeforeStop := s.restartsBeforeStop, fuel := d.fuel }).Uses S := by
    refine WorkerRestore.restorePreviousWorkerRuntime_uses (fun _ hc => .inl (looks_inert hc))
      (fun _ => .inl trivial) fun container hm houtcome => .inr ⟨container, hm, ?_, rfl⟩
    obtain ⟨outcome, hfound⟩ := Option.isSome_iff_exists.mp houtcome
    obtain ⟨report, hreport, -⟩ := Option.map_eq_some_iff.mp hfound
    exact ⟨report, List.mem_reverse.mp (List.mem_of_find?_eq_some hreport),
      by simpa using List.find?_some hreport⟩
  have hkeeps : ∀ e h, S e.call → d.Sound prepared (MayHandBack r s) h →
      d.Sound prepared (MayHandBack r s) (e :: h) := by
    rintro e h (hinert | ⟨container, hm, hreported, hc⟩) hs
    · exact mayHandBack_stable.kept e h (minor_of_inert hinert) hs
    · refine ⟨⟨⟨fun spec replace pull he => ?_, fun identifier he hnew => ?_⟩, hs.along⟩,
        hs.prepared.trans (List.suffix_cons e h), mayHandBack_stable e h ?_ hs.holds⟩
      · rw [hc] at he
        cases he
      · rw [hc] at he
        cases he
        exact ⟨r, prepared, hs.prepared, hran, List.mem_map_of_mem hm,
          hs.holds ⟨container, hm, hreported⟩⟩
      · intro spec replace pull he
        rw [hc] at he
        cases he
  refine wp_bind_of (R := fun t s' h' => t = s ∧ s' = s ∧ h' = h) ⟨rfl, rfl, rfl⟩ ?_
  rintro _ _ _ ⟨rfl, rfl, rfl⟩
  refine (wp_lift _).mpr (wp_mono (huses.wp_assuming hkeeps hs) ?_ ?_ ?_)
  · exact fun _ _ _ hs => hs.along
  · exact fun _ _ _ hs => hs.along
  · exact fun _ hs => hs.along

theorem Sound.mono {Q : AgentHistory → Prop} (hs : d.Sound prepared P h) (hq : P h → Q h) :
    d.Sound prepared Q h := ⟨hs.along, hs.prepared, hq hs.holds⟩

theorem stopAllGracefully_throws {containers : List DockerContainerInspection}
    {roleOf : DockerContainerInspection → WorkerShutdownRole} :
    (d.stopAllGracefully containers roleOf).Throws fun _ => False := by
  have hreports (startedAt : ℤ)
      (settled : List (DockerContainerInspection × Except Failure WorkerShutdownReport)) :
      (d.settledReports roleOf startedAt settled :
        AgentMethod WorkerRolloutLocals _).Throws fun _ => False := by
    induction settled with
    | nil => exact throws_pure _
    | cons entry rest ih =>
      obtain ⟨container, result⟩ := entry
      cases result with
      | ok own => exact throws_bind ih fun _ => throws_pure _
      | error error => exact throws_bind (throws_ask _) fun _ => throws_bind ih fun _ => throws_pure _
  refine throws_bind (throws_ask _) fun _ => throws_bind (throws_lift throws_allSettled) fun _ => ?_
  exact throws_bind (hreports _ _) fun _ => throws_bind (throws_assign _) fun _ => throws_pure _

theorem resetStaleCandidates_wp {s : WorkerRolloutLocals}
    (hplanned : r = d.planRollout r.image r.candidates r.containers)
    (hplan : r.plan.isStopFirst = true) (hempty : s.shutdowns = [])
    (hs : d.Sound prepared Unstarted h) : (d.resetStaleCandidates r).wp recording
      ⟨fun _ _ => d.Sound prepared fun h => Unstarted h ∧ SlotsCleared r h,
        fun _ s' h' => d.Sound prepared Unstarted h' ∧
          ∀ report ∈ s'.shutdowns, report.containerName ∈ r.candidateNames,
        Along d.NeverOverlaps⟩ s h := by
  have hkept : Kept (d.Sound prepared Unstarted) := unstarted_stable.kept
  have hslots : ∀ container ∈ r.pick r.candidateNames,
      container ∈ r.pick r.plan.resetCandidates := by
    intro container hm
    obtain ⟨name, hname, hfind⟩ := List.mem_filterMap.mp hm
    obtain ⟨hkept, -⟩ := of_mem_pick hm
    obtain rfl : getContainerName container = name := by simpa using List.find?_some hfind
    exact List.mem_filterMap.mpr ⟨_, (plan_stopFirst hplanned hplan _).1.mpr
      ⟨hname, List.mem_map_of_mem hkept⟩, hfind⟩
  refine wp_bind_of (R := fun _ s' h' => d.Sound prepared Unstarted h' ∧
    ∀ report ∈ s'.shutdowns, report.containerName ∈ r.candidateNames) ?_ ?_
  · refine wp_mono (wp_and (inert_wp stopAllGracefully_inert hkept hs)
      (wp_and (wp_returns _ s h) stopAllGracefully_throws.wp)) ?_ ?_ ?_
    · rintro reports s' _ ⟨hs, ⟨seg, rfl, hreturns⟩, -⟩
      obtain ⟨attempts, hstops, -, hshutdowns, hreports, -⟩ := stopAllGracefully_returns hreturns
      refine ⟨hs, fun report hm => ?_⟩
      rw [hshutdowns, hempty, List.nil_append] at hm
      obtain ⟨i, hi, rfl⟩ := List.mem_iff_getElem.mp hm
      have hattempt : i < attempts.length := hreports.length_eq ▸ hi
      have hname : reports[i].containerName = attempts[i].1.containerName :=
        (hreports.get hattempt hi).1
      have hstop : attempts[i].1 ∈ (r.pick r.plan.resetCandidates).map
          (d.stopOf fun _ => .candidate) := hstops ▸ List.mem_map_of_mem (List.getElem_mem hattempt)
      obtain ⟨stale, hstale, hsame⟩ := List.mem_map.mp hstop
      rw [hname, ← hsame]
      exact ((plan_stopFirst hplanned hplan _).1.mp (of_mem_pick hstale).2).1
    · exact fun _ _ _ hfalse => hfalse.2.2.elim
    · exact fun _ hs => hs.1.along
  · rintro reports s h ⟨hs, hnames⟩
    have hframed : (Method.bind (failUnstopped (reports.find? mayStillRun) "Worker "
        " from an interrupted rollout ") fun _ => Method.bind (Method.forEach
          (r.pick r.plan.resetCandidates) fun candidate =>
            request (.removeContainer (getContainerIdentifier candidate) false none)) fun _ =>
              assertContainersAbsent ((r.pick r.plan.resetCandidates).map getContainerIdentifier) :
        AgentMethod WorkerRolloutLocals Unit).Framed Inert :=
      framed_bind failUnstopped_framed fun _ => framed_bind (removals_framed fun _ => trivial) fun _ =>
        assertContainersAbsent_framed fun _ _ => trivial
    refine wp_mono (wp_and (hframed.wp (J := d.Sound prepared Unstarted) ?_ hs) (wp_returns _ s h))
      ?_ ?_ ?_
    · rintro h c answer _ hc ⟨rfl, -⟩ hs
      exact hkept _ _ (minor_of_inert hc) hs
    · rintro _ s' _ ⟨⟨-, hs⟩, seg, rfl, hreturns⟩
      obtain ⟨_, _, _, _, rfl, -, h₁⟩ := hreturns.of_bind
      obtain ⟨_, _, _, _, rfl, hremove, habsent⟩ := h₁.of_bind
      refine hs.mono fun hu => ⟨hu, fun container hm => ?_⟩
      have hgone := removals_gone hremove habsent container (hslots container hm)
      simpa using hgone.within [] _
    · rintro _ _ _ ⟨⟨rfl, hs⟩, -⟩
      exact ⟨hs, hnames⟩
    · exact fun _ hs => hs.1.along

theorem stopPrevious_wp {s : WorkerRolloutLocals}
    (hplanned : r = d.planRollout r.image r.candidates r.containers)
    (hplan : r.plan.isStopFirst = true) (hempty : s.shutdowns = [])
    (hs : d.Sound prepared Unstarted h) : (d.stopPrevious r).wp recording
      ⟨fun _ _ => d.Sound prepared (SlotsCleared r),
        fun _ s' => d.Sound prepared (MayHandBack r s'), Along d.NeverOverlaps⟩ s h := by
  let P (h : AgentHistory) : Prop := Unstarted h ∧ SlotsCleared r h
  have hkept : Kept (d.Sound prepared P) := Stable.kept fun e h he hp =>
    ⟨unstarted_stable e h he hp.1, hp.2.cons⟩
  have hhand {s' : WorkerRolloutLocals} {h : AgentHistory} (hs : d.Sound prepared P h) :
      d.Sound prepared (MayHandBack r s') h :=
    hs.mono fun hp _ => candidatesGone_of_unstarted hp.1 hp.2
  have hrest : (Method.bind (assertVolumeUnused d.payload.volume
      (r.previousContainers.map getContainerName)) fun _ => Method.bind
        (readRestartLoopsBeforeStop r.previousContainers) fun restarts => Method.bind
          (Method.assign fun s => { s with restartsBeforeStop := restarts }) fun _ => Method.bind
            (d.stopAllGracefully r.previousContainers d.retiredRole) fun reports => Method.bind
              (failUnstoppedPrevious (reports.find? mayStillRun)) fun _ =>
                assertContainersStopped r.previousContainers :
      AgentMethod WorkerRolloutLocals Unit).Uses Inert :=
    uses_bind (assertVolumeUnused_framed fun _ => looks_inert).uses fun _ =>
      uses_bind (readRestartLoopsBeforeStop_framed trivial (fun _ _ _ => trivial)
        fun _ _ => trivial).uses fun _ => uses_bind (uses_assign _) fun _ =>
          uses_bind stopAllGracefully_inert fun _ => uses_bind failUnstoppedPrevious_framed.uses
            fun _ => (assertContainersStopped_framed fun _ _ => trivial).uses
  have hothers : (d.stopOthers r).wp recording ⟨fun _ _ => d.Sound prepared P,
      fun _ s' => d.Sound prepared (MayHandBack r s'), Along d.NeverOverlaps⟩ s h := by
    refine (wp_bind _ _).mpr (wp_mono (resetStaleCandidates_wp hplanned hplan hempty hs) ?_ ?_ ?_)
    · exact fun _ s h hs => wp_mono (inert_wp hrest hkept hs) (fun _ _ _ hs => hs)
        (fun _ _ _ hs => hhand hs) fun _ hs => hs.along
    · rintro _ s h ⟨hs, hnames⟩
      refine hs.mono fun _ hreported => ?_
      obtain ⟨container, hm, report, hreport, hsame⟩ := hreported
      have hnot := (plan_stopFirst hplanned hplan _).2.1 (of_mem_pick hm).2
      exact absurd (hsame ▸ hnames report hreport) hnot
    · exact fun _ hs => hs
  refine wp_bind_of (R := fun _ _ => d.Sound prepared P) hothers fun _ s h hs => ?_
  exact wp_mono (snapshotVolume_wp hkept hs) (fun _ _ _ hs => hs.mono And.right)
    (fun _ _ _ hs => hhand hs) fun _ hs => hs.along

theorem abortBeforeStart_wp {s : WorkerRolloutLocals} {error : Failure}
    (hran : Ran d.prepareWorkerRollout prepared (.ok r))
    (hs : d.Sound prepared (MayHandBack r s) h) :
    (d.abortBeforeStart r error).wp recording (Post.always (Along d.NeverOverlaps)) s h :=
  wp_bind_of (R := fun _ _ => Along d.NeverOverlaps) (restorePrevious_wp hran hs) fun _ _ _ h => h

theorem slots_stable :
    Stable fun h => r.plan.isStopFirst = true → SlotsCleared r h := fun _ _ _ hs hplan => (hs hplan).cons

theorem OthersStopped.append {later : AgentHistory} (ho : d.OthersStopped r prepared h)
    (hlater : ∀ container, (∀ name ∈ r.candidateNames, ¬ container.Named name) →
      Untold container later) : d.OthersStopped r prepared (later ++ h) :=
  fun answer hlisting hnodup container hm hother =>
    (hlater container hother).lastTold (ho answer hlisting hnodup container hm hother)

theorem startCandidate_wp {s : WorkerRolloutLocals} {candidate : WorkerCandidate}
    (hran : Ran d.prepareWorkerRollout prepared (.ok r)) (hmem : candidate ∈ r.candidates)
    (hspec : candidate.spec.name = candidate.containerName) (hu : d.Underway r prepared s h)
    (hm : d.MayStart r prepared h) : (startCandidate candidate).wp recording
      ⟨fun _ s' h' => d.Underway r prepared s' h' ∧ d.MayStart r prepared h',
        fun _ => d.Underway r prepared, Along d.NeverOverlaps⟩ s h := by
  have hne : r.candidates ≠ [] := List.ne_nil_of_mem hmem
  have hname (container : DockerContainerInspection)
      (hother : ∀ name ∈ r.candidateNames, ¬ container.Named name) :
      candidate.containerName ≠ getContainerIdentifier container := fun hsame =>
    hother _ (List.mem_map_of_mem hmem) (hsame ▸ named_identifier container)
  have hframed : (prepareCandidateSlot candidate.containerName :
      AgentMethod WorkerRolloutLocals Bool).Framed Inert :=
    prepareCandidateSlot_framed (fun _ => trivial) (fun _ => trivial) fun _ => trivial
  have hslot := hframed.wp (M := recording) (s := s)
    (fun h c answer _ hc ⟨hh, _⟩ hs => hh ▸ slots_stable.kept _ h (minor_of_inert hc) hs) hu.sound
  refine wp_bind_of (R := fun _ s' h' => d.Underway r prepared s' h' ∧ d.MayStart r prepared h')
    (wp_mono (wp_and hslot (wp_returns _ s h)) ?_ ?_ ?_) ?_
  · rintro kept _ _ ⟨⟨rfl, hs⟩, seg, rfl, hreturns⟩
    exact ⟨⟨hs, hu.adopted⟩, fun hne halone => (hm hne halone).append fun container hother =>
      prepareCandidateSlot_untold (hname container hother) hreturns⟩
  · rintro _ _ _ ⟨⟨rfl, hs⟩, -⟩
    exact ⟨hs, hu.adopted⟩
  · exact fun _ hs => hs.1.along
  rintro kept s h ⟨hu, hm⟩
  refine (wp_bind _ _).mpr ((wp_assign _).mpr ?_)
  have hnext : ∀ answer, d.Sound prepared (fun h => r.plan.isStopFirst = true → SlotsCleared r h)
      (⟨.request (.ensureContainer candidate.spec false false), answer⟩ :: h) := fun answer => by
    refine ⟨⟨⟨fun spec replace pull hc => ?_, fun identifier hc => by simp at hc⟩, hu.sound.along⟩,
      hu.sound.prepared.trans (List.suffix_cons _ h), fun hplan => (hu.sound.holds hplan).cons⟩
    obtain rfl : candidate.spec = spec := by simp_all
    exact ⟨r, prepared, hu.sound.prepared, hran, ⟨candidate, hmem, rfl, hspec⟩, hm hne⟩
  have hadopted (hplan : r.plan.isStopFirst = true) (f : DockerContainerInspection → Bool) :
      s.adoptedLiveReplicas.filter f = [] := by
    rw [hu.adopted hplan]
    rfl
  refine (wp_bind _ _).mpr ((wp_request_assuming _).mpr ⟨fun _ => (hnext _).along,
    fun _ _ => ⟨hnext _, fun hplan => hadopted hplan _⟩, fun id _ => ?_⟩)
  refine ⟨⟨hnext _, fun hplan => hadopted hplan _⟩, fun hne halone => ?_⟩
  show d.OthersStopped r prepared
    ([⟨.request (.ensureContainer candidate.spec false false), some (.ok id)⟩] ++ h)
  refine (hm hne halone).append fun container _ => untold_of_spares fun e he => ?_
  obtain rfl := List.mem_singleton.mp he
  trivial

theorem startCandidates_wp {s : WorkerRolloutLocals}
    (hran : Ran d.prepareWorkerRollout prepared (.ok r))
    (hspecs : ∀ candidate ∈ r.candidates, candidate.spec.name = candidate.containerName)
    (hu : d.Underway r prepared s h) (hm : d.MayStart r prepared h) :
    (d.startCandidates r).wp recording ⟨fun _ _ => Along d.NeverOverlaps,
      fun _ => d.Underway r prepared, Along d.NeverOverlaps⟩ s h := by
  refine wp_bind_of (R := fun _ s' h' => d.Underway r prepared s' h' ∧ d.MayStart r prepared h')
    (wp_forEach_locals (fun candidate hmem s h hu =>
      startCandidate_wp hran hmem (hspecs candidate hmem) hu.1 hu.2) ⟨hu, hm⟩) ?_
  rintro _ s h ⟨hu, -⟩
  have hframed : (Method.forEach r.candidates d.awaitCandidate).Framed Inert :=
    framed_forEach fun _ _ => framed_bind framed_locals fun _ =>
      waitForWorkerReadiness_framed fun _ => looks_inert
  refine wp_mono (hframed.wp (M := recording) (s := s) (fun h c answer _ hc ⟨hh, _⟩ hs =>
    hh ▸ slots_stable.kept _ h (minor_of_inert hc) hs) hu.sound) ?_ ?_ ?_
  · exact fun _ _ _ hs => hs.2.along
  · rintro _ _ _ ⟨rfl, hs⟩
    exact ⟨hs, hu.adopted⟩
  · exact fun _ hs => hs.along

theorem discardFailedCandidates_inert {names : List String} :
    (d.discardFailedCandidates names).Uses Inert := by
  have hfind (names : List String) :
      (findContainers names : AgentMethod WorkerRolloutLocals _).Uses Inert := by
    induction names with
    | nil => exact uses_pure _
    | cons name names ih =>
      exact uses_bind (uses_request trivial) fun _ => uses_bind ih fun _ => uses_pure _
  have hremove (stopped : List (DockerContainerInspection × WorkerShutdownReport)) :
      (removeStoppedCandidates stopped : AgentMethod WorkerRolloutLocals Bool).Uses Inert := by
    induction stopped with
    | nil => exact uses_pure _
    | cons entry rest ih =>
      unfold removeStoppedCandidates
      split
      · exact uses_bind ih fun _ => uses_pure _
      · exact uses_bind (uses_request trivial) fun _ => ih
  have hforce (names : List String) :
      (forceRemoveCandidates names : AgentMethod WorkerRolloutLocals Bool).Uses Inert := by
    induction names with
    | nil => exact uses_pure _
    | cons name names ih =>
      refine uses_bind (uses_settle (uses_bind (uses_request trivial) fun found => ?_)) fun _ =>
        uses_bind ih fun _ => uses_pure _
      cases found with
      | none => exact uses_pure ()
      | some _ => exact uses_request trivial
  exact uses_tryCatch (uses_bind (hfind _) fun _ => uses_bind stopAllGracefully_inert fun _ =>
    hremove _) fun _ => hforce _

theorem undo_wp {s : WorkerRolloutLocals} {snapshotName : Option String} {candidatesStopped : Bool}
    (hran : Ran d.prepareWorkerRollout prepared (.ok r)) (hs : d.Sound prepared (fun h =>
      candidatesStopped = true → CandidatesGone r h) h) :
    (d.undo r snapshotName candidatesStopped).wp recording
      (Post.always (Along d.NeverOverlaps)) s h := by
  unfold undo
  split
  · next hstopped =>
    have hs : d.Sound prepared (CandidatesGone r) h := hs.mono fun hgone => hgone hstopped
    refine wp_bind_of (R := fun _ _ => d.Sound prepared (CandidatesGone r))
      ((wp_settle _).mpr (wp_mono (restoreVolume_wp candidatesGone_stable.kept hs)
        (fun _ _ _ hs => hs) (fun _ _ _ hs => hs) fun _ hs => hs.along)) ?_
    rintro (_ | volumeRestored) s h hs
    · exact hs.along
    · refine wp_bind_of (R := fun _ _ => Along d.NeverOverlaps) ((wp_settle _).mpr
        (restorePrevious_wp hran (hs.mono fun hgone _ => hgone))) ?_
      rintro (_ | _) _ _ h <;> exact h
  · exact hs.along

theorem recover_wp {s : WorkerRolloutLocals} {snapshotName : Option String}
    {candidatesStopped : Bool} {untouched : List DockerContainerInspection}
    (hran : Ran d.prepareWorkerRollout prepared (.ok r)) (hs : d.Sound prepared (fun h =>
      r.plan.isStopFirst = true → candidatesStopped = true → CandidatesGone r h) h) :
    (d.recover r snapshotName candidatesStopped untouched).wp recording
      (Post.always (Along d.NeverOverlaps)) s h := by
  unfold recover
  split
  · next hplan =>
    refine wp_bind_of (R := fun _ _ => Along d.NeverOverlaps)
      (undo_wp hran (hs.mono fun hgone => hgone hplan)) fun _ s h hh => ?_
    exact wp_bind_of (R := fun _ _ => Along d.NeverOverlaps) (disposeSnapshot_wp kept_along hh)
      fun _ _ _ hh => hh
  · refine inert_wp (uses_bind ?_ fun _ => uses_pure _) kept_along hs.along
    refine uses_bind (uses_lift (uses_allSettled fun p hp => ?_)) fun _ => uses_pure _
    obtain ⟨replica, -, rfl⟩ := List.mem_map.mp hp
    exact (waitForWorkerReadiness_framed fun _ => looks_inert).uses

theorem failRollout_wp {s : WorkerRolloutLocals} {snapshotName : Option String} {error : Failure}
    (hran : Ran d.prepareWorkerRollout prepared (.ok r)) (hu : d.Underway r prepared s h) :
    (d.failRollout r snapshotName error).wp recording
      (Post.always (Along d.NeverOverlaps)) s h := by
  let names := r.candidateNames.filter fun name => !isAdopted s name
  have hnames (hplan : r.plan.isStopFirst = true) : names = r.candidateNames := by
    refine List.filter_eq_self.mpr fun name _ => ?_
    simp [isAdopted, hu.adopted hplan]
  have hdiscard : (d.discardFailedCandidates names).wp recording
      ⟨fun candidatesStopped _ => d.Sound prepared fun h => r.plan.isStopFirst = true →
        candidatesStopped = true → CandidatesGone r h, fun _ _ => Along d.NeverOverlaps,
        Along d.NeverOverlaps⟩ s h := by
    refine wp_mono (wp_and (inert_wp discardFailedCandidates_inert slots_stable.kept hu.sound)
      (wp_returns _ s h)) ?_ (fun _ _ _ hs => hs.1.along) fun _ hs => hs.1.along
    rintro candidatesStopped _ _ ⟨hs, seg, rfl, hreturns⟩
    refine hs.mono fun hslots hplan hstopped => ⟨hslots hplan, fun name hname => .inr ?_⟩
    subst hstopped
    refine ⟨seg, h, rfl, discardFailedCandidates_returns hreturns name (hnames hplan ▸ hname), ?_⟩
    exact fun e he => not_ensures (minor_of_inert (h := [])
      (hreturns.calls discardFailedCandidates_inert e he)).1 name
  refine wp_bind_of (R := fun t s' h' => t = s ∧ s' = s ∧ h' = h) ⟨rfl, rfl, rfl⟩ ?_
  rintro _ _ _ ⟨rfl, rfl, rfl⟩
  refine wp_bind_of hdiscard fun candidatesStopped s h hs => ?_
  refine wp_bind_of (R := fun _ _ => Along d.NeverOverlaps) (recover_wp hran hs) fun _ s h hh => ?_
  refine inert_wp (uses_bind ?_ fun _ => uses_bind uses_locals fun _ => uses_pure _) kept_along hh
  unfold removeFailedImage
  split
  · exact uses_bind (uses_settle (uses_request trivial)) fun _ => uses_pure ()
  · exact uses_pure ()

theorem cutOver_wp {s : WorkerRolloutLocals} {snapshotName : Option String}
    (hran : Ran d.prepareWorkerRollout prepared (.ok r))
    (hspecs : ∀ candidate ∈ r.candidates, candidate.spec.name = candidate.containerName)
    (hs : d.Sound prepared (fun h => r.plan.isStopFirst = true → SlotsCleared r h) h)
    (hm : d.MayStart r prepared h) :
    (d.cutOver r snapshotName).wp recording (Post.always (Along d.NeverOverlaps)) s h := by
  refine (wp_bind _ _).mpr ((wp_assign _).mpr ((wp_bind _ _).mpr ((wp_settle _).mpr ?_)))
  refine wp_mono (startCandidates_wp hran hspecs ⟨hs, fun hplan => if_pos hplan⟩ hm)
    (fun _ _ _ hh => hh) (fun error s h hu => ?_) fun _ hh => hh
  exact wp_bind_of (R := fun _ _ => Along d.NeverOverlaps) (failRollout_wp hran hu)
    fun _ _ _ hh => hh

theorem reachCutover_wp (hprepare : d.prepareWorkerRollout.Returns () prepared r ())
    (hs : d.Sound prepared Unstarted prepared) :
    (d.reachCutover r).wp recording (Post.always (Along d.NeverOverlaps)) {} prepared := by
  have hplanned := (prepareWorkerRollout_parts hprepare).2.2.1
  have hspecs : ∀ candidate ∈ r.candidates, candidate.spec.name = candidate.containerName :=
    fun candidate hm => ((buildWorkerContainerSpecs_each
      (prepareWorkerRollout_parts hprepare).2.1).2 candidate hm).1
  unfold reachCutover
  split
  · next hplan =>
    refine wp_bind_of (R := fun stopped s h => match stopped with
      | .ok _ => d.Sound prepared (SlotsCleared r) h ∧ d.OthersStopped r prepared h
      | .error _ => d.Sound prepared (MayHandBack r s) h) ((wp_settle _).mpr
        (wp_mono (wp_and (stopPrevious_wp hplanned hplan rfl hs) (wp_returns _ _ prepared)) ?_
          (fun _ _ _ hs => hs.1) fun _ hs => hs.1)) ?_
    · rintro snapshot _ _ ⟨hs, seg, rfl, hreturns⟩
      exact ⟨hs, othersStopped_stopped hprepare hplan hreturns⟩
    · rintro (error | snapshot) s h hs
      · exact wp_bind_of (R := fun _ _ => Along d.NeverOverlaps)
          (abortBeforeStart_wp hprepare.ran hs) fun _ _ _ hh => hh
      · exact cutOver_wp hprepare.ran hspecs (hs.1.mono fun hslots _ => hslots) fun _ _ => hs.2
  · next hplan =>
    have hplan : r.plan.isStopFirst = false := Bool.not_eq_true _ ▸ hplan
    refine cutOver_wp hprepare.ran hspecs (hs.mono fun _ h => by simp [hplan] at h)
      fun hne halone => ?_
    rw [hplan] at halone
    exact othersStopped_prepared hprepare hplan (halone.resolve_left (by simp)) hne

theorem commitRollout_wp {s : WorkerRolloutLocals} {snapshotName : Option String}
    (hh : Along d.NeverOverlaps h) :
    (d.commitRollout r snapshotName).wp recording (Post.always (Along d.NeverOverlaps)) s h := by
  have hretire {container : DockerContainerInspection} :
      (removeRetired container : AgentMethod WorkerRolloutLocals Unit).Uses Inert :=
    uses_bind (uses_settle (uses_request trivial)) fun _ => uses_pure ()
  refine wp_bind_of (R := fun _ _ => Along d.NeverOverlaps)
    (inert_wp stopAllGracefully_inert kept_along hh) fun reports s h hh => ?_
  refine wp_bind_of (R := fun _ _ => Along d.NeverOverlaps)
    (inert_wp (uses_forEach fun retired _ => ?_) kept_along hh) fun _ s h hh => ?_
  · unfold removeRetiredUnlessRunning
    split
    · exact uses_pure ()
    · exact hretire
  refine wp_bind_of (R := fun _ _ => Along d.NeverOverlaps)
    (inert_wp (uses_forEach fun _ _ => hretire) kept_along hh) fun _ s h hh => ?_
  refine wp_bind_of (R := fun _ _ => Along d.NeverOverlaps) ?_ fun _ s h hh => ?_
  · unfold cleanUpSnapshot
    split
    · exact hh
    · exact deleteSnapshot_wp kept_along hh
  · refine inert_wp (uses_bind ?_ fun _ => uses_bind uses_locals fun _ => uses_pure _) kept_along hh
    unfold removeRetiredImage
    split
    · exact uses_pure ()
    · exact uses_bind (uses_settle (uses_request trivial)) fun _ => uses_pure ()

theorem prepareWorkerRollout_inert : d.prepareWorkerRollout.Uses Inert := by
  refine uses_bind (uses_ofExcept _) fun _ => uses_bind (uses_ofExcept _) fun _ => ?_
  refine uses_bind (uses_request trivial) fun _ => uses_bind ?_ fun _ => ?_
  · unfold createWorkerVolume
    split
    · exact uses_pure ()
    · exact uses_request trivial
  refine uses_bind ?_ fun image => uses_bind (uses_ofExcept _) fun candidates => ?_
  · unfold rolloutImage
    split
    · exact uses_bind (d.environment.ensureWorkerImage_uses _ trivial trivial) fun _ => uses_pure _
    · exact uses_request trivial
  refine uses_bind (uses_bind (uses_request trivial) fun _ => uses_pure _) fun listed => ?_
  refine uses_bind (removals_framed fun _ => trivial).uses fun _ => ?_
  refine uses_bind (assertContainersAbsent_framed fun _ _ => trivial).uses fun _ => ?_
  exact uses_bind (assertVolumeUnused_framed fun _ => looks_inert).uses fun _ => uses_pure _

theorem deployWorkerRuntime_wp : d.deployWorkerRuntime.wp recording
    (Post.always (Along d.NeverOverlaps)) () [] := by
  let J (h : AgentHistory) : Prop := Along d.NeverOverlaps h ∧ Unstarted h
  have hkept : Kept J := fun e h he hj =>
    ⟨⟨neverOverlaps_of_minor he, hj.1⟩, unstarted_stable e h he.1 hj.2⟩
  have hprepare : d.prepareWorkerRollout.wp recording ⟨fun r _ h => J h ∧
      d.prepareWorkerRollout.Returns () h r (), fun _ _ => Along d.NeverOverlaps,
      Along d.NeverOverlaps⟩ () [] := by
    refine wp_mono (wp_and (inert_wp prepareWorkerRollout_inert hkept ⟨trivial, by simp [Unstarted]⟩)
      (wp_returns _ () [])) ?_ (fun _ _ _ hj => hj.1.1) fun _ hj => hj.1.1
    rintro r _ _ ⟨hj, seg, rfl, hreturns⟩
    exact ⟨hj, by simpa using hreturns⟩
  refine wp_bind_of hprepare fun r _ h hh => (wp_withLocals _ _).mpr ?_
  obtain ⟨⟨halong, hunstarted⟩, hreturns⟩ := hh
  refine wp_bind_of (R := fun _ _ => Along d.NeverOverlaps)
    (reachCutover_wp hreturns ⟨halong, List.suffix_refl h, hunstarted⟩) ?_
  rintro (failed | snapshotName) s h hh
  · exact hh
  · exact wp_bind_of (R := fun _ _ => Along d.NeverOverlaps) (commitRollout_wp hh)
      fun _ _ _ hh => hh

/-- Whatever Docker answers, and however the rollout ends: a candidate is started by a rollout that
stops first, or with a volume, only when every other container of the service was last seen absent or
stopped, after its stop where it was stopped; and a previous container is started again only when no
candidate is left. -/
theorem deployWorkerRuntime_never_overlaps (env : AgentEnvironment) (d : WorkerDeployment)
    (later before : AgentHistory) (e : AgentEvent)
    (hrun : ((d.deployWorkerRuntime ()).run env []).2 = later ++ e :: before) :
    d.NeverOverlaps e before := by
  have halong : Along d.NeverOverlaps ((d.deployWorkerRuntime ()).run env []).2 :=
    always_run deployWorkerRuntime_wp (along_iff.mpr fun _ _ _ _ => trivial)
  exact along_iff.mp halong later e before hrun

def nextOnVolume : WorkerDeployment :=
  { nextVersion with payload := { nextVersion.payload with volume := some ⟨"id", "volume", "/data"⟩ } }

def nextCandidates : List WorkerCandidate :=
  (buildWorkerContainerSpecs nextOnVolume.environment nextOnVolume.payload none 1 0).toOption.getD []

def unstartable : AgentEnvironment := answering fun h r => match r with
  | .listContainersByLabels _ => .ok [healthyWorker true "old"]
  | .ensureContainer _ _ _ => .error ⟨true, "no space left on device", none⟩
  | r => .ok (wellAnswer (fun name => some (healthyWorker
      (!h.any fun e => e.call = .request (.killContainer name "SIGTERM")) name)) (.run 1) r)

theorem deployWorkerRuntime_never_overlaps_restored :
    (∃ later e before, ((nextOnVolume.deployWorkerRuntime ()).run unstartable []).2 =
        later ++ e :: before ∧
      (∃ spec, e.call = .request (.ensureContainer spec false false)) ∧
        nextOnVolume.NeverOverlaps e before) ∧
    ∃ later e before, ((nextOnVolume.deployWorkerRuntime ()).run unstartable []).2 =
        later ++ e :: before ∧
      e.call = .request (.startContainer "old") ∧ nextOnVolume.NeverOverlaps e before := by
  constructor
  · have hany : (((nextOnVolume.deployWorkerRuntime ()).run unstartable []).2.any fun e =>
        nextCandidates.any fun candidate =>
          decide (e.call = .request (.ensureContainer candidate.spec false false))) = true := by
      decide +kernel
    obtain ⟨e, hm, hstarts⟩ := List.any_eq_true.mp hany
    obtain ⟨candidate, -, he⟩ := List.any_eq_true.mp hstarts
    obtain ⟨later, before, hrun⟩ := List.append_of_mem hm
    exact ⟨later, e, before, hrun, ⟨candidate.spec, of_decide_eq_true he⟩,
      deployWorkerRuntime_never_overlaps unstartable nextOnVolume later before e hrun⟩
  · have hany : (((nextOnVolume.deployWorkerRuntime ()).run unstartable []).2.any fun e =>
        decide (e.call = .request (.startContainer "old"))) = true := by decide +kernel
    obtain ⟨e, hm, he⟩ := List.any_eq_true.mp hany
    obtain ⟨later, before, hrun⟩ := List.append_of_mem hm
    exact ⟨later, e, before, hrun, of_decide_eq_true he,
      deployWorkerRuntime_never_overlaps unstartable nextOnVolume later before e hrun⟩

end WorkerDeployment

end NouvaAgent
