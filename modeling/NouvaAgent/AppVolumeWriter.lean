import NouvaAgent.AgentHistory
import NouvaAgent.AppRolloutPreserved

namespace NouvaAgent.AppRollout

open Text Interaction Agent Method AppDeployment CandidateReadiness ReleaseJobs

variable {d : AppDeployment} {r : AppRollout} {F : AgentEvent → AgentHistory → Prop}
  {volume : AppVolumeIdentity}

def listed (volumeName : String) : AgentEvent → Option (List DockerContainerInspection)
  | ⟨.request (.listContainersUsingVolume name), some (.ok consumers)⟩ =>
    if name = volumeName then some consumers else none
  | _ => none

def Unused (volumeName : String) : AgentHistory → Prop
  | [] => False
  | e :: h => match listed volumeName e with
    | some consumers => ∀ container ∈ consumers, container.running = false
    | none => Unused volumeName h

/-- Every candidate started so far was removed after that, and then found absent. -/
def Gone (name : String) (h : AgentHistory) : Prop :=
  ∀ later spec replace pull answer before,
    h = later ++ ⟨.request (.ensureContainer spec replace pull), answer⟩ :: before →
      ∃ last middle first, later = last ++ ⟨.request (.inspectContainer name), some (.ok none)⟩ ::
        (middle ++ ⟨.request (.removeContainer name true none), some (.ok ())⟩ :: first)

/-- A start of the candidate, or of the container that served before: not of one of the containers
that this rollout makes for its tasks and jobs. -/
def StartsApp (d : AppDeployment) (c : AgentCall) (before : AgentHistory) : Prop :=
  match c with
  | .request (.ensureContainer _ _ _) => True
  | .request (.startContainer name) => d.recordedContainer = some name ∧
      (∀ spec, ⟨.request (.createContainer spec), some (.ok name)⟩ ∉ before) ∧
      ∀ phase attempt, name ≠
        buildReleaseJobContainerName d.payload.serviceId d.payload.deploymentId phase attempt
  | _ => False

def StartsAlone (d : AppDeployment) (volumeName : String) (e : AgentEvent) (before : AgentHistory) :
    Prop := StartsApp d e.call before → Unused volumeName before ∧ Gone d.containerName before

def Alone (d : AppDeployment) (volume : AppVolumeIdentity) : AgentHistory → Prop :=
  Along (StartsAlone d volume.volumeName)

def Vacant (d : AppDeployment) (volume : AppVolumeIdentity) (h : AgentHistory) : Prop :=
  Alone d volume h ∧ Gone d.containerName h

def Free (d : AppDeployment) (volume : AppVolumeIdentity) (h : AgentHistory) : Prop :=
  Vacant d volume h ∧ Unused volume.volumeName h

def Starting (d : AppDeployment) : AgentCall → Prop
  | .request r => match r with
    | .ensureContainer _ _ _ => True
    | .startContainer name => ∀ phase attempt, name ≠
        buildReleaseJobContainerName d.payload.serviceId d.payload.deploymentId phase attempt
    | _ => False
  | _ => False

theorem Alone.cons {e : AgentEvent} {h : AgentHistory} (ha : Alone d volume h)
    (he : ¬ StartsApp d e.call h) : Alone d volume (e :: h) :=
  ⟨fun hs => absurd hs he, ha⟩

theorem Gone.cons {name : String} {e : AgentEvent} {h : AgentHistory} (hg : Gone name h)
    (he : ∀ spec replace pull, e.call ≠ .request (.ensureContainer spec replace pull)) :
    Gone name (e :: h) := by
  intro later spec replace pull answer before hh
  cases later with
  | nil =>
    obtain ⟨rfl, _⟩ := List.cons.inj hh
    exact absurd rfl (he spec replace pull)
  | cons e' later =>
    obtain ⟨rfl, htail⟩ := List.cons.inj hh
    obtain ⟨last, middle, first, rfl⟩ := hg later spec replace pull answer before htail
    exact ⟨e :: last, middle, first, rfl⟩

theorem gone_of_absent {name : String} {h : AgentHistory} :
    Gone name (⟨.request (.inspectContainer name), some (.ok none)⟩ ::
      ⟨.request (.removeContainer name true none), some (.ok ())⟩ :: h) := by
  intro later spec replace pull answer before hh
  cases later with
  | nil => cases (List.cons.inj hh).1
  | cons e later =>
    have hremoved := List.cons.inj hh
    cases later with
    | nil => cases (List.cons.inj hremoved.2).1
    | cons e' later =>
      rw [← hremoved.1, ← (List.cons.inj hremoved.2).1]
      exact ⟨[], [], later, rfl⟩

theorem gone_nil {name : String} : Gone name [] := by
  intro later spec replace pull answer before hh
  simp at hh

theorem Unused.cons {volumeName : String} {e : AgentEvent} {h : AgentHistory}
    (hu : Unused volumeName h) (he : listed volumeName e = none) :
    Unused volumeName (e :: h) := by
  simpa only [Unused, he] using hu

theorem quiet_starts {c : AgentCall} {h : AgentHistory} (hc : ¬ Starting d c) :
    ¬ StartsApp d c h := by
  intro hs
  cases c with
  | request q =>
    cases q with
    | ensureContainer spec replace pull => exact hc trivial
    | startContainer name => exact hc hs.2.2
    | _ => exact hs.elim
  | now => exact hs.elim
  | sleep ms => exact hs.elim

theorem alone_keeps (h : AgentHistory) (c : AgentCall) (a : Option c.Answer) (h' : AgentHistory)
    (hc : ¬ Starting d c) (hm : assuming F h c a h') (ha : Alone d volume h) :
    Alone d volume h' := by
  obtain ⟨rfl, _⟩ := hm
  exact ha.cons (quiet_starts hc)

theorem vacant_keeps (h : AgentHistory) (c : AgentCall) (a : Option c.Answer) (h' : AgentHistory)
    (hc : ¬ Starting d c) (hm : assuming F h c a h') (hv : Vacant d volume h) :
    Vacant d volume h' := by
  obtain ⟨rfl, _⟩ := hm
  refine ⟨hv.1.cons (quiet_starts hc), hv.2.cons ?_⟩
  rintro spec replace pull rfl
  exact hc trivial

theorem taskCall_starts {spec : DockerContainerSpec} {c : AgentCall} {h : AgentHistory}
    (hc : TaskCall spec c h) : ¬ StartsApp d c h := by
  intro hs
  cases c with
  | request q =>
    cases q with
    | ensureContainer spec replace pull => exact hc
    | startContainer name => exact hs.2.1 spec hc
    | _ => exact hs.elim
  | now => exact hs.elim
  | sleep ms => exact hs.elim

theorem taskCall_ensures {spec : DockerContainerSpec} {c : AgentCall} {h : AgentHistory}
    (hc : TaskCall spec c h) (made : DockerContainerSpec) (replace pull : Bool) :
    c ≠ .request (.ensureContainer made replace pull) := by
  rintro rfl
  exact hc

theorem taskCall_lists {volumeName : String} {spec : DockerContainerSpec} {c : AgentCall}
    {a : Option c.Answer} {h : AgentHistory} (hc : TaskCall spec c h) :
    listed volumeName ⟨c, a⟩ = none := by
  cases c with
  | request q =>
    cases q with
    | listContainersUsingVolume name => exact False.elim hc
    | _ => rfl
  | now => rfl
  | sleep ms => rfl

theorem task_alone {spec : DockerContainerSpec} {h : AgentHistory} (ha : Alone d volume h) :
    (runTaskContainer spec).wp (assuming F) (Post.always (Alone d volume)) () h :=
  runTaskContainer_wp (fun _ _ _ hc ha => ha.cons (taskCall_starts hc)) ha

theorem task_free {spec : DockerContainerSpec} {h : AgentHistory} (hf : Free d volume h) :
    (runTaskContainer spec).wp (assuming F) (Post.always (Free d volume)) () h := by
  refine runTaskContainer_wp (fun c a h hc hf => ⟨⟨?_, ?_⟩, ?_⟩) hf
  · exact hf.1.1.cons (taskCall_starts hc)
  · exact hf.1.2.cons (taskCall_ensures hc)
  · exact hf.2.cons (taskCall_lists hc)

theorem passive_quiet {c : AgentCall} (hc : Passive c) : ¬ Starting d c := by
  cases c with
  | request q => cases q <;> first | exact hc.elim | exact id
  | now => exact id
  | sleep ms => exact id

theorem setupCall_quiet {c : AgentCall} (hc : SetupCall c) : ¬ Starting d c := by
  cases c with
  | request q => cases q <;> first | exact hc.elim | exact id
  | now => exact id
  | sleep ms => exact id

theorem runnerCall_quiet {phase : ReleasePhase} {c : AgentCall}
    (hc : RunnerCall r.releaseTarget phase c) : ¬ Starting r.toAppDeployment c := by
  rcases hc with hc | ⟨jobs, rfl⟩ | rfl | rfl
  · cases c with
    | request q =>
      cases q with
      | startContainer name =>
        obtain ⟨attempt, rfl⟩ := hc
        exact fun hs => hs phase attempt rfl
      | _ => first | exact hc.elim | exact id
    | now => exact id
    | sleep ms => exact id
  · exact id
  · exact id
  · exact id

theorem alone_uses {σ α : Type} {p : AgentMethod σ α} {s : σ} {h : AgentHistory}
    (hp : p.Uses fun c => ¬ Starting d c) (ha : Alone d volume h) :
    p.wp (assuming F) (Post.always (Alone d volume)) s h := hp.wp alone_keeps ha

theorem vacant_uses {σ α : Type} {p : AgentMethod σ α} {s : σ} {h : AgentHistory}
    (hp : p.Uses fun c => ¬ Starting d c) (hv : Vacant d volume h) :
    p.wp (assuming F) (Post.always (Vacant d volume)) s h := hp.wp vacant_keeps hv

theorem alone_passive {σ α : Type} {p : AgentMethod σ α} {s : σ} {h : AgentHistory}
    (hp : p.Uses Passive) (ha : Alone d volume h) :
    p.wp (assuming F) (Post.always (Alone d volume)) s h :=
  alone_uses (hp.mono fun _ => passive_quiet) ha

theorem assertUnused_wp {h : AgentHistory} (hv : Vacant d volume h) :
    (assertSingleRunningVolumeConsumer volume.volumeName none).wp (assuming F)
      ⟨fun _ _ => Free d volume, fun _ _ => Vacant d volume, Vacant d volume⟩ () h := by
  have keep (a : Option (Except CallError (List DockerContainerInspection))) :
      Vacant d volume (⟨.request (.listContainersUsingVolume volume.volumeName), a⟩ :: h) :=
    ⟨hv.1.cons id, hv.2.cons fun _ _ _ hc => nomatch hc⟩
  refine wp_bind_of (R := fun consumers _ h => Vacant d volume h ∧
    ((∀ container ∈ consumers, container.running = false) → Unused volume.volumeName h))
    ((wp_request_assuming _).mpr ⟨fun _ => keep _, fun _ _ => keep _,
      fun consumers _ => ⟨keep _, fun hnone => ?_⟩⟩) fun consumers _ h hv => ?_
  · simpa only [Unused, listed, if_pos] using hnone
  · split
    · next hsingle =>
      refine ⟨hv.1, hv.2 fun container hc => ?_⟩
      have hempty : consumers.filter (·.running) = [] := of_decide_eq_true hsingle
      exact Bool.eq_false_iff.mpr (List.filter_eq_nil_iff.mp hempty container hc)
    · exact hv.1

theorem restartPrevious_wp {previous : String} {h : AgentHistory}
    (hf : Free r.toAppDeployment volume h) : (r.restartPrevious previous).wp (assuming F)
      (Post.always (Alone r.toAppDeployment volume)) () h := by
  have start (a : Option (Except CallError Unit)) :
      Alone r.toAppDeployment volume (⟨.request (.startContainer previous), a⟩ :: h) :=
    ⟨fun _ => ⟨hf.2, hf.1.2⟩, hf.1.1⟩
  exact wp_bind_of (R := fun _ _ => Alone r.toAppDeployment volume)
    ((wp_request_assuming _).mpr ⟨fun _ => start _, fun _ _ => start _, fun _ _ => start _⟩)
    fun _ _ _ ha => alone_passive waits_passive ha

theorem restoreServiceWithoutSnapshot_wp {previous : String} {s : RolloutLocals}
    {h : AgentHistory} (hv : Vacant r.toAppDeployment volume h) :
    (r.restoreServiceWithoutSnapshot volume previous).wp (assuming F)
      (Post.always (Alone r.toAppDeployment volume)) s h := by
  refine wp_bind_of (R := fun _ _ => Free r.toAppDeployment volume) ((wp_lift _).mpr
    (wp_mono (assertUnused_wp hv) (fun _ _ _ h => h) (fun _ _ _ h => h.1) fun _ h => h.1))
    fun _ s h hf => ?_
  refine wp_bind_of (R := fun _ _ => Alone r.toAppDeployment volume) ((wp_lift _).mpr
    (restartPrevious_wp hf)) fun _ s h ha => alone_passive ?_ ha
  exact uses_bind (uses_lift routeToPrevious_passive) fun _ => uses_bind uses_locals fun _ =>
    uses_lift canServe_passive

theorem snapshotFailed_wp {error : Failure} {s : RolloutLocals} {h : AgentHistory}
    (hv : Vacant r.toAppDeployment volume h) : (r.snapshotFailed volume error).wp (assuming F)
      ⟨fun _ _ _ => False, fun _ _ => Alone r.toAppDeployment volume,
        Alone r.toAppDeployment volume⟩ s h := by
  refine wp_bind_of (R := fun _ _ => Alone r.toAppDeployment volume) ?_ fun _ s h ha => ha
  split
  · exact hv.1
  · refine wp_bind_of (R := fun _ _ => Alone r.toAppDeployment volume) ((wp_settle _).mpr
      (restoreServiceWithoutSnapshot_wp hv)) fun result s h ha => ?_
    cases result <;> exact ha

theorem quiesce_quiet : r.quiesce.Uses fun c => ¬ Starting r.toAppDeployment c := by
  unfold quiesce
  split
  · exact uses_pure ()
  · exact uses_bind (uses_lift (readAppContainerBeforeQuiesceStop_passive.mono
      fun _ => passive_quiet)) fun _ => uses_bind (uses_assign _) fun _ => uses_request id

theorem createAppVolumeSnapshot_wp {h : AgentHistory} (hf : Free d volume h) :
    (d.createAppVolumeSnapshot volume).wp (assuming F) (Post.always (Free d volume)) () h := by
  have keep (name : String) (a : Option (Except CallError Unit)) :
      Free d volume (⟨.request (.createVolume name []), a⟩ :: h) :=
    ⟨⟨hf.1.1.cons id, hf.1.2.cons fun _ _ _ hc => nomatch hc⟩, hf.2.cons rfl⟩
  refine wp_bind_of (R := fun _ _ h' => h' = h) ((wp_ofExcept _).mpr
    ⟨fun _ _ => rfl, fun _ _ => hf⟩) fun snapshotName _ _ hh => ?_
  subst hh
  refine wp_bind_of (R := fun _ _ => Free d volume) ((wp_request_assuming _).mpr
    ⟨fun _ => keep _ _, fun _ _ => keep _ _, fun _ _ => keep _ _⟩) fun _ _ h hf => ?_
  exact wp_bind_of (R := fun _ _ => Free d volume) (task_free hf) fun _ _ _ hf => hf

theorem prepareVolume_wp {s : RolloutLocals} {h : AgentHistory}
    (hvolume : r.payload.volume = some volume) (hnew : r.adoptedCandidate = none)
    (hv : Vacant r.toAppDeployment volume h) : r.prepareVolume.wp (assuming F)
      ⟨fun _ _ => Free r.toAppDeployment volume, fun _ _ => Alone r.toAppDeployment volume,
        Alone r.toAppDeployment volume⟩ s h := by
  unfold prepareVolume
  rw [hvolume, hnew]
  dsimp only
  refine wp_bind_of (R := fun _ _ => Vacant r.toAppDeployment volume) (wp_mono
    (vacant_uses (uses_request id) hv) (fun _ _ _ h => h) (fun _ _ _ h => h.1) fun _ h => h.1)
    fun _ s h hv => ?_
  refine (wp_tryCatch _ _).mpr (wp_mono (Q := ⟨fun _ _ => Free r.toAppDeployment volume,
    fun _ _ => Vacant r.toAppDeployment volume, Vacant r.toAppDeployment volume⟩) ?_
    (fun _ _ _ h => h) (fun _ s h hv => wp_mono (snapshotFailed_wp hv) (fun _ _ _ h => h.elim)
      (fun _ _ _ h => h) fun _ h => h) fun _ h => h.1)
  refine wp_bind_of (R := fun _ _ => Vacant r.toAppDeployment volume)
    (vacant_uses (uses_lift (assertSingleRunningVolumeConsumer_uses id)) hv) fun _ s h hv => ?_
  refine wp_bind_of (R := fun _ _ => Vacant r.toAppDeployment volume)
    (vacant_uses quiesce_quiet hv) fun _ s h hv => ?_
  refine wp_bind_of (R := fun _ _ => Free r.toAppDeployment volume)
    ((wp_lift _).mpr (assertUnused_wp hv)) fun _ s h hf => ?_
  refine wp_bind_of (R := fun _ _ => Free r.toAppDeployment volume) hf fun _ s h hf => ?_
  exact wp_bind_of (R := fun _ _ => Free r.toAppDeployment volume) ((wp_lift _).mpr
    (wp_mono (createAppVolumeSnapshot_wp hf) (fun _ _ _ h => h) (fun _ _ _ h => h.1)
      fun _ h => h.1)) fun _ s h hf => hf

theorem startCandidate_wp {h : AgentHistory} (hf : Free r.toAppDeployment volume h) :
    r.startCandidate.wp (assuming F) (Post.always (Alone r.toAppDeployment volume)) () h := by
  unfold startCandidate
  split
  · exact hf.1.1
  · have start (spec : DockerContainerSpec) (pull : Bool) (a : Option (Except CallError String)) :
        Alone r.toAppDeployment volume (⟨.request (.ensureContainer spec true pull), a⟩ :: h) :=
      ⟨fun _ => ⟨hf.2, hf.1.2⟩, hf.1.1⟩
    exact (wp_request_assuming _).mpr ⟨fun _ => start _ _ _, fun _ _ => start _ _ _,
      fun _ _ => start _ _ _⟩

theorem discardCandidate_wp {h : AgentHistory} (hvolume : r.payload.volume = some volume)
    (ha : Alone r.toAppDeployment volume h) : r.discardCandidate.wp (assuming F)
      ⟨fun _ _ => Vacant r.toAppDeployment volume, fun _ _ => Alone r.toAppDeployment volume,
        Alone r.toAppDeployment volume⟩ () h := by
  refine (wp_bind _ _).mpr ((wp_request_assuming _).mpr ⟨fun _ => ha.cons id,
    fun _ _ => ha.cons id, fun _ _ => ?_⟩)
  have hremoved : Alone r.toAppDeployment volume
      (⟨.request (.removeContainer r.containerName true none), some (.ok ())⟩ :: h) := ha.cons id
  rw [if_pos (by rw [hvolume]; rfl)]
  refine (wp_bind _ _).mpr ((wp_request_assuming _).mpr ⟨fun _ => hremoved.cons id,
    fun _ _ => hremoved.cons id, fun found _ => ?_⟩)
  cases found with
  | none => exact ⟨hremoved.cons id, gone_of_absent⟩
  | some _ => exact hremoved.cons id

theorem restoreVolume_wp {snapshotName : String} {h : AgentHistory}
    (hv : Vacant r.toAppDeployment volume h) :
    (r.restoreVolume volume snapshotName).wp (assuming F)
      ⟨fun _ _ => Free r.toAppDeployment volume, fun _ _ => Alone r.toAppDeployment volume,
        Alone r.toAppDeployment volume⟩ () h :=
  wp_bind_of (R := fun _ _ => Free r.toAppDeployment volume) (wp_mono (assertUnused_wp hv)
    (fun _ _ _ h => h) (fun _ _ _ h => h.1) fun _ h => h.1) fun _ _ _ hf => wp_mono
      (task_free hf) (fun _ _ _ h => h) (fun _ _ _ h => h.1.1) fun _ h => h.1.1

theorem deleteAppVolumeSnapshotBestEffort_wp {snapshotName : String} {h : AgentHistory}
    (ha : Alone d volume h) : (d.deleteAppVolumeSnapshotBestEffort snapshotName).wp (assuming F)
      (Post.always (Alone d volume)) () h :=
  wp_bind_of (R := fun _ _ => Alone d volume) ((wp_settle _).mpr (task_alone ha))
    fun _ _ _ ha => ha

theorem restoreService_wp {snapshotName : String} {h : AgentHistory}
    (hv : Vacant r.toAppDeployment volume h) : (r.restoreService volume snapshotName).wp
      (assuming F) (Post.always (Alone r.toAppDeployment volume)) () h := by
  refine wp_bind_of (R := fun _ _ => Free r.toAppDeployment volume) (restoreVolume_wp hv)
    fun _ _ h hf => ?_
  refine wp_bind_of (R := fun _ _ => Alone r.toAppDeployment volume) ?_
    fun _ _ h ha => deleteAppVolumeSnapshotBestEffort_wp ha
  split
  · exact wp_bind_of (R := fun _ _ => Alone r.toAppDeployment volume) (restartPrevious_wp hf)
      fun _ _ h ha => alone_passive routeToPrevious_passive ha
  · exact alone_passive routeAppServiceWithoutRuntime_passive hf.1.1

theorem restoreAfterCandidateFailure_wp {s : RolloutLocals} {h : AgentHistory}
    (hvolume : r.payload.volume = some volume) (hv : Vacant r.toAppDeployment volume h) :
    r.restoreAfterCandidateFailure.wp (assuming F)
      (Post.always (Alone r.toAppDeployment volume)) s h := by
  refine wp_bind_of (R := fun _ _ => Vacant r.toAppDeployment volume) hv fun s _ h hv => ?_
  split
  · next hv' _ =>
    obtain rfl := Option.some.inj (hvolume.symm.trans hv')
    exact (wp_lift _).mpr ((wp_tryCatch _ _).mpr (wp_mono (restoreService_wp hv)
      (fun _ _ _ h => h) (fun _ _ _ ha => ha) fun _ h => h))
  · exact hv.1

theorem restoreAfterCutoverFailure_wp {s : RolloutLocals} {h : AgentHistory}
    (hvolume : r.payload.volume = some volume) (hv : Vacant r.toAppDeployment volume h) :
    r.restoreAfterCutoverFailure.wp (assuming F)
      (Post.always (Alone r.toAppDeployment volume)) s h := by
  refine wp_bind_of (R := fun _ _ => Vacant r.toAppDeployment volume) hv fun s _ h hv => ?_
  split
  · next hv' _ =>
    obtain rfl := Option.some.inj (hvolume.symm.trans hv')
    refine (wp_lift _).mpr ((wp_tryCatch _ _).mpr (wp_mono (Q := Post.always
      (Alone r.toAppDeployment volume)) ?_ (fun _ _ _ h => h)
      (fun _ _ _ ha => ha) fun _ h => h))
    refine wp_bind_of (R := fun _ _ => Free r.toAppDeployment volume) (restoreVolume_wp hv)
      fun _ _ h hf => ?_
    split
    · exact restartPrevious_wp hf
    · exact hf.1.1
  · exact hv.1

theorem candidateFailed_wp {error : Failure} {s : RolloutLocals} {h : AgentHistory}
    (hvolume : r.payload.volume = some volume) (ha : Alone r.toAppDeployment volume h) :
    (r.candidateFailed error).wp (assuming F) (Post.always (Alone r.toAppDeployment volume)) s
      h := by
  unfold candidateFailed
  split
  · exact ha
  · refine wp_bind_of (R := fun _ _ => Vacant r.toAppDeployment volume)
      ((wp_lift _).mpr (discardCandidate_wp hvolume ha)) fun _ s h hv => ?_
    refine wp_bind_of (R := fun _ _ => Alone r.toAppDeployment volume)
      (restoreAfterCandidateFailure_wp hvolume hv) fun _ s h ha => alone_passive ?_ ha
    refine uses_bind (uses_lift removeRejectedImage_passive) fun _ => uses_bind uses_locals
      fun stop => uses_bind (uses_lift ?_) fun _ => uses_throw _
    split
    · exact canServe_passive
    · exact uses_pure _

theorem returnRoute_wp {s : RolloutLocals} {h : AgentHistory}
    (ha : Alone r.toAppDeployment volume h) : r.returnRoute.wp (assuming F)
      (Post.always (Alone r.toAppDeployment volume)) s h := by
  refine wp_bind_of (R := fun _ _ => Alone r.toAppDeployment volume) ha fun s _ h ha => ?_
  refine wp_bind_of (R := fun _ _ => Alone r.toAppDeployment volume) ((wp_lift _).mpr ?_)
    fun _ _ h ha => ?_
  · split
    · exact ha
    · split
      · exact alone_passive routeTo_passive ha
      · exact alone_passive routeAppServiceWithoutRuntime_passive ha
  · split
    · exact (wp_lift _).mpr (deleteAppVolumeSnapshotBestEffort_wp ha)
    · exact ha

theorem cutoverFailed_wp {error : Failure} {s : RolloutLocals} {h : AgentHistory}
    (hvolume : r.payload.volume = some volume) (ha : Alone r.toAppDeployment volume h) :
    (r.cutoverFailed error).wp (assuming F) (Post.always (Alone r.toAppDeployment volume)) s
      h := by
  unfold cutoverFailed
  split
  · exact ha
  · refine wp_bind_of (R := fun _ _ => Vacant r.toAppDeployment volume)
      ((wp_lift _).mpr (discardCandidate_wp hvolume ha)) fun _ s h hv => ?_
    refine wp_bind_of (R := fun _ _ => Alone r.toAppDeployment volume)
      (restoreAfterCutoverFailure_wp hvolume hv) fun _ s h ha => ?_
    refine wp_bind_of (R := fun _ _ => Alone r.toAppDeployment volume)
      ((wp_settle _).mpr (returnRoute_wp ha)) fun returned s h ha => alone_passive ?_ ha
    refine uses_bind uses_locals fun stop => uses_bind (uses_lift ?_) fun _ =>
      uses_bind (uses_lift removeRejectedImage_passive) fun _ => uses_throw _
    split
    · exact canServe_passive
    · exact uses_pure _

theorem cutOver_quiet : r.cutOver.Uses fun c => ¬ Starting r.toAppDeployment c :=
  cutOver_uses (fun _ => passive_quiet) fun _ => runnerCall_quiet

theorem commit_wp {containerId : String} {s : RolloutLocals} {h : AgentHistory}
    (ha : Alone r.toAppDeployment volume h) : (r.commit containerId).wp (assuming F)
      (Post.always (Alone r.toAppDeployment volume)) s h := by
  have hretire : r.retirePrevious.Uses fun c => ¬ Starting r.toAppDeployment c :=
    retirePrevious_uses (fun _ => id) (fun _ _ => id) (fun _ _ _ _ => id) fun _ _ _ _ => id
  refine wp_bind_of (R := fun _ _ => Alone r.toAppDeployment volume) (alone_uses hretire ha)
    fun _ s h ha => ?_
  refine wp_bind_of (R := fun _ _ => Alone r.toAppDeployment volume) ?_ fun _ s h ha =>
    alone_passive (uses_bind (uses_lift retireImage_passive) fun _ => uses_pure _) ha
  refine wp_bind_of (R := fun _ _ => Alone r.toAppDeployment volume) ha fun s _ h ha => ?_
  split
  · exact (wp_lift _).mpr (deleteAppVolumeSnapshotBestEffort_wp ha)
  · exact ha

theorem roll_wp {s : RolloutLocals} {h : AgentHistory} (hvolume : r.payload.volume = some volume)
    (hv : Vacant r.toAppDeployment volume h) : r.roll.wp (assuming F)
      (Post.always (Alone r.toAppDeployment volume)) s h := by
  refine wp_bind_of (R := fun _ _ => Vacant r.toAppDeployment volume) (wp_mono
    (vacant_uses (uses_lift (finishRejectedRelease_uses (fun _ _ hc => passive_quiet (probeCall_passive hc))
      (fun _ hc => passive_quiet (routeCall_passive hc)) (fun _ _ => id) id)) hv) (fun _ _ _ h => h)
    (fun _ _ _ h => h.1) fun _ h => h.1) fun _ s h hv => ?_
  refine wp_bind_of (R := fun _ _ => Vacant r.toAppDeployment volume) (wp_mono
    (vacant_uses (uses_lift (preActivate_uses (fun _ _ hc => passive_quiet (probeCall_passive hc))
      fun _ => runnerCall_quiet)) hv) (fun _ _ _ h => h) (fun _ _ _ h => h.1) fun _ h => h.1)
    fun _ s h hv => ?_
  have started (p : RolloutMethod String) (s : RolloutLocals) (h : AgentHistory)
      (hp : p.wp (assuming F) (Post.always (Alone r.toAppDeployment volume)) s h) :
      (Method.bind p fun containerId => Method.bind r.awaitCandidate fun _ =>
        Method.bind r.moveTraffic fun _ => r.commit containerId).wp (assuming F)
        (Post.always (Alone r.toAppDeployment volume)) s h := by
    refine wp_bind_of (R := fun _ _ => Alone r.toAppDeployment volume) hp
      fun containerId s h ha => ?_
    refine wp_bind_of (R := fun _ _ => Alone r.toAppDeployment volume) ((wp_tryCatch _ _).mpr
      (wp_mono (alone_passive (uses_lift waits_passive) ha) (fun _ _ _ h => h)
        (fun _ _ _ ha => candidateFailed_wp hvolume ha) fun _ h => h)) fun _ s h ha => ?_
    exact wp_bind_of (R := fun _ _ => Alone r.toAppDeployment volume) ((wp_tryCatch _ _).mpr
      (wp_mono (alone_uses cutOver_quiet ha) (fun _ _ _ h => h)
        (fun _ _ _ ha => cutoverFailed_wp hvolume ha) fun _ h => h)) fun _ s h ha => commit_wp ha
  cases hadopted : r.adoptedCandidate with
  | none =>
    exact wp_bind_of (R := fun _ _ => Free r.toAppDeployment volume)
      (prepareVolume_wp hvolume hadopted hv) fun _ s h hf => started _ s h
        ((wp_lift _).mpr (startCandidate_wp hf))
  | some candidate =>
    refine wp_bind_of (R := fun _ _ => Alone r.toAppDeployment volume) ?_ fun _ s h ha =>
      started _ s h ?_
    · unfold prepareVolume
      rw [hvolume, hadopted]
      exact hv.1
    · unfold startCandidate
      rw [hadopted]
      exact ha

theorem deploy_alone (hvolume : d.payload.volume = some volume) :
    (d.deployAppImageWithDependencies).wp (assuming F) (Post.always (Alone d volume)) {} [] := by
  have hstart : Vacant d volume [] := ⟨trivial, gone_nil⟩
  refine wp_bind_of (R := fun _ _ => Vacant d volume) (wp_mono (vacant_uses (uses_lift
    (prepareNetwork_uses fun _ => setupCall_quiet)) hstart) (fun _ _ _ h => h)
    (fun _ _ _ h => h.1) fun _ h => h.1) fun _ s h hv => ?_
  refine wp_bind_of (R := fun r _ h => r.toAppDeployment = d ∧ Vacant d volume h)
    ((wp_lift _).mpr (wp_mono (wp_and (findRollout_wp h) (vacant_uses (findRollout_uses
      fun _ => setupCall_quiet) hv)) (fun _ _ _ h => ⟨h.1.1, h.2⟩) (fun _ _ _ h => h.2.1)
      fun _ h => h.2.1)) fun r s h hr => ?_
  obtain ⟨rfl, hv⟩ := hr
  exact roll_wp hvolume hv

/-- Whenever a rollout starts an app container on its volume, the latest list of the volume's
consumers shows none running, and its own earlier candidate was removed and found absent. -/
theorem app_volume_single_writer (d : AppDeployment) (env : AgentEnvironment)
    (hvolume : d.payload.volume = some volume) {later before : AgentHistory} {e : AgentEvent}
    (hrun : ((d.deployAppImageWithDependencies {}).run env []).2 = later ++ e :: before)
    (hstart : StartsApp d e.call before) :
    Unused volume.volumeName before ∧ Gone d.containerName before := by
  have halone : Alone d volume ((d.deployAppImageWithDependencies {}).run env []).2 :=
    always_run (F := fun _ _ => True) (deploy_alone hvolume)
      (along_iff.mpr fun _ _ _ _ => trivial)
  exact along_iff.mp halone later e before hrun hstart

def makes (name : String) : AgentEvent → Bool
  | ⟨.request (.createContainer _), some (.ok id)⟩ => id = name
  | _ => false

def restoredRun : AgentHistory :=
  (((sampleDeployment (some sampleVolume)).deployAppImageWithDependencies {}).run
    unhealthyCandidate []).2

theorem sample_not_job {serviceId deploymentId : String} {phase : ReleasePhase} {attempt : ℕ} :
    "old-app" ≠ buildReleaseJobContainerName serviceId deploymentId phase attempt := by
  have hstarts (rest : String) : "old-app" ≠ "nouva-release-" ++ rest := by
    intro h
    have hlist := congrArg String.toList h
    simp at hlist
  unfold buildReleaseJobContainerName
  simp only [String.append_assoc]
  exact hstarts _

theorem app_volume_single_writer_restored : ∃ e later before,
    restoredRun = later ++ e :: before ∧ e.call = .request (.startContainer "old-app") ∧
      Unused "app-data" before ∧ Gone "nouva-app-service1-deploy01" before := by
  have hstarted : restoredRun.any (·.call = .request (.startContainer "old-app")) = true := by
    decide +kernel
  have hmade : restoredRun.all (!makes "old-app" ·) = true := by decide +kernel
  obtain ⟨e, he, hcall⟩ := List.any_eq_true.mp hstarted
  obtain ⟨later, before, hrun⟩ := List.append_of_mem he
  have hcall : e.call = .request (.startContainer "old-app") := of_decide_eq_true hcall
  refine ⟨e, later, before, hrun, hcall,
    app_volume_single_writer (sampleDeployment (some sampleVolume)) _ rfl hrun ?_⟩
  rw [hcall]
  refine ⟨rfl, fun spec hs => ?_, fun _ _ => sample_not_job⟩
  have hrest := hrun ▸ List.mem_append_right later (List.mem_cons_of_mem e hs)
  have hother := List.all_eq_true.mp hmade _ hrest
  simp [makes] at hother

end NouvaAgent.AppRollout
