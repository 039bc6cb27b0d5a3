import NouvaAgent.AgentHistory
import NouvaAgent.WorkerRolloutCalls

namespace NouvaAgent.WorkerRestore

open Text Interaction Agent Method WorkerShutdown WorkerVolume

variable (restore : WorkerRestore)

/-- The wait that came right after `before` found the worker ready. -/
def Passed (fuel : ℕ) (input : WorkerReadinessInput) (before h : AgentHistory) : Prop :=
  ∃ later seg, h = later ++ (seg ++ before) ∧
    Ran (waitForWorkerReadiness fuel input : AgentAction Unit) seg (.ok ())

/-- The rollout tried to stop the container, and it is one that may be started again. -/
def Eligible (container : DockerContainerInspection) : Prop :=
  ∃ outcome, restore.outcomeOf container = some outcome ∧ outcome ≠ .hung ∧
    (outcome = .alreadyStopped → restore.isRecordedLive container = true)

def Found (container current : DockerContainerInspection) (h : AgentHistory) : Prop :=
  (⟨.request (.inspectContainer (getContainerIdentifier container)), some (.ok (some current))⟩ :
    AgentEvent) ∈ h

def Started (container : DockerContainerInspection) (h : AgentHistory) : Prop :=
  (⟨.request (.startContainer (getContainerIdentifier container)), some (.ok ())⟩ : AgentEvent) ∈ h

/-- The container was found running, or was started. -/
def KnownRunning (container : DockerContainerInspection) (h : AgentHistory) : Prop :=
  (∃ current, Found container current h ∧ current.running = true) ∨ Started container h

def RunningName (name : String) (h : AgentHistory) : Prop :=
  ∃ container ∈ restore.previousContainers, getContainerName container = name ∧
    KnownRunning container h

/-- The latest listing of the consumers of the volume shows none that runs, but previous containers
that were known to run. -/
def VolumeClear (h : AgentHistory) : Prop :=
  ∀ volume, restore.volume = some volume → ∃ later consumers before,
    h = later ++ ⟨.request (.listContainersUsingVolume volume.volumeName),
      some (.ok consumers)⟩ :: before ∧
    (∀ e ∈ later, ∀ name, e.call ≠ .request (.listContainersUsingVolume name)) ∧
    ∀ consumer ∈ consumers, consumer.running = true →
      restore.RunningName (getContainerName consumer) before

def StartsFairly (e : AgentEvent) (before : AgentHistory) : Prop :=
  ∀ identifier, e.call = .request (.startContainer identifier) →
    (∃ container ∈ restore.previousContainers,
      identifier = getContainerIdentifier container ∧ restore.Eligible container) ∧
    restore.VolumeClear before

def replicaInput (replica : DockerContainerInspection) : WorkerReadinessInput where
  containerName := getContainerName replica
  hasHealthcheck := (replica.state.bind ContainerState.health).isSome
  ignoreEarlierRestarts := true

/-- Right after `before` the replicas were waited for side by side, and one was found ready. -/
def PassedBeside (fuel : ℕ) (replicas : List DockerContainerInspection)
    (replica : DockerContainerInspection) (before h : AgentHistory) : Prop :=
  ∃ later seg, ∃ results : List (Except Failure Unit), ∃ i : ℕ, h = later ++ (seg ++ before) ∧
    Ran (allSettled fuel (replicas.map fun replica =>
      (waitForWorkerReadiness fuel (replicaInput replica) : AgentAction Unit))) seg (.ok results) ∧
    replicas[i]? = some replica ∧ results[i]? = some (.ok ())

/-- A previous container passed the readiness check, right after it was started again or beside the
others that were found running. -/
def SomePassed (h : AgentHistory) : Prop :=
  (∃ container ∈ restore.previousContainers, ∃ before,
    Passed restore.fuel (restore.readinessInput container)
      (⟨.request (.startContainer (getContainerIdentifier container)), some (.ok ())⟩ :: before) h) ∨
  ∃ replicas replica before, (∀ current ∈ replicas, ∃ container ∈ restore.previousContainers,
    Found container current before ∧ current.running = true) ∧
      PassedBeside restore.fuel replicas replica before h

section

variable {restore} {h : AgentHistory} {e : AgentEvent} {σ : Type}

theorem Passed.append {fuel : ℕ} {input : WorkerReadinessInput} {before : AgentHistory}
    (later : AgentHistory) (hp : Passed fuel input before h) :
    Passed fuel input before (later ++ h) := by
  obtain ⟨later', seg, rfl, hran⟩ := hp
  exact ⟨later ++ later', seg, (List.append_assoc later later' _).symm, hran⟩

theorem PassedBeside.append {fuel : ℕ} {replicas : List DockerContainerInspection}
    {replica : DockerContainerInspection} {before : AgentHistory} (later : AgentHistory)
    (hp : PassedBeside fuel replicas replica before h) :
    PassedBeside fuel replicas replica before (later ++ h) := by
  obtain ⟨later', seg, results, i, rfl, hran⟩ := hp
  exact ⟨later ++ later', seg, results, i, (List.append_assoc later later' _).symm, hran⟩

theorem KnownRunning.append {container : DockerContainerInspection} (later : AgentHistory)
    (hk : KnownRunning container h) : KnownRunning container (later ++ h) := by
  obtain ⟨current, hfound, hrunning⟩ | hstarted := hk
  · exact .inl ⟨current, List.mem_append_right later hfound, hrunning⟩
  · exact .inr (List.mem_append_right later hstarted)

theorem RunningName.append {name : String} (later : AgentHistory)
    (hr : restore.RunningName name h) : restore.RunningName name (later ++ h) := by
  obtain ⟨container, hmem, hname, hk⟩ := hr
  exact ⟨container, hmem, hname, hk.append later⟩

theorem VolumeClear.cons (hv : restore.VolumeClear h)
    (he : ∀ name, e.call ≠ .request (.listContainersUsingVolume name)) :
    restore.VolumeClear (e :: h) := by
  intro volume hvolume
  obtain ⟨later, consumers, before, rfl, hlater, hconsumers⟩ := hv volume hvolume
  exact ⟨e :: later, consumers, before, rfl, List.forall_mem_cons.mpr ⟨he, hlater⟩, hconsumers⟩

def StartsNothing (c : AgentCall) : Prop := ∀ identifier, c ≠ .request (.startContainer identifier)

theorem startsNothing_of_looks {c : AgentCall} (hc : Looks c) : StartsNothing c := by
  rintro identifier rfl
  exact hc

theorem startsFairly_cons (he : StartsNothing e.call) (hs : Along restore.StartsFairly h) :
    Along restore.StartsFairly (e :: h) := ⟨fun identifier hc => absurd hc (he identifier), hs⟩

structure Founded (restore : WorkerRestore) (s : WorkerRestoreLocals) (h : AgentHistory) : Prop where
  starts : Along restore.StartsFairly h
  names : ∀ name ∈ s.runningNames, restore.RunningName name h
  found : ∀ current ∈ s.foundRunning, ∃ container ∈ restore.previousContainers,
    Found container current h ∧ current.running = true
  restarted : s.restarted = true → restore.SomePassed h

theorem SomePassed.append (later : AgentHistory) (hp : restore.SomePassed h) :
    restore.SomePassed (later ++ h) := by
  obtain ⟨container, hmem, before, hpassed⟩ | ⟨replicas, replica, before, hfound, hpassed⟩ := hp
  · exact .inl ⟨container, hmem, before, hpassed.append later⟩
  · exact .inr ⟨replicas, replica, before, hfound, hpassed.append later⟩

theorem Founded.append {s : WorkerRestoreLocals} (later : AgentHistory) (hf : Founded restore s h)
    (hs : Along restore.StartsFairly (later ++ h)) : Founded restore s (later ++ h) where
  starts := hs
  names := fun name hname => (hf.names name hname).append later
  found := fun current hcurrent => by
    obtain ⟨container, hmem, hfound, hrunning⟩ := hf.found current hcurrent
    exact ⟨container, hmem, List.mem_append_right later hfound, hrunning⟩
  restarted := fun h => (hf.restarted h).append later

theorem Founded.next {s : WorkerRestoreLocals} (hf : Founded restore s h)
    (hs : Along restore.StartsFairly (e :: h)) : Founded restore s (e :: h) := hf.append [e] hs

theorem Founded.cons {s : WorkerRestoreLocals} (hf : Founded restore s h)
    (he : StartsNothing e.call) : Founded restore s (e :: h) :=
  hf.next (startsFairly_cons he hf.starts)

abbrev founded (restore : WorkerRestore) (R : α → AgentHistory → Prop) :
    Post Failure WorkerRestoreLocals α AgentHistory where
  ok a s h := Founded restore s h ∧ R a h
  err _ s h := Founded restore s h
  cut := Along restore.StartsFairly

theorem eligible_of_stopped {container : DockerContainerInspection}
    (hleft : restore.isLeftAlone container = false)
    (hsome : (restore.outcomeOf container).isSome = true) : restore.Eligible container := by
  obtain ⟨outcome, houtcome⟩ := Option.isSome_iff_exists.mp hsome
  unfold isLeftAlone at hleft
  rw [houtcome] at hleft
  simp only [Bool.or_eq_false_iff, Bool.and_eq_false_iff, decide_eq_false_iff_not,
    Option.some.injEq, Bool.not_eq_false'] at hleft
  exact ⟨outcome, houtcome, hleft.1, hleft.2.resolve_left ∘ not_not.mpr⟩

theorem restorePolicy_wp {s : WorkerRestoreLocals} {container : DockerContainerInspection}
    (hf : Founded restore s h) : (restore.restorePolicy container).wp recording
      (founded restore fun _ h' => ∃ later, h' = later ++ h) s h := by
  unfold restorePolicy
  split
  · exact ⟨hf, [], rfl⟩
  · have hnext : ∀ answer, Founded restore s (⟨.request (.updateContainerRestartPolicy
        (getContainerIdentifier container) "unless-stopped"), answer⟩ :: h) :=
      fun _ => hf.cons fun _ => by simp
    exact (wp_request_assuming _).mpr
      ⟨fun _ => (hnext _).starts, fun _ _ => hnext _, fun _ _ => ⟨hnext _, [_], rfl⟩⟩

theorem keepRunning_wp {s : WorkerRestoreLocals} {container current : DockerContainerInspection}
    (hmem : container ∈ restore.previousContainers) (hrunning : current.running = true)
    (hfound : Found container current h) (hf : Founded restore s h) :
    (restore.keepRunning container current).wp recording (founded restore fun _ _ => True) s h := by
  refine wp_bind_of (restorePolicy_wp hf) ?_
  rintro _ s _ ⟨hf, later, rfl⟩
  have hfound : Found container current (later ++ h) := List.mem_append_right later hfound
  refine ⟨⟨hf.starts, fun name hname => ?_, fun c hc => ?_, hf.restarted⟩, trivial⟩
  · obtain hname | hname := List.mem_append.mp hname
    · exact hf.names name hname
    · obtain rfl := List.mem_singleton.mp hname
      exact ⟨container, hmem, rfl, .inl ⟨current, hfound, hrunning⟩⟩
  · obtain hc | hc := List.mem_append.mp hc
    · exact hf.found c hc
    · obtain rfl := List.mem_singleton.mp hc
      exact ⟨container, hmem, hfound, hrunning⟩

theorem review_wp {s : WorkerRestoreLocals} {container : DockerContainerInspection}
    (hmem : container ∈ restore.previousContainers) (hf : Founded restore s h) :
    (restore.review container).wp recording
      (founded restore fun start _ => start = true → restore.Eligible container) s h := by
  unfold review
  split
  case isTrue => exact ⟨hf, fun hstart => nomatch hstart⟩
  case isFalse hleft =>
    have hleft := Bool.not_eq_true _ ▸ hleft
    have hlook : ∀ answer, Founded restore s
        (⟨.request (.inspectContainer (getContainerIdentifier container)), answer⟩ :: h) :=
      fun _ => hf.cons fun _ => by simp
    refine (wp_bind _ _).mpr ((wp_request_assuming _).mpr
      ⟨fun _ => (hlook _).starts, fun _ _ => hlook _, fun found _ => ?_⟩)
    cases found with
    | none =>
      exact ⟨⟨(hlook _).starts, (hlook _).names, (hlook _).found, (hlook _).restarted⟩,
        fun hstart => nomatch hstart⟩
    | some current =>
      dsimp only
      split
      case isTrue hrunning =>
        refine wp_bind_of (keepRunning_wp hmem hrunning List.mem_cons_self (hlook _)) ?_
        exact fun _ _ _ hf => ⟨hf.1, fun hstart => nomatch hstart⟩
      case isFalse => exact ⟨hlook _, eligible_of_stopped hleft⟩

theorem reviewAll_wp {s : WorkerRestoreLocals} {containers : List DockerContainerInspection}
    (hmem : ∀ container ∈ containers, container ∈ restore.previousContainers)
    (hf : Founded restore s h) : (restore.reviewAll containers).wp recording
      (founded restore fun toStart _ => ∀ container ∈ toStart,
        container ∈ restore.previousContainers ∧ restore.Eligible container) s h := by
  induction containers generalizing s h with
  | nil => exact ⟨hf, by simp⟩
  | cons container rest ih =>
    rw [List.forall_mem_cons] at hmem
    refine wp_bind_of (review_wp hmem.1 hf) ?_
    rintro start s h ⟨hf, hstart⟩
    refine wp_bind_of (ih hmem.2 hf) ?_
    rintro toStart s h ⟨hf, hrest⟩
    refine ⟨hf, ?_⟩
    split
    case isTrue hyes =>
      rw [List.forall_mem_cons]
      exact ⟨⟨hmem.1, hstart hyes⟩, hrest⟩
    case isFalse => exact hrest

theorem assertVolumeUnused_clear {s : WorkerRestoreLocals} (hf : Founded restore s h) :
    (assertVolumeUnused restore.volume s.runningNames).wp recording
      (founded restore fun _ h' => restore.VolumeClear h') s h := by
  unfold assertVolumeUnused
  split
  case h_1 hnone =>
    refine ⟨hf, fun volume hvolume => ?_⟩
    rw [hnone] at hvolume
    cases hvolume
  case h_2 volume hsome =>
    have hlist : ∀ answer, Founded restore s
        (⟨.request (.listContainersUsingVolume volume.volumeName), answer⟩ :: h) :=
      fun _ => hf.cons fun _ => by simp
    refine (wp_bind _ _).mpr ((wp_request_assuming _).mpr
      ⟨fun _ => (hlist _).starts, fun _ _ => hlist _, fun consumers _ => ?_⟩)
    dsimp only
    split
    case isFalse => exact hlist _
    case isTrue hall =>
      refine ⟨hlist _, fun other hother => ?_⟩
      obtain rfl : volume = other := Option.some.inj (hsome.symm.trans hother)
      refine ⟨[], consumers, h, rfl, by simp, fun consumer hc hrunning => hf.names _ ?_⟩
      simpa [hrunning] using List.all_eq_true.mp hall consumer hc

theorem waitForWorkerReadiness_wp {s : WorkerRestoreLocals} {input : WorkerReadinessInput}
    (fuel : ℕ) (hf : Founded restore s h) :
    (settle (waitForWorkerReadiness fuel input)).wp recording
      (founded restore fun r h' => (∃ later, h' = later ++ h) ∧
        (r.isOk = true → Passed fuel input h h')) s h := by
  have hstarts : (waitForWorkerReadiness fuel input : AgentAction Unit).wp
      recording (Post.always (Along restore.StartsFairly)) () h :=
    (waitForWorkerReadiness_framed (S := StartsNothing) fun _ =>
      startsNothing_of_looks).uses.wp_assuming
      (fun _ _ he => startsFairly_cons he) hf.starts
  rw [waitForWorkerReadiness_eq_lift]
  refine (wp_settle _).mpr ((wp_lift _).mpr (wp_mono (wp_and (wp_ran _ () h) hstarts) ?_ ?_ ?_))
  · rintro _ _ _ ⟨⟨seg, rfl, hran⟩, hs⟩
    exact ⟨hf.append seg hs, ⟨seg, rfl⟩, fun _ => ⟨[], seg, rfl, hran⟩⟩
  · rintro _ _ _ ⟨⟨seg, rfl, -⟩, hs⟩
    exact ⟨hf.append seg hs, ⟨seg, rfl⟩, fun hok => nomatch hok⟩
  · exact fun _ hs => hs.2

theorem startAgain_wp {s : WorkerRestoreLocals} {container : DockerContainerInspection}
    (hmem : container ∈ restore.previousContainers) (heligible : restore.Eligible container)
    (hf : Founded restore s h) :
    (restore.startAgain container).wp recording (founded restore fun _ _ => True) s h := by
  refine wp_bind_of (R := fun t s' h' => t = s ∧ s' = s ∧ h' = h) ⟨rfl, rfl, rfl⟩ ?_
  rintro _ _ _ ⟨rfl, rfl, rfl⟩
  refine wp_bind_of (assertVolumeUnused_clear hf) ?_
  rintro _ s h ⟨hf, hclear⟩
  have hpolicy : ∀ answer, Founded restore s (⟨.request (.updateContainerRestartPolicy
      (getContainerIdentifier container) "unless-stopped"), answer⟩ :: h) :=
    fun _ => hf.cons fun _ => by simp
  refine (wp_bind _ _).mpr ((wp_request_assuming _).mpr
    ⟨fun _ => (hpolicy _).starts, fun _ _ => hpolicy _, fun answer _ => ?_⟩)
  have hclear : restore.VolumeClear (⟨.request (.updateContainerRestartPolicy
      (getContainerIdentifier container) "unless-stopped"), some (.ok answer)⟩ :: h) :=
    hclear.cons fun _ => by simp
  have hf := hpolicy (some (.ok answer))
  generalize ((⟨.request (.updateContainerRestartPolicy (getContainerIdentifier container)
    "unless-stopped"), some (.ok answer)⟩ : AgentEvent) :: h) = h at hclear hf
  have hstart : ∀ answer, Along restore.StartsFairly
      (⟨.request (.startContainer (getContainerIdentifier container)), answer⟩ :: h) := by
    refine fun answer => ⟨fun identifier hc => ⟨⟨container, hmem, ?_, heligible⟩, hclear⟩, hf.starts⟩
    simpa using hc.symm
  refine (wp_bind _ _).mpr ((wp_request_assuming _).mpr
    ⟨fun _ => hstart _, fun _ _ => hf.next (hstart _), fun _ _ => ?_⟩)
  have hstarted : Started container
      (⟨.request (.startContainer (getContainerIdentifier container)), some (.ok ())⟩ :: h) :=
    List.mem_cons_self
  have hf := hf.next (hstart (some (.ok ())))
  generalize hnow : ((⟨.request (.startContainer (getContainerIdentifier container)),
    some (.ok ())⟩ : AgentEvent) :: h) = hist at hstarted hf
  have hf : Founded restore { s with
      runningNames := s.runningNames ++ [getContainerName container] } hist := by
    refine ⟨hf.starts, fun name hname => ?_, hf.found, hf.restarted⟩
    obtain hname | hname := List.mem_append.mp hname
    · exact hf.names name hname
    · obtain rfl := List.mem_singleton.mp hname
      exact ⟨container, hmem, rfl, .inr hstarted⟩
  refine (wp_bind _ _).mpr ((wp_assign _).mpr ?_)
  refine wp_bind_of (waitForWorkerReadiness_wp restore.fuel hf) ?_
  rintro r s _ ⟨hf, ⟨later, rfl⟩, hpassed⟩
  cases r with
  | error e => exact ⟨hf, trivial⟩
  | ok u =>
    refine ⟨⟨hf.starts, hf.names, hf.found, fun _ => .inl ⟨container, hmem, h, ?_⟩⟩, trivial⟩
    rw [hnow]
    exact hpassed rfl

theorem startStopped_wp {s : WorkerRestoreLocals} (hf : Founded restore s h) :
    restore.startStopped.wp recording (founded restore fun _ _ => True) s h := by
  refine wp_bind_of (reviewAll_wp (fun _ hmem => hmem) hf) ?_
  rintro toStart s h ⟨hf, heligible⟩
  have hrounds : (Method.forEach toStart restore.startAgain).wp recording
      ⟨fun _ => Founded restore, fun _ => Founded restore, Along restore.StartsFairly⟩ s h :=
    wp_forEach_locals (fun container hc s h hf =>
      wp_mono (startAgain_wp (heligible container hc).1 (heligible container hc).2 hf)
        (fun _ _ _ hf => hf.1) (fun _ _ _ hf => hf) fun _ hs => hs) hf
  exact wp_mono hrounds (fun _ _ _ hf => ⟨hf, trivial⟩) (fun _ _ _ hf => hf) fun _ hs => hs

theorem passedBeside_of_any {fuel : ℕ} {replicas : List DockerContainerInspection}
    {seg : AgentHistory} {waits : List (Except Failure Unit)}
    (hran : Ran (allSettled fuel (replicas.map fun replica =>
      (waitForWorkerReadiness fuel (replicaInput replica) : AgentAction Unit))) seg (.ok waits))
    (hany : waits.any Except.isOk = true) (before : AgentHistory) :
    ∃ replica, PassedBeside fuel replicas replica before (seg ++ before) := by
  obtain ⟨wait, hwait, hok⟩ := List.any_eq_true.mp hany
  obtain ⟨i, hi⟩ := List.mem_iff_getElem?.mp hwait
  obtain ⟨p, part, hp, -, -⟩ := allSettled_ran hran hi
  rw [List.getElem?_map, Option.map_eq_some_iff] at hp
  obtain ⟨replica, hreplica, -⟩ := hp
  cases wait with
  | error e => cases hok
  | ok u => exact ⟨replica, [], seg, waits, i, rfl, hran, hreplica, hi⟩

theorem anyReplicaRuns_wp {s : σ} (fuel : ℕ) (replicas : List DockerContainerInspection)
    (hs : Along restore.StartsFairly h) :
    (WorkerRollout.anyReplicaRuns fuel replicas : AgentMethod σ Bool).wp recording
      ⟨fun running _ h' => Along restore.StartsFairly h' ∧ (∃ later, h' = later ++ h) ∧
        (running = true → ∃ replica, PassedBeside fuel replicas replica h h'),
        fun _ _ _ => False, Along restore.StartsFairly⟩ s h := by
  let waits : List (AgentAction Unit) := replicas.map fun replica =>
    waitForWorkerReadiness fuel (replicaInput replica)
  have hstarts : (allSettled fuel waits).wp recording
      (Post.always (Along restore.StartsFairly)) () h := by
    have huses : (allSettled fuel waits).Uses StartsNothing := by
      refine uses_allSettled fun p hp => ?_
      obtain ⟨replica, -, rfl⟩ := List.mem_map.mp hp
      exact (waitForWorkerReadiness_framed fun _ => startsNothing_of_looks).uses
    exact huses.wp_assuming (fun _ _ he => startsFairly_cons he) hs
  have hwaits : (allSettled fuel waits).wp recording
      ⟨fun rs _ h' => Along restore.StartsFairly h' ∧ ∃ seg, h' = seg ++ h ∧
        Ran (allSettled fuel waits) seg (.ok rs), fun _ _ _ => False,
        Along restore.StartsFairly⟩ () h :=
    wp_mono (wp_and (wp_allSettled h) hstarts) (fun _ _ _ h => ⟨h.2, h.1⟩) (fun _ _ _ h => h.1)
      fun _ h => h.2
  refine wp_bind_of (R := fun rs _ h' => Along restore.StartsFairly h' ∧ ∃ seg, h' = seg ++ h ∧
    Ran (allSettled fuel waits) seg (.ok rs)) ((wp_lift _).mpr hwaits) ?_
  rintro rs s _ ⟨hs, seg, rfl, hran⟩
  exact ⟨hs, ⟨seg, rfl⟩, fun hany => passedBeside_of_any hran hany h⟩

theorem hasRestarted_wp {s : WorkerRestoreLocals} (hf : Founded restore s h) :
    (restore.hasRestarted s).wp recording
      ⟨fun live _ h' => Along restore.StartsFairly h' ∧ (live = true → restore.SomePassed h'),
        fun _ _ _ => False, Along restore.StartsFairly⟩ s h := by
  unfold hasRestarted
  split
  case isTrue hrestarted => exact ⟨hf.starts, fun _ => hf.restarted hrestarted⟩
  case isFalse =>
    refine wp_mono (anyReplicaRuns_wp restore.fuel s.foundRunning hf.starts) ?_ (fun _ _ _ h => h)
      fun _ h => h
    rintro live _ _ ⟨hs, ⟨later, rfl⟩, hpassed⟩
    refine ⟨hs, fun hlive => ?_⟩
    obtain ⟨replica, hpassed⟩ := hpassed hlive
    exact .inr ⟨s.foundRunning, replica, h, hf.found, hpassed⟩

theorem restorePreviousWorkerRuntime_wp : restore.restorePreviousWorkerRuntime.wp recording
    ⟨fun result _ h => Along restore.StartsFairly h ∧
      (result.liveRuntimePreserved = true → restore.SomePassed h) ∧
      (result.rollbackCompleted = true → result.liveRuntimePreserved = true),
      fun _ _ _ => False, Along restore.StartsFairly⟩ () [] := by
  have hinitial : Founded restore {} [] :=
    ⟨trivial, by simp, by simp, by simp⟩
  refine (wp_withLocals _ _).mpr ?_
  refine wp_bind_of (R := fun _ => Founded restore) ((wp_tryCatch _ _).mpr
    (wp_mono (startStopped_wp hinitial) (fun _ _ _ hf => hf.1) (fun _ _ _ hf => ?_)
      fun _ hs => hs)) ?_
  · exact ⟨hf.starts, hf.names, hf.found, hf.restarted⟩
  · intro _ s h hf
    refine wp_bind_of (R := fun t s' h' => t = s ∧ s' = s ∧ h' = h) ⟨rfl, rfl, rfl⟩ ?_
    rintro _ _ _ ⟨rfl, rfl, rfl⟩
    refine wp_bind_of (hasRestarted_wp hf) ?_
    rintro live _ h ⟨hs, hlive⟩
    exact ⟨hs, hlive, fun hcompleted => (Bool.and_eq_true_iff.mp hcompleted).2⟩

end

/-- Whatever Docker answers, the restore never throws; it starts a container only if the rollout
tried to stop it, it survived no SIGKILL and was not found stopped without being recorded as live,
and never beside an unexpected consumer of its volume; and what it reports as preserved has passed
the readiness check. -/
theorem restorePreviousWorkerRuntime_truthful (env : AgentEnvironment) (restore : WorkerRestore) :
    let run := (restore.restorePreviousWorkerRuntime ()).run env []
    (∀ e s, run.1 ≠ .done (.error e, s)) ∧
    (∀ later e before, run.2 = later ++ e :: before → restore.StartsFairly e before) ∧
    ∀ result s, run.1 = .done (.ok result, s) →
      (result.liveRuntimePreserved = true → restore.SomePassed run.2) ∧
      (result.rollbackCompleted = true → result.liveRuntimePreserved = true) := by
  intro run
  have hwp : restore.restorePreviousWorkerRuntime.wp recording _ () [] :=
    restorePreviousWorkerRuntime_wp
  have hrun : Post.outcome _ run.1 run.2 :=
    Program.wp_run hwp (along_iff.mpr fun _ _ _ _ => trivial)
  generalize run = run at hrun
  obtain ⟨outcome, h⟩ := run
  rcases outcome with ⟨e | result, s⟩ | _
  · exact hrun.elim
  · refine ⟨fun e s heq => ?_, along_iff.mp hrun.1, ?_⟩
    · cases heq
    · rintro result s ⟨⟩
      exact hrun.2
  · exact ⟨fun _ _ heq => (nomatch heq), along_iff.mp hrun, fun _ _ heq => nomatch heq⟩

end NouvaAgent.WorkerRestore
