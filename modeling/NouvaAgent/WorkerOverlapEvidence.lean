import NouvaAgent.WorkerRolloutConverged

namespace NouvaAgent.WorkerDeployment

open Text Interaction Agent Method WorkerShutdown WorkerVolume WorkerRollout

def sameContainer (container other : DockerContainerInspection) : Bool :=
  getContainerIdentifier other = getContainerIdentifier container &&
    getContainerName other = getContainerName container

def listed (container : DockerContainerInspection) (containers : List DockerContainerInspection) :
    Option Bool :=
  if containers.any (sameContainer container) then
    some (containers.any fun other => sameContainer container other && other.running)
  else none

/-- What an event tells of a container: whether it runs. After a signal it counts as running until it
is looked at again. -/
def tells (container : DockerContainerInspection) : AgentEvent → Option Bool
  | ⟨.request (.inspectContainer nameOrId), some (.ok found)⟩ =>
    if nameOrId = getContainerIdentifier container then
      some (found.any DockerContainerInspection.running)
    else none
  | ⟨.request (.listContainersByLabels _), some (.ok containers)⟩ => listed container containers
  | ⟨.request (.listContainersUsingVolume _), some (.ok containers)⟩ => listed container containers
  | ⟨.request (.killContainer nameOrId _), _⟩ =>
    if nameOrId = getContainerIdentifier container then some true else none
  | _ => none

def lastTold (container : DockerContainerInspection) (h : AgentHistory) : Option Bool :=
  h.findSome? (tells container)

def Spares (container : DockerContainerInspection) : AgentCall → Prop
  | .request r => match r with
    | .inspectContainer nameOrId | .killContainer nameOrId _ =>
      nameOrId ≠ getContainerIdentifier container
    | .listContainersByLabels _ | .listContainersUsingVolume _ => False
    | _ => True
  | _ => True

def Untold (container : DockerContainerInspection) (seg : AgentHistory) : Prop :=
  ∀ e ∈ seg, tells container e ≠ some true

def Ensures (name : String) (c : AgentCall) : Prop :=
  ∃ spec replace pull, c = .request (.ensureContainer spec replace pull) ∧ spec.name = name

def Cleared (name : String) (seg : AgentHistory) : Prop :=
  ∃ later found before,
    seg = later ++ ⟨.request (.inspectContainer name), some (.ok found)⟩ :: before ∧
    ∀ candidate, found = some candidate → ∃ force,
      (⟨.request (.removeContainer (getContainerIdentifier candidate) force none), some (.ok ())⟩ :
        AgentEvent) ∈ later

/-- The name was cleared, and not ensured since. -/
def Discarded (name : String) (h : AgentHistory) : Prop :=
  ∃ later before, h = later ++ before ∧ Cleared name later ∧ ∀ e ∈ later, ¬ Ensures name e.call

variable {d : WorkerDeployment} {r : PlannedWorkerRollout} {container : DockerContainerInspection}
  {e : AgentEvent} {h seg : AgentHistory} {σ : Type}

theorem tells_of_spares (he : Spares container e.call) : tells container e = none := by
  unfold tells
  split
  · exact if_neg he
  · exact he.elim
  · exact he.elim
  · exact if_neg he
  · rfl

theorem untold_of_spares (hseg : ∀ e ∈ seg, Spares container e.call) : Untold container seg := by
  intro e he
  rw [tells_of_spares (hseg e he)]
  simp

theorem Untold.append {later : AgentHistory} (hl : Untold container later)
    (hs : Untold container seg) : Untold container (later ++ seg) :=
  List.forall_mem_append.mpr ⟨hl, hs⟩

theorem Untold.lastTold (hs : Untold container seg)
    (hlast : WorkerDeployment.lastTold container h = some false) :
    WorkerDeployment.lastTold container (seg ++ h) = some false := by
  induction seg with
  | nil => exact hlast
  | cons e seg ih =>
    have hrest := ih fun e he => hs e (List.mem_cons_of_mem _ he)
    have htell := hs e List.mem_cons_self
    unfold WorkerDeployment.lastTold at hrest ⊢
    rw [List.cons_append, List.findSome?_cons]
    cases hb : tells container e with
    | none => exact hrest
    | some b =>
      rw [hb] at htell
      cases b
      · rfl
      · exact absurd rfl htell

theorem Untold.told (hs : Untold container seg) (hm : e ∈ seg)
    (he : tells container e = some false) :
    WorkerDeployment.lastTold container (seg ++ h) = some false := by
  obtain ⟨later, before, rfl⟩ := List.append_of_mem hm
  have hlater : Untold container later := fun e he => hs e (List.mem_append_left _ he)
  rw [List.append_assoc]
  refine hlater.lastTold ?_
  unfold WorkerDeployment.lastTold
  rw [List.cons_append, List.findSome?_cons, he]

theorem tells_inspect {nameOrId : String} {found : Option DockerContainerInspection}
    (hfound : found.any DockerContainerInspection.running = false) :
    tells container ⟨.request (.inspectContainer nameOrId), some (.ok found)⟩ ≠ some true := by
  unfold tells
  dsimp only
  split <;> simp [hfound]

theorem tells_inspect_self {found : Option DockerContainerInspection} :
    tells container ⟨.request (.inspectContainer (getContainerIdentifier container)),
      some (.ok found)⟩ = some (found.any DockerContainerInspection.running) := if_pos rfl

theorem listed_ne_running {consumers : List DockerContainerInspection} {allowedNames : List String}
    (hall : consumers.all fun consumer =>
      !consumer.running || getContainerName consumer ∈ allowedNames)
    (hname : getContainerName container ∉ allowedNames) : listed container consumers ≠ some true := by
  unfold listed
  split
  · intro hsome
    obtain ⟨consumer, hmem, hrunning⟩ := List.any_eq_true.mp (Option.some.inj hsome)
    have hallowed := List.all_eq_true.mp hall consumer hmem
    simp only [sameContainer, Bool.and_eq_true, decide_eq_true_eq] at hrunning
    obtain ⟨⟨-, hsame⟩, hrunning⟩ := hrunning
    rw [hrunning, hsame] at hallowed
    simp [hname] at hallowed
  · simp

theorem assertVolumeUnused_untold {volume : Option AppVolumeIdentity} {allowedNames : List String}
    {s s' : σ} (hname : getContainerName container ∉ allowedNames)
    (h : (assertVolumeUnused volume allowedNames : AgentMethod σ Unit).Returns s seg () s') :
    Untold container seg := by
  cases volume with
  | none =>
    obtain ⟨rfl, -⟩ := h.of_pure
    exact fun _ he => absurd he (List.not_mem_nil)
  | some volume =>
    obtain ⟨_, _, consumers, _, rfl, hask, hend⟩ := h.of_bind
    obtain ⟨rfl, rfl⟩ := returns_request hask
    split at hend
    · next hall =>
      obtain ⟨rfl, -⟩ := hend.of_pure
      rintro e he
      obtain rfl := List.mem_singleton.mp he
      exact listed_ne_running hall hname
    · exact hend.not_throw.elim

theorem assertContainersAbsent_untold {identifiers : List String} {s s' : σ}
    (h : (assertContainersAbsent identifiers : AgentMethod σ Unit).Returns s seg () s') :
    Untold container seg := by
  induction identifiers generalizing s seg with
  | nil =>
    obtain ⟨rfl, -⟩ := h.of_pure
    exact fun _ he => absurd he (List.not_mem_nil)
  | cons identifier rest ih =>
    obtain ⟨_, _, _, _, rfl, hone, hrest⟩ := h.of_bind
    obtain ⟨_, _, found, _, rfl, hask, hfound⟩ := hone.of_bind
    obtain ⟨rfl, rfl⟩ := returns_request hask
    cases found with
    | none =>
      obtain ⟨rfl, -, rfl⟩ := hfound.of_pure
      refine (ih hrest).append fun e he => ?_
      obtain rfl := List.mem_singleton.mp he
      exact tells_inspect rfl
    | some _ => exact hfound.not_throw.elim

theorem assertContainersStopped_told (container : DockerContainerInspection)
    {containers : List DockerContainerInspection} {s s' : σ} (h : (assertContainersStopped containers : AgentMethod σ Unit).Returns s seg () s') :
    Untold container seg ∧
      (container ∈ containers → ∃ e ∈ seg, tells container e = some false) := by
  induction containers generalizing s seg with
  | nil =>
    obtain ⟨rfl, -⟩ := h.of_pure
    exact ⟨fun _ he => absurd he (List.not_mem_nil), fun hm => absurd hm (List.not_mem_nil)⟩
  | cons first rest ih =>
    obtain ⟨_, later, _, _, rfl, hone, hrest⟩ := h.of_bind
    obtain ⟨_, _, current, _, rfl, hask, hstopped⟩ := hone.of_bind
    obtain ⟨rfl, rfl⟩ := returns_request hask
    split at hstopped
    · exact hstopped.not_throw.elim
    · next hcurrent =>
      obtain ⟨rfl, -, rfl⟩ := hstopped.of_pure
      have hrunning : current.any DockerContainerInspection.running = false := by
        cases current with
        | none => rfl
        | some current => simpa using hcurrent
      obtain ⟨huntold, htold⟩ := ih hrest
      refine ⟨huntold.append fun e he => ?_, fun hm => ?_⟩
      · obtain rfl := List.mem_singleton.mp he
        exact tells_inspect hrunning
      · obtain rfl | hm := List.mem_cons.mp hm
        · refine ⟨_, List.mem_append_right later List.mem_cons_self, ?_⟩
          rw [tells_inspect_self, hrunning]
        · obtain ⟨e, he, htell⟩ := htold hm
          exact ⟨e, List.mem_append_left _ he, htell⟩

theorem tasks_spare {c : AgentCall} (hc : Tasks c) : Spares container c := by
  cases c with
  | request r => cases r <;> first | exact hc.elim | trivial
  | _ => trivial

theorem stops_spare {stop : WorkerStop} {c : AgentCall}
    (hid : stop.identifier ≠ getContainerIdentifier container) (hc : Stops stop c) :
    Spares container c := by
  cases c with
  | request r =>
    cases r with
    | inspectContainer _ | killContainer _ _ =>
      obtain rfl : _ = stop.identifier := hc
      exact hid
    | updateContainerRestartPolicy _ _ => trivial
    | _ => exact hc.elim
  | _ => trivial

theorem distinctContainers_nodup (containers : List DockerContainerInspection)
    (seen : List String) :
    ((distinctContainers seen containers).map getContainerIdentifier).Nodup ∧
      ∀ container ∈ distinctContainers seen containers, getContainerIdentifier container ∉ seen := by
  induction containers generalizing seen with
  | nil => exact ⟨List.nodup_nil, fun _ hm => absurd hm (List.not_mem_nil)⟩
  | cons first rest ih =>
    unfold distinctContainers
    split
    · exact ih seen
    · next hfirst =>
      obtain ⟨hnodup, hunseen⟩ := ih (getContainerIdentifier first :: seen)
      refine ⟨?_, fun container hm => ?_⟩
      · rw [List.map_cons, List.nodup_cons]
        refine ⟨fun hm => ?_, hnodup⟩
        obtain ⟨other, hother, hsame⟩ := List.mem_map.mp hm
        exact hunseen other hother (hsame ▸ List.mem_cons_self)
      · obtain rfl | hm := List.mem_cons.mp hm
        · exact hfirst
        · exact fun hseen => hunseen container hm (List.mem_cons_of_mem _ hseen)

theorem stopAllGracefully_uses {S : AgentCall → Prop} {containers : List DockerContainerInspection}
    {roleOf : DockerContainerInspection → WorkerShutdownRole} (hnow : S .now)
    (hstop : ∀ container ∈ containers, ∀ c, Stops (d.stopOf roleOf container) c → S c) :
    (d.stopAllGracefully containers roleOf).Uses S := by
  have hreports (startedAt : ℤ)
      (settled : List (DockerContainerInspection × Except Failure WorkerShutdownReport)) :
      (d.settledReports roleOf startedAt settled : AgentMethod WorkerRolloutLocals _).Uses S := by
    induction settled with
    | nil => exact uses_pure _
    | cons entry rest ih =>
      obtain ⟨container, result⟩ := entry
      cases result with
      | ok own => exact uses_bind ih fun _ => uses_pure _
      | error error => exact uses_bind (uses_now hnow) fun _ => uses_bind ih fun _ => uses_pure _
  refine uses_bind (uses_now hnow) fun startedAt => ?_
  refine uses_bind (uses_lift (uses_allSettled fun p hp => ?_)) fun settled => ?_
  · obtain ⟨container, hm, rfl⟩ := List.mem_map.mp hp
    exact fun s => (stopWorkerContainerGracefully_confined s).mono (hstop container hm)
      fun _ _ => trivial
  · exact uses_bind (hreports _ _) fun _ => uses_bind (uses_assign _) fun _ => uses_pure _

theorem stopOthers_told (container : DockerContainerInspection) {s s' : WorkerRolloutLocals}
    (h : (d.stopOthers r).Returns s seg () s') :
    (container ∈ r.previousContainers →
      ∀ before, lastTold container (seg ++ before) = some false) ∧
    ((∀ other ∈ r.pick r.plan.resetCandidates ++ r.previousContainers,
        getContainerIdentifier other ≠ getContainerIdentifier container) →
      getContainerName container ∉ r.previousContainers.map getContainerName →
      Untold container seg) := by
  obtain ⟨resetting, _, _, _, rfl, hreset, h₁⟩ := h.of_bind
  obtain ⟨unused, _, _, _, rfl, hunused, h₂⟩ := h₁.of_bind
  obtain ⟨reading, _, _, _, rfl, hrestarts, h₃⟩ := h₂.of_bind
  obtain ⟨_, _, _, _, rfl, hassign, h₄⟩ := h₃.of_bind
  obtain ⟨rfl, rfl⟩ := hassign.of_assign
  obtain ⟨stopping, _, reports, _, rfl, hstop, h₅⟩ := h₄.of_bind
  obtain ⟨failing, checking, _, _, rfl, hfail, hcheck⟩ := h₅.of_bind
  obtain ⟨hchecked, htold⟩ := assertContainersStopped_told container hcheck
  simp only [List.append_nil, List.append_assoc]
  refine ⟨fun hm before => ?_, fun hother hname => ?_⟩
  · obtain ⟨e, he, htell⟩ := htold hm
    exact hchecked.told he htell
  · rw [List.forall_mem_append] at hother
    have hfailed : Untold container failing :=
      untold_of_spares (hfail.calls failUnstoppedPrevious_framed.uses)
    have hstopped : Untold container stopping := untold_of_spares (hstop.calls
      (stopAllGracefully_uses trivial fun other hm _ => stops_spare (hother.2 other hm)))
    have hread : Untold container reading := untold_of_spares (hrestarts.calls
      (readRestartLoopsBeforeStop_framed trivial (fun _ _ _ => trivial) hother.2).uses)
    refine hchecked.append (hfailed.append (hstopped.append (hread.append
      ((assertVolumeUnused_untold hname hunused).append ?_))))
    obtain ⟨stopped, _, staleReports, _, rfl, hstale, h₆⟩ := hreset.of_bind
    obtain ⟨failed, _, _, _, rfl, hunstopped, h₇⟩ := h₆.of_bind
    obtain ⟨removed, _, _, _, rfl, hremove, habsent⟩ := h₇.of_bind
    have hstaleStopped : Untold container stopped := untold_of_spares (hstale.calls
      (stopAllGracefully_uses trivial fun other hm _ => stops_spare (hother.1 other hm)))
    have hstaleFailed : Untold container failed :=
      untold_of_spares (hunstopped.calls failUnstopped_framed.uses)
    have hremoved : Untold container removed := untold_of_spares (hremove.calls
      (removals_framed fun _ => trivial).uses)
    exact (((assertContainersAbsent_untold habsent).append hremoved).append hstaleFailed).append
      hstaleStopped

theorem snapshotVolume_untold {s s' : σ} {snapshot : Option String}
    (h : (d.snapshotVolume : AgentMethod σ _).Returns s seg snapshot s') : Untold container seg := by
  unfold snapshotVolume at h
  split at h
  · obtain ⟨rfl, -⟩ := h.of_pure
    exact fun _ he => absurd he (List.not_mem_nil)
  · next volume _ =>
    obtain ⟨_, _, _, _, rfl, hunused, hsnapshot⟩ := h.of_bind
    have hunused : (assertVolumeUnused (some volume) [] : AgentMethod σ Unit).Returns _ _ () _ :=
      hunused
    refine Untold.append (untold_of_spares (hsnapshot.calls ?_))
      (assertVolumeUnused_untold (List.not_mem_nil) hunused)
    refine uses_bind ?_ fun _ => uses_pure _
    refine uses_bind (uses_request trivial) fun _ => uses_bind ?_ fun _ => uses_pure _
    exact (runWorkerVolumeTask_framed fun _ => tasks_spare).uses

theorem prepareCandidateSlot_untold {name : String} {s s' : σ} {kept : Bool}
    (hname : name ≠ getContainerIdentifier container)
    (h : (prepareCandidateSlot name : AgentMethod σ Bool).Returns s seg kept s') :
    Untold container seg := by
  obtain ⟨_, _, found, _, rfl, hask, hslot⟩ := h.of_bind
  obtain ⟨rfl, rfl⟩ := returns_request hask
  have hlook : Untold container
      [⟨.request (.inspectContainer name), some (.ok found)⟩] := untold_of_spares fun e he => by
    obtain rfl := List.mem_singleton.mp he
    exact hname
  refine Untold.append ?_ hlook
  cases found with
  | none =>
    obtain ⟨rfl, -⟩ := hslot.of_pure
    exact fun _ he => absurd he (List.not_mem_nil)
  | some existing =>
    dsimp only at hslot
    split at hslot
    · exact untold_of_spares (hslot.calls (uses_bind (uses_request trivial) fun _ => uses_pure _))
    · obtain ⟨_, _, _, _, rfl, hremove, hrest⟩ := hslot.of_bind
      obtain ⟨_, _, _, _, rfl, habsent, hend⟩ := hrest.of_bind
      obtain ⟨rfl, -⟩ := hend.of_pure
      exact (assertContainersAbsent_untold habsent).append
        (untold_of_spares (hremove.calls (uses_request trivial)))

theorem leftover_told (h : d.prepareWorkerRollout.Returns () seg r ())
    {answer : List DockerContainerInspection} (hlisting : d.listing answer ∈ seg)
    (hnodup : ((distinctContainers [] answer).map getContainerName).Nodup)
    (hmem : container ∈ distinctContainers [] answer) (hleftover : container ∉ r.containers) :
    lastTold container seg = some false := by
  obtain ⟨-, -, -, listed, unused, absences, removals, earlier, rfl, hcontainers, hunused, habsent,
    -, -, honly⟩ := prepareWorkerRollout_parts h
  obtain rfl := honly answer hlisting
  rw [hcontainers] at hleftover hunused
  have hfound : container ∈ (distinctContainers [] answer).filter (d.isLeftover r.candidates) := by
    refine List.mem_filter.mpr ⟨hmem, ?_⟩
    by_contra hlive
    exact hleftover (List.mem_filter.mpr ⟨hmem, by simpa using hlive⟩)
  have hname : getContainerName container ∉ ((distinctContainers [] answer).filter fun container =>
      !d.isLeftover r.candidates container).map getContainerName := by
    intro hm
    obtain ⟨other, hother, hsame⟩ := List.mem_map.mp hm
    have heq := List.inj_on_of_nodup_map hnodup (List.mem_of_mem_filter hother) hmem hsame
    exact hleftover (heq ▸ hother)
  refine (assertVolumeUnused_untold hname hunused).lastTold ?_
  refine (assertContainersAbsent_untold habsent).told
    (assertContainersAbsent_returns habsent _ (List.mem_map_of_mem hfound)) ?_
  rw [tells_inspect_self]
  rfl

theorem named_identifier (container : DockerContainerInspection) :
    container.Named (getContainerIdentifier container) := by
  unfold getContainerIdentifier
  split
  · exact .inr (.inr rfl)
  · exact .inl rfl

theorem of_mem_pick {names : List String} (hm : container ∈ r.pick names) :
    container ∈ r.containers ∧ getContainerName container ∈ names := by
  obtain ⟨name, hname, hfind⟩ := List.mem_filterMap.mp hm
  have hsame : getContainerName container = name := by simpa using List.find?_some hfind
  exact ⟨List.mem_reverse.mp (List.mem_of_find?_eq_some hfind), hsame ▸ hname⟩

theorem plan_stopFirst (hplanned : r = d.planRollout r.image r.candidates r.containers)
    (hplan : r.plan.isStopFirst = true) (name : String) :
    (name ∈ r.plan.resetCandidates ↔
      name ∈ r.candidateNames ∧ name ∈ r.containers.map getContainerName) ∧
    (name ∈ r.plan.stopBeforeStart →  name ∉ r.candidateNames) ∧ r.plan.retireAfterReady = [] := by
  have hp : r.plan = (d.planRollout r.image r.candidates r.containers).plan := congrArg _ hplanned
  have hnames : r.candidateNames = r.candidates.map WorkerCandidate.containerName := rfl
  rw [hp] at hplan ⊢
  rw [hnames]
  unfold planRollout planWorkerRollout at hplan ⊢
  dsimp only at hplan ⊢
  have hresets : ∀ (existing : List ExistingWorkerContainer) (names : List String),
      name ∈ (existing.filter fun container => container.name ∈ names).map
        ExistingWorkerContainer.name ↔ name ∈ names ∧ name ∈ existing.map
          ExistingWorkerContainer.name := by
    intro existing names
    simp only [List.mem_map, List.mem_filter, decide_eq_true_eq]
    constructor
    · rintro ⟨other, ⟨hm, hn⟩, rfl⟩
      exact ⟨hn, other, hm, rfl⟩
    · rintro ⟨hn, other, hm, rfl⟩
      exact ⟨other, ⟨hm, hn⟩, rfl⟩
  have hstops : ∀ (existing : List ExistingWorkerContainer) (names : List String),
      name ∈ (existing.filter fun container => container.name ∉ names).map
        ExistingWorkerContainer.name → name ∉ names := by
    intro existing names hm
    obtain ⟨other, hother, rfl⟩ := List.mem_map.mp hm
    simpa using List.of_mem_filter hother
  have hmap : (r.containers.map fun container => (⟨getContainerName container,
      container.label "nouva.deployment.id", d.isLive container⟩ : ExistingWorkerContainer)).map
        ExistingWorkerContainer.name = r.containers.map getContainerName := by
    rw [List.map_map]
    rfl
  split at hplan
  · cases hplan
  split at hplan
  · next hempty hvolume =>
    rw [if_neg hempty, if_pos hvolume, ← hmap]
    exact ⟨hresets _ _, hstops _ _, rfl⟩
  split at hplan
  · next hempty hvolume hpolicy =>
    rw [if_neg hempty, if_neg hvolume, if_pos hpolicy, ← hmap]
    exact ⟨hresets _ _, hstops _ _, rfl⟩
  · cases hplan

theorem plan_candidateFirst (hplanned : r = d.planRollout r.image r.candidates r.containers)
    (hplan : r.plan.isStopFirst = false) (hvolume : d.payload.volume.isSome = true)
    (hcandidates : r.candidates ≠ []) (hm : container ∈ r.containers)
    (hname : getContainerName container ∉ r.candidateNames) : d.isLive container = false := by
  have hp : r.plan = (d.planRollout r.image r.candidates r.containers).plan := congrArg _ hplanned
  rw [hp] at hplan
  unfold planRollout planWorkerRollout at hplan
  dsimp only at hplan
  rw [if_neg (by simpa using hcandidates)] at hplan
  split at hplan
  · cases hplan
  · next hnone =>
    by_contra hlive
    refine hnone ⟨hvolume, List.ne_nil_of_mem (a := ⟨getContainerName container,
      container.label "nouva.deployment.id", d.isLive container⟩) ?_⟩
    refine List.mem_filter.mpr ⟨List.mem_filter.mpr ⟨List.mem_map_of_mem hm, ?_⟩, ?_⟩
    · exact decide_eq_true hname
    · simpa using hlive

theorem Cleared.within {name : String} (hc : Cleared name seg) (later earlier : AgentHistory) :
    Cleared name (later ++ (seg ++ earlier)) := by
  obtain ⟨after, found, before, rfl, hgone⟩ := hc
  refine ⟨later ++ after, found, before ++ earlier, by simp, fun candidate hcandidate => ?_⟩
  obtain ⟨force, hm⟩ := hgone candidate hcandidate
  exact ⟨force, List.mem_append_right later hm⟩

theorem forceRemoveCandidates_returns {names : List String} {s s' : σ}
    (h : (forceRemoveCandidates names : AgentMethod σ Bool).Returns s seg true s') :
    ∀ name ∈ names, Cleared name seg := by
  induction names generalizing s seg with
  | nil => simp
  | cons name names ih =>
    obtain ⟨first, _, removed, _, rfl, hone, h₁⟩ := h.of_bind
    obtain ⟨_, _, rest, _, rfl, hrest, hend⟩ := h₁.of_bind
    obtain ⟨rfl, hboth, rfl⟩ := hend.of_pure
    obtain ⟨hok, rfl⟩ : removed.isOk = true ∧ rest = true := by simpa using hboth.symm
    rw [List.forall_mem_cons, List.nil_append]
    refine ⟨?_, fun other hother => (ih hrest other hother).within [] first⟩
    cases removed with
    | error _ => cases hok
    | ok _ =>
      obtain ⟨_, removal, found, _, rfl, hask, hfound⟩ := hone.of_settle.of_bind
      obtain ⟨rfl, rfl⟩ := returns_request hask
      have hcleared : Cleared name (removal ++
          [⟨.request (.inspectContainer name), some (.ok found)⟩]) := by
        refine ⟨removal, found, [], rfl, fun candidate hcandidate => ⟨true, ?_⟩⟩
        subst hcandidate
        obtain ⟨rfl, -⟩ := returns_request hfound
        exact List.mem_cons_self
      simpa using hcleared.within _ []

theorem findContainers_returns {names : List String} {s s' : σ}
    {found : List DockerContainerInspection}
    (h : (findContainers names : AgentMethod σ _).Returns s seg found s') :
    ∀ name ∈ names, ∃ answer, (∀ candidate, answer = some candidate → candidate ∈ found) ∧
      (⟨.request (.inspectContainer name), some (.ok answer)⟩ : AgentEvent) ∈ seg := by
  induction names generalizing s seg found with
  | nil => simp
  | cons name names ih =>
    obtain ⟨_, _, answer, _, rfl, hask, h₁⟩ := h.of_bind
    obtain ⟨rfl, rfl⟩ := returns_request hask
    obtain ⟨_, _, rest, _, rfl, hrest, hend⟩ := h₁.of_bind
    obtain ⟨rfl, rfl, rfl⟩ := hend.of_pure
    rw [List.forall_mem_cons, List.nil_append]
    refine ⟨⟨answer, fun candidate hcandidate => ?_, List.mem_append_right _ List.mem_cons_self⟩,
      fun other hother => ?_⟩
    · rw [hcandidate]
      exact List.mem_cons_self
    · obtain ⟨seen, hseen, hm⟩ := ih hrest other hother
      exact ⟨seen, fun candidate hc => List.mem_append_right _ (hseen candidate hc),
        List.mem_append_left _ hm⟩

theorem removeStoppedCandidates_returns
    {stopped : List (DockerContainerInspection × WorkerShutdownReport)} {s s' : σ}
    (h : (removeStoppedCandidates stopped : AgentMethod σ Bool).Returns s seg true s') :
    ∀ entry ∈ stopped, ∃ force,
      (⟨.request (.removeContainer (getContainerIdentifier entry.1) force none), some (.ok ())⟩ :
        AgentEvent) ∈ seg := by
  induction stopped generalizing s seg with
  | nil => simp
  | cons entry rest ih =>
    obtain ⟨candidate, report⟩ := entry
    rw [List.forall_mem_cons]
    unfold removeStoppedCandidates at h
    split at h
    · obtain ⟨_, _, _, _, _, _, hend⟩ := h.of_bind
      exact absurd hend.of_pure.2.1 (by simp)
    · obtain ⟨_, _, _, _, rfl, hremove, hrest⟩ := h.of_bind
      obtain ⟨rfl, rfl⟩ := returns_request hremove
      refine ⟨⟨_, List.mem_append_right _ List.mem_cons_self⟩, fun other hother => ?_⟩
      obtain ⟨force, hm⟩ := ih hrest other hother
      exact ⟨force, List.mem_append_left _ hm⟩

theorem discardFailedCandidates_returns {names : List String} {s s' : WorkerRolloutLocals}
    (h : (d.discardFailedCandidates names).Returns s seg true s') :
    ∀ name ∈ names, Cleared name seg := by
  obtain hgraceful | ⟨before, _, _, _, rfl, -, hforced⟩ := h.of_tryCatch
  · obtain ⟨looking, _, started, _, rfl, hfind, h₁⟩ := hgraceful.of_bind
    obtain ⟨stopping, removing, reports, _, rfl, hstop, hremove⟩ := h₁.of_bind
    intro name hname
    obtain ⟨found, hfound, hm⟩ := findContainers_returns hfind name hname
    obtain ⟨after, earlier, rfl⟩ := List.append_of_mem hm
    refine ⟨removing ++ (stopping ++ after), found, earlier, by simp, fun candidate hcandidate => ?_⟩
    obtain ⟨report, hreport, -⟩ := stopAllGracefully_each hstop candidate (hfound candidate hcandidate)
    obtain ⟨force, hremoved⟩ := removeStoppedCandidates_returns hremove _ hreport
    exact ⟨force, List.mem_append_left _ hremoved⟩
  · exact fun name hname => (forceRemoveCandidates_returns hforced name hname).within [] before

/-- Every container that the service had, but for those in the candidates' slots, was last seen
absent or stopped. Names of containers are unique. -/
def OthersStopped (d : WorkerDeployment) (r : PlannedWorkerRollout) (prepared h : AgentHistory) :
    Prop :=
  ∀ answer, d.listing answer ∈ prepared →
    ((distinctContainers [] answer).map getContainerName).Nodup →
    ∀ container ∈ distinctContainers [] answer,
      (∀ name ∈ r.candidateNames, ¬ container.Named name) → lastTold container h = some false

theorem prepared_containers {prepared : AgentHistory} {answer : List DockerContainerInspection}
    (h : d.prepareWorkerRollout.Returns () prepared r ()) (hlisting : d.listing answer ∈ prepared) :
    r = d.planRollout r.image r.candidates r.containers ∧
      r.containers = (distinctContainers [] answer).filter fun container =>
        !d.isLeftover r.candidates container := by
  obtain ⟨-, -, hplanned, listed, _, _, _, _, -, hcontainers, -, -, -, -, honly⟩ :=
    prepareWorkerRollout_parts h
  obtain rfl := honly answer hlisting
  exact ⟨hplanned, hcontainers⟩

theorem othersStopped_prepared {prepared : AgentHistory}
    (h : d.prepareWorkerRollout.Returns () prepared r ()) (hplan : r.plan.isStopFirst = false)
    (hvolume : d.payload.volume.isSome = true) (hcandidates : r.candidates ≠ []) :
    d.OthersStopped r prepared prepared := by
  intro answer hlisting hnodup container hmem hother
  obtain ⟨hplanned, hcontainers⟩ := prepared_containers h hlisting
  refine leftover_told h hlisting hnodup hmem fun hm => ?_
  have hname : getContainerName container ∉ r.candidateNames := fun hname =>
    hother _ hname (.inr (.inr rfl))
  have hstopped := plan_candidateFirst hplanned hplan hvolume hcandidates hm hname
  have hleftover : d.isLeftover r.candidates container = true := by
    have hslot : decide (getContainerName container ∈
        r.candidates.map WorkerCandidate.containerName) = false := decide_eq_false hname
    unfold isLeftover
    rw [hstopped, hslot]
    rfl
  rw [hcontainers] at hm
  simpa [hleftover] using List.of_mem_filter hm

theorem othersStopped_stopped {prepared : AgentHistory} {s s' : WorkerRolloutLocals}
    {snapshot : Option String} (h : d.prepareWorkerRollout.Returns () prepared r ())
    (hplan : r.plan.isStopFirst = true) (hstop : (d.stopPrevious r).Returns s seg snapshot s') :
    d.OthersStopped r prepared (seg ++ prepared) := by
  intro answer hlisting hnodup container hmem hother
  obtain ⟨hplanned, hcontainers⟩ := prepared_containers h hlisting
  have hsub : ∀ other ∈ r.containers, other ∈ distinctContainers [] answer := fun other hm =>
    List.mem_of_mem_filter (hcontainers ▸ hm)
  obtain ⟨stopping, snapping, _, _, rfl, hstopped, hsnapshot⟩ := hstop.of_bind
  rw [List.append_assoc]
  refine (snapshotVolume_untold hsnapshot).lastTold ?_
  obtain ⟨hprevious, hspared⟩ := stopOthers_told container hstopped
  by_cases hm : container ∈ r.containers
  · have hname : getContainerName container ∉ r.candidateNames := fun hname =>
      hother _ hname (.inr (.inr rfl))
    have hdistinct : (r.containers.map getContainerName).Nodup :=
      hcontainers ▸ hnodup.sublist (List.filter_sublist.map getContainerName)
    refine hprevious ?_ prepared
    obtain hstops | hretires := mem_previous_or_retired hplanned hdistinct hm hname
    · exact hstops
    · have hnone := (plan_stopFirst hplanned hplan "").2.2
      unfold PlannedWorkerRollout.retiredContainers at hretires
      rw [hnone] at hretires
      exact absurd hretires (List.not_mem_nil)
  · refine Untold.lastTold (hspared (fun other hpicked hsame => ?_) fun hname => ?_)
      (leftover_told h hlisting hnodup hmem hm)
    · have hkept : other ∈ r.containers := by
        obtain hpicked | hpicked := List.mem_append.mp hpicked <;> exact (of_mem_pick hpicked).1
      have hone := List.inj_on_of_nodup_map (distinctContainers_nodup answer []).1
        (hsub other hkept) hmem hsame
      exact hm (hone ▸ hkept)
    · obtain ⟨other, hpicked, hsame⟩ := List.mem_map.mp hname
      have hkept := (of_mem_pick hpicked).1
      have hone := List.inj_on_of_nodup_map hnodup (hsub other hkept) hmem hsame
      exact hm (hone ▸ hkept)

end NouvaAgent.WorkerDeployment
