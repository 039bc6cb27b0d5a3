import NouvaAgent.WorkerRestoreEvidence
import NouvaAgent.WorkerRolloutStops

namespace NouvaAgent.WorkerDeployment

open Text Interaction Agent Method WorkerShutdown WorkerVolume WorkerRollout

def RemovalAttempted (container : DockerContainerInspection) (h : AgentHistory) : Prop :=
  ∃ answer, (⟨.request (.removeContainer (getContainerIdentifier container) false none), answer⟩ :
    AgentEvent) ∈ h

def Gone (container : DockerContainerInspection) (h : AgentHistory) : Prop :=
  ∃ later before, h = later ++ before ∧
    (⟨.request (.removeContainer (getContainerIdentifier container) false none), some (.ok ())⟩ :
      AgentEvent) ∈ before ∧
    (⟨.request (.inspectContainer (getContainerIdentifier container)), some (.ok none)⟩ :
      AgentEvent) ∈ later

def Unstopped (container : DockerContainerInspection) (shutdowns : List WorkerShutdownReport) :
    Prop :=
  ∃ report ∈ shutdowns, report.containerName = getContainerName container ∧
    mayStillRun report = true

variable (d : WorkerDeployment)

def StoppedGracefully (container : DockerContainerInspection)
    (shutdowns : List WorkerShutdownReport) (h : AgentHistory) : Prop :=
  ∃ report ∈ shutdowns, mayStillRun report = false ∧
    StoppedBeside d.fuel (d.stopOf d.retiredRole container, .ok report) h

def Retired (container : DockerContainerInspection) (shutdowns : List WorkerShutdownReport)
    (h : AgentHistory) : Prop :=
  ∃ later before, h = later ++ before ∧ d.StoppedGracefully container shutdowns before ∧
    RemovalAttempted container later

def setsPolicy : AgentHistory → Bool
  | ⟨.request (.updateContainerRestartPolicy _ _), _⟩ :: _ => true
  | _ => false

/-- Whether the slot of the container that was asked for last under the name kept what ran in it:
right before, the restart policy was set back. -/
def slotKept (name : String) : AgentHistory → Bool
  | ⟨.request (.ensureContainer spec _ _), _⟩ :: before =>
    if spec.name = name then setsPolicy before else slotKept name before
  | _ :: before => slotKept name before
  | [] => false

/-- Whether the candidate's slot held a live replica, when the service was listed and to the end. -/
def adopted (r : PlannedWorkerRollout) (candidate : WorkerCandidate) (before : AgentHistory) : Bool :=
  !r.plan.isStopFirst && ((r.pick r.candidateNames).any fun container =>
    getContainerName container = candidate.containerName && container.running &&
      d.isRecordedLive container) && slotKept candidate.containerName before

def Ready (r : PlannedWorkerRollout) (candidate : WorkerCandidate) (h : AgentHistory) : Prop :=
  ∃ before, (∃ id, (⟨.request (.ensureContainer candidate.spec false false), some (.ok id)⟩ :
      AgentEvent) ∈ before) ∧
    WorkerRestore.Passed d.fuel
      { containerName := candidate.containerName, hasHealthcheck := candidate.hasHealthcheck
        ignoreEarlierRestarts := d.adopted r candidate before } before h

/-- The stops that a rollout calls for: candidates that an interrupted attempt left, then what is
stopped before the candidates start or retired after they are ready. -/
def stopsOf (r : PlannedWorkerRollout) : List WorkerStop :=
  (r.pick r.plan.resetCandidates).map (d.stopOf fun _ => .candidate) ++
    (r.previousContainers ++ r.retiredContainers).map (d.stopOf d.retiredRole)

def listing (answer : List DockerContainerInspection) : AgentEvent :=
  ⟨.request (.listContainersByLabels (workerServiceLabels d.payload.serviceId)), some (.ok answer)⟩

/-- What a committed rollout leaves of the service: each replica passed the readiness check, every
other container was dealt with, and every stop was reported. -/
structure Converged (r : PlannedWorkerRollout) (result : WorkerDeployResult) (h : AgentHistory) :
    Prop where
  ready : ∀ replicaIndex : ℕ, (replicaIndex : ℚ) < d.payload.replicaCount → ∃ candidate,
    buildWorkerContainerSpec d.environment d.payload r.image replicaIndex = .ok candidate ∧
      d.Ready r candidate h
  retired : ∀ answer, d.listing answer ∈ h →
    ((distinctContainers [] answer).map getContainerName).Nodup →
    ∀ container ∈ distinctContainers [] answer,
      (∀ replicaIndex : ℕ, (replicaIndex : ℚ) < d.payload.replicaCount →
        getContainerName container ≠ buildWorkerReplicaContainerName d.payload.serviceId
          d.payload.deploymentId replicaIndex) →
      Gone container h ∨ d.Retired container result.rollout.shutdowns h ∨
        Unstopped container result.rollout.shutdowns
  reported : ∃ attempts : List StopAttempt, Attempts d.fuel attempts h ∧
    attempts.map Prod.fst = d.stopsOf r ∧ List.Forall₂ Reports attempts result.rollout.shutdowns

variable {d} {r : PlannedWorkerRollout} {h : AgentHistory} {σ : Type}
  {container : DockerContainerInspection}

theorem Ready.append {candidate : WorkerCandidate} (later : AgentHistory)
    (hr : d.Ready r candidate h) : d.Ready r candidate (later ++ h) := by
  obtain ⟨before, hensured, hpassed⟩ := hr
  exact ⟨before, hensured, hpassed.append later⟩

theorem Gone.within (hg : Gone container h) (later earlier : AgentHistory) :
    Gone container (later ++ (h ++ earlier)) := by
  obtain ⟨after, before, rfl, hremoved, habsent⟩ := hg
  exact ⟨later ++ after, before ++ earlier, by simp, List.mem_append_left earlier hremoved,
    List.mem_append_right later habsent⟩

theorem mem_pick {names : List String} (hnodup : (r.containers.map getContainerName).Nodup)
    (hmem : container ∈ r.containers) (hname : getContainerName container ∈ names) :
    container ∈ r.pick names := by
  refine List.mem_filterMap.mpr ⟨getContainerName container, hname, ?_⟩
  cases hfind : r.containers.reverse.find? fun other =>
      getContainerName other = getContainerName container with
  | none =>
    have hnone := List.find?_eq_none.mp hfind container (List.mem_reverse.mpr hmem)
    simp at hnone
  | some other =>
    have hother : other ∈ r.containers := List.mem_reverse.mp (List.mem_of_find?_eq_some hfind)
    have hsame : getContainerName other = getContainerName container := by
      simpa using List.find?_some hfind
    rw [List.inj_on_of_nodup_map hnodup hother hmem hsame]

theorem StoppedGracefully.mono {shutdowns shutdowns' : List WorkerShutdownReport}
    (hs : d.StoppedGracefully container shutdowns h) (hsub : shutdowns ⊆ shutdowns')
    (later earlier : AgentHistory) :
    d.StoppedGracefully container shutdowns' (later ++ (h ++ earlier)) := by
  obtain ⟨report, hreport, hstopped, hbeside⟩ := hs
  exact ⟨report, hsub hreport, hstopped, hbeside.within later earlier⟩

theorem Retired.before {shutdowns : List WorkerShutdownReport}
    (hr : d.Retired container shutdowns h) (earlier : AgentHistory) :
    d.Retired container shutdowns (h ++ earlier) := by
  obtain ⟨later, before, rfl, hstopped, hremoved⟩ := hr
  exact ⟨later, before ++ earlier, List.append_assoc _ _ _, hstopped.mono (fun _ h => h) [] earlier,
    hremoved⟩

theorem planWorkerRollout_covers {rolloutPolicy : WorkerRolloutPolicy} {hasVolume : Bool}
    {deploymentId : String} {candidateNames : List String}
    {containers : List ExistingWorkerContainer} {existing : ExistingWorkerContainer}
    (hmem : existing ∈ containers) (hname : existing.name ∉ candidateNames) :
    let plan :=
      planWorkerRollout rolloutPolicy hasVolume deploymentId candidateNames containers
    existing.name ∈ plan.stopBeforeStart ∨ existing.name ∈ plan.retireAfterReady := by
  have hother : existing.name ∈ (containers.filter fun container =>
      container.name ∉ candidateNames).map ExistingWorkerContainer.name :=
    List.mem_map_of_mem (List.mem_filter.mpr ⟨hmem, by simpa using hname⟩)
  unfold planWorkerRollout
  dsimp only
  split
  · exact .inr hother
  split
  · exact .inl hother
  split
  · exact .inl hother
  · exact .inr hother

theorem mem_previous_or_retired
    (hplanned : r = d.planRollout r.image r.candidates r.containers)
    (hnodup : (r.containers.map getContainerName).Nodup) (hmem : container ∈ r.containers)
    (hname : getContainerName container ∉ r.candidateNames) :
    container ∈ r.previousContainers ∨ container ∈ r.retiredContainers := by
  have hcovers : getContainerName container ∈ r.plan.stopBeforeStart ∨
      getContainerName container ∈ r.plan.retireAfterReady := by
    rw [hplanned]
    exact planWorkerRollout_covers (List.mem_map_of_mem hmem) hname
  exact hcovers.imp (mem_pick hnodup hmem) (mem_pick hnodup hmem)

theorem previousContainers_nil (hplan : r.plan.isStopFirst = false) :
    r.pick r.plan.resetCandidates = [] ∧ r.previousContainers = [] := by
  unfold PlannedWorkerRollout.previousContainers
  cases hp : r.plan with
  | candidateFirst reason names => exact ⟨rfl, rfl⟩
  | stopFirst reason resets names =>
    rw [hp] at hplan
    cases hplan

structure Prepared (d : WorkerDeployment) (r : PlannedWorkerRollout) (h : AgentHistory) : Prop where
  counted : assertReplicaCount d.payload.replicaCount = .ok ()
  built : buildWorkerContainerSpecs d.environment d.payload r.image
    d.payload.replicaCount.num.toNat 0 = .ok r.candidates
  planned : r = d.planRollout r.image r.candidates r.containers
  stopsNothing : ∀ e ∈ h, StopsNothing e.call
  listed : ∃ answer, (∀ e ∈ h, ListsNothing e.call ∨ e = d.listing answer) ∧
    r.containers.Sublist (distinctContainers [] answer) ∧
    ∀ container ∈ distinctContainers [] answer, container ∈ r.containers ∨ Gone container h

theorem assertContainersAbsent_returns {identifiers : List String} {s s' : σ} {seg : AgentHistory}
    (h : (assertContainersAbsent identifiers : AgentMethod σ Unit).Returns s seg () s') :
    ∀ identifier ∈ identifiers,
      (⟨.request (.inspectContainer identifier), some (.ok none)⟩ : AgentEvent) ∈ seg := by
  intro identifier hmem
  obtain ⟨_, part, _, hpart, hround⟩ := h.of_forEach identifier hmem
  obtain ⟨_, _, found, _, rfl, hask, hfound⟩ := hround.of_bind
  obtain ⟨rfl, rfl⟩ := returns_request hask
  cases found with
  | none => exact hpart.subset (List.mem_append_right _ List.mem_cons_self)
  | some _ => exact hfound.not_throw.elim

theorem createWorkerVolume_framed : (d.createWorkerVolume : AgentMethod σ Unit).Framed Plain := by
  unfold createWorkerVolume
  split
  · exact framed_pure ()
  · exact framed_request ⟨trivial, fun _ => by simp⟩

theorem rolloutImage_uses : (d.rolloutImage : AgentMethod σ _).Uses Plain := by
  unfold rolloutImage
  split
  · refine uses_bind ?_ fun _ => uses_pure _
    exact d.environment.ensureWorkerImage_uses _ ⟨trivial, fun _ => by simp⟩
      ⟨trivial, fun _ => by simp⟩
  · exact uses_request ⟨trivial, fun _ => by simp⟩

theorem failUnstopped_framed {S : AgentCall → Prop} {report : Option WorkerShutdownReport}
    {head tail : String} : (failUnstopped report head tail : AgentMethod σ Unit).Framed S := by
  cases report with
  | none => exact framed_pure ()
  | some _ => exact framed_throw _

theorem failUnstoppedPrevious_framed {S : AgentCall → Prop} {report : Option WorkerShutdownReport} :
    (failUnstoppedPrevious report : AgentMethod σ Unit).Framed S := by
  cases report with
  | none => exact framed_pure ()
  | some _ => exact framed_throw _

theorem removals_framed {S : AgentCall → Prop} {containers : List DockerContainerInspection}
    (hremove : ∀ nameOrId, S (.request (.removeContainer nameOrId false none))) :
    (Method.forEach containers fun container =>
      request (.removeContainer (getContainerIdentifier container) false none) :
        AgentMethod σ Unit).Framed S :=
  framed_forEach fun _ _ => framed_request (hremove _)

theorem removals_gone {containers : List DockerContainerInspection} {s t u : σ}
    {removals absences : AgentHistory}
    (hremove : (Method.forEach containers fun container =>
      request (.removeContainer (getContainerIdentifier container) false none) :
        AgentMethod σ Unit).Returns s removals () t)
    (habsent : (assertContainersAbsent (containers.map getContainerIdentifier) :
      AgentMethod σ Unit).Returns t absences () u) :
    ∀ container ∈ containers, Gone container (absences ++ removals) := by
  intro container hmem
  obtain ⟨_, part, _, hpart, hround⟩ := hremove.of_forEach container hmem
  obtain ⟨rfl, rfl⟩ := returns_request hround
  exact ⟨absences, removals, rfl, hpart.subset List.mem_cons_self,
    assertContainersAbsent_returns habsent _ (List.mem_map_of_mem hmem)⟩

theorem prepareWorkerRollout_parts {seg : AgentHistory}
    (h : d.prepareWorkerRollout.Returns () seg r ()) :
    assertReplicaCount d.payload.replicaCount = .ok () ∧
    buildWorkerContainerSpecs d.environment d.payload r.image
      d.payload.replicaCount.num.toNat 0 = .ok r.candidates ∧
    r = d.planRollout r.image r.candidates r.containers ∧
    ∃ answer unused absences removals earlier,
      seg = unused ++ (absences ++ (removals ++ (d.listing answer :: earlier))) ∧
      r.containers = (distinctContainers [] answer).filter
        (fun container => !d.isLeftover r.candidates container) ∧
      (assertVolumeUnused d.payload.volume (r.containers.map getContainerName) :
        AgentAction Unit).Returns () unused () () ∧
      (assertContainersAbsent (((distinctContainers [] answer).filter
        (d.isLeftover r.candidates)).map getContainerIdentifier) :
        AgentAction Unit).Returns () absences () () ∧
      (Method.forEach ((distinctContainers [] answer).filter (d.isLeftover r.candidates))
        fun leftover => request (.removeContainer (getContainerIdentifier leftover) false none) :
        AgentAction Unit).Returns () removals () () ∧
      (∀ e ∈ unused ++ (absences ++ (removals ++ earlier)), Plain e.call) ∧
      ∀ other, d.listing other ∈ seg → other = answer := by
  obtain ⟨_, _, _, _, rfl, hcount, h₁⟩ := h.of_bind
  obtain ⟨rfl, hcounted, -⟩ := hcount.of_ofExcept
  obtain ⟨_, _, _, _, rfl, hvolume, h₂⟩ := h₁.of_bind
  obtain ⟨rfl, -, -⟩ := hvolume.of_ofExcept
  obtain ⟨network, _, _, _, rfl, hnetwork, h₃⟩ := h₂.of_bind
  obtain ⟨created, _, _, _, rfl, hcreate, h₄⟩ := h₃.of_bind
  obtain ⟨imaged, _, image, _, rfl, himage, h₅⟩ := h₄.of_bind
  obtain ⟨_, _, candidates, _, rfl, hbuild, h₆⟩ := h₅.of_bind
  obtain ⟨rfl, hbuilt, -⟩ := hbuild.of_ofExcept
  obtain ⟨_, _, _, _, rfl, hlist, h₇⟩ := h₆.of_bind
  obtain ⟨_, _, answer, _, rfl, hask, hdistinct⟩ := hlist.of_bind
  obtain ⟨rfl, rfl⟩ := returns_request hask
  obtain ⟨rfl, rfl, -⟩ := hdistinct.of_pure
  obtain ⟨removals, _, _, _, rfl, hremove, h₈⟩ := h₇.of_bind
  obtain ⟨absences, _, _, _, rfl, habsent, h₉⟩ := h₈.of_bind
  obtain ⟨unused, _, _, _, rfl, hunused, hpure⟩ := h₉.of_bind
  obtain ⟨rfl, rfl, -⟩ := hpure.of_pure
  have hn : ∀ e ∈ network, Plain e.call :=
    hnetwork.calls (uses_request ⟨trivial, fun _ => by simp⟩)
  have hc := hcreate.calls createWorkerVolume_framed.uses
  have hi := himage.calls rolloutImage_uses
  have hr : ∀ e ∈ removals, Plain e.call :=
    hremove.calls (removals_framed fun _ => ⟨trivial, fun _ => by simp⟩).uses
  have ha := habsent.calls (assertContainersAbsent_framed fun _ _ => Looks.plain trivial).uses
  have hu := hunused.calls (assertVolumeUnused_framed fun _ => Looks.plain).uses
  refine ⟨hcounted, hbuilt, rfl, answer, unused, absences, removals, imaged ++ (created ++ network),
    by simp [listing], rfl, hunused, habsent, hremove, ?_, fun other hother => ?_⟩
  · simp only [List.forall_mem_append]
    exact ⟨hu, ha, hr, hi, hc, hn⟩
  · simp only [List.nil_append, List.append_nil, List.append_assoc, List.mem_append,
      List.mem_singleton] at hother
    obtain hm | hm | hm | hm | hm | hm | hm := hother
    · exact absurd rfl ((hu _ hm).2 _)
    · exact absurd rfl ((ha _ hm).2 _)
    · exact absurd rfl ((hr _ hm).2 _)
    · simpa [listing] using hm
    · exact absurd rfl ((hi _ hm).2 _)
    · exact absurd rfl ((hc _ hm).2 _)
    · exact absurd rfl ((hn _ hm).2 _)

theorem prepareWorkerRollout_returns {seg : AgentHistory}
    (h : d.prepareWorkerRollout.Returns () seg r ()) : d.Prepared r seg := by
  obtain ⟨hcounted, hbuilt, hplanned, answer, unused, absences, removals, earlier, rfl, hcontainers,
    -, habsent, hremove, hplain, -⟩ := prepareWorkerRollout_parts h
  have hevent : ∀ e ∈ unused ++ (absences ++ (removals ++ (d.listing answer :: earlier))),
      Plain e.call ∨ e = d.listing answer := by
    simp only [List.forall_mem_append, List.forall_mem_cons] at hplain ⊢
    obtain ⟨hu, ha, hr, hearlier⟩ := hplain
    exact ⟨fun e he => .inl (hu e he), fun e he => .inl (ha e he), fun e he => .inl (hr e he),
      .inr trivial, fun e he => .inl (hearlier e he)⟩
  refine ⟨hcounted, hbuilt, hplanned, fun e he => ?_, answer, fun e he => ?_,
    hcontainers ▸ List.filter_sublist, fun container hmem => ?_⟩
  · obtain hplain | rfl := hevent e he
    · exact hplain.1
    · trivial
  · exact (hevent e he).imp_left And.right
  · cases hleftover : d.isLeftover r.candidates container with
    | false => exact .inl (hcontainers ▸ List.mem_filter.mpr ⟨hmem, by simp [hleftover]⟩)
    | true =>
      have hgone := removals_gone hremove habsent container (List.mem_filter.mpr ⟨hmem, hleftover⟩)
      exact .inr (List.append_assoc absences removals _ ▸
        hgone.within unused (d.listing answer :: earlier))

section

variable {attempts : List StopAttempt} {s s' t : WorkerRolloutLocals} {seg before : AgentHistory}

theorem resetStaleCandidates_returns (h : (d.resetStaleCandidates r).Returns s seg () s') :
    ∃ attempts : List StopAttempt, attempts.map Prod.fst =
      (r.pick r.plan.resetCandidates).map (d.stopOf fun _ => .candidate) ∧
      d.Advances attempts s seg s' := by
  obtain ⟨_, _, reports, _, rfl, hstop, h₁⟩ := h.of_bind
  obtain ⟨attempts, hstops, hadvances, -⟩ := stopAllGracefully_returns hstop
  obtain ⟨_, _, _, _, rfl, hfail, h₂⟩ := h₁.of_bind
  obtain ⟨_, _, _, _, rfl, hremove, habsent⟩ := h₂.of_bind
  refine ⟨attempts, hstops, ?_⟩
  have hfailed := hadvances.andPlain hfail failUnstopped_framed
  have hremoved := hfailed.andPlain hremove
    (removals_framed fun _ => ⟨trivial, fun _ => by simp⟩)
  simpa only [List.append_assoc] using
    hremoved.andPlain habsent (assertContainersAbsent_framed fun _ _ => Looks.plain trivial)

theorem stopOthers_returns (h : (d.stopOthers r).Returns s seg () s') :
    ∃ attempts : List StopAttempt, attempts.map Prod.fst =
      (r.pick r.plan.resetCandidates).map (d.stopOf fun _ => .candidate) ++
        r.previousContainers.map (d.stopOf d.retiredRole) ∧
      d.Advances attempts s seg s' ∧
      ∀ container ∈ r.previousContainers, d.StoppedGracefully container s'.shutdowns seg := by
  obtain ⟨_, _, _, _, rfl, hreset, h₁⟩ := h.of_bind
  obtain ⟨resets, hresets, hadvances⟩ := resetStaleCandidates_returns hreset
  obtain ⟨_, _, _, _, rfl, hunused, h₂⟩ := h₁.of_bind
  have hadvances := hadvances.andPlain hunused (assertVolumeUnused_framed fun _ => Looks.plain)
  obtain ⟨_, _, restarts, _, rfl, hrestarts, h₃⟩ := h₂.of_bind
  have hadvances := hadvances.andPlain hrestarts
    (readRestartLoopsBeforeStop_framed (Looks.plain trivial) (fun _ _ _ => Looks.plain trivial)
      fun _ _ => Looks.plain trivial)
  obtain ⟨_, _, _, _, rfl, hassign, h₄⟩ := h₃.of_bind
  have hadvances := hadvances.andAssign hassign fun _ => rfl
  obtain ⟨stopping, _, reports, stopped, rfl, hstop, h₅⟩ := h₄.of_bind
  obtain ⟨stops, hstops, hstopped, hshutdowns, -⟩ := stopAllGracefully_returns hstop
  obtain ⟨_, _, _, _, rfl, hfail, hcheck⟩ := h₅.of_bind
  have hnone : reports.find? mayStillRun = none := by
    cases hfind : reports.find? mayStillRun with
    | none => rfl
    | some report =>
      rw [hfind] at hfail
      exact hfail.not_throw.elim
  have hchecks : (assertContainersStopped r.previousContainers :
      AgentMethod WorkerRolloutLocals Unit).Framed Plain :=
    assertContainersStopped_framed fun _ _ => Looks.plain trivial
  have hsame : s'.shutdowns = stopped.shutdowns := by
    rw [(hcheck.framed hchecks).1, (hfail.framed (S := Plain) failUnstoppedPrevious_framed).1]
  refine ⟨resets ++ stops, by rw [List.map_append, hresets, hstops], ?_, fun container hmem => ?_⟩
  · have hadvances := hadvances.trans hstopped
    have hadvances := (hadvances.andPlain hfail failUnstoppedPrevious_framed).andPlain hcheck hchecks
    simpa only [List.append_assoc] using hadvances
  · obtain ⟨report, hreport, -, hsettled⟩ := stopAllGracefully_each hstop container hmem
    have hreport : report ∈ reports := (List.of_mem_zip hreport).2
    have hstopped : mayStillRun report = false :=
      Bool.eq_false_iff.mpr (List.find?_eq_none.mp hnone report hreport)
    refine ⟨report, ?_, hstopped, ?_⟩
    · rw [hsame, hshutdowns]
      exact List.mem_append_right _ hreport
    · simpa only [List.append_assoc] using (hsettled hstopped).within (_ ++ _) _

theorem snapshotVolume_framed : (d.snapshotVolume : AgentMethod σ _).Framed Plain := by
  unfold snapshotVolume
  split
  · exact framed_pure _
  · next volume _ =>
    have hunused : (assertVolumeUnused (some volume) [] : AgentMethod σ Unit).Framed Plain :=
      assertVolumeUnused_framed fun _ => Looks.plain
    refine framed_bind hunused fun _ => framed_bind ?_ fun _ => framed_pure _
    refine framed_bind (framed_request ⟨trivial, fun _ => by simp⟩) fun _ => ?_
    exact framed_bind (runWorkerVolumeTask_framed fun _ => tasks_plain) fun _ => framed_pure _

theorem prepareCandidateSlot_framed {S : AgentCall → Prop} {containerName : String}
    (hlook : ∀ nameOrId, S (.request (.inspectContainer nameOrId)))
    (hpolicy : ∀ nameOrId, S (.request (.updateContainerRestartPolicy nameOrId "unless-stopped")))
    (hremove : ∀ nameOrId, S (.request (.removeContainer nameOrId false none))) :
    (prepareCandidateSlot containerName : AgentMethod σ Bool).Framed S := by
  refine framed_bind (framed_request (hlook _)) fun found => ?_
  cases found with
  | none => exact framed_pure _
  | some existing =>
    dsimp only
    split
    · exact framed_bind (framed_request (hpolicy _)) fun _ => framed_pure _
    · refine framed_bind (framed_request (hremove _)) fun _ => ?_
      exact framed_bind (assertContainersAbsent_framed fun _ _ => hlook _) fun _ => framed_pure _

theorem prepareCandidateSlot_plain {containerName : String} :
    (prepareCandidateSlot containerName : AgentMethod σ Bool).Framed Plain := by
  refine prepareCandidateSlot_framed (fun _ => Looks.plain trivial)
    (fun _ => ⟨?_, fun _ => by simp⟩) fun _ => ⟨trivial, fun _ => by simp⟩
  show "unless-stopped" ≠ "no"
  decide

def MakesNothing (c : AgentCall) : Prop :=
  ∀ spec replace pull, c ≠ .request (.ensureContainer spec replace pull)

theorem makesNothing_of_looks {c : AgentCall} (hc : Looks c) : MakesNothing c := by
  rintro spec replace pull rfl
  exact hc

theorem slotKept_append {name : String} (hseg : ∀ e ∈ seg, MakesNothing e.call)
    (earlier : AgentHistory) : slotKept name (seg ++ earlier) = slotKept name earlier := by
  induction seg with
  | nil => rfl
  | cons e seg ih =>
    rw [List.forall_mem_cons] at hseg
    rw [← ih hseg.2, List.cons_append]
    conv => lhs; unfold slotKept
    split
    · next heq =>
      obtain ⟨rfl, -⟩ := List.cons.inj heq
      exact absurd rfl (hseg.1 _ _ _)
    · next heq => rw [(List.cons.inj heq).2]
    · next heq => cases heq

theorem prepareCandidateSlot_returns {containerName : String} {t t' : σ} {kept : Bool}
    (h : (prepareCandidateSlot containerName : AgentMethod σ Bool).Returns t seg kept t')
    (earlier : AgentHistory) : setsPolicy (seg ++ earlier) = kept := by
  obtain ⟨_, _, found, _, rfl, hask, hfound⟩ := h.of_bind
  obtain ⟨rfl, rfl⟩ := returns_request hask
  cases found with
  | none =>
    obtain ⟨rfl, rfl, -⟩ := hfound.of_pure
    rfl
  | some existing =>
    dsimp only at hfound
    split at hfound
    · obtain ⟨_, _, _, _, rfl, hpolicy, hpure⟩ := hfound.of_bind
      obtain ⟨rfl, rfl⟩ := returns_request hpolicy
      obtain ⟨rfl, rfl, -⟩ := hpure.of_pure
      rfl
    · obtain ⟨_, _, _, _, rfl, hremove, h₁⟩ := hfound.of_bind
      obtain ⟨_, _, _, _, rfl, habsent, hpure⟩ := h₁.of_bind
      obtain ⟨rfl, rfl, -⟩ := hpure.of_pure
      obtain ⟨_, _, _, _, rfl, hround, hnone⟩ := habsent.of_bind
      obtain ⟨rfl, -, -⟩ := hnone.of_pure
      obtain ⟨_, _, other, _, rfl, hlook, hother⟩ := hround.of_bind
      obtain ⟨rfl, rfl⟩ := returns_request hlook
      cases other with
      | none =>
        obtain ⟨rfl, -, -⟩ := hother.of_pure
        rfl
      | some _ => exact hother.not_throw.elim

theorem startCandidate_slots {candidate : WorkerCandidate}
    (hname : candidate.spec.name = candidate.containerName)
    (h : (startCandidate candidate).Returns s seg () s') :
    (∃ id, (⟨.request (.ensureContainer candidate.spec false false), some (.ok id)⟩ :
      AgentEvent) ∈ seg) ∧
    (∀ earlier, isAdopted s' candidate.containerName =
      (isAdopted s candidate.containerName &&
        slotKept candidate.containerName (seg ++ earlier))) ∧
    ∀ name, name ≠ candidate.containerName → isAdopted s' name = isAdopted s name ∧
      ∀ earlier, slotKept name (seg ++ earlier) = slotKept name earlier := by
  obtain ⟨slot, _, kept, _, rfl, hslot, h₁⟩ := h.of_bind
  obtain ⟨_, _, _, _, rfl, hadopted, h₂⟩ := h₁.of_bind
  obtain ⟨_, _, id, _, rfl, hensure, hid⟩ := h₂.of_bind
  have hmakes : (prepareCandidateSlot candidate.containerName :
      AgentMethod WorkerRolloutLocals Bool).Framed MakesNothing :=
    prepareCandidateSlot_framed (fun _ => by simp [MakesNothing]) (fun _ => by simp [MakesNothing])
      fun _ => by simp [MakesNothing]
  obtain ⟨rfl, hcalls⟩ := hslot.framed hmakes
  obtain ⟨rfl, rfl⟩ := hadopted.of_assign
  obtain ⟨rfl, rfl⟩ := returns_request hensure
  obtain ⟨rfl, rfl⟩ := hid.of_assign
  have hkept (earlier : AgentHistory) := prepareCandidateSlot_returns hslot earlier
  refine ⟨⟨id, by simp⟩, fun earlier => ?_, fun name hother => ⟨?_, fun earlier => ?_⟩⟩
  · have hown : slotKept candidate.containerName (([] ++ [⟨.request (.ensureContainer candidate.spec
        false false), some (.ok id)⟩] ++ [] ++ slot) ++ earlier) = kept := by
      simp only [List.nil_append, List.append_nil, List.cons_append, slotKept, hname, if_true, hkept]
    rw [hown]
    cases kept <;> simp [isAdopted, List.any_filter]
  · cases kept
    · simp only [isAdopted, List.any_filter]
      apply congrArg (List.any _)
      funext container
      by_cases heq : getContainerName container = name <;> simp [heq, hother]
    · simp [isAdopted]
  · simp only [List.nil_append, List.append_nil, List.cons_append, slotKept, hname]
    rw [if_neg hother.symm, slotKept_append hcalls]

theorem startEach_slots {candidates : List WorkerCandidate}
    (hnodup : (candidates.map WorkerCandidate.containerName).Nodup)
    (hnames : ∀ candidate ∈ candidates, candidate.spec.name = candidate.containerName)
    (h : (Method.forEach candidates startCandidate).Returns s seg () s') :
    (∀ candidate ∈ candidates,
      (∃ id, (⟨.request (.ensureContainer candidate.spec false false), some (.ok id)⟩ :
        AgentEvent) ∈ seg) ∧
      ∀ earlier, isAdopted s' candidate.containerName =
        (isAdopted s candidate.containerName &&
          slotKept candidate.containerName (seg ++ earlier))) ∧
    ∀ name ∉ candidates.map WorkerCandidate.containerName, isAdopted s' name = isAdopted s name ∧
      ∀ earlier, slotKept name (seg ++ earlier) = slotKept name earlier := by
  induction candidates generalizing s seg with
  | nil =>
    obtain ⟨rfl, -, rfl⟩ := h.of_pure
    simp
  | cons candidate rest ih =>
    rw [List.map_cons, List.nodup_cons] at hnodup
    rw [List.forall_mem_cons] at hnames
    obtain ⟨started, others, _, t, rfl, hstart, hrest⟩ := h.of_bind
    obtain ⟨⟨id, hensured⟩, hown, hapart⟩ := startCandidate_slots hnames.1 hstart
    obtain ⟨hrests, houtside⟩ := ih hnodup.2 hnames.2 hrest
    rw [List.forall_mem_cons]
    refine ⟨⟨⟨⟨id, List.mem_append_right others hensured⟩, fun earlier => ?_⟩,
      fun other hmem => ?_⟩, fun name hname => ?_⟩
    · obtain ⟨hsame, hslots⟩ := houtside _ hnodup.1
      rw [hsame, List.append_assoc, hslots, hown]
    · obtain ⟨⟨id', hensured'⟩, hkept⟩ := hrests other hmem
      refine ⟨⟨id', List.mem_append_left started hensured'⟩, fun earlier => ?_⟩
      have hdistinct : other.containerName ≠ candidate.containerName := fun heq =>
        hnodup.1 (heq ▸ List.mem_map_of_mem hmem)
      rw [List.append_assoc, hkept (started ++ earlier), (hapart _ hdistinct).1]
    · rw [List.map_cons, List.mem_cons, not_or] at hname
      obtain ⟨hsame, hslots⟩ := houtside name hname.2
      obtain ⟨hsame', hslots'⟩ := hapart name hname.1
      exact ⟨hsame.trans hsame', fun earlier => by rw [List.append_assoc, hslots, hslots']⟩

theorem startEach_returns {candidates : List WorkerCandidate}
    (h : (Method.forEach candidates startCandidate).Returns s seg () s') :
    d.Advances [] s seg s' := by
  induction candidates generalizing s seg with
  | nil =>
    obtain ⟨rfl, -, rfl⟩ := h.of_pure
    exact advances_of_plain (by simp) rfl
  | cons candidate rest ih =>
    obtain ⟨_, _, _, t, rfl, hstart, hrest⟩ := h.of_bind
    obtain ⟨_, _, kept, _, rfl, hslot, h₁⟩ := hstart.of_bind
    obtain ⟨_, _, _, _, rfl, hadopted, h₂⟩ := h₁.of_bind
    obtain ⟨_, _, id, _, rfl, hensure, hid⟩ := h₂.of_bind
    have hensures : (request (.ensureContainer candidate.spec false false) :
        AgentMethod WorkerRolloutLocals String).Framed Plain :=
      framed_request ⟨trivial, fun _ => by simp⟩
    have hnone : d.Advances [] s [] s := advances_of_plain (by simp) rfl
    have hslotted := (hnone.andPlain hslot prepareCandidateSlot_plain).andAssign hadopted
      fun _ => rfl
    have hstarted := (hslotted.andPlain hensure hensures).andAssign hid fun _ => rfl
    simpa using hstarted.trans (ih hrest)

structure Slotted (r : PlannedWorkerRollout) : Prop where
  nodup : r.candidateNames.Nodup
  named : ∀ candidate ∈ r.candidates, candidate.spec.name = candidate.containerName

theorem startCandidates_returns (hslotted : Slotted r)
    (hadopted : ∀ name, isAdopted s name = (!r.plan.isStopFirst &&
      (r.pick r.candidateNames).any fun container =>
        getContainerName container = name && container.running && d.isRecordedLive container))
    (h : (d.startCandidates r).Returns s seg () s') : d.Advances [] s seg s' ∧
      ∀ candidate ∈ r.candidates, ∀ earlier, d.Ready r candidate (seg ++ earlier) := by
  obtain ⟨starting, waits, _, t, rfl, hstart, hwaits⟩ := h.of_bind
  have hround : ∀ candidate ∈ r.candidates, (d.awaitCandidate candidate).Framed Looks :=
    fun _ _ => framed_bind framed_locals fun _ => waitForWorkerReadiness_framed fun _ h => h
  have hwaited : (Method.forEach r.candidates d.awaitCandidate).Framed Plain :=
    framed_forEach fun _ _ => framed_bind framed_locals fun _ =>
      waitForWorkerReadiness_framed fun _ => Looks.plain
  refine ⟨(startEach_returns hstart).andPlain hwaits hwaited, fun candidate hmem earlier => ?_⟩
  obtain ⟨⟨id, hensured⟩, hkept⟩ :=
    (startEach_slots hslotted.nodup hslotted.named hstart).1 candidate hmem
  obtain ⟨later, part, before, rfl, hawait, hlooks⟩ := hwaits.of_forEach_framed hround candidate hmem
  obtain ⟨_, waiting, _, _, rfl, hlocals, hwait⟩ := hawait.of_bind
  obtain ⟨rfl, rfl, rfl⟩ := hlocals.of_locals
  rw [waitForWorkerReadiness_eq_lift] at hwait
  obtain ⟨-, hran⟩ := hwait.of_lift
  refine ⟨before ++ (starting ++ earlier),
    ⟨id, List.mem_append_right before (List.mem_append_left earlier hensured)⟩, later, waiting, ?_, ?_⟩
  · simp only [List.append_nil, List.append_assoc]
  · rw [adopted, slotKept_append fun e he => makesNothing_of_looks (hlooks e he), ← hadopted,
      ← hkept earlier]
    exact hran

theorem cutOver_returns {snapshotName snapshot : Option String} (hslotted : Slotted r)
    (h : (d.cutOver r snapshotName).Returns s seg (.ok snapshot) s') : d.Advances [] s seg s' ∧
      ∀ candidate ∈ r.candidates, ∀ earlier, d.Ready r candidate (seg ++ earlier) := by
  obtain ⟨_, _, _, _, rfl, hadopt, h₁⟩ := h.of_bind
  obtain ⟨_, _, started, _, rfl, hstart, hend⟩ := h₁.of_bind
  have hnone : d.Advances [] s [] s := advances_of_plain (by simp) rfl
  have hadopted := hnone.andAssign hadopt fun _ => rfl
  cases started with
  | error error =>
    obtain ⟨_, _, failed, _, rfl, -, hfailed⟩ := hend.of_bind
    cases hfailed.of_pure.2.1
  | ok _ =>
    obtain ⟨rfl, hsame, rfl⟩ := hend.of_pure
    obtain ⟨rfl, rfl⟩ := hadopt.of_assign
    have hlive (name : String) : isAdopted { s with
        adoptedLiveReplicas := if r.plan.isStopFirst then [] else
          (r.pick r.candidateNames).filter fun container =>
            container.running && d.isRecordedLive container } name = (!r.plan.isStopFirst &&
          (r.pick r.candidateNames).any fun container =>
            getContainerName container = name && container.running &&
              d.isRecordedLive container) := by
      cases r.plan.isStopFirst
      · simp only [isAdopted, Bool.false_eq_true, if_false, List.any_filter, Bool.not_false,
          Bool.true_and]
        apply congrArg (List.any _)
        funext container
        ac_rfl
      · simp [isAdopted]
    obtain ⟨hadvances, hready⟩ := startCandidates_returns hslotted hlive hstart.of_settle
    refine ⟨by simpa using hadopted.trans hadvances, fun candidate hmem earlier => ?_⟩
    simpa using hready candidate hmem earlier

theorem reachCutover_returns {snapshot : Option String} (hslotted : Slotted r)
    (h : (d.reachCutover r).Returns s seg (.ok snapshot) s') :
    ∃ attempts : List StopAttempt, attempts.map Prod.fst =
      (r.pick r.plan.resetCandidates).map (d.stopOf fun _ => .candidate) ++
        r.previousContainers.map (d.stopOf d.retiredRole) ∧
      d.Advances attempts s seg s' ∧
      (∀ candidate ∈ r.candidates, ∀ earlier, d.Ready r candidate (seg ++ earlier)) ∧
      ∀ container ∈ r.previousContainers, d.StoppedGracefully container s'.shutdowns seg := by
  unfold reachCutover at h
  split at h
  case isTrue =>
    obtain ⟨_, _, stopped, _, rfl, hstop, h₁⟩ := h.of_bind
    cases stopped with
    | error error =>
      obtain ⟨_, _, failed, _, rfl, -, hfailed⟩ := h₁.of_bind
      cases hfailed.of_pure.2.1
    | ok snapshotName =>
      obtain ⟨_, _, _, _, rfl, hothers, hsnapshot⟩ := hstop.of_settle.of_bind
      obtain ⟨attempts, hstops, hadvances, hstopped⟩ := stopOthers_returns hothers
      have hsnapped : d.Advances [] _ _ _ := advances_of_framed hsnapshot snapshotVolume_framed
      obtain ⟨hcut, hready⟩ := cutOver_returns hslotted h₁
      refine ⟨attempts, hstops, ?_, fun candidate hmem earlier => ?_, fun container hmem => ?_⟩
      · simpa using (hadvances.trans hsnapped).trans hcut
      · rw [List.append_assoc]
        exact hready candidate hmem _
      · simpa using (hstopped container hmem).mono (hsnapped.trans hcut).subset (_ ++ _) []
  case isFalse hplan =>
    obtain ⟨hadvances, hready⟩ := cutOver_returns hslotted h
    obtain ⟨hresets, hprevious⟩ := previousContainers_nil (Bool.not_eq_true _ ▸ hplan)
    refine ⟨[], ?_, hadvances, hready, ?_⟩
    · rw [hresets, hprevious]
      rfl
    · rw [hprevious]
      simp

theorem cleanUpSnapshot_framed {snapshotName : Option String} :
    (d.cleanUpSnapshot snapshotName : AgentMethod σ Unit).Framed Plain := by
  unfold cleanUpSnapshot
  split
  · exact framed_pure ()
  · refine framed_bind (framed_settle ?_) fun _ => framed_pure ()
    exact runWorkerVolumeTask_framed fun _ => tasks_plain

theorem removeRetiredImage_framed : (d.removeRetiredImage r : AgentMethod σ Unit).Framed Plain := by
  unfold removeRetiredImage
  split
  · exact framed_pure ()
  · refine framed_bind (framed_settle (framed_request ⟨trivial, fun _ => by simp⟩)) fun _ => ?_
    exact framed_pure ()

theorem removeRetired_framed : (removeRetired container : AgentMethod σ Unit).Framed Plain := by
  refine framed_bind (framed_settle (framed_request ⟨trivial, fun _ => by simp⟩)) fun _ => ?_
  exact framed_pure ()

theorem removeRetiredUnlessRunning_framed {retired : DockerContainerInspection × WorkerShutdownReport} :
    (removeRetiredUnlessRunning retired : AgentMethod σ Unit).Framed Plain := by
  unfold removeRetiredUnlessRunning
  split
  · exact framed_pure ()
  · exact removeRetired_framed

theorem removeRetired_returns {s s' : σ} {seg : AgentHistory}
    (h : (removeRetired container : AgentMethod σ Unit).Returns s seg () s') :
    RemovalAttempted container seg := by
  obtain ⟨_, _, removed, _, rfl, hremove, hend⟩ := h.of_bind
  obtain ⟨answer, rfl⟩ := returns_settled_request hremove
  exact ⟨answer, List.mem_append_right _ List.mem_cons_self⟩

theorem commitRollout_returns {snapshotName : Option String} {result : WorkerDeployResult}
    (h : (d.commitRollout r snapshotName).Returns s seg result s') :
    result.rollout.shutdowns = s'.shutdowns ∧ ∃ attempts : List StopAttempt,
      attempts.map Prod.fst = r.retiredContainers.map (d.stopOf d.retiredRole) ∧
      d.Advances attempts s seg s' ∧
      (∀ container ∈ r.previousContainers, RemovalAttempted container seg) ∧
      ∀ container ∈ r.retiredContainers,
        d.Retired container s'.shutdowns seg ∨ Unstopped container s'.shutdowns := by
  obtain ⟨stopping, _, reports, stopped, rfl, hstop, h₁⟩ := h.of_bind
  obtain ⟨retiring, _, _, _, rfl, hretire, h₂⟩ := h₁.of_bind
  obtain ⟨removing, _, _, _, rfl, hremove, h₃⟩ := h₂.of_bind
  obtain ⟨cleaning, _, _, _, rfl, hclean, h₄⟩ := h₃.of_bind
  obtain ⟨imaging, _, _, _, rfl, himage, h₅⟩ := h₄.of_bind
  obtain ⟨_, _, _, _, rfl, hlocals, hpure⟩ := h₅.of_bind
  obtain ⟨rfl, rfl, rfl⟩ := hlocals.of_locals
  obtain ⟨rfl, rfl, rfl⟩ := hpure.of_pure
  obtain ⟨attempts, hstops, hadvances, hshutdowns, -⟩ := stopAllGracefully_returns hstop
  have hretires : (Method.forEach (r.retiredContainers.zip reports) removeRetiredUnlessRunning :
      AgentMethod WorkerRolloutLocals Unit).Framed Plain :=
    framed_forEach fun _ _ => removeRetiredUnlessRunning_framed
  have hremoves : (Method.forEach r.previousContainers removeRetired :
      AgentMethod WorkerRolloutLocals Unit).Framed Plain :=
    framed_forEach fun _ _ => removeRetired_framed
  have hretiring := hadvances.andPlain hretire hretires
  have hremoving := hretiring.andPlain hremove hremoves
  have hcleaning := hremoving.andPlain hclean cleanUpSnapshot_framed
  have himaging := hcleaning.andPlain himage removeRetiredImage_framed
  have hsame : s'.shutdowns = stopped.shutdowns := by
    rw [(himage.framed removeRetiredImage_framed).1, (hclean.framed cleanUpSnapshot_framed).1,
      (hremove.framed hremoves).1, (hretire.framed hretires).1]
  simp only [List.nil_append, List.append_assoc]
  refine ⟨rfl, attempts, hstops, himaging, fun container hmem => ?_, fun container hmem => ?_⟩
  · obtain ⟨_, part, _, hpart, hround⟩ := hremove.of_forEach container hmem
    obtain ⟨answer, hanswer⟩ := removeRetired_returns hround
    have hmem := hpart.subset hanswer
    exact ⟨answer, by simp [hmem]⟩
  · obtain ⟨report, hreport, hname, hsettled⟩ := stopAllGracefully_each hstop container hmem
    have hshown : report ∈ s'.shutdowns := by
      rw [hsame, hshutdowns]
      exact List.mem_append_right _ (List.of_mem_zip hreport).2
    cases hrunning : mayStillRun report with
    | true => exact .inr ⟨report, hshown, hname, hrunning⟩
    | false =>
      obtain ⟨t, removal, t', hremoval, hround⟩ := hretire.of_forEach _ hreport
      have hround : (removeRetired container : AgentMethod WorkerRolloutLocals Unit).Returns
          t removal () t' := by
        unfold removeRetiredUnlessRunning at hround
        rwa [if_neg (Bool.eq_false_iff.mp hrunning)] at hround
      obtain ⟨answer, hanswer⟩ := removeRetired_returns hround
      have hanswer := hremoval.subset hanswer
      refine .inl ⟨imaging ++ (cleaning ++ (removing ++ retiring)), stopping, by simp,
        ⟨report, hshown, hrunning, hsettled hrunning⟩, answer, by simp [hanswer]⟩

end

theorem buildWorkerContainerSpec_name {image : Option DockerImageInspection} {index : ℕ}
    {candidate : WorkerCandidate}
    (h : buildWorkerContainerSpec d.environment d.payload image index = .ok candidate) :
    candidate.spec.name = candidate.containerName ∧ candidate.containerName =
      buildWorkerReplicaContainerName d.payload.serviceId d.payload.deploymentId index := by
  unfold buildWorkerContainerSpec at h
  dsimp only at h
  split at h
  · cases h
  · cases hr : (toDockerResourceSettings d.payload.resourceLimits).mapError Failure.error with
    | error e =>
      rw [hr] at h
      cases h
    | ok resources =>
      rw [hr] at h
      cases h
      exact ⟨rfl, rfl⟩

theorem buildWorkerContainerSpecs_each {image : Option DockerImageInspection}
    {count index : ℕ} {candidates : List WorkerCandidate}
    (h : buildWorkerContainerSpecs d.environment d.payload image count index = .ok candidates) :
    (∀ i < count, ∃ candidate ∈ candidates,
      buildWorkerContainerSpec d.environment d.payload image (index + i) = .ok candidate) ∧
    ∀ candidate ∈ candidates, candidate.spec.name = candidate.containerName ∧
      ∃ i < count, candidate.containerName =
        buildWorkerReplicaContainerName d.payload.serviceId d.payload.deploymentId (index + i) := by
  induction count generalizing index candidates with
  | zero =>
    cases h
    simp
  | succ count ih =>
    unfold buildWorkerContainerSpecs at h
    cases hc : buildWorkerContainerSpec d.environment d.payload image index with
    | error e =>
      rw [hc] at h
      cases h
    | ok candidate =>
      cases hr : buildWorkerContainerSpecs d.environment d.payload image count (index + 1) with
      | error e =>
        rw [hc, hr] at h
        cases h
      | ok rest =>
        rw [hc, hr] at h
        cases h
        obtain ⟨heach, hnames⟩ := ih hr
        refine ⟨fun i hi => ?_, fun c hmem => ?_⟩
        · cases i with
          | zero => exact ⟨candidate, List.mem_cons_self, hc⟩
          | succ i =>
            obtain ⟨c, hmem, hbuilt⟩ := heach i (Nat.lt_of_succ_lt_succ hi)
            exact ⟨c, List.mem_cons_of_mem _ hmem, by rwa [Nat.add_right_comm] at hbuilt⟩
        · obtain rfl | hmem := List.mem_cons.mp hmem
          · obtain ⟨hspec, hname⟩ := buildWorkerContainerSpec_name hc
            exact ⟨hspec, 0, Nat.succ_pos count, hname⟩
          · obtain ⟨hspec, i, hi, hname⟩ := hnames c hmem
            refine ⟨hspec, i + 1, Nat.succ_lt_succ hi, ?_⟩
            rw [hname, Nat.add_right_comm, Nat.add_assoc]

theorem buildWorkerReplicaContainerName_injective {serviceId deploymentId : String} {i j : ℕ}
    (h : buildWorkerReplicaContainerName serviceId deploymentId i =
      buildWorkerReplicaContainerName serviceId deploymentId j) : i = j :=
  toString_injective ((String.append_right_inj _).mp h)

theorem buildWorkerContainerSpecs_nodup {image : Option DockerImageInspection}
    {count index : ℕ} {candidates : List WorkerCandidate}
    (h : buildWorkerContainerSpecs d.environment d.payload image count index = .ok candidates) :
    (candidates.map WorkerCandidate.containerName).Nodup := by
  induction count generalizing index candidates with
  | zero =>
    cases h
    exact List.nodup_nil
  | succ count ih =>
    unfold buildWorkerContainerSpecs at h
    cases hc : buildWorkerContainerSpec d.environment d.payload image index with
    | error e =>
      rw [hc] at h
      cases h
    | ok candidate =>
      cases hr : buildWorkerContainerSpecs d.environment d.payload image count (index + 1) with
      | error e =>
        rw [hc, hr] at h
        cases h
      | ok rest =>
        rw [hc, hr] at h
        cases h
        refine List.nodup_cons.mpr ⟨fun hmem => ?_, ih hr⟩
        obtain ⟨other, hother, hsame⟩ := List.mem_map.mp hmem
        obtain ⟨-, i, -, hname⟩ := (buildWorkerContainerSpecs_each hr).2 other hother
        have hown := (buildWorkerContainerSpec_name hc).2
        have hindex := buildWorkerReplicaContainerName_injective (hname.symm.trans (hsame.trans hown))
        omega

theorem replicaIndex_lt {replicaCount : ℚ} (h : assertReplicaCount replicaCount = .ok ())
    (replicaIndex : ℕ) : (replicaIndex : ℚ) < replicaCount ↔ replicaIndex < replicaCount.num.toNat := by
  unfold assertReplicaCount at h
  split at h
  case isFalse => cases h
  case isTrue hcount =>
    have hden : replicaCount.den = 1 := by simpa [Rat.isInt] using hcount.1
    have hnum : (replicaCount.num : ℚ) = replicaCount := Rat.den_eq_one_iff _ |>.mp hden
    rw [Int.lt_toNat, ← hnum, Rat.num_intCast]
    exact_mod_cast Iff.rfl

theorem converged_of_returns {result : WorkerDeployResult} {prepared rolled : AgentHistory}
    {s : WorkerRolloutLocals} (hprepared : d.Prepared r prepared)
    (h : (d.completeRollout r).Returns {} rolled (.ok result) s) :
    d.Converged r result (rolled ++ prepared) := by
  obtain ⟨reached, _, cutover, _, rfl, hreach, h₁⟩ := h.of_bind
  cases cutover with
  | error failed => cases h₁.of_pure.2.1
  | ok snapshotName =>
    obtain ⟨committed, _, _, _, rfl, hcommit, hend⟩ := h₁.of_bind
    obtain ⟨rfl, hsame, rfl⟩ := hend.of_pure
    obtain rfl := Except.ok.inj hsame
    obtain ⟨hbuilt, hnames⟩ := buildWorkerContainerSpecs_each hprepared.built
    have hslotted : Slotted r := ⟨buildWorkerContainerSpecs_nodup hprepared.built,
      fun candidate hmem => (hnames candidate hmem).1⟩
    obtain ⟨attempts, hstops, hadvances, hready, hstopped⟩ := reachCutover_returns hslotted hreach
    obtain ⟨hshutdowns, others, hothers, hcommits, hremoved, hretired⟩ := commitRollout_returns hcommit
    have hall := hadvances.trans hcommits
    obtain ⟨listed, hlisting, hsub, hcovered⟩ := hprepared.listed
    simp only [List.nil_append]
    rw [List.append_assoc]
    refine ⟨fun replicaIndex hi => ?_, fun answer hanswer hnodup container hmem hslot => ?_, ?_⟩
    · have hi := (replicaIndex_lt hprepared.counted replicaIndex).mp hi
      obtain ⟨candidate, hmem, hspec⟩ := hbuilt replicaIndex hi
      rw [Nat.zero_add] at hspec
      exact ⟨candidate, hspec, (hready candidate hmem prepared).append committed⟩
    · have hname : getContainerName container ∉ r.candidateNames := by
        intro hcandidate
        obtain ⟨candidate, hmem, hsame⟩ := List.mem_map.mp hcandidate
        obtain ⟨-, i, hi, hname⟩ := hnames candidate hmem
        rw [Nat.zero_add] at hname
        exact hslot i ((replicaIndex_lt hprepared.counted i).mpr hi) (hsame.symm.trans hname)
      obtain rfl : answer = listed := by
        rw [← List.append_assoc, List.mem_append] at hanswer
        obtain hrolled | hprepared := hanswer
        · exact absurd rfl (hall.listsNothing _ hrolled _)
        · obtain hnothing | hsame := hlisting _ hprepared
          · exact absurd rfl (hnothing _)
          · simpa [listing] using hsame
      obtain hcurrent | hgone := hcovered container hmem
      · have hnodup := hnodup.sublist (hsub.map getContainerName)
        rw [hshutdowns]
        obtain hmem | hmem := mem_previous_or_retired hprepared.planned hnodup hcurrent hname
        · refine .inr (.inl ⟨committed, reached ++ prepared, rfl, ?_, hremoved container hmem⟩)
          exact (hstopped container hmem).mono hcommits.subset [] prepared
        · exact .inr ((hretired container hmem).imp_left fun hretired => hretired.before _)
      · refine .inl ?_
        simpa using hgone.within (committed ++ reached) []
    · obtain ⟨reports, hreports, hreported⟩ := hall.reported
      have hattempts := (attempts_of_other hprepared.stopsNothing).append hall.attempted
      refine ⟨attempts ++ others, by simpa using hattempts, ?_, ?_⟩
      · rw [List.map_append, hstops, hothers, stopsOf, List.map_append, List.append_assoc]
      · rw [hshutdowns, hreports]
        exact hreported

/-- A rollout that returns has converged, whatever Docker answered: its replicas are ready, every
other container of the service is gone, was stopped and its removal attempted, or is reported as
one that may still run, and there is one report for each stop that was attempted, in order. -/
theorem deployWorkerRuntime_converged (env : AgentEnvironment) (d : WorkerDeployment)
    (result : WorkerDeployResult)
    (hreturns : ((d.deployWorkerRuntime ()).run env []).1 = .done (.ok (.ok result), ())) :
    let h := ((d.deployWorkerRuntime ()).run env []).2
    ∃ r prepared, prepared <:+ h ∧ Ran d.prepareWorkerRollout prepared (.ok r) ∧
      d.Converged r result h := by
  intro h
  obtain ⟨seg, hseg, hproduces⟩ := Program.run_produces hreturns
  have hdeployed : d.deployWorkerRuntime.Returns () seg (.ok result) () := hproduces
  obtain ⟨prepared, rolled, r, _, rfl, hprepare, hroll⟩ := hdeployed.of_bind
  obtain ⟨-, s, hcomplete⟩ := hroll.of_withLocals
  have hh : h = rolled ++ prepared := hseg.trans (List.append_nil _)
  rw [hh]
  exact ⟨r, prepared, List.suffix_append rolled prepared, hprepare.ran,
    converged_of_returns (prepareWorkerRollout_returns hprepare) hcomplete⟩

def healthyWorker (running : Bool) (name : String) : DockerContainerInspection :=
  ⟨name, name, none, some 0,
    some ⟨some running, none, none, none, none, none, some ⟨some "healthy"⟩⟩, none, none, none, none⟩

def nextVersion : WorkerDeployment where
  environment := ⟨"server", .dockerLocal, "/data", "data", id, 1⟩
  payload := { projectId := "project", serviceId := "service", deploymentId := "next"
               imageUrl := "image", resourceLimits := ⟨some 1, some 1, none, some 1⟩
               replicaCount := 1, startCommand := some "run", healthCheckCommand := some "check" }
  fuel := 10

def oldVersion : AgentEnvironment := answering fun h r => .ok (match r with
  | .listContainersByLabels _ => [healthyWorker true "old"]
  | r => wellAnswer (fun name => some (healthyWorker (name ≠ "old" ||
      !h.any fun e => e.call = .request (.killContainer "old" "SIGTERM")) name)) (.run 1) r)

def committedResult : Outcome (Except Failure (Except WorkerRolloutError WorkerDeployResult) × Unit) →
    Option WorkerDeployResult
  | .done (.ok (.ok result), ()) => some result
  | _ => none

theorem deployWorkerRuntime_converged_overlap : ∃ result r prepared,
    ((nextVersion.deployWorkerRuntime ()).run oldVersion []).1 = .done (.ok (.ok result), ()) ∧
      prepared <:+ ((nextVersion.deployWorkerRuntime ()).run oldVersion []).2 ∧
      Ran nextVersion.prepareWorkerRollout prepared (.ok r) ∧
      nextVersion.Converged r result ((nextVersion.deployWorkerRuntime ()).run oldVersion []).2 := by
  have hcommitted : (committedResult
      ((nextVersion.deployWorkerRuntime ()).run oldVersion []).1).isSome = true := by
    decide +kernel
  obtain ⟨result, hresult⟩ := Option.isSome_iff_exists.mp hcommitted
  have hreturns : ((nextVersion.deployWorkerRuntime ()).run oldVersion []).1 =
      .done (.ok (.ok result), ()) := by
    unfold committedResult at hresult
    split at hresult
    · next committed heq => rw [heq, Option.some.inj hresult]
    · cases hresult
  obtain ⟨r, prepared, hconverged⟩ :=
    deployWorkerRuntime_converged oldVersion nextVersion result hreturns
  exact ⟨result, r, prepared, hreturns, hconverged⟩

end NouvaAgent.WorkerDeployment
