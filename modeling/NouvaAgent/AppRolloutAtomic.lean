import NouvaAgent.AppRolloutPreserved

namespace NouvaAgent.AppRollout

open Text Interaction Agent Method AppDeployment CandidateReadiness ReleaseJobs

variable {d : AppDeployment} {r : AppRollout} {F : AgentEvent → AgentHistory → Prop}
  {volume : AppVolumeIdentity}

def quiesceStop (name : String) : AgentEvent :=
  ⟨.request (.stopContainer name none none), some (.ok ())⟩

def seenRunning (name : String) : AgentEvent → Option Bool
  | ⟨.request (.inspectContainer n), some (.ok found)⟩ =>
    if n = name then some (found.any (·.running)) else none
  | _ => none

def candidateSeen (d : AppDeployment) : AgentEvent → Option Bool
  | ⟨.request (.ensureContainer _ _ _), some (.ok _)⟩ => some true
  | ⟨.request (.removeContainer n _ _), some (.ok _)⟩ =>
    if n = d.containerName then some false else none
  | e => seenRunning d.containerName e

def candidateMade : AgentEvent → Option Bool
  | ⟨.request (.ensureContainer _ _ _), some (.ok _)⟩ => some true
  | ⟨.request (.listContainersUsingVolume _), _⟩ => some false
  | _ => none

def Fresh (h : AgentHistory) : Prop := h.findSome? candidateMade = some true

/-- The last calls failed to make the candidate, or to take a fresh one away for good. -/
inductive EndsUnguarded (d : AppDeployment) : AgentHistory → Prop
  | make (spec : DockerContainerSpec) (replace pull : Bool) (e : CallError) (h : AgentHistory) :
      EndsUnguarded d (⟨.request (.ensureContainer spec replace pull), some (.error e)⟩ :: h)
  | remove (e : CallError) (h : AgentHistory) (hfresh : Fresh h) :
      EndsUnguarded d (⟨.request (.removeContainer d.containerName true none), some (.error e)⟩ :: h)
  | verify (answer : Except CallError (Option DockerContainerInspection)) (h : AgentHistory)
      (hpresent : answer ≠ .ok none) (hfresh : Fresh h) :
      EndsUnguarded d (⟨.request (.inspectContainer d.containerName), some answer⟩ ::
        ⟨.request (.removeContainer d.containerName true none), some (.ok ())⟩ :: h)

def Failed {α : Type} (p : AgentAction α) (events : AgentHistory) : Prop :=
  ∃ last seg first e, events = last ++ (seg ++ first) ∧ Ran p seg (.error e)

def Recovered (d : AppDeployment) (volume : AppVolumeIdentity) (name : String)
    (events : AgentHistory) : Prop :=
  (∃ answer, ⟨.request (.startContainer name), answer⟩ ∈ events) ∨
    Failed (assertSingleRunningVolumeConsumer volume.volumeName none) events ∨
      ∃ snapshotName, Failed (d.restoreAppVolumeSnapshot volume snapshotName) events

def Reported (error : Failure) : Prop := ∃ message rollout, error = .appRollout message rollout

def Undisturbed (h : AgentHistory) : Prop := ∀ name, quiesceStop name ∉ h

def Stopped (r : AppRollout) (h : AgentHistory) : Prop :=
  ∀ name, quiesceStop name ∈ h → r.previous = some name

/-- Every container that was stopped to copy the volume was recovered after that. -/
def Resolved (d : AppDeployment) (volume : AppVolumeIdentity) (h : AgentHistory) : Prop :=
  ∀ later name before, h = later ++ quiesceStop name :: before → Recovered d volume name later

def Settled (d : AppDeployment) (h : AgentHistory) : Prop :=
  ¬ Fresh h ∧ ¬ EndsUnguarded d h ∧
    ∀ before, h = ⟨.request (.removeContainer d.containerName true none), some (.ok ())⟩ :: before →
      ¬ Fresh before

def Aside : AgentCall → Prop
  | .request r => match r with
    | .stopContainer _ seconds _ => seconds.isSome
    | .ensureContainer _ _ _ => False
    | _ => True
  | _ => True

def Apace : AgentCall → Prop
  | .request r => match r with
    | .stopContainer _ seconds _ => seconds.isSome
    | .ensureContainer _ _ _ | .listContainersUsingVolume _ => False
    | _ => True
  | _ => True

theorem Apace.aside {c : AgentCall} (hc : Apace c) : Aside c := by
  cases c with
  | request q => cases q <;> first | exact hc | exact hc.elim
  | now => trivial
  | sleep ms => trivial

theorem aside_stop {e : AgentEvent} (hc : Aside e.call) (name : String) : e ≠ quiesceStop name := by
  rintro rfl
  cases hc

theorem Fresh.cons {e : AgentEvent} {h : AgentHistory} (he : candidateMade e = none) :
    Fresh (e :: h) ↔ Fresh h := by
  simp only [Fresh, List.findSome?_cons, he]

theorem made_aside {e : AgentEvent} (hc : Aside e.call) : candidateMade e ≠ some true := by
  unfold candidateMade
  split
  · exact fun _ => hc
  · exact fun h => nomatch h
  · exact fun h => nomatch h

theorem made_apace {e : AgentEvent} (hc : Apace e.call) : candidateMade e = none := by
  unfold candidateMade
  split
  · exact hc.elim
  · exact hc.elim
  · rfl

theorem Fresh.apace {e : AgentEvent} {h : AgentHistory} (hc : Apace e.call) (hf : Fresh h) :
    Fresh (e :: h) := (Fresh.cons (made_apace hc)).mpr hf

theorem fresh_aside {e : AgentEvent} {h : AgentHistory} (hc : Aside e.call) (hf : ¬ Fresh h) :
    ¬ Fresh (e :: h) := by
  cases hm : candidateMade e with
  | none => exact fun h => hf ((Fresh.cons hm).mp h)
  | some made =>
    simp only [Fresh, List.findSome?_cons, hm]
    exact hm ▸ made_aside hc

theorem fresh_stop {name : String} {answer : Option (Except CallError Unit)} {h : AgentHistory}
    (hf : ¬ Fresh h) : ¬ Fresh (⟨.request (.stopContainer name none none), answer⟩ :: h) :=
  fun hs => hf ((Fresh.cons rfl).mp hs)

theorem settled_nil : Settled d [] :=
  ⟨fun h => (nomatch h), fun h => (nomatch h), fun _ h => (nomatch h)⟩

theorem Settled.cons {e : AgentEvent} {h : AgentHistory} (hc : Aside e.call) (hs : Settled d h) :
    Settled d (e :: h) := by
  refine ⟨fresh_aside hc hs.1, fun hu => ?_, fun before hh => ?_⟩
  · cases hu with
    | make spec replace pull e h => exact hc
    | remove e h hfresh => exact hs.1 hfresh
    | verify answer h hpresent hfresh => exact hs.2.2 _ rfl hfresh
  · exact (List.cons.inj hh).2 ▸ hs.1

theorem settled_list {name : String}
    {answer : Option (Except CallError (List DockerContainerInspection))} {h : AgentHistory} :
    Settled d (⟨.request (.listContainersUsingVolume name), answer⟩ :: h) :=
  ⟨fun hf => (nomatch hf), fun hu => (nomatch hu), fun _ hh => (nomatch (List.cons.inj hh).1)⟩

theorem undisturbed_cons {e : AgentEvent} {h : AgentHistory} (hc : Aside e.call)
    (hu : Undisturbed h) : Undisturbed (e :: h) := fun name hm =>
  (List.mem_cons.mp hm).elim (fun he => aside_stop hc name he.symm) (hu name)

theorem Stopped.cons {e : AgentEvent} {h : AgentHistory} (hs : Stopped r h)
    (he : ∀ name, e = quiesceStop name → r.previous = some name) : Stopped r (e :: h) :=
  fun name hm => (List.mem_cons.mp hm).elim (fun hn => he name hn.symm) (hs name)

theorem Undisturbed.stopped {h : AgentHistory} (hu : Undisturbed h) : Stopped r h :=
  fun name hm => absurd hm (hu name)

theorem Undisturbed.resolved {h : AgentHistory} (hu : Undisturbed h) : Resolved d volume h := by
  rintro later name before rfl
  exact absurd (List.mem_append_right later List.mem_cons_self) (hu name)

theorem Failed.cons {α : Type} {p : AgentAction α} {e : AgentEvent} {events : AgentHistory}
    (hf : Failed p events) : Failed p (e :: events) := by
  obtain ⟨last, seg, first, error, rfl, hran⟩ := hf
  exact ⟨e :: last, seg, first, error, rfl, hran⟩

theorem Recovered.cons {name : String} {e : AgentEvent} {events : AgentHistory}
    (hr : Recovered d volume name events) : Recovered d volume name (e :: events) := by
  obtain ⟨answer, hm⟩ | hf | ⟨snapshotName, hf⟩ := hr
  · exact .inl ⟨answer, List.mem_cons_of_mem e hm⟩
  · exact .inr (.inl hf.cons)
  · exact .inr (.inr ⟨snapshotName, hf.cons⟩)

theorem Resolved.cons {e : AgentEvent} {h : AgentHistory} (hr : Resolved d volume h)
    (he : ∀ name, e ≠ quiesceStop name) : Resolved d volume (e :: h) := by
  intro later name before hh
  cases later with
  | nil => exact absurd (List.cons.inj hh).1 (he name)
  | cons e' later => exact (hr later name before (List.cons.inj hh).2).cons

theorem Stopped.resolved_none {h : AgentHistory} (hs : Stopped r h) (hp : r.previous = none) :
    Resolved d volume h :=
  Undisturbed.resolved fun name hm => nomatch hp.symm.trans (hs name hm)

theorem Stopped.resolved_start {previous : String} {answer : Option (Except CallError Unit)}
    {h : AgentHistory} (hs : Stopped r h) (hp : r.previous = some previous) :
    Resolved d volume (⟨.request (.startContainer previous), answer⟩ :: h) := by
  intro later name before hh
  cases later with
  | nil => cases (List.cons.inj hh).1
  | cons e later =>
    obtain ⟨rfl, rfl⟩ := List.cons.inj hh
    have hname := hs name (List.mem_append_right later List.mem_cons_self)
    obtain rfl := Option.some.inj (hp.symm.trans hname)
    exact .inl ⟨answer, List.mem_cons_self⟩

theorem Failed.append {α : Type} {p : AgentAction α} {events before : AgentHistory}
    (hf : Failed p events) : Failed p (events ++ before) := by
  obtain ⟨last, seg, first, error, rfl, hran⟩ := hf
  exact ⟨last, seg, first ++ before, error, by simp only [List.append_assoc], hran⟩

theorem Recovered.append {name : String} {events before : AgentHistory}
    (hr : Recovered d volume name events) : Recovered d volume name (events ++ before) := by
  obtain ⟨answer, hm⟩ | hf | ⟨snapshotName, hf⟩ := hr
  · exact .inl ⟨answer, List.mem_append_left before hm⟩
  · exact .inr (.inl hf.append)
  · exact .inr (.inr ⟨snapshotName, hf.append⟩)

theorem resolved_append {seg h : AgentHistory} (hu : Undisturbed seg)
    (hr : ∀ name, Recovered d volume name seg) : Resolved d volume (seg ++ h) := by
  intro later name before hh
  obtain ⟨middle, rfl, _⟩ | ⟨rest, rfl, hrest⟩ := List.append_eq_append_iff.mp hh
  · exact (hr name).append
  · cases rest with
    | nil => exact (List.append_nil later) ▸ hr name
    | cons e rest =>
      obtain ⟨rfl, _⟩ := List.cons.inj hrest
      exact absurd (List.mem_append_right later List.mem_cons_self) (hu name)

theorem apart_keeps {G : AgentHistory} (h : AgentHistory) (c : AgentCall) (a : Option c.Answer)
    (h' : AgentHistory) (hc : Aside c) (hm : assuming F h c a h')
    (hseg : ∃ seg, h = seg ++ G ∧ Undisturbed seg) : ∃ seg, h' = seg ++ G ∧ Undisturbed seg := by
  obtain ⟨rfl, _⟩ := hm
  obtain ⟨seg, rfl, hu⟩ := hseg
  exact ⟨⟨c, a⟩ :: seg, rfl, undisturbed_cons hc hu⟩

theorem failed_wp {α : Type} {p : AgentAction α} {h : AgentHistory}
    (hp : p.wp (assuming F) (Post.always fun h' => ∃ seg, h' = seg ++ h ∧ Undisturbed seg) () h) :
    p.wp (assuming F) ⟨fun _ _ _ => True, fun _ _ h' => ∃ seg, h' = seg ++ h ∧ Undisturbed seg ∧
      Failed p seg, fun _ => True⟩ () h := by
  refine wp_mono (wp_and (wp_ran p () h) hp) (fun _ _ _ _ => trivial) (fun e _ h' hh => ?_)
    fun _ _ => trivial
  obtain ⟨⟨seg, rfl, hran⟩, other, hseg, hu⟩ := hh
  obtain rfl := List.append_cancel_right hseg
  exact ⟨seg, rfl, hu, [], seg, [], e, by rw [List.append_nil, List.nil_append], hran⟩

theorem passive_apace {c : AgentCall} (hc : Passive c) : Apace c := by
  cases c with
  | request q => cases q <;> first | exact hc.elim | trivial
  | now => trivial
  | sleep ms => trivial

theorem setupCall_aside {c : AgentCall} (hc : SetupCall c) : Aside c := by
  cases c with
  | request q => cases q <;> first | exact hc.elim | trivial
  | now => trivial
  | sleep ms => trivial

theorem runnerCall_apace {target : ReleaseJobTarget} {phase : ReleasePhase} {c : AgentCall}
    (hc : RunnerCall target phase c) : Apace c := by
  obtain hc | ⟨jobs, rfl⟩ | rfl | rfl := hc
  · cases c with
    | request q => cases q <;> first | exact hc | exact hc.elim | trivial
    | now => trivial
    | sleep ms => trivial
  · trivial
  · trivial
  · trivial

theorem taskCall_apace {spec : DockerContainerSpec} {c : AgentCall} {h : AgentHistory}
    (hc : TaskCall spec c h) : Apace c := by
  cases c with
  | request q => cases q <;> first | exact False.elim hc | trivial
  | now => trivial
  | sleep ms => trivial

theorem task_wp {X : DockerContainerSpec} {J : AgentHistory → Prop} {h : AgentHistory}
    (hJ : ∀ e h, Apace e.call → J h → J (e :: h)) (hj : J h) :
    (runTaskContainer X).wp (assuming F) (Post.always J) () h :=
  runTaskContainer_wp (fun c a h hc hj => hJ ⟨c, a⟩ h (taskCall_apace hc) hj) hj

def Untouched (d : AppDeployment) (h : AgentHistory) : Prop := Undisturbed h ∧ Settled d h

def Halted (r : AppRollout) (h : AgentHistory) : Prop := Stopped r h ∧ Settled r.toAppDeployment h

def Made (r : AppRollout) (h : AgentHistory) : Prop := Stopped r h ∧ Fresh h

def Closed (d : AppDeployment) (volume : AppVolumeIdentity) (h : AgentHistory) : Prop :=
  Resolved d volume h ∧ Settled d h

theorem untouched_cons (e : AgentEvent) (h : AgentHistory) (hc : Aside e.call)
    (hu : Untouched d h) : Untouched d (e :: h) := ⟨undisturbed_cons hc hu.1, hu.2.cons hc⟩

theorem halted_cons (e : AgentEvent) (h : AgentHistory) (hc : Aside e.call) (hs : Halted r h) :
    Halted r (e :: h) :=
  ⟨hs.1.cons fun name he => absurd he (aside_stop hc name), hs.2.cons hc⟩

theorem made_cons (e : AgentEvent) (h : AgentHistory) (hc : Apace e.call) (hm : Made r h) :
    Made r (e :: h) :=
  ⟨hm.1.cons fun name he => absurd he (aside_stop hc.aside name), hm.2.apace hc⟩

theorem closed_cons (e : AgentEvent) (h : AgentHistory) (hc : Aside e.call)
    (hr : Closed d volume h) : Closed d volume (e :: h) :=
  ⟨hr.1.cons (aside_stop hc), hr.2.cons hc⟩

theorem Untouched.halted {h : AgentHistory} (hu : Untouched r.toAppDeployment h) : Halted r h :=
  ⟨hu.1.stopped, hu.2⟩

theorem Halted.closed_none {h : AgentHistory} (hs : Halted r h) (hp : r.previous = none) :
    Closed r.toAppDeployment volume h := ⟨hs.1.resolved_none hp, hs.2⟩

def Ends (d : AppDeployment) (volume : AppVolumeIdentity) (error : Failure) (h : AgentHistory) :
    Prop :=
  Undisturbed h ∨ (Reported error ∧ Closed d volume h) ∨ (¬ Reported error ∧ EndsUnguarded d h)

theorem call_unreported (e : CallError) : ¬ Reported (.call e) := fun ⟨_, _, h⟩ => nomatch h

theorem error_unreported (message : String) : ¬ Reported (.error message) :=
  fun ⟨_, _, h⟩ => nomatch h

theorem closed_passive {σ α : Type} {p : AgentMethod σ α} {s : σ} {h : AgentHistory}
    (hp : p.Uses Passive) (hr : Closed d volume h) :
    p.wp (assuming F) (Post.always (Closed d volume)) s h :=
  hp.wp_assuming (fun e h hc => closed_cons e h (passive_apace hc).aside) hr

theorem checkUnused_wp {h : AgentHistory} (hs : Stopped r h) :
    (assertSingleRunningVolumeConsumer volume.volumeName none).wp (assuming F)
      ⟨fun _ _ => Halted r, fun _ _ => Closed r.toAppDeployment volume, fun _ => True⟩ () h := by
  have hcheck : (assertSingleRunningVolumeConsumer volume.volumeName none).Uses Aside :=
    assertSingleRunningVolumeConsumer_uses trivial
  have hstop (name : String)
      (answer : Option (Except CallError (List DockerContainerInspection))) (other : String) :
      ⟨.request (.listContainersUsingVolume name), answer⟩ ≠ quiesceStop other :=
    aside_stop (e := ⟨.request (.listContainersUsingVolume name), answer⟩) trivial other
  have hshow : (assertSingleRunningVolumeConsumer volume.volumeName none).wp (assuming F)
      ⟨fun _ _ => Halted r, fun _ _ => Settled r.toAppDeployment, fun _ => True⟩ () h := by
    refine wp_bind_of (R := fun _ _ => Halted r) ((wp_request_assuming _).mpr ⟨fun _ => trivial,
      fun _ _ => settled_list, fun _ _ => ⟨hs.cons fun name he => absurd he (hstop _ _ name),
        settled_list⟩⟩) fun consumers _ h hs => ?_
    split
    · exact hs
    · exact hs.2
  refine wp_mono (wp_and hshow (failed_wp (hcheck.wp (apart_keeps (G := h))
    ⟨[], rfl, fun name hm => nomatch hm⟩))) (fun _ _ _ hh => hh.1) (fun e _ h' hh => ?_)
    fun _ _ => trivial
  obtain ⟨hsettled, seg, rfl, hu, hfailed⟩ := hh
  exact ⟨resolved_append hu fun name => .inr (.inl hfailed), hsettled⟩

theorem restoreSnapshot_wp {snapshotName : String} {h : AgentHistory} (hs : Halted r h) :
    (r.restoreAppVolumeSnapshot volume snapshotName).wp (assuming F)
      ⟨fun _ _ => Halted r, fun _ _ => Closed r.toAppDeployment volume, fun _ => True⟩ () h := by
  have hseg := task_wp (F := F) (X := r.taskSpec
      ("nouva-app-restore-" ++ slice 12 r.payload.deploymentId) restoreScript snapshotName
      [⟨volume.volumeName, "/target", false⟩, ⟨r.config.dataVolume, "/agent-data", true⟩])
    (J := fun h' => ∃ seg, h' = seg ++ h ∧ Undisturbed seg) (h := h)
    (fun e h' hc hj => apart_keeps (F := fun _ _ => True) h' e.call e.answer (e :: h') hc.aside
      ⟨rfl, trivial⟩ hj) ⟨[], rfl, fun name hm => nomatch hm⟩
  refine wp_mono (wp_and (task_wp (fun e h hc => halted_cons e h hc.aside) hs) (failed_wp hseg))
    (fun _ _ _ hh => hh.1) (fun e _ h' hh => ?_) fun _ _ => trivial
  obtain ⟨hhalted, seg, rfl, hu, hfailed⟩ := hh
  exact ⟨resolved_append hu fun name => .inr (.inr ⟨snapshotName, hfailed⟩), hhalted.2⟩

theorem restoreVolume_recovers {snapshotName : String} {h : AgentHistory} (hs : Stopped r h) :
    (r.restoreVolume volume snapshotName).wp (assuming F)
      ⟨fun _ _ => Halted r, fun _ _ => Closed r.toAppDeployment volume, fun _ => True⟩ () h :=
  wp_bind_of (R := fun _ _ => Halted r) (checkUnused_wp hs) fun _ _ _ hs => restoreSnapshot_wp hs

theorem restartPrevious_recovers {previous : String} {h : AgentHistory} (hs : Halted r h)
    (hp : r.previous = some previous) : (r.restartPrevious previous).wp (assuming F)
      (Post.always (Closed r.toAppDeployment volume)) () h := by
  have start (a : Option (Except CallError Unit)) :
      Closed r.toAppDeployment volume (⟨.request (.startContainer previous), a⟩ :: h) :=
    ⟨hs.1.resolved_start hp, hs.2.cons trivial⟩
  exact wp_bind_of (R := fun _ _ => Closed r.toAppDeployment volume)
    ((wp_request_assuming _).mpr ⟨fun _ => start _, fun _ _ => start _, fun _ _ => start _⟩)
    fun _ _ _ hr => closed_passive waits_passive hr

theorem restoreServiceWithoutSnapshot_recovers {previous : String} {s : RolloutLocals}
    {h : AgentHistory} (hs : Halted r h) (hp : r.previous = some previous) :
    (r.restoreServiceWithoutSnapshot volume previous).wp (assuming F)
      ⟨fun _ _ => Closed r.toAppDeployment volume, fun _ _ => Closed r.toAppDeployment volume,
        fun _ => True⟩ s h := by
  refine wp_bind_of (R := fun _ _ => Halted r) ((wp_lift _).mpr (checkUnused_wp hs.1))
    fun _ s h hs => ?_
  refine wp_bind_of (R := fun _ _ => Closed r.toAppDeployment volume) ((wp_lift _).mpr
    (wp_mono (restartPrevious_recovers hs hp) (fun _ _ _ h => h) (fun _ _ _ h => h)
      fun _ _ => trivial)) fun _ s h hr => ?_
  exact wp_mono (closed_passive (uses_bind (uses_lift routeToPrevious_passive) fun _ =>
    uses_bind uses_locals fun _ => uses_lift canServe_passive) hr) (fun _ _ _ h => h)
    (fun _ _ _ h => h) fun _ _ => trivial

theorem reported_ends {message : String} {rollout : AppRolloutResult} {h : AgentHistory}
    (hr : Closed d volume h) : Ends d volume (.appRollout message rollout) h :=
  .inr (.inl ⟨⟨message, rollout, rfl⟩, hr⟩)

theorem snapshotFailed_ends {error : Failure} {s : RolloutLocals} {h : AgentHistory}
    (hs : Halted r h) : (r.snapshotFailed volume error).wp (assuming F)
      ⟨fun _ _ _ => False, fun e _ => Ends r.toAppDeployment volume e, fun _ => True⟩ s h := by
  refine wp_bind_of (R := fun _ _ => Closed r.toAppDeployment volume) ?_
    fun _ s h hr => reported_ends hr
  split
  · next hp => exact hs.closed_none hp
  · next previous hp =>
    refine wp_bind_of (R := fun _ _ => Closed r.toAppDeployment volume) ((wp_settle _).mpr
      (restoreServiceWithoutSnapshot_recovers hs hp)) fun result s h hr => ?_
    cases result <;> exact hr

def Prepared (r : AppRollout) (s : RolloutLocals) (h : AgentHistory) : Prop :=
  s.snapshotName.isSome ∧ Halted r h

theorem quiesce_halts {s : RolloutLocals} {h : AgentHistory} (hs : Halted r h) :
    r.quiesce.wp (assuming F) ⟨fun _ _ => Halted r, fun _ _ => Halted r, fun _ => True⟩ s h := by
  unfold quiesce
  split
  · exact hs
  · next previous hp =>
    refine wp_bind_of (R := fun _ _ => Halted r) ((wp_lift _).mpr (wp_mono
      (readAppContainerBeforeQuiesceStop_passive.wp_assuming (fun e h hc =>
        halted_cons e h (passive_apace hc).aside) hs) (fun _ _ _ h => h) (fun _ _ _ h => h)
        fun _ _ => trivial)) fun stop s h hs => ?_
    refine wp_bind_of (R := fun _ _ => Halted r) hs fun _ s h hs => ?_
    have hstopped (a : Option (Except CallError Unit)) :
        Halted r (⟨.request (.stopContainer previous none none), a⟩ :: h) := by
      refine ⟨hs.1.cons fun name he => ?_, fresh_stop hs.2.1, fun hu => ?_, fun before hh => ?_⟩
      · cases he
        exact hp
      · cases hu
      · cases (List.cons.inj hh).1
    exact (wp_request_assuming _).mpr ⟨fun _ => trivial, fun _ _ => hstopped _,
      fun _ _ => hstopped _⟩

theorem createAppVolumeSnapshot_halted {h : AgentHistory} (hs : Halted r h) :
    (r.createAppVolumeSnapshot volume).wp (assuming F)
      ⟨fun _ _ => Halted r, fun _ _ => Halted r, fun _ => True⟩ () h := by
  have keep (name : String) (a : Option (Except CallError Unit)) :
      Halted r (⟨.request (.createVolume name []), a⟩ :: h) := halted_cons _ _ trivial hs
  refine wp_bind_of (R := fun _ _ h' => h' = h) ((wp_ofExcept _).mpr
    ⟨fun _ _ => rfl, fun _ _ => hs⟩) fun snapshotName _ _ hh => ?_
  subst hh
  refine wp_bind_of (R := fun _ _ => Halted r) ((wp_request_assuming _).mpr
    ⟨fun _ => trivial, fun _ _ => keep _ _, fun _ _ => keep _ _⟩) fun _ _ h hs => ?_
  exact wp_bind_of (R := fun _ _ => Halted r) (wp_mono (task_wp (fun e h hc =>
    halted_cons e h hc.aside) hs) (fun _ _ _ h => h) (fun _ _ _ h => h) fun _ _ => trivial)
    fun _ _ _ hs => hs

theorem quiesceAndSnapshot_prepares {s : RolloutLocals} {h : AgentHistory} (hs : Halted r h) :
    (r.quiesceAndSnapshot volume).wp (assuming F)
      ⟨fun _ => Prepared r, fun _ _ => Halted r, fun _ => True⟩ s h := by
  have hassert (expected : Option String) (s : RolloutLocals) (h : AgentHistory)
      (hs : Halted r h) : (Method.lift (assertSingleRunningVolumeConsumer volume.volumeName
        expected) : RolloutMethod Unit).wp (assuming F)
        ⟨fun _ _ => Halted r, fun _ _ => Halted r, fun _ => True⟩ s h := by
    have huses : (assertSingleRunningVolumeConsumer volume.volumeName expected).Uses Aside :=
      assertSingleRunningVolumeConsumer_uses trivial
    exact wp_mono ((uses_lift huses).wp_assuming halted_cons hs) (fun _ _ _ h => h)
      (fun _ _ _ h => h) fun _ _ => trivial
  refine wp_bind_of (R := fun _ _ => Halted r) (hassert _ s h hs) fun _ s h hs => ?_
  refine wp_bind_of (R := fun _ _ => Halted r) (quiesce_halts hs) fun _ s h hs => ?_
  refine wp_bind_of (R := fun _ _ => Halted r) (hassert _ s h hs) fun _ s h hs => ?_
  refine wp_bind_of (R := fun _ _ => Halted r) hs fun _ s h hs => ?_
  refine wp_bind_of (R := fun _ _ => Halted r) ((wp_lift _).mpr
    (createAppVolumeSnapshot_halted hs)) fun snapshotName s h hs => ?_
  exact ⟨rfl, hs⟩

theorem prepareVolume_prepares {s : RolloutLocals} {h : AgentHistory}
    (hvolume : r.payload.volume = some volume) (hnew : r.adoptedCandidate = none)
    (hu : Untouched r.toAppDeployment h) : r.prepareVolume.wp (assuming F)
      ⟨fun _ => Prepared r, fun e _ => Ends r.toAppDeployment volume e, fun _ => True⟩ s h := by
  unfold prepareVolume
  rw [hvolume, hnew]
  dsimp only
  have keep (labels : TextRecord) (a : Option (Except CallError Unit)) :
      Untouched r.toAppDeployment (⟨.request (.createVolume volume.volumeName labels), a⟩ :: h) :=
    untouched_cons _ _ trivial hu
  refine wp_bind_of (R := fun _ _ => Untouched r.toAppDeployment) ((wp_request_assuming _).mpr
    ⟨fun _ => trivial, fun _ _ => .inl (keep _ _).1, fun _ _ => keep _ _⟩) fun _ s h hu => ?_
  exact (wp_tryCatch _ _).mpr (wp_mono (quiesceAndSnapshot_prepares hu.halted) (fun _ _ _ h => h)
    (fun _ s h hs => wp_mono (snapshotFailed_ends hs) (fun _ _ _ h => h.elim) (fun _ _ _ h => h)
      fun _ h => h) fun _ h => h)

theorem startCandidate_makes {h : AgentHistory} (hnew : r.adoptedCandidate = none)
    (hs : Halted r h) : r.startCandidate.wp (assuming F)
      ⟨fun _ _ => Made r, fun e _ => Ends r.toAppDeployment volume e, fun _ => True⟩ () h := by
  unfold startCandidate
  rw [hnew]
  refine (wp_request_assuming _).mpr ⟨fun _ => trivial, fun e _ => .inr (.inr
    ⟨call_unreported e, .make _ _ _ e h⟩), fun id _ => ⟨hs.1.cons fun name he => ?_, rfl⟩⟩
  cases he

theorem discardCandidate_ends {h : AgentHistory} (hvolume : r.payload.volume = some volume)
    (hm : Made r h) : r.discardCandidate.wp (assuming F)
      ⟨fun _ _ => Stopped r, fun e _ => Ends r.toAppDeployment volume e, fun _ => True⟩ () h := by
  have hstopped (c : AgentCall) (a : Option c.Answer) (h : AgentHistory) (hc : Aside c)
      (hs : Stopped r h) : Stopped r (⟨c, a⟩ :: h) :=
    hs.cons fun name he => absurd he (aside_stop (e := ⟨c, a⟩) hc name)
  refine (wp_bind _ _).mpr ((wp_request_assuming _).mpr ⟨fun _ => trivial, fun e _ => .inr (.inr
    ⟨call_unreported e, .remove e h hm.2⟩), fun _ _ => ?_⟩)
  rw [if_pos (by rw [hvolume]; rfl)]
  refine (wp_bind _ _).mpr ((wp_request_assuming _).mpr ⟨fun _ => trivial, fun e _ => .inr (.inr
    ⟨call_unreported e, .verify (.error e) h (fun he => nomatch he) hm.2⟩), fun found _ => ?_⟩)
  cases found with
  | none => exact hstopped _ _ _ trivial (hstopped _ _ _ trivial hm.1)
  | some container =>
    exact .inr (.inr ⟨error_unreported _, .verify (.ok (some container)) h
      (fun he => nomatch he) hm.2⟩)

def Repaired (r : AppRollout) (volume : AppVolumeIdentity) :
    Post Failure RolloutLocals Unit AgentHistory where
  ok _ _ := Closed r.toAppDeployment volume
  err e _ h := Ends r.toAppDeployment volume e h
  cut _ := True

theorem deleteSnapshot_closed {snapshotName : String} {h : AgentHistory}
    (hr : Closed d volume h) : (d.deleteAppVolumeSnapshotBestEffort snapshotName).wp (assuming F)
      (Post.always (Closed d volume)) () h :=
  wp_bind_of (R := fun _ _ => Closed d volume) ((wp_settle _).mpr (task_wp (fun e h hc =>
    closed_cons e h hc.aside) hr)) fun _ _ _ hr => hr

theorem restoreService_recovers {snapshotName : String} {h : AgentHistory} (hs : Stopped r h) :
    (r.restoreService volume snapshotName).wp (assuming F)
      ⟨fun _ _ => Closed r.toAppDeployment volume, fun _ _ => Closed r.toAppDeployment volume,
        fun _ => True⟩ () h := by
  refine wp_bind_of (R := fun _ _ => Halted r) (restoreVolume_recovers hs) fun _ _ h hs => ?_
  have always {p : AgentAction Unit} {h : AgentHistory} (hp : p.wp (assuming F)
      (Post.always (Closed r.toAppDeployment volume)) () h) : p.wp (assuming F)
      ⟨fun _ _ => Closed r.toAppDeployment volume, fun _ _ => Closed r.toAppDeployment volume,
        fun _ => True⟩ () h :=
    wp_mono hp (fun _ _ _ h => h) (fun _ _ _ h => h) fun _ _ => trivial
  refine wp_bind_of (R := fun _ _ => Closed r.toAppDeployment volume) (always ?_)
    fun _ _ h hr => always (deleteSnapshot_closed hr)
  split
  · next previous hp =>
    exact wp_bind_of (R := fun _ _ => Closed r.toAppDeployment volume)
      (restartPrevious_recovers hs hp) fun _ _ h hr => closed_passive routeToPrevious_passive hr
  · next hp => exact closed_passive routeAppServiceWithoutRuntime_passive (hs.closed_none hp)

theorem rerunPrevious_recovers {snapshotName : String} {h : AgentHistory} (hs : Stopped r h) :
    (r.rerunPrevious volume snapshotName).wp (assuming F)
      ⟨fun _ _ => Closed r.toAppDeployment volume, fun _ _ => Closed r.toAppDeployment volume,
        fun _ => True⟩ () h := by
  refine wp_bind_of (R := fun _ _ => Halted r) (restoreVolume_recovers hs) fun _ _ h hs => ?_
  split
  · next previous hp =>
    exact wp_mono (restartPrevious_recovers hs hp) (fun _ _ _ h => h) (fun _ _ _ h => h)
      fun _ _ => trivial
  · next hp => exact hs.closed_none hp

theorem restore_repairs {p : AgentAction Unit} {s : RolloutLocals} {h : AgentHistory}
    (hp : p.wp (assuming F) ⟨fun _ _ => Closed r.toAppDeployment volume,
      fun _ _ => Closed r.toAppDeployment volume, fun _ => True⟩ () h) :
    (Method.lift (Method.tryCatch p r.restoreFailed) : RolloutMethod Unit).wp (assuming F)
      (Repaired r volume) s h :=
  (wp_lift _).mpr ((wp_tryCatch _ _).mpr (wp_mono hp (fun _ _ _ h => h)
    (fun _ _ _ hr => reported_ends hr) fun _ h => h))

theorem restoreAfterCandidateFailure_repairs {s : RolloutLocals} {h : AgentHistory}
    (hvolume : r.payload.volume = some volume) (hsnapshot : s.snapshotName.isSome)
    (hs : Stopped r h) :
    r.restoreAfterCandidateFailure.wp (assuming F) (Repaired r volume) s h := by
  obtain ⟨snapshotName, hname⟩ := Option.isSome_iff_exists.mp hsnapshot
  refine (wp_bind _ _).mpr ?_
  simp only [wp_locals, hvolume, hname]
  exact restore_repairs (restoreService_recovers hs)

theorem restoreAfterCutoverFailure_repairs {s : RolloutLocals} {h : AgentHistory}
    (hvolume : r.payload.volume = some volume) (hsnapshot : s.snapshotName.isSome)
    (hs : Stopped r h) :
    r.restoreAfterCutoverFailure.wp (assuming F) (Repaired r volume) s h := by
  obtain ⟨snapshotName, hname⟩ := Option.isSome_iff_exists.mp hsnapshot
  refine (wp_bind _ _).mpr ?_
  simp only [wp_locals, hvolume, hname]
  exact restore_repairs (rerunPrevious_recovers hs)

theorem candidateFailed_ends {error : Failure} {s : RolloutLocals} {h : AgentHistory}
    (hvolume : r.payload.volume = some volume) (hnew : r.adoptedCandidate = none)
    (hsnapshot : s.snapshotName.isSome) (hm : Made r h) :
    (r.candidateFailed error).wp (assuming F) ⟨fun _ _ _ => False,
      fun e _ => Ends r.toAppDeployment volume e, fun _ => True⟩ s h := by
  unfold candidateFailed
  rw [hnew]
  refine wp_bind_of (R := fun _ s' h => s'.snapshotName.isSome ∧ Stopped r h) ((wp_lift _).mpr
    (wp_mono (discardCandidate_ends hvolume hm) (fun _ _ _ hs => ⟨hsnapshot, hs⟩)
      (fun _ _ _ h => h) fun _ h => h)) fun _ s h hs => ?_
  refine wp_bind_of (R := fun _ _ => Closed r.toAppDeployment volume)
    (restoreAfterCandidateFailure_repairs hvolume hs.1 hs.2) fun _ s h hr => ?_
  refine wp_bind_of (R := fun _ _ => Closed r.toAppDeployment volume) (wp_mono
    (wp_and (closed_passive (uses_lift removeRejectedImage_passive) hr)
      (throws_lift (removeRejectedImage_throws (X := fun _ => False))).wp) (fun _ _ _ h => h.1)
      (fun _ _ _ h => h.2.elim) fun _ _ => trivial) fun _ s h hr => ?_
  refine wp_bind_of (R := fun _ _ => Closed r.toAppDeployment volume) hr fun s _ h hr => ?_
  refine wp_bind_of (R := fun _ _ => Closed r.toAppDeployment volume) ((wp_lift _).mpr ?_)
    fun live s h hr => reported_ends hr
  split
  · exact wp_mono (wp_and (closed_passive canServe_passive hr)
      (previousAppRuntimeCanServe_throws (X := fun _ => False)).wp) (fun _ _ _ h => h.1)
      (fun _ _ _ h => h.2.elim) fun _ _ => trivial
  · exact hr

theorem returnRoute_closed {s : RolloutLocals} {h : AgentHistory}
    (hr : Closed r.toAppDeployment volume h) : r.returnRoute.wp (assuming F)
      (Post.always (Closed r.toAppDeployment volume)) s h := by
  refine wp_bind_of (R := fun _ _ => Closed r.toAppDeployment volume) hr fun s _ h hr => ?_
  refine wp_bind_of (R := fun _ _ => Closed r.toAppDeployment volume) ((wp_lift _).mpr ?_)
    fun _ _ h hr => ?_
  · split
    · exact hr
    · split
      · exact closed_passive routeTo_passive hr
      · exact closed_passive routeAppServiceWithoutRuntime_passive hr
  · split
    · exact (wp_lift _).mpr (deleteSnapshot_closed hr)
    · exact hr

theorem cutoverFailed_ends {error : Failure} {s : RolloutLocals} {h : AgentHistory}
    (hvolume : r.payload.volume = some volume) (hnew : r.adoptedCandidate = none)
    (hsnapshot : s.snapshotName.isSome) (hm : Made r h) :
    (r.cutoverFailed error).wp (assuming F) ⟨fun _ _ _ => False,
      fun e _ => Ends r.toAppDeployment volume e, fun _ => True⟩ s h := by
  unfold cutoverFailed
  rw [hnew]
  refine wp_bind_of (R := fun _ s' h => s'.snapshotName.isSome ∧ Stopped r h) ((wp_lift _).mpr
    (wp_mono (discardCandidate_ends hvolume hm) (fun _ _ _ hs => ⟨hsnapshot, hs⟩)
      (fun _ _ _ h => h) fun _ h => h)) fun _ s h hs => ?_
  refine wp_bind_of (R := fun _ _ => Closed r.toAppDeployment volume)
    (restoreAfterCutoverFailure_repairs hvolume hs.1 hs.2) fun _ s h hr => ?_
  refine wp_bind_of (R := fun _ _ => Closed r.toAppDeployment volume) ((wp_settle _).mpr
    (wp_mono (returnRoute_closed hr) (fun _ _ _ h => h) (fun _ _ _ h => h) fun _ _ => trivial))
    fun returned s h hr => ?_
  refine wp_bind_of (R := fun _ _ => Closed r.toAppDeployment volume) hr fun s _ h hr => ?_
  refine wp_bind_of (R := fun _ _ => Closed r.toAppDeployment volume) ((wp_lift _).mpr ?_)
    fun live s h hr => ?_
  · split
    · exact wp_mono (wp_and (closed_passive canServe_passive hr)
        (previousAppRuntimeCanServe_throws (X := fun _ => False)).wp) (fun _ _ _ h => h.1)
        (fun _ _ _ h => h.2.elim) fun _ _ => trivial
    · exact hr
  · exact wp_bind_of (R := fun _ _ => Closed r.toAppDeployment volume) (wp_mono
      (wp_and (closed_passive (uses_lift removeRejectedImage_passive) hr)
        (throws_lift (removeRejectedImage_throws (X := fun _ => False))).wp) (fun _ _ _ h => h.1)
        (fun _ _ _ h => h.2.elim) fun _ _ => trivial) fun _ s h hr => reported_ends hr

/-- While the candidate is up, whatever `p` calls leaves the snapshot known. -/
theorem made_lift {α : Type} {p : AgentAction α} {s : RolloutLocals} {h : AgentHistory}
    (hp : p.Uses Apace) (hsnapshot : s.snapshotName.isSome) (hm : Made r h) :
    (Method.lift p : RolloutMethod α).wp (assuming F)
      ⟨fun _ s h => s.snapshotName.isSome ∧ Made r h, fun _ s h => s.snapshotName.isSome ∧ Made r h,
        fun _ => True⟩ s h :=
  (wp_lift _).mpr (wp_mono (hp.wp_assuming made_cons hm) (fun _ _ _ h => ⟨hsnapshot, h⟩)
    (fun _ _ _ h => ⟨hsnapshot, h⟩) fun _ _ => trivial)

theorem verify_made {s : RolloutLocals} {h : AgentHistory} (hsnapshot : s.snapshotName.isSome)
    (hm : Made r h) : r.verify.wp (assuming F)
      ⟨fun _ s h => s.snapshotName.isSome ∧ Made r h, fun _ s h => s.snapshotName.isSome ∧ Made r h,
        fun _ => True⟩ s h := by
  unfold verify
  split
  · exact ⟨hsnapshot, hm⟩
  · split
    · exact ⟨hsnapshot, hm⟩
    · next runner jobs _ _ verification _ =>
      have hrun : (runVerificationKeepingOnError runner r.releaseTarget
          (r.verificationRequest verification)).Uses Apace :=
        runVerification_uses (fun _ c hc => passive_apace (probeCall_passive hc))
          fun _ => runnerCall_apace
      refine wp_bind_of (R := fun _ s h => s.snapshotName.isSome ∧ Made r h)
        ((wp_withLocals _ _).mpr (wp_mono (hrun.wp_assuming made_cons hm)
          (fun _ _ _ h => ⟨hsnapshot, h⟩) (fun _ _ _ h => ⟨hsnapshot, h⟩) fun _ _ => trivial))
        fun result s h hm => ?_
      split
      · next serviceUrl _ =>
        have hmove : (r.moveAppTraffic serviceUrl).Uses Apace :=
          moveAppTraffic_uses fun c hc => passive_apace (routeCall_passive hc)
        have hroute : (r.routeTo r.candidateServiceUrl).Uses Apace :=
          routeTo_passive.mono fun _ => passive_apace
        refine wp_bind_of (R := fun _ s h => s.snapshotName.isSome ∧ Made r h)
          (made_lift hmove hm.1 hm.2) fun moved s h hm => ?_
        refine wp_bind_of (R := fun _ s h => s.snapshotName.isSome ∧ Made r h) hm
          fun _ s h hm => ?_
        split
        · exact hm
        · exact wp_bind_of (R := fun _ s h => s.snapshotName.isSome ∧ Made r h)
            ((wp_settle _).mpr (made_lift hroute hm.1 hm.2)) fun _ s h hm => hm
      · exact hm

theorem cutOver_made {s : RolloutLocals} {h : AgentHistory} (hsnapshot : s.snapshotName.isSome)
    (hm : Made r h) : r.cutOver.wp (assuming F)
      ⟨fun _ s h => s.snapshotName.isSome ∧ Made r h, fun _ s h => s.snapshotName.isSome ∧ Made r h,
        fun _ => True⟩ s h :=
  wp_bind_of (R := fun _ s h => s.snapshotName.isSome ∧ Made r h)
    (made_lift (routeTo_passive.mono fun _ => passive_apace) hsnapshot hm)
    fun _ _ _ hm => verify_made hm.1 hm.2

theorem activate_ends {containerId : String} {s : RolloutLocals} {h : AgentHistory}
    (hvolume : r.payload.volume = some volume) (hnew : r.adoptedCandidate = none)
    (hsnapshot : s.snapshotName.isSome) (hm : Made r h) :
    (Method.bind r.awaitCandidate fun _ => Method.bind r.moveTraffic fun _ =>
      r.commit containerId).wp (assuming F) ⟨fun _ _ _ => True,
        fun e _ => Ends r.toAppDeployment volume e, fun _ => True⟩ s h := by
  refine wp_bind_of (R := fun _ s h => s.snapshotName.isSome ∧ Made r h) ((wp_tryCatch _ _).mpr
    (wp_mono (made_lift (waits_passive.mono fun _ => passive_apace) hsnapshot hm)
      (fun _ _ _ h => h) (fun _ s h hm => wp_mono (candidateFailed_ends hvolume hnew hm.1 hm.2)
        (fun _ _ _ h => h.elim) (fun _ _ _ h => h) fun _ h => h) fun _ h => h)) fun _ s h hm => ?_
  refine wp_bind_of (R := fun _ _ _ => True) ((wp_tryCatch _ _).mpr
    (wp_mono (cutOver_made hm.1 hm.2) (fun _ _ _ _ => trivial)
      (fun _ s h hm => wp_mono (cutoverFailed_ends hvolume hnew hm.1 hm.2)
        (fun _ _ _ h => h.elim) (fun _ _ _ h => h) fun _ h => h) fun _ h => h)) fun _ s h _ => ?_
  exact wp_mono (commit_throws (X := fun _ => False)).wp (fun _ _ _ h => h)
    (fun _ _ _ h => h.elim) fun _ h => h

theorem passive_aside {c : AgentCall} (hc : Passive c) : Aside c := (passive_apace hc).aside

theorem adopted_undisturbed {candidate : DockerContainerInspection} {s : RolloutLocals}
    {h : AgentHistory} (hadopted : r.adoptedCandidate = some candidate) (hu : Undisturbed h) :
    (Method.bind r.prepareVolume fun _ => Method.bind (Method.lift r.startCandidate)
      fun containerId => Method.bind r.awaitCandidate fun _ => Method.bind r.moveTraffic fun _ =>
        r.commit containerId : RolloutMethod DeployAppImageResult).wp (assuming F)
      ⟨fun _ _ _ => True, fun _ _ => Undisturbed, fun _ => True⟩ s h := by
  have keep {α : Type} {p : RolloutMethod α} {s : RolloutLocals} {h : AgentHistory}
      (hp : p.Uses Aside) (hu : Undisturbed h) : p.wp (assuming F)
        ⟨fun _ _ => Undisturbed, fun _ _ => Undisturbed, fun _ => True⟩ s h :=
    wp_mono (hp.wp_assuming (fun _ _ => undisturbed_cons) hu) (fun _ _ _ h => h)
      (fun _ _ _ h => h) fun _ _ => trivial
  have hprepare : r.prepareVolume.Uses Aside := by
    unfold prepareVolume
    rw [hadopted]
    split
    · next hnew => cases hnew
    · exact uses_pure ()
  have hstart : r.startCandidate.Uses Aside := by
    unfold startCandidate
    rw [hadopted]
    exact uses_pure _
  have hfailed (error : Failure) : (r.candidateFailed error).Uses Aside := by
    unfold candidateFailed
    rw [if_pos (by rw [hadopted]; rfl)]
    exact uses_throw error
  have hcutover (error : Failure) : (r.cutoverFailed error).Uses Aside := by
    unfold cutoverFailed
    rw [if_pos (by rw [hadopted]; rfl)]
    exact uses_throw error
  have hcut : r.cutOver.Uses Aside :=
    cutOver_uses (fun _ => passive_aside) fun _ hc => (runnerCall_apace hc).aside
  refine wp_bind_of (R := fun _ _ => Undisturbed) (keep hprepare hu) fun _ s h hu => ?_
  refine wp_bind_of (R := fun _ _ => Undisturbed) (keep (uses_lift hstart) hu) fun _ s h hu => ?_
  refine wp_bind_of (R := fun _ _ => Undisturbed) (keep (uses_tryCatch (uses_lift
    (waits_passive.mono fun _ => passive_aside)) hfailed) hu) fun _ s h hu => ?_
  refine wp_bind_of (R := fun _ _ => Undisturbed) (keep (uses_tryCatch hcut hcutover) hu)
    fun _ s h hu => ?_
  exact wp_mono (commit_throws (X := fun _ => False)).wp (fun _ _ _ h => h)
    (fun _ _ _ h => h.elim) fun _ h => h

theorem roll_ends {s : RolloutLocals} {h : AgentHistory} (hvolume : r.payload.volume = some volume)
    (hu : Untouched r.toAppDeployment h) : r.roll.wp (assuming F)
      ⟨fun _ _ _ => True, fun e _ => Ends r.toAppDeployment volume e, fun _ => True⟩ s h := by
  have keep {p : AgentAction Unit} {s : RolloutLocals} {h : AgentHistory} (hp : p.Uses Aside)
      (hu : Untouched r.toAppDeployment h) : (Method.lift p : RolloutMethod Unit).wp (assuming F)
        ⟨fun _ _ => Untouched r.toAppDeployment, fun e _ => Ends r.toAppDeployment volume e,
          fun _ => True⟩ s h :=
    wp_mono ((uses_lift hp).wp_assuming untouched_cons hu) (fun _ _ _ h => h)
      (fun _ _ _ h => .inl h.1) fun _ _ => trivial
  have hprobe (name : String) (c : AgentCall) (hc : ProbeCall name c) : Aside c :=
    passive_aside (probeCall_passive hc)
  refine wp_bind_of (R := fun _ _ => Untouched r.toAppDeployment) (keep
    (finishRejectedRelease_uses hprobe (fun _ hc => passive_aside (routeCall_passive hc))
      (fun _ _ => trivial) trivial) hu) fun _ s h hu => ?_
  refine wp_bind_of (R := fun _ _ => Untouched r.toAppDeployment) (keep
    (preActivate_uses hprobe fun _ hc => (runnerCall_apace hc).aside) hu) fun _ s h hu => ?_
  cases hadopted : r.adoptedCandidate with
  | some candidate =>
    exact wp_mono (adopted_undisturbed hadopted hu.1) (fun _ _ _ h => h) (fun _ _ _ h => .inl h)
      fun _ h => h
  | none =>
    refine wp_bind_of (R := fun _ => Prepared r) (prepareVolume_prepares hvolume hadopted hu)
      fun _ s h hp => ?_
    refine wp_bind_of (R := fun _ s h => s.snapshotName.isSome ∧ Made r h) ((wp_lift _).mpr
      (wp_mono (startCandidate_makes hadopted hp.2) (fun _ _ _ hm => ⟨hp.1, hm⟩) (fun _ _ _ h => h)
        fun _ h => h)) fun containerId s h hm => activate_ends hvolume hadopted hm.1 hm.2

theorem deploy_ends (hvolume : d.payload.volume = some volume) :
    d.deployAppImageWithDependencies.wp (assuming F)
      ⟨fun _ _ _ => True, fun e _ => Ends d volume e, fun _ => True⟩ {} [] := by
  have hstart : Untouched d [] := ⟨fun name hm => (nomatch hm), settled_nil⟩
  have hnetwork : d.prepareNetwork.Uses Aside := prepareNetwork_uses fun _ => setupCall_aside
  have hfind : d.findRollout.Uses Aside := findRollout_uses fun _ => setupCall_aside
  refine wp_bind_of (R := fun _ _ => Untouched d) (wp_mono ((uses_lift hnetwork).wp_assuming
    untouched_cons hstart) (fun _ _ _ h => h) (fun _ _ _ h => .inl h.1) fun _ _ => trivial)
    fun _ s h hu => ?_
  refine wp_bind_of (R := fun r _ h => r.toAppDeployment = d ∧ Untouched d h) ((wp_lift _).mpr
    (wp_mono (wp_and (findRollout_wp h) (hfind.wp_assuming untouched_cons hu))
      (fun _ _ _ h => ⟨h.1.1, h.2⟩) (fun _ _ _ h => .inl h.2.1) fun _ _ => trivial))
    fun r s h hr => ?_
  obtain ⟨rfl, hu⟩ := hr
  exact roll_ends hvolume hu

/-- The run stopped the previous container `name` to copy its volume, and then failed; `later` is
what it did after that stop, and no candidate was left running. -/
structure FailsQuiesced (d : AppDeployment) (env : AgentEnvironment) (volume : AppVolumeIdentity)
    (name : String) (later : AgentHistory) (error : Failure) : Prop where
  volume : d.payload.volume = some volume
  failed : ∃ s, ((d.deployAppImageWithDependencies {}).run env []).1 = .done (.error error, s)
  stopped : ∃ before, ((d.deployAppImageWithDependencies {}).run env []).2 =
    later ++ quiesceStop name :: before
  idle : ((d.deployAppImageWithDependencies {}).run env []).2.findSome? (candidateSeen d) ≠
    some true

/-- A rollout that fails on a quiesced volume recovers the previous container and says so. -/
def Atomic (d : AppDeployment) (env : AgentEnvironment) : Prop :=
  ∀ volume name later error, FailsQuiesced d env volume name later error →
    Recovered d volume name later ∧ Reported error

/-- A rollout of an app with a volume is atomic unless, once the volume was quiesced, it ends where
the candidate could not be made, or where a fresh one could not be taken away for good. -/
theorem app_volume_rollout_atomic_iff (d : AppDeployment) (env : AgentEnvironment) :
    Atomic d env ↔ ∀ volume name later error, FailsQuiesced d env volume name later error →
      ¬ EndsUnguarded d ((d.deployAppImageWithDependencies {}).run env []).2 := by
  refine forall_congr' fun volume => forall_congr' fun name => forall_congr' fun later =>
    forall_congr' fun error => imp_congr_right fun hfails => ?_
  obtain ⟨before, hrun⟩ := hfails.stopped
  obtain ⟨s, hend⟩ := hfails.failed
  have hends : Ends d volume error ((d.deployAppImageWithDependencies {}).run env []).2 := by
    have hexec := Program.run_exec (F := fun _ _ => True) env (d.deployAppImageWithDependencies {})
      [] (along_iff.mpr fun _ _ _ _ => trivial)
    rw [hend] at hexec
    exact Program.wp_sound (deploy_ends hfails.volume) hexec
  obtain hu | ⟨hreported, hclosed⟩ | ⟨hsilent, hunguarded⟩ := hends
  · exact absurd (hrun ▸ List.mem_append_right later List.mem_cons_self) (hu name)
  · exact iff_of_true ⟨hclosed.1 later name before hrun, hreported⟩ hclosed.2.2.1
  · exact iff_of_false (fun h => hsilent h.2) fun h => h hunguarded

def fullDisk : AgentEnvironment :=
  answering fun _ r => match r with
    | .ensureContainer _ _ _ => .error ⟨true, "no space left on device", some 500⟩
    | r => .ok (wellAnswer (fun name =>
        if name = "old-app" then some (sampleContainer name "healthy") else none) (.skip 1) r)

def fullDiskRun : AgentHistory :=
  (((sampleDeployment (some sampleVolume)).deployAppImageWithDependencies {}).run fullDisk []).2

/-- With a full disk the previous container stays stopped, and the error says nothing of it. -/
theorem app_volume_rollout_not_atomic : ¬ Atomic (sampleDeployment (some sampleVolume)) fullDisk := by
  intro h
  have hstop : fullDiskRun.drop 10 = quiesceStop "old-app" :: fullDiskRun.drop 11 := rfl
  have hfails : FailsQuiesced (sampleDeployment (some sampleVolume)) fullDisk sampleVolume "old-app"
      (fullDiskRun.take 10) (.call ⟨true, "no space left on device", some 500⟩) :=
    ⟨rfl, ⟨_, rfl⟩, ⟨fullDiskRun.drop 11, hstop ▸ (List.take_append_drop 10 fullDiskRun).symm⟩,
      by decide +kernel⟩
  exact call_unreported _ (h _ _ _ _ hfails).2

end NouvaAgent.AppRollout
