import NouvaAgent.AgentHistory
import NouvaAgent.ReleaseJobCalls

namespace NouvaAgent.ReleaseJobs

open Text Interaction Agent Method

/-- `e` shows `container`, which is the one that `nameOrId` stands for. -/
def Shows (e : AgentEvent) (nameOrId : String) (container : DockerContainerInspection) : Prop :=
  container ∈ shown e ∧
    (container.Named nameOrId ∨ e.call = .request (.inspectContainer nameOrId))

def Sees (e : AgentEvent) (nameOrId : String) (observation : ReleaseJobContainerObservation) :
    Prop :=
  (e = ⟨.request (.inspectContainer nameOrId), some (.ok none)⟩ ∧ observation = .missing) ∨
    ∃ container, Shows e nameOrId container ∧ observation = observeContainer (some container)

def LastSeenRunning (nameOrId : String) : AgentHistory → Prop
  | [] => False
  | e :: h => ((∃ o, Sees e nameOrId o) ∧ ∀ o, Sees e nameOrId o → o = .running) ∨
      ((¬ ∃ o, Sees e nameOrId o) ∧ LastSeenRunning nameOrId h)

def Read (time : ℤ) (h : AgentHistory) : Prop := ⟨.now, some time⟩ ∈ h

/-- By the clock, the container had been started by `startedAtMs`: Docker reported that time, or
the clock read it after a start was acknowledged or a look found the container running. -/
def StartedBy (nameOrId : String) (startedAtMs : ℤ) (h : AgentHistory) : Prop :=
  (∃ e ∈ h, ∃ container, Shows e nameOrId container ∧
    readStartedAtMs (some container) = some startedAtMs) ∨
  ∃ later before, h = later ++ ⟨.now, some startedAtMs⟩ :: before ∧
    (⟨.request (.startContainer nameOrId), some (.ok ())⟩ ∈ before ∨
      ∃ e ∈ before, Sees e nameOrId .running)

/-- `timeoutSeconds` is the timeout of the job: the one its phase asks for when it is the attempt's
own container `own`, else the one on its label. -/
def HasTimeout (own : String) (ownTimeoutSeconds : ℕ) (nameOrId : String) (timeoutSeconds : ℚ)
    (h : AgentHistory) : Prop :=
  (nameOrId = own ∧ timeoutSeconds = ownTimeoutSeconds) ∨
    ∃ e ∈ h, ∃ container, Shows e nameOrId container ∧ timeoutOf container = some timeoutSeconds

def PastDeadline (own : String) (ownTimeoutSeconds : ℕ) (nameOrId : String) (h : AgentHistory) :
    Prop :=
  ∃ startedAtMs time timeoutSeconds, StartedBy nameOrId startedAtMs h ∧
    HasTimeout own ownTimeoutSeconds nameOrId timeoutSeconds h ∧ Read time h ∧
    (time : ℚ) ≥ startedAtMs + timeoutSeconds * 1000

def Stops (nameOrId : String) : AgentCall → Prop
  | .request (.stopContainer n _ _) => n = nameOrId
  | _ => False

def Removes (nameOrId : String) : AgentCall → Prop
  | .request (.removeContainer n _ _) => n = nameOrId
  | _ => False

/-- The control plane has acknowledged a report for `attempt`. -/
def Acknowledged (phase : ReleasePhase) (attempt : ℕ) (h : AgentHistory) : Prop :=
  ∃ report : ReleaseJobReport, report.attempt = attempt ∧
    ⟨.request (.report phase report), some (.ok ())⟩ ∈ h

def Claimed (phase : ReleasePhase) (attempt : ℕ) (h : AgentHistory) : Prop :=
  ∃ jobs, ⟨.request (.claim phase jobs), some (.ok (.run attempt))⟩ ∈ h ∨
    ⟨.request (.claim phase jobs), some (.ok (.resume attempt))⟩ ∈ h

/-- `nameOrId` stands for the container `name`, by that name or by an id seen with it. -/
def StandsFor (nameOrId name : String) (h : AgentHistory) : Prop :=
  nameOrId = name ∨ ∃ e ∈ h, ∃ container ∈ shown e, container.Named name ∧ container.Named nameOrId

/-- What the evidence of an attempt asks of an event: it does not remove the attempt's container
before a report is acknowledged, and it neither stops nor removes a job last seen running before
that job's deadline. -/
def KeepsEvidence (phase : ReleasePhase) (attempt : ℕ) (own : String) (ownTimeoutSeconds : ℕ)
    (e : AgentEvent) (before : AgentHistory) : Prop :=
  (∀ nameOrId, Removes nameOrId e.call → StandsFor nameOrId own before →
    Acknowledged phase attempt before) ∧
  ∀ nameOrId, Stops nameOrId e.call ∨ Removes nameOrId e.call → LastSeenRunning nameOrId before →
    PastDeadline own ownTimeoutSeconds nameOrId before

def Fresh (name : String) (e : AgentEvent) (before : AgentHistory) : Prop :=
  (∃ spec answer, spec.name = name ∧ ⟨.request (.createContainer spec), answer⟩ ∈ before) ∨
    ∀ container ∈ shown e, ¬ container.Named name

section Monotone

variable {e : AgentEvent} {h : AgentHistory} {nameOrId own : String} {startedAtMs time : ℤ}
  {timeout : ℕ}

theorem StartedBy.cons (hs : StartedBy nameOrId startedAtMs h) :
    StartedBy nameOrId startedAtMs (e :: h) := by
  rcases hs with ⟨e', he, hc⟩ | ⟨later, before, hh, hb⟩
  · exact .inl ⟨e', List.mem_cons_of_mem _ he, hc⟩
  · exact .inr ⟨e :: later, before, by rw [hh, List.cons_append], hb⟩

theorem PastDeadline.cons (hp : PastDeadline own timeout nameOrId h) :
    PastDeadline own timeout nameOrId (e :: h) := by
  obtain ⟨s, t, n, hs, hn, ht, hle⟩ := hp
  refine ⟨s, t, n, hs.cons, ?_, List.mem_cons_of_mem _ ht, hle⟩
  exact hn.imp_right fun ⟨e', he, hc⟩ => ⟨e', List.mem_cons_of_mem _ he, hc⟩

end Monotone

section Looks

variable {e : AgentEvent} {h : AgentHistory} {nameOrId : String}

theorem blind_sees (hb : Blind e.call) {observation : ReleaseJobContainerObservation} :
    ¬ Sees e nameOrId observation := by
  rintro (⟨rfl, _⟩ | ⟨container, hc, _⟩)
  · exact hb
  · rw [Shows, shown_blind hb] at hc
    exact absurd hc.1 (List.not_mem_nil)

theorem lastSeen_blind (hb : Blind e.call) :
    LastSeenRunning nameOrId (e :: h) ↔ LastSeenRunning nameOrId h := by
  have hn : ¬ ∃ o, Sees e nameOrId o := fun ⟨_, ho⟩ => blind_sees hb ho
  simp only [LastSeenRunning, hn, false_and, not_false_eq_true, true_and, false_or]

theorem lastSeen_of_sees {observation : ReleaseJobContainerObservation}
    (hs : Sees e nameOrId observation) (hl : LastSeenRunning nameOrId (e :: h)) :
    observation = .running := by
  rcases hl with ⟨_, hall⟩ | ⟨hnone, _⟩
  · exact hall _ hs
  · exact absurd ⟨_, hs⟩ hnone

theorem sees_inspect (inspection : Option DockerContainerInspection) :
    Sees ⟨.request (.inspectContainer nameOrId), some (.ok inspection)⟩ nameOrId
      (observeContainer inspection) := by
  cases inspection with
  | none => exact .inl ⟨rfl, rfl⟩
  | some container => exact .inr ⟨container, ⟨List.mem_singleton_self _, .inr rfl⟩, rfl⟩

theorem sees_listed {labels : TextRecord} {containers : List DockerContainerInspection}
    {container : DockerContainerInspection} (hc : container ∈ containers) :
    Sees ⟨.request (.listContainersByLabels labels), some (.ok containers)⟩ container.id
      (observeContainer (some container)) :=
  .inr ⟨container, ⟨hc, .inl (.inl rfl)⟩, rfl⟩

theorem startedBy_inspect {inspection : Option DockerContainerInspection} {startedAtMs : ℤ}
    (hs : readStartedAtMs inspection = some startedAtMs) : StartedBy nameOrId startedAtMs
      (⟨.request (.inspectContainer nameOrId), some (.ok inspection)⟩ :: h) := by
  cases inspection with
  | none => simp [readStartedAtMs, readTimestampMs] at hs
  | some container =>
    exact .inl ⟨_, List.mem_cons_self, container, ⟨List.mem_singleton_self _, .inr rfl⟩, hs⟩

end Looks

section Runner

variable {σ α : Type} {F : AgentEvent → AgentHistory → Prop} {phase : ReleasePhase} {attempt : ℕ}
  {own : String} {timeout : ℕ} {e : AgentEvent} {h : AgentHistory} {s : σ}

abbrev Kept (phase : ReleasePhase) (attempt : ℕ) (own : String) (timeout : ℕ) :
    AgentHistory → Prop := Along (KeepsEvidence phase attempt own timeout)

/-- Ending the attempt's own container would not cut short a job that is still running. -/
def MayEnd (own : String) (timeout : ℕ) (h : AgentHistory) : Prop :=
  LastSeenRunning own h → PastDeadline own timeout own h

theorem MayEnd.cons (hb : Blind e.call) (hm : MayEnd own timeout h) : MayEnd own timeout (e :: h) :=
  fun hl => (hm ((lastSeen_blind hb).mp hl)).cons

theorem kept_cons (he : ∀ nameOrId, ¬ Stops nameOrId e.call ∧ ¬ Removes nameOrId e.call)
    (hk : Kept phase attempt own timeout h) : Kept phase attempt own timeout (e :: h) :=
  ⟨⟨fun n hr => absurd hr (he n).2, fun n hn => absurd hn (by simp [he n])⟩, hk⟩

theorem kept_inspect {name : String} {answer : Option (AgentCall.Answer (.request (.inspectContainer name)))}
    (hk : Kept phase attempt own timeout h) :
    Kept phase attempt own timeout (⟨.request (.inspectContainer name), answer⟩ :: h) :=
  kept_cons (fun _ => ⟨id, id⟩) hk

theorem kept_now {answer : Option ℤ} (hk : Kept phase attempt own timeout h) :
    Kept phase attempt own timeout (⟨.now, answer⟩ :: h) :=
  kept_cons (fun _ => ⟨id, id⟩) hk

theorem kept_sleep {ms : ℤ} {answer : Option Unit} (hk : Kept phase attempt own timeout h) :
    Kept phase attempt own timeout (⟨.sleep ms, answer⟩ :: h) :=
  kept_cons (fun _ => ⟨id, id⟩) hk

theorem kept_stop {name : String} {seconds ms : Option ℤ}
    {answer : Option (AgentCall.Answer (.request (.stopContainer name seconds ms)))}
    (hp : LastSeenRunning name h → PastDeadline own timeout name h)
    (hk : Kept phase attempt own timeout h) :
    Kept phase attempt own timeout (⟨.request (.stopContainer name seconds ms), answer⟩ :: h) := by
  refine ⟨⟨fun _ hr => hr.elim, ?_⟩, hk⟩
  rintro n (hn | hn) hl
  · obtain rfl : name = n := hn
    exact hp hl
  · exact hn.elim

theorem kept_remove {name : String} {force : Bool} {ms : Option ℤ}
    {answer : Option (AgentCall.Answer (.request (.removeContainer name force ms)))}
    (ha : StandsFor name own h → Acknowledged phase attempt h)
    (hp : LastSeenRunning name h → PastDeadline own timeout name h)
    (hk : Kept phase attempt own timeout h) :
    Kept phase attempt own timeout (⟨.request (.removeContainer name force ms), answer⟩ :: h) := by
  refine ⟨⟨fun n hn hs => ?_, ?_⟩, hk⟩
  · obtain rfl : name = n := hn
    exact ha hs
  · rintro n (hn | hn) hl
    · exact hn.elim
    · obtain rfl : name = n := hn
      exact hp hl

theorem awaitExit_evidence {startedAtMs : ℤ} (fuel : ℕ) (hk : Kept phase attempt own timeout h)
    (hs : StartedBy own startedAtMs h) :
    (awaitExit own (startedAtMs + timeout * 1000) fuel : AgentMethod σ JobExit).wp (assuming F)
      ⟨fun _ _ h => Kept phase attempt own timeout h ∧ MayEnd own timeout h,
        fun _ _ => Kept phase attempt own timeout, Kept phase attempt own timeout⟩ s h := by
  induction fuel generalizing h s with
  | zero => exact hk
  | succ fuel ih =>
    refine wp_bind_of (R := fun inspection _ h => Kept phase attempt own timeout h ∧
      StartedBy own startedAtMs h ∧
      (observeContainer inspection ≠ .running → ¬ LastSeenRunning own h)) ?_ ?_
    · rw [wp_request_assuming]
      exact ⟨fun _ => kept_inspect hk, fun _ _ => kept_inspect hk, fun inspection _ =>
        ⟨kept_inspect hk, hs.cons, fun hne hl => hne (lastSeen_of_sees (sees_inspect _) hl)⟩⟩
    · rintro inspection s h ⟨hk, hs, hseen⟩
      dsimp only
      split
      · next hended =>
        refine ⟨hk, fun hl => absurd hl (hseen ?_)⟩
        intro hr
        rw [hr] at hended
        cases hended
      · refine wp_bind_of (R := fun time _ h => Kept phase attempt own timeout h ∧
          StartedBy own startedAtMs h ∧ Read time h) ?_ ?_
        · rw [wp_now_assuming]
          exact ⟨fun _ => kept_now hk, fun time _ => ⟨kept_now hk, hs.cons, List.mem_cons_self⟩⟩
        · rintro time s h ⟨hk, hs, ht⟩
          split
          · next hge =>
            have hpast : PastDeadline own timeout own h :=
              ⟨startedAtMs, time, timeout, hs, .inl ⟨rfl, rfl⟩, ht, by exact_mod_cast hge⟩
            refine wp_bind_of (R := fun _ _ h => Kept phase attempt own timeout h ∧
              PastDeadline own timeout own h) ?_ ?_
            · rw [wp_request_assuming]
              have hstop {answer} : Kept phase attempt own timeout
                  (⟨.request (.stopContainer own (some stopGraceSeconds) none), answer⟩ :: h) :=
                kept_stop (fun _ => hpast) hk
              exact ⟨fun _ => hstop, fun _ _ => hstop, fun _ _ => ⟨hstop, hpast.cons⟩⟩
            · rintro _ s h ⟨hk, hpast⟩
              refine wp_bind_of (R := fun _ _ h => Kept phase attempt own timeout h ∧
                PastDeadline own timeout own h) ?_ ?_
              · rw [wp_request_assuming]
                exact ⟨fun _ => kept_inspect hk, fun _ _ => kept_inspect hk,
                  fun _ _ => ⟨kept_inspect hk, hpast.cons⟩⟩
              · rintro _ s h ⟨hk, hpast⟩
                exact ⟨hk, fun _ => hpast⟩
          · refine wp_bind_of (R := fun _ _ h => Kept phase attempt own timeout h ∧
              StartedBy own startedAtMs h) ?_ ?_
            · rw [wp_now_assuming]
              exact ⟨fun _ => kept_now hk, fun _ _ => ⟨kept_now hk, hs.cons⟩⟩
            · rintro _ s h ⟨hk, hs⟩
              refine wp_bind_of (R := fun _ _ h => Kept phase attempt own timeout h ∧
                StartedBy own startedAtMs h) ?_ ?_
              · rw [wp_sleep_assuming]
                exact ⟨fun _ => kept_sleep hk, fun _ => ⟨kept_sleep hk, hs.cons⟩⟩
              · rintro _ s h ⟨hk, hs⟩
                exact ih hk hs

theorem kept_quiet (hq : Quiet e.call) (hk : Kept phase attempt own timeout h) :
    Kept phase attempt own timeout (e :: h) := by
  refine kept_cons (fun n => ?_) hk
  obtain ⟨c, answer⟩ := e
  cases c with
  | request r => cases r <;> first | exact hq.elim | exact ⟨id, id⟩
  | now => exact ⟨id, id⟩
  | sleep ms => exact ⟨id, id⟩

theorem reportOutcome_acknowledged {runner : ReleasePhaseRunner} {J : AgentHistory → Prop}
    {report : ReleaseJobReport} (hJ : ∀ e h, Quiet e.call → J h → J (e :: h)) (hh : J h) :
    (reportOutcome runner phase report : AgentMethod σ Unit).wp (assuming F)
      ⟨fun _ _ h => J h ∧ Acknowledged phase report.attempt h, fun _ _ => J, J⟩ s h := by
  refine callControlPlane_wp ?_ ?_ ?_ hh
  · intro s h hh
    rw [wp_request_assuming]
    exact ⟨fun _ => hJ _ _ trivial hh, fun _ _ => hJ _ _ trivial hh,
      fun _ _ => ⟨hJ _ _ trivial hh, report, rfl, List.mem_cons_self⟩⟩
  · rintro h r h' ⟨rfl, _⟩ hh
    exact hJ _ _ trivial hh
  · rintro ms h r h' ⟨rfl, _⟩ hh
    exact hJ _ _ trivial hh

def reportedPost (phase : ReleasePhase) (attempt : ℕ) (own : String) (timeout : ℕ) :
    Post Failure σ α AgentHistory :=
  ⟨fun _ _ h => (Kept phase attempt own timeout h ∧ MayEnd own timeout h) ∧
      Acknowledged phase attempt h,
    fun _ _ => Kept phase attempt own timeout, Kept phase attempt own timeout⟩

theorem quiet_keeps (e : AgentEvent) (h : AgentHistory) (hq : Quiet e.call)
    (hh : Kept phase attempt own timeout h ∧ MayEnd own timeout h) :
    Kept phase attempt own timeout (e :: h) ∧ MayEnd own timeout (e :: h) :=
  ⟨kept_quiet hq hh.1, hh.2.cons hq.blind⟩

variable {runner : ReleasePhaseRunner} {target : ReleaseJobTarget}
  {phaseRequest : ReleasePhaseRequest σ}

theorem reportExit_evidence (hpolicy : phaseRequest.resolveAppliedPolicy = none) (exit : JobExit)
    (hh : Kept phaseRequest.phase attempt own timeout h ∧ MayEnd own timeout h) :
    (reportExit runner phaseRequest own attempt exit).wp (assuming F)
      (reportedPost phaseRequest.phase attempt own timeout) s h := by
  let J (h : AgentHistory) := Kept phaseRequest.phase attempt own timeout h ∧ MayEnd own timeout h
  have quiet {β : Type} {p : AgentMethod σ β} (hp : p.Uses Quiet) (s : σ) (h : AgentHistory)
      (hh : J h) : p.wp (assuming F) ⟨fun _ _ => J, fun _ _ => Kept phaseRequest.phase attempt own
        timeout, Kept phaseRequest.phase attempt own timeout⟩ s h := by
    refine wp_mono (hp.wp (J := J) ?_ hh) (fun _ _ _ h => h) (fun _ _ _ h => h.1) fun _ h => h.1
    rintro h c r h' hq ⟨rfl, _⟩ hh
    exact quiet_keeps _ _ hq hh
  refine wp_bind_of (quiet ?_ s h hh) fun _ s h hh => wp_bind_of (quiet ?_ s h hh) fun _ s h hh =>
    wp_bind_of (quiet (uses_now trivial) s h hh) fun _ s h hh => wp_bind_of
      (R := fun _ _ h => J h ∧ Acknowledged phaseRequest.phase attempt h) ?_ fun _ _ _ hh => hh
  · split
    · exact (shipLogs_framed runner own trivial).uses
    · exact uses_pure ()
  · exact resolvePolicy_uses (by simp [hpolicy]) _
  · exact wp_mono (reportOutcome_acknowledged quiet_keeps hh) (fun _ _ _ h => h)
      (fun _ _ _ h => h.1) fun _ h => h.1

theorem reportNotStarted_evidence (error : Failure)
    (hh : Kept phaseRequest.phase attempt own timeout h ∧ MayEnd own timeout h) :
    (reportNotStarted runner phaseRequest attempt error).wp (assuming F)
      (reportedPost phaseRequest.phase attempt own timeout) s h := by
  refine wp_bind_of (R := fun _ _ h => Kept phaseRequest.phase attempt own timeout h ∧
    MayEnd own timeout h) ?_ fun time s h hh => wp_bind_of
      (R := fun _ _ h => (Kept phaseRequest.phase attempt own timeout h ∧ MayEnd own timeout h) ∧
        Acknowledged phaseRequest.phase attempt h) ?_ fun _ _ _ hh => hh
  · rw [wp_now_assuming]
    exact ⟨fun _ => kept_now hh.1, fun _ _ => quiet_keeps _ _ trivial hh⟩
  · exact wp_mono (reportOutcome_acknowledged quiet_keeps hh) (fun _ _ _ h => h)
      (fun _ _ _ h => h.1) fun _ h => h.1

theorem awaitAndReport_evidence (hpolicy : phaseRequest.resolveAppliedPolicy = none)
    {startedAtMs : ℤ} (hk : Kept phaseRequest.phase attempt own phaseRequest.timeoutSeconds h)
    (hs : StartedBy own startedAtMs h) :
    (awaitAndReport runner phaseRequest own attempt startedAtMs).wp (assuming F)
      (reportedPost phaseRequest.phase attempt own phaseRequest.timeoutSeconds) s h :=
  wp_bind_of (awaitExit_evidence runner.fuel hk hs) fun exit _ _ hh =>
    reportExit_evidence hpolicy exit hh

/-- What is known of the attempt's container once its start was tried. -/
def StartKnown (own : String) (timeout : ℕ) (start : AttemptStart) (h : AgentHistory) : Prop :=
  match start with
  | .started atMs => StartedBy own atMs h
  | .notStarted _ => MayEnd own timeout h

theorem startAttempt_evidence {start : AgentMethod σ Unit}
    (hstart : start.wp (assuming F) ⟨fun _ _ h => Kept phase attempt own timeout h ∧
      ⟨.request (.startContainer own), some (.ok ())⟩ ∈ h,
      fun _ _ => Kept phase attempt own timeout, Kept phase attempt own timeout⟩ s h) :
    (startAttempt own start).wp (assuming F)
      ⟨fun start _ h => Kept phase attempt own timeout h ∧ StartKnown own timeout start h,
        fun _ _ => Kept phase attempt own timeout, Kept phase attempt own timeout⟩ s h := by
  refine wp_bind_of (R := fun r _ h => Kept phase attempt own timeout h ∧
    ∀ a, r = .ok a → ⟨.request (.startContainer own), some (.ok ())⟩ ∈ h) ?_ ?_
  · rw [wp_settle]
    exact wp_mono hstart (fun _ _ _ h => ⟨h.1, fun _ _ => h.2⟩) (fun _ _ _ h => ⟨h, by simp⟩)
      fun _ h => h
  · rintro (error | _) s h ⟨hk, hacked⟩
    · refine wp_bind_of (R := fun r _ h => Kept phase attempt own timeout h ∧
        ∀ inspection, r = .ok inspection → ∃ before, h =
          ⟨.request (.inspectContainer own), some (.ok inspection)⟩ :: before) ?_ ?_
      · rw [wp_settle, wp_request_assuming]
        exact ⟨fun _ => kept_inspect hk, fun _ _ => ⟨kept_inspect hk, by simp⟩,
          fun a _ => ⟨kept_inspect hk, fun b hb => ⟨h, by rw [Except.ok.inj hb]⟩⟩⟩
      · rintro (_ | inspection) s h ⟨hk, hseen⟩
        · exact hk
        · obtain ⟨before, rfl⟩ := hseen inspection rfl
          dsimp only
          split
          · next startedAtMs hread => exact ⟨hk, startedBy_inspect hread⟩
          · split
            · next hrunning =>
              refine wp_bind_of (R := fun time _ h => Kept phase attempt own timeout h ∧
                StartedBy own time h) ?_ fun _ _ _ hh => hh
              rw [wp_now_assuming]
              exact ⟨fun _ => kept_now hk, fun time _ => ⟨kept_now hk, .inr ⟨[], _, rfl,
                .inr ⟨_, List.mem_cons_self, hrunning ▸ sees_inspect inspection⟩⟩⟩⟩
            · next hne =>
              exact ⟨hk, fun hl => absurd (lastSeen_of_sees (sees_inspect inspection) hl) hne⟩
    · refine wp_bind_of (R := fun time _ h => Kept phase attempt own timeout h ∧
        StartedBy own time h) ?_ fun _ _ _ hh => hh
      rw [wp_now_assuming]
      exact ⟨fun _ => kept_now hk, fun time _ =>
        ⟨kept_now hk, .inr ⟨[], h, rfl, .inl (hacked _ rfl)⟩⟩⟩

theorem reportStart_evidence (hpolicy : phaseRequest.resolveAppliedPolicy = none)
    (start : AttemptStart) (hk : Kept phaseRequest.phase attempt own phaseRequest.timeoutSeconds h)
    (hs : StartKnown own phaseRequest.timeoutSeconds start h) :
    (reportStart runner phaseRequest own attempt start).wp (assuming F)
      (reportedPost phaseRequest.phase attempt own phaseRequest.timeoutSeconds) s h := by
  cases start with
  | started atMs => exact awaitAndReport_evidence hpolicy hk hs
  | notStarted error => exact reportNotStarted_evidence error ⟨hk, hs⟩

theorem kept_start {name : String} {answer : Option (AgentCall.Answer (.request (.startContainer name)))}
    (hk : Kept phase attempt own timeout h) :
    Kept phase attempt own timeout (⟨.request (.startContainer name), answer⟩ :: h) :=
  kept_quiet trivial hk

theorem startContainer_evidence (hk : Kept phase attempt own timeout h) :
    (request (.startContainer own) : AgentMethod σ Unit).wp (assuming F)
      ⟨fun _ _ h => Kept phase attempt own timeout h ∧
        ⟨.request (.startContainer own), some (.ok ())⟩ ∈ h,
      fun _ _ => Kept phase attempt own timeout, Kept phase attempt own timeout⟩ s h := by
  rw [wp_request_assuming]
  exact ⟨fun _ => kept_start hk, fun _ _ => kept_start hk,
    fun _ _ => ⟨kept_start hk, List.mem_cons_self⟩⟩

theorem resumeAttempt_evidence (hpolicy : phaseRequest.resolveAppliedPolicy = none)
    (hk : Kept phaseRequest.phase attempt own phaseRequest.timeoutSeconds h) :
    (resumeAttempt runner phaseRequest own attempt).wp (assuming F)
      (reportedPost phaseRequest.phase attempt own phaseRequest.timeoutSeconds) s h := by
  refine wp_bind_of (R := fun inspection _ h =>
    Kept phaseRequest.phase attempt own phaseRequest.timeoutSeconds h ∧ ∃ before, h =
      ⟨.request (.inspectContainer own), some (.ok inspection)⟩ :: before) ?_ ?_
  · rw [wp_request_assuming]
    exact ⟨fun _ => kept_inspect hk, fun _ _ => kept_inspect hk,
      fun _ _ => ⟨kept_inspect hk, h, rfl⟩⟩
  · rintro inspection s h ⟨hk, before, rfl⟩
    have hseen (hne : observeContainer inspection ≠ .running) :
        MayEnd own phaseRequest.timeoutSeconds
          (⟨.request (.inspectContainer own), some (.ok inspection)⟩ :: before) :=
      fun hl => absurd (lastSeen_of_sees (sees_inspect inspection) hl) hne
    cases hobs : observeContainer inspection with
    | created =>
      exact wp_bind_of (startAttempt_evidence (startContainer_evidence hk)) fun start _ _ hh =>
        reportStart_evidence hpolicy start hh.1 hh.2
    | running =>
      simp only [decideReleaseJobRecovery]
      split
      · next startedAtMs hread =>
        exact awaitAndReport_evidence hpolicy hk (startedBy_inspect hread)
      · refine wp_bind_of (R := fun time _ h =>
          Kept phaseRequest.phase attempt own phaseRequest.timeoutSeconds h ∧
            StartedBy own time h) ?_ fun _ _ _ hh => awaitAndReport_evidence hpolicy hh.1 hh.2
        rw [wp_now_assuming]
        exact ⟨fun _ => kept_now hk, fun time _ => ⟨kept_now hk, .inr ⟨[], _, rfl,
          .inr ⟨_, List.mem_cons_self, hobs ▸ sees_inspect inspection⟩⟩⟩⟩
    | exited exitCode startedAt finishedAt =>
      exact reportExit_evidence hpolicy _ ⟨hk, hseen (by simp [hobs])⟩
    | missing => exact reportExit_evidence hpolicy _ ⟨hk, hseen (by simp [hobs])⟩

def Unmade (own : String) (h : AgentHistory) : Prop :=
  (¬ ∃ spec answer, spec.name = own ∧ ⟨.request (.createContainer spec), answer⟩ ∈ h) ∧
    ∀ e ∈ h, ∀ container ∈ shown e, ¬ container.Named own

theorem Unmade.cons (hu : Unmade own h) (hf : Fresh own e h)
    (hc : ∀ spec, e.call ≠ .request (.createContainer spec)) : Unmade own (e :: h) := by
  refine ⟨?_, ?_⟩
  · rintro ⟨spec, answer, hname, hmem⟩
    rcases List.mem_cons.mp hmem with rfl | hmem
    · exact hc spec rfl
    · exact hu.1 ⟨spec, answer, hname, hmem⟩
  · rw [List.forall_mem_cons]
    exact ⟨hf.resolve_left hu.1, hu.2⟩

theorem Unmade.not_standsFor (hu : Unmade own h) {container : DockerContainerInspection}
    (hc : ∃ e ∈ h, container ∈ shown e) : ¬ StandsFor container.id own h := by
  rintro (hid | ⟨e, he, other, ho, hn, _⟩)
  · obtain ⟨e, he, hmem⟩ := hc
    exact hu.2 e he container hmem (.inl hid)
  · exact hu.2 e he other ho hn

def Listed (containers : List DockerContainerInspection) (h : AgentHistory) : Prop :=
  ∀ container ∈ containers, (∃ e ∈ h, container ∈ shown e) ∧
    (observeContainer (some container) ≠ .running → ¬ LastSeenRunning container.id h)

theorem Listed.cons {containers : List DockerContainerInspection} (hb : Blind e.call)
    (hl : Listed containers h) : Listed containers (e :: h) := by
  intro container hc
  obtain ⟨⟨e', he', hmem⟩, hseen⟩ := hl container hc
  exact ⟨⟨e', List.mem_cons_of_mem _ he', hmem⟩, fun hne hr => hseen hne ((lastSeen_blind hb).mp hr)⟩

theorem listed_answer {labels : TextRecord} (containers : List DockerContainerInspection) :
    Listed containers
      (⟨.request (.listContainersByLabels labels), some (.ok containers)⟩ :: h) := fun _ hc =>
  ⟨⟨_, List.mem_cons_self, hc⟩, fun hne hl => hne (lastSeen_of_sees (sees_listed hc) hl)⟩

theorem sweep_evidence (hF : ∀ e h, F e h → Fresh own e h)
    {containers : List DockerContainerInspection}
    {body : DockerContainerInspection → AgentMethod σ Unit}
    (hbody : ∀ container, body container = pure () ∨
      (observeContainer (some container) ≠ .running ∧
        body container = request (.removeContainer container.id true none)))
    (hk : Kept phase attempt own timeout h) (hu : Unmade own h) (hl : Listed containers h) :
    (Method.forEach containers body).wp (assuming F) (Post.always fun h =>
      Kept phase attempt own timeout h ∧ Unmade own h) s h := by
  refine wp_mono (wp_forEach (J := fun h => (Kept phase attempt own timeout h ∧ Unmade own h) ∧
    Listed containers h) ?_ ⟨⟨hk, hu⟩, hl⟩) (fun _ _ _ h => h.1) (fun _ _ _ h => h.1) fun _ h => h.1
  rintro container hc s h ⟨⟨hk, hu⟩, hl⟩
  rcases hbody container with hb | ⟨hne, hb⟩
  · rw [hb]
    exact ⟨⟨hk, hu⟩, hl⟩
  · rw [hb, wp_request_assuming]
    obtain ⟨hshown, hseen⟩ := hl container hc
    have keeps {answer} (hf : F ⟨.request (.removeContainer container.id true none), answer⟩ h) :
        (Kept phase attempt own timeout
            (⟨.request (.removeContainer container.id true none), answer⟩ :: h) ∧
          Unmade own (⟨.request (.removeContainer container.id true none), answer⟩ :: h)) ∧
        Listed containers (⟨.request (.removeContainer container.id true none), answer⟩ :: h) :=
      ⟨⟨kept_remove (fun hs => absurd hs (hu.not_standsFor hshown))
        (fun hr => absurd hr (hseen hne)) hk, hu.cons (hF _ _ hf) (by simp)⟩, hl.cons trivial⟩
    exact ⟨keeps, fun _ => keeps, fun _ => keeps⟩

theorem list_evidence (hF : ∀ e h, F e h → Fresh own e h) {labels : TextRecord}
    (hk : Kept phase attempt own timeout h) (hu : Unmade own h) :
    (request (.listContainersByLabels labels) : AgentMethod σ _).wp (assuming F)
      ⟨fun containers _ h => (Kept phase attempt own timeout h ∧ Unmade own h) ∧
        Listed containers h,
      fun _ _ h => Kept phase attempt own timeout h ∧ Unmade own h,
      fun h => Kept phase attempt own timeout h ∧ Unmade own h⟩ s h := by
  rw [wp_request_assuming]
  have keeps {answer : Option (AgentCall.Answer (.request (.listContainersByLabels labels)))}
      (hf : F ⟨.request (.listContainersByLabels labels), answer⟩ h) :
      Kept phase attempt own timeout (⟨.request (.listContainersByLabels labels), answer⟩ :: h) ∧
        Unmade own (⟨.request (.listContainersByLabels labels), answer⟩ :: h) :=
    ⟨kept_cons (fun _ => ⟨id, id⟩) hk, hu.cons (hF _ _ hf) (by simp)⟩
  exact ⟨keeps, fun _ => keeps, fun containers hf => ⟨keeps hf, listed_answer containers⟩⟩

theorem removeSettledAttempts_evidence (hF : ∀ e h, F e h → Fresh own e h)
    (hk : Kept phase attempt own timeout h) (hu : Unmade own h) (swept : ReleasePhase) :
    (removeSettledAttempts target swept : AgentMethod σ Unit).wp (assuming F)
      (Post.always fun h => Kept phase attempt own timeout h ∧ Unmade own h) s h := by
  refine wp_bind_of (list_evidence hF hk hu) fun containers s h hh => sweep_evidence hF ?_
    hh.1.1 hh.1.2 hh.2
  intro container
  by_cases hr : observeContainer (some container) = .running
  · exact .inl (if_neg (not_not.mpr hr))
  · exact .inr ⟨hr, if_pos hr⟩

theorem removeOtherDeploymentsExitedJobs_evidence (hF : ∀ e h, F e h → Fresh own e h)
    (hk : Kept phase attempt own timeout h) (hu : Unmade own h) (swept : ReleasePhase) :
    (removeOtherDeploymentsExitedJobs target swept : AgentMethod σ Unit).wp (assuming F)
      (Post.always fun h => Kept phase attempt own timeout h ∧ Unmade own h) s h := by
  refine wp_bind_of (list_evidence hF hk hu) fun containers s h hh => sweep_evidence hF ?_
    hh.1.1 hh.1.2 fun container hc => hh.2 container (List.mem_filter.mp hc).1
  intro container
  by_cases hv : swept = .verification ∧
      container.label "nouva.release.phase" ≠ some ReleasePhase.verification.text
  · exact .inl (if_pos hv)
  · rw [if_neg hv]
    by_cases hr : observeContainer (some container) = .running
    · exact .inl (if_pos hr)
    · exact .inr ⟨hr, if_neg hr⟩

theorem runAttempt_evidence (hF : ∀ e h, F e h → Fresh own e h)
    (hpolicy : phaseRequest.resolveAppliedPolicy = none)
    (hk : Kept phaseRequest.phase attempt own phaseRequest.timeoutSeconds h) (hu : Unmade own h) :
    (runAttempt runner target phaseRequest own attempt).wp (assuming F)
      (reportedPost phaseRequest.phase attempt own phaseRequest.timeoutSeconds) s h := by
  refine wp_bind_of (startAttempt_evidence ?_) fun start _ _ hh =>
    reportStart_evidence hpolicy start hh.1 hh.2
  refine wp_bind_of (R := fun _ _ h =>
    Kept phaseRequest.phase attempt own phaseRequest.timeoutSeconds h ∧ Unmade own h)
    (wp_mono (removeSettledAttempts_evidence hF hk hu _) (fun _ _ _ h => h) (fun _ _ _ h => h.1)
      fun _ h => h.1) fun _ s h hh => wp_bind_of (R := fun _ _ =>
        Kept phaseRequest.phase attempt own phaseRequest.timeoutSeconds) ?_
          fun _ _ _ hk => startContainer_evidence hk
  refine wp_bind_of (R := fun _ _ =>
    Kept phaseRequest.phase attempt own phaseRequest.timeoutSeconds) ?_ fun _ _ _ hk => hk
  rw [wp_request_assuming]
  exact ⟨fun _ => kept_quiet trivial hh.1, fun _ _ => kept_quiet trivial hh.1,
    fun _ _ => kept_quiet trivial hh.1⟩

theorem settleAttempt_evidence (hphase : phaseRequest.phase = .preActivation)
    {report : AgentMethod σ AttemptReport} (hreport : report.wp (assuming F)
      (reportedPost phaseRequest.phase attempt own timeout) s h) :
    (settleAttempt target phaseRequest own attempt report).wp (assuming F)
      (Post.always (Kept phaseRequest.phase attempt own timeout)) s h := by
  refine wp_bind_of (R := fun _ _ h => (Kept phaseRequest.phase attempt own timeout h ∧
    MayEnd own timeout h) ∧ Acknowledged phaseRequest.phase attempt h) ?_ ?_
  · refine (wp_tryCatch _ _).mpr (wp_mono hreport (fun _ _ _ h => h) ?_ fun _ h => h)
    intro e s h hk
    simp only [hphase]
    rw [hphase] at hk
    exact hk
  · rintro reported s h ⟨⟨hk, hm⟩, ha⟩
    refine wp_bind_of (R := fun _ _ => Kept phaseRequest.phase attempt own timeout) ?_
      fun _ _ _ hk => hk
    rw [wp_settle, wp_request_assuming]
    have keeps {answer} : Kept phaseRequest.phase attempt own timeout
        (⟨.request (.removeContainer own true none), answer⟩ :: h) :=
      kept_remove (fun _ => ha) hm hk
    exact ⟨fun _ => keeps, fun _ _ => keeps, fun _ _ => keeps⟩

theorem stopOverdueJob_evidence {container : DockerContainerInspection}
    (hk : Kept phase attempt own timeout h) (hc : ∃ e ∈ h, container ∈ shown e) :
    (stopOverdueJob container : AgentMethod σ Bool).wp (assuming F)
      (Post.always (Kept phase attempt own timeout)) s h := by
  unfold stopOverdueJob
  split
  · next timeoutSeconds startedAtMs htimeout hstarted =>
    obtain ⟨shows, hmem, hshown⟩ := hc
    have hshows : Shows shows container.id container := ⟨hshown, .inl (.inl rfl)⟩
    refine wp_bind_of (R := fun time _ h => Kept phase attempt own timeout h ∧
      ((time : ℚ) ≥ startedAtMs + timeoutSeconds * 1000 →
        PastDeadline own timeout container.id h)) ?_ ?_
    · rw [wp_now_assuming]
      refine ⟨fun _ => kept_now hk, fun time _ => ⟨kept_now hk, fun hge => ?_⟩⟩
      have hmem' := List.mem_cons_of_mem (⟨.now, some time⟩ : AgentEvent) hmem
      exact ⟨startedAtMs, time, timeoutSeconds, .inl ⟨shows, hmem', container, hshows, hstarted⟩,
        .inr ⟨shows, hmem', container, hshows, htimeout⟩, List.mem_cons_self, hge⟩
    · rintro time s h ⟨hk, hpast⟩
      split
      · next hge =>
        refine wp_bind_of (R := fun _ _ => Kept phase attempt own timeout) ?_
          fun _ s h hk => wp_bind_of (R := fun _ _ => Kept phase attempt own timeout) ?_
            fun _ _ _ hk => hk
        · rw [wp_request_assuming]
          have keeps {answer} : Kept phase attempt own timeout
              (⟨.request (.stopContainer container.id (some stopGraceSeconds) none), answer⟩ :: h) :=
            kept_stop (fun _ => hpast hge) hk
          exact ⟨fun _ => keeps, fun _ _ => keeps, fun _ _ => keeps⟩
        · rw [wp_request_assuming]
          exact ⟨fun _ => kept_inspect hk, fun _ _ => kept_inspect hk, fun _ _ => kept_inspect hk⟩
      · exact hk
  · exact hk

theorem readRunningJobsOf_evidence (deploymentId : String) (asked : ReleasePhase)
    {containers : List DockerContainerInspection} (running : List String)
    (hk : Kept phase attempt own timeout h)
    (hc : ∀ container ∈ containers, ∃ e ∈ h, container ∈ shown e) :
    (readRunningJobsOf deploymentId asked containers running : AgentMethod σ _).wp (assuming F)
      (Post.always (Kept phase attempt own timeout)) s h := by
  induction containers generalizing running s h with
  | nil => exact hk
  | cons container rest ih =>
    rw [List.forall_mem_cons] at hc
    unfold readRunningJobsOf
    split
    · refine wp_bind_of (R := fun _ _ h => Kept phase attempt own timeout h ∧
        ∀ container ∈ rest, ∃ e ∈ h, container ∈ shown e) ?_ ?_
      · refine wp_mono (wp_grows_and (stopOverdueJob_evidence hk hc.1) (P := fun h =>
          ∀ container ∈ rest, ∃ e ∈ h, container ∈ shown e) ?_) (fun _ _ _ h => h)
          (fun _ _ _ h => h.1) fun _ h => h.1
        intro later container hmem
        obtain ⟨e, he, hshown⟩ := hc.2 container hmem
        exact ⟨e, List.mem_append_right _ he, hshown⟩
      · rintro stillRunning s h ⟨hk, hrest⟩
        split
        · exact ih _ hk hrest
        · exact ih _ hk hrest
    · exact ih _ hk hc.2

theorem readRunningJobs_evidence (serviceId deploymentId : String) (asked : ReleasePhase)
    (hk : Kept phase attempt own timeout h) :
    (readRunningJobs serviceId deploymentId asked : AgentMethod σ _).wp (assuming F)
      (Post.always (Kept phase attempt own timeout)) s h := by
  refine wp_bind_of (R := fun containers _ h => Kept phase attempt own timeout h ∧
    ∀ container ∈ containers, ∃ e ∈ h, container ∈ shown e) ?_ fun containers s h hh =>
      readRunningJobsOf_evidence deploymentId asked [] hh.1 hh.2
  refine (wp_request_assuming _).mpr ⟨fun _ => ?_, fun _ _ => ?_, fun containers _ => ⟨?_, ?_⟩⟩
  · exact kept_cons (fun _ => ⟨id, id⟩) hk
  · exact kept_cons (fun _ => ⟨id, id⟩) hk
  · exact kept_cons (fun _ => ⟨id, id⟩) hk
  · exact fun container hc => ⟨_, List.mem_cons_self, hc⟩

def Answered (phase : ReleasePhase) (D : ReleaseJobClaimResponse → Prop) (h : AgentHistory) :
    Prop :=
  ∃ jobs response, D response ∧ ⟨.request (.claim phase jobs), some (.ok response)⟩ ∈ h

def Unclaimed (phase : ReleasePhase) (D : ReleaseJobClaimResponse → Prop) (own : String)
    (fresh : Prop) (h : AgentHistory) : Prop :=
  ¬ Answered phase D h ∧ (fresh → Unmade own h)

theorem unclaimed_nil {D : ReleaseJobClaimResponse → Prop} {fresh : Prop} :
    Unclaimed phase D own fresh [] :=
  ⟨fun ⟨_, _, _, hm⟩ => List.not_mem_nil hm, fun _ =>
    ⟨fun ⟨_, _, _, hm⟩ => List.not_mem_nil hm, fun _ he => absurd he List.not_mem_nil⟩⟩

theorem not_answered_cons {D : ReleaseJobClaimResponse → Prop} (hn : ¬ Answered phase D h)
    (he : ∀ jobs response, D response →
      e ≠ ⟨.request (.claim phase jobs), some (.ok response)⟩) : ¬ Answered phase D (e :: h) := by
  rintro ⟨jobs, response, hD, hmem⟩
  rcases List.mem_cons.mp hmem with rfl | hmem
  · exact he jobs response hD rfl
  · exact hn ⟨jobs, response, hD, hmem⟩

theorem Unclaimed.cons {D : ReleaseJobClaimResponse → Prop} {fresh : Prop}
    (hu : Unclaimed phase D own fresh h) (hf : fresh → Fresh own e h)
    (he : ∀ jobs response, D response → e ≠ ⟨.request (.claim phase jobs), some (.ok response)⟩)
    (hc : ∀ spec, e.call ≠ .request (.createContainer spec)) :
    Unclaimed phase D own fresh (e :: h) :=
  ⟨not_answered_cons hu.1 he, fun hfresh => (hu.2 hfresh).cons (hf hfresh) hc⟩

def Preparing : AgentCall → Prop
  | .request (.claim _ _) | .request (.createContainer _) => False
  | _ => True

theorem Unclaimed.preparing {D : ReleaseJobClaimResponse → Prop} {fresh : Prop}
    (hu : Unclaimed phase D own fresh h) (hf : fresh → Fresh own e h) (hp : Preparing e.call) :
    Unclaimed phase D own fresh (e :: h) := by
  refine hu.cons hf ?_ ?_
  · rintro jobs response _ rfl
    exact hp
  · intro spec hspec
    rw [hspec] at hp
    exact hp

theorem prepareImage_evidence (hk : Kept phase attempt own timeout h) :
    (prepareImage target : AgentMethod σ Unit).wp (assuming F)
      (Post.always (Kept phase attempt own timeout)) s h := by
  refine (prepareImage_framed (S := Quiet) target ?_).uses.wp ?_ hk
  · rintro r (rfl | rfl) <;> trivial
  · rintro h c r h' hq ⟨rfl, _⟩ hk
    exact kept_quiet hq hk

theorem preparing_wp {α : Type} {D : ReleaseJobClaimResponse → Prop} {fresh : Prop}
    {p : AgentMethod σ α} (hF : fresh → ∀ e h, F e h → Fresh own e h) (hp : p.Uses Preparing)
    (hkept : ∀ h, Kept phase attempt own timeout h →
      p.wp (assuming F) (Post.always (Kept phase attempt own timeout)) s h)
    (hk : Kept phase attempt own timeout h) (hu : Unclaimed phase D own fresh h) :
    p.wp (assuming F) (Post.always fun h =>
      Kept phase attempt own timeout h ∧ Unclaimed phase D own fresh h) s h := by
  refine wp_and (hkept h hk) (hp.wp ?_ hu)
  rintro h c r h' hc ⟨rfl, hf⟩ hu
  exact hu.preparing (fun hfresh => hF hfresh _ _ hf) hc

theorem claimPhase_evidence {D : ReleaseJobClaimResponse → Prop} {fresh : Prop}
    (hF : fresh → ∀ e h, F e h → Fresh own e h) (jobs : List String)
    (hk : Kept phase attempt own timeout h) (hu : Unclaimed phase D own fresh h) :
    (claimPhase runner phase jobs : AgentMethod σ _).wp (assuming F)
      ⟨fun response _ h => Kept phase attempt own timeout h ∧ (fresh → Unmade own h) ∧
          (D response ∨ ¬ Answered phase D h),
        fun _ _ h => Kept phase attempt own timeout h ∧ Unclaimed phase D own fresh h,
        fun h => Kept phase attempt own timeout h ∧ Unclaimed phase D own fresh h⟩ s h := by
  have keeps (h : AgentHistory) (e : AgentEvent) (hq : Quiet e.call) (hf : F e h)
      (he : ∀ jobs response, e ≠ ⟨.request (.claim phase jobs), some (.ok response)⟩)
      (hc : ∀ spec, e.call ≠ .request (.createContainer spec))
      (hh : Kept phase attempt own timeout h ∧ Unclaimed phase D own fresh h) :
      Kept phase attempt own timeout (e :: h) ∧ Unclaimed phase D own fresh (e :: h) :=
    ⟨kept_quiet hq hh.1, hh.2.cons (fun hfresh => hF hfresh _ _ hf) (fun j r _ => he j r) hc⟩
  refine callControlPlane_wp ?_ ?_ ?_ ⟨hk, hu⟩
  · intro s h hh
    rw [wp_request_assuming]
    refine ⟨fun hf => keeps _ _ trivial hf (by simp) (by simp) hh,
      fun _ hf => keeps _ _ trivial hf (by simp) (by simp) hh, fun response hf => ?_⟩
    refine ⟨kept_quiet trivial hh.1, fun hfresh => (hh.2.2 hfresh).cons (hF hfresh _ _ hf) (by simp),
      ?_⟩
    by_cases hD : D response
    · exact .inl hD
    · refine .inr (not_answered_cons hh.2.1 ?_)
      rintro jobs' response' hD' heq
      simp only [Event.mk.injEq, AgentCall.request.injEq, Request.claim.injEq, true_and] at heq
      obtain ⟨rfl, heq⟩ := heq
      obtain rfl : response = response' := by simpa using heq
      exact hD hD'
  · rintro h r h' ⟨rfl, hf⟩ hh
    exact keeps _ _ trivial hf (by simp) (by simp) hh
  · rintro ms h r h' ⟨rfl, hf⟩ hh
    exact keeps _ _ trivial hf (by simp) (by simp) hh

theorem act_unanswered {D : ReleaseJobClaimResponse → Prop} (response : ReleaseJobClaimResponse)
    (hpolicy : phaseRequest.resolveAppliedPolicy = none) (hn : ¬ Answered phaseRequest.phase D h) :
    (act runner target phaseRequest response).wp (assuming F)
      (Post.always fun h => ¬ Answered phaseRequest.phase D h) s h := by
  refine (act_uses (S := JobCall target phaseRequest.phase) (fun _ hc => hc)
    (by simp [hpolicy]) response).wp ?_ hn
  rintro h c r h' hc ⟨rfl, _⟩ hn
  refine not_answered_cons hn ?_
  rintro jobs response _ heq
  obtain ⟨rfl, _⟩ := Event.mk.inj heq
  exact hc

/-- If every answer in `D` claims `attempt`, to run it only where no container of it pre-exists,
then whenever such an answer came the evidence of `attempt` was kept all along. -/
theorem run_evidence {D : ReleaseJobClaimResponse → Prop} {fresh : Prop}
    (hphase : phaseRequest.phase = .preActivation)
    (hpolicy : phaseRequest.resolveAppliedPolicy = none)
    (hown : own = buildReleaseJobContainerName target.serviceId target.deploymentId
      phaseRequest.phase attempt)
    (hF : fresh → ∀ e h, F e h → Fresh own e h)
    (hD : ∀ response, D response → response = .resume attempt ∨ (response = .run attempt ∧ fresh)) :
    (run runner target phaseRequest).wp (assuming F) (Post.always fun h =>
      Answered phaseRequest.phase D h →
        Kept phaseRequest.phase attempt own phaseRequest.timeoutSeconds h) s [] := by
  let K := Kept phaseRequest.phase attempt own phaseRequest.timeoutSeconds
  let J (h : AgentHistory) := K h ∧ Unclaimed phaseRequest.phase D own fresh h
  have weaken {β : Type} {p : AgentMethod σ β} {R : β → σ → AgentHistory → Prop} {s : σ}
      {h : AgentHistory} (hp : p.wp (assuming F) ⟨R, fun _ _ => J, J⟩ s h) :
      p.wp (assuming F) ⟨R, fun _ _ h => Answered phaseRequest.phase D h → K h,
        fun h => Answered phaseRequest.phase D h → K h⟩ s h :=
    wp_mono hp (fun _ _ _ h => h) (fun _ _ _ h _ => h.1) fun _ h _ => h.1
  have hstart : J [] := ⟨trivial, unclaimed_nil⟩
  refine wp_bind_of (weaken (preparing_wp hF ?_ (fun h hk => prepareImage_evidence hk) hstart.1
    hstart.2)) fun _ s h hh => wp_bind_of (weaken (preparing_wp hF ?_
      (fun h hk => readRunningJobs_evidence _ _ _ hk) hh.1 hh.2)) fun jobs s h hh =>
        wp_bind_of (weaken (claimPhase_evidence hF jobs hh.1 hh.2)) ?_
  · exact (prepareImage_framed target (by rintro r (rfl | rfl) <;> trivial)).uses
  · exact (readRunningJobs_framed _ _ _ trivial (fun _ => trivial) (fun _ => trivial)
      fun _ => trivial).uses
  · rintro response s h ⟨hk, hu, hresponse | hn⟩
    · subst hown
      refine wp_mono (Q := Post.always K) ?_ (fun _ _ _ h _ => h) (fun _ _ _ h _ => h)
        fun _ h _ => h
      rcases hD response hresponse with rfl | ⟨rfl, hfresh⟩
      · exact settleAttempt_evidence hphase (resumeAttempt_evidence hpolicy hk)
      · refine wp_bind_of (R := fun _ _ h => K h ∧ Unmade _ h)
          (wp_mono (removeOtherDeploymentsExitedJobs_evidence (hF hfresh) hk (hu hfresh) _)
            (fun _ _ _ h => h) (fun _ _ _ h => h.1) fun _ h => h.1) fun _ s h hh => ?_
        exact settleAttempt_evidence hphase (runAttempt_evidence (hF hfresh) hpolicy hh.1 hh.2)
    · exact wp_mono (act_unanswered response hpolicy hn) (fun _ _ _ hn ha => absurd ha hn)
        (fun _ _ _ hn ha => absurd ha hn) fun _ hn ha => absurd ha hn

end Runner

/-- A pre-activation attempt claimed by `run`, where no container of it pre-exists, or by `resume`:
its container is removed only after a report for it was acknowledged, and no job container is
stopped or removed while it was last seen running before its own start plus its timeout. -/
theorem release_job_evidence_kept {σ : Type} (env : AgentEnvironment) (runner : ReleasePhaseRunner)
    (target : ReleaseJobTarget) (command : String) (timeoutSeconds attempt : ℕ) (s : σ) :
    let own := buildReleaseJobContainerName target.serviceId target.deploymentId .preActivation
      attempt
    let h := ((run runner target (preActivationRequest command timeoutSeconds) s).run env []).2
    Claimed .preActivation attempt h →
    ((∃ jobs, ⟨.request (.claim .preActivation jobs), some (.ok (.run attempt))⟩ ∈ h) →
      Along (Fresh own) h) →
    ∀ later e before, h = later ++ e :: before →
      KeepsEvidence .preActivation attempt own timeoutSeconds e before := by
  intro own h hclaimed hfresh
  refine along_iff.mp ?_
  let p : AgentMethod σ ReleasePhaseResult :=
    run runner target (preActivationRequest command timeoutSeconds)
  -- The two decisions differ in what may be assumed about the answers.
  have kept (D : ReleaseJobClaimResponse → Prop) (F : AgentEvent → AgentHistory → Prop)
      (hp : p.wp (assuming F) (Post.always fun h => Answered .preActivation D h →
        Kept .preActivation attempt own timeoutSeconds h) s []) (hF : Along F h)
      (ha : Answered .preActivation D h) : Kept .preActivation attempt own timeoutSeconds h :=
    always_run hp hF ha
  by_cases hrun : ∃ jobs, ⟨.request (.claim .preActivation jobs), some (.ok (.run attempt))⟩ ∈ h
  · refine kept (· = .run attempt) (Fresh own) ?_ (hfresh hrun) ?_
    · exact run_evidence rfl rfl rfl (fun _ _ _ hf => hf) fun r hr => .inr ⟨hr, trivial⟩
    · exact hrun.imp fun _ hm => ⟨.run attempt, rfl, hm⟩
  · refine kept (· = .resume attempt) (fun _ _ => True) ?_ ?_ ?_
    · exact run_evidence rfl rfl rfl (fun hf : False => hf.elim) fun r hr => .inl hr
    · exact along_iff.mpr fun _ _ _ _ => trivial
    · obtain ⟨jobs, hm | hm⟩ := hclaimed
      · exact absurd ⟨jobs, hm⟩ hrun
      · exact ⟨jobs, .resume attempt, rfl, hm⟩

theorem along_fresh {own : String} {h : AgentHistory} (hh : ∀ e ∈ h, shown e = []) :
    Along (Fresh own) h := by
  induction h with
  | nil => trivial
  | cons e h ih =>
    rw [List.forall_mem_cons] at hh
    exact ⟨.inr (by simp [hh.1]), ih hh.2⟩

def sampleTarget : ReleaseJobTarget :=
  { serviceId := "service-1"
    deploymentId := "deploy-1"
    image := "app:1"
    pullImage := false
    networkName := "network-1"
    envVars := []
    labels := []
    resourceSettings := ⟨1, 1, 1, 1⟩
    redactLogLine := id }

def lostContainerRun : AgentHistory :=
  ((run ⟨true, 3⟩ sampleTarget (preActivationRequest "migrate" 600) ()).run
    (answering fun _ r => .ok (wellAnswer (fun _ => none) (.run 1) r)) []).2

theorem release_job_evidence_kept_lost : lostContainerRun.length = 14 ∧
    ∀ later e before, lostContainerRun = later ++ e :: before →
      KeepsEvidence .preActivation 1 (buildReleaseJobContainerName "service-1" "deploy-1"
        .preActivation 1) 600 e before := by
  refine ⟨by decide +kernel, release_job_evidence_kept _ ⟨true, 3⟩ sampleTarget "migrate" 600 1 ()
    ⟨[], .inl ?_⟩ fun _ => along_fresh ?_⟩
  · repeat first
      | exact List.Mem.head _
      | apply List.Mem.tail
  · have hall : (lostContainerRun.all fun e => (shown e).isEmpty) = true := by decide +kernel
    exact fun e he => List.isEmpty_iff.mp (List.all_eq_true.mp hall e he)

end NouvaAgent.ReleaseJobs
