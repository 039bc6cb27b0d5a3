import NouvaAgent.WorkerRestoreEvidence

namespace NouvaAgent.WorkerRestore

open Text Interaction Agent Method WorkerShutdown WorkerVolume

def Unclocked (h : AgentHistory) : Prop := ∀ e ∈ h, e.call ≠ .now

inductive Own (identifier : String) (before : AgentHistory) : AgentCall → Prop
  | look (hbefore : Unclocked before) : Own identifier before (.request (.inspectContainer identifier))
  | policy : Own identifier before
      (.request (.updateContainerRestartPolicy identifier "unless-stopped"))
  | start : Own identifier before (.request (.startContainer identifier))

def Looked (identifier : String)
    (answer : Except CallError (Option DockerContainerInspection)) (h : AgentHistory) : Prop :=
  ∃ later before, h = later ++ ⟨.request (.inspectContainer identifier), some answer⟩ :: before ∧
    Unclocked before

def PolicyAsked (identifier : String) (h : AgentHistory) : Prop :=
  ∃ e ∈ h, e.call = .request (.updateContainerRestartPolicy identifier "unless-stopped")

/-- What was attempted for a container: its restart policy was to be set back, and unless it was
found running it was to be started. Only an answer about itself may have ended that. -/
inductive Settled (identifier : String) (h : AgentHistory) : Prop
  | gone (hlook : Looked identifier (.ok none) h)
  | unreadable (error : CallError) (hlook : Looked identifier (.error error) h)
  | refused (error : CallError)
      (hpolicy : (⟨.request (.updateContainerRestartPolicy identifier "unless-stopped"),
        some (.error error)⟩ : AgentEvent) ∈ h)
  | running (current : DockerContainerInspection) (hrunning : current.running = true)
      (hlook : Looked identifier (.ok (some current)) h) (hpolicy : PolicyAsked identifier h)
  | started (hpolicy : PolicyAsked identifier h)
      (hstart : ∃ e ∈ h, e.call = .request (.startContainer identifier))

variable (restore : WorkerRestore)

def AllSettled (h : AgentHistory) : Prop :=
  ∀ container ∈ restore.previousContainers, restore.Eligible container →
    Settled (getContainerIdentifier container) h

def Failed (e : AgentEvent) : Prop := ∃ r error, e = ⟨.request r, some (.error error)⟩

/-- The container was not found gone, and its restart policy was not asked to be set back. -/
def Pending (identifier : String) (h : AgentHistory) : Prop :=
  ¬Looked identifier (.ok none) h ∧ ¬PolicyAsked identifier h

/-- A call of the loops fails while another container is pending. -/
def Abandons (e : AgentEvent) (before : AgentHistory) : Prop :=
  ∃ identifier, Own identifier before e.call ∧ Failed e ∧
    ∃ container ∈ restore.previousContainers, restore.Eligible container ∧
      getContainerIdentifier container ≠ identifier ∧
      Pending (getContainerIdentifier container) before

section

variable {restore} {h : AgentHistory} {e : AgentEvent} {s : WorkerRestoreLocals}
  {identifier other : String}

theorem Own.unique {c : AgentCall} (hown : Own identifier h c) (hother : Own other h c) :
    other = identifier := by
  cases hown <;> cases hother <;> rfl

theorem Looked.append {answer : Except CallError (Option DockerContainerInspection)}
    (later : AgentHistory) (hl : Looked identifier answer h) :
    Looked identifier answer (later ++ h) := by
  obtain ⟨after, before, rfl, hbefore⟩ := hl
  exact ⟨later ++ after, before, (List.append_assoc later after _).symm, hbefore⟩

theorem PolicyAsked.append (later : AgentHistory) (hp : PolicyAsked identifier h) :
    PolicyAsked identifier (later ++ h) := by
  obtain ⟨e, hmem, he⟩ := hp
  exact ⟨e, List.mem_append_right later hmem, he⟩

theorem Settled.append (later : AgentHistory) (hs : Settled identifier h) :
    Settled identifier (later ++ h) := by
  cases hs with
  | gone hlook => exact .gone (hlook.append later)
  | unreadable error hlook => exact .unreadable error (hlook.append later)
  | refused error hpolicy => exact .refused error (List.mem_append_right later hpolicy)
  | running current hrunning hlook hpolicy =>
    exact .running current hrunning (hlook.append later) (hpolicy.append later)
  | started hpolicy hstart =>
    obtain ⟨e, hmem, he⟩ := hstart
    exact .started (hpolicy.append later) ⟨e, List.mem_append_right later hmem, he⟩

/-! What a readiness check adds. -/

def Checks (seg : AgentHistory) : Prop :=
  (∀ e ∈ seg, Looks e.call) ∧ ∀ rest e, seg = rest ++ [e] → e.call = .now

theorem Checks.tail {seg : AgentHistory} (hc : Checks (e :: seg)) : Checks seg :=
  ⟨fun e' hmem => hc.1 e' (List.mem_cons_of_mem e hmem),
    fun rest e' hseg => hc.2 (e :: rest) e' (by rw [hseg, List.cons_append])⟩

theorem Checks.not_own {seg : AgentHistory} (hc : Checks (e :: seg)) (h : AgentHistory) :
    ¬Own identifier (seg ++ h) e.call := by
  intro hown
  have hlooks := hc.1 e List.mem_cons_self
  generalize hcall : e.call = c at hown hlooks
  cases hown with
  | policy => exact hlooks
  | start => exact hlooks
  | look hunclocked =>
    obtain rfl | ⟨rest, first, rfl⟩ := List.eq_nil_or_concat seg
    · have hnow := hc.2 [] e rfl
      rw [hcall] at hnow
      cases hnow
    · rw [List.concat_eq_append] at hc hunclocked
      exact hunclocked first (by simp) (hc.2 (e :: rest) first rfl)

theorem Checks.along {seg : AgentHistory} {P : AgentEvent → AgentHistory → Prop} (hc : Checks seg)
    (hP : ∀ e before, (∀ identifier, ¬Own identifier before e.call) → P e before)
    (hh : Along P h) : Along P (seg ++ h) := by
  induction seg with
  | nil => exact hh
  | cons e seg ih => exact ⟨hP e _ fun _ => hc.not_own h, ih hc.tail⟩

theorem Checks.looked {seg : AgentHistory}
    {answer : Except CallError (Option DockerContainerInspection)} (hc : Checks seg)
    (hl : Looked identifier answer (seg ++ h)) : Looked identifier answer h := by
  induction seg with
  | nil => exact hl
  | cons e seg ih =>
    obtain ⟨later, before, hsplit, hbefore⟩ := hl
    cases later with
    | nil =>
      obtain ⟨rfl, rfl⟩ := List.cons.inj hsplit
      exact absurd (.look hbefore) (hc.not_own h)
    | cons e' later => exact ih hc.tail ⟨later, before, (List.cons.inj hsplit).2, hbefore⟩

theorem Checks.mem {seg : AgentHistory} (hc : Checks seg) {e : AgentEvent} (hmem : e ∈ seg ++ h)
    (he : ¬Looks e.call) : e ∈ h :=
  (List.mem_append.mp hmem).resolve_left fun hseg => he (hc.1 e hseg)

theorem Checks.policyAsked {seg : AgentHistory} (hc : Checks seg)
    (hp : PolicyAsked identifier (seg ++ h)) : PolicyAsked identifier h := by
  obtain ⟨e, hmem, he⟩ := hp
  exact ⟨e, hc.mem hmem (by rw [he]; exact id), he⟩

theorem checks_of_ran {α : Type} {p : AgentAction α} {seg : AgentHistory} {r : Except Failure α}
    (hran : Ran p seg r) (hlooks : p.Uses Looks) (hopens : (p ()).Opens fun c => c = .now) :
    Checks seg := by
  obtain ⟨⟨⟩, s', hproduces⟩ := hran
  exact ⟨(Program.Produces.confined (hlooks ()) hproduces).1,
    fun rest e hseg => hproduces.first hopens hseg⟩

theorem waitForWorkerReadiness_checks {fuel : ℕ} {input : WorkerReadinessInput} :
    (settle (waitForWorkerReadiness fuel input) : AgentMethod WorkerRestoreLocals _).wp recording
      ⟨fun _ s' h' => s' = s ∧ ∃ seg, h' = seg ++ h ∧ Checks seg, fun _ _ _ => False,
        fun _ => True⟩ s h := by
  have hlooks : (waitForWorkerReadiness fuel input : AgentAction Unit).Uses Looks :=
    (waitForWorkerReadiness_framed fun _ hc => hc).uses
  have hchecks {seg : AgentHistory} {r : Except Failure Unit}
      (hran : Ran (waitForWorkerReadiness fuel input : AgentAction Unit) seg r) : Checks seg :=
    checks_of_ran hran hlooks rfl
  rw [waitForWorkerReadiness_eq_lift]
  refine (wp_settle _).mpr ((wp_lift _).mpr (wp_mono (wp_ran _ () h) ?_ ?_ fun _ _ => trivial))
  · rintro _ _ _ ⟨seg, rfl, hran⟩
    exact ⟨rfl, seg, rfl, hchecks hran⟩
  · rintro _ _ _ ⟨seg, rfl, hran⟩
    exact ⟨rfl, seg, rfl, hchecks hran⟩

theorem anyReplicaRuns_checks {σ : Type} {s : σ} {fuel : ℕ}
    {replicas : List DockerContainerInspection} :
    (WorkerRollout.anyReplicaRuns fuel replicas : AgentMethod σ Bool).wp recording
      ⟨fun _ _ h' => ∃ seg, h' = seg ++ h ∧ Checks seg, fun _ _ _ => False, fun _ => True⟩ s h := by
  let waits : List (AgentAction Unit) := replicas.map fun replica =>
    waitForWorkerReadiness fuel (replicaInput replica)
  have hlooks : (allSettled fuel waits).Uses Looks := by
    refine uses_allSettled fun p hp => ?_
    obtain ⟨replica, -, rfl⟩ := List.mem_map.mp hp
    exact (waitForWorkerReadiness_framed fun _ hc => hc).uses
  have hopens : (allSettled fuel waits ()).Opens fun c => c = .now := by
    refine allSettled_opens fun p hp => ?_
    obtain ⟨replica, -, rfl⟩ := List.mem_map.mp hp
    exact rfl
  refine wp_bind_of (R := fun _ _ h' => ∃ seg, h' = seg ++ h ∧ Checks seg) ((wp_lift _).mpr
    (wp_mono (wp_allSettled h) ?_ (fun _ _ _ h => h) fun _ _ => trivial)) fun _ _ _ hseg => hseg
  rintro _ _ _ ⟨seg, rfl, hran⟩
  exact ⟨seg, rfl, checks_of_ran hran hlooks hopens⟩

/-! The loops. -/

def Calm (h : AgentHistory) : Prop :=
  Along (fun e before => ∀ identifier, Own identifier before e.call → ¬Failed e) h

def Followed (h : AgentHistory) : Prop := ∀ identifier, PolicyAsked identifier h → Settled identifier h

theorem not_failed_ok {r : Request} {a : r.Result} : ¬Failed ⟨.request r, some (.ok a)⟩ := by
  rintro ⟨_, _, he⟩
  cases he

theorem Calm.cons (hc : Calm h) (he : ¬Failed e) : Calm (e :: h) := ⟨fun _ _ => he, hc⟩

theorem followed_cons (hf : Followed h) (hown : PolicyAsked identifier (e :: h) →
    Settled identifier (e :: h)) (he : ∀ other, other ≠ identifier →
      e.call ≠ .request (.updateContainerRestartPolicy other "unless-stopped")) :
    Followed (e :: h) := by
  rintro other ⟨e', hmem, hcall⟩
  by_cases hsame : other = identifier
  · subst hsame
    exact hown ⟨e', hmem, hcall⟩
  · obtain rfl | hmem := List.mem_cons.mp hmem
    · exact absurd hcall (he other hsame)
    · exact (hf other ⟨e', hmem, hcall⟩).append [e]

def Broke (h : AgentHistory) : Prop := ∃ e before identifier, h = e :: before ∧
  Own identifier before e.call ∧ Failed e ∧ Settled identifier h ∧ Calm before ∧
    ∀ other, other ≠ identifier → PolicyAsked other before → Settled other before

theorem broke_of_failed {r : Request} {error : CallError} (hc : Calm h)
    (hf : ∀ other, other ≠ identifier → PolicyAsked other h → Settled other h)
    (hown : Own identifier h (.request r))
    (hs : Settled identifier (⟨.request r, some (.error error)⟩ :: h)) :
    Broke (⟨.request r, some (.error error)⟩ :: h) :=
  ⟨_, h, identifier, rfl, hown, ⟨_, _, rfl⟩, hs, hc, hf⟩

abbrev attempted (h : AgentHistory) (J : AgentHistory → Prop) (R : α → AgentHistory → Prop) :
    Post Failure WorkerRestoreLocals α AgentHistory where
  ok a _ h' := (∃ later, h' = later ++ h) ∧ J h' ∧ R a h'
  err _ _ := Broke
  cut _ := True

def Reviewing (h : AgentHistory) : Prop := Calm h ∧ Followed h ∧ Unclocked h

def Starting (h : AgentHistory) : Prop := Calm h ∧ Followed h

theorem not_eligible_of_leftAlone {container : DockerContainerInspection}
    (hleft : restore.isLeftAlone container = true) : ¬restore.Eligible container := by
  rintro ⟨outcome, houtcome, hhung, hlive⟩
  unfold isLeftAlone at hleft
  rw [houtcome] at hleft
  simp only [Bool.or_eq_true, Bool.and_eq_true, decide_eq_true_eq, Option.some.injEq,
    Bool.not_eq_true'] at hleft
  obtain hung | ⟨hstopped, hrecorded⟩ := hleft
  · exact hhung hung
  · rw [hlive hstopped] at hrecorded
    cases hrecorded

theorem not_eligible_of_untried {container : DockerContainerInspection}
    (hnone : restore.outcomeOf container = none) : ¬restore.Eligible container := by
  rintro ⟨outcome, houtcome, -⟩
  rw [hnone] at houtcome
  cases houtcome

theorem policy_unclocked {answer : Option (Except CallError Unit)} (hu : Unclocked h) :
    Unclocked (⟨.request (.updateContainerRestartPolicy identifier "unless-stopped"), answer⟩ :: h) :=
  List.forall_mem_cons.mpr ⟨fun hcall => (nomatch hcall), hu⟩

theorem policyAsked_head {answer : Option (Except CallError Unit)} : PolicyAsked identifier
    (⟨.request (.updateContainerRestartPolicy identifier "unless-stopped"), answer⟩ :: h) :=
  ⟨_, List.mem_cons_self, rfl⟩

theorem policy_other {answer : Option (Except CallError Unit)} (hother : other ≠ identifier) :
    (⟨.request (.updateContainerRestartPolicy identifier "unless-stopped"), answer⟩ :
      AgentEvent).call ≠ .request (.updateContainerRestartPolicy other "unless-stopped") := by
  intro hcall
  cases hcall
  exact hother rfl

theorem look_reviewing {found : Option DockerContainerInspection} (hr : Reviewing h) :
    Reviewing (⟨.request (.inspectContainer identifier), some (.ok found)⟩ :: h) := by
  refine ⟨hr.1.cons not_failed_ok, ?_, List.forall_mem_cons.mpr ⟨fun hcall => (nomatch hcall), hr.2.2⟩⟩
  rintro other ⟨e, hmem, hcall⟩
  obtain rfl | hmem := List.mem_cons.mp hmem
  · cases hcall
  · exact (hr.2.1 other ⟨e, hmem, hcall⟩).append [_]

theorem keepRunning_attempted {container current : DockerContainerInspection}
    (hrunning : current.running = true)
    (hlooked : Looked (getContainerIdentifier container) (.ok (some current)) h)
    (hr : Reviewing h) : (restore.keepRunning container current).wp recording
      (attempted h Reviewing fun _ h' => restore.Eligible container →
        Settled (getContainerIdentifier container) h') s h := by
  refine wp_bind_of (R := fun _ _ h' => (∃ later, h' = later ++ h) ∧ Reviewing h' ∧
    (restore.Eligible container → Settled (getContainerIdentifier container) h')) ?_
    fun _ _ _ h => h
  unfold restorePolicy
  split
  case isTrue hnone =>
    exact ⟨⟨[], rfl⟩, hr, fun hel => absurd hel (not_eligible_of_untried hnone)⟩
  case isFalse =>
    refine (wp_request_assuming _).mpr ⟨fun _ => trivial, fun error _ => ?_, fun _ _ => ?_⟩
    · exact broke_of_failed hr.1 (fun other _ => hr.2.1 other) .policy
        (.refused error List.mem_cons_self)
    · have hsettled := Settled.running (h := ⟨.request (.updateContainerRestartPolicy
          (getContainerIdentifier container) "unless-stopped"), some (.ok ())⟩ :: h) current hrunning
        (hlooked.append [_]) policyAsked_head
      exact ⟨⟨[_], rfl⟩, ⟨hr.1.cons not_failed_ok, followed_cons hr.2.1 (fun _ => hsettled) fun _ => policy_other,
        policy_unclocked hr.2.2⟩, fun _ => hsettled⟩

theorem review_attempted {container : DockerContainerInspection} (hr : Reviewing h) :
    (restore.review container).wp recording
      (attempted h Reviewing fun start h' => restore.Eligible container →
        start = true ∨ Settled (getContainerIdentifier container) h') s h := by
  unfold review
  split
  case isTrue hleft =>
    exact ⟨⟨[], rfl⟩, hr, fun hel => absurd hel (not_eligible_of_leftAlone hleft)⟩
  case isFalse =>
    have hlook (answer : Except CallError (Option DockerContainerInspection)) :
        Looked (getContainerIdentifier container) answer
          (⟨.request (.inspectContainer (getContainerIdentifier container)), some answer⟩ :: h) :=
      ⟨[], h, rfl, hr.2.2⟩
    refine (wp_bind _ _).mpr ((wp_request_assuming _).mpr
      ⟨fun _ => trivial, fun error _ => ?_, fun found _ => ?_⟩)
    · exact broke_of_failed hr.1 (fun other _ => hr.2.1 other) (.look hr.2.2)
        (.unreadable error (hlook _))
    cases found with
    | none => exact ⟨⟨[_], rfl⟩, look_reviewing hr, fun _ => .inr (.gone (hlook _))⟩
    | some current =>
      dsimp only
      split
      case isTrue hrunning =>
        refine wp_bind_of (keepRunning_attempted hrunning (hlook _) (look_reviewing hr)) ?_
        rintro _ s _ ⟨⟨later, rfl⟩, hr, hsettled⟩
        exact ⟨⟨later ++ [_], List.append_cons _ _ _⟩, hr, fun hel => .inr (hsettled hel)⟩
      case isFalse =>
        refine ⟨⟨[_], rfl⟩, look_reviewing hr, fun hel => .inl ?_⟩
        obtain ⟨outcome, houtcome, -⟩ := hel
        rw [houtcome]
        rfl

theorem reviewAll_attempted {containers : List DockerContainerInspection} (hr : Reviewing h) :
    (restore.reviewAll containers).wp recording
      (attempted h Reviewing fun toStart h' => ∀ container ∈ containers,
        restore.Eligible container →
          container ∈ toStart ∨ Settled (getContainerIdentifier container) h') s h := by
  induction containers generalizing s h with
  | nil => exact ⟨⟨[], rfl⟩, hr, by simp⟩
  | cons container rest ih =>
    refine wp_bind_of (review_attempted hr) ?_
    rintro start s _ ⟨⟨later, rfl⟩, hr, hstart⟩
    refine wp_bind_of (ih hr) ?_
    rintro toStart s _ ⟨⟨later', rfl⟩, hr, hrest⟩
    refine ⟨⟨later' ++ later, by simp⟩, hr, ?_⟩
    refine List.forall_mem_cons.mpr ⟨fun hel => ?_, fun c hc hel => ?_⟩
    · obtain rfl | hsettled := hstart hel
      · exact .inl List.mem_cons_self
      · exact .inr (hsettled.append later')
    · obtain hto | hsettled := hrest c hc hel
      · refine .inl ?_
        split
        · exact List.mem_cons_of_mem _ hto
        · exact hto
      · exact .inr hsettled

theorem Checks.calm {seg : AgentHistory} (hc : Checks seg) (hcalm : Calm h) : Calm (seg ++ h) :=
  hc.along (fun _ _ hown _ hcall => absurd hcall (hown _)) hcalm

theorem Checks.starting {seg : AgentHistory} (hc : Checks seg) (hs : Starting h) :
    Starting (seg ++ h) :=
  ⟨hc.calm hs.1, fun identifier hp => (hs.2 identifier (hc.policyAsked hp)).append seg⟩

theorem startAgain_attempted {container : DockerContainerInspection}
    (hvolume : restore.volume = none) (hs : Starting h) :
    (restore.startAgain container).wp recording (attempted h Starting fun _ h' =>
      Settled (getContainerIdentifier container) h') s h := by
  unfold startAgain
  rw [hvolume]
  refine (wp_bind _ _).mpr ((wp_locals).mpr ?_)
  refine wp_bind_of (R := fun _ _ h' => h' = h) rfl ?_
  rintro _ s h' hsame
  rw [hsame]
  refine (wp_bind _ _).mpr ((wp_request_assuming _).mpr
    ⟨fun _ => trivial, fun error _ => ?_, fun _ _ => ?_⟩)
  · exact broke_of_failed hs.1 (fun other _ => hs.2 other) .policy
      (.refused error List.mem_cons_self)
  generalize hpolicy : ((⟨.request (.updateContainerRestartPolicy (getContainerIdentifier container)
    "unless-stopped"), some (.ok ())⟩ : AgentEvent) :: h) = asked
  have hasked : PolicyAsked (getContainerIdentifier container) asked := hpolicy ▸ policyAsked_head
  have hcalm : Calm asked := hpolicy ▸ hs.1.cons not_failed_ok
  have hothers : ∀ other, other ≠ getContainerIdentifier container → PolicyAsked other asked →
      Settled other asked := by
    rintro other hother ⟨e, hmem, hcall⟩
    rw [← hpolicy] at hmem ⊢
    obtain rfl | hmem := List.mem_cons.mp hmem
    · exact absurd hcall (policy_other hother)
    · exact (hs.2 other ⟨e, hmem, hcall⟩).append [_]
  have hsettled (answer : Option (Except CallError Unit)) :
      Settled (getContainerIdentifier container)
        (⟨.request (.startContainer (getContainerIdentifier container)), answer⟩ :: asked) :=
    .started (hasked.append [_]) ⟨_, List.mem_cons_self, rfl⟩
  refine (wp_bind _ _).mpr ((wp_request_assuming _).mpr
    ⟨fun _ => trivial, fun error _ => ?_, fun _ _ => ?_⟩)
  · exact broke_of_failed hcalm hothers .start (hsettled _)
  have hstarting : Starting
      (⟨.request (.startContainer (getContainerIdentifier container)), some (.ok ())⟩ :: asked) := by
    refine ⟨hcalm.cons not_failed_ok, ?_⟩
    rintro other ⟨e, hmem, hcall⟩
    obtain rfl | hmem := List.mem_cons.mp hmem
    · cases hcall
    · by_cases hother : other = getContainerIdentifier container
      · exact hother ▸ hsettled _
      · exact (hothers other hother ⟨e, hmem, hcall⟩).append [_]
  refine (wp_bind _ _).mpr ((wp_assign _).mpr ?_)
  refine wp_bind_of (wp_mono waitForWorkerReadiness_checks (fun _ _ _ h => h.2)
    (fun _ _ _ h => h.elim) fun _ h => h) ?_
  rintro r s _ ⟨seg, rfl, hchecks⟩
  have hlater : ∃ later, seg ++ (⟨.request (.startContainer (getContainerIdentifier container)),
      some (.ok ())⟩ :: asked) = later ++ h := by
    rw [← hpolicy]
    exact ⟨seg ++ [_, _], (List.append_assoc seg [_, _] h).symm⟩
  cases r <;> exact ⟨hlater, hchecks.starting hstarting, (hsettled _).append seg⟩

theorem startAll_attempted {toStart : List DockerContainerInspection}
    (hvolume : restore.volume = none) (hs : Starting h) :
    (Method.forEach toStart restore.startAgain).wp recording (attempted h Starting fun _ h' =>
      ∀ container ∈ toStart, Settled (getContainerIdentifier container) h') s h := by
  induction toStart generalizing s h with
  | nil => exact ⟨⟨[], rfl⟩, hs, by simp⟩
  | cons container rest ih =>
    refine wp_bind_of (startAgain_attempted hvolume hs) ?_
    rintro _ s _ ⟨⟨later, rfl⟩, hs, hsettled⟩
    refine wp_mono (ih hs) ?_ (fun _ _ _ h => h) fun _ h => h
    rintro _ _ _ ⟨⟨later', rfl⟩, hs, hrest⟩
    refine ⟨⟨later' ++ later, (List.append_assoc later' later h).symm⟩, hs, ?_⟩
    exact List.forall_mem_cons.mpr ⟨hsettled.append later', hrest⟩

theorem startStopped_attempted (hvolume : restore.volume = none) :
    restore.startStopped.wp recording
      ⟨fun _ _ h => Calm h ∧ restore.AllSettled h, fun _ _ => Broke, fun _ => True⟩ s [] := by
  have hinitial : Reviewing [] := by
    refine ⟨trivial, ?_, fun e he => (nomatch he)⟩
    rintro identifier ⟨e, hmem, -⟩
    cases hmem
  refine wp_bind_of (reviewAll_attempted hinitial) ?_
  rintro toStart s h ⟨-, hr, hreviewed⟩
  refine wp_mono (startAll_attempted hvolume ⟨hr.1, hr.2.1⟩) ?_ (fun _ _ _ h => h) fun _ h => h
  rintro _ _ _ ⟨⟨later, rfl⟩, hs, hstarted⟩
  refine ⟨hs.1, fun container hmem hel => ?_⟩
  obtain hto | hsettled := hreviewed container hmem hel
  · exact hstarted container hto
  · exact hsettled.append later

def Exact (restore : WorkerRestore) (h : AgentHistory) : Prop :=
  restore.AllSettled h ↔ Along (fun e before => ¬restore.Abandons e before) h

theorem Calm.not_abandons (hc : Calm h) : Along (fun e before => ¬restore.Abandons e before) h :=
  along_iff.mpr fun later e before hh => by
    rintro ⟨identifier, hown, hfailed, -⟩
    exact along_iff.mp hc later e before hh identifier hown hfailed

theorem not_abandons_checks {seg : AgentHistory} (hc : Checks seg)
    (hh : Along (fun e before => ¬restore.Abandons e before) h) :
    Along (fun e before => ¬restore.Abandons e before) (seg ++ h) :=
  hc.along (fun _ _ hown => fun ⟨identifier, hcall, _⟩ => hown identifier hcall) hh

theorem exact_of_calm {seg : AgentHistory} (hc : Checks seg) (hcalm : Calm h)
    (hall : restore.AllSettled h) : restore.Exact (seg ++ h) :=
  iff_of_true (fun container hmem hel => (hall container hmem hel).append seg)
    (not_abandons_checks hc hcalm.not_abandons)

theorem Pending.unsettled {seg : AgentHistory} (hc : Checks seg) (hcalm : Calm h)
    (hown : Own identifier h e.call) (hfailed : Failed e) (hother : other ≠ identifier)
    (hp : Pending other h) : ¬Settled other (seg ++ e :: h) := by
  have hlooked {answer : Except CallError (Option DockerContainerInspection)}
      (hl : Looked other answer (seg ++ e :: h)) : Looked other answer h := by
    obtain ⟨later, before, hsplit, hbefore⟩ := hc.looked hl
    cases later with
    | nil =>
      obtain ⟨rfl, rfl⟩ := List.cons.inj hsplit
      exact absurd (hown.unique (.look hbefore)) hother
    | cons e' later => exact ⟨later, before, (List.cons.inj hsplit).2, hbefore⟩
  have hasked (hasked : PolicyAsked other (seg ++ e :: h)) : PolicyAsked other h := by
    obtain ⟨e', hmem, hcall⟩ := hc.policyAsked hasked
    obtain rfl | hmem := List.mem_cons.mp hmem
    · rw [hcall] at hown
      exact absurd (hown.unique .policy) hother
    · exact ⟨e', hmem, hcall⟩
  intro hs
  cases hs with
  | gone hlook => exact hp.1 (hlooked hlook)
  | unreadable error hlook =>
    obtain ⟨later, before, rfl, hbefore⟩ := hlooked hlook
    exact along_iff.mp hcalm later _ before rfl other (.look hbefore) ⟨_, error, rfl⟩
  | refused error hpolicy => exact hp.2 (hasked ⟨_, hpolicy, rfl⟩)
  | running current hrunning hlook hpolicy => exact hp.2 (hasked hpolicy)
  | started hpolicy hstart => exact hp.2 (hasked hpolicy)

theorem exact_of_broke {seg : AgentHistory} (hc : Checks seg) (hb : Broke h) :
    restore.Exact (seg ++ h) := by
  obtain ⟨e, before, identifier, rfl, hown, hfailed, hsettled, hcalm, hothers⟩ := hb
  constructor
  · intro hall
    refine not_abandons_checks hc ⟨?_, hcalm.not_abandons⟩
    rintro ⟨identifier', hown', -, container, hmem, hel, hother, hpending⟩
    obtain rfl := hown.unique hown'
    exact hpending.unsettled hc hcalm hown hfailed hother (hall container hmem hel)
  · intro hkept container hmem hel
    by_cases hsame : getContainerIdentifier container = identifier
    · exact hsame ▸ hsettled.append seg
    · have hreached : ¬Pending (getContainerIdentifier container) before := fun hpending =>
        hkept.append.1 ⟨identifier, hown, hfailed, container, hmem, hel, hsame, hpending⟩
      refine Settled.append seg (Settled.append [e] ?_)
      by_cases hgone : Looked (getContainerIdentifier container) (.ok none) before
      · exact .gone hgone
      · exact hothers _ hsame (not_not.mp fun hasked => hreached ⟨hgone, hasked⟩)

theorem hasRestarted_checks : (restore.hasRestarted s).wp recording
    ⟨fun _ _ h' => ∃ seg, h' = seg ++ h ∧ Checks seg, fun _ _ _ => False, fun _ => True⟩ s h := by
  unfold hasRestarted
  split
  · exact ⟨[], rfl, fun e he => (nomatch he), fun rest e hh => by simp at hh⟩
  · exact anyReplicaRuns_checks

theorem restorePreviousWorkerRuntime_exact (hvolume : restore.volume = none) :
    restore.restorePreviousWorkerRuntime.wp recording
      ⟨fun _ _ => restore.Exact, fun _ _ _ => False, fun _ => True⟩ () [] := by
  refine (wp_withLocals _ _).mpr ?_
  refine wp_bind_of (R := fun _ _ h => Calm h ∧ restore.AllSettled h ∨ Broke h)
    ((wp_tryCatch _ _).mpr (wp_mono (startStopped_attempted hvolume) (fun _ _ _ h => .inl h)
      (fun _ _ _ h => .inr h) fun _ _ => trivial)) ?_
  rintro _ s h hended
  refine (wp_bind _ _).mpr ((wp_locals).mpr ?_)
  refine wp_bind_of (wp_mono hasRestarted_checks (fun _ _ _ h => h) (fun _ _ _ h => h)
    fun _ h => h) ?_
  rintro _ s _ ⟨seg, rfl, hc⟩
  obtain ⟨hcalm, hall⟩ | hbroke := hended
  · exact exact_of_calm hc hcalm hall
  · exact exact_of_broke hc hbroke

end

/-- The restore attempts for each container that the rollout tried to stop to set its restart policy
back and to have it running, exactly where no call of its loops fails while another container is
pending. -/
theorem restorePreviousWorkerRuntime_attempts_iff (env : AgentEnvironment) (restore : WorkerRestore)
    (hvolume : restore.volume = none) (result : WorkerRestoreResult)
    (hreturns : ((restore.restorePreviousWorkerRuntime ()).run env []).1 = .done (.ok result, ())) :
    restore.AllSettled ((restore.restorePreviousWorkerRuntime ()).run env []).2 ↔
      ∀ later e before, ((restore.restorePreviousWorkerRuntime ()).run env []).2 =
        later ++ e :: before → ¬restore.Abandons e before := by
  have hexec := Program.run_exec env (restore.restorePreviousWorkerRuntime ()) []
    (along_iff.mpr fun _ _ _ _ => trivial)
  have hrun := Program.wp_sound (restorePreviousWorkerRuntime_exact hvolume) hexec
  rw [hreturns] at hrun
  exact hrun.trans along_iff

def stoppedReplica (identifier : String) : DockerContainerInspection :=
  ⟨identifier, identifier, none, some 0,
    some ⟨some false, some "exited", none, none, none, none, none⟩, none, none, none, none⟩

def stoppedReplicas : WorkerRestore where
  previousContainers := [stoppedReplica "first", stoppedReplica "second"]
  shutdowns := ["first", "second"].map fun name =>
    ⟨name, .previous, "SIGTERM", 10, .exited, some 0, 0⟩
  isRecordedLive := fun _ => true
  volume := none
  restartsBeforeStop := []
  fuel := 10

def fragileReplicas : AgentEnvironment :=
  answering fun _ r => .ok (wellAnswer (fun name => some (stoppedReplica name)) (.run 1) r)

theorem fragileReplicas_well (h : AgentHistory) (c : AgentCall) :
    ¬Failed ⟨c, fragileReplicas.answer h c⟩ := by
  rintro ⟨r, error, he⟩
  obtain rfl : c = .request r := congrArg Event.call he
  cases he

theorem restorePreviousWorkerRuntime_attempts_fragile :
    stoppedReplicas.AllSettled
      ((stoppedReplicas.restorePreviousWorkerRuntime ()).run fragileReplicas []).2 :=
  (restorePreviousWorkerRuntime_attempts_iff fragileReplicas stoppedReplicas rfl ⟨false, false⟩
    (by decide +kernel)).mpr (along_iff.mp (Program.run_along (fun h c
      ⟨_, _, hfailed, _⟩ => fragileReplicas_well h c hfailed) _ trivial))

def blindTo (failing : String) : AgentEnvironment := answering fun _ r =>
  if r = .inspectContainer failing then .error ⟨true, "socket hang up", none⟩
  else .ok (wellAnswer (fun name => some (stoppedReplica name)) (.run 1) r)

/-- One failing look ends the restore: the second replica stays stopped, and nothing restarts it. -/
theorem restorePreviousWorkerRuntime_abandons : ¬∀ (env : AgentEnvironment)
    (restore : WorkerRestore) (result : WorkerRestoreResult), restore.volume = none →
    ((restore.restorePreviousWorkerRuntime ()).run env []).1 = .done (.ok result, ()) →
    restore.AllSettled ((restore.restorePreviousWorkerRuntime ()).run env []).2 := by
  intro hall
  have hsettled := hall (blindTo "first") stoppedReplicas ⟨false, false⟩ rfl (by decide +kernel)
    (stoppedReplica "second") (by simp [stoppedReplicas])
    ⟨.exited, by decide +kernel, by simp, fun _ => rfl⟩
  have hrun : ((stoppedReplicas.restorePreviousWorkerRuntime ()).run (blindTo "first") []).2 =
      [⟨.request (.inspectContainer "first"), some (.error ⟨true, "socket hang up", none⟩)⟩] := rfl
  have hid : getContainerIdentifier (stoppedReplica "second") = "second" := rfl
  rw [hrun, hid] at hsettled
  cases hsettled <;> simp_all [Looked, PolicyAsked, List.cons_eq_append_iff]

end NouvaAgent.WorkerRestore
