import NouvaAgent.DatabaseProvision

namespace NouvaAgent.DatabaseProvision

open Text Interaction Host CandidateReadiness

def TaskCall : HostCall → Prop
  | .agent (.request r) => match r with
    | .pullImage _ | .removeContainer _ _ _ | .createContainer _ | .startContainer _
    | .waitContainer _ _ | .containerLogs _ => True
    | _ => False
  | _ => False

theorem awaitTask_calls (id name : String) (timeoutMs : Option ℕ) :
    (awaitTask id name timeoutMs).Uses TaskCall := by
  apply Method.uses_bind (uses_request trivial)
  intro _
  apply Method.uses_bind (uses_request trivial)
  intro statusCode
  apply Method.uses_bind (Method.uses_settle (uses_request trivial))
  intro logs
  split
  · exact Method.uses_throw _
  · exact Method.uses_pure _

theorem runTaskContainer_calls (host : DatabaseHost) (options : TaskContainerOptions) :
    (runTaskContainer host options).Uses TaskCall := by
  have hpull : (pullTaskImage options).Uses TaskCall := by
    unfold pullTaskImage
    split
    · exact uses_request trivial
    · exact Method.uses_pure _
  apply Method.uses_bind hpull
  intro _
  apply Method.uses_bind (uses_request trivial)
  intro _
  apply Method.uses_bind (Method.uses_ofExcept _)
  rintro ⟨env, files⟩
  apply Method.uses_bind (uses_request trivial)
  intro id
  exact Method.uses_finally (awaitTask_calls _ _ _) (uses_request trivial)

section

variable {S : HostCall → Prop} {probe : HostAction Unit} {up : Bool}
  {probeIntervalMs nextProbeAt : ℤ}

theorem probeWhenDue_uses (hnow : S (.agent .now)) (hprobe : probe.Uses S) :
    (probeWhenDue probe up probeIntervalMs nextProbeAt).Uses S := by
  unfold probeWhenDue
  split
  · apply Method.uses_bind (uses_now hnow)
    intro time
    split
    · apply Method.uses_bind (uses_now hnow)
      intro probedAt
      apply Method.uses_bind (Method.uses_settle hprobe)
      rintro (e | _) <;> exact Method.uses_pure _
    · exact Method.uses_pure _
  · exact Method.uses_pure _

theorem now_throws {X : Failure → Prop} : (now : HostAction ℤ).Throws X :=
  fun _ => ⟨trivial, fun _ => fun _ he => nomatch he⟩

theorem probeWhenDue_throws {X : Failure → Prop} :
    (probeWhenDue probe up probeIntervalMs nextProbeAt).Throws X := by
  unfold probeWhenDue
  split
  · apply Method.throws_bind now_throws
    intro time
    split
    · apply Method.throws_bind now_throws
      intro probedAt
      apply Method.throws_bind Method.throws_settle
      rintro (e | _) <;> exact Method.throws_pure _
    · exact Method.throws_pure _
  · exact Method.throws_pure _

end

theorem failReadiness_produces {α : Type} {containerName message : String}
    {seg : History HostCall.Answer} {x : Except Failure α × Unit}
    (h : ((failReadiness containerName message : HostAction α) ()).Produces seg x) : ∃ answer e,
      seg = [⟨.agent (.request (.containerLogs containerName)), some answer⟩] ∧
        x = (.error e, ()) := by
  cases h with
  | call hn =>
    rename_i answer
    cases answer <;> cases hn <;> exact ⟨_, _, rfl, rfl⟩

def looked (containerName : String) (look : DockerContainerInspection) : Event HostCall.Answer :=
  ⟨.agent (.request (.inspectContainer containerName)), some (.ok (some look))⟩

def Sightless (c : HostCall) : Prop := ∀ name, c ≠ .agent (.request (.inspectContainer name))

theorem TaskCall.sightless {c : HostCall} (h : TaskCall c) : Sightless c := by
  rintro name rfl
  exact h

theorem not_looked_of_sightless {containerName : String} {seg : History HostCall.Answer}
    (h : ∀ e ∈ seg, Sightless e.call) (look : DockerContainerInspection) :
    looked containerName look ∉ seg := fun hlooked => h _ hlooked _ rfl

def judge (wait : DatabaseReadinessWait) (evidence : CandidateRuntimeEvidence)
    (look : DockerContainerInspection) : CandidateReadinessAssessment :=
  assessCandidateReadiness
    { containerName := wait.containerName, appPort := 0, inspection := look, evidence
      subject := "Database container", restartBaseline := wait.restartBaseline }

def Condemns (assessment : CandidateReadinessAssessment) : Prop :=
  ∃ cause message, assessment.step = .failed cause message

section

variable {wait : DatabaseReadinessWait} {probe : HostAction Unit} {deadline : ℤ} {fuel : ℕ}
  {evidence : CandidateRuntimeEvidence}

inductive Polled (wait : DatabaseReadinessWait) (probe : HostAction Unit) (deadline : ℤ) (fuel : ℕ)
    (evidence : CandidateRuntimeEvidence) : History HostCall.Answer → Except Failure Unit → Prop
  | unseen {seg : History HostCall.Answer} (e : Failure)
      (hseg : ∀ look, looked wait.containerName look ∉ seg) :
      Polled wait probe deadline fuel evidence seg (.error e)
  | failed {time : ℤ} {look : DockerContainerInspection} {answer : Except CallError String}
      (e : Failure) (hjudged : Condemns (judge wait evidence look)) :
      Polled wait probe deadline fuel evidence
        [⟨.agent (.request (.containerLogs wait.containerName)), some answer⟩,
          looked wait.containerName look, ⟨.agent .now, some time⟩] (.error e)
  | ready {time : ℤ} {look : DockerContainerInspection} {probing : History HostCall.Answer}
      (hjudged : ¬ Condemns (judge wait evidence look))
      (hprobing : ∀ look, looked wait.containerName look ∉ probing) :
      Polled wait probe deadline fuel evidence
        (probing ++ [looked wait.containerName look, ⟨.agent .now, some time⟩]) (.ok ())
  | again {time nextProbeAt : ℤ} {lastStatus : String} {look : DockerContainerInspection}
      {probing later : History HostCall.Answer} {r : Except Failure Unit}
      (hjudged : ¬ Condemns (judge wait evidence look))
      (hprobing : ∀ look, looked wait.containerName look ∉ probing)
      (hnext : (pollDatabaseReadiness wait probe deadline fuel (judge wait evidence look).evidence
        nextProbeAt lastStatus ()).Produces later (r, ())) :
      Polled wait probe deadline fuel evidence
        (later ++ ⟨.agent (.sleep wait.intervalMs), some ()⟩ ::
          (probing ++ [looked wait.containerName look, ⟨.agent .now, some time⟩])) r

theorem bind_now_produced {α : Type} {f : ℤ → HostAction α} {seg : History HostCall.Answer}
    {x : Except Failure α × Unit} (h : (Method.bind now f ()).Produces seg x) : ∃ time later,
      seg = later ++ [⟨.agent .now, some time⟩] ∧ (f time ()).Produces later x := by
  cases h with
  | call hn => exact ⟨_, _, rfl, hn⟩

theorem probeWhenDue_produces (hprobe : probe.Uses Sightless) {up : Bool} {nextProbeAt : ℤ}
    {seg : History HostCall.Answer} {x : Except Failure (Bool × ℤ) × Unit}
    (h : (probeWhenDue probe up wait.probeIntervalMs nextProbeAt ()).Produces seg x) :
    (∀ look, looked wait.containerName look ∉ seg) ∧ ∃ answer, x = (.ok answer, ()) := by
  have hcalls := Program.Produces.confined (probeWhenDue_uses (fun _ => nofun) hprobe ()) h
  obtain ⟨e | answer, u⟩ := x
  · exact ((Program.Produces.confined (probeWhenDue_throws (X := fun _ => False) ()) h).2 e rfl).elim
  · exact ⟨not_looked_of_sightless hcalls.1, answer, rfl⟩

def act (wait : DatabaseReadinessWait) (probe : HostAction Unit) (deadline : ℤ) (fuel : ℕ)
    (nextProbeAt : ℤ) (lastStatus : String) (look : DockerContainerInspection)
    (assessment : CandidateReadinessAssessment) : HostAction Unit :=
  match assessment.step with
  | .failed _ message => failReadiness wait.containerName message
  | step => do
    let up := match step with
      | .wait _ => isRunning look
      | _ => true
    let (ready, nextProbeAt) ← probeWhenDue probe up wait.probeIntervalMs nextProbeAt
    if ready then pure ()
    else do
      agent (Agent.sleep wait.intervalMs)
      pollDatabaseReadiness wait probe deadline fuel assessment.evidence nextProbeAt lastStatus

def WentOn (wait : DatabaseReadinessWait) (probe : HostAction Unit) (deadline : ℤ) (fuel : ℕ)
    (evidence : CandidateRuntimeEvidence) (lastStatus : String) (seg : History HostCall.Answer)
    (r : Except Failure Unit) : Prop :=
  (∀ look, looked wait.containerName look ∉ seg) ∧ r = .ok () ∨
    ∃ probing later nextProbeAt, (∀ look, looked wait.containerName look ∉ probing) ∧
      seg = later ++ ⟨.agent (.sleep wait.intervalMs), some ()⟩ :: probing ∧
      (pollDatabaseReadiness wait probe deadline fuel evidence nextProbeAt lastStatus
        ()).Produces later (r, ())

theorem wentOn_of_waiting (hprobe : probe.Uses Sightless) {up : Bool} {nextProbeAt : ℤ}
    {lastStatus : String} {seg : History HostCall.Answer} {r : Except Failure Unit}
    (h : (Method.bind (probeWhenDue probe up wait.probeIntervalMs nextProbeAt) (fun answer =>
      if answer.1 then Method.pure ()
      else Method.bind (agent (Agent.sleep wait.intervalMs)) fun _ =>
        pollDatabaseReadiness wait probe deadline fuel evidence answer.2 lastStatus) ()).Produces
          seg (r, ())) : WentOn wait probe deadline fuel evidence lastStatus seg r := by
  obtain ⟨e, _, hprobing, -⟩ | ⟨probing, rest, ⟨ready, next⟩, _, rfl, hprobing, hrest⟩ :=
    Method.bind_produced h
  · obtain ⟨-, answer, hanswer⟩ := probeWhenDue_produces hprobe hprobing
    cases hanswer
  obtain ⟨hunlooked, -⟩ := probeWhenDue_produces hprobe hprobing
  cases ready with
  | true =>
    cases hrest
    exact .inl ⟨hunlooked, rfl⟩
  | false =>
    cases hrest with
    | call hn => exact .inr ⟨probing, _, next, hunlooked, List.append_assoc .., hn⟩

theorem act_produces (hprobe : probe.Uses Sightless) {nextProbeAt : ℤ} {lastStatus : String}
    {look : DockerContainerInspection} {assessment : CandidateReadinessAssessment}
    {seg : History HostCall.Answer} {r : Except Failure Unit}
    (h : (act wait probe deadline fuel nextProbeAt lastStatus look assessment ()).Produces seg
      (r, ())) :
    Condemns assessment ∧ (∃ answer e, r = .error e ∧
        seg = [⟨.agent (.request (.containerLogs wait.containerName)), some answer⟩]) ∨
      ¬ Condemns assessment ∧
        WentOn wait probe deadline fuel assessment.evidence lastStatus seg r := by
  unfold act at h
  unfold Condemns
  cases hstep : assessment.step with
  | failed cause message =>
    rw [hstep] at h
    obtain ⟨answer, e, hseg, hr⟩ := failReadiness_produces h
    exact .inl ⟨⟨cause, message, rfl⟩, answer, e, congrArg Prod.fst hr, hseg⟩
  | ready | probe _ _ | wait _ =>
    rw [hstep] at h
    exact .inr ⟨nofun, wentOn_of_waiting hprobe h⟩

theorem unlooked_of_answer {containerName : String} {time : ℤ}
    {answer : Except CallError (Option DockerContainerInspection)}
    (h : ∀ look, answer ≠ .ok (some look)) (look : DockerContainerInspection) :
    looked containerName look ∉ [(⟨.agent (.request (.inspectContainer containerName)),
      some answer⟩ : Event HostCall.Answer), ⟨.agent .now, some time⟩] := by
  intro hmem
  obtain hlook | hnow := List.mem_cons.mp hmem
  · cases hlook
    exact h look rfl
  · cases List.mem_singleton.mp hnow

theorem pollDatabaseReadiness_polled (hprobe : probe.Uses Sightless) {nextProbeAt : ℤ}
    {lastStatus : String} {seg : History HostCall.Answer} {r : Except Failure Unit}
    (h : (pollDatabaseReadiness wait probe deadline (fuel + 1) evidence nextProbeAt lastStatus
      ()).Produces seg (r, ())) : Polled wait probe deadline fuel evidence seg r := by
  obtain ⟨time, rest, rfl, hrest⟩ := bind_now_produced h
  dsimp only at hrest
  split at hrest
  · obtain ⟨e, _, hlook, hr⟩ | ⟨_, later, found, v, rfl, hlook, hlater⟩ := Method.bind_produced hrest
    · obtain ⟨answer, rfl, hanswer⟩ := request_produces hlook
      cases hr
      refine .unseen e (unlooked_of_answer ?_)
      rintro look rfl
      cases hanswer
    · obtain ⟨answer, rfl, hanswer⟩ := request_produces hlook
      cases answer with
      | error e => cases hanswer
      | ok answered =>
        cases hanswer
        cases found with
        | none =>
          cases hlater
          refine .unseen _ (unlooked_of_answer ?_)
          rintro look hsome
          cases hsome
        | some look =>
          have hact : (act wait probe deadline fuel nextProbeAt ((statusOf look).getD lastStatus)
            look (judge wait evidence look) ()).Produces later (r, ()) := hlater
          obtain ⟨hjudged, answer, e, rfl, rfl⟩ | ⟨hjudged, hwent⟩ := act_produces hprobe hact
          · exact .failed e hjudged
          · obtain ⟨hunlooked, rfl⟩ | ⟨probing, rest, next, hunlooked, rfl, hnext⟩ := hwent
            · rw [List.append_assoc]
              exact .ready hjudged hunlooked
            · rw [List.append_assoc, List.append_assoc]
              exact .again hjudged hunlooked hnext
  · obtain ⟨answer, e, rfl, hr⟩ := failReadiness_produces hrest
    cases hr
    refine .unseen e (not_looked_of_sightless fun e' he => ?_)
    obtain rfl | he := List.mem_cons.mp he
    · rintro name ⟨⟩
    · obtain rfl := List.mem_singleton.mp he
      rintro name ⟨⟩

end

/-! Restart loops. -/

def Down (look : DockerContainerInspection) : Prop :=
  isOomKilled look = true ∨ (∃ status ∈ terminalStatuses, statusOf look = some status) ∨
    healthStatus look = some "unhealthy"

def Clear (evidence : CandidateRuntimeEvidence) : Prop :=
  evidence.outOfMemory = false ∧ evidence.restarts < restartLoopThreshold

section

variable {wait : DatabaseReadinessWait} {evidence : CandidateRuntimeEvidence}
  {look : DockerContainerInspection}

theorem condemns_judge_iff (hclear : Clear evidence) : Condemns (judge wait evidence look) ↔
    wait.restartBaseline + restartLoopThreshold ≤ readRestartCount look ∨ Down look := by
  obtain ⟨hkilled, hfew⟩ := hclear
  have hmemory : (recordEvidence evidence look wait.restartBaseline 0 none).outOfMemory =
      isOomKilled look := by simp [recordEvidence, readOutOfMemory, hkilled]
  have hcount : restartLoopThreshold ≤
      (recordEvidence evidence look wait.restartBaseline 0 none).restarts ↔
        wait.restartBaseline + restartLoopThreshold ≤ readRestartCount look := by
    simp only [recordEvidence, restartLoopThreshold] at hfew ⊢
    omega
  unfold Condemns judge Down
  rw [assessCandidateReadiness_failed_iff, assessCandidateReadiness_evidence, hmemory, hcount]
  exact (or_congr_right or_left_comm).trans or_left_comm

theorem clear_of_not_condemns (h : ¬ Condemns (judge wait evidence look)) :
    Clear (judge wait evidence look).evidence := by
  refine ⟨Bool.eq_false_iff.mpr fun hkilled => ?_, not_le.mp fun hlooping => ?_⟩
  · exact h (assessCandidateReadiness_condemned (.inl hkilled))
  · exact h (assessCandidateReadiness_condemned (.inr hlooping))

end

def FailedBy (containerName : String) (after : History HostCall.Answer) (r : Except Failure Unit) :
    Prop :=
  (∃ e, r = .error e) ∧
    ∃ answer, after = [⟨.agent (.request (.containerLogs containerName)), some answer⟩]

/-- The wait fails at each look whose count of restarts has reached the threshold. -/
def Detects (containerName : String) (seg : History HostCall.Answer) (r : Except Failure Unit) :
    Prop :=
  ∀ look before after, seg = after ++ looked containerName look :: before →
    restartLoopThreshold ≤ readRestartCount look → FailedBy containerName after r

/-- A look whose count has reached the threshold shows as many restarts above the baseline, or
fails the container for another reason. -/
def Exceeds (restartBaseline : ℤ) (look : DockerContainerInspection) : Prop :=
  restartLoopThreshold ≤ readRestartCount look →
    restartBaseline + restartLoopThreshold ≤ readRestartCount look ∨ Down look

section

variable {containerName : String} {r : Except Failure Unit} {later before : History HostCall.Answer}

theorem detects_of_unlooked {seg : History HostCall.Answer}
    (h : ∀ look, looked containerName look ∉ seg) : Detects containerName seg r := by
  intro look before after hseg
  refine absurd ?_ (h look)
  simp [hseg]

theorem detects_append_iff (hbefore : ∀ look, looked containerName look ∉ before) :
    Detects containerName (later ++ before) r ↔ Detects containerName later r := by
  constructor
  · intro h look rest after hlater
    exact h look (rest ++ before) after (by simp [hlater])
  · intro h look rest after hseg
    obtain ⟨between, rfl, hrest⟩ | ⟨between, hlater, hrest⟩ := List.append_eq_append_iff.mp hseg
    · refine absurd ?_ (hbefore look)
      simp [hrest]
    · cases between with
      | nil =>
        refine absurd ?_ (hbefore look)
        rw [List.nil_append] at hrest
        simp [← hrest]
      | cons e between =>
        obtain ⟨rfl, -⟩ := List.cons.inj hrest
        exact h look between after hlater

theorem detects_append_looked_iff (look : DockerContainerInspection)
    (hbefore : ∀ look, looked containerName look ∉ before) :
    Detects containerName (later ++ looked containerName look :: before) r ↔
      Detects containerName later r ∧
        (restartLoopThreshold ≤ readRestartCount look → FailedBy containerName later r) := by
  constructor
  · intro h
    refine ⟨fun look' rest after hlater => ?_, h look before later rfl⟩
    exact h look' (rest ++ looked containerName look :: before) after (by simp [hlater])
  · rintro ⟨hdetects, hfailed⟩ look' rest after hseg
    obtain ⟨between, rfl, hrest⟩ | ⟨between, hlater, hrest⟩ := List.append_eq_append_iff.mp hseg
    · cases between with
      | nil =>
        obtain ⟨hlook, -⟩ := List.cons.inj hrest
        cases hlook
        rwa [List.append_nil]
      | cons e between =>
        obtain ⟨-, hmem⟩ := List.cons.inj hrest
        refine absurd ?_ (hbefore look')
        simp [hmem]
    · cases between with
      | nil =>
        obtain ⟨hlook, -⟩ := List.cons.inj hrest
        cases hlook
        rw [List.append_nil] at hlater
        exact hlater ▸ hfailed
      | cons e between =>
        obtain ⟨rfl, -⟩ := List.cons.inj hrest
        exact hdetects look' between after hlater

theorem forall_looked_append_iff {P : DockerContainerInspection → Prop}
    (hbefore : ∀ look, looked containerName look ∉ before) :
    (∀ look, looked containerName look ∈ later ++ before → P look) ↔
      ∀ look, looked containerName look ∈ later → P look := by
  refine forall_congr' fun look => ?_
  rw [List.mem_append, or_iff_left (hbefore look)]

theorem forall_looked_append_looked_iff {P : DockerContainerInspection → Prop}
    (look : DockerContainerInspection) (hbefore : ∀ look, looked containerName look ∉ before) :
    (∀ look', looked containerName look' ∈ later ++ looked containerName look :: before →
        P look') ↔
      (∀ look', looked containerName look' ∈ later → P look') ∧ P look := by
  constructor
  · intro h
    exact ⟨fun look' hlater => h look' (List.mem_append_left _ hlater), h look (by simp)⟩
  · rintro ⟨hlater, hlook⟩ look' hmem
    obtain hmem | hmem := List.mem_append.mp hmem
    · exact hlater look' hmem
    · obtain heq | hmem := List.mem_cons.mp hmem
      · cases heq
        exact hlook
      · exact absurd hmem (hbefore look')

end

theorem unlooked_now {containerName : String} {time : ℤ} (look : DockerContainerInspection) :
    looked containerName look ∉ [(⟨.agent .now, some time⟩ : Event HostCall.Answer)] := fun h =>
  nomatch List.mem_singleton.mp h

theorem exceeds_iff_of_not_condemns {wait : DatabaseReadinessWait}
    {evidence : CandidateRuntimeEvidence} {look : DockerContainerInspection}
    (hclear : Clear evidence) (h : ¬ Condemns (judge wait evidence look)) :
    Exceeds wait.restartBaseline look ↔ ¬ restartLoopThreshold ≤ readRestartCount look := by
  rw [condemns_judge_iff hclear] at h
  exact imp_congr_right fun _ => iff_false_intro h

theorem pollDatabaseReadiness_detects_iff {wait : DatabaseReadinessWait} {probe : HostAction Unit}
    (hprobe : probe.Uses Sightless) {deadline : ℤ} {fuel : ℕ} {evidence : CandidateRuntimeEvidence}
    (hclear : Clear evidence) {nextProbeAt : ℤ} {lastStatus : String}
    {seg : History HostCall.Answer} {r : Except Failure Unit}
    (h : (pollDatabaseReadiness wait probe deadline fuel evidence nextProbeAt lastStatus
      ()).Produces seg (r, ())) :
    Detects wait.containerName seg r ↔
      ∀ look, looked wait.containerName look ∈ seg → Exceeds wait.restartBaseline look := by
  induction fuel generalizing evidence nextProbeAt lastStatus seg with
  | zero => cases h
  | succ fuel ih =>
    cases pollDatabaseReadiness_polled hprobe h with
    | unseen e hseg =>
      exact iff_of_true (detects_of_unlooked hseg) fun look hlook => absurd hlook (hseg look)
    | @failed time look answer e hjudged =>
      have hlogs : ∀ look, looked wait.containerName look ∉
          [(⟨.agent (.request (.containerLogs wait.containerName)), some answer⟩ :
            Event HostCall.Answer)] := fun look h => nomatch List.mem_singleton.mp h
      refine (@detects_append_looked_iff _ _ [_] _ look unlooked_now).trans (Iff.trans ?_
        (@forall_looked_append_looked_iff _ [_] _ _ look unlooked_now).symm)
      refine iff_of_true ⟨detects_of_unlooked hlogs, fun _ => ⟨⟨e, rfl⟩, answer, rfl⟩⟩ ?_
      exact ⟨fun look' h => absurd h (hlogs look'), fun _ => (condemns_judge_iff hclear).mp hjudged⟩
    | @ready time look probing hjudged hprobing =>
      rw [detects_append_looked_iff look unlooked_now, forall_looked_append_looked_iff look unlooked_now,
        exceeds_iff_of_not_condemns hclear hjudged]
      have hnever : ¬ FailedBy wait.containerName probing (.ok ()) := fun ⟨⟨e, he⟩, _⟩ => nomatch he
      refine and_congr (iff_of_true (detects_of_unlooked hprobing) fun look h =>
        absurd h (hprobing look)) (imp_congr_right fun _ => iff_false_intro hnever)
    | @again time next status look probing later r hjudged hprobing hnext =>
      have hbefore : ∀ look, looked wait.containerName look ∉
          (⟨.agent (.sleep wait.intervalMs), some ()⟩ :: probing : History HostCall.Answer) := by
        intro look hmem
        obtain hsleep | hmem := List.mem_cons.mp hmem
        · cases hsleep
        · exact hprobing look hmem
      have hnever : ¬ FailedBy wait.containerName
          (later ++ ⟨.agent (.sleep wait.intervalMs), some ()⟩ :: probing) r := by
        rintro ⟨-, answer, hafter⟩
        have hsleep : (⟨.agent (.sleep wait.intervalMs), some ()⟩ : Event HostCall.Answer) ∈
            later ++ ⟨.agent (.sleep wait.intervalMs), some ()⟩ :: probing := by simp
        rw [hafter] at hsleep
        cases List.mem_singleton.mp hsleep
      rw [← List.cons_append, ← List.append_assoc, detects_append_looked_iff look unlooked_now,
        forall_looked_append_looked_iff look unlooked_now, detects_append_iff hbefore,
        forall_looked_append_iff hbefore, exceeds_iff_of_not_condemns hclear hjudged]
      exact and_congr (ih (clear_of_not_condemns hjudged) hnext)
        (imp_congr_right fun _ => iff_false_intro hnever)

theorem waitForDatabaseReadiness_detects_iff {host : DatabaseHost} {wait : DatabaseReadinessWait}
    {probe : HostAction Unit} (hprobe : probe.Uses Sightless) {seg : History HostCall.Answer}
    {r : Except Failure Unit}
    (h : (waitForDatabaseReadiness host wait probe ()).Produces seg (r, ())) :
    Detects wait.containerName seg r ↔
      ∀ look, looked wait.containerName look ∈ seg → Exceeds wait.restartBaseline look := by
  obtain ⟨time, polls, rfl, hpolls⟩ := bind_now_produced h
  rw [detects_append_iff unlooked_now, forall_looked_append_iff unlooked_now]
  exact pollDatabaseReadiness_detects_iff hprobe ⟨rfl, by decide⟩ hpolls

end NouvaAgent.DatabaseProvision
