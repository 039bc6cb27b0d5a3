import Mathlib.Logic.Function.Basic
import Mathlib.Logic.Relation
import NouvaAgent.AppRolloutCalls
import NouvaAgent.BuildAndDeploy
import NouvaAgent.ReleaseJobCalls
import NouvaAgent.ReleaseJobRecord

namespace NouvaAgent.ReleaseJobProtocol

open Text Interaction Agent Method ReleaseJobs ReleaseJobRecord

inductive JobState
  | absent
  | created
  | running
  | exited
  deriving DecidableEq

inductive Mark
  | started (attempt : ℕ)
  | recorded (attempt : ℕ) (outcome : ReleaseJobOutcome)
  | retried
  deriving DecidableEq

/-- One phase of one deployment: the control plane's record, the lease whose work the agent does and
all leases so far, the container of each attempt, and what has happened, the latest first. -/
structure World where
  record : ReleaseJobRecordState
  lease : String
  leases : List String
  jobs : ℕ → JobState
  log : List Mark

structure Phase where
  serviceId : String
  deploymentId : String
  phase : ReleasePhase

def Phase.nameOf (p : Phase) (attempt : ℕ) : String :=
  buildReleaseJobContainerName p.serviceId p.deploymentId p.phase attempt

inductive Drift (p : Phase) : World → World → Prop
  | exits (w : World) (n : ℕ) (h : w.jobs n = .running) :
      Drift p w { w with jobs := Function.update w.jobs n .exited }
  | vanishes (w : World) (n : ℕ) : Drift p w { w with jobs := Function.update w.jobs n .absent }
  | retries (w : World) (message : Option String) (status : ReleaseJobStatus)
      (h : decideReleaseJobResolution p.phase w.record.status .retry = .ok status) :
      Drift p w { w with
        record := storeResolution w.record message (.ok status), log := .retried :: w.log }
  | marksSucceeded (w : World) (message : Option String) (status : ReleaseJobStatus)
      (h : decideReleaseJobResolution p.phase w.record.status .markSucceeded = .ok status) :
      Drift p w { w with record := storeResolution w.record message (.ok status) }

def Stored (w : World) (w' : World) : Prop :=
  ∃ message, w' = { w with
    record := storeClaim w.record w.lease message (decideReleaseJobClaim w.record w.lease).transition }

/-- A claim is decided on the record, or held back with `wait`. Its answer may be lost. -/
def ClaimEffect (w : World) (r : Option (Except CallError ReleaseJobClaimResponse)) (w' : World) :
    Prop :=
  match r with
  | some (.ok response) =>
    (response = (decideReleaseJobClaim w.record w.lease).response ∧ Stored w w') ∨
      ((∃ attempt message, response = .wait attempt message) ∧ w' = w)
  | _ => w' = w ∨ Stored w w'

def Recorded (w : World) (report : ReleaseJobReport) (w' : World) : Prop :=
  decideReleaseJobReport w.record report.attempt report.outcome = .record ∧ ∃ message, w' = { w with
    record := storeReport w.record report.outcome message .record
    log := .recorded report.attempt report.outcome :: w.log }

def ReportEffect (w : World) (report : ReleaseJobReport) (r : Option (Except CallError Unit))
    (w' : World) : Prop :=
  match r with
  | some (.ok _) => Recorded w report w' ∨
      (decideReleaseJobReport w.record report.attempt report.outcome = .duplicate ∧ w' = w)
  | _ => w' = w ∨ Recorded w report w'

def Makes (p : Phase) (w : World) (name : String) (w' : World) : Prop :=
  ∃ n, name = p.nameOf n ∧ w.jobs n = .absent ∧
    w' = { w with jobs := Function.update w.jobs n .created }

def CreateEffect (p : Phase) (w : World) (name : String) (r : Option (Except CallError String))
    (w' : World) : Prop :=
  match r with
  | some (.ok _) => Makes p w name w' ∨ ((∀ n, name ≠ p.nameOf n) ∧ w' = w)
  | _ => w' = w ∨ Makes p w name w'

/-- Starting a container that is not running runs its command, were it for a second time. -/
def Starts (p : Phase) (w : World) (name : String) (w' : World) : Prop :=
  ∃ n, name = p.nameOf n ∧ (w.jobs n = .created ∨ w.jobs n = .exited) ∧
    w' = { w with jobs := Function.update w.jobs n .running, log := .started n :: w.log }

/-- Docker says of a container that it is missing, or that it never ran, only when it is so. -/
def Truthful (p : Phase) (w : World) (name : String)
    (r : Option (Except CallError (Option DockerContainerInspection))) : Prop :=
  ∀ n inspection, name = p.nameOf n → r = some (.ok inspection) →
    (observeContainer inspection = .missing → w.jobs n = .absent) ∧
    (observeContainer inspection = .created → w.jobs n = .created)

def effect (p : Phase) (w : World) : (c : AgentCall) → Option c.Answer → World → Prop
  | .request (.claim phase _), r, w' => if phase = p.phase then ClaimEffect w r w' else w' = w
  | .request (.report phase report), r, w' =>
    if phase = p.phase then ReportEffect w report r w' else w' = w
  | .request (.createContainer spec), r, w' => CreateEffect p w spec.name r w'
  | .request (.startContainer name), _, w' => w' = w ∨ Starts p w name w'
  | .request (.inspectContainer name), r, w' => Truthful p w name r ∧ w' = w
  | _, _, w' => w' = w

/-- A call takes effect after whatever happened since the last one. Stops and removals are drift. -/
def model (p : Phase) : Model AgentCall.Answer World := fun w c r w' =>
  ∃ w₁, Relation.ReflTransGen (Drift p) w w₁ ∧ effect p w₁ c r w'

def LooksOnly : AgentCall → Prop
  | .now | .sleep _ => True
  | .request r => match r with
    | .inspectContainer _ | .countContainerExits _ _ _ | .checkTcpConnect _ _ _ => True
    | _ => False

def initial (attempt : ℕ) : World :=
  { record := ⟨.pending, attempt, none, none⟩
    lease := ""
    leases := [""]
    jobs := fun _ => .absent
    log := [] }

def HeldBack (p : Phase) (runner : ReleasePhaseRunner) (w w' : World) : Prop :=
  w' = w ∨ ∃ o : Outcome (Except Failure Unit × Unit), Program.Exec (model p)
    (deferWhileBlockingJobRuns runner p.serviceId p.deploymentId ()) w o w'

/-- The worlds reached by leases of the phase, one after the other. Each has an id of its own and
runs the phase once, with answers that may fail or be lost; the agent may crash at any of them. -/
inductive Reachable (p : Phase) : World → Prop
  | initial (attempt : ℕ) : Reachable p (initial attempt)
  | drift {w w' : World} (h : Reachable p w) (hd : Drift p w w') : Reachable p w'
  | lease {w w' w'' : World} {σ : Type} {s : σ}
      {o : Outcome (Except Failure ReleasePhaseResult × σ)}
      (h : Reachable p w) (leaseId : String) (hnew : leaseId ∉ w.leases)
      (runner : ReleasePhaseRunner) (target : ReleaseJobTarget)
      (phaseRequest : ReleasePhaseRequest σ)
      (htarget : (⟨target.serviceId, target.deploymentId, phaseRequest.phase⟩ : Phase) = p)
      (hpolicy : ∀ resolve outcome, phaseRequest.resolveAppliedPolicy = some resolve →
        (resolve outcome).Uses LooksOnly)
      (hheld : HeldBack p runner { w with lease := leaseId, leases := leaseId :: w.leases } w')
      (hrun : Program.Exec (model p) (run runner target phaseRequest s) w' o w'') :
      Reachable p w''

/-- A failed attempt is behind the record, and no later one ran before an operator asked for it. -/
structure Inv (w : World) : Prop where
  once : ∀ n, w.log.count (.started n) ≤ 1
  future : ∀ n, w.record.attempt < n → w.jobs n = .absent ∧ .started n ∉ w.log
  unstarted : ∀ n, w.jobs n = .created → .started n ∉ w.log
  ordered : ∀ late early middle m n failure,
    w.log = late ++ .started m :: (middle ++ .recorded n (.unsuccessful failure) :: early) →
      .retried ∈ middle ∧ n < m
  failed : ∀ late early n failure, w.log = late ++ .recorded n (.unsuccessful failure) :: early →
    n ≤ w.record.attempt ∧ (w.record.status = .running → n < w.record.attempt) ∧
      (.retried ∈ late ∨ ∃ outcome, w.record.status = .ended outcome)
  leased : ∀ l, w.record.claimedLeaseId = some l → l ∈ w.leases

structure Aside (w w' : World) : Prop where
  lease : w'.lease = w.lease
  leases : w'.leases = w.leases
  attempt : w'.record.attempt = w.record.attempt
  claimed : w'.record.claimedLeaseId = w.record.claimedLeaseId
  absent : ∀ n, w.jobs n = .absent → w'.jobs n = .absent
  created : ∀ n, w'.jobs n = .created → w.jobs n = .created
  started : ∀ n, .started n ∈ w'.log → .started n ∈ w.log
  running : w.record.status = .running ↔ w'.record.status = .running

theorem Aside.refl (w : World) : Aside w w :=
  ⟨rfl, rfl, rfl, rfl, fun _ h => h, fun _ h => h, fun _ h => h, Iff.rfl⟩

theorem Aside.trans {w w' w'' : World} (h : Aside w w') (h' : Aside w' w'') : Aside w w'' where
  lease := h'.lease.trans h.lease
  leases := h'.leases.trans h.leases
  attempt := h'.attempt.trans h.attempt
  claimed := h'.claimed.trans h.claimed
  absent n hn := h'.absent n (h.absent n hn)
  created n hn := h.created n (h'.created n hn)
  started n hn := h.started n (h'.started n hn)
  running := h.running.trans h'.running

variable {p : Phase} {w w' : World}

theorem resolution_ended {phase : ReleasePhase} {status next : ReleaseJobStatus}
    {resolution : ReleaseJobResolution}
    (h : decideReleaseJobResolution phase status resolution = .ok next) :
    (∃ failure, status = .ended (.unsuccessful failure)) ∧ next ≠ .running ∧
      (resolution = .markSucceeded → next = .ended .succeeded) := by
  cases phase with
  | verification => simp [decideReleaseJobResolution] at h
  | preActivation =>
    rcases status with _ | _ | ⟨_ | _ | _ | _⟩ <;> cases resolution <;>
      simp [decideReleaseJobResolution] at h
    all_goals exact ⟨⟨_, rfl⟩, by simp [← h], by simp [← h]⟩

theorem drift_aside (h : Drift p w w') : Aside w w' := by
  have updated (n : ℕ) (state : JobState) (hs : state = .exited ∨ state = .absent)
      (hn : w.jobs n = .absent → state = .absent) :
      Aside w { w with jobs := Function.update w.jobs n state } := by
    refine { Aside.refl w with absent := ?_, created := ?_ }
    · intro m hm
      by_cases hmn : m = n
      · subst hmn
        simpa using hn hm
      · simpa [hmn] using hm
    · intro m hm
      by_cases hmn : m = n
      · subst hmn
        rcases hs with rfl | rfl <;> simp at hm
      · simpa [hmn] using hm
  cases h with
  | exits n hn => exact updated n .exited (.inl rfl) (by simp [hn])
  | vanishes n => exact updated n .absent (.inr rfl) fun _ => rfl
  | retries message status hs =>
    obtain ⟨⟨failure, hended⟩, hne, _⟩ := resolution_ended hs
    refine { Aside.refl w with started := ?_, running := ?_ }
    · intro n hn
      simpa using hn
    · simp [storeResolution, hended, hne]
  | marksSucceeded message status hs =>
    obtain ⟨⟨failure, hended⟩, hne, _⟩ := resolution_ended hs
    refine { Aside.refl w with running := ?_ }
    simp [storeResolution, hended, hne]

theorem drift_inv (h : Drift p w w') (hi : Inv w) : Inv w' := by
  have haside := drift_aside h
  have hfuture (n : ℕ) (hn : w'.record.attempt < n) : w'.jobs n = .absent ∧ .started n ∉ w'.log := by
    rw [haside.attempt] at hn
    obtain ⟨hjob, hlog⟩ := hi.future n hn
    exact ⟨haside.absent n hjob, fun hm => hlog (haside.started n hm)⟩
  have hunstarted (n : ℕ) (hn : w'.jobs n = .created) : .started n ∉ w'.log := fun hm =>
    hi.unstarted n (haside.created n hn) (haside.started n hm)
  have hleased (l : String) (hl : w'.record.claimedLeaseId = some l) : l ∈ w'.leases := by
    rw [haside.claimed] at hl
    rw [haside.leases]
    exact hi.leased l hl
  cases h with
  | exits n hn => exact ⟨hi.once, hfuture, hunstarted, hi.ordered, hi.failed, hleased⟩
  | vanishes n => exact ⟨hi.once, hfuture, hunstarted, hi.ordered, hi.failed, hleased⟩
  | retries message status hs =>
    obtain ⟨⟨ended, hended⟩, hne, _⟩ := resolution_ended hs
    refine ⟨?_, hfuture, hunstarted, ?_, ?_, hleased⟩
    · intro n
      have hcount := hi.once n
      simpa using hcount
    · intro late early middle m n failure hlog
      cases late with
      | nil => simp at hlog
      | cons mark late => exact hi.ordered late early middle m n failure (List.cons.inj hlog).2
    · intro late early n failure hlog
      cases late with
      | nil => simp at hlog
      | cons mark late =>
        obtain ⟨hmark, htail⟩ := List.cons.inj hlog
        obtain ⟨hle, _, _⟩ := hi.failed late early n failure htail
        exact ⟨hle, fun hr => absurd hr hne, .inl (hmark ▸ List.mem_cons_self)⟩
  | marksSucceeded message status hs =>
    obtain ⟨⟨ended, hended⟩, hne, hmark⟩ := resolution_ended hs
    refine ⟨hi.once, hfuture, hunstarted, hi.ordered, ?_, hleased⟩
    intro late early n failure hlog
    obtain ⟨hle, _, hor⟩ := hi.failed late early n failure hlog
    exact ⟨hle, fun hr => absurd hr hne, .inr ⟨.succeeded, hmark rfl⟩⟩

theorem drifts_aside (h : Relation.ReflTransGen (Drift p) w w') : Aside w w' := by
  induction h with
  | refl => exact Aside.refl w
  | tail _ hd ih => exact ih.trans (drift_aside hd)

theorem drifts_inv (h : Relation.ReflTransGen (Drift p) w w') (hi : Inv w) : Inv w' := by
  induction h with
  | refl => exact hi
  | tail _ hd ih => exact drift_inv hd ih

def AtWork (w : World) : Prop := Inv w ∧ w.lease ∈ w.leases

def Untouched (n : ℕ) (w : World) : Prop := w.jobs n = .absent ∧ .started n ∉ w.log

def Unclaimed (w : World) : Prop :=
  AtWork w ∧ (w.record.status = .running → w.record.claimedLeaseId = some w.lease →
    Untouched w.record.attempt w)

def Active (n : ℕ) (w : World) : Prop :=
  AtWork w ∧ w.record.status = .running ∧ w.record.attempt = n

def Startable (n : ℕ) (w : World) : Prop := Active n w ∧ .started n ∉ w.log

def Unmade (n : ℕ) (w : World) : Prop := Startable n w ∧ w.jobs n = .absent

theorem AtWork.drifts (hd : Relation.ReflTransGen (Drift p) w w') (h : AtWork w) : AtWork w' := by
  have haside := drifts_aside hd
  refine ⟨drifts_inv hd h.1, ?_⟩
  rw [haside.lease, haside.leases]
  exact h.2

theorem Unclaimed.drifts (hd : Relation.ReflTransGen (Drift p) w w') (h : Unclaimed w) :
    Unclaimed w' := by
  have haside := drifts_aside hd
  refine ⟨h.1.drifts hd, fun hrunning hclaimed => ?_⟩
  rw [haside.claimed, haside.lease] at hclaimed
  obtain ⟨hjob, hlog⟩ := h.2 (haside.running.mpr hrunning) hclaimed
  rw [haside.attempt]
  exact ⟨haside.absent _ hjob, fun hm => hlog (haside.started _ hm)⟩

theorem Active.drifts {n : ℕ} (hd : Relation.ReflTransGen (Drift p) w w') (h : Active n w) :
    Active n w' := by
  have haside := drifts_aside hd
  exact ⟨h.1.drifts hd, haside.running.mp h.2.1, haside.attempt.trans h.2.2⟩

theorem Startable.drifts {n : ℕ} (hd : Relation.ReflTransGen (Drift p) w w') (h : Startable n w) :
    Startable n w' :=
  ⟨h.1.drifts hd, fun hm => h.2 ((drifts_aside hd).started _ hm)⟩

theorem Unmade.drifts {n : ℕ} (hd : Relation.ReflTransGen (Drift p) w w') (h : Unmade n w) :
    Unmade n w' :=
  ⟨h.1.drifts hd, (drifts_aside hd).absent _ h.2⟩

theorem claim_pending {message : Option String} (h : AtWork w) (hp : w.record.status = .pending) :
    Unmade (w.record.attempt + 1) { w with
      record := ⟨.running, w.record.attempt + 1, message, some w.lease⟩ } := by
  obtain ⟨hi, hl⟩ := h
  have hnext := hi.future (w.record.attempt + 1) (by omega)
  refine ⟨⟨⟨⟨⟨hi.once, ?_, hi.unstarted, hi.ordered, ?_, ?_⟩, hl⟩, rfl, rfl⟩, hnext.2⟩, hnext.1⟩
  · intro n hn
    exact hi.future n (by simp only at hn; omega)
  · intro late early n failure hlog
    obtain ⟨hle, _, hor⟩ := hi.failed late early n failure hlog
    refine ⟨by simp only; omega, fun _ => by simp only; omega, .inl ?_⟩
    rcases hor with hr | ⟨outcome, he⟩
    · exact hr
    · simp [hp] at he
  · intro l hl'
    obtain rfl : w.lease = l := by simpa using hl'
    exact hl

def Answered (response : ReleaseJobClaimResponse) (w : World) : Prop :=
  match response with
  | .run n => Unmade n w
  | .resume n => Active n w
  | _ => AtWork w

theorem stored_answered (h : Unclaimed w) (hs : Stored w w') :
    Unclaimed w' ∧ Answered (decideReleaseJobClaim w.record w.lease).response w' := by
  obtain ⟨message, rfl⟩ := hs
  have hcases := claim_cases .preActivation w.record w.lease message
  simp only [ReleaseJobRecord.step, Prod.mk.injEq, Answer.claim.injEq] at hcases
  rcases hcases with ⟨hp, hr, he⟩ | ⟨hp, hl, hr, he⟩ | ⟨hp, hl, hr, he⟩ | ⟨hp, hr, he⟩ |
    ⟨_, _, hp, hr, he⟩ <;> rw [hr, he]
  · have hpending : Unmade (w.record.attempt + 1) { w with
        record := ⟨.running, w.record.attempt + 1, message, some w.lease⟩ } := claim_pending h.1 hp
    exact ⟨⟨hpending.1.1.1, fun _ _ => ⟨hpending.2, hpending.1.2⟩⟩, hpending⟩
  · have huntouched := h.2 hp hl
    exact ⟨h, ⟨⟨h.1, hp, rfl⟩, huntouched.2⟩, huntouched.1⟩
  · exact ⟨h, h.1, hp, rfl⟩
  · exact ⟨h, h.1⟩
  · exact ⟨h, h.1⟩

theorem claim_answered {response : ReleaseJobClaimResponse} (h : Unclaimed w)
    (he : ClaimEffect w (some (.ok response)) w') : Answered response w' := by
  rcases he with ⟨rfl, hs⟩ | ⟨⟨attempt, message, rfl⟩, rfl⟩
  · exact (stored_answered h hs).2
  · exact h.1

theorem claim_unclaimed {r : Option (Except CallError ReleaseJobClaimResponse)} (h : Unclaimed w)
    (he : ClaimEffect w r w') : Unclaimed w' := by
  have hlost : w' = w ∨ Stored w w' := by
    unfold ClaimEffect at he
    split at he
    · exact he.elim (fun hs => .inr hs.2) fun hw => .inl hw.2
    · exact he
  rcases hlost with rfl | hs
  · exact h
  · exact (stored_answered h hs).1

theorem recorded_atWork {report : ReleaseJobReport} (h : AtWork w) (hr : Recorded w report w') :
    AtWork w' := by
  obtain ⟨hrecord, message, rfl⟩ := hr
  obtain ⟨hattempt, hrunning⟩ : report.attempt = w.record.attempt ∧ w.record.status = .running := by
    unfold decideReleaseJobReport at hrecord
    split at hrecord
    · cases hrecord
    · split at hrecord
      · next ha hs => exact ⟨not_not.mp ha, hs⟩
      · split at hrecord <;> cases hrecord
  obtain ⟨hi, hl⟩ := h
  refine ⟨⟨?_, ?_, ?_, ?_, ?_, hi.leased⟩, hl⟩
  · intro n
    have hcount := hi.once n
    simpa using hcount
  · intro n hn
    obtain ⟨hjob, hlog⟩ := hi.future n hn
    exact ⟨hjob, by simpa using hlog⟩
  · intro n hn
    simpa using hi.unstarted n hn
  · intro late early middle m n failure hlog
    cases late with
    | nil => simp at hlog
    | cons mark late => exact hi.ordered late early middle m n failure (List.cons.inj hlog).2
  · intro late early n failure hlog
    refine ⟨?_, fun hs => by simp [storeReport] at hs, .inr ⟨report.outcome, rfl⟩⟩
    cases late with
    | nil =>
      obtain ⟨hmark, _⟩ := List.cons.inj hlog
      obtain ⟨rfl, _⟩ := Mark.recorded.inj hmark
      exact hattempt.le
    | cons mark late => exact (hi.failed late early n failure (List.cons.inj hlog).2).1

theorem report_atWork {report : ReleaseJobReport} {r : Option (Except CallError Unit)}
    (h : AtWork w) (he : ReportEffect w report r w') : AtWork w' := by
  have hlost : w' = w ∨ Recorded w report w' := by
    unfold ReportEffect at he
    split at he
    · exact he.elim .inr fun hw => .inl hw.2
    · exact he
  rcases hlost with rfl | hr
  · exact h
  · exact recorded_atWork h hr

theorem Phase.nameOf_inj {n m : ℕ} (h : p.nameOf n = p.nameOf m) : n = m :=
  buildReleaseJobContainerName_inj h

theorem makes_startable {n : ℕ} (h : Startable n w) (hm : Makes p w (p.nameOf n) w') :
    Startable n w' := by
  obtain ⟨m, hname, hjob, rfl⟩ := hm
  obtain rfl := Phase.nameOf_inj hname
  obtain ⟨⟨⟨hi, hl⟩, hrunning, hattempt⟩, hlog⟩ := h
  refine ⟨⟨⟨⟨hi.once, ?_, ?_, hi.ordered, hi.failed, hi.leased⟩, hl⟩, hrunning, hattempt⟩, hlog⟩
  · intro k hk
    have hne : k ≠ n := by simp only at hk; omega
    simpa [hne] using hi.future k hk
  · intro k hk
    by_cases hkn : k = n
    · exact hkn ▸ hlog
    · exact hi.unstarted k (by simpa [hkn] using hk)

theorem create_startable {n : ℕ} {r : Option (Except CallError String)} (h : Startable n w)
    (he : CreateEffect p w (p.nameOf n) r w') : Startable n w' := by
  have hlost : w' = w ∨ Makes p w (p.nameOf n) w' := by
    unfold CreateEffect at he
    split at he
    · exact he.elim .inr fun hw => .inl hw.2
    · exact he
  rcases hlost with rfl | hm
  · exact h
  · exact makes_startable h hm

theorem start_active {n : ℕ} (h : Startable n w) (hs : w' = w ∨ Starts p w (p.nameOf n) w') :
    Active n w' := by
  rcases hs with rfl | ⟨m, hname, hjob, rfl⟩
  · exact h.1
  obtain rfl := Phase.nameOf_inj hname
  obtain ⟨⟨⟨hi, hl⟩, hrunning, hattempt⟩, hlog⟩ := h
  refine ⟨⟨⟨?_, ?_, ?_, ?_, ?_, hi.leased⟩, hl⟩, hrunning, hattempt⟩
  · intro k
    by_cases hkn : n = k
    · subst hkn
      simp [List.count_eq_zero_of_not_mem hlog]
    · simpa [hkn] using hi.once k
  · intro k hk
    have hne : k ≠ n := by simp only at hk; omega
    simpa [hne] using hi.future k hk
  · intro k hk
    by_cases hkn : k = n
    · simp [hkn] at hk
    · simpa [hkn] using hi.unstarted k (by simpa [hkn] using hk)
  · intro late early middle m k failure hlog'
    cases late with
    | nil =>
      obtain ⟨hmark, htail⟩ := List.cons.inj hlog'
      obtain rfl : n = m := Mark.started.inj hmark
      obtain ⟨_, hlt, hor⟩ := hi.failed middle early k failure htail
      refine ⟨hor.resolve_right ?_, hattempt ▸ hlt hrunning⟩
      rintro ⟨outcome, he⟩
      simp [hrunning] at he
    | cons mark late => exact hi.ordered late early middle m k failure (List.cons.inj hlog').2
  · intro late early k failure hlog'
    cases late with
    | nil => simp at hlog'
    | cons mark late =>
      obtain ⟨hle, hlt, hor⟩ := hi.failed late early k failure (List.cons.inj hlog').2
      exact ⟨hle, hlt, hor.imp_left (List.mem_cons_of_mem _)⟩

def Steady : AgentCall → Prop
  | .request r => match r with
    | .claim _ _ | .report _ _ | .createContainer _ | .startContainer _ => False
    | _ => True
  | _ => True

def Calm : AgentCall → Prop
  | .request r => match r with
    | .claim _ _ | .createContainer _ | .startContainer _ => False
    | _ => True
  | _ => True

def Claiming : AgentCall → Prop
  | .request r => match r with
    | .report _ _ | .createContainer _ | .startContainer _ => False
    | _ => True
  | _ => True

theorem LooksOnly.calm {c : AgentCall} (h : LooksOnly c) : Calm c := by
  cases c with
  | request r => cases r <;> trivial
  | now => trivial
  | sleep ms => trivial

theorem FollowCall.calm {phase : ReleasePhase} {c : AgentCall} (h : FollowCall phase c) :
    Calm c := by
  cases c with
  | request r => cases r <;> trivial
  | now => trivial
  | sleep ms => trivial

theorem effect_steady {c : AgentCall} {r : Option c.Answer} (hc : Steady c)
    (he : effect p w c r w') : w' = w := by
  cases c with
  | request q => cases q <;> first | exact hc.elim | exact he | exact And.right he
  | now => exact he
  | sleep ms => exact he

theorem Steady.keeps {J : World → Prop}
    (hJ : ∀ {w w'}, Relation.ReflTransGen (Drift p) w w' → J w → J w') (w : World) (c : AgentCall)
    (r : Option c.Answer) (w' : World) (hc : Steady c) (hm : model p w c r w') (h : J w) :
    J w' := by
  obtain ⟨w₁, hd, he⟩ := hm
  rw [effect_steady hc he]
  exact hJ hd h

theorem Calm.keeps (w : World) (c : AgentCall) (r : Option c.Answer) (w' : World) (hc : Calm c)
    (hm : model p w c r w') (h : AtWork w) : AtWork w' := by
  by_cases hs : Steady c
  · exact Steady.keeps AtWork.drifts w c r w' hs hm h
  obtain ⟨w₁, hd, he⟩ := hm
  have h₁ := h.drifts hd
  cases c with
  | request q =>
    cases q with
    | report phase report =>
      simp only [effect] at he
      split at he
      · exact report_atWork h₁ he
      · rw [he]
        exact h₁
    | _ => first | exact hc.elim | exact absurd trivial hs
  | now => exact absurd trivial hs
  | sleep ms => exact absurd trivial hs

theorem Claiming.keeps (w : World) (c : AgentCall) (r : Option c.Answer) (w' : World)
    (hc : Claiming c) (hm : model p w c r w') (h : Unclaimed w) : Unclaimed w' := by
  by_cases hs : Steady c
  · exact Steady.keeps Unclaimed.drifts w c r w' hs hm h
  obtain ⟨w₁, hd, he⟩ := hm
  have h₁ := h.drifts hd
  cases c with
  | request q =>
    cases q with
    | claim phase jobs =>
      simp only [effect] at he
      split at he
      · exact claim_unclaimed h₁ he
      · rw [he]
        exact h₁
    | _ => first | exact hc.elim | exact absurd trivial hs
  | now => exact absurd trivial hs
  | sleep ms => exact absurd trivial hs

section

variable {σ : Type} {s : σ} {runner : ReleasePhaseRunner} {target : ReleaseJobTarget}
  {phaseRequest : ReleasePhaseRequest σ}

theorem steady_wp {α : Type} {m : AgentMethod σ α} {J : World → Prop} (hm : m.Uses Steady)
    (hJ : ∀ {w w'}, Relation.ReflTransGen (Drift p) w w' → J w → J w') (hJA : ∀ w, J w → AtWork w)
    (h : J w) : m.wp (model p) ⟨fun _ _ => J, fun _ _ => AtWork, AtWork⟩ s w :=
  wp_mono (hm.wp (Steady.keeps hJ) h) (fun _ _ _ hj => hj) (fun _ _ w hj => hJA w hj) hJA

theorem claimPhase_wp {jobs : List String} (h : Unclaimed w) :
    (claimPhase runner p.phase jobs : AgentMethod σ _).wp (model p)
      ⟨fun response _ => Answered response, fun _ _ => AtWork, AtWork⟩ s w := by
  have hclaim (s : σ) (w : World) (h : Unclaimed w) :
      (request (.claim p.phase jobs)).wp (model p)
        ⟨fun response _ => Answered response, fun _ _ => Unclaimed, Unclaimed⟩ s w := by
    refine (wp_request _).mpr ⟨?_, ?_, ?_⟩
    · intro w' hm
      exact Claiming.keeps _ (.request (.claim p.phase jobs)) _ _ trivial hm h
    · intro e w' hm
      exact Claiming.keeps _ (.request (.claim p.phase jobs)) _ _ trivial hm h
    · rintro response w' ⟨w₁, hd, he⟩
      simp only [effect, if_true] at he
      exact claim_answered (h.drifts hd) he
  refine wp_mono (callControlPlane_wp (J := Unclaimed) hclaim ?_ ?_ h) (fun _ _ _ ha => ha)
    (fun _ _ _ hu => hu.1) fun _ hu => hu.1
  · intro w r w' hm
    exact Claiming.keeps _ .now _ _ trivial hm
  · intro ms w r w' hm
    exact Claiming.keeps _ (.sleep ms) _ _ trivial hm

theorem start_wp {n : ℕ} (h : Startable n w) :
    (request (.startContainer (p.nameOf n)) : AgentMethod σ Unit).wp (model p)
      (Post.always AtWork) s w := by
  refine (wp_request _).mpr ⟨?_, ?_, ?_⟩
  · rintro w' ⟨w₁, hd, he⟩
    exact (start_active (h.drifts hd) he).1
  · rintro e w' ⟨w₁, hd, he⟩
    exact (start_active (h.drifts hd) he).1
  · rintro a w' ⟨w₁, hd, he⟩
    exact (start_active (h.drifts hd) he).1

theorem create_wp {n : ℕ} (h : Unmade n w) :
    (createJobContainer target phaseRequest (p.nameOf n) n).wp (model p)
      ⟨fun _ _ => Startable n, fun _ _ => AtWork, AtWork⟩ s w := by
  have hcreate (r : Option (Except CallError String)) (w' : World) (hm : model p w
      (.request (.createContainer (jobContainerSpec target phaseRequest (p.nameOf n) n))) r w') :
      Startable n w' := by
    obtain ⟨w₁, hd, he⟩ := hm
    exact create_startable (p := p) (w := w₁) (h.drifts hd).1 he
  refine wp_bind_of (R := fun _ _ => Startable n) ((wp_request _).mpr ⟨?_, ?_, ?_⟩)
    fun _ _ _ hs => hs
  · exact fun w' hm => (hcreate _ w' hm).1.1
  · exact fun e w' hm => (hcreate _ w' hm).1.1
  · exact fun id w' hm => hcreate _ w' hm

theorem startJob_wp {n : ℕ} (h : Unmade n w) :
    (startJob target phaseRequest (p.nameOf n) n).wp (model p) (Post.always AtWork) s w := by
  have hsettled : (removeSettledAttempts target phaseRequest.phase : AgentMethod σ Unit).Uses
      Steady := (removeSettledAttempts_framed target _ (fun _ => trivial) fun _ => trivial).uses
  refine wp_bind_of (R := fun _ _ => Unmade n)
    (steady_wp hsettled Unmade.drifts (fun _ hu => hu.1.1.1) h) fun _ s w h => ?_
  exact wp_bind_of (R := fun _ _ => Startable n) (create_wp h) fun _ s w h => start_wp h

theorem startAttempt_wp {name : String} {start : AgentMethod σ Unit}
    (h : start.wp (model p) (Post.always AtWork) s w) :
    (startAttempt name start).wp (model p) (Post.always AtWork) s w := by
  have hinspect : (request (.inspectContainer name) : AgentMethod σ _).Uses Calm :=
    uses_request trivial
  have hnow : (now : AgentMethod σ ℤ).Uses Calm := uses_now trivial
  refine wp_bind_of (R := fun _ _ => AtWork) ((wp_settle _).mpr h) fun started s w h => ?_
  cases started with
  | ok _ => exact (uses_bind hnow fun _ => uses_pure _).wp Calm.keeps h
  | error e =>
    refine (uses_bind (uses_settle hinspect) fun r => ?_).wp Calm.keeps h
    cases r with
    | error _ => exact uses_throw _
    | ok inspection =>
      dsimp only
      split
      · exact uses_pure _
      · split
        · exact uses_bind hnow fun _ => uses_pure _
        · exact uses_pure _

variable (hpolicy : ∀ resolve outcome, phaseRequest.resolveAppliedPolicy = some resolve →
  (resolve outcome).Uses LooksOnly)

include hpolicy

theorem calm_policy (resolve : ReleaseJobOutcome → AgentMethod σ (Option VerificationFailurePolicy))
    (outcome : ReleaseJobOutcome) (h : phaseRequest.resolveAppliedPolicy = some resolve) :
    (resolve outcome).Uses Calm := (hpolicy resolve outcome h).mono fun _ => LooksOnly.calm

theorem reportStart_calm (name : String) (attempt : ℕ) (start : AttemptStart) :
    (reportStart runner phaseRequest name attempt start).Uses Calm :=
  reportStart_uses (fun _ => FollowCall.calm) (calm_policy hpolicy) name attempt start

theorem runAttempt_wp {n : ℕ} (h : Unmade n w) :
    (runAttempt runner target phaseRequest (p.nameOf n) n).wp (model p) (Post.always AtWork) s w :=
  wp_bind_of (R := fun _ _ => AtWork) (startAttempt_wp (startJob_wp h)) fun start _ _ h =>
    (reportStart_calm hpolicy _ n start).wp Calm.keeps h

theorem resumeAttempt_wp {n : ℕ} (h : Active n w) :
    (resumeAttempt runner phaseRequest (p.nameOf n) n).wp (model p) (Post.always AtWork) s w := by
  have hexit (exit : JobExit) : (reportExit runner phaseRequest (p.nameOf n) n exit).Uses Calm :=
    reportExit_uses _ n exit (calm_policy hpolicy) trivial (fun _ => trivial) trivial
      fun _ => trivial
  have hawait (startedAtMs : ℤ) :
      (awaitAndReport runner phaseRequest (p.nameOf n) n startedAtMs).Uses Calm :=
    awaitAndReport_uses (fun _ => FollowCall.calm) (calm_policy hpolicy) _ n startedAtMs
  refine wp_bind_of (R := fun inspection _ w => Active n w ∧
    (observeContainer inspection = .created → Startable n w)) ((wp_request _).mpr ⟨?_, ?_, ?_⟩) ?_
  · exact fun w' hm => (Steady.keeps Active.drifts _ (.request (.inspectContainer _)) _ _ trivial hm h).1
  · exact fun e w' hm =>
      (Steady.keeps Active.drifts _ (.request (.inspectContainer _)) _ _ trivial hm h).1
  · rintro inspection w' ⟨w₁, hd, he⟩
    obtain ⟨htrue, rfl⟩ : Truthful p w₁ (p.nameOf n) (some (.ok inspection)) ∧ w' = w₁ := he
    have hactive := h.drifts hd
    refine ⟨hactive, fun hobs => ⟨hactive, ?_⟩⟩
    exact hactive.1.1.unstarted n ((htrue n inspection rfl rfl).2 hobs)
  intro inspection s w hseen
  obtain ⟨hactive, hstart⟩ := hseen
  cases hobs : observeContainer inspection with
  | created =>
    simp only [decideReleaseJobRecovery]
    exact wp_bind_of (R := fun _ _ => AtWork) (startAttempt_wp (start_wp (hstart hobs)))
      fun start s w h => (reportStart_calm hpolicy _ n start).wp Calm.keeps h
  | running =>
    simp only [decideReleaseJobRecovery]
    split
    · exact (hawait _).wp Calm.keeps hactive.1
    · exact (uses_bind (uses_now trivial) fun time => hawait time).wp Calm.keeps hactive.1
  | exited exitCode startedAt finishedAt =>
    simp only [decideReleaseJobRecovery]
    exact (hexit _).wp Calm.keeps hactive.1
  | missing =>
    simp only [decideReleaseJobRecovery]
    exact (hexit _).wp Calm.keeps hactive.1

omit hpolicy in
theorem settleAttempt_wp {name : String} {n : ℕ} {report : AgentMethod σ AttemptReport}
    (h : report.wp (model p) (Post.always AtWork) s w) :
    (settleAttempt target phaseRequest name n report).wp (model p) (Post.always AtWork) s w := by
  have hremove : (request (.removeContainer name true none) : AgentMethod σ Unit).Uses Calm :=
    uses_request trivial
  refine wp_bind_of (R := fun _ _ => AtWork) ((wp_tryCatch _ _).mpr
    (wp_mono h (fun _ _ _ h => h) (fun e s w h => ?_) fun _ h => h)) fun _ s w h => ?_
  · split
    · exact (uses_bind (uses_bind (uses_settle hremove) fun _ => uses_pure ())
        fun _ => uses_throw e).wp Calm.keeps h
    · exact h
  · exact (uses_bind (uses_settle hremove) fun _ => uses_pure _).wp Calm.keeps h

theorem act_wp (hp : (⟨target.serviceId, target.deploymentId, phaseRequest.phase⟩ : Phase) = p)
    {response : ReleaseJobClaimResponse} (h : Answered response w) :
    (act runner target phaseRequest response).wp (model p) (Post.always AtWork) s w := by
  have hsettled : (removeSettledAttempts target phaseRequest.phase : AgentMethod σ Unit).Uses
      Calm := (removeSettledAttempts_framed target _ (fun _ => trivial) fun _ => trivial).uses
  have hothers : (removeOtherDeploymentsExitedJobs target phaseRequest.phase :
      AgentMethod σ Unit).Uses Steady :=
    (removeOtherDeploymentsExitedJobs_framed target _ (fun _ => trivial) fun _ => trivial).uses
  subst hp
  cases response with
  | wait attempt message => exact h
  | skip attempt => exact (uses_bind hsettled fun _ => uses_pure _).wp Calm.keeps h
  | halt attempt status message =>
    exact (uses_bind hsettled fun _ => uses_pure _).wp Calm.keeps h
  | run n =>
    exact wp_bind_of (R := fun _ _ => Unmade n)
      (steady_wp hothers Unmade.drifts (fun _ hu => hu.1.1.1) h)
      fun _ s w h => settleAttempt_wp (runAttempt_wp hpolicy h)
  | resume n => exact settleAttempt_wp (resumeAttempt_wp hpolicy h)

theorem run_wp (hp : (⟨target.serviceId, target.deploymentId, phaseRequest.phase⟩ : Phase) = p)
    (h : Unclaimed w) :
    (run runner target phaseRequest).wp (model p) (Post.always AtWork) s w := by
  have himage : (prepareImage target : AgentMethod σ Unit).Uses Steady := by
    refine (prepareImage_framed target ?_).uses
    rintro r (rfl | rfl) <;> trivial
  have hjobs : (readRunningJobs target.serviceId target.deploymentId phaseRequest.phase :
      AgentMethod σ _).Uses Steady :=
    (readRunningJobs_framed _ _ _ trivial (fun _ => trivial) (fun _ => trivial)
      fun _ => trivial).uses
  have hphase : phaseRequest.phase = p.phase := by rw [← hp]
  refine wp_bind_of (R := fun _ _ => Unclaimed)
    (steady_wp himage Unclaimed.drifts (fun _ hu => hu.1) h) fun _ s w h => ?_
  refine wp_bind_of (R := fun _ _ => Unclaimed)
    (steady_wp hjobs Unclaimed.drifts (fun _ hu => hu.1) h) fun jobs s w h => ?_
  refine wp_bind_of (R := fun response _ => Answered response) ?_
    fun response s w h => act_wp hpolicy hp h
  rw [hphase]
  exact claimPhase_wp h

end

theorem heldBack_unclaimed {runner : ReleasePhaseRunner} (hh : HeldBack p runner w w')
    (h : Unclaimed w) : Unclaimed w' := by
  rcases hh with rfl | ⟨o, he⟩
  · exact h
  have huses : (deferWhileBlockingJobRuns runner p.serviceId p.deploymentId :
      AgentMethod Unit Unit).Uses Claiming :=
    deferWhileBlockingJobRuns_uses _ _ trivial (fun _ => trivial) (fun _ => trivial)
      (fun _ => trivial) (fun _ => trivial) fun _ => trivial
  exact always_exec (huses.wp Claiming.keeps h) he

theorem initial_inv (attempt : ℕ) : Inv (initial attempt) := by
  constructor <;> simp [initial]

theorem lease_unclaimed {leaseId : String} (h : Inv w) (hnew : leaseId ∉ w.leases) :
    Unclaimed { w with lease := leaseId, leases := leaseId :: w.leases } := by
  refine ⟨⟨⟨h.once, h.future, h.unstarted, h.ordered, h.failed, ?_⟩, List.mem_cons_self⟩, ?_⟩
  · exact fun l hl => List.mem_cons_of_mem _ (h.leased l hl)
  · exact fun _ hl => absurd (h.leased leaseId hl) hnew

theorem Reachable.inv (h : Reachable p w) : Inv w := by
  induction h with
  | initial attempt => exact initial_inv attempt
  | drift _ hd ih => exact drift_inv hd ih
  | lease _ leaseId hnew runner target phaseRequest htarget hpolicy hheld hrun ih =>
    have hclaim := heldBack_unclaimed hheld (lease_unclaimed ih hnew)
    exact (always_exec (run_wp hpolicy htarget hclaim) hrun).1

def World.leased (w : World) (leaseId : String) : World :=
  { w with lease := leaseId, leases := leaseId :: w.leases }

inductive RolloutRequest : {σ : Type} → ReleasePhaseRequest σ → Prop
  | preActivation {σ : Type} (command : String) (timeoutSeconds : ℕ) :
    RolloutRequest (preActivationRequest command timeoutSeconds : ReleasePhaseRequest σ)
  | app (r : AppRollout) (verification : VerificationJobConfig) :
    RolloutRequest (r.verificationRequest verification)
  | worker (job : VerificationJobConfig) : RolloutRequest (WorkerRelease.verificationRequest job)

theorem RolloutRequest.looks {phaseRequest : ReleasePhaseRequest σ}
    (h : RolloutRequest phaseRequest) (resolve : ReleaseJobOutcome →
      AgentMethod σ (Option VerificationFailurePolicy)) (outcome : ReleaseJobOutcome)
    (hr : phaseRequest.resolveAppliedPolicy = some resolve) : (resolve outcome).Uses LooksOnly := by
  cases h with
  | preActivation command timeoutSeconds => exact nomatch hr
  | app r verification =>
    obtain rfl := Option.some.inj hr
    apply AppRollout.resolveAppliedPolicy_uses
    intro name c hc
    cases c with
    | request r => cases r <;> trivial
    | now => trivial
    | sleep ms => trivial
  | worker job =>
    obtain rfl := Option.some.inj hr
    exact uses_pure _

theorem Reachable.rollout {phaseRequest : ReleasePhaseRequest σ} {s : σ}
    {o : Outcome (Except Failure ReleasePhaseResult × σ)} {w'' : World} (h : Reachable p w)
    (leaseId : String) (hnew : leaseId ∉ w.leases) (runner : ReleasePhaseRunner)
    (target : ReleaseJobTarget) (hrequest : RolloutRequest phaseRequest)
    (htarget : (⟨target.serviceId, target.deploymentId, phaseRequest.phase⟩ : Phase) = p)
    (hheld : HeldBack p runner (w.leased leaseId) w')
    (hrun : Program.Exec (model p) (run runner target phaseRequest s) w' o w'') :
    Reachable p w'' :=
  .lease h leaseId hnew runner target phaseRequest htarget hrequest.looks hheld hrun

def Phase.target (p : Phase) : ReleaseJobTarget :=
  { serviceId := p.serviceId, deploymentId := p.deploymentId, image := "image", pullImage := false
    networkName := "network", envVars := [], labels := []
    resourceSettings := ⟨0, 0, 0, 0⟩, redactLogLine := id }

def Phase.request (p : Phase) : ReleasePhaseRequest Unit :=
  { phase := p.phase, command := "migrate", timeoutSeconds := 60 }

def failedContainer : DockerContainerInspection :=
  ⟨"id", "job", none, none, some ⟨some false, some "exited", some 1, none, none, none, none⟩,
    none, none, none, none⟩

theorem model_claim {response : ReleaseJobClaimResponse} {jobs : List String}
    (h : (decideReleaseJobClaim w.record w.lease).response = response) :
    model p w (.request (.claim p.phase jobs)) (some (.ok response)) { w with
      record := storeClaim w.record w.lease none
        (decideReleaseJobClaim w.record w.lease).transition } := by
  refine ⟨w, .refl, ?_⟩
  simp only [effect, if_true]
  exact Or.inl ⟨h.symm, none, rfl⟩

theorem model_report {report : ReleaseJobReport}
    (h : decideReleaseJobReport w.record report.attempt report.outcome = .record) :
    model p w (.request (.report p.phase report)) (some (.ok ())) { w with
      record := storeReport w.record report.outcome none .record
      log := .recorded report.attempt report.outcome :: w.log } := by
  refine ⟨w, .refl, ?_⟩
  simp only [effect, if_true]
  exact Or.inl ⟨h, none, rfl⟩

theorem model_create {spec : DockerContainerSpec} {n : ℕ} (id : String)
    (hname : spec.name = p.nameOf n) (hjob : w.jobs n = .absent) :
    model p w (.request (.createContainer spec)) (some (.ok id))
      { w with jobs := Function.update w.jobs n .created } :=
  ⟨w, .refl, Or.inl ⟨n, hname, hjob, rfl⟩⟩

theorem model_start {n : ℕ} {r : Option (Except CallError Unit)} (hjob : w.jobs n = .created) :
    model p w (.request (.startContainer (p.nameOf n))) r
      { w with jobs := Function.update w.jobs n .running, log := .started n :: w.log } :=
  ⟨w, .refl, Or.inr ⟨n, rfl, .inl hjob, rfl⟩⟩

theorem Reachable.starts (h : Reachable p w) (leaseId : String) (n : ℕ) (hnew : leaseId ∉ w.leases)
    (hclaim : (decideReleaseJobClaim w.record leaseId).response = .run n)
    (hjob : w.jobs n = .absent) : Reachable p { w.leased leaseId with
      record := storeClaim w.record leaseId none (decideReleaseJobClaim w.record leaseId).transition
      jobs := Function.update (Function.update w.jobs n .created) n .running
      log := .started n :: w.log } := by
  refine .lease h leaseId hnew ⟨false, 1⟩ p.target p.request rfl (fun _ _ hr => nomatch hr)
    (.inl rfl) (s := ()) (o := .cut) ?_
  refine .call (r := .ok (some ⟨"image", none, none, none, none⟩)) ⟨_, .refl, rfl⟩ ?_
  refine .call (r := .ok []) ⟨_, .refl, rfl⟩ ?_
  refine .call (r := (0 : ℤ)) ⟨_, .refl, rfl⟩ ?_
  refine .call (model_claim hclaim) ?_
  refine .call (r := .ok []) ⟨_, .refl, rfl⟩ ?_
  refine .call (r := .ok []) ⟨_, .refl, rfl⟩ ?_
  refine .call (model_create "id" rfl hjob) ?_
  exact .lost (model_start (Function.update_self n _ _))

theorem Reachable.records (h : Reachable p w) (leaseId : String) (n : ℕ) (hnew : leaseId ∉ w.leases)
    (hclaim : decideReleaseJobClaim w.record leaseId = ⟨.resume n, none⟩)
    (hreport : decideReleaseJobReport w.record n .failed = .record) : Reachable p { w.leased leaseId with
      record := storeReport w.record .failed none .record
      log := .recorded n .failed :: w.log } := by
  refine .lease h leaseId hnew ⟨false, 1⟩ p.target p.request rfl (fun _ _ hr => nomatch hr)
    (.inl rfl) (s := ()) (o := .cut) ?_
  refine .call (r := .ok (some ⟨"image", none, none, none, none⟩)) ⟨_, .refl, rfl⟩ ?_
  refine .call (r := .ok []) ⟨_, .refl, rfl⟩ ?_
  refine .call (r := (0 : ℤ)) ⟨_, .refl, rfl⟩ ?_
  refine .call (model_claim (by rw [hclaim])) ?_
  rw [hclaim]
  refine .call (r := .ok (some failedContainer)) ⟨_, .refl, ?_, rfl⟩ ?_
  · intro m inspection hname hr
    obtain rfl := Phase.nameOf_inj hname
    obtain rfl : some failedContainer = inspection := by simpa using hr
    constructor <;> intro hobs <;> simp [observeContainer, failedContainer, DockerContainerInspection.running] at hobs
  refine .call (r := (0 : ℤ)) ⟨_, .refl, rfl⟩ ?_
  refine .call (r := (0 : ℤ)) ⟨_, .refl, rfl⟩ ?_
  refine .call (model_report hreport) ?_
  exact .lost ⟨_, .refl, rfl⟩

/-- Across all leases, crashes, lost replies and answers of operators, no attempt's command is
started twice, and after one failed none is started until an operator asks for a later one. -/
theorem release_jobs_start_once (h : Reachable p w) : (∀ n, w.log.count (.started n) ≤ 1) ∧
    ∀ late early middle m n failure,
      w.log = late ++ .started m :: (middle ++ .recorded n (.unsuccessful failure) :: early) →
        .retried ∈ middle ∧ n < m :=
  ⟨h.inv.once, h.inv.ordered⟩

theorem release_jobs_start_once_retried :
    ∃ w : World, w.log = [.started 2, .retried, .recorded 1 .failed, .started 1] ∧
      (∀ n, w.log.count (.started n) ≤ 1) ∧ ∀ late early middle m n failure,
        w.log = late ++ .started m :: (middle ++ .recorded n (.unsuccessful failure) :: early) →
          .retried ∈ middle ∧ n < m := by
  have h₀ := Reachable.initial (p := ⟨"service", "deployment", .preActivation⟩) 0
  have h₁ := h₀.starts "1" 1 (by decide) rfl rfl
  have h₂ := h₁.drift (.exits _ 1 rfl)
  have h₃ := h₂.records "2" 1 (by decide) rfl rfl
  have h₄ := h₃.drift (.retries _ none .pending rfl)
  have h₅ := h₄.starts "3" 2 (by decide) rfl rfl
  exact ⟨_, rfl, release_jobs_start_once h₅⟩

end NouvaAgent.ReleaseJobProtocol
