import Mathlib.Data.Int.Order.Basic
import NouvaAgent.WorkScheduler

namespace NouvaAgent.AgentUpdate

open WorkScheduler

variable {Config Work : Type}

def agentUpdateDrainTimeoutMs : ℤ := 10 * 60000

inductive Phase
  | draining (deadline : ℤ)
  | starting (interruptedAt : Option ℤ)
  | restarting (interruptedAt : Option ℤ)
  deriving DecidableEq

/-- An accepted update, with the time at which it was and the lease requests sent by then. -/
structure Update where
  startedAt : ℤ
  leasesBefore : ℕ
  phase : Phase

/-- The variables of `main` that work and updates depend on, the updates that have not come to their
end, and how many lease requests were sent before the agent was told to shut down. -/
structure Process (Config Work : Type) where
  workScheduler : State Config Work := {}
  agentUpdatePending : Bool := false
  isShuttingDown : Bool := false
  updates : List Update := []
  leasesBeforeShutdown : ℕ := 0

def isActive (s : State Config Work) : Bool := s.pollActive || decide (0 < s.activeWork.length)

namespace Process

variable (p : Process Config Work)

def poll (max : MaxConcurrency) : Process Config Work :=
  if p.isShuttingDown || p.agentUpdatePending then p
  else { p with workScheduler := p.workScheduler.trigger max }

def drain (deadline now : ℤ) : Phase :=
  if isActive p.workScheduler then
    if deadline ≤ now then .starting (some now) else .draining deadline
  else .starting none

def requestAgentUpdate (startedAt now : ℤ) : Process Config Work :=
  if p.agentUpdatePending then p
  else { p with
    agentUpdatePending := true
    updates := p.updates ++ [⟨startedAt, p.workScheduler.requests,
      p.drain (startedAt + agentUpdateDrainTimeoutMs) now⟩] }

def shutdown : Process Config Work :=
  if p.isShuttingDown then p
  else { p with isShuttingDown := true, leasesBeforeShutdown := p.workScheduler.requests }

end Process

variable (id : Work → String) (max : MaxConcurrency)

inductive Step : Process Config Work → Process Config Work → Prop
  | poll (p : Process Config Work) : Step p (p.poll max)
  /-- The scheduler goes on; only a poll has it ask for a lease. -/
  | work {p : Process Config Work} {s : State Config Work}
      (h : WorkScheduler.Step id max p.workScheduler s)
      (hasked : s.leases.length ≤ p.workScheduler.leases.length) :
      Step p { p with workScheduler := s }
  | request {p : Process Config Work} {item : Leased Work} (startedAt now : ℤ)
      (h : ⟨item, .running⟩ ∈ p.workScheduler.executions) :
      Step p (p.requestAgentUpdate startedAt now)
  | wake {p : Process Config Work} {before after : List Update} {startedAt deadline : ℤ}
      {leasesBefore : ℕ} (now : ℤ)
      (h : p.updates = before ++ ⟨startedAt, leasesBefore, .draining deadline⟩ :: after) :
      Step p { p with
        updates := before ++ ⟨startedAt, leasesBefore, p.drain deadline now⟩ :: after }
  | updaterStarted {p : Process Config Work} {before after : List Update} {startedAt : ℤ}
      {leasesBefore : ℕ} {interruptedAt : Option ℤ}
      (h : p.updates = before ++ ⟨startedAt, leasesBefore, .starting interruptedAt⟩ :: after) :
      Step p { p with
        updates := before ++ ⟨startedAt, leasesBefore, .restarting interruptedAt⟩ :: after }
  | updaterFailed {p : Process Config Work} {before after : List Update} {startedAt : ℤ}
      {leasesBefore : ℕ} {interruptedAt : Option ℤ}
      (h : p.updates = before ++ ⟨startedAt, leasesBefore, .starting interruptedAt⟩ :: after) :
      Step p { p with updates := before ++ after, agentUpdatePending := false }
  | resume {p : Process Config Work} {before after : List Update} {startedAt : ℤ}
      {leasesBefore : ℕ} {interruptedAt : Option ℤ}
      (h : p.updates = before ++ ⟨startedAt, leasesBefore, .restarting interruptedAt⟩ :: after) :
      Step p { p with updates := before ++ after, agentUpdatePending := false }
  | shutdown (p : Process Config Work) : Step p p.shutdown

inductive Reachable : Process Config Work → Prop
  | initial : Reachable {}
  | step {p p' : Process Config Work} (h : Reachable p) (hs : Step id max p p') : Reachable p'

def Idle (s : State Config Work) : Prop := s.leases = [] ∧ s.executions = []

def Phase.StartedBy (phase : Phase) (interruptedAt : Option ℤ) : Prop :=
  phase = .starting interruptedAt ∨ phase = .restarting interruptedAt

structure Update.Sound (u : Update) (p : Process Config Work) : Prop where
  unasked : p.workScheduler.requests = u.leasesBefore
  deadline : ∀ deadline, u.phase = .draining deadline →
    deadline = u.startedAt + agentUpdateDrainTimeoutMs
  undisturbed : u.phase.StartedBy none → Idle p.workScheduler
  late : ∀ time, u.phase.StartedBy (some time) →
    u.startedAt + agentUpdateDrainTimeoutMs ≤ time

structure Inv (p : Process Config Work) : Prop where
  scheduler : WorkScheduler.Inv id max p.workScheduler
  single : p.updates.length = if p.agentUpdatePending then 1 else 0
  sound : ∀ u ∈ p.updates, u.Sound p
  closed : p.isShuttingDown = true → p.workScheduler.requests = p.leasesBeforeShutdown

section

variable {id : Work → String} {max : MaxConcurrency} {p p' : Process Config Work}
  {s s' : State Config Work}

theorem idle_of_not_isActive (h : WorkScheduler.Inv id max s) (hactive : isActive s = false) :
    Idle s := by
  obtain ⟨hpoll, hwork⟩ := Bool.or_eq_false_iff.mp hactive
  have hsingle := h.single
  rw [hpoll, if_neg Bool.false_ne_true] at hsingle
  refine ⟨List.length_eq_zero_iff.mp hsingle, List.map_eq_nil_iff.mp (h.keys.symm.trans ?_)⟩
  exact List.length_eq_zero_iff.mp (Nat.eq_zero_of_not_pos (of_decide_eq_false hwork))

theorem Idle.step (h : Idle s) (hs : WorkScheduler.Step id max s s')
    (hasked : s'.leases.length ≤ s.leases.length) : Idle s' := by
  obtain ⟨hleases, hexecutions⟩ := h
  rw [hleases, List.length_nil, Nat.le_zero, List.length_eq_zero_iff] at hasked
  refine ⟨hasked, ?_⟩
  cases hs with
  | trigger =>
    unfold State.trigger
    split
    · exact hexecutions
    · dsimp only
      split <;> exact hexecutions
  | leaseRejected hr | leaseResolved _ _ hr =>
    rw [hleases] at hr
    cases hr
  | execute he | settle _ he | finish he =>
    rw [hexecutions] at he
    exact absurd he (by simp)

theorem trigger_requests (s : State Config Work) : (s.trigger max).requests =
    s.requests + ((s.trigger max).leases.length - s.leases.length) := by
  unfold State.trigger
  split
  · simp
  · dsimp only
    split
    · simp
    · simp

theorem requests_step (hs : WorkScheduler.Step id max s s')
    (hasked : s'.leases.length ≤ s.leases.length) : s'.requests = s.requests := by
  cases hs with
  | trigger => rw [trigger_requests, Nat.sub_eq_zero_of_le hasked, Nat.add_zero]
  | leaseRejected | execute | settle | finish => rfl
  | leaseResolved =>
    unfold State.leaseResolved
    dsimp only
    split <;> rfl

theorem drain_sound {startedAt : ℤ} {leasesBefore : ℕ} (h : WorkScheduler.Inv id max p.workScheduler)
    (hsent : p.workScheduler.requests = leasesBefore) (now : ℤ) :
    Update.Sound ⟨startedAt, leasesBefore,
      p.drain (startedAt + agentUpdateDrainTimeoutMs) now⟩ p := by
  unfold Process.drain
  cases hactive : isActive p.workScheduler with
  | false =>
    rw [if_neg Bool.false_ne_true]
    exact ⟨hsent, by simp, fun _ => idle_of_not_isActive h hactive, by simp [Phase.StartedBy]⟩
  | true =>
    rw [if_pos rfl]
    split
    · next hlate =>
      refine ⟨hsent, by simp, by simp [Phase.StartedBy], fun time htime => ?_⟩
      obtain rfl : now = time := by simpa [Phase.StartedBy] using htime
      exact hlate
    · exact ⟨hsent, fun deadline h => (Phase.draining.inj h).symm, by simp [Phase.StartedBy],
        by simp [Phase.StartedBy]⟩

theorem Inv.pending (h : Inv id max p) {before after : List Update} {u : Update}
    (hu : p.updates = before ++ u :: after) :
    before = [] ∧ after = [] ∧ p.agentUpdatePending = true := by
  have hsingle := h.single
  rw [hu, List.length_append, List.length_cons] at hsingle
  split at hsingle
  · next hpending =>
    exact ⟨List.length_eq_zero_iff.mp (by omega), List.length_eq_zero_iff.mp (by omega), hpending⟩
  · omega

theorem Inv.move (h : Inv id max p) {before after : List Update} {u u' : Update}
    (hu : p.updates = before ++ u :: after) (hsound : u'.Sound p) :
    Inv id max { p with updates := before ++ u' :: after } := by
  obtain ⟨rfl, rfl, hpending⟩ := h.pending hu
  refine ⟨h.scheduler, ?_, fun v hv => ?_, h.closed⟩
  · simp [hpending]
  · obtain rfl : v = u' := by simpa using hv
    exact ⟨hsound.unasked, hsound.deadline, hsound.undisturbed, hsound.late⟩

theorem Inv.finish (h : Inv id max p) {before after : List Update} {u : Update}
    (hu : p.updates = before ++ u :: after) :
    Inv id max { p with updates := before ++ after, agentUpdatePending := false } := by
  obtain ⟨rfl, rfl, -⟩ := h.pending hu
  exact ⟨h.scheduler, rfl, fun v hv => (List.not_mem_nil hv).elim, h.closed⟩

theorem Inv.poll (h : Inv id max p) : Inv id max (p.poll max) := by
  unfold Process.poll
  cases hshutting : p.isShuttingDown with
  | true => exact h
  | false =>
    cases hpending : p.agentUpdatePending with
    | true => exact h
    | false =>
      have hnone : p.updates = [] := by
        have hsingle := h.single
        rw [hpending, if_neg Bool.false_ne_true] at hsingle
        exact List.length_eq_zero_iff.mp hsingle
      refine ⟨h.scheduler.trigger, ?_, fun u hu => ?_, fun hclosed => ?_⟩
      · simpa [hpending] using h.single
      · rw [hnone] at hu
        exact (List.not_mem_nil hu).elim
      · exact absurd hclosed Bool.false_ne_true

theorem Inv.request (h : Inv id max p) (startedAt now : ℤ) :
    Inv id max (p.requestAgentUpdate startedAt now) := by
  unfold Process.requestAgentUpdate
  cases hpending : p.agentUpdatePending with
  | true => exact h
  | false =>
    have hsingle := h.single
    rw [hpending, if_neg Bool.false_ne_true] at hsingle
    have hnone := List.length_eq_zero_iff.mp hsingle
    refine ⟨h.scheduler, by simp [hnone], fun u hu => ?_, h.closed⟩
    obtain rfl := by simpa [hnone] using hu
    have hsound : Update.Sound ⟨startedAt, p.workScheduler.requests,
        p.drain (startedAt + agentUpdateDrainTimeoutMs) now⟩ p :=
      drain_sound h.scheduler rfl now
    exact ⟨hsound.unasked, hsound.deadline, hsound.undisturbed, hsound.late⟩

theorem Inv.step (h : Inv id max p) (hs : Step id max p p') : Inv id max p' := by
  cases hs with
  | poll => exact h.poll
  | work hs hasked =>
    have hsame := requests_step hs hasked
    refine ⟨h.scheduler.step hs, h.single, fun u hu => ?_, fun hclosed => hsame.trans (h.closed hclosed)⟩
    have hsound := h.sound u hu
    exact ⟨hsame.trans hsound.unasked, hsound.deadline, fun hstarted => (hsound.undisturbed hstarted).step hs hasked,
      hsound.late⟩
  | request startedAt now => exact h.request startedAt now
  | @wake before after startedAt deadline leasesBefore now hu =>
    have hsound := h.sound ⟨startedAt, leasesBefore, .draining deadline⟩ (by simp [hu])
    have hdeadline : deadline = startedAt + agentUpdateDrainTimeoutMs := hsound.deadline _ rfl
    rw [hdeadline]
    exact h.move hu (drain_sound h.scheduler hsound.unasked now)
  | @updaterStarted before after startedAt leasesBefore interruptedAt hu =>
    have hsound := h.sound ⟨startedAt, leasesBefore, .starting interruptedAt⟩ (by simp [hu])
    have hphase (time : Option ℤ) : Phase.StartedBy (.restarting interruptedAt) time →
        Phase.StartedBy (.starting interruptedAt) time := by simp [Phase.StartedBy]
    exact h.move hu ⟨hsound.unasked, by simp, fun hstarted => hsound.undisturbed (hphase _ hstarted),
      fun time hstarted => hsound.late time (hphase _ hstarted)⟩
  | updaterFailed hu => exact h.finish hu
  | resume hu => exact h.finish hu
  | shutdown =>
    unfold Process.shutdown
    split
    · exact h
    · refine ⟨h.scheduler, h.single, fun u hu => ?_, fun _ => rfl⟩
      have hsound := h.sound u hu
      exact ⟨hsound.unasked, hsound.deadline, hsound.undisturbed, hsound.late⟩

theorem Reachable.inv (h : Reachable id max p) : Inv id max p := by
  induction h with
  | initial =>
    exact ⟨WorkScheduler.Reachable.inv .initial, rfl, fun u hu => (List.not_mem_nil hu).elim,
      fun h => absurd h Bool.false_ne_true⟩
  | step _ hs ih => exact ih.step hs

end

/-- While an update is pending no lease is asked for, and all work in flight stems from leases asked
for before it was accepted. The updater is started when no work is in flight, and none is until it has
failed or work resumes, or else the drain has used up its time. -/
theorem agent_update_interrupts_nothing_new {p : Process Config Work} (h : Reachable id max p) :
    p.updates.length = (if p.agentUpdatePending then 1 else 0) ∧
      (∀ u ∈ p.updates, p.workScheduler.requests = u.leasesBefore ∧
        (∀ request ∈ p.workScheduler.leases, request.number < u.leasesBefore) ∧
        (∀ e ∈ p.workScheduler.executions, e.item.request < u.leasesBefore) ∧
        (u.phase.StartedBy none → Idle p.workScheduler) ∧
        ∀ time, u.phase.StartedBy (some time) →
          u.startedAt + agentUpdateDrainTimeoutMs ≤ time) ∧
      (p.isShuttingDown = true → p.workScheduler.requests = p.leasesBeforeShutdown) := by
  have hinv := h.inv
  refine ⟨hinv.single, fun u hu => ?_, hinv.closed⟩
  have hsound := hinv.sound u hu
  exact ⟨hsound.unasked, fun request hr => hsound.unasked ▸ hinv.scheduler.sent request hr,
    fun e he => hsound.unasked ▸ (hinv.scheduler.past e.item (hinv.scheduler.leased e he)).1,
    hsound.undisturbed, hsound.late⟩

def updateItem : Leased String := ⟨0, 0, "update"⟩

def updateWork (stage : Stage) : State Unit String where
  activeWork := ["update"]
  config := some ()
  requests := 1
  executions := [⟨updateItem, stage⟩]
  answers := [⟨⟨0, 2, []⟩, [updateItem]⟩]
  executed := if stage = .scheduled then [] else [updateItem]

def accepted (stage : Stage) : Process Unit String :=
  { workScheduler := updateWork stage, agentUpdatePending := true
    updates := [⟨0, 1, .draining agentUpdateDrainTimeoutMs⟩] }

def finished : Process Unit String :=
  { accepted .settled with
    workScheduler := { updateWork .settled with executions := [], activeWork := [] } }

def drained : Process Unit String := { finished with updates := [⟨0, 1, .starting none⟩] }

theorem drained_reachable : Reachable (fun work => work) maxTwo drained := by
  have hasked : { asked.leaseResolved (fun work => work) ⟨0, 2, []⟩ () [updateItem] with
      answers := [⟨⟨0, 2, []⟩, [updateItem]⟩] } = updateWork .scheduled := by
    simp [asked, State.trigger, State.leaseResolved, review, launch, maxTwo, updateWork, updateItem]
  have hleases : asked.leases = [⟨0, 2, []⟩] := by simp [asked, State.trigger, maxTwo]
  have hstage (stage : Stage) : (updateWork stage).executions = [] ++ ⟨updateItem, stage⟩ :: [] := rfl
  have hpolled : Reachable (fun work => work) maxTwo
      { workScheduler := asked } := .step .initial (.poll {})
  have hscheduled : Reachable (fun work => work) maxTwo
      { workScheduler := updateWork .scheduled } := by
    refine .step hpolled (.work (hasked ▸ .leaseResolved () ["update"] ?_) ?_)
    · rw [hleases]
      exact List.mem_cons_self
    · rw [hleases]
      exact Nat.zero_le 1
  have hrunning : Reachable (fun work => work) maxTwo
      { workScheduler := updateWork .running } :=
    .step hscheduled (.work (.execute (hstage .scheduled)) le_rfl)
  have hmem : ⟨updateItem, .running⟩ ∈ (updateWork .running).executions := List.mem_cons_self
  have haccepted : Reachable (fun work => work) maxTwo (accepted .running) :=
    .step hrunning (.request 0 0 hmem)
  have hsettled : Reachable (fun work => work) maxTwo (accepted .settled) :=
    .step haccepted (.work (.settle false (hstage .running)) le_rfl)
  have hfinished : Reachable (fun work => work) maxTwo finished :=
    .step hsettled (.work (.finish (hstage .settled)) le_rfl)
  have hdraining : finished.updates =
      [] ++ ⟨0, 1, .draining agentUpdateDrainTimeoutMs⟩ :: [] := rfl
  exact .step hfinished (.wake 1000 hdraining)

theorem agent_update_interrupts_nothing_new_drained : Idle drained.workScheduler :=
  ((agent_update_interrupts_nothing_new _ _ drained_reachable).2.1
    ⟨0, 1, .starting none⟩ List.mem_cons_self).2.2.2.1 (.inl rfl)

end NouvaAgent.AgentUpdate
