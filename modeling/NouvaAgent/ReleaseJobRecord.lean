import NouvaAgent.ReleasePhases

namespace NouvaAgent.ReleaseJobRecord

inductive Operation
  | claim (leaseId : String) (message : Option String)
  | report (attempt : ℕ) (outcome : ReleaseJobOutcome) (message : Option String)
  | resolve (resolution : ReleaseJobResolution) (message : Option String)
  deriving DecidableEq, Repr

inductive Answer
  | claim (response : ReleaseJobClaimResponse)
  | report (decision : ReleaseJobReportDecision)
  | resolve (decision : ReleaseJobResolutionDecision)
  deriving DecidableEq, Repr

def storeClaim (record : ReleaseJobRecordState) (leaseId : String) (message : Option String) :
    Option ReleaseJobClaimTransition → ReleaseJobRecordState
  | none => record
  | some transition => ⟨.running, transition.attempt, message, some leaseId⟩

def storeReport (record : ReleaseJobRecordState) (outcome : ReleaseJobOutcome)
    (message : Option String) : ReleaseJobReportDecision → ReleaseJobRecordState
  | .record => { record with status := .ended outcome, statusMessage := message }
  | _ => record

def storeResolution (record : ReleaseJobRecordState) (message : Option String) :
    ReleaseJobResolutionDecision → ReleaseJobRecordState
  | .ok status => { record with status := status, statusMessage := message }
  | .refused _ => record

def step (phase : ReleasePhase) (record : ReleaseJobRecordState) :
    Operation → Answer × ReleaseJobRecordState
  | .claim leaseId message =>
    let decision := decideReleaseJobClaim record leaseId
    (.claim decision.response, storeClaim record leaseId message decision.transition)
  | .report attempt outcome message =>
    let decision := decideReleaseJobReport record attempt outcome
    (.report decision, storeReport record outcome message decision)
  | .resolve resolution message =>
    let decision := decideReleaseJobResolution phase record.status resolution
    (.resolve decision, storeResolution record message decision)

structure Entry where
  before : ReleaseJobRecordState
  operation : Operation
  answer : Answer
  after : ReleaseJobRecordState

def history (phase : ReleasePhase) (record : ReleaseJobRecordState) : List Operation → List Entry
  | [] => []
  | operation :: operations =>
    let (answer, after) := step phase record operation
    ⟨record, operation, answer, after⟩ :: history phase after operations

def final (phase : ReleasePhase) (record : ReleaseJobRecordState) (operations : List Operation) :
    ReleaseJobRecordState :=
  operations.foldl (fun record operation => (step phase record operation).2) record

def Entry.Runs (entry : Entry) (leaseId : String) (attempt : ℕ) : Prop :=
  (∃ message, entry.operation = .claim leaseId message) ∧ entry.answer = .claim (.run attempt)

def HeldBy (leaseId : String) (attempt : ℕ) (record : ReleaseJobRecordState) : Prop :=
  attempt < record.attempt ∨ (record.attempt = attempt ∧ record.claimedLeaseId = some leaseId)

def Holds (attempt : ℕ) (outcome : ReleaseJobOutcome) (record : ReleaseJobRecordState) : Prop :=
  record.attempt = attempt ∧ record.status = .ended outcome

def Settled (attempt : ℕ) (record : ReleaseJobRecordState) : Prop :=
  attempt < record.attempt ∨ (record.attempt = attempt ∧ record.status ≠ .running)

variable {phase : ReleasePhase} {record : ReleaseJobRecordState}

theorem claim_cases (phase : ReleasePhase) (record : ReleaseJobRecordState) (leaseId : String) (message : Option String) :
    (record.status = .pending ∧ step phase record (.claim leaseId message) =
      (.claim (.run (record.attempt + 1)), ⟨.running, record.attempt + 1, message, some leaseId⟩)) ∨
    (record.status = .running ∧ record.claimedLeaseId = some leaseId ∧
      step phase record (.claim leaseId message) = (.claim (.run record.attempt), record)) ∨
    (record.status = .running ∧ record.claimedLeaseId ≠ some leaseId ∧
      step phase record (.claim leaseId message) = (.claim (.resume record.attempt), record)) ∨
    (record.status = .ended .succeeded ∧
      step phase record (.claim leaseId message) = (.claim (.skip record.attempt), record)) ∨
    (∃ failure text, record.status = .ended (.unsuccessful failure) ∧
      step phase record (.claim leaseId message) =
        (.claim (.halt record.attempt failure text), record)) := by
  obtain ⟨status, attempt, statusMessage, claimed⟩ := record
  rcases status with _ | _ | ⟨_ | failure⟩
  · exact .inl ⟨rfl, rfl⟩
  · by_cases h : claimed = some leaseId
    · exact .inr (.inl ⟨rfl, h, by simp [step, decideReleaseJobClaim, storeClaim, h]⟩)
    · exact .inr (.inr (.inl ⟨rfl, h, by simp [step, decideReleaseJobClaim, storeClaim, h]⟩))
  · exact .inr (.inr (.inr (.inl ⟨rfl, rfl⟩)))
  · exact .inr (.inr (.inr (.inr ⟨failure, _, rfl, rfl⟩)))

theorem report_cases (phase : ReleasePhase) (record : ReleaseJobRecordState) (attempt : ℕ) (outcome : ReleaseJobOutcome)
    (message : Option String) :
    (attempt = record.attempt ∧ record.status = .running ∧
      step phase record (.report attempt outcome message) =
        (.report .record, { record with status := .ended outcome, statusMessage := message })) ∨
    (attempt = record.attempt ∧ record.status = .ended outcome ∧
      step phase record (.report attempt outcome message) = (.report .duplicate, record)) ∨
    (∃ text, (attempt ≠ record.attempt ∨
        (record.status ≠ .running ∧ record.status ≠ .ended outcome)) ∧
      step phase record (.report attempt outcome message) = (.report (.reject text), record)) := by
  have rejected (text : String)
      (h : decideReleaseJobReport record attempt outcome = .reject text) :
      step phase record (.report attempt outcome message) = (.report (.reject text), record) := by
    simp only [step, h, storeReport]
  by_cases hattempt : attempt = record.attempt
  · by_cases hrunning : record.status = .running
    · exact .inl ⟨hattempt, hrunning,
        by simp [step, decideReleaseJobReport, storeReport, hattempt, hrunning]⟩
    · by_cases hended : record.status = .ended outcome
      · exact .inr (.inl ⟨hattempt, hended,
          by simp [step, decideReleaseJobReport, storeReport, hattempt, hended]⟩)
      · exact .inr (.inr ⟨_, .inr ⟨hrunning, hended⟩, rejected _
          (by rw [decideReleaseJobReport, if_neg (not_not.mpr hattempt), if_neg hrunning,
            if_neg hended])⟩)
  · exact .inr (.inr ⟨_, .inl hattempt, rejected _ (if_pos hattempt)⟩)

theorem resolve_cases (phase : ReleasePhase) (record : ReleaseJobRecordState) (resolution : ReleaseJobResolution)
    (message : Option String) :
    (∃ failure status, record.status = .ended (.unsuccessful failure) ∧
      (status = .pending ∨ status = .ended .succeeded) ∧
      step phase record (.resolve resolution message) =
        (.resolve (.ok status), { record with status := status, statusMessage := message })) ∨
    (∃ text, step phase record (.resolve resolution message) =
      (.resolve (.refused text), record)) := by
  obtain ⟨status, attempt, statusMessage, claimed⟩ := record
  cases phase with
  | verification => exact .inr ⟨_, rfl⟩
  | preActivation =>
    rcases status with _ | _ | ⟨_ | _ | _ | _⟩ <;> cases resolution
    all_goals first
      | exact .inr ⟨_, rfl⟩
      | exact .inl ⟨_, _, rfl, .inl rfl, rfl⟩
      | exact .inl ⟨_, _, rfl, .inr rfl, rfl⟩

theorem step_attempt_le (operation : Operation) :
    record.attempt ≤ (step phase record operation).2.attempt := by
  cases operation with
  | claim leaseId message =>
    rcases claim_cases phase record leaseId message with
      ⟨_, h⟩ | ⟨_, _, h⟩ | ⟨_, _, h⟩ | ⟨_, h⟩ | ⟨_, _, _, h⟩ <;> simp [h]
  | report attempt outcome message =>
    rcases report_cases phase record attempt outcome message with ⟨_, _, h⟩ | ⟨_, _, h⟩ | ⟨_, _, h⟩ <;>
      simp [h]
  | resolve resolution message =>
    rcases resolve_cases phase record resolution message with ⟨_, _, _, _, h⟩ | ⟨_, h⟩ <;> simp [h]

theorem step_heldBy {leaseId : String} {attempt : ℕ} (operation : Operation)
    (held : HeldBy leaseId attempt record) :
    HeldBy leaseId attempt (step phase record operation).2 := by
  cases operation with
  | claim other message =>
    rcases claim_cases phase record other message with
      ⟨_, h⟩ | ⟨_, _, h⟩ | ⟨_, _, h⟩ | ⟨_, h⟩ | ⟨_, _, _, h⟩ <;> rw [h]
    case inl =>
      left
      rcases held with hlt | ⟨heq, _⟩ <;> simp only <;> omega
    all_goals exact held
  | report _ outcome message =>
    rcases report_cases phase record _ outcome message with ⟨_, _, h⟩ | ⟨_, _, h⟩ | ⟨_, _, h⟩ <;>
      rw [h] <;> exact held
  | resolve resolution message =>
    rcases resolve_cases phase record resolution message with ⟨_, _, _, _, h⟩ | ⟨_, h⟩ <;>
      rw [h] <;> exact held

theorem step_settled {attempt : ℕ} (operation : Operation) (settled : Settled attempt record) :
    Settled attempt (step phase record operation).2 := by
  cases operation with
  | claim other message =>
    rcases claim_cases phase record other message with
      ⟨_, h⟩ | ⟨_, _, h⟩ | ⟨_, _, h⟩ | ⟨_, h⟩ | ⟨_, _, _, h⟩ <;> rw [h]
    case inl =>
      left
      rcases settled with hlt | ⟨heq, _⟩ <;> simp only <;> omega
    all_goals exact settled
  | report _ outcome message =>
    rcases report_cases phase record _ outcome message with ⟨_, _, h⟩ | ⟨_, _, h⟩ | ⟨_, _, h⟩ <;> rw [h]
    case inl => exact settled.imp_right fun hs => ⟨hs.1, by simp⟩
    all_goals exact settled
  | resolve resolution message =>
    rcases resolve_cases phase record resolution message with
      ⟨_, status, _, hstatus, h⟩ | ⟨_, h⟩ <;> rw [h]
    · refine settled.imp_right fun hs => ⟨hs.1, ?_⟩
      rcases hstatus with rfl | rfl <;> simp
    · exact settled

theorem step_succeeded (operation : Operation) (h : record.status = .ended .succeeded) :
    (step phase record operation).2 = record := by
  cases operation with
  | claim leaseId message =>
    rcases claim_cases phase record leaseId message with
      ⟨hs, _⟩ | ⟨_, _, e⟩ | ⟨_, _, e⟩ | ⟨_, e⟩ | ⟨_, _, _, e⟩
    case inl => simp [h] at hs
    all_goals simp [e]
  | report attempt outcome message =>
    rcases report_cases phase record attempt outcome message with ⟨_, hs, _⟩ | ⟨_, _, e⟩ | ⟨_, _, e⟩
    case inl => simp [h] at hs
    all_goals simp [e]
  | resolve resolution message =>
    rcases resolve_cases phase record resolution message with ⟨_, _, hs, _, _⟩ | ⟨_, e⟩
    · simp [h] at hs
    · simp [e]

theorem run_heldBy {leaseId : String} {message : Option String} {attempt : ℕ}
    (h : (step phase record (.claim leaseId message)).1 = .claim (.run attempt)) :
    HeldBy leaseId attempt (step phase record (.claim leaseId message)).2 := by
  rcases claim_cases phase record leaseId message with
    ⟨_, e⟩ | ⟨_, hc, e⟩ | ⟨_, _, e⟩ | ⟨_, e⟩ | ⟨_, _, _, e⟩ <;> rw [e] at h ⊢ <;>
    simp only [Answer.claim.injEq, ReleaseJobClaimResponse.run.injEq, reduceCtorEq] at h
  · exact .inr ⟨h, rfl⟩
  · exact .inr ⟨h, hc⟩

theorem run_of_heldBy {leaseId other : String} {message : Option String} {attempt : ℕ}
    (held : HeldBy leaseId attempt record)
    (h : (step phase record (.claim other message)).1 = .claim (.run attempt)) :
    other = leaseId := by
  rcases claim_cases phase record other message with
    ⟨_, e⟩ | ⟨_, hc, e⟩ | ⟨_, _, e⟩ | ⟨_, e⟩ | ⟨_, _, _, e⟩ <;> rw [e] at h <;>
    simp only [Answer.claim.injEq, ReleaseJobClaimResponse.run.injEq, reduceCtorEq] at h
  · rcases held with hlt | ⟨heq, _⟩ <;> omega
  · rcases held with hlt | ⟨_, hl⟩
    · omega
    · simpa [hc] using hl

theorem step_holds {attempt : ℕ} {outcome : ReleaseJobOutcome} (operation : Operation)
    (h : Holds attempt outcome record) :
    (∃ status, (step phase record operation).1 = .resolve (.ok status)) ∨
      Holds attempt outcome (step phase record operation).2 := by
  cases operation with
  | claim leaseId message =>
    right
    rcases claim_cases phase record leaseId message with
      ⟨hs, _⟩ | ⟨_, _, e⟩ | ⟨_, _, e⟩ | ⟨_, e⟩ | ⟨_, _, _, e⟩
    case inl => simp [h.2] at hs
    all_goals rwa [e]
  | report attempt outcome message =>
    right
    rcases report_cases phase record attempt outcome message with
      ⟨_, hs, _⟩ | ⟨_, _, e⟩ | ⟨_, _, e⟩
    case inl => simp [h.2] at hs
    all_goals rwa [e]
  | resolve resolution message =>
    rcases resolve_cases phase record resolution message with ⟨_, status, _, _, e⟩ | ⟨_, e⟩
    · exact .inl ⟨status, by rw [e]⟩
    · exact .inr (by rwa [e])

theorem report_settled {attempt : ℕ} (outcome : ReleaseJobOutcome) (message : Option String)
    (h : Settled attempt record) :
    (step phase record (.report attempt outcome message)).2 = record := by
  rcases report_cases phase record attempt outcome message with ⟨ha, hs, _⟩ | ⟨_, _, e⟩ | ⟨_, _, e⟩
  · rcases h with hlt | ⟨_, hne⟩
    · omega
    · exact absurd hs hne
  · rw [e]
  · rw [e]

theorem report_holds {attempt : ℕ} {outcome : ReleaseJobOutcome} (message : Option String)
    (h : Holds attempt outcome record) :
    step phase record (.report attempt outcome message) = (.report .duplicate, record) := by
  rcases report_cases phase record attempt outcome message with ⟨_, hs, _⟩ | ⟨_, _, e⟩ | ⟨_, hne, _⟩
  · simp [h.2] at hs
  · exact e
  · rcases hne with hne | ⟨_, hne⟩
    · exact absurd h.1.symm hne
    · exact absurd h.2 hne

variable {operations : List Operation} {entry : Entry}

theorem history_cons (operation : Operation) (operations : List Operation) :
    history phase record (operation :: operations) =
      ⟨record, operation, (step phase record operation).1, (step phase record operation).2⟩ ::
        history phase (step phase record operation).2 operations := rfl

theorem history_step (h : entry ∈ history phase record operations) :
    (entry.answer, entry.after) = step phase entry.before entry.operation := by
  induction operations generalizing record with
  | nil => cases h
  | cons operation operations ih =>
    rw [history_cons, List.mem_cons] at h
    rcases h with rfl | h
    · rfl
    · exact ih h

theorem history_invariant {P : ReleaseJobRecordState → Prop}
    (keep : ∀ record operation, P record → P (step phase record operation).2) (h : P record)
    (hmem : entry ∈ history phase record operations) : P entry.before ∧ P entry.after := by
  induction operations generalizing record with
  | nil => cases hmem
  | cons operation operations ih =>
    rw [history_cons, List.mem_cons] at hmem
    rcases hmem with rfl | hmem
    · exact ⟨h, keep _ _ h⟩
    · exact ih (keep _ _ h) hmem

theorem history_suffix {early late : List Entry}
    (h : history phase record operations = early ++ entry :: late) :
    ∃ rest, late = history phase entry.after rest ∧
      final phase record operations = final phase entry.after rest := by
  induction operations generalizing record early with
  | nil => simp [history] at h
  | cons operation operations ih =>
    rw [history_cons] at h
    cases early with
    | nil =>
      obtain ⟨rfl, rfl⟩ := List.cons.inj h
      exact ⟨operations, rfl, rfl⟩
    | cons first early => exact ih (List.cons.inj h).2

theorem final_append (operations more : List Operation) :
    final phase record (operations ++ more) = final phase (final phase record operations) more :=
  List.foldl_append

theorem final_invariant {P : ReleaseJobRecordState → Prop}
    (keep : ∀ record operation, P record → P (step phase record operation).2) (h : P record)
    (operations : List Operation) : P (final phase record operations) := by
  induction operations generalizing record with
  | nil => exact h
  | cons operation operations ih => exact ih (keep _ _ h)

theorem final_attempt_le (operations : List Operation) :
    record.attempt ≤ (final phase record operations).attempt := by
  induction operations generalizing record with
  | nil => exact le_refl _
  | cons operation operations ih => exact (step_attempt_le operation).trans ih

theorem final_succeeded (operations : List Operation) (h : record.status = .ended .succeeded) :
    final phase record operations = record := by
  induction operations with
  | nil => rfl
  | cons operation operations ih =>
    change final phase (step phase record operation).2 operations = record
    rw [step_succeeded operation h, ih]

theorem runs_heldBy {leaseId : String} {attempt : ℕ} (h : entry.Runs leaseId attempt)
    (hmem : entry ∈ history phase record operations) : HeldBy leaseId attempt entry.after := by
  obtain ⟨⟨message, hop⟩, hanswer⟩ := h
  have he := history_step hmem
  rw [hop] at he
  rw [show entry.after = (step phase entry.before (.claim leaseId message)).2 from
    congrArg Prod.snd he]
  exact run_heldBy ((congrArg Prod.fst he).symm.trans hanswer)

theorem runs_of_heldBy {leaseId other : String} {attempt : ℕ} (held : HeldBy leaseId attempt record)
    (h : entry.Runs other attempt) (hmem : entry ∈ history phase record operations) :
    other = leaseId := by
  obtain ⟨⟨message, hop⟩, hanswer⟩ := h
  have he := history_step hmem
  rw [hop] at he
  exact run_of_heldBy (history_invariant (fun _ op => step_heldBy op) held hmem).1
    ((congrArg Prod.fst he).symm.trans hanswer)

theorem runs_unique {l₁ l₂ : String} {attempt : ℕ} {e₁ e₂ : Entry}
    (h₁ : e₁ ∈ history phase record operations) (h₂ : e₂ ∈ history phase record operations)
    (hr₁ : e₁.Runs l₁ attempt) (hr₂ : e₂.Runs l₂ attempt) : l₁ = l₂ := by
  induction operations generalizing record with
  | nil => cases h₁
  | cons operation operations ih =>
    have head (entry : Entry) (leaseId : String) (hr : entry.Runs leaseId attempt)
        (hentry : entry = ⟨record, operation, (step phase record operation).1,
          (step phase record operation).2⟩) :
        HeldBy leaseId attempt (step phase record operation).2 := by
      have hmem : entry ∈ history phase record [operation] := by
        rw [history_cons, hentry]
        simp
      have held := runs_heldBy hr hmem
      rwa [hentry] at held
    have both : e₁ ∈ history phase record (operation :: operations) ∧
        e₂ ∈ history phase record (operation :: operations) := ⟨h₁, h₂⟩
    rw [history_cons, List.mem_cons, List.mem_cons] at both
    rcases both with ⟨he₁ | h₁', he₂ | h₂'⟩
    · obtain ⟨⟨m₁, hop₁⟩, _⟩ := hr₁
      obtain ⟨⟨m₂, hop₂⟩, _⟩ := hr₂
      rw [he₁] at hop₁
      rw [he₂] at hop₂
      exact (Operation.claim.inj (hop₁.symm.trans hop₂)).1
    · exact (runs_of_heldBy (head e₁ l₁ hr₁ he₁) hr₂ h₂').symm
    · exact runs_of_heldBy (head e₂ l₂ hr₂ he₂) hr₁ h₁'
    · exact ih h₁' h₂'

def Entry.Records (entry : Entry) (attempt : ℕ) (outcome : ReleaseJobOutcome) : Prop :=
  (∃ message, entry.operation = .report attempt outcome message) ∧ entry.answer = .report .record

def Entry.Resolves (entry : Entry) : Prop := ∃ status, entry.answer = .resolve (.ok status)

theorem records_holds {attempt : ℕ} {outcome : ReleaseJobOutcome}
    (h : entry.Records attempt outcome) (hmem : entry ∈ history phase record operations) :
    Holds attempt outcome entry.after := by
  obtain ⟨⟨message, hop⟩, hanswer⟩ := h
  have he := history_step hmem
  rw [hop] at he
  rcases report_cases phase entry.before attempt outcome message with
    ⟨ha, _, e⟩ | ⟨_, _, e⟩ | ⟨_, _, e⟩ <;> rw [e] at he <;>
    simp only [Prod.mk.injEq, hanswer, Answer.report.injEq, reduceCtorEq, false_and, true_and] at he
  rw [he]
  exact ⟨ha.symm, rfl⟩

theorem Holds.settled {attempt : ℕ} {outcome : ReleaseJobOutcome} (h : Holds attempt outcome record) :
    Settled attempt record := .inr ⟨h.1, by simp [h.2]⟩

theorem final_holds {attempt : ℕ} {outcome : ReleaseJobOutcome} (h : Holds attempt outcome record)
    (hres : ∀ e ∈ history phase record operations, ¬ e.Resolves) :
    Holds attempt outcome (final phase record operations) := by
  induction operations generalizing record with
  | nil => exact h
  | cons operation operations ih =>
    rw [history_cons, List.forall_mem_cons] at hres
    rcases step_holds operation h with hr | hh
    · exact absurd hr hres.1
    · exact ih hh hres.2

/-- Six guarantees of a stored record, at every point of every run: attempts only go up; one lease
runs an attempt and the others resume it; reports never overwrite an outcome; success is final; a
repeated report is a duplicate that writes nothing; a report for another attempt is rejected. -/
theorem record_invariants (phase : ReleasePhase) (start : ReleaseJobRecordState)
    (operations : List Operation) :
    let entries := history phase start operations
    let record := final phase start operations
    (∀ more, record.attempt ≤ (final phase start (operations ++ more)).attempt) ∧
    (∀ l₁ l₂ attempt, ∀ e₁ ∈ entries, ∀ e₂ ∈ entries,
      e₁.Runs l₁ attempt → e₂.Runs l₂ attempt → l₁ = l₂) ∧
    (∀ leaseId message, record.status = .running →
      (step phase record (.claim leaseId message) = (.claim (.run record.attempt), record) ∨
        step phase record (.claim leaseId message) = (.claim (.resume record.attempt), record)) ∧
      ∀ other ≠ leaseId, (∃ e ∈ entries, e.Runs other record.attempt) →
        step phase record (.claim leaseId message) = (.claim (.resume record.attempt), record)) ∧
    (∀ recorded attempt outcome message, record.status = .ended recorded →
      (step phase record (.report attempt outcome message)).2 = record) ∧
    (record.status = .ended .succeeded →
      ∀ more, final phase start (operations ++ more) = record) ∧
    (∀ attempt outcome message, Holds attempt outcome record →
      step phase record (.report attempt outcome message) = (.report .duplicate, record)) ∧
    (∀ early e late attempt outcome message, entries = early ++ e :: late →
      e.Records attempt outcome →
      (step phase record (.report attempt outcome message)).2 = record ∧
      ((∀ later ∈ late, ¬ later.Resolves) →
        step phase record (.report attempt outcome message) = (.report .duplicate, record))) ∧
    (∀ attempt outcome message, attempt ≠ record.attempt →
      ∃ text, step phase record (.report attempt outcome message) =
        (.report (.reject text), record)) := by
  intro entries record
  refine ⟨?_, ?_, ?_, ?_, ?_, ?_, ?_, ?_⟩
  · intro more
    rw [final_append]
    exact final_attempt_le more
  · intro l₁ l₂ attempt e₁ h₁ e₂ h₂ hr₁ hr₂
    exact runs_unique h₁ h₂ hr₁ hr₂
  · intro leaseId message hrunning
    rcases claim_cases phase record leaseId message with
      ⟨hs, _⟩ | ⟨_, hc, e⟩ | ⟨_, _, e⟩ | ⟨hs, _⟩ | ⟨_, _, hs, _⟩
    case inl | inr.inr.inr.inl | inr.inr.inr.inr => simp [hrunning] at hs
    · refine ⟨.inl e, fun other hne hex => ?_⟩
      obtain ⟨entry, hmem, hruns⟩ := hex
      obtain ⟨early, late, hsplit⟩ := List.append_of_mem hmem
      obtain ⟨rest, _, hfinal⟩ := history_suffix hsplit
      have held : HeldBy other record.attempt record := by
        change HeldBy other record.attempt (final phase start operations)
        rw [hfinal]
        exact final_invariant (fun _ op => step_heldBy op) (runs_heldBy hruns hmem) rest
      exact absurd (run_of_heldBy held (congrArg Prod.fst e)).symm hne
    · exact ⟨.inr e, fun _ _ _ => e⟩
  · intro recorded attempt outcome message hs
    rcases report_cases phase record attempt outcome message with
      ⟨_, hr, _⟩ | ⟨_, _, e⟩ | ⟨_, _, e⟩
    · simp [hs] at hr
    · rw [e]
    · rw [e]
  · intro hs more
    rw [final_append]
    exact final_succeeded more hs
  · intro attempt outcome message hh
    exact report_holds message hh
  · intro early e late attempt outcome message hsplit hrec
    have hmem : e ∈ history phase start operations := by
      rw [show history phase start operations = early ++ e :: late from hsplit]
      simp
    obtain ⟨rest, hlate, hfinal⟩ := history_suffix hsplit
    have hholds := records_holds hrec hmem
    refine ⟨report_settled outcome message ?_, fun hres => report_holds message ?_⟩
    · change Settled attempt (final phase start operations)
      rw [hfinal]
      exact final_invariant (fun _ op => step_settled op) hholds.settled rest
    · change Holds attempt outcome (final phase start operations)
      rw [hfinal]
      exact final_holds hholds (by rwa [hlate] at hres)
  · intro attempt outcome message hne
    rcases report_cases phase record attempt outcome message with
      ⟨ha, _, _⟩ | ⟨ha, _, _⟩ | ⟨text, _, e⟩
    · exact absurd ha hne
    · exact absurd ha hne
    · exact ⟨text, e⟩

end NouvaAgent.ReleaseJobRecord
