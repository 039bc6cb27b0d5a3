import NouvaAgent.WorkReporting

namespace NouvaAgent.WorkReporting

open Interaction Method

def isSend : ReportCall → Bool
  | .send _ => true
  | _ => false

def isRejection : ReportCall → Bool
  | .rejectResult _ => true
  | _ => false

def sends (h : ReportHistory) : ReportHistory := h.filter fun e => isSend e.call

/-- The sends of the report that is being sent: a rejection puts another in its place. -/
def attempts (h : ReportHistory) : ReportHistory :=
  sends (h.takeWhile fun e => !isRejection e.call)

def Stopped (h : ReportHistory) : Prop := ∃ e ∈ h, e.call = .stopLease

def Succeeded : ReportEvent → Prop
  | ⟨.send _, some (.ok _)⟩ => True
  | _ => False

/-- A completion that the control plane may have taken. -/
def MayCommit : ReportEvent → Prop
  | ⟨.send (.complete _), some (.error error)⟩ => error.isTransient
  | ⟨.send (.complete _), _⟩ => True
  | _ => False

/-- What has to have happened, and what not, before a call. -/
def Orderly (e : ReportEvent) (h : ReportHistory) : Prop :=
  match e.call with
  | .prepare => h = []
  | .send report => ¬ Stopped h ∧ (attempts h).length < 4 ∧
      (∀ a ∈ attempts h, a.call = .send report) ∧ (∀ a ∈ h, ¬ Succeeded a) ∧
      (report.isComplete = false → ∀ a ∈ h, ¬ MayCommit a)
  | .rejectResult error => error.status = 422 ∧ (∀ a ∈ h, isRejection a.call = false) ∧
      ∃ result, sends h = [⟨.send (.complete result), some (.error (.api error))⟩]
  | .stopLease => ¬ Stopped h
  | .sleep _ | .log _ => True

structure Open (h : ReportHistory) : Prop where
  orderly : Along Orderly h
  running : ¬ Stopped h
  prepared : ∃ later r, h = later ++ [⟨.prepare, r⟩]

structure Sending (report : AgentTerminalReport) (count : ℕ) (h : ReportHistory) : Prop
    extends Open h where
  few : (attempts h).length ≤ count
  same : ∀ a ∈ attempts h, a.call = .send report
  unsent : ∀ a ∈ h, ¬ Succeeded a
  allowed : report.isComplete = false → ∀ a ∈ h, ¬ MayCommit a

section

variable {h : ReportHistory} {report : AgentTerminalReport} {count : ℕ}

theorem MayCommit.isSend {e : ReportEvent} (he : MayCommit e) : isSend e.call = true := by
  obtain ⟨c, r⟩ := e
  cases c with
  | send report => rfl
  | _ => exact he.elim

theorem Open.cons {e : ReportEvent} (hopen : Open h) (he : Orderly e h)
    (hstop : e.call ≠ .stopLease) : Open (e :: h) := by
  constructor
  · exact ⟨he, hopen.orderly⟩
  · rintro ⟨a, ha, hcall⟩
    rcases List.mem_cons.mp ha with rfl | ha
    · exact hstop hcall
    · exact hopen.running ⟨a, ha, hcall⟩
  · obtain ⟨later, r, rfl⟩ := hopen.prepared
    exact ⟨e :: later, r, rfl⟩

theorem Sending.aside {e : ReportEvent} (hs : Sending report count h)
    (he : (∃ ms, e.call = .sleep ms) ∨ ∃ message, e.call = .log message) :
    Sending report count (e :: h) := by
  obtain ⟨c, r⟩ := e
  have hattempts : attempts (⟨c, r⟩ :: h) = attempts h := by
    obtain ⟨ms, rfl⟩ | ⟨message, rfl⟩ := he <;> simp [attempts, sends, isRejection, isSend]
  have hopen : Open (⟨c, r⟩ :: h) := by
    obtain ⟨ms, rfl⟩ | ⟨message, rfl⟩ := he <;> exact hs.cons trivial (by simp)
  constructor
  · exact hopen
  · rw [hattempts]
    exact hs.few
  · rw [hattempts]
    exact hs.same
  · rw [List.forall_mem_cons]
    refine ⟨?_, hs.unsent⟩
    obtain ⟨ms, rfl⟩ | ⟨message, rfl⟩ := he <;> exact not_false
  · rw [List.forall_mem_cons]
    refine fun hfail => ⟨?_, hs.allowed hfail⟩
    obtain ⟨ms, rfl⟩ | ⟨message, rfl⟩ := he <;> exact not_false

theorem Sending.orderly_send (hs : Sending report count h) (hcount : count < 4)
    (r : Option (Except ReportFailure Unit)) : Orderly ⟨.send report, r⟩ h :=
  ⟨hs.running, lt_of_le_of_lt hs.few hcount, hs.same, hs.unsent, hs.allowed⟩

theorem Sending.sent (hs : Sending report count h) (hcount : count < 4)
    (r : Option (Except ReportFailure Unit)) : Open (⟨.send report, r⟩ :: h) :=
  hs.cons (hs.orderly_send hcount r) (by simp)

theorem Sending.failed (error : ReportFailure) (hs : Sending report count h) (hcount : count < 4) :
    Sending report (count + 1) (⟨.send report, some (.error error)⟩ :: h) := by
  have hattempts : attempts (⟨.send report, some (.error error)⟩ :: h) =
      ⟨.send report, some (.error error)⟩ :: attempts h := by
    simp [attempts, sends, isRejection, isSend]
  constructor
  · exact hs.sent hcount _
  · rw [hattempts, List.length_cons]
    exact Nat.succ_le_succ hs.few
  · rw [hattempts, List.forall_mem_cons]
    exact ⟨rfl, hs.same⟩
  · rw [List.forall_mem_cons]
    exact ⟨not_false, hs.unsent⟩
  · rw [List.forall_mem_cons]
    refine fun hfail => ⟨?_, hs.allowed hfail⟩
    cases report with
    | complete result => exact nomatch hfail
    | fail result errorMessage => exact not_false

end

/-- How sending a report from `h` on can fail. Where nothing was ambiguous, and the last failure is
not either, there was one attempt. -/
structure Failed (report : AgentTerminalReport) (h : ReportHistory) (mayBeCommitted : Bool)
    (error : ReportFailure) (mayBeCommitted' : Bool) (h' : ReportHistory) : Prop
    extends Open h' where
  unsent : ∀ a ∈ h', ¬ Succeeded a
  unrejected : (∀ a ∈ h, isRejection a.call = false) → ∀ a ∈ h', isRejection a.call = false
  once : mayBeCommitted' = false → report.isComplete = true → error.isTransient = false →
    mayBeCommitted = false ∧ sends h' = ⟨.send report, some (.error error)⟩ :: sends h

section

variable {h : ReportHistory} {report : AgentTerminalReport} {s : Bool}

theorem wp_answered {α : Type} {c : ReportCall} {f : c.Answer → Except ReportFailure α}
    {Q : Post ReportFailure Bool α ReportHistory} :
    (Method.bind (ask c) fun r => answered (f r) : ReportMethod α).wp recording Q s h ↔
      Q.cut (⟨c, none⟩ :: h) ∧ (∀ r a, f r = .ok a → Q.ok a s (⟨c, some r⟩ :: h)) ∧
        ∀ r e, f r = .error e → Q.err e s (⟨c, some r⟩ :: h) := by
  rw [wp_bind, wp_ask_assuming]
  simp only [forall_const, answered, wp_ofExcept, forall_and]

theorem wp_send {Q : Post ReportFailure Bool Unit ReportHistory} :
    (send report).wp recording Q s h ↔ Q.cut (⟨.send report, none⟩ :: h) ∧
      Q.ok () s (⟨.send report, some (.ok ())⟩ :: h) ∧
        ∀ error, Q.err error s (⟨.send report, some (.error error)⟩ :: h) := by
  refine wp_answered.trans (and_congr_right fun _ => ⟨fun hq => ⟨hq.1 _ _ rfl, ?_⟩, fun hq => ?_⟩)
  · exact fun error => hq.2 _ _ rfl
  · constructor
    · rintro _ _ rfl
      exact hq.1
    · rintro _ error rfl
      exact hq.2 error

theorem attemptSend_wp {retry : ReportFailure → ReportMethod Unit} {count : ℕ} (hcount : count < 4)
    (hs : Sending report count h) (hretry : ∀ error, error.isTransient = true →
      (retry error).wp recording ⟨fun _ _ => Open, Failed report h s, Open⟩ (s || report.isComplete)
        (⟨.send report, some (.error error)⟩ :: h)) :
    (attemptSend report retry).wp recording ⟨fun _ _ => Open, Failed report h s, Open⟩ s h := by
  refine (wp_bind _ _).mpr ((wp_settle _).mpr (wp_send.mpr ⟨hs.sent hcount _, ?_, fun error => ?_⟩))
  · exact hs.sent hcount _
  · refine (wp_bind _ _).mpr ((wp_assign _).mpr ?_)
    have hfailed := hs.failed error hcount
    cases ht : error.isTransient with
    | true =>
      simp only [Bool.true_and, if_true]
      exact hretry error ht
    | false =>
      simp only [Bool.false_and, Bool.or_false, Bool.false_eq_true, if_false]
      refine ⟨hfailed.toOpen, hfailed.unsent, fun hh => ?_, fun hf _ _ => ⟨hf, rfl⟩⟩
      rw [List.forall_mem_cons]
      exact ⟨rfl, hh⟩

theorem sendWithRetry_wp (retries count : ℕ) (hcount : count + retries < 4)
    (hs : Sending report count h) : (sendWithRetry report retries).wp recording
      ⟨fun _ _ => Open, Failed report h s, Open⟩ s h := by
  induction retries generalizing count s h with
  | zero =>
    refine attemptSend_wp hcount hs fun error ht => ?_
    have hfailed := hs.failed error hcount
    refine ⟨hfailed.toOpen, hfailed.unsent, fun hh => ?_, fun _ _ hd => nomatch ht.symm.trans hd⟩
    rw [List.forall_mem_cons]
    exact ⟨rfl, hh⟩
  | succ retries ih =>
    refine attemptSend_wp (by omega) hs fun error ht => ?_
    have hfailed := hs.failed error (by omega)
    -- A transient failure of a completion sets the flag for good.
    have widen {s' : Bool} {error' : ReportFailure} {h' : ReportHistory} {e : ReportEvent}
        (he : isRejection e.call = false)
        (hf : Failed report (e :: ⟨.send report, some (.error error)⟩ :: h) (s || report.isComplete)
          error' s' h') : Failed report h s error' s' h' := by
      refine ⟨hf.toOpen, hf.unsent, fun hh => hf.unrejected ?_, fun hs' hc hd => ?_⟩
      · rw [List.forall_mem_cons, List.forall_mem_cons]
        exact ⟨he, rfl, hh⟩
      · have hor := (hf.once hs' hc hd).1
        rw [hc, Bool.or_true] at hor
        cases hor
    refine (wp_bind _ _).mpr (wp_answered.mpr ⟨?_, fun r a hr => ?_, fun r e hr => ?_⟩)
    · exact (hfailed.aside (.inl ⟨_, rfl⟩)).toOpen
    · refine wp_mono (ih (count + 1) (by omega) (hfailed.aside (.inl ⟨_, rfl⟩)))
        (fun _ _ _ ho => ho) (fun _ _ _ hf => widen rfl hf) fun _ ho => ho
    · have haside := hfailed.aside (e := ⟨.sleep (1000 * 2 ^ (2 - retries)), some r⟩)
        (.inl ⟨_, rfl⟩)
      refine ⟨haside.toOpen, haside.unsent, fun hh => ?_, fun hs' hc _ => ?_⟩
      · rw [List.forall_mem_cons, List.forall_mem_cons]
        exact ⟨rfl, rfl, hh⟩
      · rw [hc, Bool.or_true] at hs'
        cases hs'

end

theorem begun (r : Option (Except ReportFailure AgentWorkOutcome)) : Open [⟨.prepare, r⟩] :=
  ⟨⟨rfl, trivial⟩, by rintro ⟨a, ha, hcall⟩; simp at ha; simp [ha] at hcall, [], r, rfl⟩

section

variable {h : ReportHistory} {report : AgentTerminalReport} {s : Bool}

theorem wp_log {message : String} (ho : Open h) :
    (log message).wp recording (Post.always Open) s h := by
  refine (wp_ask_assuming _).mpr ⟨fun _ => ?_, fun _ _ => ?_⟩ <;> exact ho.cons trivial (by simp)

structure Fresh (h : ReportHistory) : Prop extends Open h where
  unsent : sends h = []
  unrejected : ∀ a ∈ h, isRejection a.call = false

theorem sends_eq_nil (hs : sends h = []) : ∀ a ∈ h, isSend a.call = false := by
  intro a ha
  by_contra hsend
  have hmem : a ∈ sends h := List.mem_filter.mpr ⟨ha, by simpa using hsend⟩
  rw [hs] at hmem
  exact List.not_mem_nil hmem

theorem Fresh.sending (hf : Fresh h) : Sending report 0 h := by
  have hnone := sends_eq_nil hf.unsent
  have hattempts : attempts h = [] := by
    have hsub : attempts h ⊆ sends h := by
      intro a ha
      obtain ⟨hmem, hsend⟩ := List.mem_filter.mp ha
      exact List.mem_filter.mpr ⟨List.takeWhile_subset _ hmem, hsend⟩
    rw [hf.unsent] at hsub
    exact List.subset_nil.mp hsub
  constructor
  · exact hf.toOpen
  · simp [hattempts]
  · simp [hattempts]
  · intro a ha hsucceeded
    obtain ⟨c, r⟩ := a
    cases c with
    | send report => exact nomatch hnone _ ha
    | _ => exact hsucceeded
  · exact fun _ a ha hcommit => nomatch (hnone a ha).symm.trans hcommit.isSend

theorem Failed.replaced {error : ApiRequestError} {h' : ReportHistory}
    (hf : Failed report h false (.api error) false h')
    (hfresh : Fresh h) (hstatus : error.status = 422) (hc : report.isComplete = true)
    (r : Option (Except ReportFailure AgentTerminalReport)) (replacement : AgentTerminalReport) :
    Sending replacement 0 (⟨.rejectResult error, r⟩ :: h') := by
  have htransient : (ReportFailure.api error).isTransient = false := by
    simp [ReportFailure.isTransient, hstatus]
  obtain ⟨result, rfl⟩ : ∃ result, report = .complete result := by
    cases report with
    | complete result => exact ⟨result, rfl⟩
    | fail result errorMessage => exact nomatch hc
  have hsends : sends h' = [⟨.send (.complete result), some (.error (.api error))⟩] := by
    rw [(hf.once rfl hc htransient).2, hfresh.unsent]
  have hopen : Open (⟨.rejectResult error, r⟩ :: h') :=
    hf.cons ⟨hstatus, hf.unrejected hfresh.unrejected, result, hsends⟩ (by simp)
  have hattempts : attempts (⟨.rejectResult error, r⟩ :: h') = [] := by
    simp [attempts, sends, isRejection]
  constructor
  · exact hopen
  · simp [hattempts]
  · simp [hattempts]
  · rw [List.forall_mem_cons]
    exact ⟨not_false, hf.unsent⟩
  · rw [List.forall_mem_cons]
    refine fun _ => ⟨not_false, fun a ha hcommit => ?_⟩
    have hmem : a ∈ sends h' := List.mem_filter.mpr ⟨ha, hcommit.isSend⟩
    rw [hsends, List.mem_singleton] at hmem
    subst hmem
    exact nomatch htransient.symm.trans hcommit

end

end NouvaAgent.WorkReporting

namespace NouvaAgent.ReportedWork

open Interaction Method WorkReporting

variable {work : ReportedWork} {redactError : ReportFailure → String} {h : ReportHistory}
  {report : AgentTerminalReport}

theorem logFailure_wp {J : ReportHistory → Prop} {s : Bool} (hj : J h)
    (hlog : ∀ e : ReportEvent, (∃ message, e.call = .log message) → J (e :: h)) :
    (work.logFailure report).wp recording ⟨fun _ s' h' => s' = s ∧ J h', fun _ _ => J, J⟩ s h := by
  cases report with
  | complete result => exact ⟨rfl, hj⟩
  | fail result errorMessage =>
    refine (wp_ask_assuming _).mpr ⟨fun _ => ?_, fun _ _ => ⟨rfl, ?_⟩⟩ <;> exact hlog _ ⟨_, rfl⟩

theorem sendReport_wp (hf : Fresh h) : (work.sendReport report).wp recording
    ⟨fun _ _ => Open, Failed report h false, Open⟩ false h := by
  refine wp_bind_of (R := fun _ _ => Open) (sendWithRetry_wp 3 0 (by omega) hf.sending)
    fun _ s h' ho => ?_
  split
  · exact wp_mono (Q := ⟨fun _ _ => Open, fun _ _ _ => False, Open⟩)
      ((wp_ask_assuming _).mpr ⟨fun _ => ho.cons trivial (by simp),
        fun _ _ => ho.cons trivial (by simp)⟩) (fun _ _ _ ho => ho) (fun _ _ _ hn => hn.elim)
      fun _ ho => ho
  · exact ho

theorem handleSendFailure_wp {error : ReportFailure} {s : Bool} {h' : ReportHistory}
    (hfresh : Fresh h) (hf : Failed report h false error s h') :
    (work.handleSendFailure redactError report error).wp recording (Post.always Open) s h' := by
  refine (wp_bind _ _).mpr (wp_locals.mpr ?_)
  dsimp only
  split
  · next refused hr =>
    obtain ⟨error, rfl, hstatus, hc, rfl, rfl⟩ : ∃ e, error = .api e ∧ e.status = 422 ∧
        report.isComplete = true ∧ s = false ∧ e = refused := by
      cases error with
      | other message => exact nomatch hr
      | api e =>
        refine ⟨e, rfl, ?_⟩
        simpa [refusal, and_assoc] using hr
    have hreplaced := hf.replaced hfresh hstatus hc
    refine (wp_bind _ _).mpr (wp_answered.mpr ⟨?_, fun r replacement _ => ?_, fun r e _ => ?_⟩)
    · exact (hreplaced none (.complete none)).toOpen
    · refine wp_bind_of (R := fun _ s' h' => s' = false ∧ Sending replacement 0 h') ?_ ?_
      · refine wp_mono (logFailure_wp (hreplaced (some r) replacement)
          fun e he => (hreplaced (some r) replacement).aside (.inr he)) (fun _ _ _ hp => hp)
          (fun _ _ _ hp => hp.toOpen) fun _ hp => hp.toOpen
      · rintro _ _ h' ⟨rfl, hs⟩
        exact wp_mono (sendWithRetry_wp 3 0 (by omega) hs) (fun _ _ _ ho => ho)
          (fun _ _ _ hf => hf.toOpen) fun _ ho => ho
    · exact (hreplaced (some r) (.complete none)).toOpen
  · split
    · exact wp_log hf.toOpen
    · exact wp_log hf.toOpen

theorem prepareAndReport_wp : (work.prepareAndReport redactError).wp recording
    (Post.always Open) false [] := by
  refine (wp_bind _ _).mpr (wp_answered.mpr ⟨begun none, fun r outcome _ => ?_, fun r _ _ => begun _⟩)
  cases outcome with
  | released reason => exact wp_log (begun _)
  | terminal report =>
    have hfresh : Fresh [⟨.prepare, some r⟩] := by
      refine ⟨begun _, rfl, ?_⟩
      simp [isRejection]
    refine wp_bind_of (R := fun _ s h => s = false ∧ Fresh h) ?_ ?_
    · refine wp_mono (logFailure_wp hfresh ?_) (fun _ _ _ hp => hp) (fun _ _ _ hp => hp.toOpen)
        fun _ hp => hp.toOpen
      rintro ⟨c, r⟩ ⟨message, rfl⟩
      refine ⟨hfresh.cons trivial (by simp), ?_, ?_⟩
      · rw [sends, List.filter_cons]
        exact hfresh.unsent
      · rw [List.forall_mem_cons]
        exact ⟨rfl, hfresh.unrejected⟩
    · rintro _ _ h ⟨rfl, hf⟩
      exact (wp_tryCatch _ _).mpr (wp_mono (sendReport_wp hf) (fun _ _ _ ho => ho)
        (fun _ _ _ hfailed => handleSendFailure_wp hf hfailed) fun _ ho => ho)

theorem executeAndReport_wp : (work.executeAndReport redactError).wp recording
    (Post.always Open) false [] :=
  (wp_tryCatch _ _).mpr (wp_mono prepareAndReport_wp (fun _ _ _ ho => ho)
    (fun _ _ _ ho => wp_log ho) fun _ ho => ho)

def Finished (h : ReportHistory) : Prop := ∃ r earlier, h = ⟨.stopLease, r⟩ :: earlier ∧ Open earlier

theorem Finished.orderly (hf : Finished h) : Along Orderly h := by
  obtain ⟨r, earlier, rfl, ho⟩ := hf
  exact ⟨ho.running, ho.orderly⟩

theorem stopLease_wp {s : Bool} (ho : Open h) :
    stopLease.wp recording ⟨fun _ _ => Finished, fun _ _ => Finished, Finished⟩ s h := by
  refine wp_answered.mpr ⟨⟨_, _, rfl, ho⟩, fun _ _ _ => ⟨_, _, rfl, ho⟩, fun _ _ _ => ⟨_, _, rfl, ho⟩⟩

theorem executeAndReportAgentWork_wp : (work.executeAndReportAgentWork redactError).wp recording
    ⟨fun _ _ => Finished, fun _ _ => Finished, fun h => Open h ∨ Finished h⟩ () [] := by
  refine (wp_withLocals _ _).mpr ((wp_finally _ _).mpr ?_)
  refine wp_mono executeAndReport_wp (fun _ _ _ ho => ?_) (fun _ _ _ ho => ?_) fun _ ho => .inl ho
  · exact wp_mono (stopLease_wp ho) (fun _ _ _ h => h) (fun _ _ _ h => h) fun _ h => .inr h
  · exact wp_mono (stopLease_wp ho) (fun _ _ _ h => h) (fun _ _ _ h => h) fun _ h => .inr h

theorem run_orderly (work : ReportedWork) (redactError : ReportFailure → String)
    (env : Environment ReportCall.Answer) :
    let run := (work.executeAndReportAgentWork redactError ()).run env []
    (Open run.2 ∨ Finished run.2) ∧ (run.1 ≠ .cut → Finished run.2) := by
  have hwp : (work.executeAndReportAgentWork redactError).wp recording
      ⟨fun _ _ => Finished, fun _ _ => Finished, fun h => Open h ∨ Finished h⟩ () [] :=
    executeAndReportAgentWork_wp
  have hend := Program.wp_run (F := fun _ _ => True) hwp
    (along_iff.mpr fun _ _ _ (_ : ((work.executeAndReportAgentWork redactError ()).run env []).2 = _) =>
      trivial)
  dsimp only
  revert hend
  rcases (work.executeAndReportAgentWork redactError ()).run env [] with ⟨⟨_ | _, _⟩ | _, h⟩
  · exact fun hend => ⟨.inr hend, fun _ => hend⟩
  · exact fun hend => ⟨.inr hend, fun _ => hend⟩
  · exact fun hend => ⟨hend, fun hne => absurd rfl hne⟩

/-- In every run each call comes only when it is in order: the preparation first, no send after the
lease was stopped, at most four sends of one report, no rejection but of a completion whose only
send was refused with a 422, and no failure after a completion that may have been committed. A run
that ends has stopped its lease last. -/
theorem work_reporting_ordered (work : ReportedWork) (redactError : ReportFailure → String)
    (env : Environment ReportCall.Answer) :
    let run := (work.executeAndReportAgentWork redactError ()).run env []
    Along Orderly run.2 ∧ (∃ later r, run.2 = later ++ [⟨.prepare, r⟩]) ∧
      (run.1 ≠ .cut → ∃ r earlier, run.2 = ⟨.stopLease, r⟩ :: earlier) := by
  obtain ⟨hany, hdone⟩ := run_orderly work redactError env
  refine ⟨?_, ?_, fun hne => ?_⟩
  · obtain ho | hf := hany
    · exact ho.orderly
    · exact hf.orderly
  · obtain ho | ⟨r, earlier, he, ho⟩ := hany
    · exact ho.prepared
    · obtain ⟨later, r', hl⟩ := ho.prepared
      exact ⟨⟨.stopLease, r⟩ :: later, r', by rw [he, hl, List.cons_append]⟩
  · obtain ⟨r, earlier, he, _⟩ := hdone hne
    exact ⟨r, earlier, he⟩

end NouvaAgent.ReportedWork

namespace NouvaAgent.WorkReporting

open Interaction

def MayBeKnown (e : ReportEvent) : Prop :=
  completionAttempt e = some none ∨
    ∃ error, completionAttempt e = some (some error) ∧ error.isTransient = true

theorem completionDelivery_cons (e : ReportEvent) (h : ReportHistory) :
    completionDelivery (e :: h) = match completionAttempt e with
      | none => completionDelivery h
      | some error => recordAgentUpdateCompletionAttempt (completionDelivery h) error := by
  unfold completionDelivery
  rw [List.reverse_cons, List.filterMap_append, List.foldl_append]
  cases he : completionAttempt e <;> simp [he]

theorem succeeded_of_completed {e : ReportEvent} (he : completionAttempt e = some none) :
    Succeeded e := by
  obtain ⟨c, r⟩ := e
  cases c with
  | send report =>
    cases report with
    | complete result =>
      obtain _ | _ | _ := r
      · exact nomatch he
      · exact nomatch he
      · trivial
    | fail result errorMessage => exact nomatch he
  | _ => exact nomatch he

theorem not_succeeded_of_attempt {e : ReportEvent} {h : ReportHistory} {error : Option ReportFailure}
    (he : Orderly e h) (ha : completionAttempt e = some error) : ∀ a ∈ h, ¬ Succeeded a := by
  obtain ⟨c, r⟩ := e
  cases c with
  | send report => exact he.2.2.2.1
  | _ => exact nomatch ha

theorem delivered_succeeded {h : ReportHistory} (hd : completionDelivery h = .delivered) :
    ∃ e ∈ h, Succeeded e := by
  induction h with
  | nil => exact nomatch hd
  | cons e h ih =>
    rw [completionDelivery_cons] at hd
    cases ha : completionAttempt e with
    | none =>
      rw [ha] at hd
      obtain ⟨a, ha, hs⟩ := ih hd
      exact ⟨a, List.mem_cons_of_mem _ ha, hs⟩
    | some error =>
      rw [ha] at hd
      cases error with
      | none => exact ⟨e, List.mem_cons_self, succeeded_of_completed ha⟩
      | some error =>
        simp only [recordAgentUpdateCompletionAttempt] at hd
        split at hd <;> exact nomatch hd

theorem shouldStart_iff {h : ReportHistory} (ho : Along Orderly h) :
    shouldStartAgentUpdater (completionDelivery h) = true ↔ ∃ e ∈ h, MayBeKnown e := by
  induction h with
  | nil => simp [completionDelivery, shouldStartAgentUpdater]
  | cons e h ih =>
    rw [completionDelivery_cons]
    cases ha : completionAttempt e with
    | none =>
      rw [ih ho.2]
      simp [MayBeKnown, ha]
    | some error =>
      cases error with
      | none => simp [MayBeKnown, ha, recordAgentUpdateCompletionAttempt, shouldStartAgentUpdater]
      | some error =>
        cases ht : error.isTransient with
        | true =>
          simp [MayBeKnown, ha, ht, recordAgentUpdateCompletionAttempt, shouldStartAgentUpdater]
        | false =>
          have hno : completionDelivery h ≠ .delivered := by
            intro hd
            obtain ⟨a, hmem, hs⟩ := delivered_succeeded hd
            exact not_succeeded_of_attempt ho.1 ha a hmem hs
          have hrest : shouldStartAgentUpdater (recordAgentUpdateCompletionAttempt
              (completionDelivery h) (some error)) =
              shouldStartAgentUpdater (completionDelivery h) := by
            cases hd : completionDelivery h with
            | delivered => exact absurd hd hno
            | _ => simp [recordAgentUpdateCompletionAttempt, shouldStartAgentUpdater, ht]
          rw [hrest, ih ho.2]
          simp [MayBeKnown, ha, ht]

/-- The updater starts exactly where the control plane may know of the update's completion. -/
theorem updater_starts_iff_completion_may_be_known (work : ReportedWork)
    (redactError : ReportFailure → String) (env : Environment ReportCall.Answer) :
    let run := (work.executeAndReportAgentWork redactError ()).run env []
    shouldStartAgentUpdater (completionDelivery run.2) = true ↔ ∃ e ∈ run.2, MayBeKnown e := by
  refine shouldStart_iff ?_
  obtain ho | hf := (ReportedWork.run_orderly work redactError env).1
  · exact ho.orderly
  · exact hf.orderly

end NouvaAgent.WorkReporting
