import NouvaAgent.WorkItem

namespace NouvaAgent.WorkReporting

open Interaction Method

def Sourced (report : AgentTerminalReport) (h : ReportHistory) : Prop :=
  ⟨.prepare, some (.ok (.terminal report))⟩ ∈ h ∨
    ∃ error, ⟨.rejectResult error, some (.ok report)⟩ ∈ h

def SendsSourced (e : ReportEvent) (h : ReportHistory) : Prop :=
  ∀ report, e.call = .send report → Sourced report h

theorem persistent_sourced (report : AgentTerminalReport) :
    Persistent recording (Sourced report) := by
  apply persistent_recording
  rintro e h (hprepared | ⟨error, hrejected⟩)
  · exact .inl (List.mem_cons_of_mem e hprepared)
  · exact .inr ⟨error, List.mem_cons_of_mem e hrejected⟩

section

variable {P : ReportHistory → Prop} {report : AgentTerminalReport}

theorem triple_aside (hP : Persistent recording P) {c : ReportCall} (hc : ∀ report, c ≠ .send report) :
    Triple recording (Along SendsSourced) P (ask c : ReportMethod c.Answer) (fun _ => P) P := by
  apply triple_ask_along
  · exact fun h r _ report hsend => (hc report hsend).elim
  · exact fun h r hp => hP.cons _ hp

theorem triple_log (hP : Persistent recording P) (message : String) :
    Triple recording (Along SendsSourced) P (log message) (fun _ => P) P :=
  triple_aside hP (by simp)

theorem triple_send : Triple recording (Along SendsSourced) (Sourced report) (send report)
    (fun _ => Sourced report) (Sourced report) := by
  apply Triple.bind (R := fun _ => Sourced report)
  · apply triple_ask_along
    · rintro h r hsourced _ ⟨rfl⟩
      exact hsourced
    · exact fun h r hsourced => (persistent_sourced report).cons _ hsourced
  · exact fun r => triple_ofExcept (fun _ _ _ h => h) fun _ h => h

theorem triple_attemptSend {retry : ReportFailure → ReportMethod Unit}
    (hretry : ∀ error, Triple recording (Along SendsSourced) (Sourced report) (retry error)
      (fun _ => Sourced report) (Sourced report)) :
    Triple recording (Along SendsSourced) (Sourced report) (attemptSend report retry)
      (fun _ => Sourced report) (Sourced report) := by
  apply Triple.bind (R := fun _ => Sourced report)
  · apply triple_send.settle.mono (fun _ h => h)
    · exact fun r w h => by cases r <;> exact h
    · exact fun _ h => h
  · rintro (error | _)
    · apply (triple_assign _).bind
      intro _
      split
      · exact hretry error
      · exact triple_throw fun _ h => h
    · exact triple_pure fun _ h => h

theorem triple_sendWithRetry (retries : ℕ) : Triple recording (Along SendsSourced) (Sourced report)
    (sendWithRetry report retries) (fun _ => Sourced report) (Sourced report) := by
  induction retries with
  | zero => exact triple_attemptSend fun error => triple_throw fun _ h => h
  | succ retries ih =>
    apply triple_attemptSend
    intro error
    apply Triple.bind (R := fun _ => Sourced report)
    · apply (triple_aside (persistent_sourced report) (by simp)).bind
      exact fun r => triple_ofExcept (fun _ _ _ h => h) fun _ h => h
    · exact fun _ => ih

end

end NouvaAgent.WorkReporting

namespace NouvaAgent.ReportedWork

open Interaction Method WorkReporting

variable {work : ReportedWork} {redactError : ReportFailure → String} {report : AgentTerminalReport}

theorem triple_logFailure {P : ReportHistory → Prop} (hP : Persistent recording P) :
    Triple recording (Along SendsSourced) P (work.logFailure report) (fun _ => P) P := by
  cases report with
  | complete result => exact triple_pure fun _ h => h
  | fail result errorMessage => exact triple_log hP _

theorem triple_sendReport : Triple recording (Along SendsSourced) (Sourced report)
    (work.sendReport report) (fun _ => Sourced report) (Sourced report) := by
  apply (triple_sendWithRetry 3).bind
  intro _
  split
  · exact triple_log (persistent_sourced report) _
  · exact triple_pure fun _ h => h

theorem triple_handleSendFailure {error : ReportFailure} :
    Triple recording (Along SendsSourced) (Sourced report)
      (work.handleSendFailure redactError report error) (fun _ _ => True) fun _ => True := by
  have hlog (message : String) : Triple recording (Along SendsSourced) (Sourced report)
      (log message) (fun _ _ => True) fun _ => True :=
    (triple_log (persistent_sourced report) message).mono (fun _ h => h) (fun _ _ _ => trivial)
      fun _ _ => trivial
  unfold ReportedWork.handleSendFailure
  apply Triple.bind (R := fun _ => Sourced report) triple_locals
  intro mayBeCommitted
  cases refusal report mayBeCommitted error with
  | none => cases isSuperseded error <;> exact hlog _
  | some refused =>
    apply Triple.bind (R := Sourced)
    · apply Triple.bind (R := fun r h => ∀ replacement, r = .ok replacement → Sourced replacement h)
      · apply triple_ask_along
        · exact fun h r _ report hsend => nomatch hsend
        · rintro h r - replacement rfl
          exact .inr ⟨refused, List.mem_cons_self⟩
      · exact fun r => triple_ofExcept (fun a ha _ h => h a ha) fun _ _ => trivial
    · intro replacement
      apply ((triple_logFailure (persistent_sourced replacement)).mono (fun _ h => h)
        (fun _ _ h => h) fun _ _ => trivial).bind
      exact fun _ => (triple_sendWithRetry 3).mono (fun _ h => h) (fun _ _ _ => trivial)
        fun _ _ => trivial

theorem triple_prepareAndReport : Triple recording (Along SendsSourced) (fun _ => True)
    (work.prepareAndReport redactError) (fun _ _ => True) fun _ => True := by
  apply Triple.bind (R := fun outcome h => ∀ report, outcome = .terminal report → Sourced report h)
  · apply Triple.bind (R := fun r h => ∀ report, r = .ok (.terminal report) → Sourced report h)
    · apply triple_ask_along
      · exact fun h r _ report hsend => nomatch hsend
      · rintro h r - report rfl
        exact .inl List.mem_cons_self
    · exact fun r => triple_ofExcept
        (fun a ha w hw report hreport => hw report (hreport ▸ ha)) fun _ _ => trivial
  · intro outcome
    cases outcome with
    | released reason =>
      exact (triple_log (persistent_const True) _).mono (fun _ _ => trivial) (fun _ _ h => h)
        fun _ h => h
    | terminal report =>
      apply ((triple_logFailure (persistent_sourced report)).mono (fun w hw => hw report rfl)
        (fun _ _ h => h) fun _ _ => trivial).bind
      intro _
      apply Triple.tryCatch (Y := Sourced report)
      · exact triple_sendReport.mono (fun _ h => h) (fun _ _ _ => trivial) fun _ h => h
      · exact fun error => triple_handleSendFailure

theorem triple_executeAndReportAgentWork : Triple recording (Along SendsSourced) (fun _ => True)
    (work.executeAndReportAgentWork redactError) (fun _ _ => True) fun _ => True := by
  have hreport : Triple recording (Along SendsSourced) (fun _ => True)
      (work.executeAndReport redactError) (fun _ _ => True) fun _ => True :=
    triple_prepareAndReport.tryCatch fun error => triple_log (persistent_const True) _
  have hstop : Triple recording (Along SendsSourced) (fun _ => True) stopLease (fun _ _ => True)
      fun _ => True := by
    apply (triple_aside (persistent_const True) (by simp)).bind
    exact fun r => triple_ofExcept (fun _ _ _ h => h) fun _ h => h
  exact (hreport.finally_ (fun _ => hstop) hstop).withLocals

end NouvaAgent.ReportedWork

namespace NouvaAgent.WorkItem

open Interaction Method WorkReporting

def reported : WorkEvent → Option ReportEvent
  | ⟨.post report, r⟩ => some ⟨.send report, r⟩
  | ⟨.stopLease, r⟩ => some ⟨.stopLease, r⟩
  | _ => none

def isOutward : ReportCall → Bool
  | .send _ | .stopLease => true
  | _ => false

def isHandle : WorkCall → Bool
  | .handle _ => true
  | _ => false

def isClose : WorkCall → Bool
  | .closeBuildLog _ => true
  | _ => false

def Ended (item : AgentWorkRecord) (h : WorkHistory) :
    Except WorkError (List (Units × Json)) → Prop
  | .ok result => ∃ kind handled, ⟨.handle kind, some (.ok handled)⟩ ∈ h ∧ handled.result = result
  | .error error => (∃ kind, ⟨.handle kind, some (.error error)⟩ ∈ h) ∨
      WorkKind.named.lookup item.kind = none ∧
        error = .error ("Unsupported work kind: " ++ item.kind)

def exitOf (process : WorkProcess) (item : AgentWorkRecord) :
    Except WorkError (List (Units × Json)) → Option (Bool × String)
  | .ok _ => some (true, "Deployment finished")
  | .error (.deferred _) => none
  | .error error => some (false, item.redact process error.message)

/-- What a report says is what the handler ended with, redacted; or it says nothing of a result whose
containers were all asked to be removed. -/
def Founded (process : WorkProcess) (item : AgentWorkRecord) (report : AgentTerminalReport)
    (h : WorkHistory) : Prop :=
  match report with
  | .complete safeResult => ∃ result, Ended item h (.ok result) ∧
      item.sanitize process (some result) = .ok safeResult
  | .fail result errorMessage =>
    (∃ error, Ended item h (.error error) ∧ (∀ message, error ≠ .deferred message) ∧
      item.failureReport process error = .ok (.fail result errorMessage)) ∨
    result = none ∧ (∃ message, errorMessage = item.redact process message) ∧
      ∃ started, Ended item h (.ok started) ∧
        ∀ identifier ∈ item.startedContainers started, ∃ r, ⟨.removeContainer identifier, r⟩ ∈ h

/-- What has to have happened, and what not, before a call of a work item. -/
def Allowed (process : WorkProcess) (item : AgentWorkRecord) (e : WorkEvent) (before : WorkHistory) :
    Prop :=
  let sent := before.filterMap reported
  match e.call with
  | .ready => ∀ a ∈ before, ∃ message, a.call = .log message
  | .handle kind => WorkKind.named.lookup item.kind = some kind ∧ ⟨.ready, some true⟩ ∈ before ∧
      sent = [] ∧ ∀ a ∈ before, isHandle a.call = false
  | .closeBuildLog exit => item.publishesBuildLog = true ∧ sent = [] ∧
      (∀ a ∈ before, isClose a.call = false) ∧
      ∃ ended, Ended item before ended ∧ exit = exitOf process item ended
  | .removeContainer identifier => ∃ result, Ended item before (.ok result) ∧
      identifier ∈ item.startedContainers result ∧
      (sent = [] ∧ item.sanitize process (some result) = .error .redactionConflict ∨
        ∃ safeResult error, error.status = 422 ∧
          sends sent = [⟨.send (.complete safeResult), some (.error (.api error))⟩])
  | .post report => ⟨.ready, some true⟩ ∈ before ∧ Founded process item report before ∧
      ¬ Stopped sent ∧ (∀ a ∈ sent, ¬ Succeeded a) ∧
      (report.isComplete = false → ∀ a ∈ sent, ¬ MayCommit a)
  | .stopLease => ¬ Stopped sent
  | .requestAgentUpdate => Stopped sent ∧ (∃ a ∈ sent, MayBeKnown a) ∧
      ∃ handled, ⟨.handle .updateAgent, some (.ok handled)⟩ ∈ before ∧ handled.updater = true
  | .leaseLost | .sleep _ | .log _ => True

structure Link (process : WorkProcess) (item : AgentWorkRecord) (h : ReportHistory)
    (s : WorkLocals) (w : WorkHistory) : Prop where
  allowed : Along (Allowed process item) w
  ready : ⟨.ready, some true⟩ ∈ w
  sent : w.filterMap reported = h.filter fun e => isOutward e.call
  delivery : s.completionDelivery = completionDelivery h
  result : ∀ result, s.result = some result ↔ Ended item w (.ok result)
  updater : s.pendingAgentUpdater = true →
    ∃ handled, ⟨.handle .updateAgent, some (.ok handled)⟩ ∈ w ∧ handled.updater = true
  founded : ∀ report, Sourced report h → Founded process item report w

variable {process : WorkProcess} {item : AgentWorkRecord} {h : ReportHistory} {s : WorkLocals}
  {w : WorkHistory}

theorem Ended.cons {ended : Except WorkError (List (Units × Json))} (hended : Ended item w ended)
    (e : WorkEvent) : Ended item (e :: w) ended := by
  cases ended with
  | ok result =>
    obtain ⟨kind, handled, hmem, hresult⟩ := hended
    exact ⟨kind, handled, List.mem_cons_of_mem e hmem, hresult⟩
  | error error =>
    obtain ⟨kind, hmem⟩ | hnone := hended
    · exact .inl ⟨kind, List.mem_cons_of_mem e hmem⟩
    · exact .inr hnone

theorem Founded.cons {report : AgentTerminalReport} (hfounded : Founded process item report w)
    (e : WorkEvent) : Founded process item report (e :: w) := by
  cases report with
  | complete safeResult =>
    obtain ⟨result, hended, hsafe⟩ := hfounded
    exact ⟨result, hended.cons e, hsafe⟩
  | fail result errorMessage =>
    obtain ⟨error, hended, hreport⟩ | ⟨hnone, hmessage, started, hended, hremoved⟩ := hfounded
    · exact .inl ⟨error, hended.cons e, hreport⟩
    · refine .inr ⟨hnone, hmessage, started, hended.cons e, fun identifier hstarted => ?_⟩
      obtain ⟨r, hmem⟩ := hremoved identifier hstarted
      exact ⟨r, List.mem_cons_of_mem e hmem⟩

theorem ended_cons_ok {e : WorkEvent} (he : isHandle e.call = false) {result : List (Units × Json)} :
    Ended item (e :: w) (.ok result) ↔ Ended item w (.ok result) := by
  constructor
  · rintro ⟨kind, handled, hmem, hresult⟩
    rcases List.mem_cons.mp hmem with rfl | hmem
    · exact nomatch he
    · exact ⟨kind, handled, hmem, hresult⟩
  · exact fun hended => hended.cons e

theorem Link.aside (hl : Link process item h s w) {e : WorkEvent} (he : Allowed process item e w)
    (hreported : reported e = none) (hhandle : isHandle e.call = false) :
    Link process item h s (e :: w) := by
  constructor
  · exact ⟨he, hl.allowed⟩
  · exact List.mem_cons_of_mem e hl.ready
  · rw [List.filterMap_cons_none hreported]
    exact hl.sent
  · exact hl.delivery
  · intro result
    rw [ended_cons_ok hhandle]
    exact hl.result result
  · intro hpending
    obtain ⟨handled, hmem, hupdater⟩ := hl.updater hpending
    exact ⟨handled, List.mem_cons_of_mem e hmem, hupdater⟩
  · exact fun report hsourced => (hl.founded report hsourced).cons e

theorem Link.saw (hl : Link process item h s w) {e : ReportEvent}
    (houtward : isOutward e.call = false)
    (hfounded : ∀ report, Sourced report (e :: h) → Sourced report h ∨ Founded process item report w) :
    Link process item (e :: h) s w := by
  constructor
  · exact hl.allowed
  · exact hl.ready
  · rw [List.filter_cons_of_neg (by simpa using houtward)]
    exact hl.sent
  · rw [completionDelivery_cons]
    obtain ⟨c, r⟩ := e
    cases c with
    | send report => exact nomatch houtward
    | _ => exact hl.delivery
  · exact hl.result
  · exact hl.updater
  · exact fun report hsourced => (hfounded report hsourced).elim (hl.founded report) id

theorem Link.outward (hl : Link process item h s w) {e : WorkEvent} {e' : ReportEvent}
    (he : Allowed process item e w) (hreported : reported e = some e')
    (houtward : isOutward e'.call = true) {s' : WorkLocals}
    (hs : s' = { s with completionDelivery := completionDelivery (e' :: h) }) :
    Link process item (e' :: h) s' (e :: w) := by
  have hhandle : isHandle e.call = false := by
    obtain ⟨c, r⟩ := e
    cases c with
    | handle kind => exact nomatch hreported
    | _ => rfl
  subst hs
  constructor
  · exact ⟨he, hl.allowed⟩
  · exact List.mem_cons_of_mem e hl.ready
  · rw [List.filterMap_cons_some hreported, List.filter_cons_of_pos (p := fun e : ReportEvent => isOutward e.call)
      houtward, hl.sent]
  · rfl
  · intro result
    rw [ended_cons_ok hhandle]
    exact hl.result result
  · intro hpending
    obtain ⟨handled, hmem, hupdater⟩ := hl.updater hpending
    exact ⟨handled, List.mem_cons_of_mem e hmem, hupdater⟩
  · intro report hsourced
    refine (hl.founded report ?_).cons e
    obtain hprepared | ⟨error, hrejected⟩ := hsourced
    · rcases List.mem_cons.mp hprepared with rfl | hprepared
      · exact nomatch houtward
      · exact .inl hprepared
    · rcases List.mem_cons.mp hrejected with rfl | hrejected
      · exact nomatch houtward
      · exact .inr ⟨error, hrejected⟩

theorem stopped_sent (hl : Link process item h s w) : Stopped (w.filterMap reported) ↔ Stopped h := by
  rw [hl.sent]
  constructor
  · rintro ⟨e, he, hcall⟩
    exact ⟨e, (List.mem_filter.mp he).1, hcall⟩
  · rintro ⟨e, he, hcall⟩
    exact ⟨e, List.mem_filter.mpr ⟨he, by simp [hcall, isOutward]⟩, hcall⟩

theorem mem_of_sent (hl : Link process item h s w) {e : ReportEvent}
    (he : e ∈ w.filterMap reported) : e ∈ h := by
  rw [hl.sent] at he
  exact (List.mem_filter.mp he).1

theorem sends_sent (hl : Link process item h s w) : sends (w.filterMap reported) = sends h := by
  rw [hl.sent, sends, sends, List.filter_filter]
  congr 1
  funext e
  cases e.call <;> rfl

section

variable {P : WorkHistory → Prop} {c : WorkCall}

theorem triple_aside {Q : c.Answer → WorkHistory → Prop} {X : WorkHistory → Prop}
    (hc : ∀ r, reported ⟨c, r⟩ = none) (hhandle : isHandle c = false)
    (hallowed : ∀ r w, Link process item h s w → P w → Allowed process item ⟨c, r⟩ w)
    (hQ : ∀ r w, P w → Q r (⟨c, some r⟩ :: w)) :
    Triple recording (Along (Allowed process item)) (fun w => Link process item h s w ∧ P w)
      (ask c : WorkMethod c.Answer) (fun r w => Link process item h s w ∧ Q r w) X := by
  apply triple_ask_along
  · exact fun w r hw => hallowed r w hw.1 hw.2
  · exact fun w r hw => ⟨hw.1.aside (hallowed _ w hw.1 hw.2) (hc _) hhandle, hQ r w hw.2⟩

theorem triple_log {X : WorkHistory → Prop} (hP : Persistent recording P) (message : String) :
    Triple recording (Along (Allowed process item)) (fun w => Link process item h s w ∧ P w)
      (log message) (fun _ w => Link process item h s w ∧ P w) X :=
  triple_aside (fun _ => rfl) rfl (fun _ _ _ _ => trivial)
    fun _ _ hw => hP.cons _ hw

end

theorem persistent_ended (ended : Except WorkError (List (Units × Json))) :
    Persistent recording fun w => Ended item w ended :=
  persistent_recording fun e _ hended => hended.cons e

def Removable (process : WorkProcess) (item : AgentWorkRecord) (result : List (Units × Json))
    (w : WorkHistory) : Prop :=
  Ended item w (.ok result) ∧
    (w.filterMap reported = [] ∧ item.sanitize process (some result) = .error .redactionConflict ∨
      ∃ safeResult error, error.status = 422 ∧ sends (w.filterMap reported) =
        [⟨.send (.complete safeResult), some (.error (.api error))⟩])

theorem Removable.cons {result : List (Units × Json)} (hr : Removable process item result w)
    {e : WorkEvent} (he : reported e = none) : Removable process item result (e :: w) := by
  refine ⟨hr.1.cons e, ?_⟩
  rw [List.filterMap_cons_none he]
  exact hr.2

theorem triple_removeStarted {result : List (Units × Json)} {identifier : Units}
    {X : WorkHistory → Prop} (hstarted : identifier ∈ item.startedContainers result) :
    Triple recording (Along (Allowed process item))
      (fun w => Link process item h s w ∧ Removable process item result w)
      (removeStarted item identifier)
      (fun _ w => (Link process item h s w ∧ Removable process item result w) ∧
        ∃ r, ⟨.removeContainer identifier, r⟩ ∈ w) X := by
  let Q : WorkHistory → Prop := fun w => Removable process item result w ∧
    ∃ r, ⟨.removeContainer identifier, r⟩ ∈ w
  apply Triple.bind (R := fun _ w => Link process item h s w ∧ Q w)
  · apply triple_aside (fun _ => rfl) rfl
    · exact fun r w hl hw => ⟨result, hw.1, hstarted, hw.2⟩
    · exact fun r w hw => ⟨hw.cons rfl, some r, List.mem_cons_self⟩
  · intro r
    cases r with
    | ok _ => exact triple_pure fun w ⟨hl, hr, hmem⟩ => ⟨⟨hl, hr⟩, hmem⟩
    | error error =>
      apply Triple.mono (Q := fun _ w => Link process item h s w ∧ Q w) (X := X) _ (fun _ h => h)
        (fun _ w ⟨hl, hr, hmem⟩ => ⟨⟨hl, hr⟩, hmem⟩) fun _ h => h
      apply triple_aside (c := .log _) (fun _ => rfl) rfl (fun _ _ _ _ => trivial)
      rintro r w ⟨hr, removed, hmem⟩
      exact ⟨hr.cons rfl, removed, List.mem_cons_of_mem _ hmem⟩

theorem framed_log (message : String) : (log message).Framed fun _ => True := framed_ask trivial

theorem framed_removeStarted (identifier : Units) :
    (removeStarted item identifier).Framed fun _ => True := by
  apply framed_bind (framed_ask trivial)
  intro r
  cases r with
  | ok _ => exact framed_pure ()
  | error error => exact framed_log _

theorem reportUnreportableResult_wp {result : List (Units × Json)} {errorMessage : String}
    (hl : Link process item h s w) (hr : Removable process item result w) :
    (reportUnreportableResult process item errorMessage).wp recording
      ⟨fun report t w => t = s ∧ Link process item h s w ∧ Founded process item report w,
        fun _ _ _ => False, Along (Allowed process item)⟩ s w := by
  have hresult : s.result = some result := (hl.result result).mpr hr.1
  apply wp_bind_of (R := fun _ t w => t = s ∧ (Link process item h s w ∧
    Removable process item result w) ∧
      ∀ identifier ∈ item.startedContainers result, ∃ r, ⟨.removeContainer identifier, r⟩ ∈ w)
  · apply (wp_bind _ _).mpr
    rw [wp_locals]
    dsimp only
    rw [hresult]
    have hremoved : Triple recording (Along (Allowed process item))
        (fun w => Link process item h s w ∧ Removable process item result w)
        (Method.forEach (item.startedContainers result) (removeStarted item))
        (fun _ w => (Link process item h s w ∧ Removable process item result w) ∧
          ∀ identifier ∈ item.startedContainers result, ∃ r, ⟨.removeContainer identifier, r⟩ ∈ w)
        fun _ => False := by
      apply triple_forEach_all
      · rintro identifier w c r w' ⟨rfl, -⟩ ⟨removed, hmem⟩
        exact ⟨removed, List.mem_cons_of_mem _ hmem⟩
      · exact fun identifier hstarted => triple_removeStarted hstarted
    apply wp_mono (hremoved.framed (framed_forEach fun identifier _ => framed_removeStarted identifier)
      hl.allowed ⟨hl, hr⟩)
    · exact fun _ _ _ ⟨ht, _, hq⟩ => ⟨ht, hq⟩
    · exact fun _ _ _ ⟨_, _, hfalse⟩ => hfalse
    · exact fun _ h => h
  · rintro _ t w ⟨rfl, ⟨hl, hr⟩, hremoved⟩
    exact ⟨rfl, hl, .inr ⟨rfl, ⟨errorMessage, rfl⟩, result, hr.1, hremoved⟩⟩

section

variable (ended : Except WorkError (List (Units × Json)))

theorem triple_closeBuildLog : Triple recording (Along (Allowed process item))
    (fun w => Link process item [] s w ∧ Ended item w ended ∧ ∀ a ∈ w, isClose a.call = false)
    (closeBuildLog item (exitOf process item ended))
    (fun _ w => Link process item [] s w ∧ Ended item w ended)
    fun w => Link process item [] s w ∧ Ended item w ended := by
  unfold closeBuildLog
  split
  · next hpublishes =>
    apply Triple.bind (R := fun _ w => Link process item [] s w ∧ Ended item w ended)
    · apply triple_aside (fun _ => rfl) rfl
      · exact fun r w hl hw => ⟨hpublishes, hl.sent, hw.2, ended, hw.1, rfl⟩
      · exact fun r w hw => hw.1.cons _
    · exact fun r => triple_ofExcept (fun _ _ _ h => h) fun _ h => h
  · exact triple_pure fun w h => ⟨h.1, h.2.1⟩

theorem triple_warnLeaseLost : Triple recording (Along (Allowed process item))
    (fun w => Link process item [] s w ∧ Ended item w ended) (warnLeaseLost item)
    (fun _ w => Link process item [] s w ∧ Ended item w ended)
    fun w => Link process item [] s w ∧ Ended item w ended := by
  apply Triple.bind (R := fun _ w => Link process item [] s w ∧ Ended item w ended)
  · apply triple_aside (c := .leaseLost) (fun _ => rfl) rfl (fun _ _ _ _ => trivial)
    exact fun r w hw => hw.cons _
  · intro lost
    split
    · exact triple_log (persistent_ended ended) _
    · exact triple_pure fun _ h => h

theorem framed_closeBuildLog (exit : Option (Bool × String)) :
    (closeBuildLog item exit).Framed fun _ => True := by
  unfold closeBuildLog
  split
  · exact framed_bind (framed_ask trivial) fun r => framed_ofExcept r
  · exact framed_pure ()

theorem framed_warnLeaseLost : (warnLeaseLost item).Framed fun _ => True := by
  apply framed_bind (framed_ask trivial)
  intro lost
  split
  · exact framed_log _
  · exact framed_pure ()

theorem conclude_failed {error : WorkError} (hd : ∀ message, error ≠ .deferred message) :
    conclude process item (.error error) =
      Method.bind (closeBuildLog item (exitOf process item (.error error))) fun _ =>
        Method.bind (warnLeaseLost item) fun _ =>
          Method.bind (answered (item.failureReport process error)) fun report =>
            Method.pure (.terminal report) := by
  cases error with
  | deferred message => exact (hd message rfl).elim
  | _ => rfl

theorem founded_failureReport {error : WorkError} {report : AgentTerminalReport}
    (hd : ∀ message, error ≠ .deferred message) (hended : Ended item w (.error error))
    (hreport : item.failureReport process error = .ok report) :
    Founded process item report w := by
  have hfail := hreport
  unfold AgentWorkRecord.failureReport at hfail
  split at hfail
  · cases hfail
    exact .inl ⟨error, hended, hd, hreport⟩
  · cases hfail
    exact .inl ⟨error, hended, hd, hreport⟩
  · cases hfail

def Prepared (process : WorkProcess) (item : AgentWorkRecord) (outcome : AgentWorkOutcome)
    (w : WorkHistory) : Prop := ∀ report, outcome = .terminal report → Founded process item report w

theorem prepared_terminal {report : AgentTerminalReport} (hfounded : Founded process item report w) :
    Prepared process item (.terminal report) w := by
  rintro _ ⟨⟩
  exact hfounded

theorem concludeFailed_wp {error : WorkError} (hl : Link process item [] s w)
    (hended : Ended item w (.error error)) (hclose : ∀ a ∈ w, isClose a.call = false) :
    (conclude process item (.error error)).wp recording
      ⟨fun outcome t w => t = s ∧ Link process item [] s w ∧ Prepared process item outcome w,
        fun _ t w => t = s ∧ Link process item [] s w, Along (Allowed process item)⟩ s w := by
  have hlinked (p : WorkMethod AgentWorkOutcome) (hp : p.Framed fun _ => True)
      (ht : Triple recording (Along (Allowed process item))
        (fun w => Link process item [] s w ∧ Ended item w (.error error) ∧
          ∀ a ∈ w, isClose a.call = false) p
        (fun outcome w => Link process item [] s w ∧ Prepared process item outcome w)
        fun w => Link process item [] s w ∧ Ended item w (.error error)) :
      p.wp recording
        ⟨fun outcome t w => t = s ∧ Link process item [] s w ∧ Prepared process item outcome w,
          fun _ t w => t = s ∧ Link process item [] s w, Along (Allowed process item)⟩ s w := by
    apply wp_mono (ht.framed hp hl.allowed ⟨hl, hended, hclose⟩)
    · exact fun _ _ _ ⟨ht, _, hq⟩ => ⟨ht, hq⟩
    · exact fun _ _ _ ⟨ht, _, hx⟩ => ⟨ht, hx.1⟩
    · exact fun _ h => h
  by_cases hd : ∀ message, error ≠ .deferred message
  · rw [conclude_failed hd]
    apply hlinked
    · apply framed_bind (framed_closeBuildLog _)
      intro _
      apply framed_bind framed_warnLeaseLost
      intro _
      exact framed_bind (framed_ofExcept _) fun report => framed_pure _
    · apply (triple_closeBuildLog (.error error)).bind
      intro _
      apply (triple_warnLeaseLost (.error error)).bind
      intro _
      apply Triple.bind (R := fun report w => Link process item [] s w ∧
        Founded process item report w)
      · apply triple_ofExcept
        · exact fun report hreport w hw => ⟨hw.1, founded_failureReport hd hw.2 hreport⟩
        · exact fun _ h => h
      · intro report
        apply triple_pure
        rintro w ⟨hl, hfounded⟩
        exact ⟨hl, prepared_terminal hfounded⟩
  · push Not at hd
    obtain ⟨message, rfl⟩ := hd
    apply hlinked
    · exact framed_bind (framed_closeBuildLog _) fun _ => framed_pure _
    · apply (triple_closeBuildLog (.error (.deferred message))).bind
      intro _
      apply triple_pure
      exact fun w hw => ⟨hw.1, fun _ hreport => nomatch hreport⟩

theorem concludeDone_wp {result : List (Units × Json)} (hl : Link process item [] s w)
    (hended : Ended item w (.ok result)) (hclose : ∀ a ∈ w, isClose a.call = false) :
    (conclude process item (.ok result)).wp recording
      ⟨fun outcome t w => t = s ∧ Link process item [] s w ∧ Prepared process item outcome w,
        fun _ t w => t = s ∧ Link process item [] s w, Along (Allowed process item)⟩ s w := by
  apply wp_bind_of (R := fun _ t w => t = s ∧ Link process item [] s w ∧ Ended item w (.ok result))
  · apply wp_mono ((triple_closeBuildLog (.ok result)).framed (framed_closeBuildLog _)
      hl.allowed ⟨hl, hended, hclose⟩)
    · exact fun _ _ _ ⟨ht, _, hq⟩ => ⟨ht, hq⟩
    · exact fun _ _ _ ⟨ht, _, hx⟩ => ⟨ht, hx.1⟩
    · exact fun _ h => h
  rintro _ t w ⟨rfl, hl, hended⟩
  apply wp_bind_of (R := fun _ s w => s = t ∧ Link process item [] t w ∧ Ended item w (.ok result))
  · apply wp_mono ((triple_warnLeaseLost (.ok result)).framed framed_warnLeaseLost
      hl.allowed ⟨hl, hended⟩)
    · exact fun _ _ _ ⟨ht, _, hq⟩ => ⟨ht, hq⟩
    · exact fun _ _ _ ⟨ht, _, hx⟩ => ⟨ht, hx.1⟩
    · exact fun _ h => h
  rintro _ s w ⟨rfl, hl, hended⟩
  split
  · next safeResult hsafe =>
    exact ⟨rfl, hl, prepared_terminal ⟨result, hended, hsafe⟩⟩
  · next hconflict =>
    apply wp_bind_of (wp_mono (reportUnreportableResult_wp hl
      ⟨hended, .inl ⟨hl.sent, hconflict⟩⟩) (fun _ _ _ h => h) (fun _ _ _ h => h.elim) fun _ h => h)
    rintro report t w ⟨rfl, hl, hfounded⟩
    exact ⟨rfl, hl, prepared_terminal hfounded⟩
  · exact ⟨rfl, hl⟩

end

def Fresh (w : WorkHistory) : Prop := ∀ a ∈ w, isHandle a.call = false ∧ isClose a.call = false

theorem Fresh.handled (hf : Fresh w) {kind : WorkKind} {r : Except WorkError Handled} :
    ∀ a ∈ (⟨.handle kind, some r⟩ : WorkEvent) :: w, isClose a.call = false := by
  rw [List.forall_mem_cons]
  exact ⟨rfl, fun a ha => (hf a ha).2⟩

theorem Link.handled (hl : Link process item [] s w) (hf : Fresh w) {kind : WorkKind}
    (hkind : WorkKind.named.lookup item.kind = some kind) (handled : Handled) :
    Link process item [] { s with
      result := some handled.result
      pendingAgentUpdater := decide (kind = .updateAgent) && handled.updater }
      (⟨.handle kind, some (.ok handled)⟩ :: w) := by
  constructor
  · exact ⟨⟨hkind, hl.ready, hl.sent, fun a ha => (hf a ha).1⟩, hl.allowed⟩
  · exact List.mem_cons_of_mem _ hl.ready
  · exact hl.sent
  · exact hl.delivery
  · intro result
    constructor
    · rintro ⟨⟩
      exact ⟨kind, handled, List.mem_cons_self, rfl⟩
    · rintro ⟨kind', handled', hmem, rfl⟩
      rcases List.mem_cons.mp hmem with heq | hmem
      · cases heq
        rfl
      · exact nomatch (hf _ hmem).1
  · intro hpending
    rw [Bool.and_eq_true, decide_eq_true_iff] at hpending
    obtain ⟨rfl, hupdater⟩ := hpending
    exact ⟨handled, List.mem_cons_self, hupdater⟩
  · rintro report (hprepared | ⟨error, hrejected⟩)
    · exact (List.not_mem_nil hprepared).elim
    · exact (List.not_mem_nil hrejected).elim

theorem Link.unhandled (hl : Link process item [] s w) (hf : Fresh w) {kind : WorkKind}
    (hkind : WorkKind.named.lookup item.kind = some kind) (error : WorkError) :
    Link process item [] s (⟨.handle kind, some (.error error)⟩ :: w) := by
  constructor
  · exact ⟨⟨hkind, hl.ready, hl.sent, fun a ha => (hf a ha).1⟩, hl.allowed⟩
  · exact List.mem_cons_of_mem _ hl.ready
  · exact hl.sent
  · exact hl.delivery
  · intro result
    rw [hl.result result]
    constructor
    · exact fun hended => hended.cons _
    · rintro ⟨kind', handled, hmem, hresult⟩
      rcases List.mem_cons.mp hmem with heq | hmem
      · cases heq
      · exact ⟨kind', handled, hmem, hresult⟩
  · intro hpending
    obtain ⟨handled, hmem, hupdater⟩ := hl.updater hpending
    exact ⟨handled, List.mem_cons_of_mem _ hmem, hupdater⟩
  · rintro report (hprepared | ⟨error, hrejected⟩)
    · exact (List.not_mem_nil hprepared).elim
    · exact (List.not_mem_nil hrejected).elim

theorem runHandler_wp (hl : Link process item [] s w) (hf : Fresh w) {kind : WorkKind}
    (hkind : WorkKind.named.lookup item.kind = some kind) :
    (runHandler kind).wp recording
      ⟨fun ended t w => Link process item [] t w ∧ Ended item w ended ∧
        ∀ a ∈ w, isClose a.call = false, fun _ _ _ => False, Along (Allowed process item)⟩ s w := by
  apply (wp_bind _ _).mpr
  apply (wp_ask_assuming _).mpr
  constructor
  · exact fun _ => ⟨⟨hkind, hl.ready, hl.sent, fun a ha => (hf a ha).1⟩, hl.allowed⟩
  · intro r _
    cases r with
    | ok handled =>
      exact ⟨hl.handled hf hkind handled, ⟨kind, handled, List.mem_cons_self, rfl⟩, hf.handled⟩
    | error error =>
      exact ⟨hl.unhandled hf hkind error, .inl ⟨kind, List.mem_cons_self⟩, hf.handled⟩

theorem prepare_wp (hl : Link process item [] s w) (hf : Fresh w) :
    (prepare process item).wp recording
      ⟨fun outcome t w => Link process item [] t w ∧ Prepared process item outcome w,
        fun _ t w => Link process item [] t w, Along (Allowed process item)⟩ s w := by
  unfold prepare
  split
  · next hnone =>
    apply wp_mono (concludeFailed_wp hl (.inr ⟨hnone, rfl⟩) fun a ha => (hf a ha).2)
    · exact fun _ _ _ ⟨ht, hl, hp⟩ => ⟨ht ▸ hl, hp⟩
    · exact fun _ _ _ ⟨ht, hl⟩ => ht ▸ hl
    · exact fun _ h => h
  · next kind hkind =>
    apply wp_bind_of (wp_mono (runHandler_wp hl hf hkind) (fun _ _ _ h => h) (fun _ _ _ h => h.elim)
      fun _ h => h)
    rintro ended t w ⟨hl, hended, hclose⟩
    have hconcluded : (conclude process item ended).wp recording
        ⟨fun outcome s w => s = t ∧ Link process item [] t w ∧ Prepared process item outcome w,
          fun _ s w => s = t ∧ Link process item [] t w, Along (Allowed process item)⟩ t w := by
      cases ended with
      | ok result => exact concludeDone_wp hl hended hclose
      | error error => exact concludeFailed_wp hl hended hclose
    apply wp_mono hconcluded
    · exact fun _ _ _ ⟨ht, hl, hp⟩ => ⟨ht ▸ hl, hp⟩
    · exact fun _ _ _ ⟨ht, hl⟩ => ht ▸ hl
    · exact fun _ h => h

def Reporting (e : ReportEvent) (h : ReportHistory) : Prop := Orderly e h ∧ SendsSourced e h

def Between (process : WorkProcess) (item : AgentWorkRecord) (h : ReportHistory) (s : WorkLocals)
    (w : WorkHistory) : Prop := Link process item h s w ∧ (h = [] → Fresh w)

theorem Link.between {e : ReportEvent} (hl : Link process item (e :: h) s w) :
    Between process item (e :: h) s w := ⟨hl, nofun⟩

theorem allowed_post {report : AgentTerminalReport} {r : Option (Except ReportFailure Unit)}
    (hl : Link process item h s w) (ho : Orderly ⟨.send report, r⟩ h) (hs : Sourced report h) :
    Allowed process item ⟨.post report, r⟩ w := by
  obtain ⟨hrunning, _, _, hunsent, hfail⟩ := ho
  refine ⟨hl.ready, hl.founded report hs, ?_, ?_, ?_⟩
  · exact fun hstopped => hrunning ((stopped_sent hl).mp hstopped)
  · exact fun a ha => hunsent a (mem_of_sent hl ha)
  · exact fun hf a ha => hfail hf a (mem_of_sent hl ha)

theorem send_wp {report : AgentTerminalReport} (hl : Link process item h s w)
    (hallowed : ∀ r, Reporting ⟨.send report, r⟩ h) : (send report).wp recording
      ⟨fun r t w => Between process item (⟨.send report, some r⟩ :: h) t w, fun _ _ _ => False,
        Along (Allowed process item)⟩ s w := by
  have hpost (r) : Allowed process item ⟨.post report, r⟩ w :=
    allowed_post hl (hallowed r).1 ((hallowed r).2 report rfl)
  apply (wp_bind _ _).mpr
  apply (wp_ask_assuming _).mpr
  constructor
  · exact fun _ => ⟨hpost none, hl.allowed⟩
  · intro r _
    have hnext : Link process item (⟨.send report, some r⟩ :: h)
        { s with completionDelivery := completionDelivery (⟨.send report, some r⟩ :: h) }
        (⟨.post report, some r⟩ :: w) := hl.outward (hpost (some r)) rfl rfl rfl
    rw [completionDelivery_cons, ← hl.delivery] at hnext
    cases report with
    | complete result => cases r <;> exact hnext.between
    | fail result errorMessage => exact hnext.between

theorem rejectResult_wp {error : ApiRequestError} (hl : Link process item h s w)
    (hreporting : Along Reporting h) (ho : Orderly ⟨.rejectResult error, none⟩ h) :
    (callback process item (.rejectResult error)).wp recording
      ⟨fun r t w => Between process item (⟨.rejectResult error, some r⟩ :: h) t w,
        fun _ _ _ => False, Along (Allowed process item)⟩ s w := by
  obtain ⟨hstatus, _, safeResult, hsends⟩ := ho
  obtain ⟨result, hended, _⟩ : Founded process item (.complete safeResult) w := by
    have hmem : ⟨.send (.complete safeResult), some (.error (.api error))⟩ ∈ h := by
      have hsend : ⟨.send (.complete safeResult), some (.error (.api error))⟩ ∈ sends h :=
        hsends ▸ List.mem_singleton_self _
      exact (List.mem_filter.mp hsend).1
    obtain ⟨later, before, rfl⟩ := List.append_of_mem hmem
    have hsourced := (along_iff.mp hreporting later _ before rfl).2 _ rfl
    apply hl.founded
    obtain hprepared | ⟨e, hrejected⟩ := hsourced
    · exact .inl (List.mem_append_right _ (List.mem_cons_of_mem _ hprepared))
    · exact .inr ⟨e, List.mem_append_right _ (List.mem_cons_of_mem _ hrejected)⟩
  apply (wp_settle _).mpr
  apply wp_mono (reportUnreportableResult_wp hl
    ⟨hended, .inr ⟨safeResult, error, hstatus, (sends_sent hl).trans hsends⟩⟩)
  · rintro report t w ⟨rfl, hl, hfounded⟩
    apply Link.between
    apply hl.saw rfl
    rintro other (hprepared | ⟨e, hrejected⟩)
    · rcases List.mem_cons.mp hprepared with heq | hprepared
      · cases heq
      · exact .inl (.inl hprepared)
    · rcases List.mem_cons.mp hrejected with heq | hrejected
      · cases heq
        exact .inr hfounded
      · exact .inl (.inr ⟨e, hrejected⟩)
  · exact fun _ _ _ h => h.elim
  · exact fun _ h => h

theorem prepareCallback_wp (hl : Link process item [] s w) (hf : Fresh w) :
    (callback process item .prepare).wp recording
      ⟨fun r t w => Between process item [⟨.prepare, some r⟩] t w, fun _ _ _ => False,
        Along (Allowed process item)⟩ s w := by
  have hprepared {r : Except ReportFailure AgentWorkOutcome} {t : WorkLocals} {w : WorkHistory}
      (hl : Link process item [] t w)
      (hfounded : ∀ report, r = .ok (.terminal report) → Founded process item report w) :
      Between process item [⟨.prepare, some r⟩] t w := by
    apply Link.between
    apply hl.saw rfl
    rintro report (hmem | ⟨error, hmem⟩)
    · rw [List.mem_singleton] at hmem
      cases hmem
      exact .inr (hfounded report rfl)
    · rw [List.mem_singleton] at hmem
      cases hmem
  apply (wp_settle _).mpr
  apply wp_mono (prepare_wp hl hf)
  · exact fun outcome t w ⟨hl, hp⟩ => hprepared hl fun report hr => hp report (Except.ok.inj hr)
  · exact fun error t w hl => hprepared hl fun report hr => nomatch hr
  · exact fun _ h => h

theorem Link.unseen (hl : Link process item h s w) {e : ReportEvent}
    (he : (∃ ms, e.call = .sleep ms) ∨ ∃ message, e.call = .log message) :
    Link process item (e :: h) s w := by
  obtain ⟨c, r⟩ := e
  have hc : isOutward c = false ∧ c ≠ .prepare ∧ ∀ error, c ≠ .rejectResult error := by
    obtain ⟨ms, rfl⟩ | ⟨message, rfl⟩ := he <;> simp [isOutward]
  apply hl.saw hc.1
  rintro report (hprepared | ⟨error, hrejected⟩)
  · rcases List.mem_cons.mp hprepared with heq | hprepared
    · exact (hc.2.1 (congrArg Event.call heq).symm).elim
    · exact .inl (.inl hprepared)
  · rcases List.mem_cons.mp hrejected with heq | hrejected
    · exact (hc.2.2 error (congrArg Event.call heq).symm).elim
    · exact .inl (.inr ⟨error, hrejected⟩)

theorem stopped_wp (hl : Link process item h s w) (hrunning : ¬ Stopped h) :
    (callback process item .stopLease).wp recording
      ⟨fun r t w => Between process item (⟨.stopLease, some r⟩ :: h) t w, fun _ _ _ => False,
        Along (Allowed process item)⟩ s w := by
  have hallowed (r) : Allowed process item ⟨.stopLease, r⟩ w :=
    fun hstopped => hrunning ((stopped_sent hl).mp hstopped)
  apply (wp_ask_assuming _).mpr
  constructor
  · exact fun _ => ⟨hallowed none, hl.allowed⟩
  · intro r _
    apply Link.between
    apply hl.outward (hallowed (some r)) rfl rfl
    rw [completionDelivery_cons]
    dsimp only [completionAttempt]
    rw [← hl.delivery]

theorem callback_wp {c : ReportCall} (hc : ∀ r, Reporting ⟨c, r⟩ h) (hreporting : Along Reporting h)
    (hb : Between process item h s w) : (callback process item c).wp recording
      ⟨fun r t w => Between process item (⟨c, some r⟩ :: h) t w, fun _ _ _ => False,
        Along (Allowed process item)⟩ s w := by
  obtain ⟨hl, hfresh⟩ := hb
  cases c with
  | prepare =>
    have hnil : h = [] := (hc none).1
    subst hnil
    exact prepareCallback_wp hl (hfresh rfl)
  | send report => exact send_wp hl hc
  | rejectResult error => exact rejectResult_wp hl hreporting (hc none).1
  | stopLease => exact stopped_wp hl (hc none).1
  | sleep ms =>
    apply (wp_ask_assuming _).mpr
    constructor
    · exact fun _ => ⟨trivial, hl.allowed⟩
    · exact fun r _ => ((hl.aside (e := ⟨.sleep ms, some r⟩) trivial rfl rfl).unseen
        (.inl ⟨ms, rfl⟩)).between
  | log message =>
    apply (wp_ask_assuming _).mpr
    constructor
    · exact fun _ => ⟨trivial, hl.allowed⟩
    · exact fun r _ => ((hl.aside (e := ⟨.log message, some r⟩) trivial rfl rfl).unseen
        (.inr ⟨message, rfl⟩)).between

def Closed (process : WorkProcess) (item : AgentWorkRecord) (s : WorkLocals) (w : WorkHistory) :
    Prop := ∃ h, Along Orderly h ∧ ReportedWork.Finished h ∧ Link process item h s w

theorem executed_wp (hl : Link process item [] s w) (hf : Fresh w) :
    (Method.interpret (callback process item)
      (ReportedWork.executeAndReportAgentWork ⟨item.id, item.kind⟩ (item.redactError process))).wp
        recording ⟨fun _ => Closed process item, fun _ => Closed process item,
          Along (Allowed process item)⟩ s w := by
  have hordered := @ReportedWork.executeAndReportAgentWork_wp ⟨item.id, item.kind⟩
    (item.redactError process)
  have hsourced := @ReportedWork.triple_executeAndReportAgentWork ⟨item.id, item.kind⟩
    (item.redactError process) () [] trivial trivial
  let Q : Outcome (Except ReportFailure Unit × Unit) → ReportHistory → Prop
    | .done _, h => ReportedWork.Finished h
    | .cut, _ => True
  have hreporting : (ReportedWork.executeAndReportAgentWork ⟨item.id, item.kind⟩
      (item.redactError process) ()).wp recording (fun o h => Along Reporting h ∧ Q o h) [] := by
    apply Program.wp_mono (wp_and hordered hsourced)
    rintro (⟨e | a, _⟩ | _) h ⟨hfinished, hsends⟩
    · exact ⟨Along.and.mpr ⟨hfinished.orderly, hsends.1⟩, hfinished⟩
    · exact ⟨Along.and.mpr ⟨hfinished.orderly, hsends.1⟩, hfinished⟩
    · exact ⟨Along.and.mpr ⟨hfinished.elim (fun ho => ho.orderly) fun hf => hf.orderly, hsends⟩,
        trivial⟩
  have hrun := Program.wp_interpret (I := Between process item) (K := Along (Allowed process item))
    (fun c h s w hc hreporting hb => callback_wp hc hreporting hb) (fun h s w hb => hb.1.allowed)
    hreporting ⟨hl, fun _ => hf⟩
  apply wp_bind_of (wp_mono hrun (fun _ _ _ h => h) (fun _ _ _ h => h.elim) fun _ h => h)
  rintro ⟨r, _⟩ t w ⟨h, hreporting, hfinished, hb⟩
  have hclosed : Closed process item t w := ⟨h, (Along.and.mp hreporting).1, hfinished, hb.1⟩
  exact (wp_ofExcept r).mpr ⟨fun _ _ => hclosed, fun _ _ => hclosed⟩

structure Done (process : WorkProcess) (item : AgentWorkRecord) (w : WorkHistory) : Prop where
  allowed : Along (Allowed process item) w
  stopped : (∃ a ∈ w, a.call = .ready) → Stopped (w.filterMap reported)

theorem Closed.done (hc : Closed process item s w) : Done process item w := by
  obtain ⟨h, _, ⟨r, earlier, rfl, _⟩, hl⟩ := hc
  exact ⟨hl.allowed, fun _ => (stopped_sent hl).mpr ⟨_, List.mem_cons_self, rfl⟩⟩

theorem Done.aside (hd : Done process item w) {e : WorkEvent} (he : Allowed process item e w)
    (hreported : reported e = none) (hready : e.call ≠ .ready) : Done process item (e :: w) := by
  refine ⟨⟨he, hd.allowed⟩, ?_⟩
  rintro ⟨a, hmem, hcall⟩
  rw [List.filterMap_cons_none hreported]
  rcases List.mem_cons.mp hmem with rfl | hmem
  · exact (hready hcall).elim
  · exact hd.stopped ⟨a, hmem, hcall⟩

theorem restartAgent_wp (hc : Closed process item s w) : (restartAgent item).wp recording
    ⟨fun _ _ => Done process item, fun _ _ => Done process item, Along (Allowed process item)⟩ s w := by
  have hdone := hc.done
  obtain ⟨h, horderly, ⟨r, earlier, rfl, _⟩, hl⟩ := hc
  unfold restartAgent
  apply (wp_bind _ _).mpr
  rw [wp_locals]
  dsimp only
  split
  · next hpending =>
    split
    · next hstart =>
      rw [hl.delivery, shouldStart_iff horderly] at hstart
      obtain ⟨e, hmem, hknown⟩ := hstart
      have hallowed (r) : Allowed process item ⟨.requestAgentUpdate, r⟩ w := by
        refine ⟨(stopped_sent hl).mpr ⟨_, List.mem_cons_self, rfl⟩, ⟨e, ?_, hknown⟩,
          hl.updater hpending⟩
        rw [hl.sent]
        refine List.mem_filter.mpr ⟨hmem, ?_⟩
        obtain ⟨c, r⟩ := e
        cases c with
        | send report => rfl
        | _ => obtain hnone | ⟨error, hnone, _⟩ := hknown <;> exact nomatch hnone
      apply (wp_ask_assuming _).mpr
      constructor
      · exact fun _ => ⟨hallowed none, hl.allowed⟩
      · exact fun r _ => hdone.aside (hallowed (some r)) rfl nofun
    · apply (wp_ask_assuming _).mpr
      constructor
      · exact fun _ => ⟨trivial, hl.allowed⟩
      · exact fun r _ => hdone.aside trivial rfl nofun
  · exact hdone

theorem processWorkItem_wp : (processWorkItem process item).wp recording
    ⟨fun _ _ => Done process item, fun _ _ => Done process item, Along (Allowed process item)⟩
      {} [] := by
  have hlogged {m : String} (r : Option Unit) {w : WorkHistory} (hw : Along (Allowed process item) w) :
      Along (Allowed process item) (⟨.log m, r⟩ :: w) := ⟨trivial, hw⟩
  unfold processWorkItem
  apply (wp_bind _ _).mpr
  apply (wp_ask_assuming _).mpr
  refine ⟨fun _ => hlogged none trivial, fun r _ => ?_⟩
  dsimp only
  split
  · apply (wp_ask_assuming _).mpr
    refine ⟨fun _ => hlogged none (hlogged _ trivial), fun r _ => ⟨hlogged _ (hlogged _ trivial), ?_⟩⟩
    simp
  apply (wp_bind _ _).mpr
  apply (wp_ask_assuming _).mpr
  have hready (a : Option Bool) (m : String) (r : Option Unit) :
      Allowed process item ⟨.ready, a⟩ [⟨.log m, r⟩] := by
    intro b hb
    rw [List.mem_singleton] at hb
    exact ⟨m, hb ▸ rfl⟩
  refine ⟨fun _ => ⟨hready none _ _, hlogged _ trivial⟩, fun active _ => ?_⟩
  cases active with
  | true =>
    have hl : Link process item [] {} [⟨.ready, some true⟩, ⟨.log _, some r⟩] := by
      constructor
      · exact ⟨hready _ _ _, hlogged _ trivial⟩
      · exact List.mem_cons_self
      · rfl
      · rfl
      · intro result
        constructor
        · exact nofun
        · rintro ⟨kind, handled, hmem, -⟩
          simp at hmem
      · exact nofun
      · rintro report (hprepared | ⟨error, hrejected⟩)
        · exact (List.not_mem_nil hprepared).elim
        · exact (List.not_mem_nil hrejected).elim
    have hfresh : Fresh [⟨.ready, some true⟩, ⟨.log _, some r⟩] := by
      rintro a ha
      simp only [List.mem_cons, List.not_mem_nil, or_false] at ha
      rcases ha with rfl | rfl <;> exact ⟨rfl, rfl⟩
    apply wp_bind_of (wp_mono (executed_wp hl hfresh) (fun _ _ _ h => h)
      (fun _ _ _ hclosed => hclosed.done) fun _ h => h)
    exact fun _ s w hclosed => restartAgent_wp hclosed
  | false =>
    have hstop (r' : Option (Except ReportFailure Unit)) :
        Along (Allowed process item) [⟨.stopLease, r'⟩, ⟨.ready, some false⟩, ⟨.log _, some r⟩] := by
      refine ⟨?_, hready _ _ _, hlogged _ trivial⟩
      rintro ⟨e, hmem, -⟩
      exact List.not_mem_nil hmem
    have hdone (r' : Except ReportFailure Unit) : Done process item
        [⟨.stopLease, some r'⟩, ⟨.ready, some false⟩, ⟨.log _, some r⟩] :=
      ⟨hstop _, fun _ => ⟨_, List.mem_cons_self, rfl⟩⟩
    apply (wp_bind _ _).mpr
    apply (wp_ask_assuming _).mpr
    refine ⟨fun _ => hstop none, fun r' _ => ?_⟩
    exact (wp_ofExcept r').mpr ⟨fun _ _ => hdone r', fun _ _ => hdone r'⟩

/-- In every run of a work item each call comes only when it is allowed. A handler of the item's own
kind is called once, under a lease; its containers are removed only when its result cannot be
reported; what is reported is what it ended with, redacted, and never after a success, after the
lease was stopped, or as a failure where a completion may have been taken; the agent is restarted
only for an update that the control plane may know of. A run that ends has stopped the lease. -/
theorem work_item_reported_in_order (process : WorkProcess) (item : AgentWorkRecord)
    (env : Environment WorkCall.Answer) :
    let run := (processWorkItem process item {}).run env []
    Along (Allowed process item) run.2 ∧
      (run.1 ≠ .cut → (∃ a ∈ run.2, a.call = .ready) → Stopped (run.2.filterMap reported)) := by
  have hwp : (processWorkItem process item).wp recording
      ⟨fun _ _ => Done process item, fun _ _ => Done process item, Along (Allowed process item)⟩
        {} [] := processWorkItem_wp
  have hend := Program.wp_run (F := fun _ _ => True) hwp
    (along_iff.mpr fun _ _ _ (_ : ((processWorkItem process item {}).run env []).2 = _) => trivial)
  dsimp only
  revert hend
  rcases (processWorkItem process item {}).run env [] with ⟨⟨_ | _, _⟩ | _, h⟩
  · exact fun hend => ⟨hend.allowed, fun _ => hend.stopped⟩
  · exact fun hend => ⟨hend.allowed, fun _ => hend.stopped⟩
  · exact fun hend => ⟨hend, fun hne => absurd rfl hne⟩

end NouvaAgent.WorkItem
