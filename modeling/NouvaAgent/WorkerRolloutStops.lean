import NouvaAgent.WorkerRolloutCalls

namespace NouvaAgent

open Text Interaction Agent Method WorkerShutdown WorkerVolume WorkerRollout

def StopsNothing : AgentCall → Prop
  | .request r => match r with
    | .stopContainer _ _ _ | .killContainer _ _ => False
    | .updateContainerRestartPolicy _ policy => policy ≠ "no"
    | _ => True
  | _ => True

def ListsNothing (c : AgentCall) : Prop := ∀ labels, c ≠ .request (.listContainersByLabels labels)

def Plain (c : AgentCall) : Prop := StopsNothing c ∧ ListsNothing c

abbrev StopAttempt := WorkerStop × Except Failure WorkerShutdownReport

/-- Of the history, these stops, in the order in which they were attempted, are all that stopped
anything. Stops that were attempted together may have run side by side. -/
inductive Attempts (fuel : ℕ) : List StopAttempt → AgentHistory → Prop
  | nil : Attempts fuel [] []
  | other {attempts : List StopAttempt} {h : AgentHistory} {e : AgentEvent}
      (he : StopsNothing e.call) (ha : Attempts fuel attempts h) : Attempts fuel attempts (e :: h)
  | together {attempts : List StopAttempt} {h seg : AgentHistory} {stops : List WorkerStop}
      {results : List (Except Failure WorkerShutdownReport)}
      (hran : Ran (allSettled fuel (stops.map (stopWorkerContainerGracefully fuel))) seg
        (.ok results)) (ha : Attempts fuel attempts h) :
      Attempts fuel (attempts ++ stops.zip results) (seg ++ h)

/-- One of the stops that were attempted together, and how it ended. -/
def StoppedBeside (fuel : ℕ) (attempt : StopAttempt) (h : AgentHistory) : Prop :=
  ∃ later seg before, ∃ stops : List WorkerStop,
    ∃ results : List (Except Failure WorkerShutdownReport), h = later ++ (seg ++ before) ∧
      Ran (allSettled fuel (stops.map (stopWorkerContainerGracefully fuel))) seg (.ok results) ∧
      attempt ∈ stops.zip results

/-- The report of a stop is its own, or says that a stop which failed is unconfirmed. -/
def Reports (attempt : StopAttempt) (report : WorkerShutdownReport) : Prop :=
  report.containerName = attempt.1.containerName ∧ report.role = attempt.1.role ∧
    (attempt.2 = .ok report ∨ (∃ error, attempt.2 = .error error) ∧ report.outcome = .unconfirmed)

section

variable {fuel : ℕ} {attempts others : List StopAttempt} {h later : AgentHistory} {c : AgentCall}

theorem Looks.plain (hc : Looks c) : Plain c := by
  cases c with
  | request r =>
    cases r with
    | inspectContainer _ | countContainerExits _ _ _ | listContainersUsingVolume _ =>
      exact ⟨trivial, fun _ => by simp⟩
    | _ => exact hc.elim
  | now | sleep => exact ⟨trivial, fun _ => by simp⟩

theorem tasks_plain (hc : Tasks c) : Plain c := by
  cases c with
  | request r =>
    cases r with
    | pullImage _ | createVolume _ _ | createContainer _ | startContainer _ | waitContainer _ _
    | containerLogs _ | removeContainer _ _ _ => exact ⟨trivial, fun _ => by simp⟩
    | _ => exact hc.elim
  | _ => exact hc.elim

theorem stops_listsNothing {stop : WorkerStop} (hc : Stops stop c) : ListsNothing c := by
  rintro labels rfl
  exact hc

theorem attempts_of_other (hh : ∀ e ∈ h, StopsNothing e.call) : Attempts fuel [] h := by
  induction h with
  | nil => exact .nil
  | cons e h ih =>
    rw [List.forall_mem_cons] at hh
    exact .other hh.1 (ih hh.2)

theorem StoppedBeside.within {attempt : StopAttempt} (hs : StoppedBeside fuel attempt h)
    (later earlier : AgentHistory) : StoppedBeside fuel attempt (later ++ (h ++ earlier)) := by
  obtain ⟨later', seg, before, stops, results, rfl, hran, hmem⟩ := hs
  exact ⟨later ++ later', seg, before ++ earlier, stops, results,
    by simp only [List.append_assoc], hran, hmem⟩

theorem Attempts.append (ha : Attempts fuel attempts h) (hb : Attempts fuel others later) :
    Attempts fuel (attempts ++ others) (later ++ h) := by
  induction hb with
  | nil => simpa using ha
  | other he _ ih => exact .other he ih
  | @together _ previous seg _ _ hran _ ih =>
    rw [← List.append_assoc, List.append_assoc seg previous h]
    exact .together hran ih

end

theorem stops_ran {fuel : ℕ} {stops : List WorkerStop} {seg : AgentHistory}
    {results : List (Except Failure WorkerShutdownReport)}
    (hran : Ran (allSettled fuel (stops.map (stopWorkerContainerGracefully fuel))) seg
      (.ok results)) : results.length = stops.length ∧ (∀ e ∈ seg, ListsNothing e.call) ∧
    ∀ attempt ∈ stops.zip results, ∀ own, attempt.2 = .ok own →
      own.containerName = attempt.1.containerName ∧ own.role = attempt.1.role := by
  have huses (stop : WorkerStop) :
      (stopWorkerContainerGracefully fuel stop : AgentAction _).Uses ListsNothing := fun s =>
    (stopWorkerContainerGracefully_confined s).mono (fun _ => stops_listsNothing) fun _ _ => trivial
  refine ⟨?_, ?_, fun attempt hattempt => ?_⟩
  · have hlength := (hran.confined (confined_allSettled (R := fun _ _ => True)
      fun _ p _ => confined_any p)).2.1
    rwa [List.length_map] at hlength
  · refine (hran.confined (uses_allSettled fun p hp => ?_).confined).1
    obtain ⟨stop, -, rfl⟩ := List.mem_map.mp hp
    exact huses stop
  · obtain ⟨i, hi⟩ := List.mem_iff_getElem?.mp hattempt
    obtain ⟨hstop, hresult⟩ := List.getElem?_zip_eq_some.mp hi
    obtain ⟨p, part, hp, -, hrun⟩ := allSettled_ran hran hresult
    rw [List.getElem?_map, hstop] at hp
    obtain rfl := Option.some.inj hp
    intro own hown
    rw [hown] at hrun
    exact (hrun.confined stopWorkerContainerGracefully_confined).2

namespace WorkerDeployment

variable {d : WorkerDeployment} {σ : Type}

structure Advances (d : WorkerDeployment) (attempts : List StopAttempt) (s : WorkerRolloutLocals)
    (seg : AgentHistory) (s' : WorkerRolloutLocals) : Prop where
  attempted : Attempts d.fuel attempts seg
  reported : ∃ reports, s'.shutdowns = s.shutdowns ++ reports ∧ List.Forall₂ Reports attempts reports
  listsNothing : ∀ e ∈ seg, ListsNothing e.call

section

variable {attempts others : List StopAttempt} {s t u : WorkerRolloutLocals}
  {seg before later : AgentHistory}

theorem Advances.trans (hbefore : d.Advances attempts s before t)
    (hlater : d.Advances others t later u) :
    d.Advances (attempts ++ others) s (later ++ before) u := by
  obtain ⟨reports, ht, hreports⟩ := hbefore.reported
  obtain ⟨reports', hu, hreports'⟩ := hlater.reported
  refine ⟨hbefore.attempted.append hlater.attempted, ⟨reports ++ reports', ?_, ?_⟩, fun e he => ?_⟩
  · rw [hu, ht, List.append_assoc]
  · exact List.rel_append hreports hreports'
  · obtain he | he := List.mem_append.mp he
    · exact hlater.listsNothing e he
    · exact hbefore.listsNothing e he

theorem Advances.subset (ha : d.Advances attempts s seg t) : s.shutdowns ⊆ t.shutdowns := by
  obtain ⟨reports, ht, -⟩ := ha.reported
  rw [ht]
  exact List.subset_append_left s.shutdowns reports

theorem advances_of_plain (hseg : ∀ e ∈ seg, Plain e.call) (hs : t.shutdowns = s.shutdowns) :
    d.Advances [] s seg t where
  attempted := attempts_of_other fun e he => (hseg e he).1
  reported := ⟨[], by rw [hs, List.append_nil], .nil⟩
  listsNothing := fun e he => (hseg e he).2

theorem advances_of_framed {α : Type} {p : AgentMethod WorkerRolloutLocals α} {a : α}
    (h : p.Returns s seg a t) (hp : p.Framed Plain) : d.Advances [] s seg t := by
  obtain ⟨rfl, hcalls⟩ := h.framed hp
  exact advances_of_plain hcalls rfl

theorem Advances.andAssign {f : WorkerRolloutLocals → WorkerRolloutLocals}
    (hbefore : d.Advances attempts s before t)
    (h : (Method.assign f : AgentMethod WorkerRolloutLocals Unit).Returns t later () u)
    (hf : ∀ t, (f t).shutdowns = t.shutdowns) : d.Advances attempts s (later ++ before) u := by
  obtain ⟨rfl, rfl⟩ := h.of_assign
  have hnone : d.Advances [] t [] (f t) := advances_of_plain (by simp) (hf t)
  simpa using hbefore.trans hnone

theorem Advances.andPlain {α : Type} {p : AgentMethod WorkerRolloutLocals α} {a : α}
    (hbefore : d.Advances attempts s before t) (h : p.Returns t later a u) (hp : p.Framed Plain) :
    d.Advances attempts s (later ++ before) u := by
  simpa using hbefore.trans (advances_of_framed h hp)

end

section

variable {roleOf : DockerContainerInspection → WorkerShutdownRole}

theorem settledReports_returns {startedAt : ℤ}
    {settled : List (DockerContainerInspection × Except Failure WorkerShutdownReport)}
    {s s' : σ} {seg : AgentHistory} {reports : List WorkerShutdownReport}
    (hown : ∀ entry ∈ settled, ∀ own, entry.2 = .ok own →
      own.containerName = getContainerName entry.1 ∧ own.role = roleOf entry.1)
    (h : (d.settledReports roleOf startedAt settled : AgentMethod σ _).Returns s seg reports s') :
    s' = s ∧ (∀ e ∈ seg, e.call = .now) ∧
      List.Forall₂ Reports (settled.map fun entry => (d.stopOf roleOf entry.1, entry.2)) reports := by
  induction settled generalizing s seg reports with
  | nil =>
    obtain ⟨rfl, rfl, rfl⟩ := h.of_pure
    exact ⟨rfl, by simp, .nil⟩
  | cons entry rest ih =>
    obtain ⟨container, result⟩ := entry
    rw [List.forall_mem_cons] at hown
    cases result with
    | ok own =>
      obtain ⟨before, later, others, t, rfl, hrest, hpure⟩ := h.of_bind
      obtain ⟨rfl, rfl, rfl⟩ := hpure.of_pure
      obtain ⟨rfl, hnow, hreports⟩ := ih hown.2 hrest
      obtain ⟨hname, hrole⟩ := hown.1 own rfl
      exact ⟨rfl, by simpa using hnow, .cons ⟨hname, hrole, .inl rfl⟩ hreports⟩
    | error error =>
      obtain ⟨before, later, time, t, rfl, hask, hreport⟩ := h.of_bind
      obtain ⟨rfl, rfl⟩ := hask.of_ask
      obtain ⟨before, later, others, t, rfl, hrest, hpure⟩ := hreport.of_bind
      obtain ⟨rfl, rfl, rfl⟩ := hpure.of_pure
      obtain ⟨rfl, hnow, hreports⟩ := ih hown.2 hrest
      refine ⟨rfl, fun e he => ?_, .cons ⟨rfl, rfl, .inr ⟨⟨error, rfl⟩, rfl⟩⟩ hreports⟩
      simp only [List.nil_append, List.mem_append, List.mem_singleton] at he
      obtain he | rfl := he
      · exact hnow e he
      · rfl

theorem stopAllGracefully_returns {containers : List DockerContainerInspection}
    {s s' : WorkerRolloutLocals} {seg : AgentHistory} {reports : List WorkerShutdownReport}
    (h : (d.stopAllGracefully containers roleOf).Returns s seg reports s') :
    ∃ attempts : List StopAttempt, attempts.map Prod.fst = containers.map (d.stopOf roleOf) ∧
      d.Advances attempts s seg s' ∧ s'.shutdowns = s.shutdowns ++ reports ∧
      List.Forall₂ Reports attempts reports ∧
      ∀ attempt ∈ attempts, StoppedBeside d.fuel attempt seg := by
  obtain ⟨_, _, startedAt, _, rfl, hask, h₁⟩ := h.of_bind
  obtain ⟨rfl, rfl⟩ := hask.of_ask
  obtain ⟨stopping, _, results, t, rfl, hlift, h₂⟩ := h₁.of_bind
  obtain ⟨rfl, hran⟩ := hlift.of_lift
  obtain ⟨reporting, _, settled, t', rfl, hsettled, h₃⟩ := h₂.of_bind
  obtain ⟨_, _, _, _, rfl, hassign, hpure⟩ := h₃.of_bind
  obtain ⟨rfl, rfl⟩ := hassign.of_assign
  obtain ⟨rfl, rfl, rfl⟩ := hpure.of_pure
  have hmap : (containers.map fun container =>
      (stopWorkerContainerGracefully d.fuel (d.stopOf roleOf container) : AgentAction _)) =
      (containers.map (d.stopOf roleOf)).map (stopWorkerContainerGracefully d.fuel) := by
    rw [List.map_map]
    rfl
  rw [hmap] at hran
  obtain ⟨hlength, hlists, hparts⟩ := stops_ran hran
  have hzip : (containers.zip results).map (fun entry => (d.stopOf roleOf entry.1, entry.2)) =
      (containers.map (d.stopOf roleOf)).zip results := by
    rw [List.zip_map_left]
    rfl
  obtain ⟨rfl, hnow, hreports⟩ := settledReports_returns (fun entry hentry own hok =>
    hparts (d.stopOf roleOf entry.1, entry.2) (hzip ▸ List.mem_map_of_mem hentry) own hok)
    hsettled
  rw [hzip] at hreports
  refine ⟨(containers.map (d.stopOf roleOf)).zip results, ?_,
    ⟨?_, ⟨reports, rfl, hreports⟩, fun e he => ?_⟩, rfl, hreports, fun attempt hattempt => ?_⟩
  · exact List.map_fst_zip (le_of_eq hlength.symm)
  · have hplain : ∀ e ∈ reporting, StopsNothing e.call := fun e he => hnow e he ▸ trivial
    have hstart : Attempts d.fuel [] [⟨.now, some startedAt⟩] := .other trivial .nil
    simpa using (Attempts.together hran hstart).append (attempts_of_other hplain)
  · simp only [List.nil_append, List.mem_append, List.mem_singleton] at he
    obtain (he | he) | rfl := he
    · rw [hnow e he]
      exact fun _ => by simp
    · exact hlists e he
    · exact fun _ => by simp
  · have hstopped : StoppedBeside d.fuel attempt stopping :=
      ⟨[], stopping, [], _, _, by simp, hran, hattempt⟩
    simpa using hstopped.within reporting [⟨.now, some startedAt⟩]

theorem stopAllGracefully_each {containers : List DockerContainerInspection}
    {s s' : WorkerRolloutLocals} {seg : AgentHistory} {reports : List WorkerShutdownReport}
    (h : (d.stopAllGracefully containers roleOf).Returns s seg reports s') :
    ∀ container ∈ containers, ∃ report, (container, report) ∈ containers.zip reports ∧
      report.containerName = getContainerName container ∧
      (mayStillRun report = false →
        StoppedBeside d.fuel (d.stopOf roleOf container, .ok report) seg) := by
  obtain ⟨attempts, hstops, -, -, hreports, hparts⟩ := stopAllGracefully_returns h
  have hlength : attempts.length = containers.length := by
    simpa using congrArg List.length hstops
  intro container hmem
  obtain ⟨i, hi, rfl⟩ := List.mem_iff_getElem.mp hmem
  have hattempt : i < attempts.length := hlength.symm ▸ hi
  have hreport : i < reports.length := hreports.length_eq ▸ hattempt
  have hstop : attempts[i].1 = d.stopOf roleOf containers[i] := by
    have hsame := congrArg (fun stops => stops[i]?) hstops
    simpa [hi, hattempt] using hsame
  obtain ⟨hname, hrole, hown⟩ : Reports attempts[i] reports[i] := hreports.get hattempt hreport
  refine ⟨reports[i], ?_, ?_, fun hstopped => ?_⟩
  · exact List.mem_iff_getElem.mpr ⟨i, by simp [hi, hreport], by simp⟩
  · rw [hname, hstop]
    rfl
  · obtain hok | ⟨-, hunconfirmed⟩ := hown
    · have hown : attempts[i] = (d.stopOf roleOf containers[i], .ok reports[i]) :=
        Prod.ext hstop hok
      exact hown ▸ hparts attempts[i] (List.getElem_mem hattempt)
    · simp [mayStillRun, hunconfirmed] at hstopped

end

end WorkerDeployment

end NouvaAgent
