import Mathlib.Tactic.Linarith
import NouvaAgent.AgentHistory
import NouvaAgent.Encoding
import NouvaAgent.WorkResult
import NouvaAgent.WorkerRollout

namespace NouvaAgent

open Text Interaction Agent Method

namespace WorkerShutdown

theorem unit_toNat {c : Char} (hc : c.toNat < 0x10000) :
    (UInt16.ofNat c.toNat).toNat = c.toNat := UInt16.toNat_ofNat_of_lt' hc

theorem isUpper_iff (c : Char) : c.isUpper = true ↔ 65 ≤ c.toNat ∧ c.toNat ≤ 90 := by
  have hupper : c.isUpper = decide (65 ≤ c.val ∧ c.val ≤ 90) := rfl
  rw [hupper, decide_eq_true_iff, UInt32.le_iff_toNat_le, UInt32.le_iff_toNat_le]
  rfl

theorem isUpper_unit {c : Char} (hc : c.toNat < 0x10000) :
    LogRedaction.isUpper (UInt16.ofNat c.toNat) = c.isUpper := by
  rw [Bool.eq_iff_iff, isUpper_iff]
  simp only [LogRedaction.isUpper, UInt16.le_iff_toNat_le, unit_toNat hc, Bool.and_eq_true,
    decide_eq_true_eq]
  rfl

theorem isDigit_unit {c : Char} (hc : c.toNat < 0x10000) :
    LogRedaction.isDigit (UInt16.ofNat c.toNat) = c.isDigit := by
  simp only [LogRedaction.isDigit, Char.isDigit, UInt16.le_iff_toNat_le, UInt32.le_iff_toNat_le,
    ge_iff_le, unit_toNat hc]
  rfl

theorem isUpper_small {c : Char} (hc : c.isUpper = true) : c.toNat < 0x10000 := by
  have hle : c.toNat ≤ 90 := ((isUpper_iff c).mp hc).2
  omega

theorem isStopSignalCharacter_small {c : Char} (hc : isStopSignalCharacter c = true) :
    c.toNat < 0x10000 := by
  simp only [isStopSignalCharacter, Bool.or_eq_true, decide_eq_true_eq] at hc
  obtain (hupper | hdigit) | rfl := hc
  · exact isUpper_small hupper
  · simp only [Char.isDigit, Bool.and_eq_true, decide_eq_true_eq, UInt32.le_iff_toNat_le] at hdigit
    have hle : c.toNat ≤ 57 := hdigit.2
    omega
  · decide

theorem plus_unit {c : Char} (hc : c.toNat < 0x10000) :
    (UInt16.ofNat c.toNat == 43) = decide (c = '+') := by
  rw [Bool.beq_eq_decide_eq, decide_eq_decide]
  constructor
  · intro h
    have htoNat := congrArg UInt16.toNat h
    rw [unit_toNat hc] at htoNat
    exact Char.toNat_inj.mp htoNat
  · rintro rfl
    rfl

theorem flatMap_codeUnits {text : List Char} (h : ∀ c ∈ text, isStopSignalCharacter c = true) :
    text.flatMap codeUnits = text.map fun c => UInt16.ofNat c.toNat := by
  induction text with
  | nil => rfl
  | cons c text ih =>
    rw [List.forall_mem_cons] at h
    rw [List.flatMap_cons, codeUnits_single (isStopSignalCharacter_small h.1), ih h.2]
    rfl

theorem stopSignalName_wire {name : String} (h : isWorkerStopSignalName name = true) :
    WorkResult.isWorkerStopSignalName (utf16 name) = true := by
  unfold isWorkerStopSignalName at h
  split at h
  case h_1 c rest hname =>
    simp only [Bool.and_eq_true, decide_eq_true_eq, List.all_eq_true] at h
    obtain ⟨⟨hupper, hlength⟩, hrest⟩ := h
    have hunits : utf16 name = units "SIG" ++ UInt16.ofNat c.toNat ::
        rest.map fun c => UInt16.ofNat c.toNat := by
      unfold utf16
      rw [hname, ← flatMap_codeUnits hrest]
      simp only [List.flatMap_cons, codeUnits_single (isUpper_small hupper)]
      rfl
    rw [hunits]
    simp only [WorkResult.isWorkerStopSignalName, Bool.and_eq_true]
    refine ⟨rfl, ?_⟩
    show ((LogRedaction.isUpper _ && _) && _) = true
    simp only [isUpper_unit (isUpper_small hupper), hupper, List.length_map, List.all_map,
      Bool.true_and, Bool.and_eq_true, decide_eq_true_eq, List.all_eq_true]
    refine ⟨hlength, fun d hd => ?_⟩
    have hsmall := isStopSignalCharacter_small (hrest d hd)
    simp only [Function.comp_apply, isUpper_unit hsmall, isDigit_unit hsmall, plus_unit hsmall]
    exact hrest d hd
  case h_2 => cases h

def roleText : WorkerShutdownRole → Units
  | .previous => units "previous"
  | .surplus => units "surplus"
  | .candidate => units "candidate"

def outcomeText : WorkerShutdownOutcome → Units
  | .exited => units "exited"
  | .forced => units "forced"
  | .alreadyStopped => units "already_stopped"
  | .hung => units "hung"
  | .unconfirmed => units "unconfirmed"

def rolloutPolicyText : WorkerRolloutPolicy → Units
  | .overlap => units "overlap"
  | .noOverlap => units "no_overlap"

def exitCodeJson : Option ℤ → Json
  | none => .null
  | some exitCode => .num exitCode

def signalJson : Option WorkerShutdownSignal → Json
  | none => .null
  | some signal => .str (units signal.text)

def reportJson (report : WorkerShutdownReport) : Json :=
  .obj [(units "containerName", .str (utf16 report.containerName)),
    (units "role", .str (roleText report.role)), (units "signal", .str (utf16 report.signal)),
    (units "gracePeriodSeconds", .num report.gracePeriodSeconds),
    (units "outcome", .str (outcomeText report.outcome)),
    (units "exitCode", exitCodeJson report.exitCode), (units "elapsedMs", .num report.elapsedMs)]

def policyJson (policy : WorkerShutdownPolicy) : Json :=
  .obj [(units "signal", signalJson policy.signal),
    (units "gracePeriodSeconds", .num policy.gracePeriodSeconds),
    (units "rolloutPolicy", .str (rolloutPolicyText policy.rolloutPolicy))]

structure Reportable (report : WorkerShutdownReport) : Prop where
  named : report.containerName ≠ ""
  signal : isWorkerStopSignalName report.signal = true
  gracePeriod : 1 ≤ report.gracePeriodSeconds ∧ report.gracePeriodSeconds ≤ 3600
  elapsed : 0 ≤ report.elapsedMs

theorem textIn_str {allowed : Units → Bool} {text : Units} (h : allowed text = true) :
    WorkResult.textIn allowed (some (.str text)) = some text := if_pos h

theorem numberIn_num {allowed : ℚ → Bool} {value : ℚ} (h : allowed value = true) :
    WorkResult.numberIn allowed (some (.num value)) = some value := if_pos h

theorem gracePeriod_wire {seconds : ℕ} (h : 1 ≤ seconds ∧ seconds ≤ 3600) :
    WorkResult.isWorkerShutdownGracePeriodSeconds (seconds : ℚ) = true := by
  have hfrom : (1 : ℚ) ≤ seconds := by exact_mod_cast h.1
  have hto : (seconds : ℚ) ≤ 3600 := by exact_mod_cast h.2
  simp [WorkResult.isWorkerShutdownGracePeriodSeconds, WorkResult.isInteger, hfrom, hto]

theorem exitCode_wire (exitCode : Option ℤ) :
    WorkResult.orNull (fun value => (WorkResult.numberIn WorkResult.isInteger value).map .num)
      (some (exitCodeJson exitCode)) = some (exitCodeJson exitCode) := by
  cases exitCode with
  | none => rfl
  | some exitCode =>
    unfold WorkResult.orNull
    rw [if_neg (by simp [exitCodeJson])]
    have hinteger : WorkResult.isInteger (exitCode : ℚ) = true := by simp [WorkResult.isInteger]
    exact congrArg (Option.map Json.num) (numberIn_num hinteger)

theorem round_wire (elapsedMs : ℤ) : ((elapsedMs : ℚ) + 1 / 2).floor = elapsedMs := by
  apply le_antisymm
  · apply Int.le_of_lt_add_one
    rw [Rat.floor_lt_iff]
    push_cast
    linarith
  · rw [Rat.le_floor_iff]
    linarith

def parsed (report : WorkerShutdownReport) : WorkResult.WorkerShutdownReport where
  containerName := utf16 report.containerName
  role := roleText report.role
  signal := utf16 report.signal
  gracePeriodSeconds := report.gracePeriodSeconds
  outcome := outcomeText report.outcome
  exitCode := exitCodeJson report.exitCode
  elapsedMs := report.elapsedMs

theorem parseWorkerShutdownReport_reportJson {report : WorkerShutdownReport}
    (h : Reportable report) :
    WorkResult.parseWorkerShutdownReport (reportJson report) = some (parsed report) := by
  have hname : WorkResult.textIn (fun value => decide (0 < value.length))
      (some (.str (utf16 report.containerName))) = some (utf16 report.containerName) :=
    textIn_str (decide_eq_true (utf16_length h.named))
  have hrole : WorkResult.textIn WorkResult.workerShutdownRoles.contains
      (some (.str (roleText report.role))) = some (roleText report.role) := by
    cases report.role <;> decide +kernel
  have houtcome : WorkResult.textIn WorkResult.workerShutdownOutcomes.contains
      (some (.str (outcomeText report.outcome))) = some (outcomeText report.outcome) := by
    cases report.outcome <;> decide +kernel
  have hsignal := textIn_str (stopSignalName_wire h.signal)
  have hgrace := numberIn_num (gracePeriod_wire h.gracePeriod)
  have helapsed : WorkResult.numberIn (fun value => decide (0 ≤ value))
      (some (.num report.elapsedMs)) = some (report.elapsedMs : ℚ) :=
    numberIn_num (decide_eq_true (by exact_mod_cast h.elapsed))
  show ((WorkResult.textIn _ (some (.str (utf16 report.containerName)))).bind fun containerName =>
    (WorkResult.textIn _ (some (.str (roleText report.role)))).bind fun role =>
    (WorkResult.textIn _ (some (.str (utf16 report.signal)))).bind fun signal =>
    (WorkResult.numberIn _ (some (.num report.gracePeriodSeconds))).bind fun gracePeriodSeconds =>
    (WorkResult.textIn _ (some (.str (outcomeText report.outcome)))).bind fun outcome =>
    (WorkResult.orNull _ (some (exitCodeJson report.exitCode))).bind fun exitCode =>
    (WorkResult.numberIn _ (some (.num report.elapsedMs))).bind fun elapsedMs => some
      (⟨containerName, role, signal, gracePeriodSeconds, outcome, exitCode,
        (elapsedMs + 1 / 2).floor⟩ : WorkResult.WorkerShutdownReport)) = _
  rw [hname, hrole, hsignal, hgrace, houtcome, exitCode_wire, helapsed]
  exact congrArg (fun elapsedMs => some { parsed report with elapsedMs })
    (round_wire report.elapsedMs)

theorem parsed_reportJson (report : WorkerShutdownReport) :
    .obj (WorkResult.shutdownReportEntries (parsed report) (.str (parsed report).containerName)) =
      reportJson report := rfl

theorem parseWorkerShutdownReports_reportJson {reports : List WorkerShutdownReport}
    (h : ∀ report ∈ reports, Reportable report) :
    WorkResult.parseWorkerShutdownReports (.arr (reports.map reportJson)) =
      reports.map parsed := by
  show (reports.map reportJson).filterMap WorkResult.parseWorkerShutdownReport = _
  induction reports with
  | nil => rfl
  | cons report reports ih =>
    rw [List.forall_mem_cons] at h
    rw [List.map_cons, List.filterMap_cons_some (parseWorkerShutdownReport_reportJson h.1),
      ih h.2, List.map_cons]

theorem parseWorkerShutdownPolicy_obj {record policy : List (Units × Json)}
    (h : WorkResult.readWorkerShutdownPolicy record = some policy) :
    WorkResult.parseWorkerShutdownPolicy (.obj record) = .obj policy := by
  simp only [WorkResult.parseWorkerShutdownPolicy, h]

theorem parseWorkerShutdownPolicy_policyJson (policy : WorkerShutdownPolicy) :
    WorkResult.parseWorkerShutdownPolicy (policyJson policy) = policyJson policy := by
  have hsignal : WorkResult.orNull (fun value =>
      (WorkResult.textIn WorkResult.workerShutdownSignals.contains value).map .str)
      (some (signalJson policy.signal)) = some (signalJson policy.signal) := by
    rcases policy.signal with _ | signal
    · rfl
    · cases signal <;> decide +kernel
  have hgrace := numberIn_num (gracePeriod_wire policy.valid)
  have hpolicy : WorkResult.textIn WorkResult.workerRolloutPolicies.contains
      (some (.str (rolloutPolicyText policy.rolloutPolicy))) =
        some (rolloutPolicyText policy.rolloutPolicy) := by
    cases policy.rolloutPolicy <;> decide +kernel
  have hread : WorkResult.readWorkerShutdownPolicy [(units "signal", signalJson policy.signal),
      (units "gracePeriodSeconds", .num policy.gracePeriodSeconds),
      (units "rolloutPolicy", .str (rolloutPolicyText policy.rolloutPolicy))] =
      some [(units "signal", signalJson policy.signal),
        (units "gracePeriodSeconds", .num policy.gracePeriodSeconds),
        (units "rolloutPolicy", .str (rolloutPolicyText policy.rolloutPolicy))] := by
    show ((WorkResult.orNull _ (some (signalJson policy.signal))).bind fun signal =>
      (WorkResult.numberIn _ (some (.num policy.gracePeriodSeconds))).bind fun seconds =>
      (WorkResult.textIn _ (some (.str (rolloutPolicyText policy.rolloutPolicy)))).bind fun text =>
        some [(units "signal", signal), (units "gracePeriodSeconds", Json.num seconds),
          (units "rolloutPolicy", Json.str text)]) = _
    rw [hsignal, hgrace, hpolicy]
    rfl
  exact parseWorkerShutdownPolicy_obj hread

theorem sanitize_wire {policy : WorkerShutdownPolicy} {reports : List WorkerShutdownReport}
    {rollout : List (Units × Json)} (h : ∀ report ∈ reports, Reportable report)
    (hpolicy : Json.get? rollout (units "policy") = some (policyJson policy))
    (hshutdowns : Json.get? rollout (units "shutdowns") = some (.arr (reports.map reportJson))) :
    WorkResult.sanitizeWorkerRolloutShutdownFields rollout (fun name => some (.str name)) =
      some [(units "policy", policyJson policy),
        (units "shutdowns", .arr (reports.map reportJson))] := by
  have hredact : (reports.map parsed).mapM (WorkResult.redactReport fun name =>
      some (.str name)) = some (reports.map reportJson) := by
    clear h hshutdowns
    induction reports with
    | nil => rfl
    | cons report reports ih =>
      rw [List.map_cons, List.mapM_cons, ih]
      rfl
  simp only [WorkResult.sanitizeWorkerRolloutShutdownFields, WorkResult.shutdownFields,
    WorkResult.policyFields, hpolicy, hshutdowns, parseWorkerShutdownPolicy_policyJson,
    parseWorkerShutdownReports_reportJson h, hredact]
  rfl

section

variable {σ : Type} {stop : WorkerStop} {signal : String} {startedAt : ℤ}

theorem report_reportable {outcome : WorkerShutdownOutcome} {exitCode : Option ℤ}
    (hname : stop.containerName ≠ "") (hsignal : isWorkerStopSignalName signal = true) :
    (stop.report startedAt signal outcome exitCode : AgentMethod σ _).Confined (fun _ => True)
      Reportable :=
  confined_bind (confined_any _) fun _ _ =>
    confined_pure ⟨hname, hsignal, stop.policy.valid, le_max_left _ _⟩

theorem kill_reportable (fuel : ℕ) (hname : stop.containerName ≠ "")
    (hsignal : isWorkerStopSignalName signal = true) :
    (stop.kill fuel startedAt signal : AgentMethod σ _).Confined (fun _ => True) Reportable := by
  refine confined_bind (confined_any _) fun _ _ => confined_bind (confined_any _) fun _ _ =>
    confined_bind (confined_any _) fun state _ => ?_
  cases state with
  | some state => exact report_reportable hname hsignal
  | none => exact report_reportable hname hsignal

theorem signalled_reportable (fuel : ℕ) (hname : stop.containerName ≠ "")
    (hsignal : isWorkerStopSignalName signal = true) :
    (stop.signalled fuel startedAt signal : AgentMethod σ _).Confined (fun _ => True)
      Reportable := by
  refine confined_bind (confined_any _) fun _ _ => confined_bind (confined_any _) fun state _ => ?_
  cases state with
  | some state => exact report_reportable hname hsignal
  | none => exact kill_reportable fuel hname hsignal

theorem stopWorkerContainerGracefully_reportable (fuel : ℕ) (hname : stop.containerName ≠ "") :
    (stopWorkerContainerGracefully fuel stop : AgentMethod σ _).Confined (fun _ => True)
      Reportable := by
  refine confined_bind (confined_any _) fun startedAt _ =>
    confined_bind (confined_any _) fun initial _ => ?_
  have hsignal := resolveWorkerStopSignal_named stop.policy.signal initial.stopSignal
  dsimp only
  split
  · refine confined_bind (confined_any _) fun settled _ => ?_
    cases settled with
    | ok _ => exact signalled_reportable fuel hname hsignal
    | error e =>
      dsimp only
      split
      · exact report_reportable hname hsignal
      · exact confined_throw
  · exact report_reportable hname hsignal

variable {d : WorkerDeployment} {roleOf : DockerContainerInspection → WorkerShutdownRole}

theorem unconfirmedReport_reportable {container : DockerContainerInspection} (elapsedMs : ℤ)
    (hname : getContainerName container ≠ "") :
    Reportable (d.unconfirmedReport roleOf container elapsedMs) :=
  ⟨hname, resolveWorkerStopSignal_named _ _, d.policy.valid, le_max_left _ _⟩

theorem settledReports_reportable
    {settled : List (DockerContainerInspection × Except Failure WorkerShutdownReport)}
    (h : ∀ c r, (c, r) ∈ settled → getContainerName c ≠ "" ∧
      ∀ report, r = .ok report → Reportable report) :
    (d.settledReports roleOf startedAt settled : AgentMethod σ _).Confined (fun _ => True)
      fun reports => ∀ report ∈ reports, Reportable report := by
  induction settled with
  | nil => exact confined_pure fun _ hmem => absurd hmem List.not_mem_nil
  | cons first rest ih =>
    have hrest := ih fun c r hmem => h c r (List.mem_cons_of_mem _ hmem)
    obtain ⟨hname, hreport⟩ := h first.1 first.2 List.mem_cons_self
    rcases first with ⟨container, _ | report⟩
    · refine confined_bind (confined_any _) fun time _ => confined_bind hrest fun reports hr => ?_
      exact confined_pure (List.forall_mem_cons.mpr ⟨unconfirmedReport_reportable _ hname, hr⟩)
    · refine confined_bind hrest fun reports hr => ?_
      exact confined_pure (List.forall_mem_cons.mpr ⟨hreport report rfl, hr⟩)

theorem stopAllGracefully_reportable {containers : List DockerContainerInspection}
    (hnames : ∀ container ∈ containers, getContainerName container ≠ "") :
    (d.stopAllGracefully containers roleOf).Confined (fun _ => True)
      fun reports => ∀ report ∈ reports, Reportable report := by
  refine confined_bind (confined_any _) fun startedAt _ => ?_
  refine confined_bind (confined_lift (confined_allSettled (R := fun _ => Reportable)
    fun i stopping hi => ?_)) fun settled hsettled => ?_
  · rw [List.getElem?_map, Option.map_eq_some_iff] at hi
    obtain ⟨container, hmem, rfl⟩ := hi
    exact stopWorkerContainerGracefully_reportable d.fuel
      (hnames container (List.mem_of_getElem? hmem))
  · refine confined_bind (settledReports_reportable fun container r hmem => ?_)
      fun reports hreports => confined_bind (confined_any _) fun _ _ => confined_pure hreports
    obtain ⟨i, hi⟩ := List.getElem?_of_mem hmem
    obtain ⟨hcontainer, hr⟩ := List.getElem?_zip_eq_some.mp hi
    exact ⟨hnames container (List.mem_of_getElem? hcontainer), fun report heq =>
      hsettled.2 i report (heq ▸ hr)⟩

end

def Produced (d : WorkerDeployment) (report : WorkerShutdownReport) : Prop :=
  ∃ (env : AgentEnvironment) (h : AgentHistory) (containers : List DockerContainerInspection)
    (roleOf : DockerContainerInspection → WorkerShutdownRole) (s s' : WorkerRolloutLocals)
    (reports : List WorkerShutdownReport),
    (∀ container ∈ containers, getContainerName container ≠ "") ∧
    ((d.stopAllGracefully containers roleOf s).run env h).1 = .done (.ok reports, s') ∧
    report ∈ reports

theorem Produced.reportable {d : WorkerDeployment} {report : WorkerShutdownReport}
    (h : Produced d report) : Reportable report := by
  obtain ⟨env, h, containers, roleOf, s, s', reports, hnames, hrun, hmem⟩ := h
  exact (stopAllGracefully_reportable hnames).run hrun report hmem

/-- The reports of a rollout's stops come through the wire as they are, and its policy with them. -/
theorem shutdowns_survive_wire (d : WorkerDeployment) (reports : List WorkerShutdownReport)
    (h : ∀ report ∈ reports, Produced d report) :
    (WorkResult.parseWorkerShutdownReports (.arr (reports.map reportJson))).map (fun report =>
      .obj (WorkResult.shutdownReportEntries report (.str report.containerName))) =
        reports.map reportJson ∧
    ∀ rollout : List (Units × Json),
      Json.get? rollout (units "policy") = some (policyJson d.policy) →
      Json.get? rollout (units "shutdowns") = some (.arr (reports.map reportJson)) →
      WorkResult.sanitizeWorkerRolloutShutdownFields rollout (fun name => some (.str name)) =
        some [(units "policy", policyJson d.policy),
          (units "shutdowns", .arr (reports.map reportJson))] := by
  have hreportable : ∀ report ∈ reports, Reportable report :=
    fun report hmem => (h report hmem).reportable
  refine ⟨?_, fun rollout => sanitize_wire hreportable⟩
  rw [parseWorkerShutdownReports_reportJson hreportable, List.map_map]
  exact List.map_congr_left fun report _ => parsed_reportJson report

def quitDeployment : WorkerDeployment where
  payload := { projectId := "project", serviceId := "service", deploymentId := "deployment"
               imageUrl := "image", resourceLimits := ⟨none, none, none, none⟩, replicaCount := 1 }
  environment := ⟨"server", .dockerLocal, "/data", "data", id, 1⟩
  fuel := 5

def refusingDocker : AgentEnvironment :=
  answering fun _ _ => .error ⟨true, "refused", some 500⟩

def quitContainer : DockerContainerInspection :=
  ⟨"id", "/worker", none, none, none, none, some ⟨none, none, some "quit"⟩, none, none⟩

def refusedReport : WorkerShutdownReport :=
  ⟨"worker", .previous, "SIGQUIT", 30, .unconfirmed, none, 0⟩

theorem shutdowns_survive_wire_refused :
    (WorkResult.parseWorkerShutdownReports (.arr [reportJson refusedReport])).map (fun report =>
      .obj (WorkResult.shutdownReportEntries report (.str report.containerName))) =
        [reportJson refusedReport] := by
  refine (shutdowns_survive_wire quitDeployment [refusedReport] ?_).1
  intro report hmem
  cases List.mem_singleton.mp hmem
  refine ⟨refusingDocker, [], [quitContainer], fun _ => .previous, {},
    { shutdowns := [refusedReport] }, [refusedReport], ?_, ?_, List.mem_singleton_self _⟩
  · intro container hcontainer
    cases List.mem_singleton.mp hcontainer
    decide +kernel
  · rfl

end WorkerShutdown

end NouvaAgent
