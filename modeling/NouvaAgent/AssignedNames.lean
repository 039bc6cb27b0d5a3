import NouvaAgent.AppDeployment
import NouvaAgent.JsonStrings
import NouvaAgent.WorkResult
import NouvaAgent.WorkerDeployment

namespace NouvaAgent.AssignedNames

open LiteralRedaction LogRedaction Json WorkResult Text

/-! The names that the agent gives, as texts of code units. -/

section

variable (serviceId deploymentId scheduleRunId : Units)

def buildAppContainerName : Units :=
  units "nouva-app-" ++ serviceId.take 8 ++ units "-" ++ deploymentId.take 8

def buildWorkerReplicaContainerName (replicaIndex : ℕ) : Units :=
  units "nouva-worker-" ++ serviceId.take 8 ++ units "-" ++ deploymentId.take 8 ++ units "-" ++
    units (toString replicaIndex)

def buildWorkerJobContainerName : Units :=
  units "nouva-worker-job-" ++ serviceId.take 8 ++ units "-" ++ scheduleRunId.take 8

def buildLocalImageUrl (suffix : Option Units) : Units :=
  match suffix with
  | none | some [] => units "nouva-app:" ++ deploymentId
  | some suffix => units "nouva-app:" ++ deploymentId ++ units "-" ++ suffix

end

/-! The names that redaction is told of. -/

def maxWorkerReplicaCount : ℕ := 32

def asRecord : Option Json → List (Units × Json)
  | some (.obj record) => record
  | _ => []

def readPayloadIdentifier (record : List (Units × Json)) (key : Units) : Option Units :=
  textIn (fun value => 0 < value.length) (get? record key)

def readReplicaCount (record : List (Units × Json)) : ℕ :=
  match numberIn isInteger (get? record (units "replicaCount")) with
  | some value => (min (max value 0) maxWorkerReplicaCount).num.toNat
  | none => 0

def isHexDigit (c : UInt16) : Bool := isDigit c || (97 ≤ c && c ≤ 102)

/-- `[a-z][a-z0-9]{23}`. -/
def isCuid : Units → Bool
  | [] => false
  | c :: rest => isLower c && rest.length = 23 && rest.all fun c => isLower c || isDigit c

/-- `[0-9a-f]{8}-[0-9a-f]{4}-[0-9a-f]{4}-[0-9a-f]{4}-[0-9a-f]{12}`. -/
def isUuid (value : Units) : Bool :=
  (value.splitOn 45).map List.length = [8, 4, 4, 4, 12] &&
    (value.splitOn 45).all fun part => part.all isHexDigit

def isBuiltImageReference (value : Units) : Bool :=
  (units "nouva-app:").isPrefixOf value && (isCuid (value.drop 10) || isUuid (value.drop 10))

def readBuiltImageReference (image : List (Units × Json)) : Option Units :=
  textIn isBuiltImageReference (get? image (units "reference"))

def deploymentNames (service : Units) (replicaCount : ℕ) (deploymentId : Units) : List Units :=
  let deployment := deploymentId.take 8
  [units "nouva-app-" ++ service ++ units "-" ++ deployment, units "nouva-app:" ++ deploymentId] ++
    (List.range replicaCount).map fun index =>
      units "nouva-worker-" ++ service ++ units "-" ++ deployment ++ units "-" ++
        units (toString index)

def collectAgentWorkAssignedNames (payload : Json) : List Units :=
  let record := asRecord (some payload)
  match readPayloadIdentifier record (units "serviceId") with
  | none => []
  | some serviceId =>
    let service := serviceId.take 8
    let runtimeMetadata := asRecord (get? record (units "runtimeMetadata"))
    let replicaCount := max (readReplicaCount record) (readReplicaCount runtimeMetadata)
    let retainedImages := [asRecord (get? runtimeMetadata (units "currentImage")),
      asRecord (get? runtimeMetadata (units "previousImage"))]
    let deploymentIds := (record :: retainedImages).filterMap fun image =>
      readPayloadIdentifier image (units "deploymentId")
    let jobs := (readPayloadIdentifier record (units "scheduleRunId")).toList.map fun scheduleRunId =>
      units "nouva-worker-job-" ++ service ++ units "-" ++ scheduleRunId.take 8
    (retainedImages.filterMap readBuiltImageReference ++
      deploymentIds.flatMap (deploymentNames service replicaCount) ++ jobs).eraseDups

section

variable {payload : List (Units × Json)} {serviceId deploymentId scheduleRunId : Units}

theorem readPayloadIdentifier_eq {key value : Units} (h : get? payload key = some (.str value))
    (hne : value ≠ []) : readPayloadIdentifier payload key = some value := by
  unfold readPayloadIdentifier textIn
  rw [h]
  exact if_pos (decide_eq_true (List.length_pos_iff.mpr hne))

theorem readReplicaCount_eq {replicaCount : ℕ}
    (h : get? payload (units "replicaCount") = some (.num replicaCount))
    (hle : replicaCount ≤ maxWorkerReplicaCount) : readReplicaCount payload = replicaCount := by
  have hinteger : isInteger (replicaCount : ℚ) = true := by simp [isInteger]
  have hread : numberIn isInteger (get? payload (units "replicaCount")) =
      some (replicaCount : ℚ) := by
    rw [h, numberIn, if_pos hinteger]
  unfold readReplicaCount
  rw [hread]
  dsimp only
  have hclamped : min (max (replicaCount : ℚ) 0) (maxWorkerReplicaCount : ℚ) = replicaCount := by
    rw [max_eq_left (Nat.cast_nonneg replicaCount), min_eq_left (Nat.cast_le.mpr hle)]
  rw [hclamped, Rat.num_natCast, Int.toNat_natCast]

theorem deployment_assigned (hs : get? payload (units "serviceId") = some (.str serviceId))
    (hservice : serviceId ≠ [])
    (hd : get? payload (units "deploymentId") = some (.str deploymentId))
    (hdeployment : deploymentId ≠ []) :
    ∀ name ∈ deploymentNames (serviceId.take 8) (readReplicaCount payload) deploymentId,
      name ∈ collectAgentWorkAssignedNames (.obj payload) := by
  intro name hname
  unfold collectAgentWorkAssignedNames
  dsimp only [asRecord]
  rw [readPayloadIdentifier_eq hs hservice]
  refine List.mem_eraseDups.mpr (List.mem_append_left _ (List.mem_append_right _ ?_))
  refine List.mem_flatMap.mpr ⟨deploymentId, ?_, ?_⟩
  · exact List.mem_filterMap.mpr
      ⟨payload, List.mem_cons_self, readPayloadIdentifier_eq hd hdeployment⟩
  · unfold deploymentNames at hname ⊢
    rcases List.mem_append.mp hname with hname | hname
    · exact List.mem_append_left _ hname
    · obtain ⟨index, hindex, rfl⟩ := List.mem_map.mp hname
      refine List.mem_append_right _ (List.mem_map.mpr ⟨index, ?_, rfl⟩)
      exact List.mem_range.mpr ((List.mem_range.mp hindex).trans_le (Nat.le_max_left _ _))

theorem job_assigned (hs : get? payload (units "serviceId") = some (.str serviceId))
    (hservice : serviceId ≠ [])
    (hr : get? payload (units "scheduleRunId") = some (.str scheduleRunId))
    (hrun : scheduleRunId ≠ []) : buildWorkerJobContainerName serviceId scheduleRunId ∈
      collectAgentWorkAssignedNames (.obj payload) := by
  unfold collectAgentWorkAssignedNames
  dsimp only [asRecord]
  rw [readPayloadIdentifier_eq hs hservice, readPayloadIdentifier_eq hr hrun]
  exact List.mem_eraseDups.mpr (List.mem_append_right _ (List.mem_singleton.mpr rfl))

end

/-! The same names in the model of the rollouts, whose identifiers are strings. -/

theorem units_append (left right : String) : units (left ++ right) = units left ++ units right := by
  simp [units]

theorem units_slice (text : String) : units (slice 8 text) = (units text).take 8 := by
  simp [units, slice]

theorem units_workerName (serviceId deploymentId : String) (replicaIndex : ℕ) :
    units (NouvaAgent.buildWorkerReplicaContainerName serviceId deploymentId replicaIndex) =
      buildWorkerReplicaContainerName (units serviceId) (units deploymentId) replicaIndex := by
  unfold NouvaAgent.buildWorkerReplicaContainerName buildWorkerReplicaContainerName
  simp only [units_append, units_slice]

theorem units_appSpecName (config : AgentRuntimeConfig) (payload : DeployAppImageInput)
    (resources : DockerResourceSettings) :
    units (buildAppContainerSpec config payload resources).name =
      buildAppContainerName (units payload.serviceId) (units payload.deploymentId) := by
  unfold buildAppContainerSpec DeployAppImageInput.containerName buildAppContainerName
  simp only [units_append, units_slice]

/-! What redaction makes of a result where it treats the strings of the result alike. -/

section

variable {process : LogProcess} {redaction redaction' : CompiledLogRedaction}

def Alike (redact redact' : Units → β) (value : Json) : Prop :=
  ∀ path text, Leaf value path text → redact text = redact' text

mutual

theorem sanitizeValue_alike (hk : redaction.preserveObjectKeys = true)
    (hk' : redaction'.preserveObjectKeys = true) : (value : Json) →
    Alike (sanitizeString process redaction) (sanitizeString process redaction') value →
      sanitizeValue process redaction value = sanitizeValue process redaction' value
  | .null, _ | .bool _, _ | .num _, _ => rfl
  | .str text, h => congrArg Json.str (h [] text (.str text))
  | .arr items, h => congrArg Json.arr (sanitizeItems_alike hk hk' items fun item hmem => by
      obtain ⟨i, hi⟩ := List.mem_iff_getElem?.mp hmem
      exact fun path text hleaf => h _ text (.item hi hleaf))
  | .obj entries, h => congrArg Json.obj (sanitizeEntries_alike hk hk' entries [] fun _ _ hmem =>
      fun path text hleaf => h _ text (.entry hmem hleaf))

theorem sanitizeItems_alike (hk : redaction.preserveObjectKeys = true)
    (hk' : redaction'.preserveObjectKeys = true) : (items : List Json) →
    (∀ item ∈ items,
      Alike (sanitizeString process redaction) (sanitizeString process redaction') item) →
      sanitizeItems process redaction items = sanitizeItems process redaction' items
  | [], _ => rfl
  | item :: rest, h => by
    unfold sanitizeItems
    rw [sanitizeValue_alike hk hk' item (h item List.mem_cons_self),
      sanitizeItems_alike hk hk' rest fun item hmem => h item (List.mem_cons_of_mem _ hmem)]

theorem sanitizeEntries_alike (hk : redaction.preserveObjectKeys = true)
    (hk' : redaction'.preserveObjectKeys = true) : (entries result : List (Units × Json)) →
    (∀ key entry, (key, entry) ∈ entries →
      Alike (sanitizeString process redaction) (sanitizeString process redaction') entry) →
      sanitizeEntries process redaction entries result =
        sanitizeEntries process redaction' entries result
  | [], _, _ => rfl
  | (key, entry) :: rest, result, h => by
    unfold sanitizeEntries
    rw [sanitizeValue_alike hk hk' entry (h key entry List.mem_cons_self), if_pos hk, if_pos hk']
    exact sanitizeEntries_alike hk hk' rest _ fun key entry hmem =>
      h key entry (List.mem_cons_of_mem _ hmem)

end

theorem compileLogRedaction_isSome (process : LogProcess) (options : LogRedactionOptions) :
    (compileLogRedaction process options).isSome =
      (operationalExclusions options.operationalValues).isSome := by
  unfold compileLogRedaction resolveExactStructuredValues resolveSecretValues
    excludeOperationalValues resolveOperationalValueExclusions
  cases operationalExclusions options.operationalValues <;> rfl

theorem compileLogRedaction_keys {options : LogRedactionOptions}
    (h : compileLogRedaction process options = some redaction) :
    redaction.preserveObjectKeys = options.preserveObjectKeys ∧
      redaction.assignedNames = options.assignedNames := by
  obtain ⟨_, _, h⟩ := Option.bind_eq_some_iff.mp h
  obtain ⟨_, _, h⟩ := Option.bind_eq_some_iff.mp h
  obtain rfl := Option.some.inj h
  exact ⟨rfl, rfl⟩

end

section

variable {process : LogProcess} {environmentVariables environmentVariables' : EnvironmentVariableMap}
  {operationalValues assignedNames : List Units} {key : Units} {value : Json}

def protocolOptions (process : LogProcess) (environmentVariables : EnvironmentVariableMap)
    (operationalValues assignedNames : List Units) : LogRedactionOptions where
  assignedNames := assignedNames
  operationalValues := operationalValues
  preserveObjectKeys := true
  secretValues := some (collectConfiguredSecretValues process ++
    collectEnvironmentMapValues environmentVariables)

def redactText (process : LogProcess) (environmentVariables : EnvironmentVariableMap)
    (operationalValues assignedNames : List Units) (text : Units) : Option Json :=
  sanitizeSensitiveProtocolValue process (.str text) environmentVariables operationalValues
    assignedNames

theorem sanitizeSensitiveProtocolValue_eq (value : Json) :
    sanitizeSensitiveProtocolValue process value environmentVariables operationalValues
        assignedNames =
      (compileLogRedaction process (protocolOptions process environmentVariables operationalValues
        assignedNames)).map fun redaction => sanitizeValue process redaction value := rfl

theorem redactText_assigned {name : Units} (h : name ∈ assignedNames) :
    redactText process environmentVariables operationalValues assignedNames name =
      (operationalExclusions operationalValues).map fun _ =>
        .str (process.redactCredentialShapes name) := by
  have hsome := compileLogRedaction_isSome process
    (protocolOptions process environmentVariables operationalValues assignedNames)
  unfold redactText
  rw [sanitizeSensitiveProtocolValue_eq]
  cases hcompiled : compileLogRedaction process
      (protocolOptions process environmentVariables operationalValues assignedNames) with
  | none =>
    rw [hcompiled] at hsome
    have hnone : operationalExclusions operationalValues = none :=
      Option.isNone_iff_eq_none.mp (Option.isSome_eq_false_iff.mp hsome.symm)
    rw [hnone]
    rfl
  | some redaction =>
    rw [hcompiled] at hsome
    obtain ⟨exclusions, hexclusions⟩ := Option.isSome_iff_exists.mp hsome.symm
    have hnames := (compileLogRedaction_keys hcompiled).2
    have hcontains : redaction.assignedNames.contains name = true := by
      rw [hnames]
      exact List.contains_iff_mem.mpr h
    have hstring : sanitizeString process redaction name = process.redactCredentialShapes name :=
      if_pos hcontains
    have hexclusions' : operationalExclusions operationalValues = some exclusions := hexclusions
    rw [hexclusions', Option.map_some, Option.map_some, sanitizeValue, hstring]

theorem sanitizeSensitiveProtocolValue_alike
    (h : Alike (redactText process environmentVariables operationalValues assignedNames)
      (redactText process environmentVariables' operationalValues assignedNames) value) :
    sanitizeSensitiveProtocolValue process value environmentVariables operationalValues
        assignedNames =
      sanitizeSensitiveProtocolValue process value environmentVariables' operationalValues
        assignedNames := by
  have hsome := (compileLogRedaction_isSome process
    (protocolOptions process environmentVariables operationalValues assignedNames)).trans
    (compileLogRedaction_isSome process
      (protocolOptions process environmentVariables' operationalValues assignedNames)).symm
  unfold Alike redactText at h
  simp only [sanitizeSensitiveProtocolValue_eq] at h ⊢
  cases hcompiled : compileLogRedaction process
      (protocolOptions process environmentVariables operationalValues assignedNames) with
  | none =>
    rw [hcompiled] at hsome
    rw [Option.isNone_iff_eq_none.mp (Option.isSome_eq_false_iff.mp hsome.symm)]
  | some redaction =>
    rw [hcompiled] at hsome h
    obtain ⟨redaction', hcompiled'⟩ := Option.isSome_iff_exists.mp hsome.symm
    rw [hcompiled'] at h ⊢
    refine congrArg some (sanitizeValue_alike (compileLogRedaction_keys hcompiled).1
      (compileLogRedaction_keys hcompiled').1 value fun path text hleaf => ?_)
    exact Json.str.inj (Option.some.inj (h path text hleaf))

theorem parseWorkerShutdownReport_name {report : WorkResult.WorkerShutdownReport}
    (h : parseWorkerShutdownReport value = some report) :
    ∃ path, Leaf value path report.containerName := by
  unfold parseWorkerShutdownReport at h
  split at h
  · next record =>
    obtain ⟨containerName, hname, h⟩ := Option.bind_eq_some_iff.mp h
    obtain ⟨_, _, h⟩ := Option.bind_eq_some_iff.mp h
    obtain ⟨_, _, h⟩ := Option.bind_eq_some_iff.mp h
    obtain ⟨_, _, h⟩ := Option.bind_eq_some_iff.mp h
    obtain ⟨_, _, h⟩ := Option.bind_eq_some_iff.mp h
    obtain ⟨_, _, h⟩ := Option.bind_eq_some_iff.mp h
    obtain ⟨_, _, h⟩ := Option.bind_eq_some_iff.mp h
    obtain rfl := Option.some.inj h
    unfold textIn at hname
    split at hname
    · next text hget =>
      split at hname
      · obtain rfl := Option.some.inj hname
        exact ⟨_, .entry (mem_of_get? hget) (.str _)⟩
      · cases hname
    · cases hname
  · cases h

theorem mapM_alike {α β : Type} {f g : α → Option β} {xs : List α} (h : ∀ x ∈ xs, f x = g x) :
    xs.mapM f = xs.mapM g := by
  induction xs with
  | nil => rfl
  | cons x xs ih =>
    rw [List.forall_mem_cons] at h
    rw [List.mapM_cons, List.mapM_cons, h.1, ih h.2]

theorem shutdownFields_alike {rollout : List (Units × Json)} {redact redact' : Units → Option Json}
    (h : Alike redact redact' (.obj rollout)) :
    shutdownFields rollout redact = shutdownFields rollout redact' := by
  unfold shutdownFields
  cases hget : get? rollout (units "shutdowns") with
  | none => rfl
  | some shutdowns =>
    refine congrArg (Option.map _) (mapM_alike fun report hmem => congrArg (Option.map _) ?_)
    cases shutdowns with
    | arr entries =>
      obtain ⟨entry, hentry, hparse⟩ := List.mem_filterMap.mp hmem
      obtain ⟨i, hi⟩ := List.mem_iff_getElem?.mp hentry
      obtain ⟨path, hleaf⟩ := parseWorkerShutdownReport_name hparse
      exact h _ _ (.entry (mem_of_get? hget) (.item hi hleaf))
    | _ => exact nomatch hmem

theorem keepVocabulary_alike {sanitized : Json} {redact redact' : Units → Option Json}
    (h : Alike redact redact' value) :
    keepVocabulary redact key value sanitized = keepVocabulary redact' key value sanitized := by
  unfold keepVocabulary
  split
  · rfl
  split
  · rfl
  split
  · rfl
  · split
    · unfold sanitizeWorkerRolloutShutdownFields
      rw [shutdownFields_alike h]
    · rfl
  · rfl

theorem sanitizeAgentProtocolValue_alike
    (h : Alike (redactText process environmentVariables operationalValues assignedNames)
      (redactText process environmentVariables' operationalValues assignedNames) value) :
    sanitizeAgentProtocolValue process key value environmentVariables operationalValues
        assignedNames =
      sanitizeAgentProtocolValue process key value environmentVariables' operationalValues
        assignedNames := by
  unfold sanitizeAgentProtocolValue
  rw [sanitizeSensitiveProtocolValue_alike h]
  exact congrArg _ (funext fun sanitized => keepVocabulary_alike h)

theorem sanitizeProtocolKeys_alike {result safeResult : List (Units × Json)}
    {error : SanitizeError} (keys : List Units) (safeResult' : List (Units × Json))
    (h : Alike (redactText process environmentVariables operationalValues assignedNames)
      (redactText process environmentVariables' operationalValues assignedNames) (.obj result))
    (herror : sanitizeProtocolKeys process result environmentVariables operationalValues
      assignedNames keys safeResult = .error error) :
    sanitizeProtocolKeys process result environmentVariables' operationalValues assignedNames keys
      safeResult' = .error error := by
  induction keys generalizing safeResult safeResult' with
  | nil => exact nomatch herror
  | cons key keys ih =>
    unfold sanitizeProtocolKeys sanitizeProtocolKey at herror ⊢
    cases hget : get? result key with
    | none =>
      rw [hget] at herror
      exact ih _ herror
    | some value =>
      have hvalue : Alike (redactText process environmentVariables operationalValues assignedNames)
          (redactText process environmentVariables' operationalValues assignedNames) value :=
        fun path text hleaf => h _ _ (.entry (mem_of_get? hget) hleaf)
      rw [hget] at herror
      dsimp only at herror ⊢
      rw [sanitizeAgentProtocolValue_alike hvalue] at herror
      cases hsanitized : sanitizeAgentProtocolValue process key value environmentVariables'
          operationalValues assignedNames with
      | none =>
        rw [hsanitized] at herror
        exact herror
      | some sanitized =>
        rw [hsanitized] at herror
        dsimp only at herror ⊢
        by_cases hconflict : agentProtocolValueHasRedactionConflict key value sanitized = true
        · rw [if_pos hconflict] at herror ⊢
          exact herror
        · rw [if_neg hconflict] at herror ⊢
          exact ih _ herror

theorem sanitizeSensitiveValue_obj (process : LogProcess)
    (environmentVariables : EnvironmentVariableMap) (operationalValues assignedNames : List Units)
    (result : List (Units × Json)) :
    (operationalExclusions operationalValues = none ∧
      sanitizeSensitiveValue process (.obj result) environmentVariables operationalValues
        assignedNames = none) ∨
    (operationalExclusions operationalValues ≠ none ∧
      ∃ safeResult, sanitizeSensitiveValue process (.obj result) environmentVariables
        operationalValues assignedNames = some (.obj safeResult)) := by
  have hsome := compileLogRedaction_isSome process {
    assignedNames := assignedNames
    environmentVariables := some environmentVariables
    operationalValues := operationalValues }
  unfold sanitizeSensitiveValue sanitizeLogValue
  cases hcompiled : compileLogRedaction process {
      assignedNames := assignedNames
      environmentVariables := some environmentVariables
      operationalValues := operationalValues } with
  | none =>
    rw [hcompiled] at hsome
    exact .inl ⟨Option.isNone_iff_eq_none.mp (Option.isSome_eq_false_iff.mp hsome.symm), rfl⟩
  | some redaction =>
    rw [hcompiled] at hsome
    exact .inr ⟨Option.isSome_iff_ne_none.mp hsome.symm, _, rfl⟩

theorem sanitizeAgentWorkResult_alike {result : List (Units × Json)} {error : SanitizeError}
    (h : Alike (redactText process environmentVariables operationalValues assignedNames)
      (redactText process environmentVariables' operationalValues assignedNames) (.obj result))
    (herror : sanitizeAgentWorkResult process environmentVariables operationalValues assignedNames
      (some result) = .error error) :
    sanitizeAgentWorkResult process environmentVariables' operationalValues assignedNames
      (some result) = .error error := by
  unfold sanitizeAgentWorkResult at herror ⊢
  dsimp only at herror ⊢
  obtain ⟨hnone, hsanitized⟩ | ⟨hexclusions, safeResult, hsanitized⟩ := sanitizeSensitiveValue_obj
    process environmentVariables operationalValues assignedNames result
  · obtain ⟨-, hsanitized'⟩ | ⟨hexclusions, -⟩ := sanitizeSensitiveValue_obj
      process environmentVariables' operationalValues assignedNames result
    · rw [hsanitized] at herror
      rw [hsanitized']
      exact herror
    · exact absurd hnone hexclusions
  · obtain ⟨hnone, -⟩ | ⟨-, safeResult', hsanitized'⟩ := sanitizeSensitiveValue_obj
      process environmentVariables' operationalValues assignedNames result
    · exact absurd hnone hexclusions
    · rw [hsanitized] at herror
      rw [hsanitized']
      dsimp only at herror ⊢
      cases hkeys : sanitizeProtocolKeys process result environmentVariables operationalValues
          assignedNames agentWorkResultProtocolKeys safeResult with
      | error found =>
        rw [hkeys] at herror
        rw [sanitizeProtocolKeys_alike _ safeResult' h hkeys]
        exact herror
      | ok last =>
        rw [hkeys] at herror
        exact nomatch herror

theorem conflict_not_assigned {result : List (Units × Json)}
    (hconflict : sanitizeAgentWorkResult process environmentVariables operationalValues
      assignedNames (some result) = .error .redactionConflict) :
    sanitizeAgentWorkResult process [] operationalValues assignedNames (some result) =
        .error .redactionConflict ∨
      ∃ path text, Leaf (.obj result) path text ∧ text ∉ assignedNames ∧
        redactText process environmentVariables operationalValues assignedNames text ≠
          redactText process [] operationalValues assignedNames text := by
  by_cases htreated : ∃ path text, Leaf (.obj result) path text ∧ text ∉ assignedNames ∧
      redactText process environmentVariables operationalValues assignedNames text ≠
        redactText process [] operationalValues assignedNames text
  · exact .inr htreated
  · refine .inl (sanitizeAgentWorkResult_alike (fun path text hleaf => ?_) hconflict)
    by_contra hdiffers
    refine htreated ⟨path, text, hleaf, fun hassigned => hdiffers ?_, hdiffers⟩
    rw [redactText_assigned hassigned, redactText_assigned hassigned]

/-- The names that redaction is told of are those that the agent gives, whatever the ids are, and no
customer's value in one of them makes a conflict of a result. -/
theorem assigned_names_do_not_drift {payload : List (Units × Json)} {serviceId : Units}
    (hs : get? payload (units "serviceId") = some (.str serviceId)) (hservice : serviceId ≠ []) :
    (∀ deploymentId, get? payload (units "deploymentId") = some (.str deploymentId) →
      deploymentId ≠ [] →
      buildAppContainerName serviceId deploymentId ∈
        collectAgentWorkAssignedNames (.obj payload) ∧
      buildLocalImageUrl deploymentId none ∈ collectAgentWorkAssignedNames (.obj payload) ∧
      ∀ replicaCount : ℕ, get? payload (units "replicaCount") = some (.num replicaCount) →
        replicaCount ≤ maxWorkerReplicaCount → ∀ replicaIndex < replicaCount,
          buildWorkerReplicaContainerName serviceId deploymentId replicaIndex ∈
            collectAgentWorkAssignedNames (.obj payload)) ∧
    (∀ scheduleRunId, get? payload (units "scheduleRunId") = some (.str scheduleRunId) →
      scheduleRunId ≠ [] → buildWorkerJobContainerName serviceId scheduleRunId ∈
        collectAgentWorkAssignedNames (.obj payload)) ∧
    ∀ process environmentVariables operationalValues result,
      sanitizeAgentWorkResult process environmentVariables operationalValues
        (collectAgentWorkAssignedNames (.obj payload)) (some result) =
          .error .redactionConflict →
      sanitizeAgentWorkResult process [] operationalValues
        (collectAgentWorkAssignedNames (.obj payload)) (some result) =
          .error .redactionConflict ∨
      ∃ path text, Leaf (.obj result) path text ∧
        text ∉ collectAgentWorkAssignedNames (.obj payload) ∧
        redactText process environmentVariables operationalValues
          (collectAgentWorkAssignedNames (.obj payload)) text ≠
        redactText process [] operationalValues
          (collectAgentWorkAssignedNames (.obj payload)) text := by
  refine ⟨fun deploymentId hd hdeployment => ?_, fun scheduleRunId hr hrun =>
    job_assigned hs hservice hr hrun, fun process environmentVariables operationalValues result =>
    conflict_not_assigned⟩
  have hnames := deployment_assigned hs hservice hd hdeployment
  refine ⟨hnames _ List.mem_cons_self, hnames _ (List.mem_cons_of_mem _ List.mem_cons_self),
    fun replicaCount hcount hle replicaIndex hindex => hnames _ (List.mem_append_right _ ?_)⟩
  rw [readReplicaCount_eq hcount hle]
  exact List.mem_map.mpr ⟨replicaIndex, List.mem_range.mpr hindex, rfl⟩

def workerPayload : List (Units × Json) :=
  [(units "serviceId", .str (units "8e3b1f6a-2c4d-4a7e-9f05-b1d3c6e8a027")),
    (units "deploymentId", .str (units "hcgt459atqvtn0mmg75m4024")),
    (units "replicaCount", .num (2 : ℕ))]

theorem assigned_names_do_not_drift_worker :
    units "nouva-worker-8e3b1f6a-hcgt459a-1" ∈ collectAgentWorkAssignedNames (.obj workerPayload) :=
  ((@assigned_names_do_not_drift workerPayload _ rfl (by decide)).1
    (units "hcgt459atqvtn0mmg75m4024") rfl (by decide)).2.2 2 rfl (by decide) 1 (by decide)

end

end NouvaAgent.AssignedNames
