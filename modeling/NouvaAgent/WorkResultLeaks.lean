import NouvaAgent.BuildLogRedaction
import NouvaAgent.WorkResult

namespace NouvaAgent

open Matching LiteralRedaction LiteralSecretMatcher LogRedaction Json

/-- The text is made of characters that were kept and of markers, and no stretch of kept characters
spells the value. -/
def Clean (value text : Units) : Prop :=
  ∃ parts : List (Option UInt16),
    text = parts.flatMap (fun part => part.elim redactedLogValue fun c => [c]) ∧
      ¬ value.map some <:+: parts

namespace LiteralRedaction

section

variable {value t : Units} {substring boundary : List Units} {ps : List (Option ℕ)}

theorem render_eq_flatMap (hps : Within value ps) :
    render redactedLogValue value ps = (ps.map fun p => p.bind fun i => value[i]?).flatMap
      (fun part => part.elim redactedLogValue fun c => [c]) := by
  induction ps with
  | nil => rfl
  | cons p ps ih =>
    have hrest := ih fun i hi => hps i (List.mem_cons_of_mem p hi)
    cases p with
    | none =>
      rw [render_none, hrest]
      rfl
    | some i =>
      have hget := List.getElem?_eq_getElem (hps i List.mem_cons_self)
      rw [render_some hget, hrest, List.map_cons, Option.bind_some, hget]
      rfl

theorem kept_of_map_some {mid : List (Option ℕ)}
    (h : mid.map (fun p => p.bind fun i => value[i]?) = t.map some) :
    ∃ qs : List ℕ, mid = qs.map some ∧ render redactedLogValue value mid = t := by
  induction t generalizing mid with
  | nil =>
    obtain rfl := List.map_eq_nil_iff.mp h
    exact ⟨[], rfl, rfl⟩
  | cons c t ih =>
    cases mid with
    | nil => cases h
    | cons p mid =>
      obtain ⟨hp, hmid⟩ := List.cons.inj h
      obtain ⟨qs, rfl, hrender⟩ := ih hmid
      cases p with
      | none => cases hp
      | some i =>
        refine ⟨i :: qs, rfl, ?_⟩
        rw [render_some hp, hrender]

theorem clean_leftmostPieces (ht : t ∈ substring) (hne : t ≠ []) :
    Clean t (render redactedLogValue value (leftmostPieces substring boundary value)) := by
  refine ⟨_, render_eq_flatMap within_pieces, ?_⟩
  rintro ⟨before, after, hmap⟩
  obtain ⟨_, rest, hps, hleft, _⟩ := List.append_eq_map_iff.mp hmap
  obtain ⟨first, mid, rfl, _, hmid⟩ := List.append_eq_map_iff.mp hleft.symm
  obtain ⟨qs, rfl, hrender⟩ := kept_of_map_some hmid
  have hqs : qs ≠ [] := by
    rintro rfl
    exact hne hrender.symm
  obtain ⟨j, hj, hr⟩ := reads_pieces (longestTokenAt substring boundary value) value.length
  have hpieces : pieces (longestTokenAt substring boundary value) value.length =
      first ++ qs.map some ++ rest := hps
  rw [hpieces, List.append_assoc] at hr
  obtain ⟨p, _, hr⟩ := reads_append.mp hr
  obtain ⟨e, hkept, _⟩ := reads_append.mp hr
  obtain ⟨hrange, rfl, hle⟩ := hkept.kept
  have hwithin := hle.resolve_left hqs
  have hpos := List.length_pos_iff.mpr hqs
  rw [hrange, render_range' hwithin] at hrender
  have hfound : t <+: value.drop p := hrender ▸ List.take_prefix _ _
  have hmem : some p ∈ pieces (longestTokenAt substring boundary value) value.length := by
    rw [hpieces, hrange]
    apply List.mem_append_left
    apply List.mem_append_right
    exact List.mem_map_of_mem (List.mem_range'_1.mpr ⟨Nat.le_refl p, by omega⟩)
  have hzero := (mem_pieces.mp hmem).2.1
  have hlen := List.length_pos_iff.mpr hne
  have htoken := le_longestTokenAt boundary ht hfound
  omega

theorem clean_not_infix {text : Units} (h : Clean t text) (hleft : leftBracket ∉ text) :
    ¬ t <:+: text := by
  obtain ⟨parts, rfl, hnot⟩ := h
  have hall (part : Option UInt16) (hpart : part ∈ parts) : part ≠ none := by
    rintro rfl
    refine hleft (List.mem_flatMap.mpr ⟨none, hpart, ?_⟩)
    rw [Option.elim_none, marker_eq]
    exact List.mem_cons_self
  have hkept : parts = (parts.flatMap fun part =>
      part.elim redactedLogValue fun c => [c]).map some := by
    clear hnot hleft
    induction parts with
    | nil => rfl
    | cons part parts ih =>
      cases part with
      | none => exact absurd rfl (hall none List.mem_cons_self)
      | some c =>
        have hrest := ih fun part hpart => hall part (List.mem_cons_of_mem _ hpart)
        rw [List.flatMap_cons, List.map_append, ← hrest]
        rfl
  intro hwithin
  rw [hkept] at hnot
  exact hnot (hwithin.map some)

theorem clean_marker (hne : t ≠ []) : Clean t redactedLogValue := by
  refine ⟨[none], (List.append_nil _).symm, fun h => ?_⟩
  obtain ⟨c, t, rfl⟩ := List.exists_cons_of_ne_nil hne
  have hmem := h.subset List.mem_cons_self
  cases List.mem_singleton.mp hmem

end

end LiteralRedaction

namespace LogRedaction

section

variable {process : LogProcess} {options : LogRedactionOptions} {redaction : CompiledLogRedaction}
  {v : Units}

def requestedValues (process : LogProcess) (options : LogRedactionOptions) : List Units :=
  (match options.secretValues with
    | none => collectConfiguredSecretValues process
    | some secretValues => uniqueSortedSecretValues secretValues) ++ optionEnvironmentValues options

theorem mem_operationalExclusions {values exclusions : List Units}
    (h : operationalExclusions values = some exclusions) (hv : v ∈ exclusions) :
    v ∈ values ∨ ∃ value ∈ values, encodeURIComponent value = some v := by
  induction values generalizing exclusions with
  | nil =>
    obtain rfl := Option.some.inj h
    cases hv
  | cons value rest ih =>
    have hrest (exclusions : List Units) (h : operationalExclusions rest = some exclusions)
        (hv : v ∈ exclusions) : v ∈ value :: rest ∨
          ∃ x ∈ value :: rest, encodeURIComponent x = some v := by
      obtain hv | ⟨x, hx, henc⟩ := ih h hv
      · exact .inl (List.mem_cons_of_mem value hv)
      · exact .inr ⟨x, List.mem_cons_of_mem value hx, henc⟩
    unfold operationalExclusions at h
    split at h
    · exact hrest exclusions h hv
    · obtain ⟨encoded, henc, h⟩ := Option.bind_eq_some_iff.mp h
      obtain ⟨others, hothers, h⟩ := Option.bind_eq_some_iff.mp h
      obtain rfl := Option.some.inj h
      obtain rfl | hv := List.mem_cons.mp hv
      · exact .inl List.mem_cons_self
      · obtain rfl | hv := List.mem_cons.mp hv
        · exact .inr ⟨value, List.mem_cons_self, henc⟩
        · exact hrest others hothers hv

theorem mem_resolveSecretValues {secretValues : List Units}
    (h : resolveSecretValues process options = some secretValues)
    (hplatform : options.platformGeneratedValues = []) (hv : v ∈ requestedValues process options)
    (hne : v ≠ []) (hop : v ∉ options.operationalValues)
    (henc : ∀ value ∈ options.operationalValues, encodeURIComponent value ≠ some v) :
    v ∈ secretValues := by
  obtain ⟨kept, hkept, rfl⟩ := Option.map_eq_some_iff.mp h
  obtain ⟨all, hall, rfl⟩ := Option.map_eq_some_iff.mp hkept
  obtain ⟨exclusions, hexclusions, rfl⟩ := Option.map_eq_some_iff.mp hall
  rw [hplatform, List.filter_nil, List.append_nil]
  refine mem_uniqueSortedSecretValues.mpr ⟨List.mem_filter.mpr ⟨hv, ?_⟩, hne⟩
  rw [Bool.not_eq_true', List.contains_eq_mem, decide_eq_false_iff_not]
  intro hmem
  obtain hmem | ⟨value, hvalue, hencoded⟩ := mem_operationalExclusions hexclusions hmem
  · exact hop hmem
  · exact henc value hvalue hencoded

/-- A compiled redaction searches everywhere for the values that it is asked to redact. -/
structure Searches (redaction : CompiledLogRedaction) (assignedNames : List Units) (v : Units) :
    Prop where
  assigned : redaction.assignedNames = assignedNames
  boundary : ∀ t ∈ redaction.boundaryTextValues, t ≠ []
  substring : ∃ substring, redaction.substringMatcher = createLiteralSecretMatcher substring ∧
    v ∈ substring

theorem searches_compileLogRedaction (h : compileLogRedaction process options = some redaction)
    (hplatform : options.platformGeneratedValues = []) (hv : v ∈ requestedValues process options)
    (hlen : minSubstringTokenLength ≤ v.length) (hop : v ∉ options.operationalValues)
    (henc : ∀ value ∈ options.operationalValues, encodeURIComponent value ≠ some v) :
    Searches redaction options.assignedNames v := by
  obtain ⟨secretValues, hsecrets, h⟩ := Option.bind_eq_some_iff.mp h
  obtain ⟨exactValues, _, h⟩ := Option.bind_eq_some_iff.mp h
  obtain rfl := Option.some.inj h
  have hne : v ≠ [] := by
    rintro rfl
    cases hlen
  have hmem := mem_resolveSecretValues hsecrets hplatform hv hne hop henc
  refine ⟨rfl, fun t ht => ?_, _, rfl, mem_substringTokens.mpr ⟨hmem, ?_⟩⟩
  · obtain ⟨kept, _, rfl⟩ := Option.map_eq_some_iff.mp hsecrets
    exact (mem_uniqueSortedSecretValues.mp (mem_boundaryTokens.mp ht).1).2
  · rw [hplatform]
    exact tokenMatch_customer hlen (by simp)

def SafeText (assignedNames : List Units) (v text : Units) : Prop :=
  text ∈ assignedNames ∨ Clean v text

theorem sanitizeString_safe {assignedNames : List Units}
    (hshapes : ∀ text, process.redactCredentialShapes text = text)
    (hs : Searches redaction assignedNames v) (hne : v ≠ []) (text : Units) :
    SafeText assignedNames v (sanitizeString process redaction text) := by
  unfold sanitizeString
  split
  · next hassigned =>
    rw [hshapes, SafeText, ← hs.assigned]
    exact .inl (by simpa using hassigned)
  · right
    unfold sanitizeStructuredText
    split
    · exact clean_marker hne
    · obtain ⟨substring, hmatcher, hv⟩ := hs.substring
      rw [redactTextWithSecretMatcher, hshapes, hmatcher,
        redactLiteralSecretsWithMatcher_eq_render hs.boundary]
      exact clean_leftmostPieces hv hne

def SafeValue (assignedNames : List Units) (v : Units) (value : Json) : Prop :=
  ∀ path text, Leaf value path text → SafeText assignedNames v text

theorem safeValue_marker {assignedNames : List Units} (hne : v ≠ []) :
    SafeValue assignedNames v (.str redactedLogValue) := by
  intro path text h
  cases h
  exact .inr (clean_marker hne)

mutual

theorem sanitizeValue_safe {assignedNames : List Units}
    (hshapes : ∀ text, process.redactCredentialShapes text = text)
    (hs : Searches redaction assignedNames v) (hne : v ≠ []) :
    (value : Json) → SafeValue assignedNames v (sanitizeValue process redaction value)
  | .null, _, _, h => nomatch h
  | .bool _, _, _, h => nomatch h
  | .num _, _, _, h => nomatch h
  | .str value, _, _, .str _ => sanitizeString_safe hshapes hs hne value
  | .arr items, _, _, .item hi h =>
    sanitizeItems_safe hshapes hs hne items _ (List.mem_of_getElem? hi) _ _ h
  | .obj entries, _, _, .entry he h =>
    sanitizeEntries_safe hshapes hs hne entries [] (fun _ _ h => nomatch h) _ _ he _ _ h

theorem sanitizeItems_safe {assignedNames : List Units}
    (hshapes : ∀ text, process.redactCredentialShapes text = text)
    (hs : Searches redaction assignedNames v) (hne : v ≠ []) :
    (items : List Json) → ∀ item ∈ sanitizeItems process redaction items,
      SafeValue assignedNames v item
  | [], _, h => nomatch h
  | item :: rest, x, h => by
    obtain rfl | h := List.mem_cons.mp h
    · exact sanitizeValue_safe hshapes hs hne item
    · exact sanitizeItems_safe hshapes hs hne rest x h

theorem sanitizeEntries_safe {assignedNames : List Units}
    (hshapes : ∀ text, process.redactCredentialShapes text = text)
    (hs : Searches redaction assignedNames v) (hne : v ≠ []) :
    (entries result : List (Units × Json)) →
      (∀ name item, (name, item) ∈ result → SafeValue assignedNames v item) →
      ∀ name item, (name, item) ∈ sanitizeEntries process redaction entries result →
        SafeValue assignedNames v item
  | [], _, hresult => hresult
  | (key, entry) :: rest, result, hresult => by
    apply sanitizeEntries_safe hshapes hs hne rest
    intro name item hmem
    obtain ⟨_, rfl⟩ | hmem := mem_assign hmem
    · split
      · exact safeValue_marker hne
      · exact sanitizeValue_safe hshapes hs hne entry
    · exact hresult name item hmem

end

end

end LogRedaction

namespace WorkResult

def allowedIn (vocabulary : List (Units × (Units → Bool))) (name text : Units) : Bool :=
  vocabulary.any fun (key, allowed) => key == name && allowed text

def policyVocabulary : List (Units × (Units → Bool)) :=
  [(units "signal", workerShutdownSignals.contains),
    (units "rolloutPolicy", workerRolloutPolicies.contains)]

def shutdownVocabulary : List (Units × (Units → Bool)) :=
  [(units "role", workerShutdownRoles.contains), (units "signal", isWorkerStopSignalName),
    (units "outcome", workerShutdownOutcomes.contains)]

/-- A word of the platform, in the field of a result that has its own closed vocabulary. -/
def isVocabularyLeaf : List Step → Units → Bool
  | [.key field, .key name], text =>
    (field == units "rollout" && allowedIn rolloutVocabulary name text) ||
      (field == units "runtimeInstance" && allowedIn runtimeInstanceVocabulary name text) ||
      (field == units "importProof" &&
        allowedIn externalBackupImportProofVocabulary name text)
  | [.key field, .index _, .key name], text =>
    field == units "runtimeInstances" && allowedIn runtimeInstanceVocabulary name text
  | [.key field, .key part, .key name], text =>
    field == units "rollout" && part == units "policy" && allowedIn policyVocabulary name text
  | [.key field, .key part, .index _, .key name], text =>
    field == units "rollout" && part == units "shutdowns" && allowedIn shutdownVocabulary name text
  | _, _ => false

theorem allowedIn_of_mem {vocabulary : List (Units × (Units → Bool))} {name text : Units}
    {allowed : Units → Bool} (hmem : (name, allowed) ∈ vocabulary) (h : allowed text = true) :
    allowedIn vocabulary name text = true :=
  List.any_eq_true.mpr ⟨_, hmem, by simpa using h⟩

def SafeLeaf (assignedNames : List Units) (v : Units) (path : List Step) (text : Units) : Prop :=
  SafeText assignedNames v text ∨ isVocabularyLeaf path text = true

section

variable {process : LogProcess} {environmentVariables : EnvironmentVariableMap}
  {operationalValues assignedNames : List Units} {v key name text : Units} {value out item : Json}
  {record : List (Units × Json)} {vocabulary : List (Units × (Units → Bool))} {path : List Step}

theorem textIn_some {allowed : Units → Bool} {read : Option Json}
    (h : textIn allowed read = some text) : allowed text = true := by
  unfold textIn at h
  split at h
  · split at h
    · next hallowed =>
      obtain rfl := Option.some.inj h
      exact hallowed
    · cases h
  · cases h

theorem mem_vocabularyFields (h : (name, item) ∈ vocabularyFields vocabulary record) :
    ∃ text, item = .str text ∧ allowedIn vocabulary name text = true := by
  obtain ⟨⟨key, allowed⟩, hmem, heq⟩ := List.mem_filterMap.mp h
  obtain ⟨text, htext, heq⟩ := Option.map_eq_some_iff.mp heq
  obtain ⟨rfl, rfl⟩ := Prod.mk.inj heq
  exact ⟨text, rfl, allowedIn_of_mem hmem (textIn_some htext)⟩

/-- A value that a result must not contain, unless it is a word of the platform's own. -/
structure Protected (environmentVariables : EnvironmentVariableMap)
    (operationalValues : List Units) (v : Units) : Prop where
  value : ∃ key, (key, some v) ∈ environmentVariables
  length : minSubstringTokenLength ≤ v.length
  noFlag : isFlagEnvironmentValue v = false
  notOperational : v ∉ operationalValues
  notEncoded : ∀ value ∈ operationalValues, encodeURIComponent value ≠ some v

theorem Protected.ne_nil (hp : Protected environmentVariables operationalValues v) : v ≠ [] := by
  rintro rfl
  cases hp.length

theorem Protected.mem_values (hp : Protected environmentVariables operationalValues v) :
    v ∈ collectEnvironmentMapValues environmentVariables := by
  obtain ⟨key, hkey⟩ := hp.value
  refine mem_uniqueSortedSecretValues.mpr ⟨List.mem_flatMap.mpr ⟨_, hkey, ?_⟩, hp.ne_nil⟩
  simp [hp.noFlag]

theorem Protected.mem_secretValues (hp : Protected environmentVariables operationalValues v) :
    v ∈ collectEnvironmentMapSecretValues environmentVariables := by
  obtain ⟨key, hkey⟩ := hp.value
  refine mem_uniqueSortedSecretValues.mpr ⟨List.mem_flatMap.mpr ⟨_, hkey, ?_⟩, hp.ne_nil⟩
  have hpos := List.length_pos_iff.mpr hp.ne_nil
  simp [hpos]

theorem Protected.sensitiveValue (hp : Protected environmentVariables operationalValues v)
    (hshapes : ∀ text, process.redactCredentialShapes text = text)
    (h : sanitizeSensitiveValue process value environmentVariables operationalValues
      assignedNames = some out) : SafeValue assignedNames v out := by
  obtain ⟨redaction, hcompile, rfl⟩ := Option.map_eq_some_iff.mp h
  have hs := searches_compileLogRedaction hcompile rfl
    (List.mem_append_right _ hp.mem_secretValues) hp.length hp.notOperational hp.notEncoded
  exact sanitizeValue_safe hshapes hs hp.ne_nil value

theorem Protected.sensitiveProtocolValue (hp : Protected environmentVariables operationalValues v)
    (hshapes : ∀ text, process.redactCredentialShapes text = text)
    (h : sanitizeSensitiveProtocolValue process value environmentVariables operationalValues
      assignedNames = some out) : SafeValue assignedNames v out := by
  obtain ⟨redaction, hcompile, rfl⟩ := Option.map_eq_some_iff.mp h
  have hrequested := mem_uniqueSortedSecretValues.mpr
    ⟨List.mem_append_right (collectConfiguredSecretValues process) hp.mem_values, hp.ne_nil⟩
  have hs := searches_compileLogRedaction hcompile rfl (List.mem_append_left _ hrequested)
    hp.length hp.notOperational hp.notEncoded
  exact sanitizeValue_safe hshapes hs hp.ne_nil value

theorem leaf_spread_vocabulary {entries : List (Units × Json)} (hsafe : SafeValue assignedNames v
      (.obj entries)) (h : Leaf (.obj (spread entries (vocabularyFields vocabulary record))) path text) :
    SafeText assignedNames v text ∨
      ∃ name, path = [.key name] ∧ allowedIn vocabulary name text = true := by
  cases h with
  | entry he h =>
    obtain hv | he := mem_spread he
    · obtain ⟨word, rfl, hallowed⟩ := mem_vocabularyFields hv
      cases h
      exact .inr ⟨_, rfl, hallowed⟩
    · exact .inl (hsafe _ _ (.entry he h))

theorem keepRuntimeInstanceKind_leaf {instance_ sanitized : Json}
    (hsafe : SafeValue assignedNames v sanitized)
    (h : Leaf (keepRuntimeInstanceKind instance_ sanitized) path text) :
    SafeText assignedNames v text ∨
      ∃ name, path = [.key name] ∧ allowedIn runtimeInstanceVocabulary name text = true := by
  unfold keepRuntimeInstanceKind at h
  split at h
  · exact leaf_spread_vocabulary hsafe h
  · exact .inl (hsafe path text h)

theorem keepImportProofVocabulary_leaf {proof sanitized : Json}
    (hsafe : SafeValue assignedNames v sanitized)
    (h : Leaf (keepImportProofVocabulary proof sanitized) path text) :
    SafeText assignedNames v text ∨ ∃ name, path = [.key name] ∧
      allowedIn externalBackupImportProofVocabulary name text = true := by
  unfold keepImportProofVocabulary at h
  split at h
  · exact leaf_spread_vocabulary hsafe h
  · exact .inl (hsafe path text h)

theorem orNull_some {read : Option Json → Option Json} {given : Option Json}
    (h : orNull read given = some item) : item = .null ∨ read given = some item := by
  unfold orNull at h
  split at h
  · exact .inl (Option.some.inj h).symm
  · exact .inr h

theorem parseWorkerShutdownPolicy_leaf (h : Leaf (parseWorkerShutdownPolicy value) path text) :
    ∃ name, path = [.key name] ∧ allowedIn policyVocabulary name text = true := by
  unfold parseWorkerShutdownPolicy at h
  split at h
  · split at h
    · next policy hread =>
      obtain ⟨signal, hsignal, hread⟩ := Option.bind_eq_some_iff.mp hread
      obtain ⟨seconds, _, hread⟩ := Option.bind_eq_some_iff.mp hread
      obtain ⟨rollout, hrollout, hread⟩ := Option.bind_eq_some_iff.mp hread
      obtain rfl := Option.some.inj hread
      cases h with
      | entry he h =>
        simp only [List.mem_cons, List.not_mem_nil, or_false, Prod.mk.injEq] at he
        obtain ⟨rfl, rfl⟩ | ⟨_, rfl⟩ | ⟨rfl, rfl⟩ := he
        · obtain rfl | hsignal := orNull_some hsignal
          · cases h
          · obtain ⟨word, hword, rfl⟩ := Option.map_eq_some_iff.mp hsignal
            cases h
            exact ⟨_, rfl, allowedIn_of_mem List.mem_cons_self (textIn_some hword)⟩
        · cases h
        · cases h
          exact ⟨_, rfl, allowedIn_of_mem (by simp [policyVocabulary]) (textIn_some hrollout)⟩
    · cases h
  · cases h

theorem shutdownReportEntries_leaf {report : WorkerShutdownReport} {given containerName : Json}
    (hreport : parseWorkerShutdownReport given = some report)
    (hsafe : SafeValue assignedNames v containerName)
    (h : Leaf (.obj (shutdownReportEntries report containerName)) path text) :
    SafeText assignedNames v text ∨
      ∃ name, path = [.key name] ∧ allowedIn shutdownVocabulary name text = true := by
  unfold parseWorkerShutdownReport at hreport
  split at hreport
  · obtain ⟨_, _, hreport⟩ := Option.bind_eq_some_iff.mp hreport
    obtain ⟨role, hrole, hreport⟩ := Option.bind_eq_some_iff.mp hreport
    obtain ⟨signal, hsignal, hreport⟩ := Option.bind_eq_some_iff.mp hreport
    obtain ⟨_, _, hreport⟩ := Option.bind_eq_some_iff.mp hreport
    obtain ⟨outcome, houtcome, hreport⟩ := Option.bind_eq_some_iff.mp hreport
    obtain ⟨exitCode, hexit, hreport⟩ := Option.bind_eq_some_iff.mp hreport
    obtain ⟨_, _, hreport⟩ := Option.bind_eq_some_iff.mp hreport
    obtain rfl := Option.some.inj hreport
    cases h with
    | entry he h =>
      simp only [shutdownReportEntries, List.mem_cons, List.not_mem_nil, or_false,
        Prod.mk.injEq] at he
      obtain ⟨_, rfl⟩ | ⟨rfl, rfl⟩ | ⟨rfl, rfl⟩ | ⟨_, rfl⟩ | ⟨rfl, rfl⟩ | ⟨_, rfl⟩ | ⟨_, rfl⟩ := he
      · exact .inl (hsafe _ _ h)
      · cases h
        exact .inr ⟨_, rfl, allowedIn_of_mem (by simp [shutdownVocabulary]) (textIn_some hrole)⟩
      · cases h
        exact .inr ⟨_, rfl, allowedIn_of_mem (by simp [shutdownVocabulary]) (textIn_some hsignal)⟩
      · cases h
      · cases h
        exact .inr ⟨_, rfl, allowedIn_of_mem (by simp [shutdownVocabulary]) (textIn_some houtcome)⟩
      · obtain rfl | hexit := orNull_some hexit
        · cases h
        · obtain ⟨_, _, rfl⟩ := Option.map_eq_some_iff.mp hexit
          cases h
      · cases h
  · cases hreport

theorem mem_of_mapM {α β : Type} {f : α → Option β} {xs : List α} {ys : List β} {y : β}
    (h : xs.mapM f = some ys) (hy : y ∈ ys) : ∃ x ∈ xs, f x = some y := by
  induction xs generalizing ys with
  | nil =>
    obtain rfl := Option.some.inj h
    cases hy
  | cons x xs ih =>
    rw [List.mapM_cons] at h
    obtain ⟨z, hz, h⟩ := Option.bind_eq_some_iff.mp h
    obtain ⟨zs, hzs, h⟩ := Option.bind_eq_some_iff.mp h
    obtain rfl := Option.some.inj h
    obtain rfl | hy := List.mem_cons.mp hy
    · exact ⟨x, List.mem_cons_self, hz⟩
    · obtain ⟨w, hw, hwy⟩ := ih hzs hy
      exact ⟨w, List.mem_cons_of_mem x hw, hwy⟩

theorem policyFields_leaf {rollout : List (Units × Json)} (hmem : (name, item) ∈ policyFields rollout)
    (hleaf : Leaf item path text) :
    SafeLeaf assignedNames v (.key (units "rollout") :: .key name :: path) text := by
  unfold policyFields at hmem
  split at hmem
  · cases hmem
  · obtain ⟨rfl, rfl⟩ := Prod.mk.inj (List.mem_singleton.mp hmem)
    obtain ⟨word, rfl, hallowed⟩ := parseWorkerShutdownPolicy_leaf hleaf
    exact .inr (by simpa [isVocabularyLeaf] using hallowed)

theorem shutdownFields_leaf {rollout fields : List (Units × Json)}
    {redactContainerName : Units → Option Json}
    (hredact : ∀ name out, redactContainerName name = some out → SafeValue assignedNames v out)
    (h : shutdownFields rollout redactContainerName = some fields)
    (hmem : (name, item) ∈ fields) (hleaf : Leaf item path text) :
    SafeLeaf assignedNames v (.key (units "rollout") :: .key name :: path) text := by
  unfold shutdownFields at h
  split at h
  · obtain rfl := Option.some.inj h
    cases hmem
  · next shutdowns _ =>
    obtain ⟨reports, hreports, rfl⟩ := Option.map_eq_some_iff.mp h
    obtain ⟨rfl, rfl⟩ := Prod.mk.inj (List.mem_singleton.mp hmem)
    cases hleaf with
    | item hi hleaf =>
      obtain ⟨report, hreport, hredacted⟩ := mem_of_mapM hreports (List.mem_of_getElem? hi)
      obtain ⟨containerName, hname, rfl⟩ := Option.map_eq_some_iff.mp hredacted
      unfold parseWorkerShutdownReports at hreport
      split at hreport
      · obtain ⟨given, _, hparsed⟩ := List.mem_filterMap.mp hreport
        obtain hsafe | ⟨word, rfl, hallowed⟩ :=
          shutdownReportEntries_leaf hparsed (hredact _ _ hname) hleaf
        · exact .inl hsafe
        · exact .inr (by simpa [isVocabularyLeaf] using hallowed)
      · cases hreport

theorem keepVocabulary_leaf {redactContainerName : Units → Option Json} {sanitized : Json}
    (hredact : ∀ name out, redactContainerName name = some out → SafeValue assignedNames v out)
    (hsafe : SafeValue assignedNames v sanitized)
    (h : keepVocabulary redactContainerName key value sanitized = some out)
    (hleaf : Leaf out path text) : SafeLeaf assignedNames v (.key key :: path) text := by
  unfold keepVocabulary at h
  split at h
  · next hkey =>
    subst hkey
    obtain rfl := Option.some.inj h
    obtain hsafe | ⟨word, rfl, hallowed⟩ := keepRuntimeInstanceKind_leaf hsafe hleaf
    · exact .inl hsafe
    · exact .inr (by simp [isVocabularyLeaf, hallowed])
  split at h
  · next hkey =>
    subst hkey
    obtain rfl := Option.some.inj h
    obtain hsafe | ⟨word, rfl, hallowed⟩ := keepImportProofVocabulary_leaf hsafe hleaf
    · exact .inl hsafe
    · exact .inr (by simp [isVocabularyLeaf, hallowed])
  split at h
  · next items sanitizedItems =>
    split at h
    · next hkey =>
      subst hkey
      obtain rfl := Option.some.inj h
      cases hleaf with
      | item hi hleaf =>
        obtain ⟨instance_, kept, _, hkept, rfl⟩ := List.getElem?_zipWith_eq_some.mp hi
        obtain hsafe | ⟨word, rfl, hallowed⟩ := keepRuntimeInstanceKind_leaf
          (fun path text hleaf => hsafe _ text (.item hkept hleaf)) hleaf
        · exact .inl hsafe
        · exact .inr (by simpa [isVocabularyLeaf] using hallowed)
    · obtain rfl := Option.some.inj h
      exact .inl (hsafe _ _ hleaf)
  · next rollout entries =>
    split at h
    · next hkey =>
      subst hkey
      obtain ⟨fields, hfields, rfl⟩ := Option.map_eq_some_iff.mp h
      obtain ⟨shutdowns, hshutdowns, rfl⟩ := Option.map_eq_some_iff.mp hfields
      cases hleaf with
      | entry he hleaf =>
        obtain he | he := mem_spread he
        · obtain he | he := List.mem_append.mp he
          · exact policyFields_leaf he hleaf
          · exact shutdownFields_leaf hredact hshutdowns he hleaf
        · obtain hsafe | ⟨word, hpath, hallowed⟩ := leaf_spread_vocabulary hsafe (.entry he hleaf)
          · exact .inl hsafe
          · rw [hpath]
            exact .inr (by simp [isVocabularyLeaf, hallowed])
    · obtain rfl := Option.some.inj h
      exact .inl (hsafe _ _ hleaf)
  · obtain rfl := Option.some.inj h
    exact .inl (hsafe _ _ hleaf)

theorem sanitizeAgentProtocolValue_leaf
    (hp : Protected environmentVariables operationalValues v)
    (hshapes : ∀ text, process.redactCredentialShapes text = text)
    (h : sanitizeAgentProtocolValue process key value environmentVariables operationalValues
      assignedNames = some out) (hleaf : Leaf out path text) :
    SafeLeaf assignedNames v (.key key :: path) text := by
  obtain ⟨sanitized, hsanitized, h⟩ := Option.bind_eq_some_iff.mp h
  exact keepVocabulary_leaf (fun _ _ hname => hp.sensitiveProtocolValue hshapes hname)
    (hp.sensitiveProtocolValue hshapes hsanitized) h hleaf

def SafeResult (assignedNames : List Units) (v : Units) (safeResult : List (Units × Json)) : Prop :=
  ∀ path text, Leaf (.obj safeResult) path text → SafeLeaf assignedNames v path text

theorem SafeResult.drop {result safeResult : List (Units × Json)}
    (hs : SafeResult assignedNames v safeResult) :
    SafeResult assignedNames v (dropRedactedKey result environmentVariables key safeResult) := by
  unfold dropRedactedKey
  split
  · intro path text hleaf
    cases hleaf with
    | entry he hleaf => exact hs _ _ (.entry (List.mem_filter.mp he).1 hleaf)
  · exact hs

theorem sanitizeProtocolKey_safe {result safeResult next : List (Units × Json)}
    (hp : Protected environmentVariables operationalValues v)
    (hshapes : ∀ text, process.redactCredentialShapes text = text)
    (h : sanitizeProtocolKey process result environmentVariables operationalValues assignedNames
      safeResult key = .ok next) (hs : SafeResult assignedNames v safeResult) :
    SafeResult assignedNames v next := by
  unfold sanitizeProtocolKey at h
  split at h
  · obtain rfl := Except.ok.inj h
    exact hs
  · split at h
    · cases h
    · next out hout =>
      split at h
      · cases h
      · obtain rfl := Except.ok.inj h
        apply SafeResult.drop
        intro path text hleaf
        cases hleaf with
        | entry he hleaf =>
          obtain ⟨rfl, rfl⟩ | he := mem_assign he
          · exact sanitizeAgentProtocolValue_leaf hp hshapes hout hleaf
          · exact hs _ _ (.entry he hleaf)

theorem sanitizeProtocolKeys_safe (keys : List Units) {result safeResult last : List (Units × Json)}
    (hp : Protected environmentVariables operationalValues v)
    (hshapes : ∀ text, process.redactCredentialShapes text = text)
    (h : sanitizeProtocolKeys process result environmentVariables operationalValues assignedNames
      keys safeResult = .ok last) (hs : SafeResult assignedNames v safeResult) :
    SafeResult assignedNames v last := by
  induction keys generalizing safeResult with
  | nil =>
    obtain rfl := Except.ok.inj h
    exact hs
  | cons key keys ih =>
    unfold sanitizeProtocolKeys at h
    split at h
    · cases h
    · next next hnext => exact ih h (sanitizeProtocolKey_safe hp hshapes hnext hs)

end

/-- A result that is accepted contains no value of the customer's, beside the operational values (as
they are, or percent-encoded) and the words of the platform's own. -/
theorem accepted_result_leaks_nothing (process : LogProcess)
    (environmentVariables : EnvironmentVariableMap) (operationalValues assignedNames : List Units)
    (result : Option (List (Units × Json))) (accepted : List (Units × Json))
    (hshapes : ∀ text, process.redactCredentialShapes text = text)
    (h : sanitizeAgentWorkResult process environmentVariables operationalValues assignedNames
      result = .ok (some accepted)) :
    ∀ key v, (key, some v) ∈ environmentVariables → minSubstringTokenLength ≤ v.length →
      isFlagEnvironmentValue v = false → v ∉ operationalValues →
      (∀ value ∈ operationalValues, encodeURIComponent value ≠ some v) →
      ∀ path text, Leaf (.obj accepted) path text →
        Clean v text ∨ text ∈ assignedNames ∨ isVocabularyLeaf path text = true := by
  intro key v hkey hlen hflag hop henc path text hleaf
  have hp : Protected environmentVariables operationalValues v :=
    ⟨⟨key, hkey⟩, hlen, hflag, hop, henc⟩
  have hsafe : SafeResult assignedNames v accepted := by
    unfold sanitizeAgentWorkResult at h
    split at h
    · cases h
    · split at h
      · cases h
      · next safeResult hsanitized =>
        cases hlast : sanitizeProtocolKeys process _ environmentVariables operationalValues
            assignedNames agentWorkResultProtocolKeys safeResult with
        | error error =>
          rw [hlast] at h
          cases h
        | ok last =>
          rw [hlast] at h
          obtain rfl := Option.some.inj (Except.ok.inj h)
          refine sanitizeProtocolKeys_safe _ hp hshapes hlast fun path text hleaf => .inl ?_
          exact hp.sensitiveValue hshapes hsanitized path text hleaf
      · cases h
  obtain (hassigned | hclean) | hvocabulary := hsafe path text hleaf
  · exact .inr (.inl hassigned)
  · exact .inl hclean
  · exact .inr (.inr hvocabulary)

def plainProcess : LogProcess where
  environment := []
  keyringValues := fun _ => []
  redactCredentialShapes := id

def notedResult (text : String) : List (Units × Json) :=
  [(units "status", .str (units "running")), (units "note", .str (units text))]

theorem accepted_result_leaks_nothing_hunter :
    Clean (units "hunter2") (units "login [REDACTED] failed") ∨
      units "login [REDACTED] failed" ∈ [units "nouva-app-1"] ∨
      isVocabularyLeaf [.key (units "note")] (units "login [REDACTED] failed") = true :=
  accepted_result_leaks_nothing plainProcess [(units "PASSWORD", some (units "hunter2"))]
    [units "nouva.sh"] [units "nouva-app-1"] (some (notedResult "login hunter2 failed"))
    (notedResult "login [REDACTED] failed") (fun _ => rfl) (by decide +kernel)
    (units "PASSWORD") (units "hunter2") List.mem_cons_self (by decide +kernel)
    (by decide +kernel) (by decide +kernel) (by decide +kernel) [.key (units "note")]
    (units "login [REDACTED] failed") (.entry (by simp [notedResult]) (.str _))

theorem encoded_operational_value_leaks :
    sanitizeAgentWorkResult plainProcess [(units "DIR", some (units "a%20b"))] [units "a b"] []
        (some (notedResult "path a%20b")) = .ok (some (notedResult "path a%20b")) ∧
      minSubstringTokenLength ≤ (units "a%20b").length ∧
      isFlagEnvironmentValue (units "a%20b") = false ∧ units "a%20b" ∉ [units "a b"] ∧
      Leaf (.obj (notedResult "path a%20b")) [.key (units "note")] (units "path a%20b") ∧
      ¬ Clean (units "a%20b") (units "path a%20b") ∧
      isVocabularyLeaf [.key (units "note")] (units "path a%20b") = false := by
  refine ⟨by decide +kernel, by decide +kernel, by decide +kernel, by decide +kernel,
    .entry (by simp [notedResult]) (.str _), fun h => ?_, rfl⟩
  exact clean_not_infix h (by decide +kernel) (by decide +kernel)

end WorkResult

end NouvaAgent
