import NouvaAgent.LiteralRedactionLaws

namespace NouvaAgent

open Matching LiteralRedaction LiteralSecretMatcher

namespace LiteralRedaction

section

variable {value s t : Units} {secrets substring boundary : List Units} {i p : ℕ}

/-- Two occurrences of secrets in a text have no character in common, unless they are the same. -/
def NoOverlap (secrets : List Units) (value : Units) : Prop :=
  ∀ s ∈ secrets, ∀ t ∈ secrets, ∀ i j, s <+: value.drop i → t <+: value.drop j →
    i < j + t.length → j < i + s.length → i = j ∧ s = t

theorem NoOverlap.of_occurrences (h : ∀ s ∈ secrets, ∀ i, s <+: value.drop i → i = p ∧ s = t) :
    NoOverlap secrets value := by
  intro s hs u hu i j hi hj _ _
  obtain ⟨rfl, rfl⟩ := h s hs i hi
  obtain ⟨rfl, rfl⟩ := h u hu j hj
  exact ⟨rfl, rfl⟩

theorem NoOverlap.stands (hno : NoOverlap secrets value) (hs : substring ⊆ secrets)
    (hb : boundary ⊆ secrets) (ht : t ∈ secrets) (hne : t ≠ []) (hm : t <+: value.drop i) :
    Stands (longestTokenAt substring boundary value) value.length i := by
  have hpos := List.length_pos_iff.mpr hne
  have hend := end_le_length hne hm
  obtain ⟨a, ha, hstands, rfl | hover⟩ :=
    exists_stands (longestTokenAt substring boundary value) (by omega : i ≤ value.length)
  · exact hstands
  · have h0 : 0 < longestTokenAt substring boundary value a := by omega
    obtain ⟨u, hu, hum, hlen⟩ | ⟨u, hu, hum, hlen⟩ := longestTokenAt_pos h0
    · obtain ⟨rfl, _⟩ := hno u (hs hu) t ht a i hum hm (by omega) (by omega)
      exact hstands
    · obtain ⟨rfl, _⟩ := hno u (hb hu) t ht a i (matchesAt_boundary.mp hum).1 hm (by omega)
        (by omega)
      exact hstands

theorem NoOverlap.masked_iff (substring boundary : List Units) (hno : NoOverlap secrets value) (hs : substring ⊆ secrets)
    (hb : boundary ⊆ secrets) (ht : t ∈ secrets) (hne : t ≠ []) (hm : t <+: value.drop i) :
    (∀ p, i ≤ p → p < i + t.length → some p ∉ leftmostPieces substring boundary value) ↔
      t ∈ substring ∨ (t ∈ boundary ∧ isLexicalBoundaryMatch value i t.length = true) := by
  have hpos := List.length_pos_iff.mpr hne
  have hend := end_le_length hne hm
  have hstands := hno.stands hs hb ht hne hm
  constructor
  · intro hmasked
    have h0 : 0 < longestTokenAt substring boundary value i := Nat.pos_of_ne_zero fun h0 =>
      hmasked i (Nat.le_refl i) (by omega) (mem_pieces.mpr ⟨by omega, h0, hstands⟩)
    obtain ⟨u, hu, hum, hlen⟩ | ⟨u, hu, hum, hlen⟩ := longestTokenAt_pos h0
    · obtain ⟨_, rfl⟩ := hno u (hs hu) t ht i i hum hm (by omega) (by omega)
      exact .inl hu
    · obtain ⟨hstarts, hlexical⟩ := matchesAt_boundary.mp hum
      obtain ⟨_, rfl⟩ := hno u (hb hu) t ht i i hstarts hm (by omega) (by omega)
      exact .inr ⟨hu, hlexical⟩
  · intro htoken p hip hpt
    have hle : t.length ≤ longestTokenAt substring boundary value i := by
      obtain hsub | ⟨hbound, hlexical⟩ := htoken
      · exact le_longestTokenAt boundary hsub hm
      · exact le_longestTokenAt_boundary substring hbound (matchesAt_boundary.mpr ⟨hm, hlexical⟩)
    exact not_kept_of_masked hstands (by omega) hip (by omega)

end

end LiteralRedaction

namespace LogRedaction

section

variable {values platformGeneratedValues : List Units} {v : Units}

theorem mem_uniqueSortedSecretValues :
    v ∈ uniqueSortedSecretValues values ↔ v ∈ values ∧ v ≠ [] := by
  unfold uniqueSortedSecretValues
  rw [List.mem_insertionSort, List.mem_eraseDups, List.mem_filter, decide_eq_true_eq,
    List.length_pos_iff]

theorem mem_boundaryTokens : v ∈ (partitionRedactionTokens values platformGeneratedValues).1 ↔
    v ∈ values ∧ tokenMatch platformGeneratedValues v = .boundary := by
  simp [partitionRedactionTokens]

theorem mem_substringTokens : v ∈ (partitionRedactionTokens values platformGeneratedValues).2 ↔
    v ∈ values ∧ tokenMatch platformGeneratedValues v = .substring := by
  simp [partitionRedactionTokens]

theorem tokenMatch_customer (hlen : minSubstringTokenLength ≤ v.length)
    (hv : v ∉ platformGeneratedValues) : tokenMatch platformGeneratedValues v = .substring := by
  have hcontains : platformGeneratedValues.contains v = false := by simpa using hv
  unfold tokenMatch classifyRedactionToken
  rw [if_neg (by omega), hcontains]
  rfl

theorem tokenMatch_platform (hlen : minSubstringTokenLength ≤ v.length)
    (hv : v ∈ platformGeneratedValues) : tokenMatch platformGeneratedValues v =
      if v.length ≤ maxWordTokenLength ∧ matchesWordToken v = true then .boundary
      else .substring := by
  have hcontains : platformGeneratedValues.contains v = true := by simpa using hv
  unfold tokenMatch classifyRedactionToken
  rw [if_neg (by omega), hcontains]
  rfl

end

variable (process : LogProcess) (environmentVariables : EnvironmentVariableMap)
  (platformGeneratedValues : List Units)

def buildLogSecrets : List Units :=
  uniqueSortedSecretValues (collectConfiguredSecretValues process ++
    collectEnvironmentMapValues environmentVariables)

def buildLogTokens : List Units × List Units :=
  partitionRedactionTokens (uniqueSortedSecretValues ((buildLogSecrets process
      environmentVariables).filter fun value =>
    !(platformGeneratedValues.filter isPortNumber).contains value)) platformGeneratedValues

def buildLogPieces (value : Units) : List (Option ℕ) :=
  leftmostPieces (buildLogTokens process environmentVariables platformGeneratedValues).2
    (buildLogTokens process environmentVariables platformGeneratedValues).1 value

def Masks (value secret : Units) : Prop :=
  ∀ i, secret <+: value.drop i → ∀ p, i ≤ p → p < i + secret.length →
    some p ∉ buildLogPieces process environmentVariables platformGeneratedValues value

def buildLogOptions : LogRedactionOptions where
  platformGeneratedValues := platformGeneratedValues
  secretValues := some (collectConfiguredSecretValues process ++
    collectEnvironmentMapValues environmentVariables)

theorem resolveSecretValues_buildLog :
    resolveSecretValues process
        (buildLogOptions process environmentVariables platformGeneratedValues) =
      some (uniqueSortedSecretValues ((buildLogSecrets process environmentVariables).filter
        fun value => !(platformGeneratedValues.filter isPortNumber).contains value)) := by
  have hall : buildLogSecrets process environmentVariables ++ optionEnvironmentValues
      (buildLogOptions process environmentVariables platformGeneratedValues) =
        buildLogSecrets process environmentVariables := List.append_nil _
  rw [← hall]
  rfl

theorem compileLogRedaction_buildLog : ∃ redaction,
    compileLogRedaction process
        (buildLogOptions process environmentVariables platformGeneratedValues) = some redaction ∧
      redaction.boundaryTextValues =
        (buildLogTokens process environmentVariables platformGeneratedValues).1 ∧
      redaction.substringMatcher = createLiteralSecretMatcher
        (buildLogTokens process environmentVariables platformGeneratedValues).2 := by
  have hsecrets := resolveSecretValues_buildLog process environmentVariables
    platformGeneratedValues
  obtain ⟨exactValues, hexact⟩ : ∃ exactValues, resolveExactStructuredValues process
      (buildLogOptions process environmentVariables platformGeneratedValues) =
        some exactValues := by
    unfold resolveExactStructuredValues
    rw [hsecrets]
    exact ⟨_, rfl⟩
  unfold compileLogRedaction buildLogTokens
  rw [hsecrets, hexact]
  simp only [Option.bind_eq_bind, Option.bind_some, Option.pure_def, Option.some_inj,
    exists_eq_left', buildLogOptions, and_self]

theorem createBuildLogRedactor_eq :
    createBuildLogRedactor process environmentVariables platformGeneratedValues =
      some fun value => process.redactCredentialShapes (render redactedLogValue value
        (buildLogPieces process environmentVariables platformGeneratedValues value)) := by
  have hne (t : Units) (ht : t ∈ (buildLogTokens process environmentVariables
      platformGeneratedValues).1) : t ≠ [] :=
    (mem_uniqueSortedSecretValues.mp (mem_boundaryTokens.mp ht).1).2
  obtain ⟨redaction, hcompile, hboundary, hmatcher⟩ :=
    compileLogRedaction_buildLog process environmentVariables platformGeneratedValues
  have hredactor : createBuildLogRedactor process environmentVariables platformGeneratedValues =
      (compileLogRedaction process (buildLogOptions process environmentVariables
        platformGeneratedValues)).map fun redaction value =>
          redactTextWithSecretMatcher process value redaction := rfl
  rw [hredactor, hcompile, Option.map_some]
  congr 1
  funext value
  rw [redactTextWithSecretMatcher, hboundary, hmatcher,
    redactLiteralSecretsWithMatcher_eq_render hne]
  rfl

theorem mem_buildLogTokens {v : Units} : (v ∈ uniqueSortedSecretValues ((buildLogSecrets process
      environmentVariables).filter fun value =>
        !(platformGeneratedValues.filter isPortNumber).contains value)) ↔
    v ∈ buildLogSecrets process environmentVariables ∧ v ≠ [] ∧
      ¬ (v ∈ platformGeneratedValues ∧ isPortNumber v = true) := by
  rw [mem_uniqueSortedSecretValues, List.mem_filter]
  simp only [Bool.not_eq_true', List.contains_eq_mem, decide_eq_false_iff_not, List.mem_filter]
  tauto

theorem mem_buildLogSecrets {v : Units} (h : v ∈ collectConfiguredSecretValues process) :
    v ∈ buildLogSecrets process environmentVariables ∧ v ≠ [] := by
  have hne : v ≠ [] := (mem_uniqueSortedSecretValues.mp h).2
  exact ⟨mem_uniqueSortedSecretValues.mpr ⟨List.mem_append_left _ h, hne⟩, hne⟩

/-- The agent's own secrets are masked, unless they are among the generated values as a port, or as a
word that stands inside another one. -/
theorem configured_secrets_masked_iff (value : Units)
    (hno : NoOverlap (buildLogSecrets process environmentVariables) value) :
    createBuildLogRedactor process environmentVariables platformGeneratedValues =
        some (fun value => process.redactCredentialShapes (render redactedLogValue value
          (buildLogPieces process environmentVariables platformGeneratedValues value))) ∧
      ((∀ secret ∈ collectConfiguredSecretValues process,
          minSubstringTokenLength ≤ secret.length →
          Masks process environmentVariables platformGeneratedValues value secret) ↔
        ∀ secret ∈ collectConfiguredSecretValues process,
          minSubstringTokenLength ≤ secret.length → secret ∈ platformGeneratedValues →
          ∀ i, secret <+: value.drop i → isPortNumber secret = false ∧
            (secret.length ≤ maxWordTokenLength ∧ matchesWordToken secret = true →
              isLexicalBoundaryMatch value i secret.length = true)) := by
  refine ⟨createBuildLogRedactor_eq process environmentVariables platformGeneratedValues, ?_⟩
  have htokens := @mem_buildLogTokens process environmentVariables platformGeneratedValues
  refine forall₃_congr fun secret hsecret hlen => ?_
  obtain ⟨hmem, hne⟩ := mem_buildLogSecrets process environmentVariables hsecret
  have hmasked (i : ℕ) (hm : secret <+: value.drop i) := NoOverlap.masked_iff
    (buildLogTokens process environmentVariables platformGeneratedValues).2
    (buildLogTokens process environmentVariables platformGeneratedValues).1 hno
    (fun t ht => (htokens.mp (mem_substringTokens.mp ht).1).1)
    (fun t ht => (htokens.mp (mem_boundaryTokens.mp ht).1).1) hmem hne hm
  unfold buildLogTokens at hmasked
  simp only [mem_substringTokens, mem_boundaryTokens, htokens] at hmasked
  by_cases hplatform : secret ∈ platformGeneratedValues
  · rw [tokenMatch_platform hlen hplatform] at hmasked
    refine ⟨fun h _ i hm => ?_, fun h i hm => (hmasked i hm).mpr ?_⟩
    · have hone := (hmasked i hm).mp (h i hm)
      split at hone <;> simp_all
    · obtain ⟨hport, hword⟩ := h hplatform i hm
      split <;> simp_all
  · rw [tokenMatch_customer hlen hplatform] at hmasked
    refine ⟨fun _ h => absurd h hplatform, fun _ i hm => (hmasked i hm).mpr (.inl ?_)⟩
    exact ⟨⟨hmem, hne, fun h => hplatform h.1⟩, rfl⟩

/-- An agent whose token is a word that the platform generates for every Postgres service. -/
def requireProcess : LogProcess where
  environment := [(units "API_TOKEN", some (units "require"))]
  keyringValues := fun _ => []

theorem requireProcess_secrets : buildLogSecrets requireProcess [] = [units "require"] := by
  decide +kernel

theorem requireProcess_noOverlap :
    NoOverlap (buildLogSecrets requireProcess []) (units "requirements.txt") := by
  rw [requireProcess_secrets]
  refine NoOverlap.of_occurrences (p := 0) (t := units "require") fun s hs i hm => ?_
  obtain rfl := List.mem_singleton.mp hs
  have hend := end_le_length (by simp [units]) hm
  have hall : ∀ i < 10, units "require" <+: (units "requirements.txt").drop i → i = 0 := by
    decide +kernel
  have hsize : i + 7 ≤ 16 := hend
  exact ⟨hall i (by omega) hm, rfl⟩

theorem configured_secrets_masked_iff_requirements :
    createBuildLogRedactor requireProcess [] [units "require"] =
        some (fun value => requireProcess.redactCredentialShapes (render redactedLogValue value
          (buildLogPieces requireProcess [] [units "require"] value))) ∧
      ((∀ secret ∈ collectConfiguredSecretValues requireProcess,
          minSubstringTokenLength ≤ secret.length →
          Masks requireProcess [] [units "require"] (units "requirements.txt") secret) ↔
        ∀ secret ∈ collectConfiguredSecretValues requireProcess,
          minSubstringTokenLength ≤ secret.length → secret ∈ [units "require"] →
          ∀ i, secret <+: (units "requirements.txt").drop i → isPortNumber secret = false ∧
            (secret.length ≤ maxWordTokenLength ∧ matchesWordToken secret = true →
              isLexicalBoundaryMatch (units "requirements.txt") i secret.length = true)) :=
  configured_secrets_masked_iff requireProcess [] [units "require"] (units "requirements.txt")
    requireProcess_noOverlap

theorem configured_secret_relaxed :
    units "require" ∈ collectConfiguredSecretValues requireProcess ∧
      minSubstringTokenLength ≤ (units "require").length ∧
      NoOverlap (buildLogSecrets requireProcess []) (units "requirements.txt") ∧
      (createBuildLogRedactor requireProcess [] [units "require"]).map
        (fun redactor => redactor (units "requirements.txt")) = some (units "requirements.txt") ∧
      ¬ Masks requireProcess [] [units "require"] (units "requirements.txt") (units "require") := by
  refine ⟨by decide +kernel, by decide +kernel, requireProcess_noOverlap, by decide +kernel,
    fun h => ?_⟩
  exact h 0 (by decide +kernel) 0 (Nat.le_refl 0) (by decide +kernel) (by decide +kernel)

end LogRedaction

end NouvaAgent
