import NouvaAgent.ExternalBackupAgreement

namespace NouvaAgent.ExternalBackup

open LogRedaction CredentialShapes WorkResult

def QueuedImportExternalBackupPayload.declared (payload : QueuedImportExternalBackupPayload) :
    ExternalBackupArtifactDeclaration :=
  ⟨payload.format, payload.artifactSha256, payload.artifactSizeBytes⟩

def QueuedImportExternalBackupPayload.destination (payload : QueuedImportExternalBackupPayload) :
    ExternalBackupImportDestination := ⟨payload.variant, payload.version⟩

theorem format_text_injective : Function.Injective ExternalBackupImportFormat.text := by
  intro a b h
  cases a <;> cases b
  · rfl
  · exact absurd h (by decide +kernel)
  · exact absurd h (by decide +kernel)
  · rfl

theorem variant_text_injective : Function.Injective ExternalBackupImportVariant.text := by
  intro a b h
  cases a <;> cases b
  · rfl
  · exact absurd h (by decide +kernel)
  · exact absurd h (by decide +kernel)
  · rfl

theorem readString_of_get {record : List (Units × Json)} {key : String} {value : Units}
    (h : Json.get? record (units key) = some (.str value)) (hsome : value ≠ []) :
    readString record key = some value := by
  unfold readString
  rw [h]
  exact if_pos (List.length_pos_iff.mpr hsome)

theorem readCount_of_get {record : List (Units × Json)} {key : String} {value : ℚ}
    (h : Json.get? record (units key) = some (.num value))
    (hsafe : isSafeInteger (some value) = true) (hpositive : 0 < value) :
    readCount record key = some value := by
  unfold readCount
  rw [h]
  exact if_pos ⟨hsafe, hpositive.le⟩

structure Reports (record : List (Units × Json)) (payload : QueuedImportExternalBackupPayload)
    (size : ℚ) : Prop where
  version : Json.get? record (units "version") = some (.num 1)
  importId : readString record "importId" = some payload.importId
  format : readString record "format" = some payload.format.text
  targetVolumeId : readString record "targetVolumeId" = some payload.targetVolumeId
  targetVolumeName : readString record "targetVolumeName" = some payload.targetVolumeName
  artifactSha256 : readString record "artifactSha256" = some payload.artifactSha256
  artifactSizeBytes : readCount record "artifactSizeBytes" = some size
  payloadSize : payload.artifactSizeBytes = some size
  destinationVariant : readString record "destinationVariant" = some payload.variant.text
  destinationVersion : readString record "destinationVersion" = some payload.version
  sourceEngineVersion : (readString record "sourceEngineVersion").isSome = true
  digestVerified : Json.get? record (units "digestVerified") = some (.bool true)
  headerVerified : Json.get? record (units "headerVerified") = some (.bool true)
  isolatedDatabaseStarted :
    Json.get? record (units "isolatedDatabaseStarted") = some (.bool true)
  validationMethod :
    readString record "validationMethod" = some (ExternalBackup.validationMethod payload.variant)
  validatedAt : (readString record "validatedAt").isSome = true

theorem isValidExternalBackupImportProof_iff {record : List (Units × Json)}
    {payload other : QueuedImportExternalBackupPayload} {size : ℚ}
    (h : Reports record payload size) :
    isValidExternalBackupImportProof other (.obj record) = true ↔ other = payload := by
  unfold isValidExternalBackupImportProof
  dsimp only
  rw [h.version, h.importId, h.format, h.targetVolumeId, h.targetVolumeName, h.artifactSha256,
    h.artifactSizeBytes, h.destinationVariant, h.destinationVersion, h.sourceEngineVersion,
    h.digestVerified, h.headerVerified, h.isolatedDatabaseStarted, h.validationMethod,
    h.validatedAt]
  simp only [Bool.and_eq_true, decide_eq_true_eq, Option.any_some, Option.some.injEq, and_true,
    true_and]
  constructor
  · rintro ⟨⟨⟨⟨⟨⟨⟨⟨himport, hformat⟩, hid⟩, hname⟩, hdigest⟩, hsize⟩, hvariant⟩, hversion⟩, -⟩
    have hformat := format_text_injective hformat
    have hvariant := variant_text_injective hvariant
    have hsize : other.artifactSizeBytes = payload.artifactSizeBytes := hsize.trans h.payloadSize.symm
    cases other
    cases payload
    simp_all only
  · rintro rfl
    simp [h.payloadSize]

structure Filled (payload : QueuedImportExternalBackupPayload) : Prop where
  importId : payload.importId ≠ []
  targetVolumeId : payload.targetVolumeId ≠ []
  targetVolumeName : payload.targetVolumeName ≠ []
  version : payload.version ≠ []

theorem importProof_reports {payload : QueuedImportExternalBackupPayload}
    {observed : ExternalBackupArtifactObservation} {source validatedAt : Units}
    (hfilled : Filled payload) (hbound : Bound payload.declared observed payload.destination)
    (hsource : source ≠ []) (hvalidated : validatedAt ≠ []) (counts : ImportCounts) :
    ∃ record size, importProof payload observed source counts validatedAt = .obj record ∧
      Reports record payload size := by
  obtain ⟨size, hsize, hpositive⟩ := hbound.positiveSize
  have hsafe : isSafeInteger (some size) = true := hsize ▸ hbound.safeSize
  have hpayload : payload.artifactSizeBytes = some size := hbound.sizes.symm.trans hsize
  have hdigest : observed.sha256 ≠ [] := fun hnil => by
    have hdigest := hbound.observedDigest
    rw [hnil] at hdigest
    cases hdigest
  have hformat : payload.format.text ≠ [] := by
    cases payload.format <;> decide +kernel
  have hvariant : payload.variant.text ≠ [] := by
    cases payload.variant <;> decide +kernel
  have hmethod : validationMethod payload.variant ≠ [] := by
    cases payload.variant <;> decide +kernel
  refine ⟨_, size, rfl, ?_⟩
  rw [hsize]
  exact
    { version := rfl
      importId := readString_of_get rfl hfilled.importId
      format := readString_of_get rfl hformat
      targetVolumeId := readString_of_get rfl hfilled.targetVolumeId
      targetVolumeName := readString_of_get rfl hfilled.targetVolumeName
      artifactSha256 := (readString_of_get rfl hdigest).trans (congrArg some hbound.digests)
      artifactSizeBytes := readCount_of_get rfl hsafe hpositive
      payloadSize := hpayload
      destinationVariant := readString_of_get rfl hvariant
      destinationVersion := readString_of_get rfl hfilled.version
      sourceEngineVersion := by rw [readString_of_get rfl hsource]; rfl
      digestVerified := rfl
      headerVerified := rfl
      isolatedDatabaseStarted := rfl
      validationMethod := readString_of_get rfl hmethod
      validatedAt := by
        rw [readString_of_get (by cases payload.variant <;> rfl) hvalidated]
        rfl }

theorem admitted_ne_nil {source : Units} (h : admitsSourceEngineVersion source) : source ≠ [] := by
  rintro rfl
  obtain h | h := (admitsSourceEngineVersion_iff _).mp h
  · exact absurd h (by decide)
  · exact absurd h (by decide +kernel)

theorem verifyHeader_verified {parsed header : ExternalBackupArtifactHeader} {version source : Units}
    (h : verifyHeader parsed version = .verified header source)
    (hplain : (∃ redis, parsed = .redis redis) → ¬IsInherited version) :
    header = parsed ∧ NotAbove header version ∧ HasComparedVersion header source := by
  cases parsed with
  | postgres postgres =>
    obtain ⟨rfl, hnotAbove, -, hcompared⟩ := verifyPostgresHeader_verified h
    exact ⟨rfl, hnotAbove, hcompared⟩
  | redis redis =>
    obtain ⟨rfl, hcompared, hnotAbove⟩ := verifyRedisHeader_eq_verified.mp h
    exact ⟨rfl, hnotAbove.resolve_right (hplain ⟨redis, rfl⟩), hcompared⟩

theorem parsePostgresCustomDumpHeader_ne_redis (bytes : List UInt8) (redis : RedisRdbHeader) :
    parsePostgresCustomDumpHeader bytes ≠ .parsed (.redis redis) := by
  unfold parsePostgresCustomDumpHeader
  split <;> rintro ⟨⟩

theorem verifyExternalBackupArtifact_admitted {declared : ExternalBackupArtifactDeclaration}
    {observed : ExternalBackupArtifactObservation} {destination : ExternalBackupImportDestination}
    {header : ExternalBackupArtifactHeader} {source : Units}
    (h : verifyExternalBackupArtifact declared observed destination = .verified header source) :
    admitsSourceEngineVersion source := by
  obtain ⟨-, parsed, hparsed, hheader⟩ := verifyExternalBackupArtifact_eq_verified.mp h
  cases parsed with
  | postgres postgres => exact (verifyPostgresHeader_verified hheader).2.2.1
  | redis redis =>
    obtain ⟨-, hsource, -⟩ := verifyRedisHeader_eq_verified.mp hheader
    have hredis : parseRedisRdbHeader observed.headerSample = .parsed (.redis redis) := by
      cases hformat : declared.format with
      | postgresCustomDumpV1 =>
        rw [hformat] at hparsed
        exact absurd hparsed (parsePostgresCustomDumpHeader_ne_redis _ _)
      | redisRdbV1 =>
        rw [hformat] at hparsed
        exact hparsed
    rw [admitsSourceEngineVersion_iff, hsource]
    exact .inr (isRdbSourceVersion_toString (parseRedisRdbHeader_lt hredis))

/-- What is verified has passed every check, and its receipt is good for its own work item only. -/
structure Agrees (declared : ExternalBackupArtifactDeclaration)
    (observed : ExternalBackupArtifactObservation)
    (destination : ExternalBackupImportDestination) : Prop where
  verified : ∀ header source,
    verifyExternalBackupArtifact declared observed destination = .verified header source →
      Bound declared observed destination ∧
      parseExternalBackupArtifactHeader declared.format observed.headerSample = .parsed header ∧
      NotAbove header destination.version ∧ admitsSourceEngineVersion source ∧
      HasComparedVersion header source
  receipt : ∀ header source,
    verifyExternalBackupArtifact declared observed destination = .verified header source →
      ∀ (payload : QueuedImportExternalBackupPayload) (counts : ImportCounts) (validatedAt : Units),
        payload.declared = declared → payload.destination = destination → Filled payload →
        validatedAt ≠ [] → ∀ other,
          isValidExternalBackupImportProof other
            (importProof payload observed source counts validatedAt) = true ↔ other = payload

def Misread (declared : ExternalBackupArtifactDeclaration)
    (observed : ExternalBackupArtifactObservation)
    (destination : ExternalBackupImportDestination) : Prop :=
  Bound declared observed destination ∧
  (∃ header, parseExternalBackupArtifactHeader declared.format observed.headerSample =
    .parsed (.redis header)) ∧
  IsInherited destination.version

theorem misread_disagrees {declared : ExternalBackupArtifactDeclaration}
    {observed : ExternalBackupArtifactObservation} {destination : ExternalBackupImportDestination}
    (h : Misread declared observed destination) : ¬Agrees declared observed destination := by
  rintro ⟨hverified, -⟩
  obtain ⟨hbound, ⟨header, hparsed⟩, hinherited⟩ := h
  have hheader : verifyRedisHeader header destination.version =
      .verified (.redis header) (units "rdb-" ++ units (toString header.rdbVersion)) :=
    verifyRedisHeader_eq_verified.mpr ⟨rfl, rfl, .inr hinherited⟩
  obtain ⟨-, -, ⟨maxReadable, hlookup, -⟩, -⟩ := hverified (.redis header) _
    (verifyExternalBackupArtifact_eq_verified.mpr ⟨hbound, _, hparsed, hheader⟩)
  rw [lookup_inherited hinherited] at hlookup
  cases hlookup

/-- Verification and receipt agree, except for a Redis destination whose version names a property
that the table of limits inherits. -/
theorem verification_agrees_iff (declared : ExternalBackupArtifactDeclaration)
    (observed : ExternalBackupArtifactObservation) (destination : ExternalBackupImportDestination) :
    Agrees declared observed destination ↔ ¬Misread declared observed destination := by
  refine ⟨fun hagrees hmisread => misread_disagrees hmisread hagrees, fun hread => ⟨?_, ?_⟩⟩
  · intro header source h
    have hadmitted := verifyExternalBackupArtifact_admitted h
    obtain ⟨hbound, parsed, hparsed, hheader⟩ := verifyExternalBackupArtifact_eq_verified.mp h
    obtain ⟨rfl, hnotAbove, hcompared⟩ := verifyHeader_verified hheader fun ⟨redis, hredis⟩ hin =>
      hread ⟨hbound, ⟨redis, hredis ▸ hparsed⟩, hin⟩
    exact ⟨hbound, hparsed, hnotAbove, hadmitted, hcompared⟩
  · rintro header source h payload counts validatedAt rfl rfl hfilled hvalidated other
    have hsource := admitted_ne_nil (verifyExternalBackupArtifact_admitted h)
    obtain ⟨hbound, -⟩ := verifyExternalBackupArtifact_eq_verified.mp h
    obtain ⟨record, size, hproof, hreports⟩ :=
      importProof_reports hfilled hbound hsource hvalidated counts
    rw [hproof]
    exact isValidExternalBackupImportProof_iff hreports

/-- A snapshot of any version is verified for the Redis version `constructor`. -/
theorem verification_disagrees_constructor :
    ¬Agrees ⟨.redisRdbV1, List.replicate 64 48, some 9⟩
      ⟨List.replicate 64 48, some 9, [82, 69, 68, 73, 83, 48, 48, 49, 50]⟩
      ⟨.redis, units "constructor"⟩ := by
  refine misread_disagrees ⟨⟨?_, ?_, rfl, ?_, ⟨9, rfl, by norm_num⟩, rfl, rfl⟩, ⟨⟨12⟩, ?_⟩, ?_⟩
  · decide
  · decide
  · decide +kernel
  · decide +kernel
  · exact List.contains_iff_mem.mp (by decide +kernel)

end NouvaAgent.ExternalBackup
