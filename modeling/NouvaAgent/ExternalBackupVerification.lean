import NouvaAgent.ExternalBackupHeader
import NouvaAgent.WorkResult

namespace NouvaAgent.ExternalBackup

open LogRedaction CredentialShapes

def ExternalBackupImportFormat.text : ExternalBackupImportFormat → Units
  | postgresCustomDumpV1 => units "postgres-custom-dump-v1"
  | redisRdbV1 => units "redis-rdb-v1"

def ExternalBackupImportVariant.text : ExternalBackupImportVariant → Units
  | postgres => units "postgres"
  | redis => units "redis"

def ExternalBackupImportFormat.variant : ExternalBackupImportFormat → ExternalBackupImportVariant
  | postgresCustomDumpV1 => .postgres
  | redisRdbV1 => .redis

/-- `/^[0-9a-f]{64}$/`. -/
def isSha256Digest (value : Units) : Bool :=
  value.length = 64 && value.all fun c => isDigit c || (97 ≤ c && c ≤ 102)

def readComponent (text : Units) : Option (Units × Units) :=
  let digits := (text.takeWhile isDigit).take 3
  if digits = [] then none else some (digits, text.drop digits.length)

def readMoreComponents : ℕ → Units → Units
  | 0, _ => []
  | n + 1, text =>
    match text with
    | [] => []
    | c :: rest =>
      if c = 46 then
        match readComponent rest with
        | none => []
        | some (digits, rest) => c :: (digits ++ readMoreComponents n rest)
      else []

/-- `/^\s*(\d{1,3}(?:\.\d{1,3}){0,2})/`. -/
def readPostgresReleaseVersion (serverVersion : Units) : Option Units :=
  (readComponent (serverVersion.dropWhile isWhiteSpace)).map fun (digits, rest) =>
    digits ++ readMoreComponents 2 rest

/-- What a property of the table of versions holds: a version, or what every object inherits, which
is no number. -/
inductive MaxReadable
  | version (rdbVersion : ℕ)
  | inherited
  deriving DecidableEq, Repr

def redisMaxReadableRdbVersion : List (Units × ℕ) :=
  [(units "7.0", 10), (units "7.2", 11), (units "7.4", 12)]

def inheritedProperties : List Units :=
  [units "constructor", units "__defineGetter__", units "__defineSetter__", units "hasOwnProperty",
    units "__lookupGetter__", units "__lookupSetter__", units "isPrototypeOf",
    units "propertyIsEnumerable", units "toString", units "valueOf", units "__proto__",
    units "toLocaleString"]

def getMaxReadableRdbVersion (destinationVersion : Units) : Option MaxReadable :=
  match redisMaxReadableRdbVersion.lookup (trim destinationVersion) with
  | some rdbVersion => some (.version rdbVersion)
  | none => if inheritedProperties.contains (trim destinationVersion) then some .inherited else none

def MaxReadable.exceededBy (rdbVersion : ℕ) : MaxReadable → Bool
  | version maxReadable => decide (maxReadable < rdbVersion)
  | inherited => false

/-- A number; `none` is one that is not finite. -/
abbrev Number := Option ℚ

def isSafeInteger (value : Number) : Bool :=
  value.any fun q => q.isInt && decide (q.num.natAbs ≤ 2 ^ 53 - 1)

structure ExternalBackupArtifactObservation where
  sha256 : Units
  sizeBytes : Number
  headerSample : List UInt8

structure ExternalBackupArtifactDeclaration where
  format : ExternalBackupImportFormat
  sha256 : Units
  sizeBytes : Number

structure ExternalBackupImportDestination where
  variant : ExternalBackupImportVariant
  version : Units

inductive ExternalBackupImportVerification
  | verified (header : ExternalBackupArtifactHeader) (sourceEngineVersion : Units)
  | rejected (rejection : Rejection)
  deriving DecidableEq, Repr

def reject (category : ExternalBackupImportFailureCategory) (message : String) :
    ExternalBackupImportVerification := .rejected ⟨category, units message⟩

def verifyPostgresHeader (header : PostgresCustomDumpHeader) (destinationVersion : Units) :
    ExternalBackupImportVerification :=
  match parsePostgresMajorVersion header.sourceEngineVersion,
    parsePostgresMajorVersion destinationVersion with
  | none, _ => reject .formatUnreadable
      "Archive header does not carry a readable source server version"
  | some _, none => .rejected ⟨.engineVersionIncompatible,
      units "Destination PostgreSQL version \"" ++ destinationVersion ++
        units "\" is not a recognized major version"⟩
  | some sourceMajor, some destinationMajor =>
    if sourceMajor > destinationMajor then
      reject .engineVersionIncompatible ("Archive was taken from PostgreSQL " ++
        toString sourceMajor ++ "; a dump cannot be restored into the older PostgreSQL " ++
        toString destinationMajor ++ " destination")
    else .verified (.postgres header)
      ((readPostgresReleaseVersion header.sourceEngineVersion).getD (units (toString sourceMajor)))

def MaxReadable.text : MaxReadable → Units
  | version rdbVersion => units (toString rdbVersion)
  | inherited => []

def verifyRedisHeader (header : RedisRdbHeader) (destinationVersion : Units) :
    ExternalBackupImportVerification :=
  match getMaxReadableRdbVersion destinationVersion with
  | none => .rejected ⟨.engineVersionIncompatible,
      units "Destination Redis version \"" ++ destinationVersion ++
        units "\" has no recorded RDB compatibility range"⟩
  | some maxReadable =>
    if maxReadable.exceededBy header.rdbVersion then
      .rejected ⟨.engineVersionIncompatible,
        units ("Snapshot uses RDB version " ++ toString header.rdbVersion ++ "; Redis ") ++
          destinationVersion ++ units " reads up to RDB version " ++ maxReadable.text⟩
    else .verified (.redis header) (units "rdb-" ++ units (toString header.rdbVersion))

def verifyHeader (header : ExternalBackupArtifactHeader) (destinationVersion : Units) :
    ExternalBackupImportVerification :=
  match header with
  | .postgres header => verifyPostgresHeader header destinationVersion
  | .redis header => verifyRedisHeader header destinationVersion

def verifyExternalBackupArtifact (declared : ExternalBackupArtifactDeclaration)
    (observed : ExternalBackupArtifactObservation) (destination : ExternalBackupImportDestination) :
    ExternalBackupImportVerification :=
  if !isSha256Digest declared.sha256 then
    reject .integrityMismatch "Registered digest is not a SHA-256 hex digest"
  else if !isSha256Digest observed.sha256 then
    reject .integrityMismatch "Artifact digest was not reported as a SHA-256 hex digest"
  else if observed.sha256 ≠ declared.sha256 then
    reject .integrityMismatch
      "Uploaded artifact does not match the SHA-256 digest registered for this import"
  else if !isSafeInteger observed.sizeBytes || observed.sizeBytes.any (· ≤ 0) then
    reject .integrityMismatch "Artifact size was not reported as a positive byte count"
  else if observed.sizeBytes ≠ declared.sizeBytes then
    reject .integrityMismatch
      "Uploaded artifact does not match the byte count registered for this import"
  else if declared.format.variant ≠ destination.variant then
    .rejected ⟨.formatMismatch, units "A " ++ declared.format.text ++
      units " artifact cannot be imported into a " ++ destination.variant.text ++
      units " service"⟩
  else match parseExternalBackupArtifactHeader declared.format observed.headerSample with
    | .rejected rejection => .rejected rejection
    | .parsed header => verifyHeader header destination.version

structure QueuedImportExternalBackupPayload where
  importId : Units
  format : ExternalBackupImportFormat
  variant : ExternalBackupImportVariant
  version : Units
  artifactSha256 : Units
  artifactSizeBytes : Number
  targetVolumeId : Units
  targetVolumeName : Units

def validationMethod : ExternalBackupImportVariant → Units
  | .postgres => units "postgres-startup-sql-read"
  | .redis => units "redis-load-ping"

def readString (record : List (Units × Json)) (key : String) : Option Units :=
  match Json.get? record (units key) with
  | some (.str value) => if 0 < value.length then some value else none
  | _ => none

def readCount (record : List (Units × Json)) (key : String) : Option ℚ :=
  match Json.get? record (units key) with
  | some (.num value) => if isSafeInteger (some value) ∧ 0 ≤ value then some value else none
  | _ => none

def isValidExternalBackupImportProof (payload : QueuedImportExternalBackupPayload) : Json → Bool
  | .obj record =>
    Json.get? record (units "version") = some (.num 1) &&
    readString record "importId" = some payload.importId &&
    readString record "format" = some payload.format.text &&
    readString record "targetVolumeId" = some payload.targetVolumeId &&
    readString record "targetVolumeName" = some payload.targetVolumeName &&
    readString record "artifactSha256" = some payload.artifactSha256 &&
    ((readCount record "artifactSizeBytes").any fun size => payload.artifactSizeBytes = some size) &&
    readString record "destinationVariant" = some payload.variant.text &&
    readString record "destinationVersion" = some payload.version &&
    (readString record "sourceEngineVersion").isSome &&
    Json.get? record (units "digestVerified") = some (.bool true) &&
    Json.get? record (units "headerVerified") = some (.bool true) &&
    Json.get? record (units "isolatedDatabaseStarted") = some (.bool true) &&
    readString record "validationMethod" = some (validationMethod payload.variant) &&
    (readString record "validatedAt").isSome
  | _ => false

def numberJson : Number → Json
  | none => .null
  | some value => .num value

structure ImportCounts where
  relationCount : ℕ
  keyCount : ℕ
  volatileKeyCount : ℕ

def countEntries (variant : ExternalBackupImportVariant) (counts : ImportCounts) :
    List (Units × Json) :=
  match variant with
  | .postgres => [(units "relationCount", .num counts.relationCount)]
  | .redis => [(units "keyCount", .num counts.keyCount),
      (units "volatileKeyCount", .num counts.volatileKeyCount)]

def importProof (payload : QueuedImportExternalBackupPayload)
    (observed : ExternalBackupArtifactObservation) (sourceEngineVersion : Units)
    (counts : ImportCounts) (validatedAt : Units) : Json :=
  .obj ([(units "version", .num 1), (units "importId", .str payload.importId),
    (units "format", .str payload.format.text),
    (units "targetVolumeId", .str payload.targetVolumeId),
    (units "targetVolumeName", .str payload.targetVolumeName),
    (units "artifactSha256", .str observed.sha256),
    (units "artifactSizeBytes", numberJson observed.sizeBytes),
    (units "digestVerified", .bool true), (units "headerVerified", .bool true),
    (units "sourceEngineVersion", .str sourceEngineVersion),
    (units "destinationVariant", .str payload.variant.text),
    (units "destinationVersion", .str payload.version),
    (units "validationMethod", .str (validationMethod payload.variant)),
    (units "isolatedDatabaseStarted", .bool true)] ++ countEntries payload.variant counts ++
    [(units "validatedAt", .str validatedAt)])

end NouvaAgent.ExternalBackup
