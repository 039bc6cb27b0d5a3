import NouvaAgent.Encoding
import NouvaAgent.LogRedaction
import NouvaAgent.Reading.Reader

namespace NouvaAgent.ExternalBackup

open Reading LogRedaction CredentialShapes

inductive ExternalBackupImportFormat
  | postgresCustomDumpV1
  | redisRdbV1
  deriving DecidableEq, Repr

inductive ExternalBackupImportVariant
  | postgres
  | redis
  deriving DecidableEq, Repr

inductive ExternalBackupImportFailureCategory
  | artifactMissing
  | integrityMismatch
  | formatUnreadable
  | formatMismatch
  | engineVersionIncompatible
  | restoreFailed
  | validationFailed
  deriving DecidableEq, Repr

structure PostgresCustomDumpHeader where
  archiveVersion : String
  sourceEngineVersion : Units
  dumpVersion : Option Units
  sourceDatabase : Option Units
  deriving DecidableEq, Repr

structure RedisRdbHeader where
  rdbVersion : ℕ
  deriving DecidableEq, Repr

inductive ExternalBackupArtifactHeader
  | postgres (header : PostgresCustomDumpHeader)
  | redis (header : RedisRdbHeader)
  deriving DecidableEq, Repr

structure Rejection where
  category : ExternalBackupImportFailureCategory
  message : Units
  deriving DecidableEq, Repr

inductive ExternalBackupHeaderParse
  | parsed (header : ExternalBackupArtifactHeader)
  | rejected (rejection : Rejection)
  deriving DecidableEq, Repr

def externalBackupImportHeaderSampleBytes : ℕ := 8 * 1024

/-- What `.` does not match. -/
def isLineTerminator (c : UInt16) : Bool := [10, 13, 8232, 8233].contains c

/-- `/^(?:[._].*)?\s*$/`. -/
def endsVersion : Units → Bool
  | [] => true
  | c :: rest =>
    if c = 46 ∨ c = 95 then (rest.dropWhile fun c => !isLineTerminator c).all isWhiteSpace
    else (c :: rest).all isWhiteSpace

/-- `/^\s*(\d{1,3})(?:[._].*)?\s*$/`: the digits cannot go on after the group. -/
def parsePostgresMajorVersion (version : Units) : Option ℕ :=
  let text := version.dropWhile isWhiteSpace
  let digits := text.takeWhile isDigit
  if digits ≠ [] ∧ digits.length ≤ 3 ∧ endsVersion (text.dropWhile isDigit) then
    (some (numberOf digits)).filter (0 < ·)
  else none

example : parsePostgresMajorVersion (units " 16.15 (Debian 16.15-1.pgdg13+2)") = some 16 := by
  decide +kernel

inductive Truncation
  | header
  | string
  deriving DecidableEq, Repr

def Truncation.message : Truncation → Units
  | header => units "Artifact header ended before the archive header was complete"
  | string => units "Artifact header ended inside an archive header string"

abbrev HeaderReader (α : Type) := Reader UInt8 Truncation Rejection α

def makeArchiveVersion (major minor revision : ℕ) : ℕ := (major * 256 + minor) * 256 + revision

structure ArchiveVersion where
  major : ℕ
  minor : ℕ
  revision : ℕ

namespace ArchiveVersion

def number (v : ArchiveVersion) : ℕ := makeArchiveVersion v.major v.minor v.revision

def format (v : ArchiveVersion) : String :=
  if v.revision = 0 then toString v.major ++ "." ++ toString v.minor
  else toString v.major ++ "." ++ toString v.minor ++ "." ++ toString v.revision

end ArchiveVersion

def pgdmpMagic : List ℕ := [80, 71, 68, 77, 80]

def pgdmpFormatCustom : ℕ := 1

def kVers1_0 : ℕ := makeArchiveVersion 1 0 0
def kVers1_2 : ℕ := makeArchiveVersion 1 2 0
def kVers1_4 : ℕ := makeArchiveVersion 1 4 0
def kVers1_7 : ℕ := makeArchiveVersion 1 7 0
def kVers1_10 : ℕ := makeArchiveVersion 1 10 0
def kVers1_15 : ℕ := makeArchiveVersion 1 15 0
def kVersMax : ℕ := makeArchiveVersion 1 16 0

def readByte : HeaderReader ℕ := do
  let byte ← Reader.next .header
  return byte.toNat

/-- The sign byte, which the earliest archives do not have. -/
def readSign (archiveVersion : ℕ) : HeaderReader Bool :=
  if archiveVersion > kVers1_0 then do
    let byte ← readByte
    return byte ≠ 0
  else return false

def magnitude : List ℕ → ℕ
  | [] => 0
  | byte :: bytes => byte + 256 * magnitude bytes

/-- The source adds up a double. It is compared with 0 and 8192 only, and there it is exact. -/
def readArchiveInt (intSize archiveVersion : ℕ) : HeaderReader ℤ := do
  let signed ← readSign archiveVersion
  let bytes ← Reader.times readByte intSize
  return if signed then -(magnitude bytes : ℤ) else magnitude bytes

def readArchiveString (intSize archiveVersion : ℕ) : HeaderReader (Option Units) := do
  let length ← readArchiveInt intSize archiveVersion
  if length < 0 then return none
  else if length > externalBackupImportHeaderSampleBytes then
    Reader.fail ⟨.formatUnreadable,
      units "Archive header declares an implausibly long string"⟩
  else do
    let bytes ← Reader.take .string length.toNat
    return some (TextDecoder.decode bytes)

def readMagic : List ℕ → HeaderReader Unit
  | [] => return ()
  | expected :: rest => do
    let byte ← readByte
    if byte ≠ expected then
      Reader.fail ⟨.formatMismatch,
        units "Artifact does not start with the PGDMP signature of a pg_dump custom-format archive"⟩
    else readMagic rest

def readRevision (major minor : ℕ) : HeaderReader ℕ :=
  if major > 1 ∨ (major = 1 ∧ minor > 0) then readByte else return 0

def readArchiveVersion : HeaderReader ArchiveVersion := do
  let major ← readByte
  let minor ← readByte
  let revision ← readRevision major minor
  let v : ArchiveVersion := ⟨major, minor, revision⟩
  if v.number > kVersMax then
    Reader.fail ⟨.engineVersionIncompatible, units ("Archive format version " ++ v.format ++
      " is newer than this platform can read; re-dump with a pg_dump matching your destination " ++
      "version")⟩
  else return v

def skipOffsetSize (archiveVersion : ℕ) : HeaderReader Unit :=
  if archiveVersion ≥ kVers1_7 then do
    let _ ← readByte
    return ()
  else return ()

def readArchiveFormat : HeaderReader Unit := do
  let archiveFormat ← readByte
  if archiveFormat ≠ pgdmpFormatCustom then
    Reader.fail ⟨.formatMismatch,
      units "Archive is not in pg_dump custom format; re-dump with `pg_dump --format=custom`"⟩
  else return ()

def readIntSize (archiveVersion : ℕ) : HeaderReader ℕ := do
  let intSize ← readByte
  if intSize < 1 ∨ intSize > 8 then
    Reader.fail ⟨.formatUnreadable,
      units "Archive header declares an unsupported integer width"⟩
  else do
    skipOffsetSize archiveVersion
    readArchiveFormat
    return intSize

/-- From 1.15 on a byte names the compression algorithm, before that an integer its level. -/
def skipCompression (intSize archiveVersion : ℕ) : HeaderReader Unit :=
  if archiveVersion ≥ kVers1_15 then do
    let _ ← readByte
    return ()
  else if archiveVersion ≥ kVers1_2 then
    if archiveVersion < kVers1_4 then do
      let _ ← readByte
      return ()
    else do
      let _ ← readArchiveInt intSize archiveVersion
      return ()
  else return ()

def readSourceDatabase (intSize archiveVersion : ℕ) : HeaderReader (Option Units) :=
  if archiveVersion ≥ kVers1_4 then do
    let _ ← Reader.times (readArchiveInt intSize archiveVersion) 7
    readArchiveString intSize archiveVersion
  else return none

def admitSource (v : ArchiveVersion) (sourceDatabase sourceEngineVersion dumpVersion : Option Units) :
    HeaderReader PostgresCustomDumpHeader :=
  match sourceEngineVersion.filter fun version => (parsePostgresMajorVersion version).isSome with
  | none => Reader.fail ⟨.formatUnreadable,
      units "Archive header does not carry a readable source server version"⟩
  | some version => return ⟨v.format, version, dumpVersion, sourceDatabase⟩

def readVersions (intSize : ℕ) (v : ArchiveVersion) (sourceDatabase : Option Units) :
    HeaderReader PostgresCustomDumpHeader :=
  if v.number < kVers1_10 then
    Reader.fail ⟨.formatUnreadable, units ("Archive predates PostgreSQL 9.2 and does not record " ++
      "the server version it was taken from, so compatibility with the destination cannot be " ++
      "verified")⟩
  else do
    let sourceEngineVersion ← readArchiveString intSize v.number
    let dumpVersion ← readArchiveString intSize v.number
    admitSource v sourceDatabase sourceEngineVersion dumpVersion

def readPostgresCustomDumpHeader : HeaderReader PostgresCustomDumpHeader := do
  readMagic pgdmpMagic
  let v ← readArchiveVersion
  let intSize ← readIntSize v.number
  skipCompression intSize v.number
  let sourceDatabase ← readSourceDatabase intSize v.number
  readVersions intSize v sourceDatabase

def parsePostgresCustomDumpHeader (bytes : List UInt8) : ExternalBackupHeaderParse :=
  match readPostgresCustomDumpHeader bytes with
  | .done header _ => .parsed (.postgres header)
  | .failed rejection => .rejected rejection
  | .starved truncation => .rejected ⟨.formatUnreadable, truncation.message⟩

def rdbMagic : List UInt8 := [82, 69, 68, 73, 83]

def rdbMagicLength : ℕ := rdbMagic.length + 4

def readRdbVersion (rdbVersion : ℕ) : List UInt8 → Option ℕ
  | [] => some rdbVersion
  | digit :: rest =>
    if digit < 0x30 ∨ digit > 0x39 then none
    else readRdbVersion (rdbVersion * 10 + (digit.toNat - 0x30)) rest

def parseRedisRdbHeader (bytes : List UInt8) : ExternalBackupHeaderParse :=
  if bytes.length < rdbMagicLength then
    .rejected ⟨.formatUnreadable, units "Artifact is too short to contain an RDB header"⟩
  else if bytes.take rdbMagic.length ≠ rdbMagic then
    .rejected ⟨.formatMismatch, units ("Artifact does not start with the REDIS signature of an " ++
      "RDB snapshot; an AOF file or a compressed RDB is not accepted")⟩
  else match readRdbVersion 0 ((bytes.drop rdbMagic.length).take 4) with
    | none => .rejected ⟨.formatUnreadable, units "RDB header does not carry a four-digit version"⟩
    | some rdbVersion =>
      if rdbVersion < 1 then .rejected ⟨.formatUnreadable, units "RDB header declares version 0"⟩
      else .parsed (.redis ⟨rdbVersion⟩)

def parseExternalBackupArtifactHeader (format : ExternalBackupImportFormat) (bytes : List UInt8) :
    ExternalBackupHeaderParse :=
  match format with
  | .postgresCustomDumpV1 => parsePostgresCustomDumpHeader bytes
  | .redisRdbV1 => parseRedisRdbHeader bytes

example : parseRedisRdbHeader [82, 69, 68, 73, 83, 48, 48, 49, 49, 250] =
    .parsed (.redis ⟨11⟩) := by decide +kernel

end NouvaAgent.ExternalBackup
