import NouvaAgent.ExternalBackupHeader

namespace NouvaAgent.ExternalBackup

open Reading Reader

theorem readByte_steady : Steady readByte := steady_bind (steady_next _) fun _ => steady_pure _

theorem readSign_steady (archiveVersion : ℕ) : Steady (readSign archiveVersion) := by
  unfold readSign
  split
  · exact steady_bind readByte_steady fun _ => steady_pure _
  · exact steady_pure _

theorem readArchiveInt_steady (intSize archiveVersion : ℕ) :
    Steady (readArchiveInt intSize archiveVersion) :=
  steady_bind (readSign_steady archiveVersion) fun _ =>
    steady_bind (steady_times readByte_steady intSize) fun _ => steady_pure _

theorem readArchiveString_steady (intSize archiveVersion : ℕ) :
    Steady (readArchiveString intSize archiveVersion) := by
  refine steady_bind (readArchiveInt_steady intSize archiveVersion) fun length => ?_
  split
  · exact steady_pure _
  · split
    · exact steady_fail _
    · exact steady_bind (steady_take _ _) fun _ => steady_pure _

theorem readMagic_steady (magic : List ℕ) : Steady (readMagic magic) := by
  induction magic with
  | nil => exact steady_pure ()
  | cons expected rest ih =>
    refine steady_bind readByte_steady fun byte => ?_
    split
    · exact steady_fail _
    · exact ih

theorem readArchiveVersion_steady : Steady readArchiveVersion := by
  refine steady_bind readByte_steady fun major => steady_bind readByte_steady fun minor =>
    steady_bind ?_ fun revision => ?_
  · unfold readRevision
    split
    · exact readByte_steady
    · exact steady_pure _
  · dsimp only
    split
    · exact steady_fail _
    · exact steady_pure _

theorem skipOffsetSize_steady (archiveVersion : ℕ) : Steady (skipOffsetSize archiveVersion) := by
  unfold skipOffsetSize
  split
  · exact steady_bind readByte_steady fun _ => steady_pure _
  · exact steady_pure _

theorem readArchiveFormat_steady : Steady readArchiveFormat := by
  refine steady_bind readByte_steady fun archiveFormat => ?_
  split
  · exact steady_fail _
  · exact steady_pure _

theorem readIntSize_steady (archiveVersion : ℕ) : Steady (readIntSize archiveVersion) := by
  refine steady_bind readByte_steady fun intSize => ?_
  split
  · exact steady_fail _
  · exact steady_bind (skipOffsetSize_steady archiveVersion) fun _ =>
      steady_bind readArchiveFormat_steady fun _ => steady_pure _

theorem skipCompression_steady (intSize archiveVersion : ℕ) :
    Steady (skipCompression intSize archiveVersion) := by
  unfold skipCompression
  split
  · exact steady_bind readByte_steady fun _ => steady_pure _
  · split
    · split
      · exact steady_bind readByte_steady fun _ => steady_pure _
      · exact steady_bind (readArchiveInt_steady intSize archiveVersion) fun _ => steady_pure _
    · exact steady_pure _

theorem readSourceDatabase_steady (intSize archiveVersion : ℕ) :
    Steady (readSourceDatabase intSize archiveVersion) := by
  unfold readSourceDatabase
  split
  · exact steady_bind (steady_times (readArchiveInt_steady intSize archiveVersion) 7) fun _ =>
      readArchiveString_steady intSize archiveVersion
  · exact steady_pure _

theorem readVersions_steady (intSize : ℕ) (v : ArchiveVersion) (sourceDatabase : Option Units) :
    Steady (readVersions intSize v sourceDatabase) := by
  unfold readVersions
  split
  · exact steady_fail _
  · refine steady_bind (readArchiveString_steady intSize v.number) fun sourceEngineVersion =>
      steady_bind (readArchiveString_steady intSize v.number) fun dumpVersion => ?_
    unfold admitSource
    split
    · exact steady_fail _
    · exact steady_pure _

theorem readPostgresCustomDumpHeader_steady : Steady readPostgresCustomDumpHeader :=
  steady_bind (readMagic_steady pgdmpMagic) fun _ =>
    steady_bind readArchiveVersion_steady fun v =>
      steady_bind (readIntSize_steady v.number) fun intSize =>
        steady_bind (skipCompression_steady intSize v.number) fun _ =>
          steady_bind (readSourceDatabase_steady intSize v.number) fun sourceDatabase =>
            readVersions_steady intSize v sourceDatabase

def ranOutOfBytes : List Units :=
  [Truncation.header.message, Truncation.string.message,
    units "Artifact is too short to contain an RDB header"]

theorem Truncation.ranOut (truncation : Truncation) : truncation.message ∈ ranOutOfBytes := by
  cases truncation <;> simp [ranOutOfBytes]

def Settled (parse : ExternalBackupHeaderParse) : Prop :=
  ∀ rejection, parse = .rejected rejection → rejection.message ∉ ranOutOfBytes

theorem parsePostgresCustomDumpHeader_sample (p s : List UInt8)
    (h : Settled (parsePostgresCustomDumpHeader p)) :
    parsePostgresCustomDumpHeader (p ++ s) = parsePostgresCustomDumpHeader p := by
  have hsteady := readPostgresCustomDumpHeader_steady p s
  unfold Settled at h
  unfold parsePostgresCustomDumpHeader at h ⊢
  cases hp : readPostgresCustomDumpHeader p with
  | done header rest =>
    rw [hp] at hsteady
    rw [show readPostgresCustomDumpHeader (p ++ s) = .done header (rest ++ s) from hsteady]
  | failed rejection =>
    rw [hp] at hsteady
    rw [show readPostgresCustomDumpHeader (p ++ s) = .failed rejection from hsteady]
  | starved truncation =>
    rw [hp] at h
    exact absurd truncation.ranOut (h _ rfl)

theorem parseRedisRdbHeader_sample (p s : List UInt8) (h : Settled (parseRedisRdbHeader p)) :
    parseRedisRdbHeader (p ++ s) = parseRedisRdbHeader p := by
  by_cases hshort : p.length < rdbMagicLength
  · unfold Settled parseRedisRdbHeader at h
    rw [if_pos hshort] at h
    exact absurd (by simp [ranOutOfBytes]) (h _ rfl)
  · have hlength : 9 ≤ p.length := Nat.le_of_not_lt hshort
    have hmore : ¬ (p ++ s).length < rdbMagicLength := by
      rw [List.length_append]
      exact fun hlt => hshort (by omega)
    have hmagic : (p ++ s).take rdbMagic.length = p.take rdbMagic.length :=
      List.take_append_of_le_length (Nat.le_trans (by decide) hlength)
    have hdigits : ((p ++ s).drop rdbMagic.length).take 4 = (p.drop rdbMagic.length).take 4 := by
      have hdrop : rdbMagic.length ≤ p.length := Nat.le_trans (by decide) hlength
      have hfive : rdbMagic.length = 5 := rfl
      rw [List.drop_append_of_le_length hdrop]
      apply List.take_append_of_le_length
      rw [List.length_drop]
      omega
    unfold parseRedisRdbHeader
    rw [if_neg hshort, if_neg hmore, hmagic, hdigits]

/-- What the first bytes of an artifact are found to be, the whole artifact is found to be, unless
the bytes ran out. -/
theorem parseExternalBackupArtifactHeader_sample (format : ExternalBackupImportFormat)
    (p s : List UInt8) :
    (∀ header, parseExternalBackupArtifactHeader format p = .parsed header →
      parseExternalBackupArtifactHeader format (p ++ s) = .parsed header) ∧
    ∀ rejection, parseExternalBackupArtifactHeader format p = .rejected rejection →
      rejection.message ∉ ranOutOfBytes →
        parseExternalBackupArtifactHeader format (p ++ s) = .rejected rejection := by
  have hsame : Settled (parseExternalBackupArtifactHeader format p) →
      parseExternalBackupArtifactHeader format (p ++ s) =
        parseExternalBackupArtifactHeader format p := by
    cases format with
    | postgresCustomDumpV1 => exact parsePostgresCustomDumpHeader_sample p s
    | redisRdbV1 => exact parseRedisRdbHeader_sample p s
  constructor
  · intro header hparsed
    rw [← hparsed]
    apply hsame
    intro rejection hrejected
    rw [hparsed] at hrejected
    cases hrejected
  · intro rejection hrejected hmessage
    rw [← hrejected]
    apply hsame
    intro rejection' hrejected'
    rw [hrejected] at hrejected'
    cases hrejected'
    exact hmessage

end NouvaAgent.ExternalBackup
