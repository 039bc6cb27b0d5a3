import NouvaAgent.ExternalBackupHeader

namespace NouvaAgent.ExternalBackup

open Reading Reader

def littleEndian : ℕ → ℕ → List UInt8
  | 0, _ => []
  | n + 1, m => UInt8.ofNat (m % 256) :: littleEndian n (m / 256)

def utf8 (text : String) : List UInt8 := text.toList.flatMap String.utf8EncodeChar

structure ArchiveInt (intSize : ℕ) where
  sign : UInt8
  size : ℕ
  fits : size < 256 ^ intSize

namespace ArchiveInt

variable {intSize : ℕ} (i : ArchiveInt intSize)

def value : ℤ := if i.sign.toNat ≠ 0 then -(i.size : ℤ) else i.size

def encode : List UInt8 := i.sign :: littleEndian intSize i.size

end ArchiveInt

inductive ArchiveString (intSize : ℕ)
  | null (length : ArchiveInt intSize) (negative : length.value < 0)
  | text (content : String)
      (short : (utf8 content).length ≤ externalBackupImportHeaderSampleBytes)
      (fits : (utf8 content).length < 256 ^ intSize)
      (unmarked : content.toList.head? ≠ some '\uFEFF')

namespace ArchiveString

variable {intSize : ℕ}

def value : ArchiveString intSize → Option Units
  | null _ _ => none
  | text content _ _ _ => some (utf16 content)

def encode : ArchiveString intSize → List UInt8
  | null length _ => length.encode
  | text content _ fits _ => ArchiveInt.encode ⟨0, (utf8 content).length, fits⟩ ++ utf8 content

end ArchiveString

structure CustomDumpHeader where
  version : ArchiveVersion
  bytes : version.major < 256 ∧ version.minor < 256 ∧ version.revision < 256
  supported : kVers1_10 ≤ version.number ∧ version.number ≤ kVersMax
  intSize : ℕ
  width : 1 ≤ intSize ∧ intSize ≤ 8
  offsetSize : UInt8
  compressionAlgorithm : UInt8
  compressionLevel : ArchiveInt intSize
  createdAt : List (ArchiveInt intSize)
  createdAtFields : createdAt.length = 7
  sourceDatabase : ArchiveString intSize
  sourceEngineVersion : Units
  sourceEngine : ArchiveString intSize
  sourceEngineNamed : sourceEngine.value = some sourceEngineVersion
  readable : (parsePostgresMajorVersion sourceEngineVersion).isSome
  dumpEngine : ArchiveString intSize

namespace CustomDumpHeader

variable (h : CustomDumpHeader)

def encodeVersion : List UInt8 :=
  [UInt8.ofNat h.version.major, UInt8.ofNat h.version.minor, UInt8.ofNat h.version.revision]

def encodeLayout : List UInt8 := [UInt8.ofNat h.intSize, h.offsetSize, 1]

def encodeCompression : List UInt8 :=
  if h.version.number ≥ kVers1_15 then [h.compressionAlgorithm] else h.compressionLevel.encode

def encode : List UInt8 :=
  [80, 71, 68, 77, 80] ++ (h.encodeVersion ++ (h.encodeLayout ++ (h.encodeCompression ++
    ((h.createdAt.flatMap ArchiveInt.encode ++ h.sourceDatabase.encode) ++
      (h.sourceEngine.encode ++ h.dumpEngine.encode)))))

end CustomDumpHeader

section

variable {intSize archiveVersion : ℕ}

theorem littleEndian_length (n m : ℕ) : (littleEndian n m).length = n := by
  induction n generalizing m with
  | zero => rfl
  | succ n ih => rw [littleEndian, List.length_cons, ih]

theorem magnitude_littleEndian {n m : ℕ} (h : m < 256 ^ n) :
    magnitude ((littleEndian n m).map UInt8.toNat) = m := by
  induction n generalizing m with
  | zero =>
    have hzero : m = 0 := by simpa using h
    rw [hzero]
    rfl
  | succ n ih =>
    have hbyte : (UInt8.ofNat (m % 256)).toNat = m % 256 :=
      UInt8.toNat_ofNat_of_lt' (Nat.mod_lt m (by decide))
    have hrest : m / 256 < 256 ^ n := by
      rw [Nat.pow_succ] at h
      exact Nat.div_lt_of_lt_mul (by rwa [Nat.mul_comm])
    rw [littleEndian, List.map_cons, magnitude, ih hrest, hbyte]
    exact Nat.mod_add_div m 256

theorem reads_readByte (b : UInt8) : Reads readByte [b] b.toNat := reads_map (reads_next _ b)

theorem reads_bytes (bytes : List UInt8) :
    Reads (times readByte bytes.length) bytes (bytes.map UInt8.toNat) := by
  have htimes := reads_times (g := fun b : UInt8 => [b]) bytes fun b _ => reads_readByte b
  rwa [List.flatMap_singleton'] at htimes

theorem reads_readSign (hversion : kVers1_0 < archiveVersion) (sign : UInt8) :
    Reads (readSign archiveVersion) [sign] (decide (sign.toNat ≠ 0)) := by
  unfold readSign
  rw [if_pos hversion]
  exact reads_map (reads_readByte sign)

theorem reads_readArchiveInt (hversion : kVers1_0 < archiveVersion) (i : ArchiveInt intSize) :
    Reads (readArchiveInt intSize archiveVersion) i.encode i.value := by
  have hbytes := reads_bytes (littleEndian intSize i.size)
  rw [littleEndian_length] at hbytes
  have hread := reads_bind (f := fun signed => Reader.bind (times readByte intSize) fun bytes =>
    Reader.pure (if signed = true then -(magnitude bytes : ℤ) else magnitude bytes))
    (reads_readSign hversion i.sign) (reads_map hbytes)
  rw [magnitude_littleEndian i.fits] at hread
  simp only [decide_eq_true_eq] at hread
  exact hread

theorem reads_readArchiveString (hversion : kVers1_0 < archiveVersion)
    (text : ArchiveString intSize) :
    Reads (readArchiveString intSize archiveVersion) text.encode text.value := by
  cases text with
  | null length negative =>
    refine reads_last (reads_readArchiveInt hversion length) ?_
    rw [if_pos negative]
    exact reads_pure none
  | text content short fits unmarked =>
    have hlength : (⟨0, (utf8 content).length, fits⟩ : ArchiveInt intSize).value =
        (utf8 content).length := rfl
    have hshort : ¬ ((utf8 content).length : ℤ) > externalBackupImportHeaderSampleBytes := by
      omega
    refine reads_bind (reads_readArchiveInt hversion _) ?_
    rw [hlength, if_neg (by omega), if_neg hshort]
    have hbytes : Reads (Reader.take Truncation.string (utf8 content).length : HeaderReader _)
        (utf8 content) (utf8 content) := reads_take Truncation.string (utf8 content)
    have htake := reads_map (g := fun bytes => some (TextDecoder.decode bytes)) hbytes
    rw [show TextDecoder.decode (utf8 content) = utf16 content from
      TextDecoder.decode_utf8 unmarked] at htake
    exact htake

theorem reads_readMagic : Reads (readMagic pgdmpMagic) [80, 71, 68, 77, 80] () := fun _ => rfl

end

namespace CustomDumpHeader

variable (h : CustomDumpHeader)

theorem signed : kVers1_0 < h.version.number := Nat.lt_of_lt_of_le (by decide) h.supported.1

theorem reads_version : Reads readArchiveVersion h.encodeVersion h.version := by
  obtain ⟨hmajor, hminor, hrevision⟩ := h.bytes
  have hbyte : ∀ {n : ℕ}, n < 256 → Reads readByte [UInt8.ofNat n] n := fun {n} hn => by
    have hread := reads_readByte (UInt8.ofNat n)
    rwa [show (UInt8.ofNat n).toNat = n from UInt8.toNat_ofNat_of_lt' hn] at hread
  have hlater : h.version.major > 1 ∨ h.version.major = 1 ∧ h.version.minor > 0 := by
    have hmin : kVers1_10 = 68096 := rfl
    have hnumber : h.version.number =
      (h.version.major * 256 + h.version.minor) * 256 + h.version.revision := rfl
    have hsupported := h.supported.1
    omega
  have hread : Reads (readRevision h.version.major h.version.minor)
      [UInt8.ofNat h.version.revision] h.version.revision := by
    unfold readRevision
    rw [if_pos hlater]
    exact hbyte hrevision
  refine reads_bind (hbyte hmajor) (reads_bind (hbyte hminor) (reads_last hread ?_))
  dsimp only
  rw [if_neg (Nat.not_lt.mpr h.supported.2)]
  exact reads_pure _

theorem reads_layout : Reads (readIntSize h.version.number) h.encodeLayout h.intSize := by
  have hwidth := h.width
  have hsize : (UInt8.ofNat h.intSize).toNat = h.intSize :=
    UInt8.toNat_ofNat_of_lt' (Nat.lt_of_le_of_lt h.width.2 (by decide))
  have hread := reads_readByte (UInt8.ofNat h.intSize)
  rw [hsize] at hread
  refine reads_bind hread ?_
  rw [if_neg (by omega)]
  have hoffset : Reads (skipOffsetSize h.version.number) [h.offsetSize] () := by
    unfold skipOffsetSize
    rw [if_pos (Nat.le_trans (by decide) h.supported.1)]
    exact reads_map (reads_readByte h.offsetSize)
  have hformat : Reads readArchiveFormat [1] () := fun _ => rfl
  exact reads_bind hoffset (reads_map hformat)

theorem reads_compression :
    Reads (skipCompression h.intSize h.version.number) h.encodeCompression () := by
  unfold skipCompression encodeCompression
  by_cases halgorithm : h.version.number ≥ kVers1_15
  · rw [if_pos halgorithm, if_pos halgorithm]
    exact reads_map (reads_readByte h.compressionAlgorithm)
  · have htwo : h.version.number ≥ kVers1_2 := Nat.le_trans (by decide) h.supported.1
    have hfour : ¬ h.version.number < kVers1_4 :=
      Nat.not_lt.mpr (Nat.le_trans (by decide) h.supported.1)
    rw [if_neg halgorithm, if_neg halgorithm, if_pos htwo, if_neg hfour]
    exact reads_map (reads_readArchiveInt h.signed h.compressionLevel)

theorem reads_sourceDatabase : Reads (readSourceDatabase h.intSize h.version.number)
    (h.createdAt.flatMap ArchiveInt.encode ++ h.sourceDatabase.encode)
    h.sourceDatabase.value := by
  have hcreated := reads_times h.createdAt fun i _ => reads_readArchiveInt h.signed i
  rw [h.createdAtFields] at hcreated
  unfold readSourceDatabase
  rw [if_pos (Nat.le_trans (by decide) h.supported.1)]
  exact reads_bind hcreated (reads_readArchiveString h.signed h.sourceDatabase)

theorem reads_versions : Reads (readVersions h.intSize h.version h.sourceDatabase.value)
    (h.sourceEngine.encode ++ h.dumpEngine.encode)
    ⟨h.version.format, h.sourceEngineVersion, h.dumpEngine.value, h.sourceDatabase.value⟩ := by
  have hadmit : Reads (admitSource h.version h.sourceDatabase.value h.sourceEngine.value
      h.dumpEngine.value) []
      ⟨h.version.format, h.sourceEngineVersion, h.dumpEngine.value, h.sourceDatabase.value⟩ := by
    unfold admitSource
    rw [h.sourceEngineNamed, Option.filter, if_pos h.readable]
    exact reads_pure _
  unfold readVersions
  rw [if_neg (Nat.not_lt.mpr h.supported.1)]
  exact reads_bind (reads_readArchiveString h.signed h.sourceEngine)
    (reads_last (reads_readArchiveString h.signed h.dumpEngine) hadmit)

/-- A header is read back from its encoding, whatever follows it in the archive. -/
theorem parsePostgresCustomDumpHeader_encode (data : List UInt8) :
    parsePostgresCustomDumpHeader (h.encode ++ data) =
      .parsed (.postgres ⟨h.version.format, h.sourceEngineVersion, h.dumpEngine.value,
        h.sourceDatabase.value⟩) := by
  have hread : Reads readPostgresCustomDumpHeader h.encode
      ⟨h.version.format, h.sourceEngineVersion, h.dumpEngine.value, h.sourceDatabase.value⟩ :=
    reads_bind reads_readMagic (reads_bind h.reads_version (reads_bind h.reads_layout
      (reads_bind h.reads_compression (reads_bind h.reads_sourceDatabase h.reads_versions))))
  unfold parsePostgresCustomDumpHeader
  rw [hread data]

def debianDump : CustomDumpHeader where
  version := ⟨1, 14, 0⟩
  bytes := by decide
  supported := by decide
  intSize := 4
  width := by decide
  offsetSize := 8
  compressionAlgorithm := 0
  compressionLevel := ⟨1, 1, by decide⟩
  createdAt := List.replicate 7 ⟨0, 5, by decide⟩
  createdAtFields := rfl
  sourceDatabase := .text "café" (by decide +kernel) (by decide +kernel) (by decide +kernel)
  sourceEngineVersion := units "16.15 (Debian 16.15-1)"
  sourceEngine := .text "16.15 (Debian 16.15-1)" (by decide +kernel) (by decide +kernel)
    (by decide +kernel)
  sourceEngineNamed := by decide +kernel
  readable := by decide +kernel
  dumpEngine := .null ⟨1, 1, by decide⟩ (by decide)

example : parsePostgresCustomDumpHeader (debianDump.encode ++ [1, 2, 3]) =
    .parsed (.postgres ⟨"1.14", units "16.15 (Debian 16.15-1)", none, some (units "café")⟩) := by
  decide +kernel

end CustomDumpHeader

end NouvaAgent.ExternalBackup
