import Mathlib.Data.List.TakeWhile
import NouvaAgent.ExternalBackupVerification

namespace NouvaAgent.ExternalBackup

open LogRedaction CredentialShapes WorkResult

theorem isDigits_iff {n : ℕ} {value : Units} : isDigits n value = true ↔
    value ≠ [] ∧ value.length ≤ n ∧ ∀ c ∈ value, isDigit c = true := by
  simp only [isDigits, Bool.and_eq_true, decide_eq_true_eq, List.all_eq_true, and_assoc,
    Nat.succ_le_iff, List.length_pos_iff]

theorem dot_notMem {n : ℕ} {value : Units} (h : isDigits n value = true) : 46 ∉ value := fun hmem =>
  absurd ((isDigits_iff.mp h).2.2 46 hmem) (by decide)

theorem takeWhile_isDigit (text : Units) : ∀ c ∈ text.takeWhile isDigit, isDigit c = true :=
  fun _ hc => List.mem_takeWhile_imp hc

theorem readComponent_some {text digits rest : Units}
    (h : readComponent text = some (digits, rest)) : isDigits 3 digits = true := by
  unfold readComponent at h
  dsimp only at h
  split at h
  · cases h
  · rename_i hsome
    obtain ⟨rfl, -⟩ := Prod.mk.inj (Option.some.inj h)
    refine isDigits_iff.mpr ⟨hsome, List.length_take_le _ _, fun c hc => ?_⟩
    exact takeWhile_isDigit text c (List.mem_of_mem_take hc)

theorem readMoreComponents_eq (n : ℕ) (text : Units) : ∃ components : List Units,
    readMoreComponents n text = components.flatMap (46 :: ·) ∧ components.length ≤ n ∧
      ∀ component ∈ components, isDigits 3 component = true := by
  induction n generalizing text with
  | zero => exact ⟨[], rfl, le_rfl, by simp⟩
  | succ n ih =>
    have hnone : ∃ components : List Units, [] = components.flatMap (46 :: ·) ∧
        components.length ≤ n + 1 ∧ ∀ component ∈ components, isDigits 3 component = true :=
      ⟨[], rfl, Nat.zero_le _, by simp⟩
    cases text with
    | nil => exact hnone
    | cons c rest =>
      unfold readMoreComponents
      dsimp only
      split
      · rename_i hdot
        split
        · exact hnone
        · rename_i digits rest' hread
          obtain ⟨components, hmore, hlength, hdigits⟩ := ih rest'
          refine ⟨digits :: components, ?_, Nat.succ_le_succ hlength, ?_⟩
          · rw [List.flatMap_cons, hdot, hmore, List.cons_append]
          · exact List.forall_mem_cons.mpr ⟨readComponent_some hread, hdigits⟩
      · exact hnone

theorem intercalate_dots (digits : Units) (components : List Units) :
    digits ++ components.flatMap (46 :: ·) = [46].intercalate (digits :: components) := by
  induction components generalizing digits with
  | nil => simp
  | cons component components ih =>
    rw [List.flatMap_cons, List.intercalate_cons_cons, List.cons_append, ih]
    simp

theorem isEngineReleaseVersion_intercalate {components : List Units} (hsome : components ≠ [])
    (hlength : components.length ≤ 3)
    (hdigits : ∀ component ∈ components, isDigits 3 component = true) :
    isEngineReleaseVersion ([46].intercalate components) = true := by
  have hsplit : ([46].intercalate components).splitOn (46 : UInt16) = components :=
    List.splitOn_intercalate 46 (fun component hc => dot_notMem (hdigits component hc)) hsome
  unfold isEngineReleaseVersion
  rw [hsplit]
  simpa [hlength] using hdigits

theorem parsePostgresMajorVersion_eq_some {version : Units} {major : ℕ} :
    parsePostgresMajorVersion version = some major ↔
      isDigits 3 ((version.dropWhile isWhiteSpace).takeWhile isDigit) = true ∧
      endsVersion ((version.dropWhile isWhiteSpace).dropWhile isDigit) = true ∧
      numberOf ((version.dropWhile isWhiteSpace).takeWhile isDigit) = major ∧ 0 < major := by
  unfold parsePostgresMajorVersion
  dsimp only
  rw [isDigits_iff]
  constructor
  · intro h
    split at h
    · rename_i hgroup
      obtain ⟨hsome, hpos⟩ := Option.filter_eq_some_iff.mp h
      obtain rfl := Option.some.inj hsome
      exact ⟨⟨hgroup.1, hgroup.2.1, takeWhile_isDigit _⟩, hgroup.2.2, rfl,
        of_decide_eq_true hpos⟩
    · cases h
  · rintro ⟨⟨hne, hlength, -⟩, hends, rfl, hpos⟩
    rw [if_pos ⟨hne, hlength, hends⟩]
    exact Option.filter_eq_some_iff.mpr ⟨rfl, decide_eq_true hpos⟩

theorem isDigit_cases {c : UInt16} (h : isDigit c = true) :
    c ∈ ([48, 49, 50, 51, 52, 53, 54, 55, 56, 57] : List UInt16) := by
  have hrange : 48 ≤ c.toNat ∧ c.toNat ≤ 57 := by
    simpa [isDigit, UInt16.le_iff_toNat_le] using h
  simp only [List.mem_cons, ← UInt16.toNat_inj, UInt16.reduceToNat, List.not_mem_nil, or_false]
  omega

theorem isDigit_not_whiteSpace {c : UInt16} (h : isDigit c = true) : isWhiteSpace c = false := by
  have hall : (([48, 49, 50, 51, 52, 53, 54, 55, 56, 57] : List UInt16).all fun d =>
      !isWhiteSpace d) = true := by decide
  simpa using List.all_eq_true.mp hall c (isDigit_cases h)

theorem components_noTerminator {components : List Units}
    (hdigits : ∀ component ∈ components, isDigits 3 component = true) :
    ∀ c ∈ components.flatMap (46 :: ·), isLineTerminator c = false := by
  intro c hc
  obtain ⟨component, hcomponent, hc⟩ := List.mem_flatMap.mp hc
  obtain rfl | hc := List.mem_cons.mp hc
  · decide
  · have hdigit := (isDigits_iff.mp (hdigits component hcomponent)).2.2 c hc
    have hall : (([48, 49, 50, 51, 52, 53, 54, 55, 56, 57] : List UInt16).all fun d =>
        !isLineTerminator d) = true := by decide
    simpa using List.all_eq_true.mp hall c (isDigit_cases hdigit)

theorem endsVersion_components {components : List Units}
    (hdigits : ∀ component ∈ components, isDigits 3 component = true) :
    endsVersion (components.flatMap (46 :: ·)) = true := by
  have hterminator := components_noTerminator hdigits
  cases hmore : components.flatMap (46 :: ·) with
  | nil => rfl
  | cons c rest =>
    have hdot : c = 46 := by
      cases components with
      | nil => cases hmore
      | cons component components => exact (List.cons.inj hmore).1.symm
    have hnil : (rest.dropWhile fun c => !isLineTerminator c) = [] := by
      refine List.dropWhile_eq_nil_iff.mpr fun d hd => ?_
      rw [hterminator d (hmore ▸ List.mem_cons_of_mem _ hd)]
      rfl
    unfold endsVersion
    dsimp only
    rw [if_pos (.inl hdot), hnil]
    rfl

theorem readPostgresReleaseVersion_of_major {version : Units} {major : ℕ}
    (h : parsePostgresMajorVersion version = some major) :
    ∃ release, readPostgresReleaseVersion version = some release ∧
      isEngineReleaseVersion release = true ∧ parsePostgresMajorVersion release = some major := by
  obtain ⟨hdigits, -, hmajor, hpos⟩ := parsePostgresMajorVersion_eq_some.mp h
  set text := version.dropWhile isWhiteSpace with htext
  set digits := text.takeWhile isDigit with hdigitsEq
  obtain ⟨hne, hlength, hall⟩ := isDigits_iff.mp hdigits
  have hcomponent : readComponent text = some (digits, text.drop digits.length) := by
    unfold readComponent
    dsimp only
    rw [← hdigitsEq, List.take_of_length_le hlength, if_neg hne]
  obtain ⟨components, hmore, hcount, hcomponents⟩ :=
    readMoreComponents_eq 2 (text.drop digits.length)
  have hrelease : readPostgresReleaseVersion version =
      some (digits ++ components.flatMap (46 :: ·)) := by
    unfold readPostgresReleaseVersion
    rw [← htext, hcomponent]
    show some (digits ++ readMoreComponents 2 (text.drop digits.length)) = _
    rw [hmore]
  have hdot : (components.flatMap (46 :: ·)).takeWhile isDigit = [] ∧
      (components.flatMap (46 :: ·)).dropWhile isDigit = components.flatMap (46 :: ·) := by
    cases components with
    | nil => exact ⟨rfl, rfl⟩
    | cons component components => exact ⟨rfl, rfl⟩
  refine ⟨_, hrelease, ?_, ?_⟩
  · rw [intercalate_dots]
    exact isEngineReleaseVersion_intercalate (List.cons_ne_nil _ _) (Nat.succ_le_succ hcount)
      (List.forall_mem_cons.mpr ⟨hdigits, hcomponents⟩)
  · have htrim : (digits ++ components.flatMap (46 :: ·)).dropWhile isWhiteSpace =
        digits ++ components.flatMap (46 :: ·) := by
      cases hcons : digits with
      | nil => exact absurd hcons hne
      | cons d ds =>
        have hspace : isWhiteSpace d = false :=
          isDigit_not_whiteSpace (hall d (hcons ▸ List.mem_cons_self))
        rw [List.cons_append, List.dropWhile_cons_of_neg (by simp [hspace])]
    rw [parsePostgresMajorVersion_eq_some, htrim, List.takeWhile_append_of_pos hall,
      List.dropWhile_append_of_pos hall, hdot.1, hdot.2, List.append_nil]
    exact ⟨hdigits, endsVersion_components hcomponents, hmajor, hpos⟩

structure Bound (declared : ExternalBackupArtifactDeclaration)
    (observed : ExternalBackupArtifactObservation)
    (destination : ExternalBackupImportDestination) : Prop where
  declaredDigest : isSha256Digest declared.sha256 = true
  observedDigest : isSha256Digest observed.sha256 = true
  digests : observed.sha256 = declared.sha256
  safeSize : isSafeInteger observed.sizeBytes = true
  positiveSize : ∃ size : ℚ, observed.sizeBytes = some size ∧ 0 < size
  sizes : observed.sizeBytes = declared.sizeBytes
  variants : declared.format.variant = destination.variant

theorem positive_of_safe {value : Number} (hsafe : isSafeInteger value = true)
    (hpositive : value.any (· ≤ 0) = false) : ∃ size : ℚ, value = some size ∧ 0 < size := by
  cases value with
  | none => cases hsafe
  | some size => exact ⟨size, rfl, not_le.mp (of_decide_eq_false hpositive)⟩

theorem verifyExternalBackupArtifact_of_bound {declared : ExternalBackupArtifactDeclaration}
    {observed : ExternalBackupArtifactObservation} {destination : ExternalBackupImportDestination}
    (h : Bound declared observed destination) :
    verifyExternalBackupArtifact declared observed destination =
      match parseExternalBackupArtifactHeader declared.format observed.headerSample with
      | .rejected rejection => .rejected rejection
      | .parsed header => verifyHeader header destination.version := by
  obtain ⟨size, hsize, hpositive⟩ := h.positiveSize
  have hsizes : (!isSafeInteger observed.sizeBytes || observed.sizeBytes.any (· ≤ 0)) = false := by
    rw [h.safeSize, hsize]
    simpa using hpositive
  unfold verifyExternalBackupArtifact
  rw [h.declaredDigest, h.observedDigest, if_neg (by simp), if_neg (by simp),
    if_neg (not_not.mpr h.digests), hsizes, if_neg (by simp), if_neg (not_not.mpr h.sizes)]
  exact if_neg (not_not.mpr h.variants)

theorem bound_of_verified {declared : ExternalBackupArtifactDeclaration}
    {observed : ExternalBackupArtifactObservation} {destination : ExternalBackupImportDestination}
    {header : ExternalBackupArtifactHeader} {source : Units}
    (h : verifyExternalBackupArtifact declared observed destination = .verified header source) :
    Bound declared observed destination := by
  unfold verifyExternalBackupArtifact at h
  split at h
  · cases h
  rename_i hdeclared
  split at h
  · cases h
  rename_i hobserved
  split at h
  · cases h
  rename_i hdigests
  split at h
  · cases h
  rename_i hsize
  split at h
  · cases h
  rename_i hsizes
  split at h
  · cases h
  rename_i hvariants
  obtain ⟨hsafe, hpositive⟩ := Bool.or_eq_false_iff.mp (Bool.not_eq_true _ ▸ hsize)
  have hsafe : isSafeInteger observed.sizeBytes = true := by simpa using hsafe
  exact ⟨by simpa using hdeclared, by simpa using hobserved, not_not.mp hdigests, hsafe,
    positive_of_safe hsafe hpositive, not_not.mp hsizes, not_not.mp hvariants⟩

theorem verifyExternalBackupArtifact_eq_verified {declared : ExternalBackupArtifactDeclaration}
    {observed : ExternalBackupArtifactObservation} {destination : ExternalBackupImportDestination}
    {header : ExternalBackupArtifactHeader} {source : Units} :
    verifyExternalBackupArtifact declared observed destination = .verified header source ↔
      Bound declared observed destination ∧ ∃ parsed,
        parseExternalBackupArtifactHeader declared.format observed.headerSample = .parsed parsed ∧
        verifyHeader parsed destination.version = .verified header source := by
  constructor
  · intro h
    have hbound := bound_of_verified h
    rw [verifyExternalBackupArtifact_of_bound hbound] at h
    split at h
    · cases h
    · rename_i parsed hparsed
      exact ⟨hbound, parsed, hparsed, h⟩
  · rintro ⟨hbound, parsed, hparsed, h⟩
    rw [verifyExternalBackupArtifact_of_bound hbound, hparsed]
    exact h

def NotAbove : ExternalBackupArtifactHeader → Units → Prop
  | .postgres header, destinationVersion => ∃ sourceMajor destinationMajor,
      parsePostgresMajorVersion header.sourceEngineVersion = some sourceMajor ∧
      parsePostgresMajorVersion destinationVersion = some destinationMajor ∧
      sourceMajor ≤ destinationMajor
  | .redis header, destinationVersion => ∃ maxReadable,
      redisMaxReadableRdbVersion.lookup (trim destinationVersion) = some maxReadable ∧
      header.rdbVersion ≤ maxReadable

def admitsSourceEngineVersion (source : Units) : Prop :=
  ∃ admits, externalBackupImportProofVocabulary.lookup (units "sourceEngineVersion") =
    some admits ∧ admits source = true

def HasComparedVersion : ExternalBackupArtifactHeader → Units → Prop
  | .postgres header, source =>
      parsePostgresMajorVersion source = parsePostgresMajorVersion header.sourceEngineVersion
  | .redis header, source => source = units "rdb-" ++ units (toString header.rdbVersion)

theorem admitsSourceEngineVersion_iff (source : Units) : admitsSourceEngineVersion source ↔
    isEngineReleaseVersion source = true ∨ isRdbSourceVersion source = true := by
  have hlookup : externalBackupImportProofVocabulary.lookup (units "sourceEngineVersion") =
      some fun value => isEngineReleaseVersion value || isRdbSourceVersion value := rfl
  unfold admitsSourceEngineVersion
  rw [hlookup, ← Bool.or_eq_true]
  constructor
  · rintro ⟨admits, hadmits, h⟩
    obtain rfl := Option.some.inj hadmits
    exact h
  · exact fun h => ⟨_, rfl, h⟩

theorem verifyPostgresHeader_verified {header : PostgresCustomDumpHeader} {version : Units}
    {verified : ExternalBackupArtifactHeader} {source : Units}
    (h : verifyPostgresHeader header version = .verified verified source) :
    verified = .postgres header ∧ NotAbove (.postgres header) version ∧
      admitsSourceEngineVersion source ∧ HasComparedVersion (.postgres header) source := by
  unfold verifyPostgresHeader at h
  split at h
  · cases h
  · cases h
  · rename_i sourceMajor destinationMajor hsource hdestination
    split at h
    · cases h
    · rename_i hle
      obtain ⟨rfl, hversion⟩ := ExternalBackupImportVerification.verified.inj h
      obtain ⟨release, hrelease, hadmitted, hmajor⟩ := readPostgresReleaseVersion_of_major hsource
      rw [hrelease, Option.getD_some] at hversion
      subst hversion
      exact ⟨rfl, ⟨_, _, hsource, hdestination, not_lt.mp hle⟩,
        (admitsSourceEngineVersion_iff _).mpr (.inl hadmitted), hmajor.trans hsource.symm⟩

theorem readRdbVersion_lt {digits : List UInt8} {start rdbVersion : ℕ}
    (h : readRdbVersion start digits = some rdbVersion) :
    rdbVersion < (start + 1) * 10 ^ digits.length := by
  induction digits generalizing start with
  | nil =>
    obtain rfl := Option.some.inj h
    simp
  | cons digit rest ih =>
    unfold readRdbVersion at h
    split at h
    · cases h
    · rename_i hrange
      have hdigit : digit.toNat ≤ 57 := by
        simpa [UInt8.lt_iff_toNat_lt] using (not_or.mp hrange).2
      have hnext : start * 10 + (digit.toNat - 0x30) + 1 ≤ (start + 1) * 10 := by omega
      calc rdbVersion
          < (start * 10 + (digit.toNat - 0x30) + 1) * 10 ^ rest.length := ih h
        _ ≤ (start + 1) * 10 * 10 ^ rest.length := Nat.mul_le_mul_right _ hnext
        _ = (start + 1) * 10 ^ (digit :: rest).length := by
          rw [List.length_cons, pow_succ]
          ring

theorem parseRedisRdbHeader_lt {bytes : List UInt8} {header : RedisRdbHeader}
    (h : parseRedisRdbHeader bytes = .parsed (.redis header)) : header.rdbVersion < 10 ^ 4 := by
  unfold parseRedisRdbHeader at h
  split at h
  · cases h
  split at h
  · cases h
  split at h
  · cases h
  rename_i rdbVersion hread
  split at h
  · cases h
  obtain rfl := ExternalBackupArtifactHeader.redis.inj (ExternalBackupHeaderParse.parsed.inj h)
  have hlt := readRdbVersion_lt hread
  have hlength := List.length_take_le 4 (bytes.drop rdbMagic.length)
  calc rdbVersion
      < (0 + 1) * 10 ^ ((bytes.drop rdbMagic.length).take 4).length := hlt
    _ ≤ 10 ^ 4 := by
      rw [zero_add, one_mul]
      exact Nat.pow_le_pow_right (by decide) hlength

theorem isDigit_ofNat {c : Char} (h : c.isDigit = true) :
    isDigit (UInt16.ofNat c.toNat) = true := by
  have hrange : 48 ≤ c.toNat ∧ c.toNat ≤ 57 := by
    simpa [Char.isDigit, UInt32.le_iff_toNat_le] using h
  have hsize : (UInt16.ofNat c.toNat).toNat = c.toNat :=
    UInt16.toNat_ofNat_of_lt (hrange.2.trans_lt (by decide))
  simpa [isDigit, UInt16.le_iff_toNat_le, hsize] using hrange

theorem isDigits_toString {n k : ℕ} (hk : 0 < k) (h : n < 10 ^ k) :
    isDigits k (units (toString n)) = true := by
  have hunits : units (toString n) =
      (Nat.toDigits 10 n).map fun c => UInt16.ofNat c.toNat := by
    rw [Nat.toString_eq_ofList_toDigits]
    simp [units]
  rw [hunits, isDigits_iff]
  refine ⟨by simp, ?_, ?_⟩
  · rw [List.length_map]
    exact (Nat.length_toDigits_le_iff (by decide) hk).mpr h
  · intro c hc
    obtain ⟨d, hd, rfl⟩ := List.mem_map.mp hc
    exact isDigit_ofNat (Nat.isDigit_of_mem_toDigits (by decide) (by decide) hd)

theorem isRdbSourceVersion_toString {n : ℕ} (h : n < 10 ^ 4) :
    isRdbSourceVersion (units "rdb-" ++ units (toString n)) = true := by
  have hfront : (units "rdb-").isPrefixOf (units "rdb-" ++ units (toString n)) = true :=
    List.isPrefixOf_iff_prefix.mpr (List.prefix_append _ _)
  have hdrop : (units "rdb-" ++ units (toString n)).drop 4 = units (toString n) := rfl
  unfold isRdbSourceVersion
  rw [hfront, hdrop, isDigits_toString (by decide) h]
  rfl

/-- A Redis destination whose version names what every object inherits. -/
def IsInherited (destinationVersion : Units) : Prop :=
  trim destinationVersion ∈ inheritedProperties

theorem lookup_inherited {destinationVersion : Units} (h : IsInherited destinationVersion) :
    redisMaxReadableRdbVersion.lookup (trim destinationVersion) = none := by
  have hall : ∀ property ∈ inheritedProperties,
      redisMaxReadableRdbVersion.lookup property = none := by decide +kernel
  exact hall _ h

theorem exceededBy_version (rdbVersion maxReadable : ℕ) :
    (MaxReadable.version maxReadable).exceededBy rdbVersion = false ↔ rdbVersion ≤ maxReadable :=
  decide_eq_false_iff_not.trans not_lt

theorem exceededBy_inherited (rdbVersion : ℕ) :
    MaxReadable.inherited.exceededBy rdbVersion = false := rfl

theorem getMaxReadableRdbVersion_passes (header : RedisRdbHeader) (version : Units) :
    (∃ maxReadable, getMaxReadableRdbVersion version = some maxReadable ∧
      ¬maxReadable.exceededBy header.rdbVersion = true) ↔
    NotAbove (.redis header) version ∨ IsInherited version := by
  unfold getMaxReadableRdbVersion NotAbove
  cases hlookup : redisMaxReadableRdbVersion.lookup (trim version) with
  | some maxReadable =>
    have hno : ¬IsInherited version := fun h => by
      rw [lookup_inherited h] at hlookup
      cases hlookup
    simp [exceededBy_version, hno, hlookup]
  | none =>
    by_cases hinherited : trim version ∈ inheritedProperties
    · have hyes : IsInherited version := hinherited
      simp [hinherited, exceededBy_inherited, hyes]
    · have hno : ¬IsInherited version := hinherited
      simp [hinherited, hno, hlookup]

theorem verifyRedisHeader_eq_verified {header : RedisRdbHeader} {version : Units}
    {verified : ExternalBackupArtifactHeader} {source : Units} :
    verifyRedisHeader header version = .verified verified source ↔
      verified = .redis header ∧ HasComparedVersion (.redis header) source ∧
      (NotAbove (.redis header) version ∨ IsInherited version) := by
  rw [← getMaxReadableRdbVersion_passes]
  unfold verifyRedisHeader
  constructor
  · intro h
    split at h
    · cases h
    · rename_i maxReadable hmax
      split at h
      · cases h
      · rename_i hpasses
        obtain ⟨hheader, hsource⟩ := ExternalBackupImportVerification.verified.inj h
        exact ⟨hheader.symm, hsource.symm, maxReadable, hmax, hpasses⟩
  · rintro ⟨rfl, rfl, maxReadable, hmax, hpasses⟩
    rw [hmax]
    exact if_neg hpasses

end NouvaAgent.ExternalBackup
