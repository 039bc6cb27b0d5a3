import NouvaAgent.AgentHistory
import NouvaAgent.HelperTasks
import NouvaAgent.PgBackrestInfo

namespace NouvaAgent

open Text Interaction Host HelperTasks PgBackrestInfo

inductive RequestedBackupType
  | full
  | incr
  deriving DecidableEq, Repr

def RequestedBackupType.text : RequestedBackupType → String
  | full => "full"
  | incr => "incr"

def RequestedBackupType.type : RequestedBackupType → PgBackrestType
  | full => .full
  | incr => .incr

structure CreateVolumeBackupPayload where
  backupId : String
  volumeName : String
  mountPath : String
  pgbackrestType : Option RequestedBackupType
  imageUrl : Option String
  envVars : Option TextRecord
  containerArgs : Option (List String)
  dataPath : Option String
  expectedObjectKey : String
  artifactFormat : String

structure PgBackrestIntegrityProof where
  version : ℕ := 1
  engine : String := "pgbackrest"
  backupId : String
  objectKey : String
  artifactFormat : String := "pgbackrest-v1"
  pgbackrestSet : Units
  requiredWalStart : Option String := none
  requiredWalStop : Option String := none
  repositorySizeBytes : Option ℚ := none
  databaseSizeBytes : Option ℚ := none
  completedAt : String
  verifiedAt : String
  deriving DecidableEq, Repr

structure PgBackrestBackupResult where
  completedAt : String
  pgbackrestType : Option RequestedBackupType
  pgbackrestSet : Units
  activePgbackrestSets : List Units
  objectKey : String
  artifactFormat : String
  verifiedAt : String
  integrityProof : PgBackrestIntegrityProof
  deriving DecidableEq, Repr

namespace PgBackrestBackups

section

variable (payload : CreateVolumeBackupPayload)

def helperPayload : HydratedHelperPayload :=
  { imageUrl := payload.imageUrl, envVars := payload.envVars, containerArgs := payload.containerArgs
    mountPath := some payload.mountPath, dataPath := payload.dataPath }

def requestedType : RequestedBackupType := payload.pgbackrestType.getD .full

def backupScript : String := joinLines ["set -eu",
  "printf \"%s\\n\" \"*:*:*:$POSTGRES_USER:$POSTGRES_PASSWORD\" > /tmp/.pgpass",
  "chmod 0600 /tmp/.pgpass", "export PGPASSFILE=/tmp/.pgpass",
  "metadata_dir=\"$NOUVA_DATA_PATH/.nouva/pgbackrest\"", "mkdir -p \"$metadata_dir\"",
  "if [ -x /nouva/generate_config.sh ]; then /nouva/generate_config.sh; fi",
  "stanza_info_log=\"/tmp/pgbackrest-stanza-info.log\"",
  "if ! pgbackrest --stanza=\"$PGBACKREST_STANZA\" info >\"$stanza_info_log\" 2>&1; then",
  "  if grep -Eq \"missing stanza path|backup\\.info cannot be opened\" \"$stanza_info_log\"; then",
  "    pgbackrest --stanza=\"$PGBACKREST_STANZA\" --log-level-console=info stanza-create",
  "  else", "    cat \"$stanza_info_log\" >&2", "    exit 1", "  fi", "fi",
  "pgbackrest --stanza=\"$PGBACKREST_STANZA\" --log-level-console=info check",
  "pgbackrest --stanza=\"$PGBACKREST_STANZA\" --type=\"$NOUVA_PGBACKREST_BACKUP_TYPE\" " ++
    "--annotation=\"nouva-backup-id=$NOUVA_BACKUP_ID\" --log-level-console=info backup",
  "if info_output=$(pgbackrest --stanza=\"$PGBACKREST_STANZA\" --output=json info 2>/dev/null); " ++
    "then",
  "  printf 'NOUVA_PGBACKREST_INFO:%s\\n' \"$(printf '%s' \"$info_output\" | tr -d '\\n')\"", "fi"]

def verifyScript (label : Units) : String := joinLines ["set -eu",
  "if [ -x /nouva/generate_config.sh ]; then /nouva/generate_config.sh; fi",
  "pgbackrest --stanza=\"$PGBACKREST_STANZA\" --set=\"" ++ String.ofList (characters label) ++
    "\" --log-level-console=info verify"]

def backupTask (spec : HelperSpec) : TaskContainerOptions :=
  { name := "nouva-pgbackrest-backup-" ++ slice 12 payload.backupId
    image := spec.image
    env := spec.env ++ ["NOUVA_BACKUP_ID=" ++ payload.backupId,
      "NOUVA_PGBACKREST_BACKUP_TYPE=" ++ (requestedType payload).text,
      "NOUVA_DATA_PATH=" ++ spec.dataPath]
    entrypoint := some ["sh", "-c"]
    cmd := [backupScript]
    mounts := [⟨payload.volumeName, spec.mountPath, false⟩]
    timeoutMs := some (30 * 60000) }

def verifyTask (spec : HelperSpec) (label : Units) : TaskContainerOptions :=
  { name := "nouva-pgbackrest-verify-" ++ slice 12 payload.backupId
    image := spec.image
    env := spec.env
    entrypoint := some ["sh", "-c"]
    cmd := [verifyScript label]
    mounts := [⟨payload.volumeName, spec.mountPath, false⟩]
    timeoutMs := some (30 * 60000) }

end

variable (engine : EngineErrors)

def readInfo (parse : String → Except String (List PgBackrestInfoBackup)) (logs : String) :
    Except String (List PgBackrestInfoBackup) :=
  match present (extractPrefixedLogLine logs "NOUVA_PGBACKREST_INFO:") with
  | some raw => parse raw
  | none => .ok []

def requireCreated (selected : Option PgBackrestInfoBackup) :
    Except String (PgBackrestInfoBackup × ℤ) :=
  match selected.bind fun entry => entry.stopAt.map fun stopAt => (entry, stopAt) with
  | some created => .ok created
  | none => .error "pgBackRest backup metadata did not contain the created backup set"

def provenType (payload : CreateVolumeBackupPayload) (selected : PgBackrestInfoBackup) :
    Option RequestedBackupType :=
  match selected.type with
  | .full => some .full
  | .incr => some .incr
  | .diff => payload.pgbackrestType

def backupResult (payload : CreateVolumeBackupPayload) (entries : List PgBackrestInfoBackup)
    (selected : PgBackrestInfoBackup) (stopAt verifiedAt : ℤ) : PgBackrestBackupResult :=
  { completedAt := toISOString stopAt
    pgbackrestType := provenType payload selected
    pgbackrestSet := selected.label
    activePgbackrestSets := entries.map PgBackrestInfoBackup.label
    objectKey := payload.expectedObjectKey
    artifactFormat := payload.artifactFormat
    verifiedAt := toISOString verifiedAt
    integrityProof :=
      { backupId := payload.backupId
        objectKey := payload.expectedObjectKey
        pgbackrestSet := selected.label
        completedAt := toISOString stopAt
        verifiedAt := toISOString verifiedAt } }

variable (host : DatabaseHost) (payload : CreateVolumeBackupPayload)

def verifyCreatedSet (spec : HelperSpec) (entries : List PgBackrestInfoBackup) :
    HostAction PgBackrestBackupResult := do
  let (selected, stopAt) ← Method.ofExcept ((requireCreated (selectCurrentPgBackrestEntry entries
    (utf16 payload.backupId) (requestedType payload).type)).mapError Failure.error)
  let _ ← runTaskContainerForLogs host (verifyTask payload spec selected.label)
  let verifiedAt ← now
  pure (backupResult payload entries selected stopAt verifiedAt)

def handleCreatePgBackrestBackup : HostAction PgBackrestBackupResult := do
  let spec ← Method.ofExcept
    ((resolveHydratedHelperSpec (helperPayload payload)).mapError Failure.error)
  let logs ← runTaskContainerForLogs host (backupTask payload spec)
  let entries ← Method.ofExcept
    ((readInfo (parsePgBackrestInfo engine) logs).mapError Failure.error)
  verifyCreatedSet host payload spec entries

section

variable {engine : EngineErrors} {host : DatabaseHost} {payload : CreateVolumeBackupPayload}

theorem mapError_ok {ε δ α : Type} {r : Except ε α} {f : ε → δ} {a : α}
    (h : r.mapError f = .ok a) : r = .ok a := by
  cases r with
  | error e => cases h
  | ok b => exact congrArg Except.ok (Except.ok.inj h)

theorem readInfo_line {parse : String → Except String (List PgBackrestInfoBackup)} {raw : String}
    (hraw : raw ≠ "") (hline : '\n' ∉ ("NOUVA_PGBACKREST_INFO:" ++ raw).toList) :
    readInfo parse ("NOUVA_PGBACKREST_INFO:" ++ raw) = parse raw := by
  have hpresent : present (some raw) = some raw := Option.filter_some_pos (by simpa using hraw)
  unfold readInfo
  rw [extractPrefixedLogLine_line hline, hpresent]

theorem readInfo_sorted {logs : String} {entries : List PgBackrestInfoBackup}
    (h : readInfo (parsePgBackrestInfo engine) logs = .ok entries) : ∃ listed,
      readInfo (listedBackups engine) logs = .ok listed ∧ entries = newestFirst listed := by
  unfold readInfo at *
  split at h
  case h_1 raw hraw =>
    unfold parsePgBackrestInfo at h
    cases hlisted : listedBackups engine raw with
    | error e =>
      rw [hlisted] at h
      cases h
    | ok listed =>
      rw [hlisted] at h
      exact ⟨listed, rfl, (Except.ok.inj h).symm⟩
  case h_2 => exact ⟨[], rfl, (Except.ok.inj h).symm⟩

theorem requireCreated_ok {selected : Option PgBackrestInfoBackup} {created : PgBackrestInfoBackup}
    {stopAt : ℤ} (h : requireCreated selected = .ok (created, stopAt)) :
    selected = some created ∧ created.stopAt = some stopAt := by
  unfold requireCreated at h
  split at h
  case h_1 found hfound =>
    obtain ⟨entry, rfl, hstop⟩ := Option.bind_eq_some_iff.mp hfound
    obtain ⟨time, htime, rfl⟩ := Option.map_eq_some_iff.mp hstop
    cases h
    exact ⟨rfl, htime⟩
  case h_2 => cases h

structure Proves (host : DatabaseHost) (payload : CreateVolumeBackupPayload)
    (result : PgBackrestBackupResult) (entry : PgBackrestInfoBackup) (spec : HelperSpec)
    (later : History HostCall.Answer) : Prop where
  set : result.pgbackrestSet = entry.label
  proof : result.integrityProof.pgbackrestSet = entry.label
  backup : result.integrityProof.backupId = payload.backupId
  verified : ∃ after verifying logs, later = after ++ verifying ∧
    (runTaskContainerForLogs host (verifyTask payload spec entry.label)).Returns () verifying logs ()

theorem verifyCreatedSet_proves {spec : HelperSpec} {listed : List PgBackrestInfoBackup}
    {seg : History HostCall.Answer} {result : PgBackrestBackupResult}
    (h : (verifyCreatedSet host payload spec (newestFirst listed)).Returns () seg result ()) :
    ∃ entry stopAt, Chosen listed (utf16 payload.backupId) (requestedType payload).type entry ∧
      entry.stopAt = some stopAt ∧ Proves host payload result entry spec seg := by
  obtain ⟨_, later, ⟨entry, stopAt⟩, _, rfl, hcreated, hverify⟩ := h.of_bind
  obtain ⟨rfl, hcreated, -⟩ := hcreated.of_ofExcept
  obtain ⟨hselected, hstop⟩ := requireCreated_ok (mapError_ok hcreated)
  obtain ⟨verifying, after, verifyLogs, _, hseg, hverifying, hclock⟩ := hverify.of_bind
  obtain ⟨_, _, verifiedAt, _, -, -, hend⟩ := hclock.of_bind
  obtain ⟨-, rfl, -⟩ := hend.of_pure
  have hverified : later ++ [] = after ++ verifying := by rw [List.append_nil, hseg]
  exact ⟨entry, stopAt, selectCurrentPgBackrestEntry_chosen hselected, hstop,
    rfl, rfl, rfl, after, verifying, verifyLogs, hverified, hverifying⟩

/-- The set that a run proves is that of the backup it made: it is named after the newest of the
backups that carry the annotation. -/
def NamesCreatedSet (payload : CreateVolumeBackupPayload) (listed : List PgBackrestInfoBackup)
    (result : PgBackrestBackupResult) : Prop :=
  ∃ entry, Newest (Annotated (utf16 payload.backupId)) listed entry ∧
    result.integrityProof.pgbackrestSet = entry.label

/-- The backup task ran and reported a document, and the set that is proved and that was verified is
that of the entry chosen from it, whose stop time is known. -/
def ProvesChosenSet (engine : EngineErrors) (host : DatabaseHost)
    (payload : CreateVolumeBackupPayload) (seg : History HostCall.Answer)
    (result : PgBackrestBackupResult) : Prop :=
  ∃ spec later making logs listed entry stopAt, seg = later ++ making ∧
    (runTaskContainerForLogs host (backupTask payload spec)).Returns () making logs () ∧
    readInfo (listedBackups engine) logs = .ok listed ∧
    Chosen listed (utf16 payload.backupId) (requestedType payload).type entry ∧
    entry.stopAt = some stopAt ∧ Proves host payload result entry spec later

theorem handleCreatePgBackrestBackup_returns {spec : HelperSpec}
    {making later : History HostCall.Answer} {logs : String} {entries : List PgBackrestInfoBackup}
    {result : PgBackrestBackupResult}
    (hspec : resolveHydratedHelperSpec (helperPayload payload) = .ok spec)
    (hmaking : (runTaskContainerForLogs host (backupTask payload spec)).Returns () making logs ())
    (hread : readInfo (parsePgBackrestInfo engine) logs = .ok entries)
    (hverify : (verifyCreatedSet host payload spec entries).Returns () later result ()) :
    (handleCreatePgBackrestBackup engine host payload).Returns () (later ++ making) result () := by
  have hrest : (Method.bind (Method.ofExcept ((readInfo (parsePgBackrestInfo engine) logs).mapError
      Failure.error)) (verifyCreatedSet host payload spec)).Returns () later result () := by
    rw [hread]
    exact hverify
  unfold handleCreatePgBackrestBackup
  rw [hspec]
  exact hmaking.bind (f := fun logs => Method.bind (Method.ofExcept
    ((readInfo (parsePgBackrestInfo engine) logs).mapError Failure.error))
    (verifyCreatedSet host payload spec)) hrest

end

/-! A backup of a stanza, which the info document in `logs` describes. -/

def stanza (logs : String) : Environment HostCall.Answer where
  answer _
    | .agent (.request (.containerLogs _)) => some (.ok logs)
    | .agent (.request r) => some (.ok (wellAnswer (fun _ => none) (.run 1) r))
    | .agent .now => some (1774400000000 : ℤ)
    | .agent (.sleep _) => some ()
    | .readFile _ => none
    | .file _ => some (.ok ())
    | .removeVolume _ _ => some (.ok ())
    | .listenOnPort _ | .restartContainer _ => some (.ok ())
  pick _ := 0

def stanzaHost : DatabaseHost :=
  { config :=
      { serverId := "server", appDomain := "apps.test", dataVolume := "nouva-data"
        traefikContainerName := "nouva-traefik", imageStoreMode := .dockerLocal
        clientIngressPlaceholderUrl := none, hashProjectNetwork := id
        createBuildLogRedactor := fun _ _ => id }
    ownsPublicPort := fun _ _ => false
    dataDir := "/data"
    fuel := 0 }

def stanzaPayload : CreateVolumeBackupPayload :=
  { backupId := "backup-1", volumeName := "volume", mountPath := "/data", pgbackrestType := none
    imageUrl := some "postgres:17", envVars := some [], containerArgs := none
    dataPath := some "/data/pg", expectedObjectKey := "key", artifactFormat := "pgbackrest-v1" }

def stanzaEngine : EngineErrors := ⟨fun _ => "Unexpected token", "Invalid time value"⟩

def stanzaSpec : HelperSpec := ⟨"postgres:17", [], [], "/data", "/data/pg"⟩

def infoText (text : String) : String := "[\x7b\"backup\":[" ++ text ++ "]\x7d]"

def unannotatedText : String :=
  "\x7b\"label\":\"20260325-000000F\",\"type\":\"full\"," ++
    "\"timestamp\":\x7b\"stop\":1774396800\x7d\x7d"

def unannotatedEntry : PgBackrestInfoBackup :=
  ⟨units "20260325-000000F", .full, some 1774396800000, none⟩

def annotatedText : String :=
  "\x7b\"label\":\"F1\",\"type\":\"full\"," ++
    "\"timestamp\":\x7b\"stop\":60\x7d," ++
    "\"annotation\":\x7b\"nouva-backup-id\":\"backup-1\"\x7d\x7d"

def annotatedEntry : PgBackrestInfoBackup :=
  ⟨units "F1", .full, some 60000, some (units "backup-1")⟩

theorem stanza_returns {logs : String} {entries : List PgBackrestInfoBackup}
    {result : PgBackrestBackupResult}
    (hmake : ((runTaskContainerForLogs stanzaHost (backupTask stanzaPayload stanzaSpec) ()).run
      (stanza logs) []).1 = .done (.ok logs, ()))
    (hread : readInfo (parsePgBackrestInfo stanzaEngine) logs = .ok entries)
    (hverify : ((verifyCreatedSet stanzaHost stanzaPayload stanzaSpec entries ()).run (stanza logs)
      []).1 = .done (.ok result, ())) : ∃ later making,
    (handleCreatePgBackrestBackup stanzaEngine stanzaHost stanzaPayload).Returns ()
      (later ++ making) result () ∧
    (runTaskContainerForLogs stanzaHost (backupTask stanzaPayload stanzaSpec)).Returns () making
      logs () := by
  obtain ⟨making, -, hmaking⟩ := Program.run_produces hmake
  obtain ⟨later, -, hverified⟩ := Program.run_produces hverify
  exact ⟨later, making, handleCreatePgBackrestBackup_returns rfl hmaking hread hverified, hmaking⟩

/-- Without the annotation the backup that is the newest is proved, and verified, all the same. -/
theorem handleCreatePgBackrestBackup_names_unannotated : ∃ later making logs result,
    (handleCreatePgBackrestBackup stanzaEngine stanzaHost stanzaPayload).Returns ()
      (later ++ making) result () ∧
    (runTaskContainerForLogs stanzaHost (backupTask stanzaPayload stanzaSpec)).Returns () making
      logs () ∧
    readInfo (listedBackups stanzaEngine) logs = .ok [unannotatedEntry] ∧
    ¬ NamesCreatedSet stanzaPayload [unannotatedEntry] result := by
  have hno : ¬ NamesCreatedSet stanzaPayload [unannotatedEntry] (backupResult stanzaPayload
      [unannotatedEntry] unannotatedEntry 1774396800000 1774400000000) := by
    rintro ⟨entry, ⟨hmem, hannotated, -⟩, -⟩
    obtain rfl := List.mem_singleton.mp hmem
    cases hannotated
  obtain ⟨later, making, hrun, hmaking⟩ :=
    @stanza_returns ("NOUVA_PGBACKREST_INFO:" ++ infoText unannotatedText) [unannotatedEntry]
      (backupResult stanzaPayload [unannotatedEntry] unannotatedEntry 1774396800000 1774400000000)
      (by decide +kernel) ((readInfo_line (by decide) (by decide +kernel)).trans (by decide +kernel))
      (by decide +kernel)
  exact ⟨later, making, _, _, hrun, hmaking,
    (readInfo_line (by decide) (by decide +kernel)).trans (by decide +kernel), hno⟩

theorem handleCreatePgBackrestBackup_proves_chosen {engine : EngineErrors} {host : DatabaseHost}
    {payload : CreateVolumeBackupPayload} {seg : History HostCall.Answer}
    {result : PgBackrestBackupResult}
    (h : (handleCreatePgBackrestBackup engine host payload).Returns () seg result ()) :
    ProvesChosenSet engine host payload seg result := by
  obtain ⟨_, _, spec, _, rfl, hspec, hmake⟩ := h.of_bind
  obtain ⟨rfl, -, -⟩ := hspec.of_ofExcept
  obtain ⟨making, _, logs, _, rfl, hmaking, hread⟩ := hmake.of_bind
  obtain ⟨_, later, entries, _, rfl, hentries, hverify⟩ := hread.of_bind
  obtain ⟨rfl, hentries, -⟩ := hentries.of_ofExcept
  obtain ⟨listed, hlisted, rfl⟩ := readInfo_sorted (mapError_ok hentries)
  obtain ⟨entry, stopAt, hchosen, hstop, hproves⟩ := verifyCreatedSet_proves hverify
  exact ⟨spec, later, making, logs, listed, entry, stopAt, by simp, hmaking, hlisted, hchosen,
    hstop, hproves⟩

theorem handleCreatePgBackrestBackup_proves_annotated : ∃ seg,
    ProvesChosenSet stanzaEngine stanzaHost stanzaPayload seg (backupResult stanzaPayload
      [annotatedEntry] annotatedEntry 60000 1774400000000) := by
  obtain ⟨later, making, hrun, -⟩ :=
    @stanza_returns ("NOUVA_PGBACKREST_INFO:" ++ infoText annotatedText) [annotatedEntry]
      (backupResult stanzaPayload [annotatedEntry] annotatedEntry 60000 1774400000000)
      (by decide +kernel) ((readInfo_line (by decide) (by decide +kernel)).trans (by decide +kernel))
      (by decide +kernel)
  exact ⟨_, handleCreatePgBackrestBackup_proves_chosen hrun⟩

end PgBackrestBackups

end NouvaAgent
