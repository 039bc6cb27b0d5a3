import NouvaAgent.TaskJobs
import NouvaAgent.VolumeBackups

namespace NouvaAgent.TaskJob

open Interaction Host HelperTasks Method VolumeBackups

section

variable {host : DatabaseHost} {job : TaskJob} {scratch : List Scratch} {P X : HostHistory → Prop}

theorem persistent_mem (e : HostEvent) : Persistent recording fun h => e ∈ h :=
  persistent_recording fun _ _ hmem => List.mem_cons_of_mem _ hmem

theorem triple_now (hP : Persistent recording P) : Triple recording (Along (job.Permitted host))
    (fun h => job.Standing scratch h ∧ P h) (now : HostAction ℤ)
    (fun _ h => job.Standing scratch h ∧ P h) X := by
  apply triple_agent
  apply triple_ask
  · rintro h r _ ⟨rfl, -⟩ hj _
    exact ⟨trivial, hj⟩
  · rintro h r _ ⟨rfl, -⟩ _ hp
    exact ⟨hp.1.aside rfl (fun _ _ => by rintro ⟨⟩), hP.cons _ hp.2⟩

theorem triple_resolveAgentTaskImage (env : TextRecord) (hP : Persistent recording P) :
    Triple recording (Along (job.Permitted host)) (fun h => job.Standing scratch h ∧ P h)
      (ExternalBackupImport.resolveAgentTaskImage env)
      (fun _ h => job.Standing scratch h ∧ P h) (job.Unasked scratch) := by
  have hinspect (candidates : List String) : Triple recording (Along (job.Permitted host))
      (fun h => job.Standing scratch h ∧ P h) (ExternalBackupImport.inspectCandidates candidates)
      (fun _ h => job.Standing scratch h ∧ P h) (job.Unasked scratch) := by
    induction candidates with
    | nil => exact triple_pure fun _ hp => hp
    | cons candidate rest ih =>
      apply (triple_free (r := .inspectContainer candidate) (fun _ _ => trivial) (fun _ => rfl) rfl hP).bind
      intro inspection
      split
      · exact triple_pure fun _ hp => hp
      · exact ih
  unfold ExternalBackupImport.resolveAgentTaskImage
  dsimp only
  split
  · exact triple_pure fun _ hp => hp
  · apply (hinspect _).bind
    exact fun found => triple_pure fun _ hp => hp

theorem triple_createTarget {name : String} {labels : TextRecord}
    (htarget : job.target = some (name, labels)) (hstage : job.stage ≠ some (name, labels))
    (hP : Persistent recording P) : Triple recording (Along (job.Permitted host))
      (fun h => job.Standing scratch h ∧ P h) (request (.createVolume name labels) : HostAction Unit)
      (fun _ h => job.Standing scratch h ∧ P h ∧
        ⟨.agent (.request (.createVolume name labels)), some (.ok ())⟩ ∈ h)
      (job.Unasked scratch) := by
  have hs {a : Option (Except CallError Unit)} {h : HostHistory} (hs : job.Standing scratch h) :
      job.Standing scratch (⟨.agent (.request (.createVolume name labels)), a⟩ :: h) := by
    have hmakes : job.makes ⟨.agent (.request (.createVolume name labels)), a⟩ = none := by
      obtain _ | _ | _ := a
      · rfl
      · rfl
      · exact if_neg hstage
    apply hs.aside hmakes
    rintro _ _ ⟨⟩
  apply triple_request
  · exact fun _ h _ => .inl htarget
  · exact fun _ h hp => ⟨hs hp.1, hP.cons _ hp.2, List.mem_cons_self⟩
  · exact fun _ h hp => (hs hp.1).1

theorem triple_removeStage {name : String} {labels : TextRecord} {Q R : HostHistory → Prop}
    (hstage : job.stage = some (name, labels))
    (hQ : ∀ h, P h → Q (⟨.removeVolume name true, some (.ok ())⟩ :: h))
    (hR : ∀ a h, P h → R (⟨.removeVolume name true, some a⟩ :: h)) :
    Triple recording (Along (job.Permitted host)) P (VolumeWipe.removeVolume name true)
      (fun _ => Q) R := by
  apply triple_answered
  · intro a
    cases a with
    | ok _ => exact .inl rfl
    | error e => exact .inr ⟨_, rfl⟩
  · exact fun _ _ _ => ⟨rfl, labels, hstage⟩
  · intro a h ha hp
    cases a with
    | ok _ => exact hQ h hp
    | error e => exact nomatch congrFun ha ()
  · exact hR

theorem triple_withStageVolume {α : Type} {name : String} {labels : TextRecord}
    {body : HostAction α} {Q : α → HostHistory → Prop} (hstage : job.stage = some (name, labels))
    (hP : Persistent recording P) (hQ : ∀ a, Persistent recording (Q a))
    (hbody : Triple recording (Along (job.Permitted host))
      (fun h => job.Standing [.volume name] h ∧ P h) body
      (fun a h => job.Standing [.volume name] h ∧ Q a h) (job.Unasked [.volume name])) :
    Triple recording (Along (job.Permitted host)) (fun h => job.Standing [] h ∧ P h)
      (withStageVolume name labels body) (fun a h => job.Standing [] h ∧ Q a h)
      (job.Unasked []) := by
  have hempty {e : HostEvent} {h : HostHistory} (hmakes : job.makes e = none)
      (hs : job.Standing [] h) : job.Standing [] (e :: h) :=
    hs.aside hmakes fun _ hk => (List.not_mem_nil hk).elim
  have hmade : job.makes ⟨.agent (.request (.createVolume name labels)), some (.ok ())⟩ =
      some (.volume name) := if_pos hstage
  apply Triple.bind (R := fun _ h => job.Standing [] h ∧ P h)
  · apply triple_removeStage hstage
    · exact fun h hp => ⟨hempty rfl hp.1, hP.cons _ hp.2⟩
    · exact fun a h hp => (hempty rfl hp.1).1
  intro _
  apply Triple.bind (R := fun _ h => job.Standing [.volume name] h ∧ P h)
  · apply triple_request
    · exact fun _ _ _ => .inr hstage
    · exact fun _ h hp => ⟨hp.1.made hmade rfl, hP.cons _ hp.2⟩
    · exact fun _ h hp => (hempty rfl hp.1).1
  intro _
  apply Triple.finally_ hbody
  · intro a
    apply triple_removeStage hstage
    · exact fun h hp => ⟨hp.1.removed rfl rfl List.not_mem_nil rfl, (hQ a).cons _ hp.2⟩
    · exact fun _ h hp => Unasked.removed hp.1.1 rfl rfl List.not_mem_nil
  · apply triple_removeStage hstage
    · exact fun h hp => Unasked.removed hp rfl rfl List.not_mem_nil
    · exact fun _ h hp => Unasked.removed hp rfl rfl List.not_mem_nil

theorem run_of_triple {α : Type} {p : HostAction α} {Q : α → HostHistory → Prop}
    (h : Triple recording (Along (job.Permitted host)) (job.Standing []) p
      (fun a h => job.Standing [] h ∧ Q a h) (job.Unasked [])) (env : Environment HostCall.Answer) :
    let run := (p ()).run env []
    Along (job.Permitted host) run.2 ∧ (run.1 ≠ .cut → job.asked.outstanding run.2 = []) ∧
      ∀ a s, run.1 = .done (.ok a, s) → job.removed.outstanding run.2 = [] ∧ Q a run.2 := by
  have hexec := Program.run_exec env (p ()) [] (along_iff.mpr fun _ _ _ _ => trivial)
  obtain ⟨halong, hok, herr⟩ := h.exec hexec trivial ⟨rfl, rfl⟩
  refine ⟨halong, fun hcut => ?_, fun a s hdone => ⟨(hok a s hdone).1.2, (hok a s hdone).2⟩⟩
  cases hend : ((p ()).run env []).1 with
  | cut => exact (hcut hend).elim
  | done r =>
    obtain ⟨e | a, s⟩ := r
    · exact herr e s hend
    · exact (hok a s hend).1.1

end

end NouvaAgent.TaskJob

namespace NouvaAgent.VolumeBackups

open Text Interaction Host HelperTasks Method TaskJob

variable {host : DatabaseHost} {engine : EngineErrors} {env : TextRecord}

theorem Exited.cons {options : TaskContainerOptions} {logs : String} {h : HostHistory}
    (he : Exited host options logs h) (e : HostEvent) : Exited host options logs (e :: h) :=
  (persistent_exited options logs).cons e he

/-! What the backups of each engine may do. -/

section

variable (host : DatabaseHost) (engine : EngineErrors) (payload : VolumeBackupPayload)

def mongoJob : TaskJob where
  runs options _ := ∃ backup agentTaskImage, prepareMongoBackup payload = .ok backup ∧
    options = mongoTask payload backup agentTaskImage
  kept _ _ _ hr := hr
  writes _ := False

def mysqlJob : TaskJob where
  runs options h := ∃ backup, prepareMysqlBackup payload = .ok backup ∧
    (options = mysqlDumpTask payload backup ∨
      (∃ agentTaskImage, options = mysqlUploadTask payload agentTaskImage) ∧
        ∃ logs, Exited host (mysqlDumpTask payload backup) logs h)
  kept := by
    rintro options e h ⟨backup, hprepared, hdump | ⟨hupload, logs, hexited⟩⟩
    · exact ⟨backup, hprepared, .inl hdump⟩
    · exact ⟨backup, hprepared, .inr ⟨hupload, logs, Exited.cons hexited e⟩⟩
  writes name := name = backupStageVolume payload
  stage := some (backupStageVolume payload, backupStageLabels payload)

def redisJob : TaskJob where
  runs options _ := ∃ container agentTaskImage, requireRuntime payload "Redis" = .ok container ∧
    options = redisTask payload container agentTaskImage
  kept _ _ _ hr := hr
  writes _ := False

def Created (logs : String) (created : PgBackrestInfoBackup) : Prop :=
  ∃ entries stopAt, PgBackrestBackups.readInfo (PgBackrestInfo.parsePgBackrestInfo engine) logs =
    .ok entries ∧ PgBackrestBackups.requireCreated (PgBackrestInfo.selectCurrentPgBackrestEntry
      entries (utf16 payload.backupId)
      (PgBackrestBackups.requestedType payload.toCreateVolumeBackupPayload).type) =
        .ok (created, stopAt)

def pgBackrestJob : TaskJob where
  runs options h := ∃ spec, resolveHydratedHelperSpec
      (PgBackrestBackups.helperPayload payload.toCreateVolumeBackupPayload) = .ok spec ∧
    (options = PgBackrestBackups.backupTask payload.toCreateVolumeBackupPayload spec ∨
      ∃ logs created, options = PgBackrestBackups.verifyTask payload.toCreateVolumeBackupPayload
          spec created.label ∧ Created engine payload logs created ∧
        Exited host (PgBackrestBackups.backupTask payload.toCreateVolumeBackupPayload spec) logs h)
  kept := by
    rintro options e h ⟨spec, hspec, hbackup | ⟨logs, created, hverify, hcreated, hexited⟩⟩
    · exact ⟨spec, hspec, .inl hbackup⟩
    · exact ⟨spec, hspec, .inr ⟨logs, created, hverify, hcreated, Exited.cons hexited e⟩⟩
  writes name := name = payload.volumeName

def backupJob : TaskJob :=
  match payload.engine, payload.variant with
  | .pgbackrest, _ => pgBackrestJob host engine payload
  | .snapshot, .mongodb => mongoJob payload
  | .snapshot, .mysql => mysqlJob host payload
  | .snapshot, _ => redisJob payload

/-- An archive's result is what a task printed that uploaded the archive and ended well. -/
def ProvenArchive (uploads : TaskContainerOptions → Prop)
    (read : String → Option (ArchiveEvidence × Option String)) (engine format : String)
    (checks : List String) (result : ArchiveBackupResult) (h : HostHistory) : Prop :=
  ∃ options logs evidence sourceMode verifiedAt, uploads options ∧ Exited host options logs h ∧
    read logs = some (evidence, sourceMode) ∧
    result = archiveResult payload engine format checks sourceMode evidence verifiedAt

def ProvenMongo : ArchiveBackupResult → HostHistory → Prop :=
  ProvenArchive host payload
    (fun options => ∃ backup agentTaskImage, prepareMongoBackup payload = .ok backup ∧
      options = mongoTask payload backup agentTaskImage)
    (fun logs => (readArchiveEvidence logs).map (·, none)) "mongodb" "mongodb-archive-tar-v1"
    ["mongodumpSucceeded", "mongorestoreDryRun", "uploadChecksumVerified"]

def ProvenMysql : ArchiveBackupResult → HostHistory → Prop :=
  ProvenArchive host payload
    (fun options => ∃ agentTaskImage, options = mysqlUploadTask payload agentTaskImage)
    (fun logs => (readArchiveEvidence logs).map (·, none)) "mysql" "mysql-dump-tar-v1"
    ["mysqldumpSucceeded", "dumpCompletedMarkerVerified", "uploadChecksumVerified"]

def ProvenRedis : ArchiveBackupResult → HostHistory → Prop :=
  ProvenArchive host payload
    (fun options => ∃ container agentTaskImage, requireRuntime payload "Redis" = .ok container ∧
      options = redisTask payload container agentTaskImage)
    (fun logs => (readRedisEvidence logs).map fun (evidence, sourceMode) =>
      (evidence, some sourceMode)) "redis" "redis-rdb-tar-v1"
    ["redisCheckRdb", "uploadChecksumVerified", "isolatedRestoreVerified"]

def ProvenPgBackrest (result : PgBackrestBackupResult) (h : HostHistory) : Prop :=
  ∃ spec logs created verified, resolveHydratedHelperSpec
      (PgBackrestBackups.helperPayload payload.toCreateVolumeBackupPayload) = .ok spec ∧
    Exited host (PgBackrestBackups.backupTask payload.toCreateVolumeBackupPayload spec) logs h ∧
    Created engine payload logs created ∧ result.pgbackrestSet = created.label ∧
    Exited host (PgBackrestBackups.verifyTask payload.toCreateVolumeBackupPayload spec
      created.label) verified h

def Proven (result : VolumeBackupResult) (h : HostHistory) : Prop :=
  match payload.engine, payload.variant, result with
  | .pgbackrest, _, .pgbackrest result => ProvenPgBackrest host engine payload result h
  | .snapshot, .mongodb, .archive result => ProvenMongo host payload result h
  | .snapshot, .mysql, .archive result => ProvenMysql host payload result h
  | .snapshot, .redis, .archive result => ProvenRedis host payload result h
  | _, _, _ => False

end

variable {payload : VolumeBackupPayload} {job : TaskJob} {scratch : List Scratch}

theorem triple_checked {α β : Type} {checked : Except String β} {f : β → HostAction α}
    {Q : α → HostHistory → Prop} (h : ∀ b, checked = .ok b →
      Triple recording (Along (job.Permitted host)) (job.Standing []) (f b) Q (job.Unasked [])) :
    Triple recording (Along (job.Permitted host)) (job.Standing [])
      (Method.bind (Method.ofExcept (checked.mapError Failure.error)) f) Q (job.Unasked []) := by
  cases checked with
  | ok b => exact h b rfl
  | error e =>
    apply Triple.bind (R := fun _ _ => False) (triple_throw fun _ hs => hs.1)
    exact fun _ _ _ _ hfalse => hfalse.elim

theorem triple_completeArchive {name archiveEngine format : String} {checks : List String}
    (uploads : TaskContainerOptions → Prop) (f : String → Option (ArchiveEvidence × Option String))
    (options : TaskContainerOptions) (logs : String) (huploads : uploads options) :
    Triple recording (Along (job.Permitted host))
      (fun h => job.Standing scratch h ∧ Exited host options logs h)
      (completeArchive payload name archiveEngine format checks (f logs))
      (fun result h => job.Standing scratch h ∧
        ProvenArchive host payload uploads f archiveEngine format checks result h)
      (job.Unasked scratch) := by
  unfold completeArchive
  cases hread : f logs with
  | none => exact triple_throw fun _ hp => hp.1.1
  | some evidence =>
    obtain ⟨read, sourceMode⟩ := evidence
    apply (triple_now (persistent_exited options logs)).bind
    intro verifiedAt
    apply triple_pure
    intro h hp
    exact ⟨hp.1, options, logs, read, sourceMode, verifiedAt, huploads, hp.2, hread, rfl⟩

theorem triple_withTaskImage {α : Type} {f : String → HostAction α} {Q : α → HostHistory → Prop}
    (h : ∀ image, Triple recording (Along (job.Permitted host)) (job.Standing []) (f image) Q
      (job.Unasked [])) : Triple recording (Along (job.Permitted host)) (job.Standing [])
        (Method.bind (ExternalBackupImport.resolveAgentTaskImage env) f) Q (job.Unasked []) := by
  apply Triple.bind (R := fun _ => job.Standing [])
  · apply (triple_resolveAgentTaskImage env (persistent_const True)).mono
    · exact fun _ hs => ⟨hs, trivial⟩
    · exact fun _ _ hs => hs.1
    · exact fun _ h => h
  · exact h

theorem triple_runAlone {options : TaskContainerOptions}
    (hwrites : ∀ mount ∈ options.mounts, mount.readOnly = false → job.writes mount.source)
    (hruns : ∀ h, job.runs options h) :
    Triple recording (Along (job.Permitted host)) (job.Standing [])
      (runTaskContainerForLogs host options)
      (fun logs h => job.Standing [] h ∧ Exited host options logs h) (job.Unasked []) := by
  apply (triple_runTask (P := fun _ => True) (fun _ hk => (List.not_mem_nil hk).elim) hwrites
    fun h _ => hruns h).mono
  · exact fun _ hs => ⟨hs, trivial⟩
  · exact fun _ _ h => h
  · exact fun _ h => h

theorem triple_mongo : Triple recording (Along ((mongoJob payload).Permitted host))
    ((mongoJob payload).Standing []) (handleCreateMongoArchiveBackup host env payload)
    (fun result h => (mongoJob payload).Standing [] h ∧ ProvenMongo host payload result h)
    ((mongoJob payload).Unasked []) := by
  apply triple_checked
  intro backup hprepared
  apply triple_withTaskImage
  intro agentTaskImage
  apply Triple.bind (R := fun logs h => (mongoJob payload).Standing [] h ∧
    Exited host (mongoTask payload backup agentTaskImage) logs h)
  · apply triple_runAlone
    · exact fun mount hmount => (List.not_mem_nil hmount).elim
    · exact fun _ => ⟨backup, agentTaskImage, hprepared, rfl⟩
  intro logs
  apply triple_completeArchive _ _ _ logs
  exact ⟨backup, agentTaskImage, hprepared, rfl⟩

theorem triple_redis : Triple recording (Along ((redisJob payload).Permitted host))
    ((redisJob payload).Standing []) (handleCreateRedisBackup host env payload)
    (fun result h => (redisJob payload).Standing [] h ∧ ProvenRedis host payload result h)
    ((redisJob payload).Unasked []) := by
  apply triple_checked
  intro container hrequired
  apply triple_withTaskImage
  intro agentTaskImage
  apply Triple.bind (R := fun logs h => (redisJob payload).Standing [] h ∧
    Exited host (redisTask payload container agentTaskImage) logs h)
  · apply triple_runAlone
    · exact fun mount hmount => (List.not_mem_nil hmount).elim
    · exact fun _ => ⟨container, agentTaskImage, hrequired, rfl⟩
  intro logs
  apply triple_completeArchive _ _ _ logs
  exact ⟨container, agentTaskImage, hrequired, rfl⟩

theorem triple_mysql : Triple recording (Along ((mysqlJob host payload).Permitted host))
    ((mysqlJob host payload).Standing []) (handleCreateMysqlDumpBackup host env payload)
    (fun result h => (mysqlJob host payload).Standing [] h ∧ ProvenMysql host payload result h)
    ((mysqlJob host payload).Unasked []) := by
  apply triple_checked
  intro backup hprepared
  apply triple_withTaskImage
  intro agentTaskImage
  have hvolumes : Volumes [.volume (backupStageVolume payload)] := by simp [Volumes]
  apply Triple.bind (R := fun logs h => (mysqlJob host payload).Standing [] h ∧
    Exited host (mysqlUploadTask payload agentTaskImage) logs h)
  · apply Triple.mono (P := fun h => (mysqlJob host payload).Standing [] h ∧ True) _
      (fun h hs => ⟨hs, trivial⟩) (fun _ _ h => h) fun _ h => h
    apply triple_withStageVolume rfl (persistent_const True) (persistent_exited _)
    apply Triple.bind (R := fun logs h => (mysqlJob host payload).Standing
      [.volume (backupStageVolume payload)] h ∧ Exited host (mysqlDumpTask payload backup) logs h)
    · apply triple_runTask hvolumes
      · intro mount hmount _
        rw [List.mem_singleton.mp hmount]
        rfl
      · exact fun _ _ => ⟨backup, hprepared, .inl rfl⟩
    intro dumped
    apply triple_runTask hvolumes
    · intro mount hmount hwritable
      rw [List.mem_singleton.mp hmount] at hwritable
      exact nomatch hwritable
    · exact fun h hdumped => ⟨backup, hprepared, .inr ⟨⟨agentTaskImage, rfl⟩, dumped, hdumped⟩⟩
  intro logs
  apply triple_completeArchive _ _ _ logs
  exact ⟨agentTaskImage, rfl⟩

theorem triple_pgBackrest : Triple recording (Along ((pgBackrestJob host engine payload).Permitted host))
    ((pgBackrestJob host engine payload).Standing [])
    (PgBackrestBackups.handleCreatePgBackrestBackup engine host payload.toCreateVolumeBackupPayload)
    (fun result h => (pgBackrestJob host engine payload).Standing [] h ∧
      ProvenPgBackrest host engine payload result h)
    ((pgBackrestJob host engine payload).Unasked []) := by
  have hwrites (options : TaskContainerOptions) (mountPath : String)
      (hmounts : options.mounts = [⟨payload.volumeName, mountPath, false⟩]) :
      ∀ mount ∈ options.mounts, mount.readOnly = false →
        (pgBackrestJob host engine payload).writes mount.source := by
    intro mount hmount _
    rw [hmounts, List.mem_singleton] at hmount
    rw [hmount]
    rfl
  apply triple_checked
  intro spec hspec
  let backup := PgBackrestBackups.backupTask payload.toCreateVolumeBackupPayload spec
  apply Triple.bind (R := fun logs h => (pgBackrestJob host engine payload).Standing [] h ∧
    Exited host backup logs h)
  · apply triple_runAlone
    · exact hwrites _ _ rfl
    · exact fun _ => ⟨spec, hspec, .inl rfl⟩
  intro logs
  apply Triple.bind (R := fun entries h => ((pgBackrestJob host engine payload).Standing [] h ∧
    Exited host backup logs h) ∧
      PgBackrestBackups.readInfo (PgBackrestInfo.parsePgBackrestInfo engine) logs = .ok entries)
  · apply triple_ofExcept
    · exact fun entries hentries h hp => ⟨hp, PgBackrestBackups.mapError_ok hentries⟩
    · exact fun _ hp => hp.1.1
  intro entries
  apply Triple.bind (R := fun created h => ((pgBackrestJob host engine payload).Standing [] h ∧
    Exited host backup logs h) ∧ Created engine payload logs created.1)
  · apply triple_ofExcept
    · rintro ⟨created, stopAt⟩ hcreated h ⟨hp, hentries⟩
      exact ⟨hp, entries, stopAt, hentries, PgBackrestBackups.mapError_ok hcreated⟩
    · exact fun _ hp => hp.1.1.1
  rintro ⟨created, stopAt⟩
  let Before : HostHistory → Prop := fun h => Exited host backup logs h ∧
    Created engine payload logs created
  have hbefore : Persistent recording Before :=
    (persistent_exited backup logs).and (persistent_const _)
  apply Triple.bind (R := fun verified h => ((pgBackrestJob host engine payload).Standing [] h ∧
    Exited host (PgBackrestBackups.verifyTask payload.toCreateVolumeBackupPayload spec
      created.label) verified h) ∧ Before h)
  · apply Triple.mono (Triple.frame (P := fun h =>
      (pgBackrestJob host engine payload).Standing [] h ∧ Before h) _ hbefore)
    · exact fun h hp => ⟨⟨hp.1.1, hp.1.2, hp.2⟩, hp.1.2, hp.2⟩
    · exact fun _ _ h => h
    · exact fun _ h => h.1
    · apply triple_runTask
      · exact fun _ hk => (List.not_mem_nil hk).elim
      · exact hwrites _ _ rfl
      · exact fun h hp => ⟨spec, hspec, .inr ⟨logs, created, rfl, hp.2, hp.1⟩⟩
  intro verified
  let After : HostHistory → Prop := fun h => Exited host (PgBackrestBackups.verifyTask
    payload.toCreateVolumeBackupPayload spec created.label) verified h ∧ Before h
  have hafter : Persistent recording After := (persistent_exited _ verified).and hbefore
  apply Triple.bind (R := fun _ h => (pgBackrestJob host engine payload).Standing [] h ∧ After h)
  · exact (triple_now hafter).mono (fun h hp => ⟨hp.1.1, hp.1.2, hp.2⟩) (fun _ _ h => h)
      fun _ h => h
  intro verifiedAt
  apply triple_pure
  rintro h ⟨hs, hverified, hexited, hcreated⟩
  exact ⟨hs, spec, logs, created, verified, hspec, hexited, hcreated, rfl, hverified⟩

theorem triple_handleCreateVolumeBackup :
    Triple recording (Along ((backupJob host engine payload).Permitted host))
      ((backupJob host engine payload).Standing []) (handleCreateVolumeBackup host env payload engine)
      (fun result h => (backupJob host engine payload).Standing [] h ∧
        Proven host engine payload result h)
      ((backupJob host engine payload).Unasked []) := by
  unfold handleCreateVolumeBackup handleCreateArchiveBackup backupJob Proven
  cases payload.engine with
  | pgbackrest =>
    apply triple_pgBackrest.bind
    exact fun result => triple_pure fun _ h => h
  | snapshot =>
    cases payload.variant with
    | mongodb => exact triple_mongo.bind fun result => triple_pure fun _ h => h
    | mysql => exact triple_mysql.bind fun result => triple_pure fun _ h => h
    | redis => exact triple_redis.bind fun result => triple_pure fun _ h => h
    | postgres =>
      apply Triple.bind (R := fun _ _ => False) (triple_throw fun _ hs => hs.1)
      exact fun _ _ _ _ hfalse => hfalse.elim

/-- In every run of a backup its calls are those of the job: it runs the engine's tasks, each made
from its payload, one at a time and in order, which write to nothing but the stage volume (or, with
pgBackRest, the service's own). Whatever it made has been asked to be removed at every end; where it
returns that is gone, and the result is what the tasks printed that ended well. -/
theorem volume_backup_proven (host : DatabaseHost) (engine : EngineErrors) (env : TextRecord)
    (payload : VolumeBackupPayload) (surroundings : Environment HostCall.Answer) :
    let job := backupJob host engine payload
    let run := (handleCreateVolumeBackup host env payload engine ()).run surroundings []
    Along (job.Permitted host) run.2 ∧ (run.1 ≠ .cut → job.asked.outstanding run.2 = []) ∧
      ∀ result s, run.1 = .done (.ok result, s) →
        job.removed.outstanding run.2 = [] ∧ Proven host engine payload result run.2 :=
  run_of_triple triple_handleCreateVolumeBackup surroundings

/-! What the restores may do. -/

section

variable (host : DatabaseHost) (payload : RestoreVolumeBackupPayload)

def WritesTarget (name : String) : Prop := name = payload.targetVolumeName

def Target (h : HostHistory) : Prop :=
  ⟨.agent (.request (.createVolume payload.targetVolumeName (targetLabels payload))),
    some (.ok ())⟩ ∈ h

def mysqlRestoreJob : TaskJob where
  runs options h := Target payload h ∧ ∃ spec agentTaskImage, prepareMysqlRestore payload = .ok spec ∧
    (options = mysqlFetchTask payload agentTaskImage ∨ options = mysqlReplayTask payload spec ∧
      ∃ logs, Exited host (mysqlFetchTask payload agentTaskImage) logs h)
  kept := by
    rintro options e h ⟨htarget, spec, agentTaskImage, hspec, hfetch | ⟨hreplay, logs, hexited⟩⟩
    · exact ⟨List.mem_cons_of_mem _ htarget, spec, agentTaskImage, hspec, .inl hfetch⟩
    · exact ⟨List.mem_cons_of_mem _ htarget, spec, agentTaskImage, hspec,
        .inr ⟨hreplay, logs, Exited.cons hexited e⟩⟩
  writes name := WritesTarget payload name ∨ name = restoreStageVolume payload
  target := some (payload.targetVolumeName, targetLabels payload)
  stage := some (restoreStageVolume payload, restoreStageLabels payload)

def redisRestoreJob : TaskJob where
  runs options h := Target payload h ∧
    ∃ agentTaskImage, options = redisRestoreTask payload agentTaskImage
  kept _ _ _ := And.imp_left (List.mem_cons_of_mem _)
  writes := WritesTarget payload
  target := some (payload.targetVolumeName, targetLabels payload)

def pgBackrestRestoreJob : TaskJob where
  runs options h := Target payload h ∧ ∃ spec, preparePgBackrestRestore payload = .ok spec ∧
    options = pgBackrestRestoreTask payload spec
  kept _ _ _ := And.imp_left (List.mem_cons_of_mem _)
  writes := WritesTarget payload
  target := some (payload.targetVolumeName, targetLabels payload)

def restoreJob : TaskJob :=
  match payload.engine, payload.variant with
  | .pgbackrest, _ => pgBackrestRestoreJob payload
  | .snapshot, .mysql => mysqlRestoreJob host payload
  | .snapshot, _ => redisRestoreJob payload

def Restored (restores : TaskContainerOptions → Prop) (validationMethod : String)
    (result : RestoreResult) (h : HostHistory) : Prop :=
  Target payload h ∧ (∃ options logs, restores options ∧ Exited host options logs h) ∧
  ∃ verifiedAt validatedAt, result = restoreResult payload validationMethod verifiedAt validatedAt

def ProvenRestore : RestoreResult → HostHistory → Prop :=
  match payload.engine, payload.variant with
  | .pgbackrest, _ => Restored host payload
      (fun options => ∃ spec, preparePgBackrestRestore payload = .ok spec ∧
        options = pgBackrestRestoreTask payload spec)
      "postgres-startup-sql-read"
  | .snapshot, .mysql => Restored host payload
      (fun options => ∃ spec, prepareMysqlRestore payload = .ok spec ∧
        options = mysqlReplayTask payload spec) "mysql-startup-sql-read"
  | .snapshot, _ => Restored host payload
      (fun options => ∃ agentTaskImage, options = redisRestoreTask payload agentTaskImage)
      "redis-load-ping"

def pitrJob (payload : RestorePostgresPitrPayload) : TaskJob where
  runs options _ := ∃ spec, DatabaseProvision.resolveDatabaseProvisionSpec
    payload.toDatabaseProvisionPayload = .ok spec ∧ options = pitrTask payload spec
  kept _ _ _ hr := hr
  writes name := name = payload.volumeName

end

section

variable {payload : RestoreVolumeBackupPayload}

theorem persistent_target : Persistent recording (Target payload) := persistent_mem _

theorem triple_withTarget {α : Type} {f : Unit → HostAction α} {Q : α → HostHistory → Prop}
    (htarget : job.target = some (payload.targetVolumeName, targetLabels payload))
    (hstage : job.stage ≠ some (payload.targetVolumeName, targetLabels payload))
    (h : Triple recording (Along (job.Permitted host))
      (fun h => job.Standing [] h ∧ Target payload h) (f ()) Q (job.Unasked [])) :
    Triple recording (Along (job.Permitted host)) (job.Standing [])
      (Method.bind (createTarget payload) f) Q (job.Unasked []) := by
  apply Triple.bind (R := fun _ h => job.Standing [] h ∧ Target payload h)
  · apply (triple_createTarget htarget hstage (persistent_const True)).mono
    · exact fun _ hs => ⟨hs, trivial⟩
    · exact fun _ _ hp => ⟨hp.1, hp.2.2⟩
    · exact fun _ h => h
  · exact fun _ => h

def Replayed (host : DatabaseHost) (restores : TaskContainerOptions → Prop) (h : HostHistory) : Prop :=
  ∃ options logs, restores options ∧ Exited host options logs h

theorem persistent_replayed (restores : TaskContainerOptions → Prop) :
    Persistent recording (Replayed host restores) := by
  apply persistent_recording
  rintro e h ⟨options, logs, hrestores, hexited⟩
  exact ⟨options, logs, hrestores, Exited.cons hexited e⟩

theorem triple_completeRestore {validationMethod : String}
    {restores : TaskContainerOptions → Prop} :
    Triple recording (Along (job.Permitted host))
      (fun h => job.Standing [] h ∧ Target payload h ∧ Replayed host restores h)
      (completeRestore payload validationMethod)
      (fun result h => job.Standing [] h ∧ Restored host payload restores validationMethod result h)
      (job.Unasked []) := by
  have hkept : Persistent recording fun h => Target payload h ∧ Replayed host restores h :=
    persistent_target.and (persistent_replayed restores)
  apply (triple_now hkept).bind
  intro verifiedAt
  apply (triple_now hkept).bind
  intro validatedAt
  apply triple_pure
  rintro h ⟨hs, htarget, hreplayed⟩
  exact ⟨hs, htarget, hreplayed, verifiedAt, validatedAt, rfl⟩

theorem triple_runInTarget {options : TaskContainerOptions} {P : HostHistory → Prop}
    (hP : Persistent recording P) (hv : Volumes scratch)
    (hwrites : ∀ mount ∈ options.mounts, mount.readOnly = false → job.writes mount.source)
    (hruns : ∀ h, P h → job.runs options h) :
    Triple recording (Along (job.Permitted host)) (fun h => job.Standing scratch h ∧ P h)
      (runTaskContainerForLogs host options)
      (fun logs h => job.Standing scratch h ∧ P h ∧ Exited host options logs h)
      (job.Unasked scratch) := by
  apply ((triple_runTask hv hwrites hruns).frame hP).mono
  · exact fun h hp => ⟨hp, hp.2⟩
  · exact fun _ h hp => ⟨hp.1.1, hp.2, hp.1.2⟩
  · exact fun _ hx => hx.1

theorem triple_restoreTask {options : TaskContainerOptions} {validationMethod : String}
    {restores : TaskContainerOptions → Prop}
    (htarget : job.target = some (payload.targetVolumeName, targetLabels payload))
    (hstage : job.stage = none)
    (hwrites : ∀ mount ∈ options.mounts, mount.readOnly = false → job.writes mount.source)
    (hruns : ∀ h, Target payload h → job.runs options h) (hrestores : restores options) :
    Triple recording (Along (job.Permitted host)) (job.Standing [])
      (do createTarget payload
          let _ ← runTaskContainerForLogs host options
          completeRestore payload validationMethod)
      (fun result h => job.Standing [] h ∧ Restored host payload restores validationMethod result h)
      (job.Unasked []) := by
  apply triple_withTarget htarget
  · rw [hstage]
    rintro ⟨⟩
  apply Triple.bind (R := fun _ h => job.Standing [] h ∧ Target payload h ∧
    Replayed host restores h)
  · apply (triple_runInTarget persistent_target (fun _ hk => (List.not_mem_nil hk).elim) hwrites
      hruns).mono
    · exact fun _ hp => hp
    · exact fun logs _ hp => ⟨hp.1, hp.2.1, options, logs, hrestores, hp.2.2⟩
    · exact fun _ hx => hx
  · exact fun _ => triple_completeRestore

theorem triple_pgBackrestRestore :
    Triple recording (Along ((pgBackrestRestoreJob payload).Permitted host))
      ((pgBackrestRestoreJob payload).Standing []) (handleRestorePgBackrestBackup host payload)
      (fun result h => (pgBackrestRestoreJob payload).Standing [] h ∧ Restored host payload
        (fun options => ∃ spec, preparePgBackrestRestore payload = .ok spec ∧
        options = pgBackrestRestoreTask payload spec)
        "postgres-startup-sql-read" result h)
      ((pgBackrestRestoreJob payload).Unasked []) := by
  apply triple_checked
  intro spec hspec
  apply triple_restoreTask rfl rfl
  · intro mount hmount _
    exact congrArg ContainerSpecMount.source (List.mem_singleton.mp hmount)
  · exact fun _ htarget => ⟨htarget, spec, hspec, rfl⟩
  · exact ⟨spec, hspec, rfl⟩

theorem triple_redisRestore : Triple recording (Along ((redisRestoreJob payload).Permitted host))
    ((redisRestoreJob payload).Standing []) (handleRestoreRedisBackup host env payload)
    (fun result h => (redisRestoreJob payload).Standing [] h ∧ Restored host payload
      (fun options => ∃ agentTaskImage, options = redisRestoreTask payload agentTaskImage)
      "redis-load-ping" result h)
    ((redisRestoreJob payload).Unasked []) := by
  apply triple_withTaskImage
  intro agentTaskImage
  apply triple_restoreTask rfl rfl
  · intro mount hmount _
    exact congrArg ContainerSpecMount.source (List.mem_singleton.mp hmount)
  · exact fun _ htarget => ⟨htarget, agentTaskImage, rfl⟩
  · exact ⟨agentTaskImage, rfl⟩

/-- The two volumes of a restore differ in what they are labelled with. -/
theorem target_ne_stage : restoreStageLabels payload ≠ targetLabels payload := by
  intro h
  have hlabel := congrArg (fun labels => labels.lookup "nouva.resource") h
  exact absurd hlabel (by simp [restoreStageLabels, targetLabels, buildBackupStageVolumeLabels,
    buildManagedVolumeLabels, List.lookup_cons])

theorem triple_mysqlRestore :
    Triple recording (Along ((mysqlRestoreJob host payload).Permitted host))
      ((mysqlRestoreJob host payload).Standing []) (handleRestoreMysqlDumpBackup host env payload)
      (fun result h => (mysqlRestoreJob host payload).Standing [] h ∧ Restored host payload
        (fun options => ∃ spec, prepareMysqlRestore payload = .ok spec ∧
          options = mysqlReplayTask payload spec)
        "mysql-startup-sql-read" result h)
      ((mysqlRestoreJob host payload).Unasked []) := by
  apply triple_checked
  intro spec hspec
  apply triple_withTaskImage
  intro agentTaskImage
  apply triple_withTarget rfl
  · intro hsame
    exact target_ne_stage (congrArg Prod.snd (Option.some.inj hsame))
  have hvolumes : Volumes [.volume (restoreStageVolume payload)] := by simp [Volumes]
  let replays : TaskContainerOptions → Prop := fun options =>
    ∃ spec, prepareMysqlRestore payload = .ok spec ∧ options = mysqlReplayTask payload spec
  apply Triple.bind (R := fun _ h => (mysqlRestoreJob host payload).Standing [] h ∧
    Target payload h ∧ Replayed host replays h)
  · apply triple_withStageVolume rfl persistent_target fun _ =>
      persistent_target.and (persistent_replayed replays)
    apply Triple.bind
    · apply triple_runInTarget persistent_target hvolumes
      · intro mount hmount _
        rw [List.mem_singleton.mp hmount]
        exact .inr rfl
      · exact fun _ htarget => ⟨htarget, spec, agentTaskImage, hspec, .inl rfl⟩
    intro fetched
    apply Triple.bind
    · apply triple_runInTarget (persistent_target.and (persistent_exited _ fetched)) hvolumes
      · intro mount hmount hwritable
        obtain rfl | rfl := List.mem_pair.mp hmount
        · exact .inl rfl
        · exact nomatch hwritable
      · exact fun h hp => ⟨hp.1, spec, agentTaskImage, hspec, .inr ⟨rfl, fetched, hp.2⟩⟩
    intro replayed
    apply triple_pure
    exact fun h hp => ⟨hp.1, hp.2.1.1, _, replayed, ⟨spec, hspec, rfl⟩, hp.2.2⟩
  · exact fun _ => triple_completeRestore

theorem triple_handleRestoreVolumeBackup :
    Triple recording (Along ((restoreJob host payload).Permitted host))
      ((restoreJob host payload).Standing []) (handleRestoreVolumeBackup host env payload)
      (fun result h => (restoreJob host payload).Standing [] h ∧
        ProvenRestore host payload result h)
      ((restoreJob host payload).Unasked []) := by
  unfold handleRestoreVolumeBackup handleRestoreArchiveBackup restoreJob ProvenRestore
  cases payload.engine with
  | pgbackrest => exact triple_pgBackrestRestore
  | snapshot =>
    cases payload.variant with
    | mysql => exact triple_mysqlRestore
    | redis => exact triple_redisRestore
    | mongodb | postgres => exact triple_throw fun _ hs => hs.1

/-- In every run of a restore its calls are those of the job: it runs the engine's tasks one at a
time and in order, once the target volume was made; they write to no volume but that one and the
stage volume, and only the stage volume is ever removed. Whatever was made besides the target has
been asked to be removed at every end; where the restore returns that is gone, and the task that
restores the target ended well. -/
theorem volume_restore_proven (host : DatabaseHost) (env : TextRecord)
    (payload : RestoreVolumeBackupPayload) (surroundings : Environment HostCall.Answer) :
    let job := restoreJob host payload
    let run := (handleRestoreVolumeBackup host env payload ()).run surroundings []
    Along (job.Permitted host) run.2 ∧ (run.1 ≠ .cut → job.asked.outstanding run.2 = []) ∧
      ∀ result s, run.1 = .done (.ok result, s) →
        job.removed.outstanding run.2 = [] ∧ ProvenRestore host payload result run.2 :=
  run_of_triple triple_handleRestoreVolumeBackup surroundings

theorem pitr_restore_run (host : DatabaseHost) (payload : RestorePostgresPitrPayload)
    (surroundings : Environment HostCall.Answer) :
    let job := pitrJob payload
    let run := (handleRestorePostgresPitr host payload ()).run surroundings []
    Along (job.Permitted host) run.2 ∧ (run.1 ≠ .cut → job.asked.outstanding run.2 = []) ∧
      ∀ result s, run.1 = .done (.ok result, s) → job.removed.outstanding run.2 = [] ∧
        Replayed host (fun options => ∃ spec,
          DatabaseProvision.resolveDatabaseProvisionSpec payload.toDatabaseProvisionPayload =
            .ok spec ∧ options = pitrTask payload spec) run.2 := by
  apply run_of_triple
  apply triple_checked
  intro spec hspec
  apply Triple.bind (R := fun logs h => (pitrJob payload).Standing [] h ∧
    Exited host (pitrTask payload spec) logs h)
  · apply triple_runAlone
    · intro mount hmount _
      exact congrArg ContainerSpecMount.source (List.mem_singleton.mp hmount)
    · exact fun _ => ⟨spec, hspec, rfl⟩
  · exact fun logs => triple_pure fun _ hp => ⟨hp.1, _, logs, ⟨spec, hspec, rfl⟩, hp.2⟩

end

/-! What may be done with the backups that there are. -/

def deleteJob (payload : DeleteVolumeBackupPayload) : TaskJob where
  runs options _ := payload.engine = .snapshot ∧
    ∃ agentTaskImage, options = deleteTask payload agentTaskImage
  kept _ _ _ hr := hr
  writes _ := False

def expireJob (payload : ExpireVolumeBackupRepositoryPayload) : TaskJob where
  runs options _ := options = expireTask payload
  kept _ _ _ hr := hr
  writes _ := False

theorem delete_run (host : DatabaseHost) (env : TextRecord) (payload : DeleteVolumeBackupPayload)
    (surroundings : Environment HostCall.Answer) :
    let job := deleteJob payload
    let run := (handleDeleteVolumeBackup host env payload ()).run surroundings []
    Along (job.Permitted host) run.2 ∧ (run.1 ≠ .cut → job.asked.outstanding run.2 = []) ∧
      ∀ result s, run.1 = .done (.ok result, s) → job.removed.outstanding run.2 = [] ∧
        (payload.engine = .snapshot →
          ∃ agentTaskImage logs, Exited host (deleteTask payload agentTaskImage) logs run.2) := by
  apply run_of_triple (Q := fun _ h => payload.engine = .snapshot →
    ∃ agentTaskImage logs, Exited host (deleteTask payload agentTaskImage) logs h)
  unfold handleDeleteVolumeBackup
  cases hengine : payload.engine with
  | pgbackrest => exact triple_pure fun _ hs => ⟨hs, nofun⟩
  | snapshot =>
    apply triple_withTaskImage
    intro agentTaskImage
    apply Triple.bind (R := fun logs h => (deleteJob payload).Standing [] h ∧
      Exited host (deleteTask payload agentTaskImage) logs h)
    · apply triple_runAlone
      · exact fun mount hmount => (List.not_mem_nil hmount).elim
      · exact fun _ => ⟨hengine, agentTaskImage, rfl⟩
    · exact fun logs => triple_pure fun _ hp => ⟨hp.1, fun _ => ⟨agentTaskImage, logs, hp.2⟩⟩

theorem expire_run (host : DatabaseHost) (engine : EngineErrors)
    (payload : ExpireVolumeBackupRepositoryPayload) (surroundings : Environment HostCall.Answer) :
    let job := expireJob payload
    let run := (handleExpireVolumeBackupRepository host engine payload ()).run surroundings []
    Along (job.Permitted host) run.2 ∧ (run.1 ≠ .cut → job.asked.outstanding run.2 = []) ∧
      ∀ sets s, run.1 = .done (.ok sets, s) → job.removed.outstanding run.2 = [] ∧
        ∃ logs entries, Exited host (expireTask payload) logs run.2 ∧
          PgBackrestBackups.readInfo (PgBackrestInfo.parsePgBackrestInfo engine) logs =
            .ok entries ∧ sets = entries.map PgBackrestInfoBackup.label := by
  apply run_of_triple (Q := fun sets h => ∃ logs entries, Exited host (expireTask payload) logs h ∧
    PgBackrestBackups.readInfo (PgBackrestInfo.parsePgBackrestInfo engine) logs = .ok entries ∧
      sets = entries.map PgBackrestInfoBackup.label)
  apply Triple.bind (R := fun logs h => (expireJob payload).Standing [] h ∧
    Exited host (expireTask payload) logs h)
  · apply triple_runAlone
    · exact fun mount hmount => (List.not_mem_nil hmount).elim
    · exact fun _ => rfl
  intro logs
  apply Triple.bind (R := fun entries h => ((expireJob payload).Standing [] h ∧
    Exited host (expireTask payload) logs h) ∧
      PgBackrestBackups.readInfo (PgBackrestInfo.parsePgBackrestInfo engine) logs = .ok entries)
  · apply triple_ofExcept
    · exact fun entries hentries h hp => ⟨hp, PgBackrestBackups.mapError_ok hentries⟩
    · exact fun _ hp => hp.1.1
  · intro entries
    apply triple_pure
    intro h hp
    exact ⟨hp.1.1, logs, entries, hp.1.2, hp.2, rfl⟩

end NouvaAgent.VolumeBackups
