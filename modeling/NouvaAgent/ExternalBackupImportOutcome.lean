import NouvaAgent.AgentHistory
import NouvaAgent.ExternalBackupImport

namespace NouvaAgent.ExternalBackupImport

open Text Interaction Host HelperTasks ExternalBackup

structure ImportSteps where
  fetch : TaskObservation
  verification : Option (Except Rejection Unit) := none
  target : Option (Except Failure Unit) := none
  restore : Option TaskObservation := none
  proof : Option ImportResult := none
  deriving DecidableEq

structure ImportBody where
  steps : ImportSteps
  result : Except ImportFailure ImportResult
  deriving DecidableEq

/-- The body with the clean-up after it: the removal of the stage volume, and the deletion of the
artifact where it was attempted. -/
structure ImportObservation where
  body : ImportBody
  stage : Except Failure Unit
  deletion : Option (Except Failure String)
  deriving DecidableEq

/-- A failed removal of the stage volume takes the place of what the import came to. -/
def ImportObservation.result (o : ImportObservation) : Except ImportFailure ImportResult :=
  match o.stage with
  | .ok _ => o.body.result
  | .error e => .error (.other e)

inductive ImportOutcome
  | imported (result : ImportResult)
  | failed (category : ExternalBackupImportFailureCategory)
  | thrown (failure : Failure)

def outcomeOf : Except ImportFailure ImportResult → ImportOutcome
  | .ok result => .imported result
  | .error (.importError rejection) => .failed rejection.category
  | .error (.other failure) => .thrown failure

def fetchCategory (failure : Failure) : ExternalBackupImportFailureCategory :=
  (fetchRejection failure).category

def restoreCategory (failure : Failure) : ExternalBackupImportFailureCategory :=
  (restoreRejection failure).category

/-- What the fetch task's exit, the verification, the creation of the target volume and the restore
task's exit decide, in this order. -/
def decided (steps : ImportSteps) : Option ImportOutcome :=
  match steps.fetch.exit with
  | .error _ => some (.failed .artifactMissing)
  | .ok _ =>
    match steps.verification with
    | none => none
    | some (.error rejection) => some (.failed rejection.category)
    | some (.ok _) =>
      match steps.target with
      | none => none
      | some (.error e) => some (.thrown e)
      | some (.ok _) =>
        match steps.restore.map TaskObservation.exit with
        | none => none
        | some (.error e) => some (.failed (restoreCategory e))
        | some (.ok _) => steps.proof.map .imported

structure Kept (o : ImportObservation) (r : Except ImportFailure ImportResult) : Prop where
  outcome : decided o.body.steps = some (outcomeOf r)
  attempted : o.deletion.isSome

def RemovalHarmless (category : Failure → ExternalBackupImportFailureCategory)
    (task : TaskObservation) : Prop :=
  ∀ e, task.removal = .error e → ∃ f, task.exit = .error f ∧ category f = category e

structure TasksHarmless (steps : ImportSteps) : Prop where
  fetch : RemovalHarmless fetchCategory steps.fetch
  restore : ∀ task, steps.restore = some task → RemovalHarmless restoreCategory task

structure CleanedUp (o : ImportObservation) : Prop where
  stage : o.stage = .ok ()
  tasks : TasksHarmless o.body.steps

variable (host : DatabaseHost) (payload : ImportExternalBackupPayload)

def finishImport (steps : ImportSteps) (observed : ExternalBackupArtifactObservation)
    (sourceEngineVersion : Units) (restore : TaskObservation) : HostAction ImportBody :=
  match restore.result with
  | .error e => pure ⟨{ steps with restore := some restore },
      .error (.importError (restoreRejection e))⟩
  | .ok restoreLogs => do
    let validatedAt ← now
    let result := importResult payload observed sourceEngineVersion restoreLogs validatedAt
    pure ⟨{ steps with restore := some restore, proof := some result }, .ok result⟩

def observeRestore (prepared : PreparedImport) (steps : ImportSteps)
    (observed : ExternalBackupArtifactObservation) (sourceEngineVersion : Units) :
    Except Failure Unit → HostAction ImportBody
  | .error e => pure ⟨{ steps with target := some (.error e) }, .error (.other e)⟩
  | .ok _ => do
    let restore ← observeTask host (restoreTask payload prepared.spec)
    finishImport payload { steps with target := some (.ok ()) } observed sourceEngineVersion restore

def observeVerified (prepared : PreparedImport) (fetch : TaskObservation) :
    Except Rejection (ExternalBackupArtifactObservation × Units) → HostAction ImportBody
  | .error rejection => pure ⟨{ fetch, verification := some (.error rejection) },
      .error (.importError rejection)⟩
  | .ok (observed, sourceEngineVersion) => do
    let target ← Method.settle (createTargetVolume payload)
    observeRestore host payload prepared { fetch, verification := some (.ok ()) } observed
      sourceEngineVersion target

def observeFetched (prepared : PreparedImport) (fetch : TaskObservation) : HostAction ImportBody :=
  match fetch.result with
  | .error e => pure ⟨{ fetch }, .error (.importError (fetchRejection e))⟩
  | .ok fetchLogs => observeVerified host payload prepared fetch (verifyFetched payload fetchLogs)

def observeBody (prepared : PreparedImport) : HostAction ImportBody := do
  let fetch ← observeTask host (fetchTask payload prepared.agentTaskImage)
  observeFetched host payload prepared fetch

def observeDeletion (prepared : PreparedImport) (body : ImportBody) :
    Except Failure Unit → HostAction ImportObservation
  | .error e => pure ⟨body, .error e, none⟩
  | .ok _ => do
    let deletion ← Method.settle
      (runTaskContainerForLogs host (cleanupTask payload prepared.agentTaskImage))
    pure ⟨body, .ok (), some deletion⟩

def observeImport (prepared : PreparedImport) : HostAction ImportObservation := do
  let body ← observeBody host payload prepared
  let stage ← Method.settle (VolumeWipe.removeVolume (stageVolume payload) true)
  observeDeletion host payload prepared body stage

section

variable {host : DatabaseHost} {payload : ImportExternalBackupPayload} {prepared : PreparedImport}

theorem finishImport_total (steps : ImportSteps) (observed : ExternalBackupArtifactObservation)
    (sourceEngineVersion : Units) (restore : TaskObservation) :
    (finishImport payload steps observed sourceEngineVersion restore).Total := by
  unfold finishImport
  split
  · exact Method.throws_pure _
  · exact Method.throws_bind (fun _ => ⟨trivial, fun _ _ h => nomatch h⟩) fun _ =>
      Method.throws_pure _

theorem observeBody_total : (observeBody host payload prepared).Total := by
  refine Method.throws_bind (observeTask_total _ _) fun fetch => ?_
  unfold observeFetched
  split
  · exact Method.throws_pure _
  · cases verifyFetched payload _ with
    | error rejection => exact Method.throws_pure _
    | ok verified =>
      refine Method.throws_bind Method.throws_settle fun target => ?_
      cases target with
      | error e => exact Method.throws_pure _
      | ok _ => exact Method.throws_bind (observeTask_total _ _) fun restore =>
          finishImport_total _ _ _ _

theorem observeImport_total : (observeImport host payload prepared).Total := by
  refine Method.throws_bind observeBody_total fun body =>
    Method.throws_bind Method.throws_settle fun stage => ?_
  cases stage with
  | error e => exact Method.throws_pure _
  | ok _ => exact Method.throws_bind Method.throws_settle fun _ => Method.throws_pure _

theorem bind_task {α : Type} (options : TaskContainerOptions) (h : Failure → ImportFailure)
    (f : String → ImportAction α) :
    Method.bind (Method.mapThrown h (runTaskContainerForLogs host options)) f =
      Method.bind (Method.mapThrown .other (observeTask host options)) fun task =>
        Method.resume f (task.result.mapError h) := by
  rw [runTaskContainerForLogs_eq, Method.mapThrown_bind, Method.bind_assoc,
    (observeTask_total host options).mapThrown_eq h .other]
  congr 1
  funext task
  rw [Method.mapThrown_ofExcept, Method.bind_ofExcept]

def proveImport (payload : ImportExternalBackupPayload)
    (observed : ExternalBackupArtifactObservation) (sourceEngineVersion : Units)
    (restoreLogs : String) : ImportAction ImportResult := do
  let validatedAt ← Method.mapThrown .other now
  pure (importResult payload observed sourceEngineVersion restoreLogs validatedAt)

theorem finishImport_eq (steps : ImportSteps) (observed : ExternalBackupArtifactObservation)
    (sourceEngineVersion : Units) (restore : TaskObservation) :
    Method.resume (proveImport payload observed sourceEngineVersion)
        (restore.result.mapError fun e => .importError (restoreRejection e)) =
      Method.bind (Method.mapThrown .other
        (finishImport payload steps observed sourceEngineVersion restore)) fun body =>
          Method.ofExcept body.result := by
  unfold finishImport
  cases restore.result with
  | error e => rfl
  | ok restoreLogs => rfl

def restoreVerified (host : DatabaseHost) (payload : ImportExternalBackupPayload)
    (prepared : PreparedImport) (verified : ExternalBackupArtifactObservation × Units) :
    ImportAction ImportResult := do
  Method.mapThrown .other (createTargetVolume payload)
  let restoreLogs ← Method.mapThrown (fun e => .importError (restoreRejection e))
    (runTaskContainerForLogs host (restoreTask payload prepared.spec))
  proveImport payload verified.1 verified.2 restoreLogs

theorem observeVerified_eq (fetch : TaskObservation)
    (r : Except Rejection (ExternalBackupArtifactObservation × Units)) :
    Method.resume (restoreVerified host payload prepared) (r.mapError .importError) =
      Method.bind (Method.mapThrown .other (observeVerified host payload prepared fetch r))
        fun body => Method.ofExcept body.result := by
  cases r with
  | error rejection => rfl
  | ok verified =>
    show _ = Method.bind (Method.mapThrown ImportFailure.other (Method.bind _ _)) _
    rw [Method.mapThrown_bind, Method.bind_assoc]
    refine (Method.bind_mapThrown_settle ImportFailure.other ImportFailure.other).trans ?_
    congr 1
    funext target
    cases target with
    | error e => rfl
    | ok _ =>
      refine (bind_task _ _ _).trans ?_
      show _ = Method.bind (Method.mapThrown ImportFailure.other (Method.bind _ _)) _
      rw [Method.mapThrown_bind, Method.bind_assoc]
      congr 1
      funext restore
      exact finishImport_eq _ _ _ restore

theorem importArtifact_eq : importArtifact host payload prepared =
    Method.bind (Method.mapThrown .other (observeBody host payload prepared)) fun body =>
      Method.ofExcept body.result := by
  refine (bind_task _ _ _).trans ?_
  show _ = Method.bind (Method.mapThrown ImportFailure.other (Method.bind _ _)) _
  rw [Method.mapThrown_bind, Method.bind_assoc]
  congr 1
  funext fetch
  unfold observeFetched
  cases fetch.result with
  | error e => rfl
  | ok fetchLogs =>
    refine Eq.trans ?_ (observeVerified_eq fetch (verifyFetched payload fetchLogs))
    exact Method.bind_ofExcept _

theorem cleanUpImport_eq (body : ImportBody) :
    Method.bind (Method.mapThrown .other (cleanUpImport host payload prepared)) (fun _ =>
        Method.ofExcept body.result) =
      Method.bind (Method.mapThrown .other (Method.bind
        (Method.settle (VolumeWipe.removeVolume (stageVolume payload) true))
        (observeDeletion host payload prepared body))) fun o => Method.ofExcept o.result := by
  show Method.bind (Method.mapThrown ImportFailure.other (Method.bind _ _)) _ = _
  rw [Method.mapThrown_bind, Method.bind_assoc, Method.mapThrown_bind, Method.bind_assoc]
  refine (Method.bind_mapThrown_settle ImportFailure.other ImportFailure.other).trans ?_
  congr 1
  funext stage
  cases stage with
  | error e => rfl
  | ok _ =>
    show Method.bind (Method.mapThrown ImportFailure.other (Method.bind _ _)) _ =
      Method.bind (Method.mapThrown ImportFailure.other (Method.bind _ _)) _
    rw [Method.mapThrown_bind, Method.mapThrown_bind, Method.bind_assoc, Method.bind_assoc]
    rfl

theorem importStaged_eq : importStaged host payload prepared =
    Method.bind (Method.mapThrown .other (observeImport host payload prepared)) fun o =>
      Method.ofExcept o.result := by
  have hbody : (importArtifact host payload prepared).settle =
      Method.bind (Method.mapThrown .other (observeBody host payload prepared)) fun body =>
        Method.pure body.result := by
    rw [importArtifact_eq, observeBody_total.mapThrown.settle_bind]
    exact congrArg (Method.bind _) (funext fun body => Method.settle_ofExcept _)
  show Method.bind (Method.settle _) _ =
    Method.bind (Method.mapThrown ImportFailure.other (Method.bind _ _)) _
  rw [hbody, Method.bind_assoc, Method.mapThrown_bind, Method.bind_assoc]
  exact congrArg (Method.bind _) (funext fun body => cleanUpImport_eq body)

theorem importStaged_observed {seg : History HostCall.Answer}
    {r : Except ImportFailure ImportResult}
    (h : (importStaged host payload prepared ()).Produces seg (r, ())) : ∃ o,
      (observeImport host payload prepared).Returns () seg o () ∧ r = o.result := by
  rw [importStaged_eq] at h
  obtain ⟨before, later, ⟨x, u⟩, rfl, hbefore, hlater⟩ := Program.Produces.of_bind h
  cases x with
  | error e => exact absurd hbefore observeImport_total.mapThrown.not_thrown
  | ok o =>
    have hend : later = [] ∧ r = o.result := by
      dsimp only at hlater
      cases hr : o.result with
      | error e =>
        rw [hr] at hlater
        cases hlater
        exact ⟨rfl, rfl⟩
      | ok result =>
        rw [hr] at hlater
        cases hlater
        exact ⟨rfl, rfl⟩
    obtain ⟨rfl, rfl⟩ := hend
    exact ⟨o, Method.Returns.mapThrown hbefore, rfl⟩

inductive Went : ImportBody → Prop
  | notFetched {fetch : TaskObservation} {e : Failure} (h : fetch.result = .error e) :
      Went ⟨{ fetch }, .error (.importError (fetchRejection e))⟩
  | rejected {fetch : TaskObservation} {logs : String} (h : fetch.result = .ok logs)
      (rejection : Rejection) : Went ⟨{ fetch, verification := some (.error rejection) },
        .error (.importError rejection)⟩
  | noTarget {fetch : TaskObservation} {logs : String} (h : fetch.result = .ok logs)
      (e : Failure) : Went ⟨{ fetch, verification := some (.ok ()), target := some (.error e) },
        .error (.other e)⟩
  | notRestored {fetch restore : TaskObservation} {logs : String} {e : Failure}
      (h : fetch.result = .ok logs) (hrestore : restore.result = .error e) :
      Went ⟨{ fetch, verification := some (.ok ()), target := some (.ok ())
              restore := some restore }, .error (.importError (restoreRejection e))⟩
  | restored {fetch restore : TaskObservation} {logs restoreLogs : String}
      (h : fetch.result = .ok logs) (hrestore : restore.result = .ok restoreLogs)
      (result : ImportResult) :
      Went ⟨{ fetch, verification := some (.ok ()), target := some (.ok ())
              restore := some restore, proof := some result }, .ok result⟩

theorem finishImport_went {fetch restore : TaskObservation} {logs : String}
    (h : fetch.result = .ok logs) (observed : ExternalBackupArtifactObservation)
    (sourceEngineVersion : Units) : (finishImport payload
      { fetch, verification := some (.ok ()), target := some (.ok ()) } observed
      sourceEngineVersion restore).Confined (fun _ => True) Went := by
  unfold finishImport
  split
  case h_1 e hrestore => exact Method.confined_pure (.notRestored h hrestore)
  case h_2 restoreLogs hrestore =>
    exact Method.confined_bind (Method.confined_any _) fun validatedAt _ =>
      Method.confined_pure (.restored h hrestore _)

theorem observeBody_went :
    (observeBody host payload prepared).Confined (fun _ => True) Went := by
  refine Method.confined_bind (Method.confined_any _) fun fetch _ => ?_
  unfold observeFetched
  split
  case h_1 e hfetch => exact Method.confined_pure (.notFetched hfetch)
  case h_2 logs hfetch =>
    cases verifyFetched payload logs with
    | error rejection => exact Method.confined_pure (.rejected hfetch rejection)
    | ok verified =>
      refine Method.confined_bind (Method.confined_any _) fun target _ => ?_
      cases target with
      | error e => exact Method.confined_pure (.noTarget hfetch e)
      | ok _ => exact Method.confined_bind (Method.confined_any _) fun restore _ =>
          finishImport_went hfetch _ _

theorem observeDeletion_attempted (body : ImportBody) (stage : Except Failure Unit) :
    (observeDeletion host payload prepared body stage).Confined (fun _ => True) fun o =>
      o.body = body ∧ (o.deletion.isSome ↔ o.stage = .ok ()) := by
  cases stage with
  | error e => exact Method.confined_pure ⟨rfl, nofun, nofun⟩
  | ok _ => exact Method.confined_bind (Method.confined_any _) fun deletion _ =>
      Method.confined_pure ⟨rfl, fun _ => rfl, fun _ => rfl⟩

theorem observeImport_went : (observeImport host payload prepared).Confined (fun _ => True)
    fun o => Went o.body ∧ (o.deletion.isSome ↔ o.stage = .ok ()) :=
  Method.confined_bind observeBody_went fun body hbody =>
    Method.confined_bind (Method.confined_any _) fun stage _ => fun s =>
      (observeDeletion_attempted body stage s).mono (fun _ h => h) fun _ h o ho =>
        ⟨(h o ho).1 ▸ hbody, (h o ho).2⟩

end

section

variable {o : ImportObservation} {body : ImportBody}
  {category : Failure → ExternalBackupImportFailureCategory} {task : TaskObservation}

theorem removalHarmless_of_removed (h : task.removal = .ok ()) : RemovalHarmless category task := by
  intro e he
  rw [h] at he
  cases he

theorem RemovalHarmless.exit {e : Failure} (h : RemovalHarmless category task)
    (hresult : task.result = .error e) : ∃ f, task.exit = .error f ∧ category f = category e := by
  obtain hremoval | ⟨-, hexit⟩ := TaskObservation.result_error hresult
  · exact h e hremoval
  · exact ⟨e, hexit, rfl⟩

theorem removalHarmless_of_exit {e f : Failure} (hresult : task.result = .error e)
    (hexit : task.exit = .error f) (hcategory : category f = category e) :
    RemovalHarmless category task := by
  intro removal hremoval
  obtain hfailed | ⟨hremoved, -⟩ := TaskObservation.result_error hresult
  · obtain rfl := Except.error.inj (hfailed.symm.trans hremoval)
    exact ⟨f, hexit, hcategory⟩
  · rw [hremoved] at hremoval
    cases hremoval

theorem outcomeOf_restoreRejection (e : Failure) :
    outcomeOf (.error (.importError (restoreRejection e))) = .failed (restoreCategory e) := rfl

section

variable {fetch restore : TaskObservation} {logs : String} {proof : Option ImportResult}
  (hexit : fetch.exit = .ok logs)

include hexit

theorem decided_unverified : decided { fetch } = none := by simp only [decided, hexit]

theorem decided_rejected (rejection : Rejection) :
    decided { fetch, verification := some (.error rejection) } =
      some (.failed rejection.category) := by simp only [decided, hexit]

theorem decided_noTarget (e : Failure) :
    decided { fetch, verification := some (.ok ()), target := some (.error e) } =
      some (.thrown e) := by simp only [decided, hexit]

theorem decided_notRestored {e : Failure} (hrestored : restore.exit = .error e) :
    decided { fetch, verification := some (.ok ()), target := some (.ok ())
              restore := some restore, proof } = some (.failed (restoreCategory e)) := by
  simp only [decided, hexit, Option.map_some, hrestored]

theorem decided_restored {restoreLogs : String} (hrestored : restore.exit = .ok restoreLogs) :
    decided { fetch, verification := some (.ok ()), target := some (.ok ())
              restore := some restore, proof } = proof.map .imported := by
  simp only [decided, hexit, Option.map_some, hrestored]

end

theorem decided_notFetched {fetch : TaskObservation} {e : Failure} (hexit : fetch.exit = .error e) :
    decided { fetch } = some (.failed .artifactMissing) := by simp only [decided, hexit]

theorem notFetched_decided_iff {fetch : TaskObservation} {e : Failure}
    (h : fetch.result = .error e) : decided { fetch } =
      some (outcomeOf (.error (.importError (fetchRejection e)))) ↔ TasksHarmless { fetch } := by
  constructor
  · intro hdecided
    cases hexit : fetch.exit with
    | error f => exact ⟨removalHarmless_of_exit h hexit rfl, fun _ hnone => nomatch hnone⟩
    | ok logs =>
      rw [decided_unverified hexit] at hdecided
      cases hdecided
  · rintro ⟨hharmless, -⟩
    obtain ⟨f, hexit, -⟩ := hharmless.exit h
    exact decided_notFetched hexit

theorem notRestored_decided_iff {fetch restore : TaskObservation} {logs : String} {e : Failure}
    (h : fetch.result = .ok logs) (hrestore : restore.result = .error e) :
    decided { fetch, verification := some (.ok ()), target := some (.ok ())
              restore := some restore } =
        some (outcomeOf (.error (.importError (restoreRejection e)))) ↔
      TasksHarmless { fetch, verification := some (.ok ()), target := some (.ok ())
                      restore := some restore } := by
  obtain ⟨hexit, hremoval⟩ := TaskObservation.result_ok h
  rw [outcomeOf_restoreRejection]
  constructor
  · intro hdecided
    refine ⟨removalHarmless_of_removed hremoval, fun task htask => ?_⟩
    obtain rfl := Option.some.inj htask
    cases hrestored : restore.exit with
    | error f =>
      rw [decided_notRestored hexit hrestored] at hdecided
      exact removalHarmless_of_exit hrestore hrestored
        (ImportOutcome.failed.inj (Option.some.inj hdecided))
    | ok restoreLogs =>
      rw [decided_restored hexit hrestored] at hdecided
      cases hdecided
  · rintro ⟨-, hharmless⟩
    obtain ⟨f, hrestored, hcategory⟩ := (hharmless restore rfl).exit hrestore
    rw [decided_notRestored hexit hrestored, hcategory]

theorem went_decided_iff (hwent : Went body) :
    decided body.steps = some (outcomeOf body.result) ↔ TasksHarmless body.steps := by
  cases hwent with
  | notFetched h => exact notFetched_decided_iff h
  | rejected h rejection =>
    obtain ⟨hexit, hremoval⟩ := TaskObservation.result_ok h
    exact iff_of_true (decided_rejected hexit rejection)
      ⟨removalHarmless_of_removed hremoval, fun _ hnone => nomatch hnone⟩
  | noTarget h e =>
    obtain ⟨hexit, hremoval⟩ := TaskObservation.result_ok h
    exact iff_of_true (decided_noTarget hexit e)
      ⟨removalHarmless_of_removed hremoval, fun _ hnone => nomatch hnone⟩
  | notRestored h hrestore => exact notRestored_decided_iff h hrestore
  | restored h hrestore result =>
    obtain ⟨hexit, hremoval⟩ := TaskObservation.result_ok h
    obtain ⟨hrestored, hrestoreRemoval⟩ := TaskObservation.result_ok hrestore
    refine iff_of_true (decided_restored hexit hrestored)
      ⟨removalHarmless_of_removed hremoval, fun task htask => ?_⟩
    obtain rfl := Option.some.inj htask
    exact removalHarmless_of_removed hrestoreRemoval

theorem kept_iff_cleanedUp (hwent : Went o.body)
    (hdeletion : o.deletion.isSome ↔ o.stage = .ok ()) : Kept o o.result ↔ CleanedUp o := by
  have hresult (hstage : o.stage = .ok ()) : o.result = o.body.result := by
    unfold ImportObservation.result
    rw [hstage]
  constructor
  · rintro ⟨houtcome, hattempted⟩
    have hstage := hdeletion.mp hattempted
    rw [hresult hstage] at houtcome
    exact ⟨hstage, (went_decided_iff hwent).mp houtcome⟩
  · rintro ⟨hstage, htasks⟩
    refine ⟨?_, hdeletion.mpr hstage⟩
    rw [hresult hstage]
    exact (went_decided_iff hwent).mpr htasks

end

def Unprepared (payload : ImportExternalBackupPayload) (env : TextRecord)
    (seg : History HostCall.Answer) (r : Except ImportFailure ImportResult) : Prop :=
  ∃ e, (prepareImport payload env ()).Produces seg (.error e, ()) ∧ r = .error (.other e)

def Observed (host : DatabaseHost) (payload : ImportExternalBackupPayload) (env : TextRecord)
    (seg : History HostCall.Answer) (o : ImportObservation) : Prop :=
  ∃ prepared before later, seg = later ++ before ∧
    (prepareImport payload env).Returns () before prepared () ∧
    (observeImport host payload prepared).Returns () later o ()

section

variable {host : DatabaseHost} {payload : ImportExternalBackupPayload} {env : TextRecord}
  {seg : History HostCall.Answer} {r : Except ImportFailure ImportResult} {o : ImportObservation}

theorem handleImportExternalBackup_observed
    (h : (handleImportExternalBackup host payload env ()).Produces seg (r, ())) :
    Unprepared payload env seg r ∨ ∃ o, Observed host payload env seg o ∧ r = o.result ∧
      Went o.body ∧ (o.deletion.isSome ↔ o.stage = .ok ()) := by
  obtain ⟨before, later, ⟨x, u⟩, rfl, hbefore, hlater⟩ := Program.Produces.of_bind h
  obtain ⟨preparing, after, ⟨y, v⟩, rfl, hprepared, hafter⟩ := Program.Produces.of_bind hbefore
  cases y with
  | error e =>
    cases hafter
    cases hlater
    exact .inl ⟨e, hprepared, rfl⟩
  | ok prepared =>
    cases hafter
    obtain ⟨o, hobserved, rfl⟩ := importStaged_observed hlater
    exact .inr ⟨o, ⟨prepared, preparing, later, rfl, hprepared, hobserved⟩, rfl,
      (hobserved.ran.confined observeImport_went).2⟩

theorem Observed.produces (h : Observed host payload env seg o) :
    (handleImportExternalBackup host payload env ()).Produces seg (o.result, ()) := by
  obtain ⟨prepared, before, later, rfl, hprepared, hobserved⟩ := h
  have hend (r : Except ImportFailure ImportResult) :
      (Method.ofExcept r ()).Produces ([] : History HostCall.Answer) (r, ()) := by
    cases r <;> exact .ret _
  have hstaged : (importStaged host payload prepared ()).Produces later (o.result, ()) := by
    rw [importStaged_eq]
    exact hobserved.to_mapThrown.bind_produces (f := fun o => Method.ofExcept o.result)
      (hend o.result)
  exact hprepared.to_mapThrown.bind_produces hstaged

end

/-! An import whose artifact cannot be fetched. -/

def lostPayload : ImportExternalBackupPayload :=
  { projectId := "project", serviceId := "service", variant := .redis, version := "7.4"
    importId := "import", format := .redisRdbV1, artifactSha256 := "", artifactSizeBytes := 9
    objectKey := "key", targetVolumeId := "id", targetVolumeName := "volume"
    targetMountPath := "/data"
    destination := ⟨"bucket", "https://s3.test", "region", true, true, "id", "secret"⟩
    imageUrl := "redis:7.4", envVars := [], containerArgs := [], dataPath := "/data" }

def lostHost : DatabaseHost :=
  { config :=
      { serverId := "server", appDomain := "apps.test", dataVolume := "nouva-data"
        traefikContainerName := "nouva-traefik", imageStoreMode := .dockerLocal
        clientIngressPlaceholderUrl := none, hashProjectNetwork := id
        createBuildLogRedactor := fun _ _ => id }
    ownsPublicPort := fun _ _ => false
    dataDir := "/data"
    fuel := 0 }

def lostArtifact (removed : Except CallError Unit) : Environment HostCall.Answer where
  answer _
    | .agent (.request (.waitContainer _ _)) => some (.ok (1 : ℤ))
    | .agent (.request r) => some (.ok (wellAnswer (fun _ => none) (.run 1) r))
    | .agent .now => some (0 : ℤ)
    | .agent (.sleep _) => some ()
    | .readFile _ => none
    | .file _ => some (.ok ())
    | .removeVolume _ _ => some removed
    | .listenOnPort _ | .restartContainer _ => some (.ok ())
  pick _ := 0

def lostPrepared : PreparedImport := ⟨⟨"redis:7.4", [], [], "/data", "/data"⟩, "agent"⟩

def volumeInUse : CallError := ⟨true, "volume is in use", some 409⟩

def lostFailure : Failure := .error "Task container nouva-import-fetch-import failed (1)"

def lostBody : ImportBody :=
  ⟨{ fetch := ⟨.error lostFailure, .ok ()⟩ }, .error (.importError (fetchRejection lostFailure))⟩

theorem lostArtifact_observed {removed : Except CallError Unit} {o : ImportObservation}
    (h : ((observeImport lostHost lostPayload lostPrepared ()).run (lostArtifact removed) []).1 =
      .done (.ok o, ())) :
    ∃ seg, Observed lostHost lostPayload [("NOUVA_AGENT_IMAGE", "agent")] seg o := by
  have hprepare : ((prepareImport lostPayload [("NOUVA_AGENT_IMAGE", "agent")] ()).run
      (lostArtifact (.ok ())) []).1 = .done (.ok lostPrepared, ()) := by decide +kernel
  obtain ⟨before, -, hbefore⟩ := Program.run_produces hprepare
  obtain ⟨later, -, hlater⟩ := Program.run_produces h
  exact ⟨later ++ before, lostPrepared, before, later, rfl, hbefore, hlater⟩

/-- The stage volume is in use: the import of an artifact that is missing ends with Docker's error,
and the artifact is left in the storage. -/
theorem handleImportExternalBackup_stage_in_use : ∃ seg o,
    (handleImportExternalBackup lostHost lostPayload [("NOUVA_AGENT_IMAGE", "agent")] ()).Produces
      seg (.error (.other (.call volumeInUse)), ()) ∧
    Observed lostHost lostPayload [("NOUVA_AGENT_IMAGE", "agent")] seg o ∧
    decided o.body.steps = some (.failed .artifactMissing) ∧ o.deletion = none ∧
    ¬ Kept o (.error (.other (.call volumeInUse))) := by
  obtain ⟨seg, hseg⟩ := @lostArtifact_observed (.error volumeInUse)
    ⟨lostBody, .error (.call volumeInUse), none⟩ (by decide +kernel)
  refine ⟨seg, _, hseg.produces, hseg, rfl, rfl, ?_⟩
  rintro ⟨-, hattempted⟩
  cases hattempted

/-- Once the stage volume is there, the outcome is the one that the import's own steps decide, and
the deletion of the artifact is attempted, if and only if the removals went well or were harmless. -/
theorem handleImportExternalBackup_kept_iff {host : DatabaseHost}
    {payload : ImportExternalBackupPayload} {env : TextRecord} {seg : History HostCall.Answer}
    {r : Except ImportFailure ImportResult}
    (h : (handleImportExternalBackup host payload env ()).Produces seg (r, ())) :
    Unprepared payload env seg r ∨
      ∃ o, Observed host payload env seg o ∧ r = o.result ∧ (Kept o r ↔ CleanedUp o) := by
  refine (handleImportExternalBackup_observed h).imp_right fun ⟨o, hobserved, hr, hwent, hdel⟩ => ?_
  exact ⟨o, hobserved, hr, hr ▸ kept_iff_cleanedUp hwent hdel⟩

theorem handleImportExternalBackup_kept_missing : ∃ seg r,
    Unprepared lostPayload [("NOUVA_AGENT_IMAGE", "agent")] seg r ∨
      ∃ o, Observed lostHost lostPayload [("NOUVA_AGENT_IMAGE", "agent")] seg o ∧ r = o.result ∧
        (Kept o r ↔ CleanedUp o) := by
  obtain ⟨seg, hseg⟩ := @lostArtifact_observed (.ok ())
    ⟨lostBody, .ok (), some (.error (.error "Task container nouva-import-cleanup-import failed (1)"))⟩
    (by decide +kernel)
  exact ⟨seg, _, handleImportExternalBackup_kept_iff hseg.produces⟩

end NouvaAgent.ExternalBackupImport
