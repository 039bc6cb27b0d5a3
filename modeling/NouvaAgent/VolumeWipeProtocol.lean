import NouvaAgent.DatabaseReadiness
import NouvaAgent.VolumeWipe

namespace NouvaAgent.VolumeWipeProtocol

open Text Interaction Host DatabaseProvision VolumeWipe

inductive Mark
  | removing (generation : ℤ)
  | removed (generation : ℤ)
  | created (generation : ℤ)
  | provisioning (generation : ℤ)
  deriving DecidableEq

structure World where
  files : Files
  generation : ℤ
  log : List Mark

def World.mark (w : World) (m : Mark) : World := { w with log := m :: w.log }

def World.store (w : World) (path : String) (contents : FileContents) : World :=
  { w with files := Function.update w.files path (some contents) }

/-- Whatever its answer, a removal counts as one that began. -/
def RemoveEffect (w : World) (r : Option (Except CallError Unit)) (w' : World) : Prop :=
  match r with
  | some (.ok _) => w' = (w.mark (.removing w.generation)).mark (.removed w.generation)
  | _ => w' = w.mark (.removing w.generation)

def CreateEffect (w : World) (r : Option (Except CallError Unit)) (w' : World) : Prop :=
  match r with
  | some (.ok _) => w' = w.mark (.created w.generation)
  | _ => w' = w

def effect (volumeName : String) : Model HostCall.Answer World := fun w c r w' =>
  match c, r with
  | .removeVolume name _, r => if name = volumeName then RemoveEffect w r w' else w' = w
  | .agent (.request (.createVolume name _)), r =>
    if name = volumeName then CreateEffect w r w' else w' = w
  | .readFile path, r => w' = w ∧ ReadEffect path r w.files
  | .file step, r => ∃ files, w' = { w with files } ∧ step.Effect r w.files files
  | _, _ => w' = w

/-- One attempt at a generation. A wipe of a volume with a database is `wipeDatabaseVolume` and then
`reprovisionDatabase`, and the volume's past says where the second began. -/
inductive Attempt (host : DatabaseHost) (volumeName : String) (generation : ℤ) : World → World → Prop
  | volume {payload : DeleteVolumePayload} {w w' : World} {workItemId : Option String}
      {o : Outcome (Except Failure WipeVolumeResult × Unit)} (hname : payload.volumeName = volumeName)
      (hgeneration : readPayloadRepositoryGeneration payload.pgbackrestRepositoryGeneration =
        some generation)
      (hrun : Program.Exec (effect volumeName)
        (handleWipeVolume host (.volume payload) workItemId ()) w o w') :
      Attempt host volumeName generation w w'
  | unprepared {payload : DatabaseProvisionPayload} {w w' : World} {workItemId : Option String}
      {o : Outcome (Except Failure Unit × Unit)} (hname : payload.volumeName = volumeName)
      (hgeneration : readPayloadRepositoryGeneration payload.pgbackrestRepositoryGeneration =
        some generation)
      (hrun : Program.Exec (effect volumeName) (wipeDatabaseVolume host payload workItemId ()) w o w')
      (hfailed : o ≠ .done (.ok (), ())) : Attempt host volumeName generation w w'
  | database {payload : DatabaseProvisionPayload} {w w' w'' : World} {workItemId : Option String}
      {o : Outcome (Except Failure WipeVolumeResult × Unit)} (hname : payload.volumeName = volumeName)
      (hgeneration : readPayloadRepositoryGeneration payload.pgbackrestRepositoryGeneration =
        some generation)
      (hwipe : Program.Exec (effect volumeName) (wipeDatabaseVolume host payload workItemId ()) w
        (.done (.ok (), ())) w')
      (hrun : Program.Exec (effect volumeName) (reprovisionDatabase host payload ())
        (w'.mark (.provisioning generation)) o w'') : Attempt host volumeName generation w w''

/-- The worlds reached by attempts whose generations never decrease. Between two of them a receipt
may be damaged. -/
inductive Reachable (dataDir volumeName : String) : World → Prop
  | initial (files : Files) (generation : ℤ)
      (h : files (getVolumeWipeReceiptPath dataDir volumeName) = none) :
      Reachable dataDir volumeName ⟨files, generation, []⟩
  | damaged {w : World} (contents : FileContents) (h : Reachable dataDir volumeName w)
      (hstored : w.files (getVolumeWipeReceiptPath dataDir volumeName) ≠ none)
      (hcontents : VolumeWipeReceipt.ofContents contents = none) :
      Reachable dataDir volumeName (w.store (getVolumeWipeReceiptPath dataDir volumeName) contents)
  | attempt {host : DatabaseHost} {generation : ℤ} {w w' : World}
      (h : Reachable dataDir volumeName w) (hdataDir : host.dataDir = dataDir)
      (hgeneration : w.generation ≤ generation)
      (ha : Attempt host volumeName generation { w with generation } w') :
      Reachable dataDir volumeName w'

def Replaced (generation : ℤ) (log : List Mark) : Prop :=
  ∃ later earlier, log = later ++ .created generation :: earlier ∧ .removed generation ∈ earlier

/-- A generation provisions only what it replaced, and removes nothing once it has begun to. -/
def Safe (log : List Mark) : Prop :=
  ∀ later generation earlier, log = later ++ .provisioning generation :: earlier →
    .removing generation ∉ later ∧ Replaced generation earlier

structure Inv (receiptPath volumeName : String) (w : World) : Prop where
  safe : Safe w.log
  bounded : ∀ g, .provisioning g ∈ w.log → g ≤ w.generation
  absent : w.files receiptPath = none → ∀ g, .provisioning g ∉ w.log
  recorded : ∀ contents receipt, w.files receiptPath = some contents →
    VolumeWipeReceipt.ofContents contents = some receipt → receipt.volumeName = volumeName ∧
      receipt.repositoryGeneration ≤ w.generation ∧ Replaced receipt.repositoryGeneration w.log ∧
      ∀ g, .provisioning g ∈ w.log → g ≤ receipt.repositoryGeneration

theorem Replaced.cons {generation : ℤ} {log : List Mark} (m : Mark) (h : Replaced generation log) :
    Replaced generation (m :: log) := by
  obtain ⟨later, earlier, rfl, hr⟩ := h
  exact ⟨m :: later, earlier, rfl, hr⟩

theorem Safe.cons {log : List Mark} {m : Mark} (h : Safe log)
    (hremoving : ∀ g, m = .removing g → .provisioning g ∉ log)
    (hprovisioning : ∀ g, m = .provisioning g → Replaced g log) : Safe (m :: log) := by
  intro later g earlier hl
  cases later with
  | nil =>
    obtain ⟨rfl, rfl⟩ := List.cons.inj hl
    exact ⟨List.not_mem_nil, hprovisioning g rfl⟩
  | cons e later =>
    obtain ⟨rfl, rfl⟩ := List.cons.inj hl
    obtain ⟨hno, hreplaced⟩ := h later g earlier rfl
    refine ⟨fun hm => ?_, hreplaced⟩
    rcases List.mem_cons.mp hm with rfl | hm
    · exact hremoving g rfl (by simp)
    · exact hno hm

section

variable {receiptPath volumeName : String} {generation : ℤ} {w w' : World}

theorem Inv.mark {m : Mark} (h : Inv receiptPath volumeName w)
    (hm : ∀ g, m ≠ .provisioning g) (hremoving : ∀ g, m = .removing g → .provisioning g ∉ w.log) :
    Inv receiptPath volumeName (w.mark m) := by
  have hlog : ∀ g, .provisioning g ∈ (w.mark m).log → .provisioning g ∈ w.log := by
    intro g hg
    rcases List.mem_cons.mp hg with he | hg
    · exact absurd he.symm (hm g)
    · exact hg
  constructor
  · exact h.safe.cons hremoving fun g he => absurd he (hm g)
  · exact fun g hg => h.bounded g (hlog g hg)
  · exact fun ha g hg => h.absent ha g (hlog g hg)
  · intro contents receipt hs hc
    obtain ⟨hname, hle, hreplaced, hlast⟩ := h.recorded contents receipt hs hc
    exact ⟨hname, hle, hreplaced.cons m, fun g hg => hlast g (hlog g hg)⟩

theorem Inv.provisioning {contents : FileContents} (h : Inv receiptPath volumeName w)
    (hs : w.files receiptPath = some contents)
    (hc : VolumeWipeReceipt.ofContents contents = some ⟨volumeName, w.generation⟩) :
    Inv receiptPath volumeName (w.mark (.provisioning w.generation)) := by
  obtain ⟨-, -, hreplaced, -⟩ := h.recorded _ _ hs hc
  have hle : ∀ g, .provisioning g ∈ (w.mark (.provisioning w.generation)).log →
      g ≤ w.generation := by
    intro g hg
    rcases List.mem_cons.mp hg with he | hg
    · cases he
      exact le_refl _
    · exact h.bounded g hg
  constructor
  · exact h.safe.cons (fun g he => nomatch he) fun g he => by cases he; exact hreplaced
  · exact hle
  · exact fun ha => nomatch hs.symm.trans ha
  · intro contents' receipt hs' hc'
    cases hs.symm.trans hs'
    cases hc.symm.trans hc'
    exact ⟨rfl, le_refl _, hreplaced.cons _, hle⟩

theorem Inv.advance (h : Inv receiptPath volumeName w) (hle : w.generation ≤ generation) :
    Inv receiptPath volumeName { w with generation } := by
  constructor
  · exact h.safe
  · exact fun g hg => le_trans (h.bounded g hg) hle
  · exact h.absent
  · intro contents receipt hs hc
    obtain ⟨hname, hr, hrest⟩ := h.recorded contents receipt hs hc
    exact ⟨hname, le_trans hr hle, hrest⟩

theorem Inv.files {files : Files} (h : Inv receiptPath volumeName w)
    (hfiles : files receiptPath = w.files receiptPath ∨ w.files receiptPath ≠ none ∧
      ∃ contents, files receiptPath = some contents ∧
        VolumeWipeReceipt.ofContents contents = none) :
    Inv receiptPath volumeName { w with files } := by
  constructor
  · exact h.safe
  · exact h.bounded
  · intro ha
    rcases hfiles with he | ⟨-, contents, he, -⟩
    · exact h.absent (he.symm.trans ha)
    · exact nomatch he.symm.trans ha
  · intro contents receipt hs hc
    rcases hfiles with he | ⟨-, contents', he, hnone⟩
    · exact h.recorded contents receipt (he.symm.trans hs) hc
    · cases he.symm.trans hs
      exact nomatch hnone.symm.trans hc

theorem Inv.record {files : Files} {contents : FileContents} (h : Inv receiptPath volumeName w)
    (hs : files receiptPath = some contents)
    (hc : VolumeWipeReceipt.ofContents contents = some ⟨volumeName, w.generation⟩)
    (hreplaced : Replaced w.generation w.log) : Inv receiptPath volumeName { w with files } := by
  constructor
  · exact h.safe
  · exact h.bounded
  · exact fun ha => nomatch hs.symm.trans ha
  · intro contents' receipt hs' hc'
    cases hs.symm.trans hs'
    cases hc.symm.trans hc'
    exact ⟨rfl, le_refl _, hreplaced, h.bounded⟩

end

def Harmless : HostCall → Prop
  | .removeVolume _ _ | .file _ => False
  | _ => True

theorem agent_harmless {σ α : Type} (p : AgentMethod σ α) : (agent p).Uses Harmless :=
  uses_agent fun s => (p s).confined_true

theorem request_harmless {σ : Type} (r : Request) :
    (request r : HostMethod σ r.Result).Uses Harmless := agent_harmless _

section

variable (host : DatabaseHost) (payload : DatabaseProvisionPayload)

theorem preflight_harmless : (preflightDatabasePublicPort host payload).Uses Harmless := by
  unfold preflightDatabasePublicPort
  split
  · cases readPort payload.externalPort with
    | none => exact Method.uses_throw _
    | some port =>
      refine Method.uses_bind (request_harmless _) fun existing => ?_
      split
      · exact Method.uses_pure _
      · refine Method.uses_bind (Method.uses_ask trivial) fun answer => ?_
        cases answer with
        | ok _ => exact Method.uses_pure _
        | error _ => exact Method.uses_throw _
  · exact Method.uses_pure _

theorem deployDatabaseContainer_harmless :
    (deployDatabaseContainer host payload).Uses Harmless := by
  apply Method.uses_bind (preflight_harmless host payload)
  intro _
  apply Method.uses_bind (Method.uses_ofExcept _)
  rintro ⟨resolved, spec⟩
  apply Method.uses_bind (request_harmless _)
  intro _
  apply Method.uses_bind (request_harmless _)
  intro _
  apply Method.uses_bind (request_harmless _)
  intro _
  apply Method.uses_bind (request_harmless _)
  exact fun _ => Method.uses_pure _

theorem runTaskContainer_harmless (options : TaskContainerOptions) :
    (runTaskContainer host options).Uses Harmless := by
  refine (runTaskContainer_calls host options).mono fun c hc => ?_
  cases c with
  | agent c => trivial
  | _ => exact hc.elim

theorem failReadiness_harmless {α : Type} (containerName message : String) :
    (failReadiness containerName message : HostAction α).Uses Harmless := by
  apply Method.uses_bind
  · apply Method.uses_bind (Method.uses_settle (request_harmless _))
    rintro (e | logs) <;> exact Method.uses_pure _
  · exact fun _ => Method.uses_throw _

theorem pollDatabaseReadiness_harmless (wait : DatabaseReadinessWait) {probe : HostAction Unit}
    (hprobe : probe.Uses Harmless) (deadline : ℤ) (fuel : ℕ) (evidence : CandidateRuntimeEvidence)
    (nextProbeAt : ℤ) (lastStatus : String) :
    (pollDatabaseReadiness wait probe deadline fuel evidence nextProbeAt lastStatus).Uses
      Harmless := by
  induction fuel generalizing evidence nextProbeAt lastStatus with
  | zero => exact Method.uses_cut
  | succ fuel ih =>
    apply Method.uses_bind (uses_now trivial)
    intro time
    split
    · apply Method.uses_bind (request_harmless _)
      rintro (_ | inspection)
      · exact Method.uses_throw _
      · dsimp only
        split
        · exact failReadiness_harmless _ _
        · apply Method.uses_bind (probeWhenDue_uses trivial hprobe)
          rintro ⟨ready, nextProbeAt⟩
          dsimp only
          split
          · exact Method.uses_pure _
          · exact Method.uses_bind (agent_harmless _) fun _ => ih _ _ _
    · exact failReadiness_harmless _ _

theorem handleDatabaseProvision_harmless :
    (handleDatabaseProvision host payload).Uses Harmless := by
  apply Method.uses_bind (deployDatabaseContainer_harmless host payload)
  rintro ⟨resolved, containerId⟩
  apply Method.uses_bind (Method.uses_ofExcept _)
  intro credentials
  apply Method.uses_bind
  · apply Method.uses_bind (uses_now trivial)
    intro time
    exact pollDatabaseReadiness_harmless _ (runTaskContainer_harmless host _) _ _ _ _ _
  · exact fun _ => Method.uses_pure _

theorem requireReplacement_harmless (volumeName : String) :
    (requireReplacement volumeName).Uses Harmless := by
  apply Method.uses_bind (request_harmless _)
  rintro (_ | volume)
  · exact Method.uses_throw _
  · exact Method.uses_pure _

theorem reprovisionDatabase_harmless : (reprovisionDatabase host payload).Uses Harmless := by
  apply Method.uses_bind (handleDatabaseProvision_harmless host payload)
  intro result
  apply Method.uses_bind (requireReplacement_harmless _)
  exact fun _ => Method.uses_pure _

theorem verifyVolumeAbsent_harmless (volumeName : String) :
    (verifyVolumeAbsent volumeName).Uses Harmless := by
  apply Method.uses_bind (request_harmless _)
  rintro (_ | volume)
  · exact Method.uses_pure _
  · exact Method.uses_throw _

theorem verifyContainerAbsent_harmless (identifier : Option String) :
    (verifyContainerAbsent identifier).Uses Harmless := by
  unfold verifyContainerAbsent
  split
  · exact Method.uses_pure _
  · apply Method.uses_bind (request_harmless _)
    rintro (_ | container)
    · exact Method.uses_pure _
    · exact Method.uses_throw _

end

section

variable {host : DatabaseHost} {volumeName : String} {generation : ℤ} {w w' : World} {σ α : Type}

structure Current (host : DatabaseHost) (volumeName : String) (generation : ℤ) (w : World) : Prop where
  inv : Inv (getVolumeWipeReceiptPath host.dataDir volumeName) volumeName w
  generation : w.generation = generation

def Fresh (generation : ℤ) (w : World) : Prop := .provisioning generation ∉ w.log

def Recorded (host : DatabaseHost) (volumeName : String) (generation : ℤ) (w : World) : Prop :=
  ∃ contents, w.files (getVolumeWipeReceiptPath host.dataDir volumeName) = some contents ∧
    VolumeWipeReceipt.ofContents contents = some ⟨volumeName, generation⟩

theorem Fresh.mark {m : Mark} (h : Fresh generation w) (hm : ∀ g, m ≠ .provisioning g) :
    Fresh generation (w.mark m) := by
  intro hmem
  rcases List.mem_cons.mp hmem with he | hmem
  · exact hm generation he.symm
  · exact h hmem

theorem Current.mark {m : Mark} (h : Current host volumeName generation w)
    (hm : ∀ g, m ≠ .provisioning g) (hremoving : ∀ g, m = .removing g → .provisioning g ∉ w.log) :
    Current host volumeName generation (w.mark m) :=
  ⟨h.inv.mark hm hremoving, h.generation⟩

theorem harmless_effect {c : HostCall} {r : Option c.Answer} (hc : Harmless c)
    (hm : effect volumeName w c r w') : w' = w ∨ w' = w.mark (.created w.generation) := by
  unfold effect at hm
  split at hm
  · exact hc.elim
  · split at hm
    · unfold CreateEffect at hm
      split at hm
      · exact .inr hm
      · exact .inl hm
    · exact .inl hm
  · exact .inl hm.1
  · exact hc.elim
  · exact .inl hm

theorem keeping_harmless {p : HostMethod σ α} {P : World → Prop} {s : σ} (hp : p.Uses Harmless)
    (hP : ∀ w, P w → P (w.mark (.created w.generation)))
    (hw : Current host volumeName generation w) (h : P w) :
    p.wp (effect volumeName) (Post.keeping (Current host volumeName generation) fun _ => P) s w := by
  refine hp.keeping (fun w c r w' hc hm hJ hPw => ?_) hw h
  obtain rfl | rfl := harmless_effect hc hm
  · exact ⟨hJ, hPw⟩
  · exact ⟨hJ.mark (fun g he => nomatch he) fun g he => (nomatch he), hP _ hPw⟩

theorem removeVolume_spec (hw : Current host volumeName generation w) (hfresh : Fresh generation w) :
    (removeVolume volumeName true).wp (effect volumeName)
      (Post.keeping (Current host volumeName generation) fun _ w =>
        Fresh generation w ∧ .removed generation ∈ w.log) () w := by
  obtain rfl := hw.generation
  have hremoving : Current host volumeName w.generation (w.mark (.removing w.generation)) :=
    hw.mark (fun g he => nomatch he) fun g he => by cases he; exact hfresh
  have hfresh' : Fresh w.generation (w.mark (.removing w.generation)) :=
    hfresh.mark fun g he => nomatch he
  refine (Method.wp_bind _ _).mpr ((Method.wp_ask _).mpr ⟨fun w' hm => ?_, ?_⟩)
  · simp only [effect, RemoveEffect, ↓reduceIte] at hm
    exact hm ▸ hremoving
  · rintro (e | answer) w' hm
    · simp only [effect, RemoveEffect, ↓reduceIte] at hm
      exact hm ▸ hremoving
    · simp only [effect, RemoveEffect, ↓reduceIte] at hm
      subst hm
      refine ⟨hremoving.mark (fun g he => nomatch he) fun g he => (nomatch he), ?_, ?_⟩
      · exact hfresh'.mark fun g he => nomatch he
      · exact List.mem_cons_self

theorem createVolume_spec {labels : TextRecord} (hw : Current host volumeName generation w)
    (hfresh : Fresh generation w) (hremoved : .removed generation ∈ w.log) :
    (request (.createVolume volumeName labels) : HostAction Unit).wp (effect volumeName)
      (Post.keeping (Current host volumeName generation) fun _ w =>
        Fresh generation w ∧ Replaced generation w.log) () w := by
  obtain rfl := hw.generation
  refine (wp_request _).mpr ⟨fun w' hm => ?_, fun e w' hm => ?_, fun _ w' hm => ?_⟩
  · simp only [effect, CreateEffect, ↓reduceIte] at hm
    exact hm ▸ hw
  · simp only [effect, CreateEffect, ↓reduceIte] at hm
    exact hm ▸ hw
  · simp only [effect, CreateEffect, ↓reduceIte] at hm
    subst hm
    refine ⟨hw.mark (fun g he => nomatch he) fun g he => (nomatch he), ?_, [], w.log, rfl, hremoved⟩
    exact hfresh.mark fun g he => nomatch he

theorem Current.file {files : Files} (hw : Current host volumeName generation w)
    (hfiles : files (getVolumeWipeReceiptPath host.dataDir volumeName) =
      w.files (getVolumeWipeReceiptPath host.dataDir volumeName)) :
    Current host volumeName generation { w with files } :=
  ⟨hw.inv.files (.inl hfiles), hw.generation⟩

theorem temporaryPath_ne (path : String) : path ++ ".tmp" ≠ path := by
  intro h
  have hlength := congrArg String.length h
  simp at hlength

theorem update_temporaryPath (files : Files) (path : String) (left : Option FileContents) :
    Function.update files (path ++ ".tmp") left path = files path :=
  Function.update_of_ne (temporaryPath_ne path).symm _ _

theorem file_spec {step : FileStep} {P : World → Prop}
    (hJ : ∀ files, step.Takes w.files files ∨ step.Fails w.files files →
      Current host volumeName generation { w with files })
    (hP : ∀ files, step.Takes w.files files → P { w with files }) :
    (file step : HostAction Unit).wp (effect volumeName)
      (Post.keeping (Current host volumeName generation) fun _ => P) () w := by
  refine (wp_file step).mpr ⟨?_, ?_, ?_⟩
  · rintro w' ⟨files, rfl, he⟩
    exact hJ files he
  · rintro e w' ⟨files, rfl, he⟩
    exact hJ files he
  · rintro w' ⟨files, rfl, he⟩
    exact ⟨hJ files (.inl he), hP files he⟩

theorem writeVolumeWipeReceipt_spec (workItemId : Option String)
    (hw : Current host volumeName generation w) (hreplaced : Replaced generation w.log) :
    (writeVolumeWipeReceipt host.dataDir ⟨volumeName, generation⟩ workItemId).wp (effect volumeName)
      (Post.keeping (Current host volumeName generation) fun _ =>
        Recorded host volumeName generation) () w := by
  apply Method.keeping_bind (T := fun _ w => Replaced generation w.log)
  · apply file_spec
    · rintro files (he | he) <;> exact hw.file (by rw [he])
    · exact fun _ _ => hreplaced
  intro _ w hw hreplaced
  apply Method.keeping_bind (T := fun _ w => Replaced generation w.log)
  · exact keeping_harmless (uses_now trivial) (fun w h => h.cons _) hw hreplaced
  intro recordedAt w hw hreplaced
  apply Method.keeping_bind (T := fun _ w => Replaced generation w.log ∧
    w.files (getVolumeWipeReceiptPath host.dataDir volumeName ++ ".tmp") =
      some (VolumeWipeReceipt.contents ⟨volumeName, generation⟩ workItemId recordedAt))
  · apply file_spec
    · rintro files (rfl | ⟨left, rfl⟩) <;> exact hw.file (update_temporaryPath _ _ _)
    · rintro files rfl
      exact ⟨hreplaced, Function.update_self _ _ _⟩
  rintro _ w hw ⟨hreplaced, htemporary⟩
  have hstored : ∀ files, FileStep.Takes
      (.rename (getVolumeWipeReceiptPath host.dataDir volumeName ++ ".tmp")
        (getVolumeWipeReceiptPath host.dataDir volumeName)) w.files files →
      files (getVolumeWipeReceiptPath host.dataDir volumeName) =
        some (VolumeWipeReceipt.contents ⟨volumeName, generation⟩ workItemId recordedAt) := by
    rintro files ⟨contents, hc, rfl⟩
    rw [Function.update_self]
    exact hc.symm.trans htemporary
  apply file_spec
  · rintro files (he | rfl)
    · obtain rfl := hw.generation
      exact ⟨hw.inv.record (hstored files he) (VolumeWipeReceipt.ofContents_contents _ _ _)
        hreplaced, rfl⟩
    · exact hw
  · exact fun files he => ⟨_, hstored files he, VolumeWipeReceipt.ofContents_contents _ _ _⟩

theorem Current.fresh (hw : Current host volumeName generation w)
    (h : ∀ contents, w.files (getVolumeWipeReceiptPath host.dataDir volumeName) = some contents →
      ∃ receipt, VolumeWipeReceipt.ofContents contents = some receipt ∧
        receipt ≠ ⟨volumeName, generation⟩) : Fresh generation w := by
  intro hmem
  cases hs : w.files (getVolumeWipeReceiptPath host.dataDir volumeName) with
  | none => exact hw.inv.absent hs generation hmem
  | some contents =>
    obtain ⟨receipt, hc, hne⟩ := h contents hs
    obtain ⟨hname, hle, -, hlast⟩ := hw.inv.recorded contents receipt hs hc
    apply hne
    have hgeneration := hw.generation
    have hg := hlast generation hmem
    cases receipt
    dsimp only at hname hle hg
    congr 1
    omega

theorem parseVolumeWipeReceipt_ok {receiptPath : String} {contents : FileContents}
    {found : Option VolumeWipeReceipt} (h : parseVolumeWipeReceipt receiptPath contents = .ok found) :
    ∃ receipt, VolumeWipeReceipt.ofContents contents = some receipt ∧ found = some receipt := by
  unfold parseVolumeWipeReceipt at h
  split at h
  · cases h
  · next hc => exact ⟨_, hc, (Except.ok.inj h).symm⟩
  · cases h

theorem parseVolumeWipeReceipt_none (receiptPath : String) {contents : FileContents}
    (h : VolumeWipeReceipt.ofContents contents = none) :
    ∃ message, parseVolumeWipeReceipt receiptPath contents = .error (.error message) := by
  unfold parseVolumeWipeReceipt
  split
  · exact ⟨_, rfl⟩
  · next hc => cases h.symm.trans hc
  · exact ⟨_, rfl⟩

theorem readVolumeWipeReceipt_spec (hw : Current host volumeName generation w) :
    (readVolumeWipeReceipt host.dataDir volumeName).wp (effect volumeName)
      (Post.keeping (Current host volumeName generation) fun found w =>
        (found = some ⟨volumeName, generation⟩ → Recorded host volumeName generation w) ∧
        (found ≠ some ⟨volumeName, generation⟩ → Fresh generation w)) () w := by
  refine (Method.wp_bind _ _).mpr ((Method.wp_ask _).mpr ⟨?_, ?_⟩)
  · rintro w' ⟨rfl, -⟩
    exact hw
  rintro (e | contents) w' ⟨rfl, hread, habsent⟩
  · dsimp only
    split
    · next hcode =>
      have hnone := habsent e rfl hcode
      refine ⟨hw, fun he => (nomatch he), fun _ => hw.fresh fun contents hs => ?_⟩
      cases hnone.symm.trans hs
    · exact hw
  · have hs := hread contents rfl
    refine (Method.wp_ofExcept _).mpr ⟨fun found hf => ?_, fun _ _ => hw⟩
    obtain ⟨receipt, hc, rfl⟩ := parseVolumeWipeReceipt_ok hf
    refine ⟨hw, fun he => ⟨contents, hs, hc.trans he⟩, fun hne => hw.fresh fun contents' hs' => ?_⟩
    cases hs.symm.trans hs'
    exact ⟨receipt, hc, fun he => hne (congrArg some he)⟩

theorem alreadyReplaced_spec (hw : Current host volumeName generation w) :
    (alreadyReplaced host.dataDir volumeName (some generation)).wp (effect volumeName)
      (Post.keeping (Current host volumeName generation) fun replaced w =>
        (replaced = true → Recorded host volumeName generation w) ∧
        (replaced = false → Fresh generation w)) () w := by
  refine Method.keeping_bind (readVolumeWipeReceipt_spec hw) fun found w hw h => ⟨hw, ?_, ?_⟩
  · exact fun hr => h.1 (of_decide_eq_true hr)
  · exact fun hr => h.2 (of_decide_eq_false hr)

theorem replaceVolume_spec {labels : TextRecord} {workItemId : Option String}
    (hw : Current host volumeName generation w) (hfresh : Fresh generation w) :
    (replaceVolume host.dataDir volumeName labels (some generation) workItemId).wp
      (effect volumeName) (Post.keeping (Current host volumeName generation) fun _ =>
        Recorded host volumeName generation) () w := by
  apply Method.keeping_bind (removeVolume_spec hw hfresh)
  rintro _ w hw ⟨hfresh, hremoved⟩
  apply Method.keeping_bind (T := fun _ w => Fresh generation w ∧ .removed generation ∈ w.log)
  · refine keeping_harmless (verifyVolumeAbsent_harmless _) (fun w h => ?_) hw ⟨hfresh, hremoved⟩
    exact ⟨h.1.mark fun g he => (nomatch he), List.mem_cons_of_mem _ h.2⟩
  rintro _ w hw ⟨hfresh, hremoved⟩
  apply Method.keeping_bind (createVolume_spec hw hfresh hremoved)
  rintro _ w hw ⟨-, hreplaced⟩
  exact writeVolumeWipeReceipt_spec workItemId hw hreplaced

theorem unlessReplaced_spec {replaced : Bool} {destroy : HostAction Unit}
    (hw : Current host volumeName generation w)
    (hreplaced : replaced = true → Recorded host volumeName generation w)
    (hdestroy : replaced = false → destroy.wp (effect volumeName)
      (Post.keeping (Current host volumeName generation) fun _ =>
        Recorded host volumeName generation) () w) :
    (unlessReplaced replaced destroy).wp (effect volumeName)
      (Post.keeping (Current host volumeName generation) fun _ =>
        Recorded host volumeName generation) () w := by
  cases replaced with
  | true => exact ⟨hw, hreplaced rfl⟩
  | false => exact hdestroy rfl

theorem wipeDetachedVolume_spec {payload : DeleteVolumePayload} {workItemId : Option String}
    (hname : payload.volumeName = volumeName)
    (hgeneration : readPayloadRepositoryGeneration payload.pgbackrestRepositoryGeneration =
      some generation) (hw : Current host volumeName generation w) :
    (wipeDetachedVolume host payload workItemId).wp (effect volumeName)
      (Post.keeping (Current host volumeName generation) fun _ _ => True) () w := by
  subst hname
  unfold wipeDetachedVolume
  simp only [hgeneration]
  apply Method.keeping_bind (alreadyReplaced_spec hw)
  rintro replaced w hw ⟨hrecorded, hfresh⟩
  apply Method.keeping_bind
  · exact unlessReplaced_spec hw hrecorded fun hr => replaceVolume_spec hw (hfresh hr)
  intro _ w hw _
  apply Method.keeping_bind (T := fun _ _ => True)
  · exact keeping_harmless (requireReplacement_harmless _) (fun _ h => h) hw trivial
  · exact fun _ w hw h => ⟨hw, h⟩

theorem destroyDatabaseVolume_spec {payload : DatabaseProvisionPayload} {workItemId : Option String}
    (hname : payload.volumeName = volumeName)
    (hgeneration : readPayloadRepositoryGeneration payload.pgbackrestRepositoryGeneration =
      some generation) (hw : Current host volumeName generation w) (hfresh : Fresh generation w) :
    (destroyDatabaseVolume host payload workItemId).wp (effect volumeName)
      (Post.keeping (Current host volumeName generation) fun _ =>
        Recorded host volumeName generation) () w := by
  subst hname
  unfold destroyDatabaseVolume
  simp only [hgeneration]
  apply Method.keeping_bind (T := fun _ => Fresh generation)
  · refine keeping_harmless ?_ (fun w h => h.mark fun g he => nomatch he) hw hfresh
    exact Method.uses_forEach fun target _ => request_harmless _
  intro _ w hw hfresh
  apply Method.keeping_bind (T := fun _ => Fresh generation)
  · refine keeping_harmless ?_ (fun w h => h.mark fun g he => nomatch he) hw hfresh
    exact Method.uses_forEach fun target _ => verifyContainerAbsent_harmless (some target)
  intro _ w hw hfresh
  exact replaceVolume_spec hw hfresh

theorem wipeDatabaseVolume_spec {payload : DatabaseProvisionPayload} {workItemId : Option String}
    (hname : payload.volumeName = volumeName)
    (hgeneration : readPayloadRepositoryGeneration payload.pgbackrestRepositoryGeneration =
      some generation) (hw : Current host volumeName generation w) :
    (wipeDatabaseVolume host payload workItemId).wp (effect volumeName)
      (Post.keeping (Current host volumeName generation) fun _ =>
        Recorded host volumeName generation) () w := by
  subst hname
  unfold wipeDatabaseVolume
  simp only [hgeneration]
  apply Method.keeping_bind (alreadyReplaced_spec hw)
  intro replaced w hw h
  apply Method.keeping_bind (T := fun _ w =>
    (replaced = true → Recorded host payload.volumeName generation w) ∧
    (replaced = false → Fresh generation w))
  · refine keeping_harmless (preflight_harmless host payload) (fun w h => ?_) hw h
    exact ⟨h.1, fun hr => (h.2 hr).mark fun g he => nomatch he⟩
  rintro _ w hw ⟨hrecorded, hfresh⟩
  exact unlessReplaced_spec hw hrecorded fun hr =>
    destroyDatabaseVolume_spec rfl hgeneration hw (hfresh hr)

theorem reprovisionDatabase_spec {payload : DatabaseProvisionPayload}
    (hw : Current host volumeName generation w) :
    (reprovisionDatabase host payload).wp (effect volumeName)
      (Post.keeping (Current host volumeName generation) fun _ _ => True) () w :=
  keeping_harmless (reprovisionDatabase_harmless host payload) (fun _ h => h) hw trivial

theorem current_exec {p : HostAction α} {R : α → World → Prop} {o : Outcome (Except Failure α × Unit)}
    (hp : p.wp (effect volumeName) (Post.keeping (Current host volumeName generation) R) () w)
    (hrun : Program.Exec (effect volumeName) (p ()) w o w') :
    Current host volumeName generation w' ∧ ∀ a, o = .done (.ok a, ()) → R a w' := by
  have hend := Program.wp_sound hp hrun
  rcases o with ⟨e | a, ⟨⟩⟩ | _
  · exact ⟨hend, fun a ha => nomatch ha⟩
  · exact ⟨hend.1, fun b hb => by cases hb; exact hend.2⟩
  · exact ⟨hend, fun a ha => nomatch ha⟩

theorem Current.attempt (hw : Current host volumeName generation w)
    (ha : Attempt host volumeName generation w w') : Current host volumeName generation w' := by
  cases ha with
  | volume hname hgeneration hrun =>
    exact (current_exec (wipeDetachedVolume_spec hname hgeneration hw) hrun).1
  | unprepared hname hgeneration hrun _ =>
    exact (current_exec (wipeDatabaseVolume_spec hname hgeneration hw) hrun).1
  | database hname hgeneration hwipe hrun =>
    obtain ⟨hw, hrecorded⟩ := current_exec (wipeDatabaseVolume_spec hname hgeneration hw) hwipe
    obtain ⟨contents, hs, hc⟩ := hrecorded () rfl
    obtain rfl := hw.generation
    have hprovisioning : Current host volumeName _ (World.mark _ (.provisioning _)) :=
      ⟨hw.inv.provisioning hs hc, rfl⟩
    exact (current_exec (reprovisionDatabase_spec hprovisioning) hrun).1

end

theorem Reachable.inv {dataDir volumeName : String} {w : World}
    (h : Reachable dataDir volumeName w) :
    Inv (getVolumeWipeReceiptPath dataDir volumeName) volumeName w := by
  induction h with
  | initial files generation h =>
    constructor
    · exact fun later g earlier hl => by simp at hl
    · exact fun g hg => nomatch hg
    · exact fun _ g hg => nomatch hg
    · exact fun contents receipt hs => nomatch h.symm.trans hs
  | damaged contents _ hstored hcontents ih =>
    exact ih.files (.inr ⟨hstored, contents, Function.update_self _ _ _, hcontents⟩)
  | attempt _ hdataDir hgeneration ha ih =>
    subst hdataDir
    exact (Current.attempt ⟨ih.advance hgeneration, rfl⟩ ha).inv

/-- The answers to the reading of a receipt that say nothing of what was done. -/
def Unusable : Except FileError FileContents → Prop
  | .error e => e.code ≠ some "ENOENT"
  | .ok contents => VolumeWipeReceipt.ofContents contents = none

def ReadsFirst {α : Type} (path : String) (p : HostAction α) : Prop :=
  ∃ next, p () = .call (.readFile path) next ∧
    ∀ answer, Unusable answer → ∃ message, next answer = .ret (.error (.error message), ())

theorem ReadsFirst.bind {α β : Type} {path : String} {p : HostAction α} (f : α → HostAction β)
    (h : ReadsFirst path p) : ReadsFirst path (Method.bind p f) := by
  obtain ⟨next, hp, hnext⟩ := h
  refine ⟨_, by rw [Method.bind, hp]; rfl, fun answer hunusable => ?_⟩
  obtain ⟨message, hm⟩ := hnext answer hunusable
  exact ⟨message, by rw [hm]; rfl⟩

theorem readVolumeWipeReceipt_readsFirst (dataDir volumeName : String) :
    ReadsFirst (getVolumeWipeReceiptPath dataDir volumeName)
      (readVolumeWipeReceipt dataDir volumeName) := by
  refine ⟨_, rfl, ?_⟩
  rintro (e | contents) hunusable
  · refine ⟨"Volume wipe receipt " ++ getVolumeWipeReceiptPath dataDir volumeName ++
      " could not be read: " ++ e.text, ?_⟩
    simp only [Program.bind]
    rw [if_neg hunusable]
    rfl
  · obtain ⟨message, hm⟩ := parseVolumeWipeReceipt_none
      (getVolumeWipeReceiptPath dataDir volumeName) hunusable
    refine ⟨message, ?_⟩
    simp only [Program.bind]
    rw [hm]
    rfl

theorem handleWipeVolume_readsFirst (host : DatabaseHost) {payload : WipeVolumePayload}
    (workItemId : Option String) (h : payload.repositoryGeneration ≠ none) :
    ReadsFirst (getVolumeWipeReceiptPath host.dataDir payload.managedVolumeName)
      (handleWipeVolume host payload workItemId) := by
  have halready (volumeName : String) {generation : Option ℤ} (hg : generation ≠ none) :
      ReadsFirst (getVolumeWipeReceiptPath host.dataDir volumeName)
        (alreadyReplaced host.dataDir volumeName generation) := by
    cases generation with
    | none => exact absurd rfl hg
    | some generation => exact (readVolumeWipeReceipt_readsFirst host.dataDir volumeName).bind _
  cases payload with
  | volume payload => exact (halready payload.volumeName h).bind _
  | database payload => exact ((halready payload.volumeName h).bind _).bind _

/-- Once a generation provisions it removes the volume no more, and before that it replaced the
volume. An attempt that cannot use the receipt does nothing but read it. -/
theorem wipe_replaces_each_generation_once (dataDir volumeName : String) :
    (∀ w, Reachable dataDir volumeName w → ∀ later generation earlier,
      w.log = later ++ .provisioning generation :: earlier →
        .removing generation ∉ later ∧ Replaced generation earlier) ∧
    ∀ (host : DatabaseHost) (payload : WipeVolumePayload) (workItemId : Option String),
      payload.repositoryGeneration ≠ none →
        ∃ next, handleWipeVolume host payload workItemId () =
            .call (.readFile (getVolumeWipeReceiptPath host.dataDir payload.managedVolumeName)) next ∧
          ∀ answer, Unusable answer →
            ∃ message, next answer = .ret (.error (.error message), ()) := by
  constructor
  · exact fun w hw => hw.inv.safe
  · exact fun host payload workItemId h => handleWipeVolume_readsFirst host workItemId h

section

variable {volumeName : String} {w : World}

theorem exec_request {r : Request} {a : r.Result} {w' : World}
    (h : effect volumeName w (.agent (.request r)) (some (.ok a)) w') :
    Program.Exec (effect volumeName) (request r ()) w (.done (.ok a, ())) w' :=
  .call (r := .ok a) h (.ret _ _)

theorem exec_removeVolume : Program.Exec (effect volumeName) (removeVolume volumeName true ()) w
    (.done (.ok (), ())) ((w.mark (.removing w.generation)).mark (.removed w.generation)) := by
  have he : effect volumeName w (.removeVolume volumeName true) (some (.ok ()))
      ((w.mark (.removing w.generation)).mark (.removed w.generation)) := by
    simp [effect, RemoveEffect]
  exact .call he (.ret _ _)

theorem exec_createVolume {labels : TextRecord} :
    Program.Exec (effect volumeName) (request (.createVolume volumeName labels) ()) w
      (.done (.ok (), ())) (w.mark (.created w.generation)) := by
  have he : effect volumeName w (.agent (.request (.createVolume volumeName labels)))
      (some (.ok ())) (w.mark (.created w.generation)) := by simp [effect, CreateEffect]
  exact exec_request he

theorem exec_file {step : FileStep} {files : Files} (h : step.Takes w.files files) :
    Program.Exec (effect volumeName) (file step ()) w (.done (.ok (), ())) { w with files } := by
  have he : effect volumeName w (.file step) (some (.ok ())) { w with files } := ⟨files, rfl, h⟩
  exact .call he (.ret _ _)

theorem exec_write (volumeName dataDir : String) (receipt : VolumeWipeReceipt) : ∃ files,
    files (getVolumeWipeReceiptPath dataDir receipt.volumeName) = some (receipt.contents none 0) ∧
    Program.Exec (effect volumeName) (writeVolumeWipeReceipt dataDir receipt none ()) w
      (.done (.ok (), ())) { w with files } := by
  have hnow (w : World) : Program.Exec (effect volumeName) (now ()) w (.done (.ok 0, ())) w :=
    .call (r := (0 : ℤ)) rfl (.ret _ _)
  refine ⟨_, ?_, Method.exec_bind (exec_file rfl) (Method.exec_bind (hnow _)
    (Method.exec_bind (exec_file rfl)
      (exec_file ⟨receipt.contents none 0, Function.update_self _ _ _, rfl⟩)))⟩
  exact Function.update_self _ _ _

theorem exec_alreadyReplaced (receipt : VolumeWipeReceipt) {dataDir : String}
    (h : w.files (getVolumeWipeReceiptPath dataDir receipt.volumeName) =
      some (receipt.contents none 0)) :
    Program.Exec (effect volumeName)
      (alreadyReplaced dataDir receipt.volumeName (some receipt.repositoryGeneration) ()) w
      (.done (.ok true, ())) w := by
  have hread : effect volumeName w (.readFile (getVolumeWipeReceiptPath dataDir receipt.volumeName))
      (some (.ok (receipt.contents none 0))) w := by
    refine ⟨rfl, ?_, fun e he => nomatch he⟩
    rintro contents ⟨⟩
    exact h
  have hparse : parseVolumeWipeReceipt (getVolumeWipeReceiptPath dataDir receipt.volumeName)
      (receipt.contents none 0) = .ok (some receipt) := by
    unfold parseVolumeWipeReceipt
    rw [VolumeWipeReceipt.ofContents_contents]
    rfl
  have hreceipt : Program.Exec (effect volumeName)
      (readVolumeWipeReceipt dataDir receipt.volumeName ()) w (.done (.ok (some receipt), ())) w := by
    refine Method.exec_bind (.call (r := .ok (receipt.contents none 0)) hread (.ret _ _)) ?_
    change Program.Exec _ (Method.ofExcept (parseVolumeWipeReceipt _ _) ()) _ _ _
    rw [hparse]
    exact .ret _ _
  have hfound : hasReplacedVolumeForGeneration (some receipt) receipt.volumeName
      receipt.repositoryGeneration = true := decide_eq_true rfl
  refine Method.exec_bind hreceipt ?_
  rw [hfound]
  exact .ret _ _

end

def wipedHost : DatabaseHost :=
  { config := { serverId := "server", appDomain := "app", dataVolume := "nouva-data"
                traefikContainerName := "traefik", imageStoreMode := .dockerLocal
                clientIngressPlaceholderUrl := none, hashProjectNetwork := id
                createBuildLogRedactor := fun _ _ text => text }
    ownsPublicPort := fun _ _ => false
    dataDir := "/data", fuel := 0 }

def wipedPayload : DatabaseProvisionPayload :=
  { projectId := "project", serviceId := "service", serviceName := "database", variant := .postgres
    volumeId := "id", volumeName := "volume", mountPath := "/var/lib", imageUrl := none
    envVars := none, containerArgs := none, dataPath := none, internalPort := 5432
    externalHost := none, externalPort := none, publicAccessEnabled := false
    pgbackrestRepositoryGeneration := some 1 }

theorem wipedPayload_generation :
    readPayloadRepositoryGeneration wipedPayload.pgbackrestRepositoryGeneration = some 1 := by
  decide +kernel

theorem wipedPayload_wiped : ∃ files,
    files (getVolumeWipeReceiptPath "/data" "volume") =
      some (VolumeWipeReceipt.contents ⟨"volume", 1⟩ none 0) ∧
    Program.Exec (effect "volume") (wipeDatabaseVolume wipedHost wipedPayload none ())
      ⟨fun _ => none, 1, []⟩ (.done (.ok (), ())) ⟨files, 1, [.created 1, .removed 1, .removing 1]⟩ := by
  have hread : Program.Exec (effect "volume")
      (alreadyReplaced wipedHost.dataDir "volume" (some 1) ()) ⟨fun _ => none, 1, []⟩
      (.done (.ok false, ())) ⟨fun _ => none, 1, []⟩ := by
    refine .call (r := .error ⟨⟨true, "no such file", none⟩, some "ENOENT"⟩) ?_ (.ret _ _)
    exact ⟨rfl, fun contents hc => (nomatch hc), fun _ _ _ => rfl⟩
  have htargets : containerTargets wipedPayload = ["nouva-postgres-service"] := by decide +kernel
  obtain ⟨files, hfile, hwrite⟩ := exec_write "volume" wipedHost.dataDir ⟨"volume", 1⟩
    (w := ⟨fun _ => none, 1, [.created 1, .removed 1, .removing 1]⟩)
  refine ⟨files, hfile, Method.exec_bind hread (Method.exec_bind (.ret _ _) ?_)⟩
  change Program.Exec _ (destroyDatabaseVolume wipedHost wipedPayload none ()) _ _ _
  unfold destroyDatabaseVolume
  rw [htargets]
  refine Method.exec_bind (Method.exec_bind (exec_request (a := ()) rfl) (.ret _ _)) ?_
  refine Method.exec_bind (Method.exec_bind (Method.exec_bind (exec_request (a := none) rfl) (.ret _ _)) (.ret _ _)) ?_
  refine Method.exec_bind exec_removeVolume ?_
  refine Method.exec_bind (Method.exec_bind (exec_request (a := none) rfl) (.ret _ _)) ?_
  refine Method.exec_bind exec_createVolume ?_
  rw [wipedPayload_generation]
  exact hwrite

theorem wipedPayload_retried {files : Files} {log : List Mark}
    (h : files (getVolumeWipeReceiptPath "/data" "volume") =
      some (VolumeWipeReceipt.contents ⟨"volume", 1⟩ none 0)) :
    Program.Exec (effect "volume") (wipeDatabaseVolume wipedHost wipedPayload none ())
      ⟨files, 1, log⟩ (.done (.ok (), ())) ⟨files, 1, log⟩ := by
  have hread : Program.Exec (effect "volume")
      (alreadyReplaced wipedHost.dataDir "volume" (some 1) ()) ⟨files, 1, log⟩
      (.done (.ok true, ())) ⟨files, 1, log⟩ := exec_alreadyReplaced ⟨"volume", 1⟩ h
  exact Method.exec_bind hread (Method.exec_bind (.ret _ _) (.ret _ _))

theorem wipedPayload_reached : ∃ w, Reachable "/data" "volume" w ∧
    w.log = [.provisioning 1, .provisioning 1, .created 1, .removed 1, .removing 1] := by
  obtain ⟨files, hfile, hwiped⟩ := wipedPayload_wiped
  have hfirst : Attempt wipedHost "volume" 1 ⟨fun _ => none, 1, []⟩
      ⟨files, 1, [.provisioning 1, .created 1, .removed 1, .removing 1]⟩ :=
    .database rfl wipedPayload_generation hwiped (.ret _ _)
  have hsecond : Attempt wipedHost "volume" 1
      ⟨files, 1, [.provisioning 1, .created 1, .removed 1, .removing 1]⟩
      ⟨files, 1, [.provisioning 1, .provisioning 1, .created 1, .removed 1, .removing 1]⟩ :=
    .database rfl wipedPayload_generation (wipedPayload_retried hfile) (.ret _ _)
  have hreached := Reachable.attempt (.initial (fun _ => none) 1 rfl) rfl (le_refl _) hfirst
  exact ⟨_, hreached.attempt rfl (le_refl _) hsecond, rfl⟩

theorem wipe_replaces_each_generation_once_wiped : ∃ w : World,
    w.log = [.provisioning 1, .provisioning 1, .created 1, .removed 1, .removing 1] ∧
      .removing 1 ∉ [Mark.provisioning 1] ∧ Replaced 1 [.created 1, .removed 1, .removing 1] ∧
      ∃ next, handleWipeVolume wipedHost (.database wipedPayload) none () =
          .call (.readFile (getVolumeWipeReceiptPath "/data" "volume")) next ∧
        ∃ message, next (.ok (.broken "Unexpected end")) = .ret (.error (.error message), ()) := by
  obtain ⟨w, hreached, hlog⟩ := wipedPayload_reached
  obtain ⟨hsafe, hreads⟩ := wipe_replaces_each_generation_once "/data" "volume"
  have hgeneration : (WipeVolumePayload.database wipedPayload).repositoryGeneration ≠ none := by
    decide +kernel
  obtain ⟨next, hnext, hunusable⟩ := hreads wipedHost (.database wipedPayload) none hgeneration
  obtain ⟨hno, hreplaced⟩ := hsafe w hreached [.provisioning 1] 1 _ hlog
  exact ⟨w, hlog, hno, hreplaced, next, hnext, hunusable (.ok (.broken "Unexpected end")) rfl⟩

end NouvaAgent.VolumeWipeProtocol
