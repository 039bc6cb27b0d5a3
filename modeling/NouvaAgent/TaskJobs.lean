import NouvaAgent.HelperTasks
import NouvaAgent.HostTriples
import NouvaAgent.Interaction.Ledger
import NouvaAgent.VolumeWipe

namespace NouvaAgent

open Interaction Host HelperTasks DatabaseProvision

/-- What a piece of work may do that runs tasks: which tasks, after what; what they may write to; the
volume that it makes for good, and the one that is there for its tasks only. -/
structure TaskJob where
  runs : TaskContainerOptions → HostHistory → Prop
  kept : ∀ options e h, runs options h → runs options (e :: h)
  writes : String → Prop
  target : Option (String × TextRecord) := none
  stage : Option (String × TextRecord) := none

namespace TaskJob

open Method

inductive Scratch
  | container (id : String)
  | volume (name : String)
  deriving DecidableEq, Repr

variable (host : DatabaseHost) (job : TaskJob)

def makes : HostEvent → Option Scratch
  | ⟨.agent (.request (.createContainer _)), some (.ok id)⟩ => some (.container id)
  | ⟨.agent (.request (.createVolume name labels)), some (.ok _)⟩ =>
    if job.stage = some (name, labels) then some (.volume name) else none
  | _ => none

def removes : HostCall → Option Scratch
  | .agent (.request (.removeContainer id _ _)) => some (.container id)
  | .removeVolume name _ => some (.volume name)
  | _ => none

def succeeded : HostEvent → Bool
  | ⟨.agent (.request (.removeContainer _ _ _)), some (.ok _)⟩ => true
  | ⟨.removeVolume _ _, some (.ok _)⟩ => true
  | _ => false

def asked : Ledger HostCall.Answer Scratch := ⟨job.makes, fun e => removes e.call⟩

def removed : Ledger HostCall.Answer Scratch :=
  ⟨job.makes, fun e => if succeeded e then removes e.call else none⟩

def Created (id : String) (h : HostHistory) : Prop :=
  ∃ spec, ⟨.agent (.request (.createContainer spec)), some (.ok id)⟩ ∈ h

def Made (options : TaskContainerOptions) (id : String) (h : HostHistory) : Prop :=
  ∃ env files, separatePgBackrestCredentials options.env = .ok (env, files) ∧
    ⟨.agent (.request (.createContainer (taskContainerSpec host options env))), some (.ok id)⟩ ∈ h

/-- A task with these options ran to an exit status of 0 and left these logs; they are empty where
they could not be read. -/
def Exited (options : TaskContainerOptions) (logs : String) (h : HostHistory) : Prop :=
  ∃ id, Made host options id h ∧
    ⟨.agent (.request (.startContainer id)), some (.ok ())⟩ ∈ h ∧
    ⟨.agent (.request (.waitContainer id options.timeoutMs)), some (.ok 0)⟩ ∈ h ∧
    (⟨.agent (.request (.containerLogs id)), some (.ok logs)⟩ ∈ h ∨ logs = "")

def Permitted (e : HostEvent) (before : HostHistory) : Prop :=
  match e.call with
  | .agent (.request (.createContainer spec)) =>
    (∃ options env files, job.runs options before ∧
      separatePgBackrestCredentials options.env = .ok (env, files) ∧
      spec = taskContainerSpec host options env) ∧
    (∀ mount ∈ spec.mounts, mount.readOnly = false → job.writes mount.source) ∧
    ∀ id, .container id ∉ job.removed.outstanding before
  | .agent (.request (.startContainer id)) | .agent (.request (.waitContainer id _))
  | .agent (.request (.containerLogs id)) => Created id before
  | .agent (.request (.removeContainer name force _)) => force = true ∧
      (Created name before ∨ ∃ options, job.runs options before ∧ name = options.name)
  | .agent (.request (.createVolume name labels)) =>
    job.target = some (name, labels) ∨ job.stage = some (name, labels)
  | .removeVolume name force => force = true ∧ ∃ labels, job.stage = some (name, labels)
  | .agent (.request (.pullImage _)) | .agent (.request (.inspectContainer _)) | .agent .now => True
  | _ => False

def Standing (scratch : List Scratch) (h : HostHistory) : Prop :=
  job.asked.outstanding h = scratch ∧ job.removed.outstanding h = scratch

def Unasked (scratch : List Scratch) (h : HostHistory) : Prop := job.asked.outstanding h = scratch

variable {host : DatabaseHost} {job : TaskJob} {h : HostHistory} {e : HostEvent}
  {scratch : List Scratch}

theorem Made.created {options : TaskContainerOptions} {id : String} (hm : Made host options id h) :
    Created id h := by
  obtain ⟨env, _, _, hmem⟩ := hm
  exact ⟨_, hmem⟩

theorem Made.cons {options : TaskContainerOptions} {id : String} (hm : Made host options id h) :
    Made host options id (e :: h) := by
  obtain ⟨env, files, henv, hmem⟩ := hm
  exact ⟨env, files, henv, List.mem_cons_of_mem _ hmem⟩

theorem persistent_exited (options : TaskContainerOptions) (logs : String) :
    Persistent recording (Exited host options logs) := by
  apply persistent_recording
  rintro e h ⟨id, hmade, hstart, hwait, hlogs⟩
  exact ⟨id, hmade.cons, List.mem_cons_of_mem _ hstart, List.mem_cons_of_mem _ hwait,
    hlogs.imp_left (List.mem_cons_of_mem _)⟩

theorem persistent_runs (options : TaskContainerOptions) :
    Persistent recording (job.runs options) :=
  persistent_recording fun e h hr => job.kept options e h hr

theorem Standing.aside (hs : job.Standing scratch h) (hmakes : job.makes e = none)
    (hremoves : ∀ k ∈ scratch, removes e.call ≠ some k) : job.Standing scratch (e :: h) := by
  constructor
  · rw [Ledger.outstanding_aside hmakes, hs.1]
    rw [hs.1]
    exact hremoves
  · rw [Ledger.outstanding_aside hmakes, hs.2]
    rw [hs.2]
    intro k hk
    show (if succeeded e then removes e.call else none) ≠ some k
    split
    · exact hremoves k hk
    · exact nofun

theorem Standing.made (hs : job.Standing scratch h) {k : Scratch} (hmakes : job.makes e = some k)
    (hremoves : removes e.call = none) : job.Standing (k :: scratch) (e :: h) := by
  constructor
  · rw [Ledger.outstanding_made hmakes hremoves, hs.1]
  · rw [Ledger.outstanding_made hmakes, hs.2]
    show (if succeeded e then removes e.call else none) = none
    rw [hremoves, ite_self]

theorem Unasked.removed {k : Scratch} (hu : job.Unasked (k :: scratch) h)
    (hmakes : job.makes e = none) (hremoves : removes e.call = some k) (hk : k ∉ scratch) :
    job.Unasked scratch (e :: h) :=
  Ledger.outstanding_returned hmakes hremoves hu hk

theorem Standing.removed {k : Scratch} (hs : job.Standing (k :: scratch) h)
    (hmakes : job.makes e = none) (hremoves : removes e.call = some k) (hk : k ∉ scratch)
    (hsucceeded : succeeded e = true) : job.Standing scratch (e :: h) := by
  constructor
  · exact Unasked.removed hs.1 hmakes hremoves hk
  · apply Ledger.outstanding_returned hmakes _ hs.2 hk
    show (if succeeded e then removes e.call else none) = some k
    rw [if_pos hsucceeded, hremoves]

def Volumes (scratch : List Scratch) : Prop := ∀ k ∈ scratch, ∃ name, k = .volume name

theorem Volumes.not_container (hv : Volumes scratch) (id : String) : .container id ∉ scratch := by
  intro hmem
  obtain ⟨name, hname⟩ := hv _ hmem
  exact nomatch hname

section

variable {options : TaskContainerOptions} {P : HostHistory → Prop}

theorem triple_free {r : Request} (hr : ∀ a h, Permitted host job ⟨.agent (.request r), a⟩ h)
    (hmakes : ∀ a, job.makes ⟨.agent (.request r), a⟩ = none)
    (hremoves : removes (.agent (.request r)) = none) (hP : Persistent recording P) :
    Triple recording (Along (Permitted host job)) (fun h => job.Standing scratch h ∧ P h)
      (request r : HostAction r.Result) (fun _ h => job.Standing scratch h ∧ P h)
      (job.Unasked scratch) := by
  have hs {a : Option (Except CallError r.Result)} {h : HostHistory} (hs : job.Standing scratch h) :
      job.Standing scratch (⟨.agent (.request r), a⟩ :: h) :=
    hs.aside (hmakes a) fun k _ => hremoves.symm ▸ nofun
  apply triple_request
  · exact fun a h _ => hr a h
  · exact fun a h hp => ⟨hs hp.1, hP.cons _ hp.2⟩
  · exact fun e h hp => (hs hp.1).1

def Running (host : DatabaseHost) (job : TaskJob) (scratch : List Scratch)
    (options : TaskContainerOptions) (id : String) (h : HostHistory) : Prop :=
  job.Standing (.container id :: scratch) h ∧ Made host options id h

theorem triple_createTaskContainer (hv : Volumes scratch)
    (hwrites : ∀ mount ∈ options.mounts, mount.readOnly = false → job.writes mount.source) :
    Triple recording (Along (Permitted host job))
      (fun h => job.Standing scratch h ∧ job.runs options h) (createTaskContainer host options)
      (Running host job scratch options) (job.Unasked scratch) := by
  apply Triple.bind (R := fun _ h => job.Standing scratch h ∧ job.runs options h)
  · unfold pullTaskImage
    split
    · exact triple_free (fun _ _ => trivial) (fun _ => rfl) rfl (persistent_runs options)
    · exact triple_pure fun _ hp => hp
  intro _
  apply Triple.bind (R := fun _ h => job.Standing scratch h ∧ job.runs options h)
  · have hs {a : Option (Except CallError Unit)} {h : HostHistory} (hs : job.Standing scratch h) :
        job.Standing scratch (⟨.agent (.request (.removeContainer options.name true none)), a⟩ :: h) := by
      apply hs.aside rfl
      rintro k hk ⟨⟩
      exact hv.not_container _ hk
    apply triple_request
    · exact fun _ h hp => ⟨rfl, .inr ⟨options, hp.2, rfl⟩⟩
    · exact fun _ h hp => ⟨hs hp.1, job.kept options _ h hp.2⟩
    · exact fun _ h hp => (hs hp.1).1
  intro _
  apply Triple.bind (R := fun separated h => (job.Standing scratch h ∧ job.runs options h) ∧
    separatePgBackrestCredentials options.env = .ok separated)
  · apply triple_ofExcept
    · intro separated hseparated _ hp
      cases hoptions : separatePgBackrestCredentials options.env with
      | ok _ =>
        rw [hoptions] at hseparated
        cases hseparated
        exact ⟨hp, rfl⟩
      | error _ =>
        rw [hoptions] at hseparated
        cases hseparated
    · exact fun _ hp => hp.1.1
  rintro ⟨env, files⟩
  apply triple_request
  · intro _ h hp
    refine ⟨⟨options, env, files, hp.1.2, hp.2, rfl⟩, hwrites, ?_⟩
    intro id
    rw [hp.1.1.2]
    exact hv.not_container id
  · exact fun id h hp => ⟨hp.1.1.made rfl rfl, env, files, hp.2, List.mem_cons_self⟩
  · intro failure h hp
    apply (Ledger.outstanding_aside rfl _).trans hp.1.1.1
    rintro _ _ ⟨⟩

theorem Running.aside {id : String} (hr : Running host job scratch options id h)
    (hmakes : job.makes e = none) (hremoves : removes e.call = none) :
    Running host job scratch options id (e :: h) :=
  ⟨hr.1.aside hmakes fun _ _ => hremoves.symm ▸ nofun, hr.2.cons⟩

theorem triple_awaitTaskLogs {id : String} : Triple recording (Along (Permitted host job))
    (Running host job scratch options id) (awaitTaskLogs id options.name options.timeoutMs)
    (fun logs h => Running host job scratch options id h ∧ Exited host options logs h)
    (Running host job scratch options id) := by
  let Started : HostHistory → Prop := fun h =>
    ⟨.agent (.request (.startContainer id)), some (.ok ())⟩ ∈ h
  let Waited : ℤ → HostHistory → Prop := fun status h =>
    ⟨.agent (.request (.waitContainer id options.timeoutMs)), some (.ok status)⟩ ∈ h
  let Read : Except Failure String → HostHistory → Prop := fun logs h =>
    ⟨.agent (.request (.containerLogs id)), some (.ok (logs.toOption.getD ""))⟩ ∈ h ∨
      logs.toOption = none
  apply Triple.bind (R := fun _ h => Running host job scratch options id h ∧ Started h)
  · apply triple_request
    · exact fun _ h hp => hp.2.created
    · exact fun _ h hp => ⟨hp.aside rfl rfl, List.mem_cons_self⟩
    · exact fun _ h hp => hp.aside rfl rfl
  intro _
  apply Triple.bind (R := fun status h => (Running host job scratch options id h ∧ Started h) ∧
    Waited status h)
  · apply triple_request
    · exact fun _ h hp => hp.1.2.created
    · exact fun status h hp => ⟨⟨hp.1.aside rfl rfl, List.mem_cons_of_mem _ hp.2⟩,
        List.mem_cons_self⟩
    · exact fun _ h hp => hp.1.aside rfl rfl
  intro status
  apply Triple.bind (R := fun logs h => ((Running host job scratch options id h ∧ Started h) ∧
    Waited status h) ∧ Read logs h)
  · have hlogs : Triple recording (Along (Permitted host job))
        (fun h => (Running host job scratch options id h ∧ Started h) ∧ Waited status h)
        (request (.containerLogs id) : HostAction String)
        (fun logs h => ((Running host job scratch options id h ∧ Started h) ∧ Waited status h) ∧
          Read (.ok logs) h)
        (fun h => (Running host job scratch options id h ∧ Started h) ∧ Waited status h) := by
      apply triple_request
      · exact fun _ h hp => hp.1.1.2.created
      · exact fun logs h hp => ⟨⟨⟨hp.1.1.aside rfl rfl, List.mem_cons_of_mem _ hp.1.2⟩,
          List.mem_cons_of_mem _ hp.2⟩, .inl List.mem_cons_self⟩
      · exact fun _ h hp => ⟨⟨hp.1.1.aside rfl rfl, List.mem_cons_of_mem _ hp.1.2⟩,
          List.mem_cons_of_mem _ hp.2⟩
    apply hlogs.settle.mono (fun _ hp => hp)
    · intro logs h hp
      cases logs with
      | ok logs => exact hp
      | error failure => exact ⟨hp, .inr rfl⟩
    · exact fun _ hp => hp.1.1
  intro logs
  apply triple_ofExcept
  · rintro text htext h ⟨⟨⟨hrunning, hstarted⟩, hwaited⟩, hread⟩
    unfold taskLogs at htext
    split at htext
    · cases htext
    · next hstatus =>
      rw [not_not] at hstatus
      subst hstatus
      cases htext
      refine ⟨hrunning, id, hrunning.2, hstarted, hwaited, ?_⟩
      obtain hread | hnone := hread
      · exact .inl hread
      · exact .inr (by rw [hnone, Option.getD_none])
  · exact fun _ hp => hp.1.1.1

theorem triple_runTask (hv : Volumes scratch)
    (hwrites : ∀ mount ∈ options.mounts, mount.readOnly = false → job.writes mount.source)
    (hruns : ∀ h, P h → job.runs options h) :
    Triple recording (Along (Permitted host job)) (fun h => job.Standing scratch h ∧ P h)
      (runTaskContainerForLogs host options)
      (fun logs h => job.Standing scratch h ∧ Exited host options logs h)
      (job.Unasked scratch) := by
  apply Triple.bind (R := Running host job scratch options)
  · apply (triple_createTaskContainer hv hwrites).mono
    · exact fun h hp => ⟨hp.1, hruns h hp.2⟩
    · exact fun _ _ h => h
    · exact fun _ h => h
  intro id
  apply Triple.finally_ triple_awaitTaskLogs
  · intro logs
    apply triple_request
    · exact fun _ h hp => ⟨rfl, .inl hp.1.2.created⟩
    · exact fun _ h hp => ⟨hp.1.1.removed rfl rfl (hv.not_container id) rfl,
        (persistent_exited options logs).cons _ hp.2⟩
    · exact fun _ h hp => Unasked.removed hp.1.1.1 rfl rfl (hv.not_container id)
  · apply triple_request
    · exact fun _ h hp => ⟨rfl, .inl hp.2.created⟩
    · exact fun _ h hp => Unasked.removed hp.1.1 rfl rfl (hv.not_container id)
    · exact fun _ h hp => Unasked.removed hp.1.1 rfl rfl (hv.not_container id)

end

end TaskJob

end NouvaAgent
