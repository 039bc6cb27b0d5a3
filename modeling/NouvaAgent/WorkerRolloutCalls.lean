import NouvaAgent.WorkerRollout

namespace NouvaAgent

open Text Interaction Agent Method WorkerShutdown WorkerVolume CandidateReadiness

def Looks : AgentCall → Prop
  | .request r => match r with
    | .inspectContainer _ | .countContainerExits _ _ _ | .listContainersUsingVolume _ => True
    | _ => False
  | _ => True

variable {σ : Type} {S : AgentCall → Prop}

theorem countRecentRestarts_framed {inspection : DockerContainerInspection} {untilMs : ℤ}
    (hcount : ∀ id sinceMs untilMs, S (.request (.countContainerExits id sinceMs untilMs))) :
    (countRecentRestarts inspection untilMs : AgentMethod σ ℤ).Framed S := by
  unfold countRecentRestarts
  dsimp only
  split
  · exact framed_pure _
  · refine framed_bind (framed_settle (framed_request (hcount _ _ _))) fun r => ?_
    cases r <;> exact framed_pure _

theorem countRestartLoop_framed {inspection : DockerContainerInspection} {untilMs threshold : ℤ}
    (hcount : ∀ id sinceMs untilMs, S (.request (.countContainerExits id sinceMs untilMs))) :
    (countRestartLoop inspection untilMs threshold : AgentMethod σ ℤ).Framed S := by
  unfold countRestartLoop
  split
  · exact framed_pure _
  · exact countRecentRestarts_framed hcount

theorem waitForWorkerReadiness_framed {fuel : ℕ} {input : WorkerReadinessInput}
    (hlooks : ∀ c, Looks c → S c) :
    (waitForWorkerReadiness fuel input : AgentMethod σ Unit).Framed S := by
  have hnow : (now : AgentMethod σ ℤ).Framed S := framed_now (hlooks _ trivial)
  have hbaseline (inspection : DockerContainerInspection) (inspectedAt restartCount : ℤ)
      (state : WorkerReadinessState) :
      (input.readBaseline inspection inspectedAt restartCount state : AgentMethod σ _).Framed S := by
    unfold WorkerReadinessInput.readBaseline
    split
    · exact framed_pure _
    · exact framed_bind (countRecentRestarts_framed fun _ _ _ => hlooks _ trivial) fun _ => framed_pure _
  have hsettle (inspection : DockerContainerInspection) (runningSince : Option ℤ) :
      (input.settle inspection runningSince : AgentMethod σ _).Framed S := by
    unfold WorkerReadinessInput.settle
    split
    · exact framed_pure _
    · split
      · split
        · exact framed_bind hnow fun _ => framed_pure _
        · exact framed_bind hnow fun _ => framed_bind hnow fun _ => framed_pure _
      · exact framed_pure _
  have poll (deadline : ℤ) (fuel : ℕ) (state : WorkerReadinessState) :
      (input.poll deadline fuel state : AgentMethod σ Unit).Framed S := by
    induction fuel generalizing state with
    | zero => exact framed_cut
    | succ fuel ih =>
      refine framed_bind hnow fun time => ?_
      split
      · refine framed_bind hnow fun inspectedAt => ?_
        refine framed_bind (framed_request (hlooks _ trivial)) fun found => ?_
        cases found with
        | none => exact framed_throw _
        | some inspection =>
          dsimp only
          split
          · exact framed_throw _
          · refine framed_bind (hbaseline _ _ _ _) fun ⟨baseline, state⟩ => ?_
            refine framed_bind (framed_ofExcept _) fun state => ?_
            refine framed_bind (hsettle _ _) fun ⟨ready, runningSince⟩ => ?_
            dsimp only
            split
            · exact framed_pure ()
            · exact framed_bind (framed_sleep (hlooks _ trivial)) fun _ => ih _
      · exact framed_throw _
  exact framed_bind hnow fun _ => poll _ _ _

namespace WorkerVolume

theorem assertVolumeUnused_framed {volume : Option AppVolumeIdentity} {allowedNames : List String}
    (hlooks : ∀ c, Looks c → S c) :
    (assertVolumeUnused volume allowedNames : AgentMethod σ Unit).Framed S := by
  cases volume with
  | none => exact framed_pure ()
  | some volume =>
    refine framed_bind (framed_request (hlooks _ trivial)) fun consumers => ?_
    split
    · exact framed_pure ()
    · exact framed_throw _

def Tasks : AgentCall → Prop
  | .request r => match r with
    | .pullImage _ | .createVolume _ _ | .createContainer _ | .startContainer _
    | .waitContainer _ _ | .containerLogs _ | .removeContainer _ _ _ => True
    | _ => False
  | _ => False

theorem runWorkerVolumeTask_framed {spec : DockerContainerSpec} (htasks : ∀ c, Tasks c → S c) :
    (runWorkerVolumeTask spec : AgentMethod σ Unit).Framed S := by
  have hfail (id name : String) (status : ℤ) :
      (failTask id name status : AgentMethod σ Unit).Framed S :=
    framed_bind (framed_settle (framed_request (htasks _ trivial))) fun _ => framed_throw _
  refine framed_bind (framed_request (htasks _ trivial)) fun _ => ?_
  refine framed_bind (framed_request (htasks _ trivial)) fun _ => ?_
  refine framed_bind (framed_request (htasks _ trivial)) fun id => ?_
  refine framed_finally ?_ (framed_request (htasks _ trivial))
  refine framed_bind (framed_request (htasks _ trivial)) fun _ => ?_
  refine framed_bind (framed_request (htasks _ trivial)) fun status => ?_
  split
  · exact framed_pure ()
  · exact hfail _ _ _

end WorkerVolume

namespace WorkerShutdown

variable {stop : WorkerStop}

def Stops (stop : WorkerStop) : AgentCall → Prop
  | .request r => match r with
    | .inspectContainer nameOrId | .killContainer nameOrId _ => nameOrId = stop.identifier
    | .updateContainerRestartPolicy nameOrId policy => nameOrId = stop.identifier ∧ policy = "no"
    | _ => False
  | _ => True

theorem stopWorkerContainerGracefully_confined {fuel : ℕ} :
    (stopWorkerContainerGracefully fuel stop : AgentMethod σ _).Confined (Stops stop) fun report =>
      report.containerName = stop.containerName ∧ report.role = stop.role := by
  have hread : (readRunningState stop.identifier : AgentMethod σ _).Framed (Stops stop) := by
    refine framed_bind (framed_request rfl) fun found => ?_
    cases found <;> exact framed_pure _
  have hwait (deadline : ℤ) (fuel : ℕ) :
      (waitUntilStopped stop.identifier deadline fuel : AgentMethod σ _).Framed (Stops stop) := by
    induction fuel with
    | zero => exact framed_cut
    | succ fuel ih =>
      refine framed_bind hread fun state => ?_
      split
      · refine framed_bind (framed_now trivial) fun time => ?_
        split
        · exact framed_pure _
        · exact framed_bind (framed_sleep trivial) fun _ => ih
      · exact framed_pure _
  have any {α : Type} {p : AgentMethod σ α} (hp : p.Framed (Stops stop)) :
      p.Confined (Stops stop) fun _ => True := hp.uses.confined
  have hreport (startedAt : ℤ) (signal : String) (outcome : WorkerShutdownOutcome)
      (exitCode : Option ℤ) : (stop.report startedAt signal outcome exitCode :
        AgentMethod σ _).Confined (Stops stop) fun report =>
          report.containerName = stop.containerName ∧ report.role = stop.role :=
    confined_bind (any (framed_now trivial)) fun _ _ => confined_pure ⟨rfl, rfl⟩
  have hsend (signal : String) :
      (request (.killContainer stop.identifier signal) : AgentMethod σ _).Framed (Stops stop) :=
    framed_request rfl
  have hkill (startedAt : ℤ) (signal : String) : (stop.kill fuel startedAt signal :
      AgentMethod σ _).Confined (Stops stop) fun report =>
        report.containerName = stop.containerName ∧ report.role = stop.role := by
    refine confined_bind (any (hsend _)) fun _ _ => ?_
    refine confined_bind (any (framed_now trivial)) fun _ _ => ?_
    refine confined_bind (any (hwait _ _)) fun state _ => ?_
    cases state <;> exact hreport _ _ _ _
  refine confined_bind (any (framed_now trivial)) fun _ _ => ?_
  refine confined_bind (any hread) fun initial _ => ?_
  dsimp only
  split
  · refine confined_bind (any (framed_settle (framed_request ⟨rfl, rfl⟩))) fun updated _ => ?_
    cases updated with
    | ok _ =>
      refine confined_bind (any (hsend _)) fun _ _ => ?_
      refine confined_bind (any (hwait _ _)) fun state _ => ?_
      cases state with
      | some _ => exact hreport _ _ _ _
      | none => exact hkill _ _
    | error e =>
      dsimp only
      split
      · exact hreport _ _ _ _
      · exact confined_throw
  · exact hreport _ _ _ _

end WorkerShutdown

namespace WorkerRollout

theorem assertContainersAbsent_framed {identifiers : List String}
    (hlook : ∀ identifier ∈ identifiers, S (.request (.inspectContainer identifier))) :
    (assertContainersAbsent identifiers : AgentMethod σ Unit).Framed S := by
  refine framed_forEach fun identifier hmem => ?_
  refine framed_bind (framed_request (hlook identifier hmem)) fun found => ?_
  cases found with
  | none => exact framed_pure ()
  | some _ => exact framed_throw _

theorem assertContainersStopped_framed {containers : List DockerContainerInspection}
    (hlook : ∀ container ∈ containers,
      S (.request (.inspectContainer (getContainerIdentifier container)))) :
    (assertContainersStopped containers : AgentMethod σ Unit).Framed S := by
  refine framed_forEach fun container hmem => ?_
  refine framed_bind (framed_request (hlook container hmem)) fun current => ?_
  split
  · exact framed_throw _
  · exact framed_pure ()

theorem readRestartLoopsBeforeStop_framed {containers : List DockerContainerInspection}
    (hnow : S .now) (hcount : ∀ id sinceMs untilMs, S (.request (.countContainerExits id sinceMs untilMs)))
    (hlook : ∀ container ∈ containers,
      S (.request (.inspectContainer (getContainerIdentifier container)))) :
    (readRestartLoopsBeforeStop containers : AgentMethod σ _).Framed S := by
  induction containers with
  | nil => exact framed_pure _
  | cons container rest ih =>
    rw [List.forall_mem_cons] at hlook
    refine framed_bind (framed_now hnow) fun _ => ?_
    refine framed_bind (framed_request hlook.1) fun found => ?_
    cases found with
    | none => exact ih hlook.2
    | some current =>
      refine framed_bind (countRestartLoop_framed hcount) fun _ => ?_
      exact framed_bind (ih hlook.2) fun _ => framed_pure _

end WorkerRollout

end NouvaAgent
