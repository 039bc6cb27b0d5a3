import NouvaAgent.DatabaseRestart
import NouvaAgent.HostTriples
import NouvaAgent.WorkerOverlapEvidence

namespace NouvaAgent

open Text Interaction Host

structure WorkerRestartInput where
  serviceId : String
  runtimeMetadata : WorkerRuntimeMetadata
  shutdownPolicy : Json

structure RestartedInstance where
  replicaIndex : Option ℤ
  containerId : String
  containerName : String
  deriving DecidableEq, Repr

inductive WorkerRestartResult
  | restarted (runtimeInstances : List RestartedInstance)
  | superseded
  deriving DecidableEq, Repr

def mountsVolume (container : DockerContainerInspection) : Bool :=
  ((container.hostConfig.bind ContainerHostConfig.mounts).getD []).any fun mount =>
    mount.type = some "volume"

def restartedInstance (container : DockerContainerInspection) : RestartedInstance where
  replicaIndex := (((container.label "nouva.replica.index").bind number).filter Rat.isInt).map Rat.num
  containerId := container.id
  containerName := getContainerName container

namespace WorkerRestartInput

variable (input : WorkerRestartInput)

def isRecordedLive : DockerContainerInspection → Bool := recordedLiveRuntime input.runtimeMetadata

def liveContainers (containers : List DockerContainerInspection) : List DockerContainerInspection :=
  containers.filter input.isRecordedLive

def leftovers (containers : List DockerContainerInspection) : List DockerContainerInspection :=
  containers.filter fun container => !input.isRecordedLive container && !container.running

def runningOthers (containers : List DockerContainerInspection) : List DockerContainerInspection :=
  containers.filter fun container => !input.isRecordedLive container && container.running

def policy : WorkerShutdownPolicy :=
  (WorkerShutdownPolicy.parse input.shutdownPolicy).getD WorkerShutdownPolicy.byDefault

/-- The replicas would run beside others, which the policy or a volume forbids. -/
def forbidsRestart (containers : List DockerContainerInspection) : Bool :=
  input.runningOthers containers ≠ [] &&
    (input.policy.rolloutPolicy = .noOverlap || containers.any mountsVolume)

def describeForbidden (containers : List DockerContainerInspection) : String :=
  "Worker " ++ input.serviceId ++ " still runs " ++
    String.intercalate ", " ((input.runningOthers containers).map getContainerName) ++
    " outside its live runtime, and restarting now would run it alongside the live replicas, " ++
    "which a no_overlap policy or a volume forbids. Stop that container or redeploy first."

def removeLeftover (leftover : DockerContainerInspection) : HostAction Unit :=
  request (.removeContainer (getContainerIdentifier leftover) false none)

def restartReplica (container : DockerContainerInspection) : HostAction Unit := do
  request (.updateContainerRestartPolicy (getContainerIdentifier container) "unless-stopped")
  DatabaseRestart.restartContainer (getContainerIdentifier container)

def restartLive (containers : List DockerContainerInspection) : HostAction WorkerRestartResult :=
  if input.liveContainers containers = [] then
    if input.runningOthers containers ≠ [] then pure .superseded
    else throw (.error
      ("Worker " ++ input.serviceId ++ " has no live runtime containers to restart"))
  else if input.forbidsRestart containers then throw (.error (input.describeForbidden containers))
  else do
    Method.forEach (input.liveContainers containers) restartReplica
    pure (.restarted ((input.liveContainers containers).map restartedInstance))

def restartWorkerServiceRuntime : HostAction WorkerRestartResult := do
  let containers ← agent (WorkerRollout.listWorkerServiceContainers input.serviceId)
  Method.forEach (input.leftovers containers) removeLeftover
  agent (WorkerRollout.assertContainersAbsent
    ((input.leftovers containers).map getContainerIdentifier))
  input.restartLive containers

end WorkerRestartInput

namespace WorkerRestart

/-! What a restart does. -/

def restartOf (e : HostEvent) : Option String :=
  match e.call with
  | .restartContainer id => some id
  | _ => none

def restarts (h : HostHistory) : List String := h.filterMap restartOf

def Listed (input : WorkerRestartInput) (containers : List DockerContainerInspection)
    (h : HostHistory) : Prop :=
  ∃ later found, h = later ++ [⟨.agent (.request (.listContainersByLabels
      (workerServiceLabels input.serviceId))), some (.ok found)⟩] ∧
    containers = distinctContainers [] found

def Removed (id : String) (h : HostHistory) : Prop :=
  ⟨.agent (.request (.removeContainer id false none)), some (.ok ())⟩ ∈ h

def Gone (id : String) (h : HostHistory) : Prop :=
  ∃ after before, h = after ++ ⟨.agent (.request (.inspectContainer id)), some (.ok none)⟩ :: before ∧
    Removed id before

/-- What a restart may ask for, after what it asked for before. -/
def Allowed (input : WorkerRestartInput) (e : HostEvent) (before : HostHistory) : Prop :=
  match e.call with
  | .agent (.request (.listContainersByLabels labels)) =>
    labels = workerServiceLabels input.serviceId ∧ before = []
  | .agent (.request (.removeContainer id force _)) => force = false ∧ ∃ containers,
    Listed input containers before ∧ id ∈ (input.leftovers containers).map getContainerIdentifier
  | .agent (.request (.inspectContainer id)) => Removed id before
  | .agent (.request (.updateContainerRestartPolicy id policy)) => policy = "unless-stopped" ∧
    ∃ containers, Listed input containers before ∧
      id ∈ (input.liveContainers containers).map getContainerIdentifier ∧
      (∀ leftover ∈ input.leftovers containers, Gone (getContainerIdentifier leftover) before) ∧
      (input.runningOthers containers ≠ [] → input.policy.rolloutPolicy ≠ .noOverlap ∧
        ∀ container ∈ containers, mountsVolume container = false)
  | .restartContainer id => ∃ earlier, before = ⟨.agent (.request (.updateContainerRestartPolicy id
      "unless-stopped")), some (.ok ())⟩ :: earlier ∧ id ∉ restarts earlier
  | _ => False

/-- What a result tells of the run. -/
def Told (input : WorkerRestartInput) (result : WorkerRestartResult) (h : HostHistory) : Prop :=
  ∃ containers, Listed input containers h ∧ match result with
    | .superseded => restarts h = [] ∧ input.liveContainers containers = [] ∧
      input.runningOthers containers ≠ []
    | .restarted instances => input.liveContainers containers ≠ [] ∧
      instances = (input.liveContainers containers).map restartedInstance ∧
      (restarts h).reverse = (input.liveContainers containers).map getContainerIdentifier

open Method

variable {input : WorkerRestartInput} {containers : List DockerContainerInspection}

structure Begun (input : WorkerRestartInput) (containers : List DockerContainerInspection)
    (h : HostHistory) : Prop where
  listed : Listed input containers h
  restarts : restarts h = []

theorem Listed.cons {h : HostHistory} (e : HostEvent) (hl : Listed input containers h) :
    Listed input containers (e :: h) := by
  obtain ⟨later, found, rfl, hc⟩ := hl
  exact ⟨e :: later, found, rfl, hc⟩

theorem Listed.nodup {h : HostHistory} (hl : Listed input containers h) :
    (containers.map getContainerIdentifier).Nodup := by
  obtain ⟨_, found, -, rfl⟩ := hl
  exact (WorkerDeployment.distinctContainers_nodup found []).1

theorem Gone.cons {id : String} {h : HostHistory} (e : HostEvent) (hg : Gone id h) :
    Gone id (e :: h) := by
  obtain ⟨after, before, rfl, hr⟩ := hg
  exact ⟨e :: after, before, rfl, hr⟩

theorem Begun.request {h : HostHistory} {r : Request} (a : Option (HostCall.agent (.request r)).Answer)
    (hb : Begun input containers h) : Begun input containers (⟨.agent (.request r), a⟩ :: h) :=
  ⟨hb.listed.cons _, hb.restarts⟩

abbrev Allows {σ α : Type} (input : WorkerRestartInput) (P : HostHistory → Prop)
    (p : HostMethod σ α) (Q : α → HostHistory → Prop) : Prop :=
  Triple recording (Along (Allowed input)) P p Q fun _ => True

theorem allows_list : Allows input (· = [])
    (agent (WorkerRollout.listWorkerServiceContainers input.serviceId) : HostAction _)
    fun containers h => Begun input containers h := by
  apply triple_agent
  have hlist : Triple (onAgent recording) (Along (Allowed input)) (· = [])
      (Agent.request (.listContainersByLabels (workerServiceLabels input.serviceId)) :
        AgentAction _)
      (fun found h => h = [⟨.agent (.request (.listContainersByLabels
        (workerServiceLabels input.serviceId))), some (.ok found)⟩]) fun _ => True := by
    apply triple_agentRequest
    · exact fun _ h hnil => ⟨rfl, hnil⟩
    · rintro found h rfl
      rfl
    · exact fun _ _ _ => trivial
  apply hlist.bind
  intro found
  apply triple_pure
  rintro h rfl
  exact ⟨⟨[], found, rfl, rfl⟩, rfl⟩

def Swept (input : WorkerRestartInput) (containers : List DockerContainerInspection)
    (h : HostHistory) : Prop :=
  Begun input containers h ∧
    ∀ leftover ∈ input.leftovers containers, Removed (getContainerIdentifier leftover) h

theorem allows_removeLeftovers : Allows input (Begun input containers)
    (Method.forEach (input.leftovers containers) WorkerRestartInput.removeLeftover)
    fun _ => Swept input containers := by
  apply triple_forEach_all fun leftover => persistent_recording fun e _ => List.mem_cons_of_mem e
  intro leftover hmem
  apply triple_request
  · exact fun _ h hb => ⟨rfl, containers, hb.listed, List.mem_map_of_mem hmem⟩
  · exact fun _ h hb => ⟨hb.request _, List.mem_cons_self⟩
  · exact fun _ _ _ => trivial

theorem Swept.request {h : HostHistory} {r : Request}
    (a : Option (HostCall.agent (.request r)).Answer) (hs : Swept input containers h) :
    Swept input containers (⟨.agent (.request r), a⟩ :: h) :=
  ⟨hs.1.request a, fun leftover hmem => List.mem_cons_of_mem _ (hs.2 leftover hmem)⟩

theorem allows_assertContainerAbsent {id : String}
    (hmem : id ∈ (input.leftovers containers).map getContainerIdentifier) :
    Triple (onAgent recording) (Along (Allowed input)) (Swept input containers)
      (WorkerRollout.assertContainerAbsent id : AgentAction Unit)
      (fun _ h => Swept input containers h ∧ Gone id h) fun _ => True := by
  have hremoved (h : HostHistory) (hs : Swept input containers h) : Removed id h := by
    obtain ⟨leftover, hleftover, rfl⟩ := List.mem_map.mp hmem
    exact hs.2 leftover hleftover
  have hinspect : Triple (onAgent recording) (Along (Allowed input)) (Swept input containers)
      (Agent.request (.inspectContainer id) : AgentAction _)
      (fun found h => Swept input containers h ∧ (found = none → Gone id h)) fun _ => True := by
    apply triple_agentRequest
    · exact fun _ h hs => hremoved h hs
    · rintro found h hs
      refine ⟨hs.request _, ?_⟩
      rintro rfl
      exact ⟨[], h, rfl, hremoved h hs⟩
    · exact fun _ _ _ => trivial
  apply hinspect.bind
  rintro (_ | _)
  · exact triple_pure fun h hs => ⟨hs.1, hs.2 rfl⟩
  · exact triple_throw fun _ _ => trivial

def Cleared (input : WorkerRestartInput) (containers : List DockerContainerInspection)
    (h : HostHistory) : Prop :=
  Begun input containers h ∧
    ∀ leftover ∈ input.leftovers containers, Gone (getContainerIdentifier leftover) h

theorem allows_assertContainersAbsent : Allows input (Swept input containers)
    (agent (WorkerRollout.assertContainersAbsent
      ((input.leftovers containers).map getContainerIdentifier)) : HostAction Unit)
    fun _ => Cleared input containers := by
  apply triple_agent
  have hall : Triple (onAgent recording) (Along (Allowed input)) (Swept input containers)
      (Method.forEach ((input.leftovers containers).map getContainerIdentifier)
        WorkerRollout.assertContainerAbsent : AgentAction Unit)
      (fun _ h => Swept input containers h ∧
        ∀ id ∈ (input.leftovers containers).map getContainerIdentifier, Gone id h)
      fun _ => True := by
    apply triple_forEach_all
    · exact fun id => persistent_onAgent (persistent_recording fun e _ => Gone.cons e)
    · exact fun id hmem => allows_assertContainerAbsent hmem
  apply hall.mono (fun _ h => h) ?_ fun _ h => h
  exact fun _ h hs => ⟨hs.1.1, fun leftover hmem => hs.2 _ (List.mem_map_of_mem hmem)⟩

structure Restarting (input : WorkerRestartInput) (containers done : List DockerContainerInspection)
    (h : HostHistory) : Prop where
  listed : Listed input containers h
  gone : ∀ leftover ∈ input.leftovers containers, Gone (getContainerIdentifier leftover) h
  restarts : restarts h = (done.map getContainerIdentifier).reverse

theorem allows_restartReplica {done rest : List DockerContainerInspection}
    {container : DockerContainerInspection}
    (hlive : input.liveContainers containers = done ++ container :: rest)
    (hallowed : input.forbidsRestart containers = false) :
    Allows input (Restarting input containers done) (WorkerRestartInput.restartReplica container)
      fun _ => Restarting input containers (done ++ [container]) := by
  have hpolicy : Allows input (Restarting input containers done)
      (request (.updateContainerRestartPolicy (getContainerIdentifier container)
        "unless-stopped") : HostAction Unit) (fun _ h => ∃ earlier,
          h = ⟨.agent (.request (.updateContainerRestartPolicy (getContainerIdentifier container)
            "unless-stopped")), some (.ok ())⟩ :: earlier ∧
          Restarting input containers done earlier) := by
    apply triple_request
    · intro _ h hr
      refine ⟨rfl, containers, hr.listed, List.mem_map_of_mem (by simp [hlive]), hr.gone, ?_⟩
      intro hothers
      simpa [WorkerRestartInput.forbidsRestart, hothers] using hallowed
    · exact fun _ h hr => ⟨h, rfl, hr⟩
    · exact fun _ _ _ => trivial
  apply hpolicy.bind
  intro _
  have hfresh (earlier : HostHistory) (hr : Restarting input containers done earlier) :
      getContainerIdentifier container ∉ restarts earlier := by
    have hnodup : ((input.liveContainers containers).map getContainerIdentifier).Nodup :=
      hr.listed.nodup.sublist (List.filter_sublist.map _)
    rw [hlive, List.map_append, List.nodup_append] at hnodup
    rw [hr.restarts, List.mem_reverse]
    exact fun hmem => hnodup.2.2 _ hmem _ List.mem_cons_self rfl
  apply triple_answered
  · rintro (e | _)
    · exact .inr ⟨_, rfl⟩
    · exact .inl rfl
  · rintro _ _ ⟨earlier, rfl, hr⟩
    exact ⟨earlier, rfl, hfresh earlier hr⟩
  · rintro _ _ - ⟨earlier, rfl, hr⟩
    refine ⟨(hr.listed.cons _).cons _, fun leftover hmem => ((hr.gone leftover hmem).cons _).cons _,
      ?_⟩
    show getContainerIdentifier container :: restarts earlier = _
    rw [hr.restarts, List.map_append, List.reverse_append]
    rfl
  · exact fun _ _ _ => trivial

theorem allows_restartLive : Allows input (Cleared input containers)
    (input.restartLive containers) fun result => Told input result := by
  unfold WorkerRestartInput.restartLive
  split
  · next hnone =>
    split
    · next hothers =>
      exact triple_pure fun h hc => ⟨containers, hc.1.listed, hc.1.restarts, hnone, hothers⟩
    · exact triple_throw fun _ _ => trivial
  · next hsome =>
    split
    · exact triple_throw fun _ _ => trivial
    · next hallowed =>
      have hloop : Allows input (Restarting input containers [])
          (Method.forEach (input.liveContainers containers) WorkerRestartInput.restartReplica)
          fun _ => Restarting input containers (input.liveContainers containers) :=
        triple_forEach fun done container rest hlive =>
          allows_restartReplica hlive (Bool.eq_false_iff.mpr hallowed)
      apply (hloop.mono (fun h hc => ⟨hc.1.listed, hc.2, hc.1.restarts⟩) (fun _ _ h => h)
        fun _ h => h).bind
      intro _
      apply triple_pure
      exact fun h hr => ⟨containers, hr.listed, hsome, rfl, by rw [hr.restarts, List.reverse_reverse]⟩

/-- In every run of a restart, what it restarts is what the control plane records, each replica once
and right after it got its policy back, when the stopped leftovers are gone and no other container
was found running beside that the policy or a volume forbids; it returns what it did. -/
theorem restart_revives_what_is_recorded (input : WorkerRestartInput)
    (env : Environment HostCall.Answer) :
    Along (Allowed input) ((input.restartWorkerServiceRuntime ()).run env []).2 ∧
      ∀ result s, ((input.restartWorkerServiceRuntime ()).run env []).1 = .done (.ok result, s) →
        Told input result ((input.restartWorkerServiceRuntime ()).run env []).2 := by
  have hrestart : Allows input (· = []) input.restartWorkerServiceRuntime fun result =>
      Told input result := by
    apply allows_list.bind
    intro containers
    apply allows_removeLeftovers.bind
    intro _
    apply allows_assertContainersAbsent.bind
    exact fun _ => allows_restartLive
  exact hrestart.run env () rfl

end WorkerRestart

end NouvaAgent
