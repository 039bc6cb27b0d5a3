import NouvaAgent.AgentHistory
import NouvaAgent.DatabaseHealth
import NouvaAgent.DatabaseReadiness
import NouvaAgent.Interaction.Laws

namespace NouvaAgent

open Text Interaction Host DatabaseProvision

structure RestartServicePayload where
  projectId : Option String
  serviceId : String
  variant : DatabaseEngine
  containerName : Option String
  runtimeMetadata : Option RuntimeMetadata := none

inductive RestartKind
  | restartApp
  | restartDatabase
  deriving DecidableEq, Repr

/-- What the agent needs beside a payload. What an inspection says of a container's environment,
command and ports, which only the handlers of databases read, is given. -/
structure RestartHost extends DatabaseHost where
  env : DockerContainerInspection → Option (List String)
  cmd : DockerContainerInspection → Option (List String)
  portBindings : DockerContainerInspection → Option (List String)

def RestartHost.inspected (host : RestartHost) (inspection : DockerContainerInspection) :
    DatabaseInspection :=
  { inspection with env := host.env inspection, cmd := host.cmd inspection
                    portBindings := host.portBindings inspection }

structure RestartedDatabase where
  containerName : String
  image : String
  projectId : String
  port : ℤ
  credentials : DatabaseProbeCredentials
  deriving DecidableEq, Repr

namespace DatabaseRestart

def restartContainer (nameOrId : String) : HostAction Unit := do
  match ← Method.ask (HostCall.restartContainer nameOrId) with
  | .ok _ => pure ()
  | .error e => throw (.call e)

def readRestartCount (inspection : Option DockerContainerInspection) : ℤ :=
  (inspection.map CandidateReadiness.readRestartCount).getD 0

section

variable (payload : RestartServicePayload)

def resolveServiceContainerIdentifier : Option String :=
  (payload.containerName.or (payload.runtimeMetadata.bind RuntimeMetadata.containerId)).or
    (payload.runtimeMetadata.bind RuntimeMetadata.containerName)

def requireIdentifier : Except String String :=
  match present (resolveServiceContainerIdentifier payload) with
  | some identifier => .ok identifier
  | none => .error "Missing container identifier for restart"

def restartedMetadata : RuntimeMetadata :=
  { payload.runtimeMetadata.getD {} with
    containerName :=
      payload.containerName.or (payload.runtimeMetadata.bind RuntimeMetadata.containerName) }

def handleRestart : HostAction RuntimeMetadata := do
  let identifier ← Method.ofExcept ((requireIdentifier payload).mapError Failure.error)
  restartContainer identifier
  pure (restartedMetadata payload)

def readRestartedDatabase (inspection : DatabaseInspection) : Except String RestartedDatabase :=
  let containerName := (payload.containerName.or
    (payload.runtimeMetadata.bind RuntimeMetadata.containerName)).getD (withoutSlash inspection.name)
  let projectId := payload.projectId.or (inspection.label "nouva.project.id")
  match present (inspection.config.bind ContainerConfig.image), present projectId,
    DatabaseHealth.readDatabaseProbeCredentials payload.variant inspection with
  | some image, some projectId, some credentials =>
    .ok { containerName, image, projectId
          port := DatabaseHealth.resolveDatabaseInternalPort payload.variant inspection, credentials }
  | _, _, _ => .error ("Restarted database " ++ containerName ++ " cannot be verified: its " ++
      "container does not carry the image, project and credential definition an authenticated " ++
      "readiness check needs")

def inspectRestarted (host : RestartHost) (identifier : String) : HostAction RestartedDatabase := do
  match ← request (.inspectContainer identifier) with
  | none => throw (.error ("Database container " ++ identifier ++
      " is missing on the server after the restart"))
  | some inspection =>
    Method.ofExcept ((readRestartedDatabase payload (host.inspected inspection)).mapError
      Failure.error)

variable (host : RestartHost)

def probeRestarted (database : RestartedDatabase) : HostAction Unit :=
  runDatabaseReadinessProbe host.toDatabaseHost payload.serviceId database.image
    (host.config.projectNetwork database.projectId) "nouva-db-ready-"
    (buildDatabaseReadinessProbe payload.variant database.containerName database.port
      database.credentials)

def waitForRestarted (restartBaseline : ℤ) (database : RestartedDatabase) : HostAction Unit :=
  waitForDatabaseReadiness host.toDatabaseHost
    { containerName := database.containerName, engine := payload.variant, restartBaseline }
    (probeRestarted payload host database)

def waitForRestartedDatabaseReadiness (identifier : String) (restartBaseline : ℤ) :
    HostAction Unit := do
  let database ← inspectRestarted payload host identifier
  waitForRestarted payload host restartBaseline database

def handleRestartService (kind : RestartKind) : HostAction RuntimeMetadata :=
  match kind with
  | .restartApp => handleRestart payload
  | .restartDatabase => do
    let identifier ← Method.ofExcept ((requireIdentifier payload).mapError Failure.error)
    let restartBaseline := readRestartCount (← request (.inspectContainer identifier))
    let result ← handleRestart payload
    waitForRestartedDatabaseReadiness payload host identifier restartBaseline
    pure result

end

structure RestartWait where
  identifier : String
  carried : Option DockerContainerInspection
  inspection : DockerContainerInspection
  database : RestartedDatabase

namespace RestartWait

variable (w : RestartWait)

def restartBaseline : ℤ := readRestartCount w.carried

def calls : History HostCall.Answer :=
  [looked w.identifier w.inspection, ⟨.restartContainer w.identifier, some (.ok ())⟩,
    ⟨.agent (.request (.inspectContainer w.identifier)), some (.ok w.carried)⟩]

end RestartWait

section

variable (payload : RestartServicePayload) (host : RestartHost)

def beginRestart : HostAction (ℤ × RuntimeMetadata × RestartedDatabase) := do
  let identifier ← Method.ofExcept ((requireIdentifier payload).mapError Failure.error)
  let restartBaseline := readRestartCount (← request (.inspectContainer identifier))
  let result ← handleRestart payload
  let database ← inspectRestarted payload host identifier
  pure (restartBaseline, result, database)

theorem handleRestartService_eq : handleRestartService payload host .restartDatabase =
    Method.bind (beginRestart payload host) fun begun =>
      Method.bind (waitForRestarted payload host begun.1 begun.2.2) fun _ =>
        Method.pure begun.2.1 := by
  symm
  refine Method.bind_assoc.trans (congrArg (Method.bind _) (funext fun identifier => ?_))
  refine Method.bind_assoc.trans (congrArg (Method.bind _) (funext fun carried => ?_))
  refine Method.bind_assoc.trans (congrArg (Method.bind _) (funext fun result => ?_))
  refine Method.bind_assoc.trans (Eq.trans ?_ Method.bind_assoc.symm)
  rfl

def Unwaited (seg : History HostCall.Answer) (r : Except Failure RuntimeMetadata) : Prop :=
  ∃ e, (beginRestart payload host ()).Produces seg (.error e, ()) ∧ r = .error e

structure Waited (w : RestartWait) (polls : History HostCall.Answer) (result : Except Failure Unit) :
    Prop where
  identifier : requireIdentifier payload = .ok w.identifier
  database : readRestartedDatabase payload (host.inspected w.inspection) = .ok w.database
  polls : (waitForRestarted payload host w.restartBaseline w.database ()).Produces polls
    (result, ())

end

section

variable {payload : RestartServicePayload} {host : RestartHost}

theorem returns_request {r : Request} {s s' : Unit} {seg : History HostCall.Answer} {a : r.Result}
    (h : (request r : HostAction r.Result).Returns s seg a s') :
    seg = [⟨.agent (.request r), some (.ok a)⟩] := by
  obtain ⟨answer, rfl, hanswer⟩ := request_produces h
  cases answer <;> cases hanswer
  rfl

theorem returns_restartContainer {nameOrId : String} {s s' : Unit}
    {seg : History HostCall.Answer} (h : (restartContainer nameOrId).Returns s seg () s') :
    seg = [⟨.restartContainer nameOrId, some (.ok ())⟩] := by
  cases h with
  | call hn =>
    rename_i answer
    cases answer <;> cases hn
    rfl

theorem mapError_eq_ok {α : Type} {x : Except String α} {a : α}
    (h : x.mapError Failure.error = .ok a) : x = .ok a := by
  cases x <;> cases h
  rfl

theorem handleRestart_returns {seg : History HostCall.Answer} {result : RuntimeMetadata}
    {s s' : Unit} (h : (handleRestart payload).Returns s seg result s') : ∃ identifier,
      requireIdentifier payload = .ok identifier ∧ result = restartedMetadata payload ∧
        seg = [⟨.restartContainer identifier, some (.ok ())⟩] := by
  obtain ⟨_, rest, identifier, t, rfl, hrequired, hrest⟩ := h.of_bind
  obtain ⟨rfl, hidentifier, rfl⟩ := hrequired.of_ofExcept
  obtain ⟨restarting, _, _, u, rfl, hrestart, hresult⟩ := hrest.of_bind
  obtain ⟨rfl, rfl, rfl⟩ := hresult.of_pure
  obtain rfl := returns_restartContainer hrestart
  exact ⟨identifier, mapError_eq_ok hidentifier, rfl, rfl⟩

theorem inspectRestarted_returns {identifier : String} {seg : History HostCall.Answer}
    {database : RestartedDatabase} {s s' : Unit}
    (h : (inspectRestarted payload host identifier).Returns s seg database s') : ∃ inspection,
      readRestartedDatabase payload (host.inspected inspection) = .ok database ∧
        seg = [looked identifier inspection] := by
  obtain ⟨before, rest, found, t, rfl, hlook, hrest⟩ := h.of_bind
  obtain rfl := returns_request hlook
  cases found with
  | none => cases hrest
  | some inspection =>
    obtain ⟨rfl, hdatabase, -⟩ := Method.Returns.of_ofExcept hrest
    exact ⟨inspection, mapError_eq_ok hdatabase, rfl⟩

theorem beginRestart_returns {seg : History HostCall.Answer}
    {begun : ℤ × RuntimeMetadata × RestartedDatabase} {s s' : Unit}
    (h : (beginRestart payload host).Returns s seg begun s') : ∃ w : RestartWait,
      requireIdentifier payload = .ok w.identifier ∧
        readRestartedDatabase payload (host.inspected w.inspection) = .ok w.database ∧
        begun = (w.restartBaseline, restartedMetadata payload, w.database) ∧ seg = w.calls := by
  obtain ⟨_, afterId, identifier, t, rfl, hrequired, hafterId⟩ := h.of_bind
  obtain ⟨rfl, hidentifier, rfl⟩ := hrequired.of_ofExcept
  obtain ⟨_, afterLook, carried, u, rfl, hlook, hafterLook⟩ := hafterId.of_bind
  obtain rfl := returns_request hlook
  obtain ⟨_, afterRestart, result, v, rfl, hrestart, hafterRestart⟩ := hafterLook.of_bind
  obtain ⟨identifier', hidentifier', rfl, rfl⟩ := handleRestart_returns hrestart
  obtain rfl : identifier' = identifier :=
    Except.ok.inj (hidentifier'.symm.trans (mapError_eq_ok hidentifier))
  obtain ⟨_, _, database, x, rfl, hinspect, hend⟩ := hafterRestart.of_bind
  obtain ⟨inspection, hdatabase, rfl⟩ := inspectRestarted_returns hinspect
  obtain ⟨rfl, rfl, rfl⟩ := hend.of_pure
  exact ⟨⟨identifier', carried, inspection, database⟩, hidentifier', hdatabase, rfl, rfl⟩

theorem handleRestartService_waited {seg : History HostCall.Answer}
    {r : Except Failure RuntimeMetadata}
    (h : (handleRestartService payload host .restartDatabase ()).Produces seg (r, ())) :
    Unwaited payload host seg r ∨ ∃ w polls result, seg = polls ++ w.calls ∧
      Waited payload host w polls result ∧ r = result.map fun _ => restartedMetadata payload := by
  rw [handleRestartService_eq] at h
  obtain ⟨e, u, hbegun, hr⟩ | ⟨before, later, begun, u, rfl, hbegun, hlater⟩ :=
    Method.bind_produced h
  · cases hr
    exact .inl ⟨e, hbegun, rfl⟩
  · obtain ⟨w, hidentifier, hdatabase, rfl, rfl⟩ := beginRestart_returns hbegun
    refine .inr ⟨w, later, ?_⟩
    obtain ⟨e, v, hwait, hr⟩ | ⟨polls, _, _, v, rfl, hwait, hend⟩ := Method.bind_produced hlater
    · cases hr
      exact ⟨.error e, rfl, ⟨hidentifier, hdatabase, hwait⟩, rfl⟩
    · cases hend
      exact ⟨.ok (), rfl, ⟨hidentifier, hdatabase, hwait⟩, rfl⟩

theorem Waited.detects_iff {w : RestartWait} {polls : History HostCall.Answer}
    {result : Except Failure Unit} (h : Waited payload host w polls result) :
    Detects w.database.containerName polls result ↔
      ∀ look, looked w.database.containerName look ∈ polls → Exceeds w.restartBaseline look :=
  waitForDatabaseReadiness_detects_iff
    ((runTaskContainer_calls _ _).mono fun _ => TaskCall.sightless) h.polls

end

/-! A database that looped before and loops again. -/

def loopingPayload : RestartServicePayload :=
  { projectId := some "project", serviceId := "service", variant := .redis
    containerName := some "redis" }

def loopingHost : RestartHost :=
  { config :=
      { serverId := "server", appDomain := "apps.test", dataVolume := "nouva-data"
        traefikContainerName := "nouva-traefik", imageStoreMode := .dockerLocal
        clientIngressPlaceholderUrl := none, hashProjectNetwork := id
        createBuildLogRedactor := fun _ _ => id }
    ownsPublicPort := fun _ _ => false
    dataDir := "/data"
    fuel := 1
    env := fun _ => none
    cmd := fun _ => some ["redis-server", "--requirepass", "secret"]
    portBindings := fun _ => none }

def restartedTimes (restarts : ℤ) : DockerContainerInspection :=
  { id := "id", name := "/redis", image := none, restartCount := some restarts
    state := some ⟨some true, some "running", some 0, some false, none, none, none⟩
    hostConfig := none, config := some ⟨some "redis:7", none, none⟩, networks := none
    mounts := none }

def looping (carried after : ℤ) : Environment HostCall.Answer where
  answer h
    | .agent (.request r) =>
      some (.ok (wellAnswer (fun _ => some (restartedTimes (if h = [] then carried else after))) (.run 1) r))
    | .agent .now => some (0 : ℤ)
    | .agent (.sleep _) => some ()
    | .readFile _ => none
    | .file _ => some (.ok ())
    | .removeVolume _ _ | .listenOnPort _ | .restartContainer _ => some (.ok ())
  pick _ := 0

def loopingDatabase : RestartedDatabase :=
  ⟨"redis", "redis:7", "project", 6379, ⟨"default", "secret", none⟩⟩

def showsLoop (containerName : String) : Event HostCall.Answer → Bool
  | ⟨.agent (.request (.inspectContainer name)), some (.ok (some look))⟩ =>
    decide (name = containerName ∧
      CandidateReadiness.restartLoopThreshold ≤ CandidateReadiness.readRestartCount look)
  | _ => false

theorem looked_of_showsLoop {containerName : String} {e : Event HostCall.Answer}
    (h : showsLoop containerName e = true) : ∃ look, e = looked containerName look ∧
      CandidateReadiness.restartLoopThreshold ≤ CandidateReadiness.readRestartCount look := by
  unfold showsLoop at h
  split at h
  · next name look =>
    obtain ⟨rfl, hlooping⟩ := of_decide_eq_true h
    exact ⟨look, rfl, hlooping⟩
  · cases h

theorem not_detects_of_showsLoop {containerName : String} {polls : History HostCall.Answer}
    (h : polls.any (showsLoop containerName) = true) : ¬ Detects containerName polls (.ok ()) := by
  intro hdetects
  obtain ⟨e, hmem, hshows⟩ := List.any_eq_true.mp h
  obtain ⟨look, rfl, hlooping⟩ := looked_of_showsLoop hshows
  obtain ⟨after, before, hpolls⟩ := List.append_of_mem hmem
  obtain ⟨⟨e, herror⟩, -⟩ := hdetects look before after hpolls hlooping
  cases herror

/-- The container carried three restarts. At the first look after this one it has been restarted
twice more, and the restart is reported as done. -/
theorem handleRestartService_overlooks : ∃ w polls,
    (handleRestartService loopingPayload loopingHost .restartDatabase ()).Produces
      (polls ++ w.calls) (.ok (restartedMetadata loopingPayload), ()) ∧
    Waited loopingPayload loopingHost w polls (.ok ()) ∧ w.restartBaseline = 3 ∧
    ¬ Detects w.database.containerName polls (.ok ()) := by
  have hbegin : ((beginRestart loopingPayload loopingHost ()).run (looping 3 2) []).1 =
      .done (.ok (3, restartedMetadata loopingPayload, loopingDatabase), ()) := by decide +kernel
  have hwait : ((waitForRestarted loopingPayload loopingHost 3 loopingDatabase ()).run (looping 3 2)
      []).1 = .done (.ok (), ()) := by decide +kernel
  have hshown : ((waitForRestarted loopingPayload loopingHost 3 loopingDatabase ()).run (looping 3 2)
      []).2.any (showsLoop "redis") = true := by decide +kernel
  obtain ⟨before, -, hbefore⟩ := Program.run_produces hbegin
  obtain ⟨polls, hpolls, hproduces⟩ := Program.run_produces hwait
  obtain ⟨w, hidentifier, hdatabase, hbegun, rfl⟩ := beginRestart_returns hbefore
  obtain ⟨hbaseline, -, hfound⟩ : 3 = w.restartBaseline ∧
      restartedMetadata loopingPayload = restartedMetadata loopingPayload ∧
        loopingDatabase = w.database := by simpa using hbegun
  rw [hpolls, List.append_nil] at hshown
  refine ⟨w, polls, ?_, ⟨hidentifier, hdatabase, ?_⟩, hbaseline.symm, ?_⟩
  · have hend : (Method.bind (waitForRestarted loopingPayload loopingHost 3 loopingDatabase)
        (fun _ => Method.pure (restartedMetadata loopingPayload)) ()).Produces ([] ++ polls)
          (.ok (restartedMetadata loopingPayload), ()) :=
      Method.Returns.bind_produces hproduces (.ret _)
    rw [handleRestartService_eq]
    exact Method.Returns.bind_produces hbefore hend
  · rw [← hbaseline, ← hfound]
    exact hproduces
  · rw [← hfound]
    exact not_detects_of_showsLoop hshown

/-- A start by hand clears the count of restarts, so a look after the restart shows the automatic
restarts since. The wait fails at each look at which they have reached the threshold if and only if
each such look shows as many above those the container carried before, or fails the container for
another reason. -/
theorem handleRestartService_detects_iff {payload : RestartServicePayload} {host : RestartHost}
    {seg : History HostCall.Answer} {r : Except Failure RuntimeMetadata}
    (h : (handleRestartService payload host .restartDatabase ()).Produces seg (r, ())) :
    Unwaited payload host seg r ∨ ∃ w polls result, seg = polls ++ w.calls ∧
      Waited payload host w polls result ∧ (r = result.map fun _ => restartedMetadata payload) ∧
      (Detects w.database.containerName polls result ↔
        ∀ look, looked w.database.containerName look ∈ polls → Exceeds w.restartBaseline look) := by
  refine (handleRestartService_waited h).imp_right ?_
  rintro ⟨w, polls, result, hseg, hwaited, hr⟩
  exact ⟨w, polls, result, hseg, hwaited, hr, hwaited.detects_iff⟩

theorem handleRestartService_detects_steady : ∃ w polls,
    Waited loopingPayload loopingHost w polls (.ok ()) ∧
      (Detects w.database.containerName polls (.ok ()) ↔
        ∀ look, looked w.database.containerName look ∈ polls → Exceeds w.restartBaseline look) := by
  have hrun : ((handleRestartService loopingPayload loopingHost .restartDatabase ()).run (looping 3 0)
      []).1 = .done (.ok (restartedMetadata loopingPayload), ()) := by decide +kernel
  obtain ⟨seg, -, hseg⟩ := Program.run_produces hrun
  obtain ⟨e, -, hend⟩ | ⟨w, polls, result, -, hwaited, hend, hdetects⟩ :=
    handleRestartService_detects_iff hseg
  · exact nomatch hend
  · cases result with
    | error e => exact nomatch hend
    | ok u => exact ⟨w, polls, hwaited, hdetects⟩

end DatabaseRestart

end NouvaAgent
