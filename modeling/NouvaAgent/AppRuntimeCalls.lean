import NouvaAgent.AppRollout

namespace NouvaAgent.AppDeployment

open Text Interaction Agent Method CandidateReadiness

variable {S : AgentCall → Prop} {X : Failure → Prop} {d : AppDeployment}

def ProbeCall (name : String) : AgentCall → Prop
  | .now | .sleep _ => True
  | .request r => match r with
    | .inspectContainer n => n = name
    | .countContainerExits _ _ _ | .checkTcpConnect _ _ _ => True
    | _ => False

def RouteCall : AgentCall → Prop
  | .now | .sleep _ => True
  | .request r => match r with
    | .writeLocalTraefikRoute _ _ _ _ | .deleteLocalTraefikRoute _ | .fetchTraefikServices => True
    | _ => False

def TaskCall (spec : DockerContainerSpec) (c : AgentCall) (h : AgentHistory) : Prop :=
  match c with
  | .request (.pullImage _) | .request (.removeContainer _ _ _) | .request (.waitContainer _ _)
  | .request (.containerLogs _) => True
  | .request (.createContainer made) => made = spec
  | .request (.startContainer id) => ⟨.request (.createContainer spec), some (.ok id)⟩ ∈ h
  | _ => False

def Plain (X : Failure → Prop) : Prop := (∀ e, X (.call e)) ∧ ∀ message, X (.error message)

theorem countRestartLoop_uses {inspection : DockerContainerInspection} {untilMs threshold : ℤ}
    (hcount : ∀ id a b, S (.request (.countContainerExits id a b))) :
    (countRestartLoop inspection untilMs threshold : AgentAction ℤ).Uses S := by
  unfold countRestartLoop countRecentRestarts
  split
  · exact uses_pure _
  · dsimp only
    split
    · exact uses_pure _
    · refine uses_bind (uses_settle (uses_request (hcount _ _ _))) fun r => ?_
      cases r <;> exact uses_pure _

theorem readHistory_uses {options : ReadinessOptions} {inspection : DockerContainerInspection}
    {inspectedAt : ℤ} {history : Option RestartHistory}
    (hcount : ∀ id a b, S (.request (.countContainerExits id a b))) :
    (readHistory options inspection inspectedAt history).Uses S := by
  unfold readHistory
  split
  · exact uses_bind (countRestartLoop_uses hcount) fun _ => uses_pure _
  · exact uses_pure _

theorem waitForAppCandidateReadiness_uses {name : String} {port : ℤ} {options : ReadinessOptions}
    (hS : ∀ c, ProbeCall name c → S c) :
    (d.waitForAppCandidateReadiness name port options).Uses S := by
  have hnow : (now : AgentAction ℤ).Uses S := uses_now (hS _ trivial)
  have poll (deadline : ℤ) (fuel : ℕ) (evidence : CandidateRuntimeEvidence)
      (history : Option RestartHistory) (lastError : String) :
      (d.pollReadiness name port options deadline fuel evidence history lastError).Uses S := by
    induction fuel generalizing evidence history lastError with
    | zero => exact uses_cut
    | succ fuel ih =>
      have again (evidence : CandidateRuntimeEvidence) (history : Option RestartHistory)
          (message : String) : (Method.bind (sleep d.rollout.readiness.intervalMs) fun _ =>
            d.pollReadiness name port options deadline fuel evidence history message).Uses S :=
        uses_bind (uses_sleep (hS _ trivial)) fun _ => ih _ _ _
      refine uses_bind hnow fun time => ?_
      split
      · refine uses_bind hnow fun inspectedAt =>
          uses_bind (uses_request (hS _ rfl)) fun found => ?_
        cases found with
        | none => exact uses_throw _
        | some inspection =>
          refine uses_bind (readHistory_uses fun _ _ _ => hS _ trivial) fun history => ?_
          dsimp only
          split
          · exact uses_pure ()
          · exact uses_throw _
          · refine uses_bind (uses_request (hS _ trivial)) fun reachable => ?_
            split
            · exact uses_pure ()
            · exact again _ _ _
          · exact again _ _ _
      · exact uses_throw _
  exact uses_bind hnow fun _ => poll _ _ _ _ _

theorem previousAppRuntimeCanServe_uses {name : String} {port : ℤ} {stop : Option AppContainerStop}
    (hS : ∀ c, ProbeCall name c → S c) :
    (d.previousAppRuntimeCanServe name port stop).Uses S := by
  refine uses_bind (uses_settle (waitForAppCandidateReadiness_uses hS)) fun r => ?_
  cases r <;> exact uses_pure _

theorem routeTo_uses {serviceUrl : String} (hS : ∀ c, RouteCall c → S c) :
    (d.routeTo serviceUrl).Uses S := by
  have hnow : (now : AgentAction ℤ).Uses S := uses_now (hS _ trivial)
  have poll (deadline : ℤ) (fuel : ℕ) (lastError : String) :
      (d.pollCutover serviceUrl deadline fuel lastError).Uses S := by
    induction fuel generalizing lastError with
    | zero => exact uses_cut
    | succ fuel ih =>
      refine uses_bind hnow fun time => ?_
      split
      · refine uses_bind (uses_request (hS _ trivial)) fun response => ?_
        cases response with
        | failed status => exact uses_bind (uses_sleep (hS _ trivial)) fun _ => ih _
        | ok services =>
          dsimp only
          split
          · exact uses_pure ()
          · exact uses_bind (uses_sleep (hS _ trivial)) fun _ => ih _
      · exact uses_throw _
  exact uses_bind (uses_request (hS _ trivial)) fun _ => uses_bind hnow fun _ => poll _ _ _

theorem moveAppTraffic_uses {serviceUrl : String} (hS : ∀ c, RouteCall c → S c) :
    (d.moveAppTraffic serviceUrl).Uses S := by
  refine uses_bind (uses_settle (routeTo_uses hS)) fun r => ?_
  cases r <;> exact uses_pure _

theorem routeAppServiceWithoutRuntime_uses (hS : ∀ c, RouteCall c → S c) :
    d.routeAppServiceWithoutRuntime.Uses S := by
  unfold routeAppServiceWithoutRuntime
  split
  · exact uses_request (hS _ trivial)
  · split
    · exact uses_throw _
    · exact uses_request (hS _ trivial)

theorem removeRejectedAppImage_uses (h : ∀ image force, S (.request (.removeImage image force))) :
    d.removeRejectedAppImage.Uses S := by
  unfold removeRejectedAppImage
  split
  · exact uses_pure ()
  · exact uses_bind (uses_settle (uses_request (h _ _))) fun _ => uses_pure ()

theorem runTaskContainer_wp {F : AgentEvent → AgentHistory → Prop} {spec : DockerContainerSpec}
    {J : AgentHistory → Prop} {h : AgentHistory}
    (hJ : ∀ c r h, TaskCall spec c h → J h → J (⟨c, r⟩ :: h)) (hj : J h) :
    (runTaskContainer spec).wp (assuming F) (Post.always J) () h := by
  have keep {r : Request} {h : AgentHistory} (hc : TaskCall spec (.request r) h) (hj : J h) :
      (request r : AgentAction r.Result).wp (assuming F) (Post.always J) () h :=
    (wp_request_assuming r).mpr ⟨fun _ => hJ _ _ _ hc hj, fun _ _ => hJ _ _ _ hc hj,
      fun _ _ => hJ _ _ _ hc hj⟩
  refine wp_bind_of (R := fun _ _ => J) (keep trivial hj) fun _ _ h hj => ?_
  refine wp_bind_of (R := fun _ _ => J) (keep trivial hj) fun _ _ h hj => ?_
  refine wp_bind_of (R := fun id _ h => J h ∧
    ⟨.request (.createContainer spec), some (.ok id)⟩ ∈ h) ((wp_request_assuming _).mpr
      ⟨fun _ => hJ _ _ _ rfl hj, fun _ _ => hJ _ _ _ rfl hj,
        fun _ _ => ⟨hJ _ _ _ rfl hj, List.mem_cons_self⟩⟩) fun id _ h hi => ?_
  have hremove (h : AgentHistory) (hj : J h) :
      (request (.removeContainer id true none) : AgentAction Unit).wp (assuming F)
        (Post.always J) () h := keep trivial hj
  refine (wp_finally _ _).mpr ?_
  refine wp_mono (Q := Post.always J) ?_ (fun _ _ h hj => hremove h hj)
    (fun _ _ h hj => hremove h hj) fun _ hj => hj
  refine wp_bind_of (R := fun _ _ => J) (keep hi.2 hi.1) fun _ _ h hj => ?_
  refine wp_bind_of (R := fun _ _ => J) (keep trivial hj) fun statusCode _ h hj => ?_
  refine wp_bind_of (R := fun _ _ => J) ((wp_settle _).mpr (keep trivial hj)) fun _ _ h hj => ?_
  split
  · exact hj
  · exact hj

theorem pollReadiness_throws (hX : Plain X) {name : String} {port : ℤ} {options : ReadinessOptions}
    {deadline : ℤ} (fuel : ℕ) (evidence : CandidateRuntimeEvidence)
    (history : Option RestartHistory) (lastError : String) :
    (d.pollReadiness name port options deadline fuel evidence history lastError).Throws X := by
  induction fuel generalizing evidence history lastError with
  | zero => exact throws_cut
  | succ fuel ih =>
    have again (evidence : CandidateRuntimeEvidence) (history : Option RestartHistory)
        (message : String) : (Method.bind (sleep d.rollout.readiness.intervalMs) fun _ =>
          d.pollReadiness name port options deadline fuel evidence history message).Throws X :=
      throws_bind (throws_ask _) fun _ => ih _ _ _
    refine throws_bind (throws_ask _) fun time => ?_
    split
    · refine throws_bind (throws_ask _) fun inspectedAt =>
        throws_bind (throws_request hX.1) fun found => ?_
      cases found with
      | none => exact throws_throw (hX.2 _)
      | some inspection =>
        refine throws_bind ?_ fun history => ?_
        · unfold readHistory
          split
          · refine throws_bind ?_ fun _ => throws_pure _
            unfold countRestartLoop countRecentRestarts
            split
            · exact throws_pure _
            · dsimp only
              split
              · exact throws_pure _
              · refine throws_bind throws_settle fun r => ?_
                cases r <;> exact throws_pure _
          · exact throws_pure _
        · dsimp only
          split
          · exact throws_pure ()
          · exact throws_throw (hX.2 _)
          · refine throws_bind (throws_request hX.1) fun reachable => ?_
            split
            · exact throws_pure ()
            · exact again _ _ _
          · exact again _ _ _
    · exact throws_throw (hX.2 _)

theorem waitForAppCandidateReadiness_throws (hX : Plain X) {name : String} {port : ℤ}
    {options : ReadinessOptions} : (d.waitForAppCandidateReadiness name port options).Throws X :=
  throws_bind (throws_ask _) fun _ => pollReadiness_throws hX _ _ _ _

theorem previousAppRuntimeCanServe_throws {name : String} {port : ℤ}
    {stop : Option AppContainerStop} : (d.previousAppRuntimeCanServe name port stop).Throws X := by
  refine throws_bind throws_settle fun r => ?_
  cases r <;> exact throws_pure _

theorem pollCutover_throws (hX : Plain X) {serviceUrl : String} {deadline : ℤ} (fuel : ℕ)
    (lastError : String) : (d.pollCutover serviceUrl deadline fuel lastError).Throws X := by
  induction fuel generalizing lastError with
  | zero => exact throws_cut
  | succ fuel ih =>
    refine throws_bind (throws_ask _) fun time => ?_
    split
    · refine throws_bind (throws_request hX.1) fun response => ?_
      cases response with
      | failed status => exact throws_bind (throws_ask _) fun _ => ih _
      | ok services =>
        dsimp only
        split
        · exact throws_pure ()
        · exact throws_bind (throws_ask _) fun _ => ih _
    · exact throws_throw (hX.2 _)

theorem routeTo_throws (hX : Plain X) {serviceUrl : String} : (d.routeTo serviceUrl).Throws X :=
  throws_bind (throws_request hX.1) fun _ =>
    throws_bind (throws_ask _) fun _ => pollCutover_throws hX _ _

theorem moveAppTraffic_throws {serviceUrl : String} : (d.moveAppTraffic serviceUrl).Throws X := by
  refine throws_bind throws_settle fun r => ?_
  cases r <;> exact throws_pure _

theorem verifyContainerAbsent_throws (hX : Plain X) {identifier : Option String} :
    (verifyContainerAbsent identifier).Throws X := by
  unfold verifyContainerAbsent
  cases present identifier with
  | none => exact throws_pure ()
  | some name =>
    refine throws_bind (throws_request hX.1) fun found => ?_
    cases found with
    | none => exact throws_pure ()
    | some _ => exact throws_throw (hX.2 _)

theorem assertSingleRunningVolumeConsumer_throws (hX : Plain X) {volumeName : String}
    {expected : Option String} :
    (assertSingleRunningVolumeConsumer volumeName expected).Throws X := by
  refine throws_bind (throws_request hX.1) fun consumers => ?_
  split
  · exact throws_pure ()
  · exact throws_throw (hX.2 _)

theorem removeRejectedAppImage_throws : d.removeRejectedAppImage.Throws X := by
  unfold removeRejectedAppImage
  split
  · exact throws_pure ()
  · exact throws_bind throws_settle fun _ => throws_pure ()

def sampleConfig : AgentRuntimeConfig where
  serverId := "server-1"
  appDomain := "apps.example"
  dataVolume := "agent-data"
  traefikContainerName := "traefik"
  imageStoreMode := .localRegistry
  clientIngressPlaceholderUrl := some ⟨"https://example", "/pending"⟩
  hashProjectNetwork := id
  createBuildLogRedactor := fun _ _ => id

def sampleVolume : AppVolumeIdentity := ⟨"volume-1", "app-data", "/data"⟩

def sampleDeployment (volume : Option AppVolumeIdentity) : AppDeployment where
  config := sampleConfig
  payload :=
    { projectId := "project-1"
      serviceId := "service1"
      deploymentId := "deploy01"
      commitHash := "abc"
      subdomain := "shop"
      imageUrl := "app:2"
      volume
      runtimeMetadata := { containerName := some "old-app" } }
  releasePhases := none
  fuel := 2

def sampleContainer (name health : String) : DockerContainerInspection where
  id := "id-" ++ name
  name := "/" ++ name
  image := none
  restartCount := some 0
  state := some ⟨some true, some "running", some 0, some false, none, none, some ⟨some health⟩⟩
  hostConfig := none
  config := none
  networks := none
  mounts := none

end NouvaAgent.AppDeployment
