import NouvaAgent.Docker
import NouvaAgent.ReleasePhases
import NouvaAgent.Interaction.Returns

namespace NouvaAgent

open Text Interaction

/-- What a promise is rejected with. Only errors have a message; `text` is that message, or what
`String(error)` writes of any other value. `status` is set where the value carries a number. -/
structure CallError where
  isError : Bool
  text : String
  status : Option ℤ
  deriving DecidableEq, Repr

structure RouteHostnames where
  providedHostname : Option String
  customHostnames : List String
  deriving DecidableEq, Repr

structure RouteOptions where
  passHostHeader : Bool
  replacePath : String
  deriving DecidableEq, Repr

structure TraefikService where
  name : Option String
  serverUrl : Option String
  deriving DecidableEq, Repr

inductive TraefikServices
  | failed (status : ℤ)
  | ok (services : List TraefikService)
  deriving DecidableEq, Repr

inductive Request
  | inspectContainer (nameOrId : String)
  | countContainerExits (containerId : String) (sinceMs untilMs : ℤ)
  | listContainersByLabels (labels : TextRecord)
  | listContainersUsingVolume (volumeName : String)
  | createContainer (spec : DockerContainerSpec)
  | startContainer (nameOrId : String)
  | waitContainer (id : String) (timeoutMs : Option ℕ)
  | containerLogs (id : String)
  | containerLogEntries (nameOrId : String) (tail : ℕ)
  | stopContainer (nameOrId : String) (timeoutSeconds requestTimeoutMs : Option ℤ)
  | killContainer (nameOrId signal : String)
  | updateContainerRestartPolicy (nameOrId policy : String)
  | removeContainer (nameOrId : String) (force : Bool) (timeoutMs : Option ℤ)
  | ensureContainer (spec : DockerContainerSpec) (replace pull : Bool)
  | inspectImage (nameOrId : String)
  | pullImage (image : String)
  | removeImage (nameOrId : String) (force : Bool)
  | inspectVolume (name : String)
  | createVolume (name : String) (labels : TextRecord)
  | ensureNetwork (name : String) (labels : TextRecord)
  | connectNetwork (network container : String)
  | ensureBaseRuntime
  | checkTcpConnect (host : String) (port timeoutMs : ℤ)
  | fetchTraefikServices
  | writeLocalTraefikRoute (serviceId : String) (hostnames : RouteHostnames) (serviceUrl : String)
      (options : Option RouteOptions)
  | deleteLocalTraefikRoute (serviceId : String)
  | claim (phase : ReleasePhase) (runningJobDeploymentIds : List String)
  | report (phase : ReleasePhase) (report : ReleaseJobReport)
  deriving DecidableEq, Repr

namespace Request

abbrev Result : Request → Type
  | inspectContainer _ => Option DockerContainerInspection
  | countContainerExits _ _ _ => ℕ
  | listContainersByLabels _ => List DockerContainerInspection
  | listContainersUsingVolume _ => List DockerContainerInspection
  | createContainer _ => String
  | waitContainer _ _ => ℤ
  | containerLogs _ => String
  | containerLogEntries _ _ => List DockerLogEntry
  | killContainer _ _ => Bool
  | ensureContainer _ _ _ => String
  | inspectImage _ => Option DockerImageInspection
  | inspectVolume _ => Option DockerVolumeInspection
  | checkTcpConnect _ _ _ => Bool
  | fetchTraefikServices => TraefikServices
  | claim _ _ => ReleaseJobClaimResponse
  | startContainer _ | stopContainer _ _ _ | updateContainerRestartPolicy _ _
  | removeContainer _ _ _ | pullImage _ | removeImage _ _ | createVolume _ _ | ensureNetwork _ _
  | connectNetwork _ _ | ensureBaseRuntime | writeLocalTraefikRoute _ _ _ _
  | deleteLocalTraefikRoute _ | report _ _ => Unit

end Request

/-- A step the agent takes outside its own memory: a request that may be rejected, a look at the
clock, or a pause. -/
inductive AgentCall
  | request (r : Request)
  | now
  | sleep (ms : ℤ)
  deriving DecidableEq, Repr

abbrev AgentCall.Answer : AgentCall → Type
  | request r => Except CallError r.Result
  | now => ℤ
  | sleep _ => Unit

abbrev AgentEvent := Event AgentCall.Answer

abbrev AgentHistory := History AgentCall.Answer

abbrev AgentEnvironment := Environment AgentCall.Answer

inductive AppRolloutStrategy
  | candidateReadyCutover
  | singleWriterSnapshotCutover
  deriving DecidableEq, Repr

inductive AppRolloutPhase
  | release
  | quiesce
  | snapshot
  | ready
  | retire
  | restore
  | rollback
  deriving DecidableEq, Repr

inductive AppRolloutOutcome
  | committed
  | abortedBeforeCutover
  | rolledBack
  deriving DecidableEq, Repr

inductive PreviousContainerRetirement
  | graceful
  | forced
  | deferred
  deriving DecidableEq, Repr

structure AppRolloutResult where
  reusedCandidate : Bool := false
  strategy : AppRolloutStrategy
  outcome : AppRolloutOutcome
  currentPhase : AppRolloutPhase
  liveRuntimePreserved : Bool
  rollbackCompleted : Bool
  drainDurationMs : Option ℤ := none
  previousContainerRetirement : Option PreviousContainerRetirement := none
  activeContainerName : Option String
  candidateContainerName : Option String
  deriving DecidableEq, Repr

inductive Failure
  | call (error : CallError)
  | error (message : String)
  | appRollout (message : String) (rollout : AppRolloutResult)
  | releaseJobHalt (message : String) (rollout : AppRolloutResult)
  | releaseJobDeferred (message : String)
  deriving DecidableEq, Repr

def Failure.message (fallback : String) : Failure → String
  | .call e => if e.isError then e.text else fallback
  | .error message => message
  | .appRollout message _ => message
  | .releaseJobHalt message _ => message
  | .releaseJobDeferred message => message

def Failure.rollout : Failure → Option AppRolloutResult
  | .appRollout _ rollout => some rollout
  | .releaseJobHalt _ rollout => some rollout
  | _ => none

def Failure.status : Failure → Option ℤ
  | .call e => e.status
  | _ => none

abbrev AgentMethod (σ α : Type) := Method AgentCall.Answer Failure σ α

abbrev AgentAction (α : Type) := Action AgentCall.Answer Failure α

namespace Agent

variable {W σ : Type}

def request (r : Request) : AgentMethod σ r.Result :=
  Method.bind (Method.ask (AgentCall.request r)) fun
    | .ok a => Method.pure a
    | .error e => Method.throw (.call e)

def now : AgentMethod σ ℤ := Method.ask AgentCall.now

def sleep (ms : ℤ) : AgentMethod σ Unit := Method.ask (AgentCall.sleep ms)

theorem request_eq_lift (r : Request) :
    (request r : AgentMethod σ r.Result) = Method.lift (request r) :=
  Method.bind_eq_lift rfl fun answer => by cases answer <;> rfl

theorem wp_request (r : Request) {M : Model AgentCall.Answer W} {Q : Post Failure σ r.Result W}
    {s : σ} {w : W} : (request r).wp M Q s w ↔
      (∀ w', M w (.request r) none w' → Q.cut w') ∧
      (∀ e w', M w (.request r) (some (.error e)) w' → Q.err (.call e) s w') ∧
      ∀ a w', M w (.request r) (some (.ok a)) w' → Q.ok a s w' := by
  simp only [request, Method.wp_bind, Method.wp_ask]
  refine and_congr_right fun _ => ⟨fun h => ⟨fun e w' => h _ w', fun a w' => h _ w'⟩, ?_⟩
  rintro h (e | a) w' hs
  · exact h.1 e w' hs
  · exact h.2 a w' hs

theorem wp_request_assuming (r : Request) {F : AgentEvent → AgentHistory → Prop}
    {Q : Post Failure σ r.Result AgentHistory} {s : σ} {h : AgentHistory} :
    (request r).wp (assuming F) Q s h ↔
      (F ⟨.request r, none⟩ h → Q.cut (⟨.request r, none⟩ :: h)) ∧
      (∀ e, F ⟨.request r, some (.error e)⟩ h →
        Q.err (.call e) s (⟨.request r, some (.error e)⟩ :: h)) ∧
      ∀ a, F ⟨.request r, some (.ok a)⟩ h → Q.ok a s (⟨.request r, some (.ok a)⟩ :: h) := by
  simp only [wp_request, assuming, and_imp, forall_eq]

theorem wp_now_assuming {F : AgentEvent → AgentHistory → Prop} {Q : Post Failure σ ℤ AgentHistory}
    {s : σ} {h : AgentHistory} : now.wp (assuming F) Q s h ↔
      (F ⟨.now, none⟩ h → Q.cut (⟨.now, none⟩ :: h)) ∧
        ∀ time, F ⟨.now, some time⟩ h → Q.ok time s (⟨.now, some time⟩ :: h) :=
  Method.wp_ask_assuming _

theorem wp_sleep_assuming (ms : ℤ) {F : AgentEvent → AgentHistory → Prop}
    {Q : Post Failure σ Unit AgentHistory} {s : σ} {h : AgentHistory} :
    (sleep ms).wp (assuming F) Q s h ↔ (F ⟨.sleep ms, none⟩ h → Q.cut (⟨.sleep ms, none⟩ :: h)) ∧
      (F ⟨.sleep ms, some ()⟩ h → Q.ok () s (⟨.sleep ms, some ()⟩ :: h)) := by
  refine (Method.wp_ask_assuming _).trans (and_congr_right fun _ => ?_)
  exact ⟨fun h => h (), fun h _ => h⟩

variable {S : AgentCall → Prop}

theorem uses_request {r : Request} (h : S (.request r)) :
    (request r : AgentMethod σ r.Result).Uses S :=
  Method.uses_bind (Method.uses_ask h) fun
    | .ok a => Method.uses_pure a
    | .error _ => Method.uses_throw _

theorem throws_request {X : Failure → Prop} {r : Request} (h : ∀ e, X (.call e)) :
    (request r : AgentMethod σ r.Result).Throws X :=
  Method.throws_bind (Method.throws_ask _) fun
    | .ok a => Method.throws_pure a
    | .error e => Method.throws_throw (h e)

theorem uses_now (h : S .now) : (now : AgentMethod σ ℤ).Uses S := Method.uses_ask h

theorem uses_sleep {ms : ℤ} (h : S (.sleep ms)) : (sleep ms : AgentMethod σ Unit).Uses S :=
  Method.uses_ask h

theorem framed_request {r : Request} (h : S (.request r)) :
    (request r : AgentMethod σ r.Result).Framed S :=
  Method.framed_bind (Method.framed_ask h) fun
    | .ok a => Method.framed_pure a
    | .error _ => Method.framed_throw _

theorem framed_now (h : S .now) : (now : AgentMethod σ ℤ).Framed S := Method.framed_ask h

theorem framed_sleep {ms : ℤ} (h : S (.sleep ms)) : (sleep ms : AgentMethod σ Unit).Framed S :=
  Method.framed_ask h

theorem returns_request {r : Request} {s s' : σ} {seg : AgentHistory} {a : r.Result}
    (h : (request r : AgentMethod σ r.Result).Returns s seg a s') :
    seg = [⟨.request r, some (.ok a)⟩] ∧ s' = s := by
  obtain ⟨before, later, answer, t, rfl, hask, hanswer⟩ := h.of_bind
  obtain ⟨rfl, rfl⟩ := hask.of_ask
  cases answer with
  | error e => cases hanswer
  | ok b =>
    obtain ⟨rfl, rfl, rfl⟩ := hanswer.of_pure
    exact ⟨rfl, rfl⟩

theorem returns_settled_request {r : Request} {s s' : σ} {seg : AgentHistory}
    {x : Except Failure r.Result}
    (h : (request r : AgentMethod σ r.Result).settle.Returns s seg x s') :
    ∃ answer, seg = [⟨.request r, answer⟩] := by
  obtain ⟨_, _, _, rfl, hrequest, hend⟩ := Program.Produces.of_bind h
  cases hend
  obtain ⟨_, _, _, rfl, hask, hanswer⟩ := Program.Produces.of_bind hrequest
  cases hask with
  | call hn =>
    cases hn
    rename_i answer
    cases answer <;> cases hanswer <;> exact ⟨some _, rfl⟩

end Agent

end NouvaAgent
