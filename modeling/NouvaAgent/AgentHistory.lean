import NouvaAgent.Agent

namespace NouvaAgent

open Interaction

def shown : AgentEvent → List DockerContainerInspection
  | ⟨.request (.inspectContainer _), some (.ok (some container))⟩ => [container]
  | ⟨.request (.listContainersByLabels _), some (.ok containers)⟩ => containers
  | ⟨.request (.listContainersUsingVolume _), some (.ok containers)⟩ => containers
  | _ => []

def Blind : AgentCall → Prop
  | .request r => match r with
    | .inspectContainer _ | .listContainersByLabels _ | .listContainersUsingVolume _ => False
    | _ => True
  | _ => True

def Quiet : AgentCall → Prop
  | .request r => match r with
    | .inspectContainer _ | .listContainersByLabels _ | .listContainersUsingVolume _
    | .stopContainer _ _ _ | .killContainer _ _ | .removeContainer _ _ _
    | .ensureContainer _ _ _ => False
    | _ => True
  | _ => True

theorem Quiet.blind {c : AgentCall} (h : Quiet c) : Blind c := by
  cases c with
  | request r => cases r <;> trivial
  | now => trivial
  | sleep ms => trivial

theorem shown_blind {e : AgentEvent} (h : Blind e.call) : shown e = [] := by
  unfold shown
  split
  · exact h.elim
  · exact h.elim
  · exact h.elim
  · rfl

def readings : AgentHistory → List ℤ
  | [] => []
  | ⟨.now, some time⟩ :: h => time :: readings h
  | _ :: h => readings h

def firstReading : AgentHistory → Option ℤ
  | [] => none
  | ⟨.now, some time⟩ :: h => some ((firstReading h).getD time)
  | _ :: h => firstReading h

theorem firstReading_cons {e : AgentEvent} {h : AgentHistory} {startedAt : ℤ}
    (hf : firstReading h = some startedAt) : firstReading (e :: h) = some startedAt := by
  rcases e with ⟨c, r⟩
  cases c with
  | now =>
    cases r with
    | none => exact hf
    | some time => simp [firstReading, hf]
  | _ => exact hf

theorem firstReading_append {h : AgentHistory} {startedAt : ℤ} (later : AgentHistory)
    (hf : firstReading h = some startedAt) : firstReading (later ++ h) = some startedAt := by
  induction later with
  | nil => exact hf
  | cons e later ih => exact firstReading_cons ih

def wellAnswer (inspect : String → Option DockerContainerInspection)
    (claim : ReleaseJobClaimResponse) : (r : Request) → r.Result
  | .inspectContainer name => inspect name
  | .countContainerExits _ _ _ => 0
  | .listContainersByLabels _ | .listContainersUsingVolume _ => []
  | .createContainer spec | .ensureContainer spec _ _ => "id-" ++ spec.name
  | .waitContainer _ _ => 0
  | .containerLogs _ => ""
  | .containerLogEntries _ _ => []
  | .killContainer _ _ => true
  | .inspectImage name => some ⟨name, none, none, none, none⟩
  | .inspectVolume name => some ⟨some name, none⟩
  | .checkTcpConnect _ _ _ => true
  | .fetchTraefikServices => .ok []
  | .claim _ _ => claim
  | .startContainer _ | .stopContainer _ _ _ | .updateContainerRestartPolicy _ _
  | .removeContainer _ _ _ | .pullImage _ | .removeImage _ _ | .createVolume _ _
  | .ensureNetwork _ _ | .connectNetwork _ _ | .ensureBaseRuntime
  | .writeLocalTraefikRoute _ _ _ _ | .deleteLocalTraefikRoute _ | .report _ _ => ()

def answering (answer : AgentHistory → (r : Request) → Except CallError r.Result) :
    AgentEnvironment where
  answer h
    | .request r => some (answer h r)
    | .now => some (0 : ℤ)
    | .sleep _ => some ()
  pick _ := 0

end NouvaAgent
