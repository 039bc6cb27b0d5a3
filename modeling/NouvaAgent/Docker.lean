import NouvaAgent.Text

namespace NouvaAgent

open Text

abbrev TextRecord := List (String × String)

structure ContainerHealth where
  status : Option String
  deriving DecidableEq, Repr

structure ContainerState where
  running : Option Bool
  status : Option String
  exitCode : Option ℤ
  oomKilled : Option Bool
  startedAt : Option DateText
  finishedAt : Option DateText
  health : Option ContainerHealth
  deriving DecidableEq, Repr

structure HostConfigMount where
  type : Option String
  source : Option String
  target : Option String
  deriving DecidableEq, Repr

structure ContainerHostConfig where
  memory : Option ℤ
  memorySwap : Option ℤ
  binds : Option (List String)
  volumesFrom : Option (List String)
  mounts : Option (List HostConfigMount)
  deriving DecidableEq, Repr

structure ContainerConfig where
  image : Option String
  labels : Option TextRecord
  stopSignal : Option String
  deriving DecidableEq, Repr

structure ContainerMount where
  type : Option String
  name : Option String
  destination : Option String
  deriving DecidableEq, Repr

structure DockerContainerInspection where
  id : String
  name : String
  image : Option String
  restartCount : Option ℤ
  state : Option ContainerState
  hostConfig : Option ContainerHostConfig
  config : Option ContainerConfig
  /-- The networks with the address the container has on each, when `NetworkSettings` came. -/
  networks : Option (List (String × Option String))
  mounts : Option (List ContainerMount)
  deriving DecidableEq, Repr

namespace DockerContainerInspection

def running (container : DockerContainerInspection) : Bool :=
  (container.state.bind ContainerState.running).getD false

def label (container : DockerContainerInspection) (key : String) : Option String :=
  (container.config.bind ContainerConfig.labels).bind (·.lookup key)

def Named (container : DockerContainerInspection) (nameOrId : String) : Prop :=
  container.id = nameOrId ∨ container.name = nameOrId ∨ withoutSlash container.name = nameOrId

instance (container : DockerContainerInspection) (nameOrId : String) :
    Decidable (container.Named nameOrId) := by unfold Named; infer_instance

end DockerContainerInspection

structure ImageHealthcheck where
  test : Option (List String)
  interval : Option ℤ
  timeout : Option ℤ
  retries : Option ℤ
  startPeriod : Option ℤ
  deriving DecidableEq, Repr

structure DockerImageInspection where
  id : String
  volumes : Option (List String)
  entrypoint : Option (List String)
  cmd : Option (List String)
  healthcheck : Option ImageHealthcheck
  deriving DecidableEq, Repr

structure DockerVolumeInspection where
  name : Option String
  labels : Option TextRecord
  deriving DecidableEq, Repr

structure DockerResourceSettings where
  nanoCpus : ℤ
  memory : ℤ
  memorySwap : ℤ
  pidsLimit : ℤ
  deriving DecidableEq, Repr

structure ContainerSpecMount where
  source : String
  target : String
  readOnly : Bool
  deriving DecidableEq, Repr

structure DockerContainerSpec where
  name : String
  image : String
  env : List String := []
  entrypoint : Option (List String) := none
  cmd : Option (List String) := none
  labels : TextRecord := []
  healthcheck : Option ImageHealthcheck := none
  stopSignal : Option String := none
  stopTimeoutSeconds : Option ℕ := none
  mounts : List ContainerSpecMount := []
  restartPolicy : Option String := none
  resources : Option DockerResourceSettings := none
  network : Option String := none
  deriving DecidableEq, Repr

structure DockerLogEntry where
  stderr : Bool
  line : String
  deriving DecidableEq, Repr

end NouvaAgent
