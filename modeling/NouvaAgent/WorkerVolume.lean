import NouvaAgent.WorkerDeployment

namespace NouvaAgent

open Text Interaction Agent

structure WorkerDeployment where
  environment : WorkerRuntimeEnvironment
  payload : WorkerDeployOnlyPayload
  fuel : ℕ

def workerVolumeSnapshotImage : String := "alpine:3.21"

def buildWorkerVolumeSnapshotName (serviceId deploymentId : String) : String :=
  serviceId ++ "-" ++ deploymentId ++ ".tar.gz"

/-- `snapshotName.replace(/\.tar\.gz$/, "")`. -/
def withoutArchiveSuffix (snapshotName : String) : String :=
  if ".tar.gz".toList.isSuffixOf snapshotName.toList then
    String.ofList (snapshotName.toList.take (snapshotName.toList.length - 7))
  else snapshotName

def keptWorkerVolumeSnapshotName (snapshotName : String) (keptAt : ℤ) : String :=
  "kept/" ++ withoutArchiveSuffix snapshotName ++ "-" ++ toString keptAt ++ ".tar.gz"

def snapshotCommand (snapshotName : String) : String := "\n".intercalate
  ["mkdir -p /agent-data/worker-volume-snapshots",
    "final=/agent-data/worker-volume-snapshots/" ++ snapshotName,
    "if [ -s \"$final\" ]; then exit 0; fi",
    "required=$(du -sk /source | awk '\x7bprint $1\x7d')",
    "available=$(df -Pk /agent-data | awk 'NR==2 \x7bprint $4\x7d')",
    "if [ \"$available\" -le \"$required\" ]; then echo \"Insufficient snapshot capacity\" >&2; exit 1; fi",
    "tmp=\"$final.tmp\"",
    "rm -f \"$tmp\"",
    "tar -C /source -czpf \"$tmp\" .",
    "test -s \"$tmp\"",
    "mv \"$tmp\" \"$final\""]

def restoreCommand (snapshotName : String) : String := "\n".intercalate
  ["archive=/agent-data/worker-volume-snapshots/" ++ snapshotName,
    "test -s \"$archive\"",
    "find /target -mindepth 1 -maxdepth 1 -exec rm -rf -- \x7b\x7d +",
    "tar -C /target -xzpf \"$archive\""]

def cleanupCommand (snapshotName : String) : String :=
  "rm -f /agent-data/worker-volume-snapshots/" ++ snapshotName

def keepCommand (snapshotName keptName : String) : String := "\n".intercalate
  ["mkdir -p /agent-data/worker-volume-snapshots/kept",
    "mv /agent-data/worker-volume-snapshots/" ++ snapshotName ++
      " /agent-data/worker-volume-snapshots/" ++ keptName]

namespace WorkerDeployment

variable (d : WorkerDeployment) {σ : Type}

def snapshotName : String :=
  buildWorkerVolumeSnapshotName d.payload.serviceId d.payload.deploymentId

def taskSpec (name command : String) (mounts : List ContainerSpecMount) : DockerContainerSpec :=
  { name
    image := workerVolumeSnapshotImage
    entrypoint := some ["/bin/sh", "-ec"]
    cmd := some [command]
    labels := buildWorkerLabels
      { serverId := d.environment.serverId, kind := "worker_volume_task"
        projectId := d.payload.projectId, serviceId := d.payload.serviceId }
    mounts }

def taskSuffix : String := slice 12 d.payload.deploymentId

def snapshotSpec (volume : AppVolumeIdentity) : DockerContainerSpec :=
  d.taskSpec ("nouva-worker-snapshot-" ++ d.taskSuffix) (snapshotCommand d.snapshotName)
    [⟨volume.volumeName, "/source", true⟩, ⟨d.environment.dataVolume, "/agent-data", false⟩]

def restoreSpec (volume : AppVolumeIdentity) (snapshotName : String) : DockerContainerSpec :=
  d.taskSpec ("nouva-worker-restore-" ++ d.taskSuffix) (restoreCommand snapshotName)
    [⟨volume.volumeName, "/target", false⟩, ⟨d.environment.dataVolume, "/agent-data", true⟩]

def cleanupSpec (snapshotName : String) : DockerContainerSpec :=
  d.taskSpec ("nouva-worker-snapshot-cleanup-" ++ d.taskSuffix) (cleanupCommand snapshotName)
    [⟨d.environment.dataVolume, "/agent-data", false⟩]

def keepSpec (snapshotName keptName : String) : DockerContainerSpec :=
  d.taskSpec ("nouva-worker-snapshot-keep-" ++ d.taskSuffix) (keepCommand snapshotName keptName)
    [⟨d.environment.dataVolume, "/agent-data", false⟩]

end WorkerDeployment

namespace WorkerVolume

variable {σ : Type}

def failTask {α : Type} (id name : String) (status : ℤ) : AgentMethod σ α := do
  let logs ← Method.settle (request (.containerLogs id))
  let text := trim (logs.toOption.getD "")
  throw (.error (if text = "" then
    "Worker volume task " ++ name ++ " failed (" ++ toString status ++ ")" else text))

def awaitTask (id name : String) : AgentMethod σ Unit := do
  request (.startContainer id)
  let status ← request (.waitContainer id none)
  if status = 0 then pure () else failTask id name status

def runWorkerVolumeTask (spec : DockerContainerSpec) : AgentMethod σ Unit := do
  request (.pullImage spec.image)
  request (.removeContainer spec.name true none)
  let id ← request (.createContainer spec)
  Method.finally_ (awaitTask id spec.name) (request (.removeContainer id true none))

variable (d : WorkerDeployment)

def createWorkerVolumeSnapshot (volume : AppVolumeIdentity) : AgentMethod σ String := do
  request (.createVolume d.environment.dataVolume [])
  runWorkerVolumeTask (d.snapshotSpec volume)
  pure d.snapshotName

def restoreWorkerVolumeSnapshot (volume : AppVolumeIdentity) (snapshotName : String) :
    AgentMethod σ Unit :=
  runWorkerVolumeTask (d.restoreSpec volume snapshotName)

def deleteWorkerVolumeSnapshotBestEffort (snapshotName : String) : AgentMethod σ Unit := do
  let _ ← Method.settle (runWorkerVolumeTask (d.cleanupSpec snapshotName))
  pure ()

def keepWorkerVolumeSnapshot (snapshotName : String) (keptAt : ℤ) : AgentMethod σ String := do
  let keptName := keptWorkerVolumeSnapshotName snapshotName keptAt
  match ← Method.settle (runWorkerVolumeTask (d.keepSpec snapshotName keptName)) with
  | .ok _ => pure ("worker-volume-snapshots/" ++ keptName)
  | .error _ => pure ("worker-volume-snapshots/" ++ snapshotName)

def assertNoUnexpectedVolumeConsumer (volumeName : String) (allowedNames : List String) :
    AgentMethod σ Unit := do
  let consumers ← request (.listContainersUsingVolume volumeName)
  if consumers.all fun container =>
      !container.running || getContainerName container ∈ allowedNames then pure ()
  else throw (.error ("Volume " ++ volumeName ++ " has another running consumer"))

def assertVolumeUnused (volume : Option AppVolumeIdentity) (allowedNames : List String) :
    AgentMethod σ Unit :=
  match volume with
  | none => pure ()
  | some volume => assertNoUnexpectedVolumeConsumer volume.volumeName allowedNames

end WorkerVolume

end NouvaAgent
