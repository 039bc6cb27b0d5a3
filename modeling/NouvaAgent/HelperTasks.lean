import NouvaAgent.DatabaseProvision
import NouvaAgent.Interaction.Laws
import NouvaAgent.Reading.Lines

namespace NouvaAgent

open Text Interaction Host DatabaseProvision Reading

structure HydratedHelperPayload where
  imageUrl : Option String
  envVars : Option TextRecord
  containerArgs : Option (List String)
  mountPath : Option String
  dataPath : Option String

structure HelperSpec where
  image : String
  envVars : TextRecord
  containerArgs : List String
  mountPath : String
  dataPath : String
  deriving DecidableEq, Repr

def HelperSpec.env (spec : HelperSpec) : List String :=
  spec.envVars.map fun entry => entry.1 ++ "=" ++ entry.2

namespace HelperTasks

def resolveHydratedHelperSpec (payload : HydratedHelperPayload) : Except String HelperSpec :=
  match present payload.imageUrl, present payload.mountPath, present payload.dataPath,
    payload.envVars with
  | some image, some mountPath, some dataPath, some envVars =>
    .ok { image, envVars, containerArgs := payload.containerArgs.getD [], mountPath, dataPath }
  | _, _, _, _ => .error "Backup helper payload is missing hydrated executor fields"

def lines (logs : String) : List (List Char) :=
  (completed '\n' logs.toList).map (withoutLast '\r') ++ [unfinished '\n' logs.toList]

def extractPrefixedLogLine (logs head : String) : Option String :=
  ((lines logs).reverse.find? fun line => head.toList.isPrefixOf line).map fun line =>
    String.ofList (line.drop head.length)

example : extractPrefixedLogLine "SIZE:1\r\nSIZE:2\r\n" "SIZE:" = some "2" := by decide

theorem extractPrefixedLogLine_line {head text : String} (h : '\n' ∉ (head ++ text).toList) :
    extractPrefixedLogLine (head ++ text) head = some text := by
  have hlines : lines (head ++ text) = [head.toList ++ text.toList] := by
    unfold lines
    rw [completed_of_not_mem h, unfinished_of_not_mem h, String.toList_append]
    rfl
  have hdrop : String.ofList (List.drop head.length (head.toList ++ text.toList)) = text := by
    rw [← String.length_toList, List.drop_left, String.ofList_toList]
  unfold extractPrefixedLogLine
  rw [hlines]
  simp [hdrop]

def taskLogs (name : String) (statusCode : ℤ) (logs : Except Failure String) :
    Except String String :=
  if statusCode ≠ 0 then
    .error ((present (logs.toOption.map trim)).getD
      ("Task container " ++ name ++ " failed (" ++ toString statusCode ++ ")"))
  else .ok (logs.toOption.getD "")

def awaitTaskLogs (id name : String) (timeoutMs : Option ℕ) : HostAction String := do
  request (.startContainer id)
  let statusCode ← request (.waitContainer id timeoutMs)
  let logs ← Method.settle (request (.containerLogs id))
  Method.ofExcept ((taskLogs name statusCode logs).mapError Failure.error)

variable (host : DatabaseHost)

/-- What `runTaskContainer` makes the container from; its credentials are kept out of `env`. -/
def taskContainerSpec (options : TaskContainerOptions) (env : List String) : DockerContainerSpec :=
  { name := options.name, image := options.image, env, entrypoint := options.entrypoint
    cmd := some options.cmd, labels := buildLabels host.config "task" none none none none none
    mounts := options.mounts, network := options.networkMode }

def createTaskContainer (options : TaskContainerOptions) : HostAction String := do
  pullTaskImage options
  request (.removeContainer options.name true none)
  let (env, _) ← Method.ofExcept
    ((separatePgBackrestCredentials options.env).mapError Failure.error)
  request (.createContainer (taskContainerSpec host options env))

def runTaskContainerForLogs (options : TaskContainerOptions) : HostAction String := do
  let id ← createTaskContainer host options
  Method.finally_ (awaitTaskLogs id options.name options.timeoutMs)
    (request (.removeContainer id true none))

structure TaskObservation where
  exit : Except Failure String
  removal : Except Failure Unit
  deriving DecidableEq

namespace TaskObservation

def result (task : TaskObservation) : Except Failure String :=
  match task.removal with
  | .ok _ => task.exit
  | .error e => .error e

variable {task : TaskObservation}

theorem result_ok {logs : String} (h : task.result = .ok logs) :
    task.exit = .ok logs ∧ task.removal = .ok () := by
  unfold result at h
  split at h
  case h_1 hremoval => exact ⟨h, hremoval⟩
  case h_2 => cases h

theorem result_error {e : Failure} (h : task.result = .error e) :
    task.removal = .error e ∨ task.removal = .ok () ∧ task.exit = .error e := by
  unfold result at h
  split at h
  case h_1 hremoval => exact .inr ⟨hremoval, h⟩
  case h_2 f hremoval => exact .inl (hremoval.trans (congrArg Except.error (Except.error.inj h)))

end TaskObservation

def removeTaskContainer (id : String) (exit : Except Failure String) :
    HostAction TaskObservation := do
  let removal ← Method.settle (request (.removeContainer id true none))
  pure ⟨exit, removal⟩

def observeTask (options : TaskContainerOptions) : HostAction TaskObservation := do
  match ← Method.settle (createTaskContainer host options) with
  | .ok id => do
    let exit ← Method.settle (awaitTaskLogs id options.name options.timeoutMs)
    removeTaskContainer id exit
  | .error e => pure ⟨.error e, .ok ()⟩

theorem observeTask_total (options : TaskContainerOptions) : (observeTask host options).Total := by
  refine Method.throws_bind Method.throws_settle fun created => ?_
  cases created with
  | error e => exact Method.throws_pure _
  | ok id => exact Method.throws_bind Method.throws_settle fun exit =>
      Method.throws_bind Method.throws_settle fun removal => Method.throws_pure _

theorem runTaskContainerForLogs_eq (options : TaskContainerOptions) :
    runTaskContainerForLogs host options =
      Method.bind (observeTask host options) fun task => Method.ofExcept task.result := by
  have hremove (id : String) (exit : Except Failure String) :
      Method.bind (removeTaskContainer id exit) (fun task => Method.ofExcept task.result) =
        Method.bind (request (.removeContainer id true none)) fun _ => Method.ofExcept exit := by
    refine Method.bind_assoc.trans ?_
    rw [Method.bind_eq_settle (f := fun _ : Unit => Method.ofExcept exit)]
    congr 1
    funext removal
    cases removal <;> rfl
  refine Method.bind_eq_settle.trans ?_
  symm
  refine Method.bind_assoc.trans ?_
  congr 1
  funext created
  cases created with
  | error e => rfl
  | ok id =>
    refine Method.bind_assoc.trans ?_
    exact congrArg (Method.bind _) (funext fun exit => hremove id exit)

end HelperTasks

end NouvaAgent
