import NouvaAgent.DatabaseProvision

namespace NouvaAgent

open Text Interaction Host DatabaseProvision

structure VolumeWipeReceipt where
  volumeName : String
  repositoryGeneration : ℤ
  deriving DecidableEq, Repr

structure DeleteVolumePayload where
  projectId : String
  volumeId : String
  volumeName : String
  pgbackrestRepositoryGeneration : Option ℚ

/-- A wipe is of a volume on its own, or of one with the database that is attached to it. -/
inductive WipeVolumePayload
  | volume (payload : DeleteVolumePayload)
  | database (payload : DatabaseProvisionPayload)

structure WipeVolumeProof where
  previousContainer : Option String
  previousVolume : String
  replacementVolume : String
  deriving DecidableEq, Repr

structure WipeVolumeResult where
  volumeName : String
  provision : Option DatabaseProvisionResult
  cleanupProof : WipeVolumeProof
  deriving DecidableEq, Repr

def isUnreservedCharacter (c : Char) : Bool := c.isAlphanum || c ∈ "-_.!~*'()".toList

def hexDigit (n : ℕ) : Char := if n < 10 then Char.ofNat (48 + n) else Char.ofNat (55 + n)

def encodeURIComponent (text : String) : String :=
  String.ofList (text.toList.flatMap fun c =>
    if isUnreservedCharacter c then [c]
    else (String.utf8EncodeChar c).flatMap fun byte =>
      ['%', hexDigit (byte.toNat / 16), hexDigit (byte.toNat % 16)])

example : encodeURIComponent "vol/ü" = "vol%2F%C3%BC" := by decide +kernel

namespace VolumeWipeReceipt

def contents (receipt : VolumeWipeReceipt) (workItemId : Option String) (recordedAt : ℤ) :
    FileContents :=
  .object [("version", .number 1), ("volumeName", .text receipt.volumeName),
    ("repositoryGeneration", .number receipt.repositoryGeneration),
    ("phase", .text "volume-replaced"),
    ("workItemId", match workItemId with
      | some id => .text id
      | none => .null),
    ("recordedAt", .text (toISOString recordedAt))]

/-- The receipt that a file's contents are, where `isVolumeWipeReceipt` recognises them. -/
def ofContents (contents : FileContents) : Option VolumeWipeReceipt :=
  match contents with
  | .object entries =>
    match entries.lookup "volumeName", entries.lookup "repositoryGeneration" with
    | some (.text volumeName), some (.number generation) =>
      if entries.lookup "version" = some (.number 1) ∧ generation.isInt ∧
          entries.lookup "phase" = some (.text "volume-replaced") then
        some ⟨volumeName, generation.num⟩
      else none
    | _, _ => none
  | _ => none

theorem ofContents_contents (receipt : VolumeWipeReceipt) (workItemId : Option String)
    (recordedAt : ℤ) : ofContents (receipt.contents workItemId recordedAt) = some receipt := by
  have hint : (receipt.repositoryGeneration : ℚ).isInt = true := rfl
  simp [ofContents, contents, List.lookup_cons, hint]

end VolumeWipeReceipt

namespace VolumeWipe

def getVolumeWipeReceiptDirectory (dataDir : String) : String := dataDir ++ "/volume-wipes"

def getVolumeWipeReceiptPath (dataDir volumeName : String) : String :=
  getVolumeWipeReceiptDirectory dataDir ++ "/" ++ encodeURIComponent volumeName ++ ".json"

def parseVolumeWipeReceipt (receiptPath : String) (contents : FileContents) :
    Except Failure (Option VolumeWipeReceipt) :=
  match contents, VolumeWipeReceipt.ofContents contents with
  | .broken _, _ => .error (.error ("Volume wipe receipt " ++ receiptPath ++ " is not valid JSON"))
  | _, some receipt => .ok (some receipt)
  | _, none => .error (.error ("Volume wipe receipt " ++ receiptPath ++
      " does not have a recognised shape"))

def readVolumeWipeReceipt (dataDir volumeName : String) : HostAction (Option VolumeWipeReceipt) := do
  let receiptPath := getVolumeWipeReceiptPath dataDir volumeName
  match ← Method.ask (HostCall.readFile receiptPath) with
  | .ok contents => Method.ofExcept (parseVolumeWipeReceipt receiptPath contents)
  | .error e =>
    if e.code = some "ENOENT" then pure none
    else throw (.error ("Volume wipe receipt " ++ receiptPath ++ " could not be read: " ++ e.text))

def writeVolumeWipeReceipt (dataDir : String) (receipt : VolumeWipeReceipt)
    (workItemId : Option String) : HostAction Unit := do
  let receiptPath := getVolumeWipeReceiptPath dataDir receipt.volumeName
  file (.mkdir (getVolumeWipeReceiptDirectory dataDir))
  let recordedAt ← now
  file (.writeFile (receiptPath ++ ".tmp") (receipt.contents workItemId recordedAt))
  file (.rename (receiptPath ++ ".tmp") receiptPath)

def hasReplacedVolumeForGeneration (receipt : Option VolumeWipeReceipt) (volumeName : String)
    (repositoryGeneration : ℤ) : Bool :=
  receipt = some ⟨volumeName, repositoryGeneration⟩

def readPayloadRepositoryGeneration (value : Option ℚ) : Option ℤ :=
  match value with
  | some value => if value.isInt then some value.num else none
  | none => none

def alreadyReplaced (dataDir volumeName : String) (repositoryGeneration : Option ℤ) :
    HostAction Bool :=
  match repositoryGeneration with
  | none => pure false
  | some generation => do
    let receipt ← readVolumeWipeReceipt dataDir volumeName
    pure (hasReplacedVolumeForGeneration receipt volumeName generation)

def recordVolumeReplaced (dataDir volumeName : String) (repositoryGeneration : Option ℤ)
    (workItemId : Option String) : HostAction Unit :=
  match repositoryGeneration with
  | none => pure ()
  | some generation => writeVolumeWipeReceipt dataDir ⟨volumeName, generation⟩ workItemId

def removeVolume (name : String) (force : Bool) : HostAction Unit := do
  match ← Method.ask (HostCall.removeVolume name force) with
  | .ok _ => pure ()
  | .error e => throw (.call e)

def verifyVolumeAbsent (volumeName : String) : HostAction Unit := do
  match ← request (.inspectVolume volumeName) with
  | some _ => throw (.error ("Docker volume " ++ volumeName ++ " still exists after cleanup"))
  | none => pure ()

def verifyContainerAbsent (identifier : Option String) : HostAction Unit :=
  match present identifier with
  | none => pure ()
  | some identifier => do
    match ← request (.inspectContainer identifier) with
    | some _ => throw (.error ("Docker container " ++ identifier ++ " still exists after cleanup"))
    | none => pure ()

def replaceVolume (dataDir volumeName : String) (labels : TextRecord)
    (repositoryGeneration : Option ℤ) (workItemId : Option String) : HostAction Unit := do
  removeVolume volumeName true
  verifyVolumeAbsent volumeName
  request (.createVolume volumeName labels)
  recordVolumeReplaced dataDir volumeName repositoryGeneration workItemId

def unlessReplaced (replaced : Bool) (destroy : HostAction Unit) : HostAction Unit :=
  if replaced then pure () else destroy

def requireReplacement (volumeName : String) : HostAction Unit := do
  match ← request (.inspectVolume volumeName) with
  | some _ => pure ()
  | none => throw (.error ("Replacement Docker volume " ++ volumeName ++ " was not created"))

variable (host : DatabaseHost)

def wipeDetachedVolume (payload : DeleteVolumePayload) (workItemId : Option String) :
    HostAction WipeVolumeResult := do
  let generation := readPayloadRepositoryGeneration payload.pgbackrestRepositoryGeneration
  let labels := buildManagedVolumeLabels payload.volumeId (some payload.projectId) none
  let replaced ← alreadyReplaced host.dataDir payload.volumeName generation
  unlessReplaced replaced
    (replaceVolume host.dataDir payload.volumeName labels generation workItemId)
  requireReplacement payload.volumeName
  pure ⟨payload.volumeName, none, ⟨none, payload.volumeName, payload.volumeName⟩⟩

def containerIdentifier (payload : DatabaseProvisionPayload) : Option String :=
  payload.runtimeMetadata.containerId.or payload.runtimeMetadata.containerName

def containerTargets (payload : DatabaseProvisionPayload) : List String :=
  (([containerIdentifier payload, some payload.containerName].filterMap present)).eraseDups

def destroyDatabaseVolume (payload : DatabaseProvisionPayload) (workItemId : Option String) :
    HostAction Unit := do
  let generation := readPayloadRepositoryGeneration payload.pgbackrestRepositoryGeneration
  Method.forEach (containerTargets payload) fun target => request (.removeContainer target true none)
  Method.forEach (containerTargets payload) fun target => verifyContainerAbsent (some target)
  replaceVolume host.dataDir payload.volumeName (buildManagedVolumeLabels payload.volumeId
    (some payload.projectId) (some payload.serviceId)) generation workItemId

def wipeDatabaseVolume (payload : DatabaseProvisionPayload) (workItemId : Option String) :
    HostAction Unit := do
  let generation := readPayloadRepositoryGeneration payload.pgbackrestRepositoryGeneration
  let replaced ← alreadyReplaced host.dataDir payload.volumeName generation
  preflightDatabasePublicPort host payload
  unlessReplaced replaced (destroyDatabaseVolume host payload workItemId)

def reprovisionDatabase (payload : DatabaseProvisionPayload) : HostAction WipeVolumeResult := do
  let result ← handleDatabaseProvision host payload
  requireReplacement payload.volumeName
  pure ⟨result.volumeName, some result,
    ⟨containerIdentifier payload, payload.volumeName, payload.volumeName⟩⟩

def handleWipeVolume (payload : WipeVolumePayload) (workItemId : Option String) :
    HostAction WipeVolumeResult :=
  match payload with
  | .volume payload => wipeDetachedVolume host payload workItemId
  | .database payload => do
    wipeDatabaseVolume host payload workItemId
    reprovisionDatabase host payload

end VolumeWipe

namespace WipeVolumePayload

def managedVolumeName : WipeVolumePayload → String
  | volume payload => payload.volumeName
  | database payload => payload.volumeName

def repositoryGeneration : WipeVolumePayload → Option ℤ
  | volume payload =>
    VolumeWipe.readPayloadRepositoryGeneration payload.pgbackrestRepositoryGeneration
  | database payload =>
    VolumeWipe.readPayloadRepositoryGeneration payload.pgbackrestRepositoryGeneration

end WipeVolumePayload

end NouvaAgent
