import NouvaAgent.WorkResult

namespace NouvaAgent.WorkRollback

open Json LogRedaction WorkResult

def containerStartingWorkKinds : List String :=
  ["deploy_app", "deploy_worker", "redeploy_app", "redeploy_worker", "rollback_app",
    "rollback_worker", "scale_worker"]

def resultContainerIdentifierKeys : List Units :=
  [units "activeContainerName", units "candidateContainerName", units "containerId",
    units "containerName"]

def maxResultContainerScanDepth : ℕ := 6

/-- `identifiers.add`, of what is left of an entry when it is trimmed. -/
def addIdentifier (identifiers : List Units) (entry : Units) : List Units :=
  if trim entry ≠ [] ∧ trim entry ∉ identifiers then identifiers ++ [trim entry] else identifiers

def identifierEntry (key : Units) : Json → Option Units
  | .str entry => if key ∈ resultContainerIdentifierKeys then some entry else none
  | _ => none

mutual

def collectResultContainerIdentifiers (depth : ℕ) (identifiers : List Units) : Json → List Units
  | .arr items =>
    if maxResultContainerScanDepth < depth then identifiers
    else collectItems (depth + 1) identifiers items
  | .obj entries =>
    if maxResultContainerScanDepth < depth then identifiers
    else collectEntries (depth + 1) identifiers entries
  | _ => identifiers

def collectItems (depth : ℕ) (identifiers : List Units) : List Json → List Units
  | [] => identifiers
  | entry :: rest =>
    collectItems depth (collectResultContainerIdentifiers depth identifiers entry) rest

def collectEntries (depth : ℕ) (identifiers : List Units) : List (Units × Json) → List Units
  | [] => identifiers
  | (key, entry) :: rest =>
    collectEntries depth (match identifierEntry key entry with
      | some text => addIdentifier identifiers text
      | none => collectResultContainerIdentifiers depth identifiers entry) rest

end

structure RollbackInput where
  kind : String
  payload : List (Units × Json)
  result : Option (List (Units × Json))

def runtimeMetadata (input : RollbackInput) : Json :=
  (get? input.payload (units "runtimeMetadata")).getD .null

/-- Docker during a rollback: the container that an identifier resolves to, whether a removal takes
effect, and whether its answer says so. -/
structure Docker (Container : Type) where
  resolve : Units → Option Container
  removes : Units → Bool
  succeeds : Units → Bool

variable {Container : Type} [DecidableEq Container]

def Docker.removeContainer (docker : Docker Container) (identifier : Units)
    (live : List Container) : List Container :=
  if docker.removes identifier then
    live.filter fun container => docker.resolve identifier ≠ some container
  else live

/-- An adopted candidate may already be committed. -/
def reusesCandidate (kind : String) (result : List (Units × Json)) : Bool :=
  decide (kind ∈ ["deploy_app", "redeploy_app", "rollback_app"]) &&
    decide (get? (toObject ((get? result (units "rollout")).getD .null))
      (units "reusedCandidate") = some (.bool true))

def startedContainers (input : RollbackInput) : List Units :=
  match input.result with
  | none => []
  | some result =>
    if input.kind ∉ containerStartingWorkKinds ∨ reusesCandidate input.kind result then []
    else
      let started := collectResultContainerIdentifiers 0 [] (.obj result)
      let preexisting := collectResultContainerIdentifiers 0 [] (runtimeMetadata input)
      started.filter fun identifier => identifier ∉ preexisting

/-- The containers that live on, and the identifiers that are returned. -/
def rollbackUnreportableWorkResult (docker : Docker Container) (input : RollbackInput)
    (live : List Container) : List Container × List Units :=
  (startedContainers input).foldl (fun (live, removed) identifier =>
    (docker.removeContainer identifier live,
      if docker.succeeds identifier then removed ++ [identifier] else removed)) (live, [])

/-- A value gives an identifier of a container, so many levels down. -/
inductive Names (identifier : Units) : ℕ → Json → Prop
  | here {entries : List (Units × Json)} {key entry : Units} {value : Json}
      (hmem : (key, value) ∈ entries) (hentry : identifierEntry key value = some entry)
      (htrim : trim entry = identifier) (hne : identifier ≠ []) : Names identifier 0 (.obj entries)
  | entry {entries : List (Units × Json)} {key : Units} {value : Json} {n : ℕ}
      (hmem : (key, value) ∈ entries) (h : Names identifier n value) :
      Names identifier (n + 1) (.obj entries)
  | item {items : List Json} {value : Json} {n : ℕ} (hmem : value ∈ items)
      (h : Names identifier n value) : Names identifier (n + 1) (.arr items)

def Describes (resolve : Units → Option Container) (input : RollbackInput) (container : Container) :
    Prop :=
  ∃ identifier n, Names identifier n (runtimeMetadata input) ∧ resolve identifier = some container

/-- An identifier that the result gives for a container of the metadata is one that the metadata
gives too, as far down as both are read. -/
def NamesAlike (resolve : Units → Option Container) (input : RollbackInput) : Prop :=
  ∀ result, input.result = some result → input.kind ∈ containerStartingWorkKinds →
    reusesCandidate input.kind result = false → ∀ identifier n container,
      Names identifier n (.obj result) → n ≤ maxResultContainerScanDepth →
      resolve identifier = some container → Describes resolve input container →
        ∃ m, Names identifier m (runtimeMetadata input) ∧ m ≤ maxResultContainerScanDepth

theorem identifierEntry_some {key entry : Units} {value : Json}
    (h : identifierEntry key value = some entry) : value = .str entry := by
  unfold identifierEntry at h
  split at h
  · split at h
    · rw [Option.some.inj h]
    · exact nomatch h
  · exact nomatch h

theorem mem_addIdentifier {identifiers : List Units} {entry identifier : Units} :
    identifier ∈ addIdentifier identifiers entry ↔
      identifier ∈ identifiers ∨ trim entry = identifier ∧ identifier ≠ [] := by
  unfold addIdentifier
  split
  · next hnew =>
    rw [List.mem_append, List.mem_singleton]
    constructor
    · rintro (hmem | rfl)
      · exact .inl hmem
      · exact .inr ⟨rfl, hnew.1⟩
    · rintro (hmem | ⟨rfl, -⟩)
      · exact .inl hmem
      · exact .inr rfl
  · next hold =>
    constructor
    · exact .inl
    · rintro (hmem | ⟨rfl, hne⟩)
      · exact hmem
      · by_contra hnot
        exact hold ⟨hne, hnot⟩

def FieldNames (depth : ℕ) (identifier : Units) (field : Units × Json) : Prop :=
  (∃ entry, identifierEntry field.1 field.2 = some entry ∧ trim entry = identifier ∧
    identifier ≠ []) ∨
  ∃ n, Names identifier n field.2 ∧ depth + n ≤ maxResultContainerScanDepth

mutual

theorem mem_collectResultContainerIdentifiers (identifier : Units) (depth : ℕ)
    (identifiers : List Units) : (value : Json) →
      (identifier ∈ collectResultContainerIdentifiers depth identifiers value ↔
        identifier ∈ identifiers ∨
          ∃ n, Names identifier n value ∧ depth + n ≤ maxResultContainerScanDepth)
  | .null => by
    simp only [collectResultContainerIdentifiers]
    exact ⟨.inl, fun h => h.elim id fun ⟨n, hn, _⟩ => nomatch hn⟩
  | .bool value => by
    simp only [collectResultContainerIdentifiers]
    exact ⟨.inl, fun h => h.elim id fun ⟨n, hn, _⟩ => nomatch hn⟩
  | .num value => by
    simp only [collectResultContainerIdentifiers]
    exact ⟨.inl, fun h => h.elim id fun ⟨n, hn, _⟩ => nomatch hn⟩
  | .str value => by
    simp only [collectResultContainerIdentifiers]
    exact ⟨.inl, fun h => h.elim id fun ⟨n, hn, _⟩ => nomatch hn⟩
  | .arr items => by
    rw [collectResultContainerIdentifiers]
    split
    · next hdeep => exact ⟨.inl, fun h => h.elim id fun ⟨n, _, hn⟩ => by omega⟩
    · rw [mem_collectItems identifier (depth + 1) identifiers items]
      constructor
      · rintro (hmem | ⟨value, hvalue, n, hn, hdepth⟩)
        · exact .inl hmem
        · exact .inr ⟨n + 1, .item hvalue hn, by omega⟩
      · rintro (hmem | ⟨n, hnames, hdepth⟩)
        · exact .inl hmem
        · cases hnames with
          | item hvalue hn => exact .inr ⟨_, hvalue, _, hn, by omega⟩
  | .obj entries => by
    rw [collectResultContainerIdentifiers]
    split
    · next hdeep => exact ⟨.inl, fun h => h.elim id fun ⟨n, _, hn⟩ => by omega⟩
    · rw [mem_collectEntries identifier (depth + 1) identifiers entries]
      constructor
      · rintro (hmem | ⟨⟨key, value⟩, hfield, ⟨entry, hentry, htrim, hne⟩ | ⟨n, hn, hdepth⟩⟩)
        · exact .inl hmem
        · exact .inr ⟨0, .here hfield hentry htrim hne, by omega⟩
        · exact .inr ⟨n + 1, .entry hfield hn, by omega⟩
      · rintro (hmem | ⟨n, hnames, hdepth⟩)
        · exact .inl hmem
        · cases hnames with
          | here hfield hentry htrim hne => exact .inr ⟨_, hfield, .inl ⟨_, hentry, htrim, hne⟩⟩
          | entry hfield hn => exact .inr ⟨_, hfield, .inr ⟨_, hn, by omega⟩⟩

theorem mem_collectItems (identifier : Units) (depth : ℕ) (identifiers : List Units) :
    (items : List Json) → (identifier ∈ collectItems depth identifiers items ↔
      identifier ∈ identifiers ∨ ∃ value ∈ items, ∃ n, Names identifier n value ∧
        depth + n ≤ maxResultContainerScanDepth)
  | [] => by simp [collectItems]
  | value :: rest => by
    rw [collectItems, mem_collectItems identifier depth _ rest,
      mem_collectResultContainerIdentifiers identifier depth identifiers value,
      List.exists_mem_cons_iff, or_assoc]

theorem mem_collectEntries (identifier : Units) (depth : ℕ) (identifiers : List Units) :
    (entries : List (Units × Json)) → (identifier ∈ collectEntries depth identifiers entries ↔
      identifier ∈ identifiers ∨ ∃ field ∈ entries, FieldNames depth identifier field)
  | [] => by simp [collectEntries]
  | (key, value) :: rest => by
    have hvalue := mem_collectResultContainerIdentifiers identifier depth identifiers value
    rw [collectEntries, mem_collectEntries identifier depth _ rest, List.exists_mem_cons_iff,
      ← or_assoc]
    refine or_congr ?_ Iff.rfl
    cases hentry : identifierEntry key value with
    | some entry =>
      dsimp only
      rw [mem_addIdentifier]
      refine or_congr Iff.rfl ⟨fun h => .inl ⟨entry, hentry, h⟩, ?_⟩
      rintro (⟨entry', hentry', h⟩ | ⟨n, hn, -⟩)
      · rwa [Option.some.inj (hentry.symm.trans hentry')]
      · rw [identifierEntry_some hentry] at hn
        exact nomatch hn
    | none =>
      dsimp only
      rw [hvalue]
      refine or_congr Iff.rfl ⟨.inr, ?_⟩
      rintro (⟨entry', hentry', -⟩ | hn)
      · exact nomatch hentry.symm.trans hentry'
      · exact hn

end

theorem mem_collected {identifier : Units} {value : Json} :
    identifier ∈ collectResultContainerIdentifiers 0 [] value ↔
      ∃ n, Names identifier n value ∧ n ≤ maxResultContainerScanDepth := by
  rw [mem_collectResultContainerIdentifiers]
  simp

theorem mem_startedContainers {input : RollbackInput} {identifier : Units} :
    identifier ∈ startedContainers input ↔ ∃ result, input.result = some result ∧
      input.kind ∈ containerStartingWorkKinds ∧ reusesCandidate input.kind result = false ∧
      (∃ n, Names identifier n (.obj result) ∧ n ≤ maxResultContainerScanDepth) ∧
      ¬ ∃ n, Names identifier n (runtimeMetadata input) ∧ n ≤ maxResultContainerScanDepth := by
  unfold startedContainers
  cases hresult : input.result with
  | none => simp
  | some result =>
    dsimp only
    split
    · next hskip =>
      refine iff_of_false (List.not_mem_nil) ?_
      rintro ⟨_, heq, hkind, hreuse, -⟩
      obtain rfl := Option.some.inj heq
      rcases hskip with hno | hyes
      · exact hno hkind
      · exact nomatch hreuse.symm.trans hyes
    · next hrolls =>
      rw [not_or, not_not, Bool.not_eq_true] at hrolls
      rw [List.mem_filter, decide_eq_true_eq, mem_collected, mem_collected]
      constructor
      · rintro ⟨hstarted, hnew⟩
        exact ⟨result, rfl, hrolls.1, hrolls.2, hstarted, hnew⟩
      · rintro ⟨_, heq, -, -, hstarted, hnew⟩
        obtain rfl := Option.some.inj heq
        exact ⟨hstarted, hnew⟩

theorem mem_foldl_removeContainer (docker : Docker Container) (identifiers : List Units)
    (live : List Container) (removed : List Units) (container : Container) :
    container ∈ (identifiers.foldl (fun (live, removed) identifier =>
      (docker.removeContainer identifier live,
        if docker.succeeds identifier then removed ++ [identifier] else removed))
      (live, removed)).1 ↔
    container ∈ live ∧ ∀ identifier ∈ identifiers, docker.removes identifier = true →
      docker.resolve identifier ≠ some container := by
  induction identifiers generalizing live removed with
  | nil => simp
  | cons identifier rest ih =>
    rw [List.foldl_cons, ih, List.forall_mem_cons, ← and_assoc]
    refine and_congr_left fun _ => ?_
    unfold Docker.removeContainer
    by_cases hremoves : docker.removes identifier = true
    · simp [hremoves]
    · simp [hremoves]

/-- Whatever Docker does, a rollback leaves the containers of the metadata alive exactly when the
result gives them no identifier that the metadata does not give too. -/
theorem rollback_keeps_live_iff (resolve : Units → Option Container) (input : RollbackInput) :
    (∀ (removes succeeds : Units → Bool) (live : List Container) (container : Container),
      container ∈ live → Describes resolve input container →
        container ∈ (rollbackUnreportableWorkResult ⟨resolve, removes, succeeds⟩ input live).1) ↔
      NamesAlike resolve input := by
  unfold rollbackUnreportableWorkResult
  constructor
  · intro hkeeps result hresult hkind hreuse identifier n container hnames hn hresolve hdescribes
    by_contra hnot
    have hlive := hkeeps (fun _ => true) (fun _ => true) [container] container
      (List.mem_singleton_self _) hdescribes
    obtain ⟨-, hnever⟩ := (mem_foldl_removeContainer _ _ _ _ _).mp hlive
    exact hnever identifier
      (mem_startedContainers.mpr ⟨result, hresult, hkind, hreuse, ⟨n, hnames, hn⟩, hnot⟩) rfl hresolve
  · intro halike removes succeeds live container hlive hdescribes
    refine (mem_foldl_removeContainer _ _ _ _ _).mpr ⟨hlive, fun identifier hmem _ hresolve => ?_⟩
    obtain ⟨result, hresult, hkind, hreuse, ⟨n, hnames, hn⟩, hnew⟩ := mem_startedContainers.mp hmem
    exact hnew (halike result hresult hkind hreuse identifier n container hnames hn hresolve
      hdescribes)

def keptReplica : RollbackInput where
  kind := "scale_worker"
  payload := [(units "runtimeMetadata", .obj [(units "containerId", .null),
    (units "containerName", .str (units "worker-0"))])]
  result := some [(units "runtimeInstance", .obj [(units "containerId", .str (units "c0")),
    (units "containerName", .str (units "worker-0"))])]

def resolveReplica (identifier : Units) : Option Unit :=
  if identifier = units "worker-0" ∨ identifier = units "c0" then some () else none

theorem rollback_removes_live :
    Describes resolveReplica keptReplica () ∧
      rollbackUnreportableWorkResult ⟨resolveReplica, fun _ => true, fun _ => true⟩ keptReplica [()] =
        ([], [units "c0"]) := by
  constructor
  · refine ⟨units "worker-0", 0, ?_, by decide +kernel⟩
    have hmetadata : runtimeMetadata keptReplica = .obj [(units "containerId", .null),
        (units "containerName", .str (units "worker-0"))] := by decide +kernel
    rw [hmetadata]
    have hentry : identifierEntry (units "containerName") (.str (units "worker-0")) =
        some (units "worker-0") := by decide +kernel
    exact .here (List.mem_cons_of_mem _ List.mem_cons_self) hentry (by decide +kernel)
      (by decide +kernel)
  · decide +kernel

end NouvaAgent.WorkRollback
