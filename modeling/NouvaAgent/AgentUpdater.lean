import Mathlib.Data.List.DropRight
import NouvaAgent.ExternalBackupImport

namespace NouvaAgent.AgentUpdater

open Text Interaction Host ExternalBackupImport

def agentIdentityKeys : List String :=
  ["NOUVA_AGENT_VERSION", "NOUVA_AGENT_IMAGE", "NOUVA_AGENT_TARGET_IMAGE"]

def isInheritedKey (key : String) : Bool :=
  startsWith "NOUVA_" key && !agentIdentityKeys.contains key

def getInheritedNouvaEnvKeys (env : TextRecord) : List String :=
  ((env.map Prod.fst).filter isInheritedKey).mergeSort fun a b => decide (a ≤ b)

structure UpdateAgentRuntimeEnv where
  updaterEnv : List String
  envInheritArgs : List String

def buildUpdateAgentRuntimeEnv (env : TextRecord) (imageRef : String) : UpdateAgentRuntimeEnv :=
  let inheritedNouvaEnvKeys := getInheritedNouvaEnvKeys env
  { updaterEnv := (inheritedNouvaEnvKeys.map fun key => key ++ "=" ++ (env.lookup key).getD "") ++
      ["NOUVA_AGENT_IMAGE=" ++ imageRef, "NOUVA_AGENT_TARGET_IMAGE=" ++ imageRef]
    envInheritArgs := (inheritedNouvaEnvKeys ++
      ["NOUVA_AGENT_IMAGE", "NOUVA_AGENT_TARGET_IMAGE"]).flatMap fun key => ["-e", key] }

def defaultAgentContainerName : String := "nouva-agent"

def agentUpdaterScript : String := "\n".intercalate
  ["docker stop " ++ defaultAgentContainerName ++ " || true",
    "docker rm " ++ defaultAgentContainerName ++ " || true",
    "exec docker run -d --name " ++ defaultAgentContainerName ++
      " --restart unless-stopped --network host" ++
      " -v /var/run/docker.sock:/var/run/docker.sock -v /:/hostfs:ro" ++
      " -v \"$NOUVA_AGENT_DATA_VOLUME:/var/lib/nouva-agent\"" ++
      " \"$@\" \"$NOUVA_AGENT_TARGET_IMAGE\""]

structure UpdaterContainerSpec where
  name : String
  image : String
  cmd : List String
  env : List String
  autoRemove : Bool
  networkMode : String
  binds : List String

def buildAgentUpdaterContainerSpec (env : TextRecord) (imageRef : String) : UpdaterContainerSpec :=
  let runtimeEnv := buildUpdateAgentRuntimeEnv env imageRef
  { name := "nouva-agent-updater", image := "docker:cli"
    cmd := ["sh", "-c", agentUpdaterScript, "nouva-agent-updater"] ++ runtimeEnv.envInheritArgs
    env := runtimeEnv.updaterEnv, autoRemove := true, networkMode := "host"
    binds := ["/var/run/docker.sock:/var/run/docker.sock"] }

/-- The names in an environment are distinct, and end where the value begins. -/
structure IsEnv (env : TextRecord) : Prop where
  distinct : (env.map Prod.fst).Nodup
  names : ∀ key ∈ env.map Prod.fst, '=' ∉ key.toList

def writeEntry (entry : String × String) : String := entry.1 ++ "=" ++ entry.2

/-- What an update relies on `sh`, `docker run` and the new image's own environment for: the agent
that the script starts has each variable that is named behind it, with the updater's value of it. -/
def HandsOn (restart : UpdaterContainerSpec → TextRecord → TextRecord) : Prop :=
  ∀ spec entries imageEnv, IsEnv entries → IsEnv imageEnv → spec.env = entries.map writeEntry →
    spec.cmd = ["sh", "-c", agentUpdaterScript, "nouva-agent-updater"] ++
      (entries.map Prod.fst).flatMap (fun key => ["-e", key]) →
    IsEnv (restart spec imageEnv) ∧
      ∀ key value, entries.lookup key = some value → (restart spec imageEnv).lookup key = some value

section

variable {restart : UpdaterContainerSpec → TextRecord → TextRecord} {env imageEnv : TextRecord}
  {key value imageRef : String} {keys : List String}

theorem lookup_map (f : String → String) : (keys.map fun key => (key, f key)).lookup key =
    if key ∈ keys then some (f key) else none := by
  induction keys with
  | nil => rfl
  | cons first rest ih =>
    rw [List.map_cons, List.lookup_cons, ih]
    by_cases hkey : key = first
    · simp [hkey]
    · have hne : (key == first) = false := beq_false_of_ne hkey
      simp [hkey, hne]

def handedOn (env : TextRecord) (imageRef key : String) : String :=
  if key = "NOUVA_AGENT_IMAGE" ∨ key = "NOUVA_AGENT_TARGET_IMAGE" then imageRef
  else (env.lookup key).getD ""

theorem mem_inherited : key ∈ getInheritedNouvaEnvKeys env ↔
    key ∈ env.map Prod.fst ∧ isInheritedKey key = true := by
  unfold getInheritedNouvaEnvKeys
  rw [List.mem_mergeSort, List.mem_filter]

theorem handedOn_inherited (h : isInheritedKey key = true) :
    handedOn env imageRef key = (env.lookup key).getD "" := by
  refine if_neg ?_
  rintro (rfl | rfl) <;> exact absurd h (by decide)

def handed (env : TextRecord) (imageRef : String) : TextRecord :=
  (getInheritedNouvaEnvKeys env ++ ["NOUVA_AGENT_IMAGE", "NOUVA_AGENT_TARGET_IMAGE"]).map
    fun key => (key, handedOn env imageRef key)

theorem handed_fst : (handed env imageRef).map Prod.fst =
    getInheritedNouvaEnvKeys env ++ ["NOUVA_AGENT_IMAGE", "NOUVA_AGENT_TARGET_IMAGE"] := by
  rw [handed, List.map_map]
  exact List.map_id _

theorem isEnv_handed (h : IsEnv env) : IsEnv (handed env imageRef) := by
  constructor
  · rw [handed_fst, List.nodup_append']
    refine ⟨?_, by decide, fun key hkey hown => ?_⟩
    · exact (List.mergeSort_perm _ _).nodup_iff.mpr (h.distinct.filter _)
    · have hinherited := (mem_inherited.mp hkey).2
      rw [List.mem_pair] at hown
      obtain rfl | rfl := hown <;> exact absurd hinherited (by decide)
  · intro key hmem
    rw [handed_fst, List.mem_append] at hmem
    obtain hkey | hkey := hmem
    · exact h.names key (mem_inherited.mp hkey).1
    · rw [List.mem_pair] at hkey
      obtain rfl | rfl := hkey <;> decide

theorem updaterEnv_eq : (buildAgentUpdaterContainerSpec env imageRef).env =
    (handed env imageRef).map writeEntry := by
  show (getInheritedNouvaEnvKeys env).map _ ++ _ = _
  rw [handed, List.map_append, List.map_append, List.map_map]
  refine congrArg₂ HAppend.hAppend (List.map_congr_left fun key hkey => ?_) rfl
  rw [Function.comp_apply, handedOn_inherited (mem_inherited.mp hkey).2, writeEntry]

theorem HandsOn.restarted (hrestart : HandsOn restart) (h : IsEnv env) (himage : IsEnv imageEnv) :
    IsEnv (restart (buildAgentUpdaterContainerSpec env imageRef) imageEnv) ∧
      ∀ key, key ∈ (handed env imageRef).map Prod.fst →
        (restart (buildAgentUpdaterContainerSpec env imageRef) imageEnv).lookup key =
          some (handedOn env imageRef key) := by
  have hcmd : (buildAgentUpdaterContainerSpec env imageRef).cmd =
      ["sh", "-c", agentUpdaterScript, "nouva-agent-updater"] ++
        ((handed env imageRef).map Prod.fst).flatMap (fun key => ["-e", key]) := by
    rw [handed_fst]
    rfl
  obtain ⟨henv, hlookup⟩ := hrestart _ _ imageEnv (isEnv_handed h) himage updaterEnv_eq hcmd
  refine ⟨henv, fun key hkey => hlookup key _ ?_⟩
  rw [handed_fst] at hkey
  rw [handed, lookup_map, if_pos hkey]

theorem mem_of_lookup (h : env.lookup key = some value) : key ∈ env.map Prod.fst := by
  induction env with
  | nil => cases h
  | cons entry env ih =>
    rw [List.lookup_cons] at h
    split at h
    · next heq => exact List.mem_cons.mpr (.inl (by simpa using heq))
    · exact List.mem_cons_of_mem _ (ih h)

theorem HandsOn.keeps (hrestart : HandsOn restart) (h : IsEnv env) (himage : IsEnv imageEnv)
    (hinherited : isInheritedKey key = true) (hvalue : env.lookup key = some value) :
    (restart (buildAgentUpdaterContainerSpec env imageRef) imageEnv).lookup key = some value := by
  have hkey : key ∈ (handed env imageRef).map Prod.fst := by
    rw [handed_fst]
    exact List.mem_append_left _ (mem_inherited.mpr ⟨mem_of_lookup hvalue, hinherited⟩)
  rw [(hrestart.restarted h himage).2 key hkey, handedOn_inherited hinherited, hvalue,
    Option.getD_some]

theorem HandsOn.image (hrestart : HandsOn restart) (h : IsEnv env) (himage : IsEnv imageEnv) :
    (restart (buildAgentUpdaterContainerSpec env imageRef) imageEnv).lookup "NOUVA_AGENT_IMAGE" =
      some imageRef :=
  (hrestart.restarted h himage).2 "NOUVA_AGENT_IMAGE" (by simp [handed_fst])

def afterUpdates (restart : UpdaterContainerSpec → TextRecord → TextRecord) (env : TextRecord) :
    List (String × TextRecord) → TextRecord
  | [] => env
  | (imageRef, imageEnv) :: later =>
    afterUpdates restart (restart (buildAgentUpdaterContainerSpec env imageRef) imageEnv) later

theorem HandsOn.afterUpdates (hrestart : HandsOn restart) (h : IsEnv env)
    (updates : List (String × TextRecord)) (himages : ∀ update ∈ updates, IsEnv update.2) :
    IsEnv (afterUpdates restart env updates) ∧
      ∀ key value, isInheritedKey key = true → env.lookup key = some value →
        (AgentUpdater.afterUpdates restart env updates).lookup key = some value := by
  induction updates generalizing env with
  | nil => exact ⟨h, fun _ _ _ hvalue => hvalue⟩
  | cons update updates ih =>
    rw [List.forall_mem_cons] at himages
    obtain ⟨henv, hkept⟩ := ih (hrestart.restarted h himages.1).1 himages.2
    exact ⟨henv, fun key value hinherited hvalue =>
      hkept key value hinherited (hrestart.keeps h himages.1 hinherited hvalue)⟩

end

def readEntry (entry : String) : String × String :=
  (String.ofList (entry.toList.takeWhile (· ≠ '=')),
    String.ofList ((entry.toList.dropWhile (· ≠ '=')).drop 1))

theorem lookup_append {key value : String} {first rest : TextRecord}
    (h : first.lookup key = some value) : (first ++ rest).lookup key = some value := by
  induction first with
  | nil => cases h
  | cons entry first ih =>
    rw [List.cons_append, List.lookup_cons]
    rw [List.lookup_cons] at h
    split at h
    · exact h
    · exact ih h

end NouvaAgent.AgentUpdater
