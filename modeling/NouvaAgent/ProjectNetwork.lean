import Mathlib.Data.Set.Insert
import NouvaAgent.AppDeployment
import NouvaAgent.Interaction.Triples

namespace NouvaAgent

open Text Interaction

inductive ProjectCall
  | inspectNetwork (name : String)
  | inspectContainer (nameOrId : String)
  | disconnectNetwork (network container : String) (force : Bool)
  | removeNetwork (name : String)
  deriving DecidableEq, Repr

abbrev ProjectCall.Answer : ProjectCall → Type
  | inspectNetwork _ => Except CallError Bool
  | inspectContainer _ => Except CallError (Option DockerContainerInspection)
  | disconnectNetwork _ _ _ | removeNetwork _ => Except CallError Unit

abbrev ProjectAction (α : Type) := Action ProjectCall.Answer Failure α

structure DeletedProject where
  networkName : String
  deriving DecidableEq, Repr

namespace ProjectNetwork

def answered {α : Type} (r : Except CallError α) : ProjectAction α :=
  Method.ofExcept (r.mapError Failure.call)

def inspectNetwork (name : String) : ProjectAction Bool := do
  answered (← Method.ask (ProjectCall.inspectNetwork name))

def inspectContainer (nameOrId : String) : ProjectAction (Option DockerContainerInspection) := do
  answered (← Method.ask (ProjectCall.inspectContainer nameOrId))

def disconnectNetwork (network container : String) (force : Bool) : ProjectAction Unit := do
  answered (← Method.ask (ProjectCall.disconnectNetwork network container force))

def removeNetwork (name : String) : ProjectAction Unit := do
  answered (← Method.ask (ProjectCall.removeNetwork name))

def isAttached (network : String) (container : Option DockerContainerInspection) : Bool :=
  (((container.bind fun c => c.networks).getD []).lookup network).isSome

def leaveNetwork (network containerName : String) : ProjectAction Unit := do
  let traefik ← inspectContainer containerName
  if isAttached network traefik then disconnectNetwork network containerName true else pure ()

def verifyNetworkAbsent (network : String) : ProjectAction Unit := do
  if ← inspectNetwork network then
    throw (.error ("Docker network " ++ network ++ " still exists after cleanup"))
  else pure ()

def deleteNetwork (network : String) (traefikNames : List String) : ProjectAction Unit := do
  if ← inspectNetwork network then do
    Method.forEach traefikNames (leaveNetwork network)
    removeNetwork network
    verifyNetworkAbsent network
  else pure ()

def traefikNames (config : AgentRuntimeConfig) : List String :=
  [config.traefikContainerName, config.traefikContainerName ++ "-candidate"]

def handleDeleteProject (config : AgentRuntimeConfig) (projectId : String) :
    ProjectAction DeletedProject := do
  deleteNetwork (config.projectNetwork projectId) (traefikNames config)
  pure ⟨config.projectNetwork projectId⟩

/-- What Docker knows of networks: those there are, the containers on each, whether they run or not,
and the containers that run. -/
structure Daemon where
  networks : Set String
  attached : String → Set String
  running : Set String

namespace Daemon

def detach (s : Daemon) (network container : String) : Daemon :=
  { s with attached := Function.update s.attached network (s.attached network \ {container}) }

/-- A container that does not run stays on a network that is removed. -/
def drop (s : Daemon) (network : String) : Daemon :=
  { s with networks := s.networks \ {network} }

def Busy (s : Daemon) (network : String) : Prop := ∃ name ∈ s.attached network, name ∈ s.running

end Daemon

/-- What a call does where it succeeds. Docker removes no network with a container that runs. -/
def Took (c : ProjectCall) (s s' : Daemon) : Prop :=
  match c with
  | .inspectNetwork _ | .inspectContainer _ => s' = s
  | .disconnectNetwork network container _ => s' = s.detach network container
  | .removeNetwork network =>
    (network ∈ s.networks → ¬ s.Busy network) ∧ s' = s.drop network

def Tells (c : ProjectCall) (r : Option c.Answer) (s : Daemon) : Prop :=
  match c, r with
  | .inspectNetwork name, some (.ok found) => found = true ↔ name ∈ s.networks
  | .inspectContainer name, some (.ok found) =>
    ∀ network, isAttached network found = true ↔ name ∈ s.attached network
  | _, _ => True

def Succeeded (c : ProjectCall) (r : Option c.Answer) : Prop :=
  match c, r with
  | .inspectNetwork _, some (.ok _) | .inspectContainer _, some (.ok _)
  | .disconnectNetwork _ _ _, some (.ok _) | .removeNetwork _, some (.ok _) => True
  | _, _ => False

def Failed (c : ProjectCall) (r : Option c.Answer) : Prop := ¬ Succeeded c r ∧ r ≠ none

/-- Whatever else goes on: nothing joins the network, and nobody else makes or removes it. -/
structure Drifts (network : String) (s s' : Daemon) : Prop where
  networks : network ∈ s'.networks ↔ network ∈ s.networks
  attached : s'.attached network ⊆ s.attached network

def Refused (c : ProjectCall) (s : Daemon) : Prop :=
  match c with
  | .disconnectNetwork network container _ => container ∉ s.attached network
  | .removeNetwork network => network ∈ s.networks ∧ s.Busy network
  | _ => False

/-- Any call may fail or lose its answer, and have been carried out all the same. Where Docker is
obliging it fails at nothing but what it refuses to do, and nobody else takes containers off the
network. -/
def effect (network : String) (obliging : Prop) : Model ProjectCall.Answer Daemon := fun s c r s' =>
  ∃ t, Drifts network s t ∧ Tells c r t ∧ (Took c t s' ∨ ¬ Succeeded c r ∧ s' = t) ∧
    (obliging → t.attached network = s.attached network ∧ (Failed c r → Refused c t))

/-- No container is left on a network that is gone: with one such it could not be started again. -/
def Sound (network : String) (s : Daemon) : Prop :=
  network ∉ s.networks → s.attached network = ∅

def Within (network : String) (names : Set String) (s : Daemon) : Prop :=
  s.attached network ⊆ names

open Method

section

variable {network : String} {obliging : Prop} {names : Set String} {s t s' : Daemon}

theorem Drifts.trans (h : Drifts network s t) (h' : Drifts network t s') : Drifts network s s' :=
  ⟨h'.networks.trans h.networks, h'.attached.trans h.attached⟩

theorem Drifts.sound (h : Drifts network s s') (hs : Sound network s) : Sound network s' := by
  intro hgone
  have hnone := hs (mt h.networks.mpr hgone)
  exact Set.subset_empty_iff.mp (hnone ▸ h.attached)

theorem Drifts.within (h : Drifts network s s') (hs : Within network names s) :
    Within network names s' := h.attached.trans hs

theorem drifts_refl (s : Daemon) : Drifts network s s := ⟨Iff.rfl, subset_rfl⟩

theorem detach_drifts (s : Daemon) (other container : String) :
    Drifts network s (s.detach other container) := by
  refine ⟨Iff.rfl, ?_⟩
  by_cases h : network = other
  · subst h
    simp [Daemon.detach]
  · simp [Daemon.detach, Function.update_of_ne h]

theorem effect_drifts {c : ProjectCall} {r : Option c.Answer} (hc : ∀ name, c ≠ .removeNetwork name)
    (h : effect network obliging s c r s') : Drifts network s s' := by
  obtain ⟨t, hdrift, -, htook, -⟩ := h
  apply hdrift.trans
  obtain htook | ⟨-, rfl⟩ := htook
  · cases c with
    | inspectNetwork | inspectContainer =>
      obtain rfl : s' = t := htook
      exact drifts_refl _
    | disconnectNetwork other container =>
      obtain rfl : s' = t.detach other container := htook
      exact detach_drifts t other container
    | removeNetwork name => exact absurd rfl (hc name)
  · exact drifts_refl _

abbrev Deletes {α : Type} (network : String) (obliging : Prop) (P : Daemon → Prop)
    (p : ProjectAction α) (Q : α → Daemon → Prop) : Prop :=
  Triple (effect network obliging) (Sound network) P p Q fun _ => ¬ obliging

theorem deletes_answered {α : Type} {r : Except CallError α} {P : Daemon → Prop}
    {Q : α → Daemon → Prop} (hok : ∀ a, r = .ok a → ∀ s, P s → Q a s)
    (herr : ∀ e, r = .error e → ∀ s, P s → ¬ obliging) :
    Deletes network obliging P (answered r) Q := by
  cases r with
  | ok a => exact triple_pure (hok a rfl)
  | error e => exact triple_throw (herr e rfl)

theorem deletes_inspectNetwork : Deletes network obliging (Within network names)
    (inspectNetwork network) fun found s =>
      Within network names s ∧ (found = true ↔ network ∈ s.networks) := by
  have hask : Deletes network obliging (Within network names)
      (Method.ask (ProjectCall.inspectNetwork network)) fun r s => Within network names s ∧
        (∀ found, r = .ok found → (found = true ↔ network ∈ s.networks)) ∧
        ∀ e, r = .error e → ¬ obliging := by
    apply triple_ask
    · exact fun s r s' hm hJ _ => (effect_drifts (by simp) hm).sound hJ
    · intro s r s' hm _ hwithin
      refine ⟨(effect_drifts (by simp) hm).within hwithin, ?_, ?_⟩
      · rintro found rfl
        obtain ⟨t, -, htells, htook, -⟩ := hm
        obtain rfl | ⟨hfailed, -⟩ := htook
        · exact htells
        · exact absurd trivial hfailed
      · rintro e rfl hobliging
        obtain ⟨t, -, -, -, hobliges⟩ := hm
        exact (hobliges hobliging).2 ⟨not_false, nofun⟩
  apply hask.bind
  intro r
  apply deletes_answered
  · exact fun found hr s hP => ⟨hP.1, hP.2.1 found hr⟩
  · exact fun e hr s hP => hP.2.2 e hr

theorem deletes_inspectContainer (container : String) : Deletes network obliging
    (Within network names) (inspectContainer container) fun found s => Within network names s ∧
      (isAttached network found = true ↔ container ∈ s.attached network) := by
  have hask : Deletes network obliging (Within network names)
      (Method.ask (ProjectCall.inspectContainer container)) fun r s => Within network names s ∧
        (∀ found, r = .ok found →
          (isAttached network found = true ↔ container ∈ s.attached network)) ∧
        ∀ e, r = .error e → ¬ obliging := by
    apply triple_ask
    · exact fun s r s' hm hJ _ => (effect_drifts (by simp) hm).sound hJ
    · intro s r s' hm _ hwithin
      refine ⟨(effect_drifts (by simp) hm).within hwithin, ?_, ?_⟩
      · rintro found rfl
        obtain ⟨t, -, htells, htook, -⟩ := hm
        obtain rfl | ⟨hfailed, -⟩ := htook
        · exact htells network
        · exact absurd trivial hfailed
      · rintro e rfl hobliging
        obtain ⟨t, -, -, -, hobliges⟩ := hm
        exact (hobliges hobliging).2 ⟨not_false, nofun⟩
  apply hask.bind
  intro r
  apply deletes_answered
  · exact fun found hr s hP => ⟨hP.1, hP.2.1 found hr⟩
  · exact fun e hr s hP => hP.2.2 e hr

theorem deletes_disconnectNetwork (container : String) : Deletes network obliging
    (fun s => Within network (insert container names) s ∧ container ∈ s.attached network)
    (disconnectNetwork network container true) fun _ => Within network names := by
  have hask : Deletes network obliging
      (fun s => Within network (insert container names) s ∧ container ∈ s.attached network)
      (Method.ask (ProjectCall.disconnectNetwork network container true)) fun r s =>
        (∀ u, r = .ok u → Within network names s) ∧ ∀ e, r = .error e → ¬ obliging := by
    apply triple_ask
    · exact fun s r s' hm hJ _ => (effect_drifts (by simp) hm).sound hJ
    · rintro s r s' ⟨t, hdrift, -, htook, hobliges⟩ _ ⟨hwithin, hattached⟩
      constructor
      · rintro u rfl
        obtain rfl | ⟨hfailed, -⟩ := htook
        · intro other hother
          simp only [Daemon.detach, Function.update_self, Set.mem_sdiff,
            Set.mem_singleton_iff] at hother
          exact (hwithin (hdrift.attached hother.1)).resolve_left hother.2
        · exact absurd trivial hfailed
      · rintro e rfl hobliging
        obtain ⟨hsame, hrefused⟩ := hobliges hobliging
        have hdetached : container ∉ t.attached network := hrefused ⟨not_false, nofun⟩
        exact hdetached (hsame ▸ hattached)
  apply hask.bind
  intro r
  apply deletes_answered
  · exact fun u hr s hP => hP.1 u hr
  · exact fun e hr s hP => hP.2 e hr

theorem deletes_leaveNetwork (container : String) : Deletes network obliging
    (Within network (insert container names)) (leaveNetwork network container)
      fun _ => Within network names := by
  apply (deletes_inspectContainer container).bind
  intro found
  split
  · next hfound =>
    exact (deletes_disconnectNetwork container).mono (fun s hs => ⟨hs.1, hs.2.mp hfound⟩)
      (fun _ _ h => h) fun _ h => h
  · next hfound =>
    apply triple_pure
    rintro s ⟨hwithin, hattached⟩ other hother
    obtain rfl | hmem := hwithin hother
    · exact absurd (hattached.mpr hother) hfound
    · exact hmem

theorem deletes_leaveAll (containers : List String) : Deletes network obliging
    (Within network {name | name ∈ containers})
    (Method.forEach containers (leaveNetwork network)) fun _ => Within network ∅ := by
  induction containers with
  | nil => exact triple_pure fun s hs => by simpa using hs
  | cons container rest ih =>
    have hcons : {name | name ∈ container :: rest} = insert container {name | name ∈ rest} := by
      ext name
      simp
    rw [hcons]
    exact (deletes_leaveNetwork container).bind fun _ => ih

theorem deletes_removeNetwork : Deletes network obliging (Within network ∅)
    (removeNetwork network) fun _ s => Within network ∅ s ∧ network ∉ s.networks := by
  have hask : Deletes network obliging (Within network ∅)
      (Method.ask (ProjectCall.removeNetwork network)) fun r s => Within network ∅ s ∧
        (∀ u, r = .ok u → network ∉ s.networks) ∧ ∀ e, r = .error e → ¬ obliging := by
    have hempty {s s' : Daemon} {r : Option (Except CallError Unit)}
        (hm : effect network obliging s (.removeNetwork network) r s')
        (hwithin : Within network ∅ s) : Within network ∅ s' := by
      obtain ⟨t, hdrift, -, htook, -⟩ := hm
      obtain ⟨-, rfl⟩ | ⟨-, rfl⟩ := htook
      · exact hdrift.within hwithin
      · exact hdrift.within hwithin
    apply triple_ask
    · exact fun s r s' hm _ hwithin _ => Set.subset_empty_iff.mp (hempty hm hwithin)
    · intro s r s' hm _ hwithin
      refine ⟨hempty hm hwithin, ?_⟩
      obtain ⟨t, hdrift, -, htook, hobliges⟩ := hm
      constructor
      · rintro u rfl
        obtain ⟨-, rfl⟩ | ⟨hfailed, -⟩ := htook
        · simp [Daemon.drop]
        · exact absurd trivial hfailed
      · rintro e rfl hobliging
        obtain ⟨-, name, hattached, -⟩ := (hobliges hobliging).2 ⟨not_false, nofun⟩
        exact hdrift.within hwithin hattached
  apply hask.bind
  intro r
  apply deletes_answered
  · exact fun u hr s hP => ⟨hP.1, hP.2.1 u hr⟩
  · exact fun e hr s hP => hP.2.2 e hr

def Gone (network : String) (s : Daemon) : Prop := network ∉ s.networks ∧ s.attached network = ∅

theorem persistent_absent : Persistent (effect network obliging) fun s => network ∉ s.networks := by
  rintro s c r s' ⟨t, hdrift, -, htook, -⟩ habsent
  have hbefore : network ∉ t.networks := mt hdrift.networks.mp habsent
  obtain htook | ⟨-, rfl⟩ := htook
  · cases c with
    | inspectNetwork | inspectContainer =>
      obtain rfl : s' = t := htook
      exact hbefore
    | disconnectNetwork other container =>
      obtain rfl : s' = t.detach other container := htook
      exact hbefore
    | removeNetwork name =>
      obtain ⟨-, rfl⟩ := htook
      exact fun h => hbefore h.1
  · exact hbefore

theorem deletes_verifyNetworkAbsent : Deletes network obliging
    (fun s => Within network ∅ s ∧ network ∉ s.networks) (verifyNetworkAbsent network)
      fun _ => Gone network := by
  apply (deletes_inspectNetwork.frame persistent_absent |>.mono (fun _ h => h) (fun _ _ h => h)
    fun _ h => h.1).bind
  intro found
  split
  · next hfound => exact triple_throw fun s hs => absurd (hs.1.2.mp hfound) hs.2
  · exact triple_pure fun s hs => ⟨hs.2, Set.subset_empty_iff.mp hs.1.1⟩

theorem deletes_deleteNetwork (containers : List String) : Deletes network obliging
    (Within network {name | name ∈ containers}) (deleteNetwork network containers)
      fun _ => Gone network := by
  apply deletes_inspectNetwork.kept.bind
  intro found
  split
  · apply ((deletes_leaveAll containers).mono (fun s hs => hs.2.1) (fun _ _ h => h)
      fun _ h => h).bind
    intro _
    exact deletes_removeNetwork.bind fun _ => deletes_verifyNetworkAbsent
  · next hfound =>
    apply triple_pure
    rintro s ⟨hsound, -, hiff⟩
    have habsent : network ∉ s.networks := mt hiff.mpr hfound
    exact ⟨habsent, hsound habsent⟩

end

section

variable {config : AgentRuntimeConfig} {projectId : String} {s s' : Daemon}

theorem deletes_handleDeleteProject (obliging : Prop) :
    Deletes (config.projectNetwork projectId) obliging
      (Within (config.projectNetwork projectId) {name | name ∈ traefikNames config})
      (handleDeleteProject config projectId) fun _ => Gone (config.projectNetwork projectId) := by
  apply (deletes_deleteNetwork _).bind
  exact fun _ => triple_pure fun _ hs => hs

/-- Where attempts to delete a project, with other things going on between them, have led. When the
first begins only Traefik is left on the project's network. -/
inductive Attempted (config : AgentRuntimeConfig) (projectId : String) : Daemon → Prop
  | begun {s : Daemon} (hsound : Sound (config.projectNetwork projectId) s)
      (honly : Within (config.projectNetwork projectId) {name | name ∈ traefikNames config} s) :
      Attempted config projectId s
  | drifted {s s' : Daemon} (h : Attempted config projectId s)
      (hd : Drifts (config.projectNetwork projectId) s s') : Attempted config projectId s'
  | attempt {s s' : Daemon} {o : Outcome (Except Failure DeletedProject × Unit)}
      (h : Attempted config projectId s)
      (he : Program.Exec (effect (config.projectNetwork projectId) False)
        (handleDeleteProject config projectId ()) s o s') : Attempted config projectId s'

theorem persistent_within {network : String} {obliging : Prop} (names : Set String) :
    Persistent (effect network obliging) (Within network names) := by
  intro s c r s' hm hwithin
  by_cases hc : ∀ name, c ≠ .removeNetwork name
  · exact (effect_drifts hc hm).within hwithin
  · push Not at hc
    obtain ⟨name, rfl⟩ := hc
    obtain ⟨t, hdrift, -, htook, -⟩ := hm
    obtain ⟨-, rfl⟩ | ⟨-, rfl⟩ := htook
    · exact hdrift.within hwithin
    · exact hdrift.within hwithin

theorem Attempted.inv (h : Attempted config projectId s) :
    Sound (config.projectNetwork projectId) s ∧
      Within (config.projectNetwork projectId) {name | name ∈ traefikNames config} s := by
  induction h with
  | begun hsound honly => exact ⟨hsound, honly⟩
  | drifted _ hd ih => exact ⟨hd.sound ih.1, hd.within ih.2⟩
  | attempt _ he ih =>
    exact ⟨((deletes_handleDeleteProject False).exec he ih.1 ih.2).1,
      (persistent_within _).exec he ih.2⟩

/-- However the attempts to delete a project end, none strands a proxy on a network that is gone. An
attempt that returns has removed the network, and one on an obliging Docker never fails. -/
theorem deleted_project_strands_no_proxy (h : Attempted config projectId s) (obliging : Prop)
    {o : Outcome (Except Failure DeletedProject × Unit)}
    (he : Program.Exec (effect (config.projectNetwork projectId) obliging)
      (handleDeleteProject config projectId ()) s o s') :
    Sound (config.projectNetwork projectId) s' ∧
      (∀ result, o = .done (.ok result, ()) → Gone (config.projectNetwork projectId) s') ∧
      (obliging → ∀ e, o ≠ .done (.error e, ())) := by
  have hend := (deletes_handleDeleteProject obliging).exec he h.inv.1 h.inv.2
  exact ⟨hend.1, fun result => hend.2.1 result (), fun hobliging e heq =>
    hend.2.2 e () heq hobliging⟩

end

def proxyConfig : AgentRuntimeConfig where
  serverId := "server"
  appDomain := "apps.test"
  dataVolume := "nouva-data"
  traefikContainerName := "nouva-traefik"
  imageStoreMode := .dockerLocal
  clientIngressPlaceholderUrl := none
  hashProjectNetwork := id
  createBuildLogRedactor := fun _ _ => id

def stoppedProxy : Daemon where
  networks := {"nouva-project-p"}
  attached := Function.update (fun _ => ∅) "nouva-project-p" {"nouva-traefik"}
  running := ∅

def stoppedTraefik : DockerContainerInspection where
  id := "t1"
  name := "/nouva-traefik"
  image := none
  restartCount := none
  state := none
  hostConfig := none
  config := none
  networks := some [("nouva-project-p", some "")]
  mounts := none

theorem deleted_project_strands_no_proxy_stopped : Gone "nouva-project-p"
    ((stoppedProxy.detach "nouva-project-p" "nouva-traefik").drop "nouva-project-p") := by
  let left := stoppedProxy.detach "nouva-project-p" "nouva-traefik"
  have hleft : left.attached = fun _ => ∅ := by
    funext name
    by_cases h : name = "nouva-project-p"
    · subst h
      simp [left, Daemon.detach, stoppedProxy]
    · simp [left, Daemon.detach, stoppedProxy]
  have hcall {s s' : Daemon} {c : ProjectCall} {r : Option c.Answer} (htells : Tells c r s)
      (htook : Took c s s') : effect "nouva-project-p" False s c r s' :=
    ⟨s, drifts_refl s, htells, .inl htook, False.elim⟩
  have hfound : effect "nouva-project-p" False stoppedProxy (.inspectNetwork "nouva-project-p")
      (some (.ok true)) stoppedProxy := hcall (iff_of_true rfl rfl) rfl
  have htraefik : effect "nouva-project-p" False stoppedProxy (.inspectContainer "nouva-traefik")
      (some (.ok (some stoppedTraefik))) stoppedProxy := by
    refine hcall (fun network => ?_) rfl
    by_cases h : network = "nouva-project-p"
    · subst h
      simp [stoppedProxy, isAttached, stoppedTraefik]
    · simp [stoppedProxy, isAttached, stoppedTraefik, Function.update_of_ne h, List.lookup_cons,
        beq_false_of_ne h]
  have hdisconnect : effect "nouva-project-p" False stoppedProxy
      (.disconnectNetwork "nouva-project-p" "nouva-traefik" true) (some (.ok ())) left :=
    hcall trivial rfl
  have hcandidate : effect "nouva-project-p" False left
      (.inspectContainer "nouva-traefik-candidate") (some (.ok none)) left :=
    hcall (fun network => by simp [hleft, isAttached]) rfl
  have hremove : effect "nouva-project-p" False left (.removeNetwork "nouva-project-p")
      (some (.ok ())) (left.drop "nouva-project-p") :=
    hcall trivial ⟨fun _ => by simp [Daemon.Busy, hleft], rfl⟩
  have hgone : effect "nouva-project-p" False (left.drop "nouva-project-p")
      (.inspectNetwork "nouva-project-p") (some (.ok false)) (left.drop "nouva-project-p") :=
    hcall (iff_of_false Bool.false_ne_true (by simp [Daemon.drop])) rfl
  have hrun : Program.Exec (effect "nouva-project-p" False)
      (handleDeleteProject proxyConfig "p" ()) stoppedProxy
      (.done (.ok ⟨"nouva-project-p"⟩, ())) (left.drop "nouva-project-p") :=
    .call hfound (.call htraefik (.call hdisconnect (.call hcandidate (.call hremove
      (.call hgone (.ret _ _))))))
  have hbegun : Attempted proxyConfig "p" stoppedProxy :=
    .begun (fun habsent => absurd rfl habsent) (by
      intro name hname
      have hname : name ∈ stoppedProxy.attached "nouva-project-p" := hname
      obtain rfl : name = "nouva-traefik" := by simpa [stoppedProxy] using hname
      exact List.mem_cons_self)
  exact (deleted_project_strands_no_proxy hbegun False hrun).2.1 _ rfl

end ProjectNetwork

end NouvaAgent
