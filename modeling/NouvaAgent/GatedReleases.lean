import NouvaAgent.BuildAndDeploy
import NouvaAgent.ReleaseGate

namespace NouvaAgent.BuildAndDeploy

open Text Interaction Method ReleaseJobs ReleaseGate

abbrev BuildEvent := Event BuildCall.Answer

abbrev BuildHistory := History BuildCall.Answer

def agentEvent : BuildEvent → Option AgentEvent
  | ⟨.agent c, r⟩ => some ⟨c, r⟩
  | _ => none

def agentHistory (h : BuildHistory) : AgentHistory := h.filterMap agentEvent

/-! The BuildKit daemons. -/

def Makes (name : String) (c : BuildCall) : Prop := ∃ spec, c = .ensureContainer spec true ∧
  spec.name = name

/-- Of every daemon that was asked for, the removal was asked for later. -/
def DaemonsRemoved (h : BuildHistory) : Prop :=
  ∀ later e before, h = later ++ e :: before → ∀ name, Makes name e.call →
    ∃ e' ∈ later, e'.call = .agent (.request (.removeContainer name true none))

def Only (name : String) (h : BuildHistory) : Prop :=
  ∀ e ∈ h, ∀ other, Makes other e.call → other = name

def NoDaemon (h : BuildHistory) : Prop := ∀ e ∈ h, ∀ name, ¬ Makes name e.call

variable {α ε : Type} {name : String} {h : BuildHistory} {e : BuildEvent}

theorem NoDaemon.removed (hn : NoDaemon h) : DaemonsRemoved h := by
  rintro later e before rfl name hmade
  exact absurd hmade (hn e (by simp) name)

theorem DaemonsRemoved.cons (ho : Only name h)
    (he : e.call = .agent (.request (.removeContainer name true none))) :
    DaemonsRemoved (e :: h) := by
  intro later e' before hsplit other hmade
  cases later with
  | nil =>
    obtain ⟨rfl, -⟩ := List.cons.inj hsplit
    obtain ⟨spec, hspec, -⟩ := hmade
    rw [he] at hspec
    cases hspec
  | cons e'' later =>
    obtain ⟨rfl, rfl⟩ := List.cons.inj hsplit
    obtain rfl := ho e' (by simp) other hmade
    exact ⟨e, List.mem_cons_self, he⟩

theorem Only.cons (ho : Only name h) (he : ∀ other, Makes other e.call → other = name) :
    Only name (e :: h) := List.forall_mem_cons.mpr ⟨he, ho⟩

theorem NoDaemon.cons (hn : NoDaemon h) (he : ∀ name, ¬ Makes name e.call) : NoDaemon (e :: h) :=
  List.forall_mem_cons.mpr ⟨he, hn⟩

def Daemonless (c : BuildCall) : Prop := ∀ name, ¬ Makes name c

theorem daemonless_agent (c : AgentCall) : Daemonless (.agent c) := by
  rintro name ⟨spec, ⟨⟩, -⟩

theorem uses_agent {S : BuildCall → Prop} {p : AgentAction α} (hp : p.Uses fun c => S (.agent c)) :
    (agent p).Uses S := uses_relay hp

theorem agent_daemonless (p : AgentAction α) : (agent p).Uses Daemonless :=
  uses_agent ((uses_any p).mono fun c _ => daemonless_agent c)

theorem answered_uses {S : BuildCall → Prop} (r : Except CallError α) : (answered r).Uses S :=
  uses_ofExcept _

theorem triple_daemonless {p : BuildAction ε α} (hp : p.Uses Daemonless) :
    Triple recording (Only name) NoDaemon p (fun _ => NoDaemon) NoDaemon := by
  apply hp.triple
  rintro h c r _ hc ⟨rfl, -⟩ ho hn
  exact ⟨ho.cons fun other hmade => absurd hmade (hc other), hn.cons hc⟩

theorem triple_only {p : BuildAction ε α} (hp : p.Uses fun c => ∀ other, Makes other c → other = name) :
    Triple recording (Only name) (fun _ => True) p (fun _ _ => True) fun _ => True := by
  apply hp.triple
  rintro h c r _ hc ⟨rfl, -⟩ ho -
  exact ⟨ho.cons hc, trivial⟩

theorem daemonless_only {p : BuildAction ε α} (hp : p.Uses Daemonless) :
    p.Uses fun c => ∀ other, Makes other c → other = name :=
  hp.mono fun _ hc other hmade => absurd hmade (hc other)

theorem triple_removeBuildkit (deploymentId : String) : Triple recording
    (Only (buildScopedBuildkitContainerName deploymentId)) (fun _ => True)
    (removeBuildkit deploymentId) (fun _ => DaemonsRemoved) DaemonsRemoved := by
  intro s h ho _
  have hafter (answer : Option (Except CallError Unit)) :
      Only (buildScopedBuildkitContainerName deploymentId) (⟨.agent (.request (.removeContainer
        (buildScopedBuildkitContainerName deploymentId) true none)), answer⟩ :: h) ∧
      DaemonsRemoved (⟨.agent (.request (.removeContainer
        (buildScopedBuildkitContainerName deploymentId) true none)), answer⟩ :: h) :=
    ⟨ho.cons fun other hmade => absurd hmade (daemonless_agent _ other), .cons ho rfl⟩
  constructor
  · rintro _ ⟨rfl, -⟩
    exact (hafter none).1
  · rintro (e | _) _ ⟨rfl, -⟩
    · exact hafter (some (.error e))
    · exact hafter (some (.ok ()))

theorem ensureContainer_uses {S : BuildCall → Prop} {spec : BuildContainerSpec} {replace : Bool}
    (hS : S (.ensureContainer spec replace)) : (ensureContainer spec replace).Uses S :=
  uses_bind (uses_ask hS) fun answer => uses_bind (answered_uses answer) fun _ => uses_pure ()

theorem waitForBuildkitAvailability_uses {S : BuildCall → Prop} (hnow : S (.agent .now))
    (hsleep : S (.agent (.sleep 250)))
    (hconnect : ∀ host port ms, S (.agent (.request (.checkTcpConnect host port ms))))
    (port fuel : ℕ) : (waitForBuildkitAvailability port fuel).Uses S := by
  have hpoll (address : String) (p : ℕ) (deadline : ℤ) (fuel : ℕ) :
      (pollBuildkit address p deadline fuel).Uses S := by
    induction fuel with
    | zero => exact uses_cut
    | succ fuel ih =>
      apply uses_bind (uses_agent (Agent.uses_now hnow))
      intro time
      split
      · apply uses_bind (uses_agent (Agent.uses_request (hconnect _ _ _)))
        intro connected
        split
        · exact uses_pure ()
        · exact uses_bind (uses_agent (Agent.uses_sleep hsleep)) fun _ => ih
      · exact uses_throw _
  apply uses_bind (uses_agent (Agent.uses_now hnow))
  exact fun time => hpoll _ _ _ _

theorem startBuildkit_uses {S : BuildCall → Prop} (hnow : S (.agent .now))
    (hsleep : S (.agent (.sleep 250)))
    (hconnect : ∀ host port ms, S (.agent (.request (.checkTcpConnect host port ms))))
    {config : BuildConfig} {port : ℕ} {deploymentId serviceId : String}
    (hensure : ∀ resources, S (.ensureContainer (buildBuildkitContainerSpec config
      (buildScopedBuildkitContainerName deploymentId) port resources deploymentId serviceId
      (buildBuildkitCacheVolumeName serviceId)) true)) (fuel : ℕ) :
    (startBuildkit config fuel port deploymentId serviceId).Uses S := by
  apply uses_bind (uses_ofExcept _)
  intro resources
  apply uses_bind (ensureContainer_uses (hensure resources))
  exact fun _ => waitForBuildkitAvailability_uses hnow hsleep hconnect port fuel

theorem triple_prepareAppBuildkitRuntime (config : BuildConfig) (fuel : ℕ)
    (deploymentId serviceId : String) :
    Triple recording (Only (buildScopedBuildkitContainerName deploymentId)) NoDaemon
      (prepareAppBuildkitRuntime config fuel deploymentId serviceId) (fun _ _ => True)
      DaemonsRemoved := by
  have hkept {α : Type} {p : BuildAction Failure α} (hp : p.Uses Daemonless) :
      Triple recording (Only (buildScopedBuildkitContainerName deploymentId)) NoDaemon p
        (fun _ => NoDaemon) DaemonsRemoved :=
    (triple_daemonless hp).mono (fun _ h => h) (fun _ _ h => h) fun _ h => h.removed
  have hallocate : Daemonless .allocateAvailableLocalPort := by
    rintro name ⟨spec, ⟨⟩, -⟩
  apply (hkept (uses_ask hallocate)).bind
  intro allocated
  apply (hkept (answered_uses allocated)).bind
  intro port
  apply (hkept (agent_daemonless _)).bind
  intro _
  apply Triple.bind (R := fun _ _ => True)
  · apply Triple.tryCatch (Y := fun _ => True)
    · have hstart : (startBuildkit config fuel port deploymentId serviceId).Uses fun c =>
          ∀ other, Makes other c → other = buildScopedBuildkitContainerName deploymentId := by
        have hagent (c : AgentCall) (other : String) (hmade : Makes other (.agent c)) :
            other = buildScopedBuildkitContainerName deploymentId :=
          absurd hmade (daemonless_agent c other)
        apply startBuildkit_uses (hagent _) (hagent _) fun _ _ _ => hagent _
        rintro resources other ⟨_, ⟨⟩, rfl⟩
        rfl
      apply (triple_only hstart).mono
      · exact fun _ _ => trivial
      · exact fun _ _ h => h
      · exact fun _ h => h
    · intro error
      apply Triple.bind (triple_removeBuildkit deploymentId)
      exact fun _ => triple_throw fun _ h => h
  · exact fun _ => triple_pure fun _ h => h

theorem triple_build {p : BuildAction ε α} {f : BuildAction ε Unit} (hp : p.Uses Daemonless)
    (hf : Triple recording (Only name) (fun _ => True) f (fun _ => DaemonsRemoved) DaemonsRemoved) :
    Triple recording (Only name) (fun _ => True) (Method.finally_ p f) (fun _ => DaemonsRemoved)
      DaemonsRemoved :=
  (triple_only (daemonless_only hp)).finally_ (R := fun _ => DaemonsRemoved) (fun _ => hf) hf

/-! What is known of the rollout's part of a run. -/

theorem triple_agent {G : AgentEvent → AgentHistory → Prop} {P X : AgentHistory → Prop}
    {Q : α → AgentHistory → Prop} {p : AgentAction α} (hp : Triple recording (Along G) P p Q X) :
    Triple recording (fun h => Along G (agentHistory h)) (fun h => P (agentHistory h)) (agent p)
      (fun a h => Q a (agentHistory h)) fun h => X (agentHistory h) := by
  apply hp.relay
  rintro h c r _ ⟨rfl, -⟩
  rw [Option.map_id']
  exact ⟨rfl, trivial⟩

def Rolled (h h' : BuildHistory) : Prop :=
  ∃ seg, h' = seg ++ h ∧ ∀ e ∈ seg, ∃ c a, e = ⟨.agent c, a⟩

theorem wp_rolled (p : AgentAction α) (s : Unit) (h : BuildHistory) :
    (agent p).wp recording (Post.keeping (Rolled h) fun _ _ => True) s h := by
  have hagent : (agent p).Uses fun c => ∃ c', c = .agent c' :=
    uses_agent ((uses_any p).mono fun c _ => ⟨c, rfl⟩)
  apply wp_mono (hagent.wp (J := Rolled h) ?_ ⟨[], rfl, fun e he => (List.not_mem_nil he).elim⟩)
  · exact fun _ _ _ hrolled => ⟨hrolled, trivial⟩
  · exact fun _ _ _ hrolled => hrolled
  · exact fun _ hrolled => hrolled
  · rintro _ _ r _ ⟨c, rfl⟩ ⟨rfl, -⟩ ⟨seg, rfl, hseg⟩
    exact ⟨⟨.agent c, r⟩ :: seg, rfl, List.forall_mem_cons.mpr ⟨⟨c, r, rfl⟩, hseg⟩⟩

theorem prepareAppBuildkitRuntime_uses {S : BuildCall → Prop} (hnow : S (.agent .now))
    (hsleep : S (.agent (.sleep 250)))
    (hconnect : ∀ host port ms, S (.agent (.request (.checkTcpConnect host port ms))))
    {config : BuildConfig} {deploymentId serviceId : String}
    (hallocate : S .allocateAvailableLocalPort)
    (hvolume : ∀ labels, S (.agent (.request
      (.createVolume (buildBuildkitCacheVolumeName serviceId) labels))))
    (hensure : ∀ port resources, S (.ensureContainer (buildBuildkitContainerSpec config
      (buildScopedBuildkitContainerName deploymentId) port resources deploymentId serviceId
      (buildBuildkitCacheVolumeName serviceId)) true))
    (hremove : (removeBuildkit deploymentId).Uses S) (fuel : ℕ) :
    (prepareAppBuildkitRuntime config fuel deploymentId serviceId).Uses S := by
  apply uses_bind (uses_ask hallocate)
  intro allocated
  apply uses_bind (answered_uses allocated)
  intro port
  apply uses_bind (uses_agent (Agent.uses_request (hvolume _)))
  intro _
  apply uses_bind
  · apply uses_tryCatch
    · exact startBuildkit_uses hnow hsleep hconnect (hensure port) fuel
    · exact fun error => uses_bind hremove fun _ => uses_throw error
  · exact fun _ => uses_pure _

theorem ensureLocalRegistryRuntime_uses {S : BuildCall → Prop} (hnow : S (.agent .now))
    (hsleep : S (.agent (.sleep 250))) {config : BuildConfig}
    (hfetch : S (.fetchLocalRegistry
      ("http://127.0.0.1:" ++ toString config.localRegistryPort ++ "/v2/")))
    (hensure : S (.ensureContainer (localRegistrySpec config) false)) (fuel : ℕ) :
    (ensureLocalRegistryRuntime config fuel).Uses S := by
  have hpoll (deadline : ℤ) (fuel : ℕ) (lastFailure : Option CallError) :
      (pollLocalRegistry config deadline fuel lastFailure).Uses S := by
    induction fuel generalizing lastFailure with
    | zero => exact uses_cut
    | succ fuel ih =>
      apply uses_bind (uses_agent (Agent.uses_now hnow))
      intro time
      split
      · apply uses_bind (uses_ask hfetch)
        intro response
        split
        · exact uses_pure ()
        · exact uses_bind (uses_agent (Agent.uses_sleep hsleep)) fun _ => ih _
      · exact uses_throw _
  apply uses_bind (ensureContainer_uses hensure)
  exact fun _ => uses_bind (uses_agent (Agent.uses_now hnow)) fun _ => hpoll _ _ _

theorem buildApp_uses {S : BuildCall → Prop} {options : BuildAppOptions} (h : S (.buildApp options)) :
    (buildApp options).Uses S :=
  uses_bind (uses_ask h) fun built => answered_uses built

theorem daemonless_buildApp (options : BuildAppOptions) : Daemonless (.buildApp options) := by
  rintro name ⟨spec, ⟨⟩, -⟩

theorem deferWhileBlocking_daemonless {releasePhases : Option ReleasePhaseRunner}
    {releaseJobs : Option DeploymentReleasePlan} {serviceId deploymentId : String} :
    (deferWhileBlocking releasePhases releaseJobs serviceId deploymentId).Uses Daemonless := by
  unfold deferWhileBlocking
  split
  · exact agent_daemonless _
  · exact uses_pure ()

end NouvaAgent.BuildAndDeploy

namespace NouvaAgent

open ReleaseJobs BuildAndDeploy

/-- What a release has to run before it is activated: whose job it is, what it may run on, of what was
built, and what else the release may ask meanwhile. -/
structure ActivationGate where
  releasePhases : Option ReleasePhaseRunner
  releaseJobs : Option DeploymentReleasePlan
  serviceId : String
  deploymentId : String
  Target : BuildAppResult → ReleaseJobTarget → Prop
  Preparatory : BuildCall → AgentHistory → Prop

end NouvaAgent

namespace NouvaAgent.ActivationGate

open Text Interaction Method ReleaseJobs ReleaseGate BuildAndDeploy

variable (gate : ActivationGate)

/-- There is no pre-activation job to run, or it has passed. -/
def Cleared (h : AgentHistory) : Prop :=
  (preActivationOf gate.releasePhases gate.releaseJobs).isSome →
    Passed gate.serviceId gate.deploymentId .preActivation h

def Known (h : BuildHistory) (target : ReleaseJobTarget) : Prop :=
  ∃ options built, ⟨.buildApp options, some (.ok built)⟩ ∈ h ∧ gate.Target built target

/-- What running the job takes, and waiting for those of others. -/
def MayRun (targets : ReleaseJobTarget → Prop) (c : AgentCall) (before : AgentHistory) : Prop :=
  ∃ runner job, preActivationOf gate.releasePhases gate.releaseJobs = some (runner, job) ∧
    (WatcherMay .preActivation c before ∨ ∃ target, targets target ∧
      RunnerMay target
        (preActivationRequest job.command job.timeoutSeconds : ReleasePhaseRequest Unit) c before)

def Allows (targets : ReleaseJobTarget → Prop) (c : BuildCall) (before : AgentHistory) : Prop :=
  gate.Cleared before ∨ gate.Preparatory c before ∨
    ∃ asked, c = .agent asked ∧ gate.MayRun targets asked before

/-- Whatever is neither the job nor preparatory waits for the gate. -/
def Gated (e : BuildEvent) (before : BuildHistory) : Prop :=
  gate.Allows (gate.Known before) e.call (agentHistory before)

def AgentGated (targets : ReleaseJobTarget → Prop) (e : AgentEvent) (before : AgentHistory) : Prop :=
  gate.Allows targets (.agent e.call) before

def Open (c : BuildCall) : Prop := ∀ h, gate.Preparatory c h

section

variable {gate} {α ε : Type} {targets targets' : ReleaseJobTarget → Prop} {target : ReleaseJobTarget}
  {c : BuildCall} {h seg : BuildHistory} {before : AgentHistory}

theorem persistent_cleared : Persistent recording gate.Cleared :=
  persistent_recording fun _ _ hc hjob => (hc hjob).mono (List.subset_cons_self _ _)

theorem persistent_cleared_build :
    Persistent recording fun h : BuildHistory => gate.Cleared (agentHistory h) := by
  refine persistent_recording fun e h hc hjob => (hc hjob).mono fun e' hmem => ?_
  rw [agentHistory, List.filterMap_cons]
  split
  · exact hmem
  · exact List.mem_cons_of_mem _ hmem

theorem persistent_known : Persistent recording fun h => gate.Known h target := by
  refine persistent_recording fun e h hk => ?_
  obtain ⟨options, built, hmem, htarget⟩ := hk
  exact ⟨options, built, List.mem_cons_of_mem e hmem, htarget⟩

theorem Allows.mono (ha : gate.Allows targets c before) (h : ∀ target, targets target → targets' target) :
    gate.Allows targets' c before := by
  obtain hc | hp | ⟨asked, rfl, runner, job, hjob, hrun⟩ := ha
  · exact .inl hc
  · exact .inr (.inl hp)
  · refine .inr (.inr ⟨asked, rfl, runner, job, hjob, hrun.imp (fun hw => hw) ?_⟩)
    rintro ⟨target, htarget, hmay⟩
    exact ⟨target, h target htarget, hmay⟩

theorem along_agentGated (hh : Along gate.Gated h) (ht : ∀ target, gate.Known h target → targets target) :
    Along (gate.AgentGated targets) (agentHistory h) := by
  induction h with
  | nil => trivial
  | cons e h ih =>
    have hrest := ih hh.2 fun target hk => ht target (persistent_known h e.call e.answer _ ⟨rfl, trivial⟩ hk)
    obtain ⟨c, a⟩ := e
    cases c with
    | agent c =>
      refine ⟨Allows.mono hh.1 fun target hk => ?_, hrest⟩
      exact ht target (persistent_known h (.agent c) a _ ⟨rfl, trivial⟩ hk)
    | _ => exact hrest

theorem along_gated (hseg : ∀ e ∈ seg, ∃ c a, e = ⟨.agent c, a⟩) (hh : Along gate.Gated h)
    (ht : ∀ target, targets target → gate.Known h target)
    (ha : Along (gate.AgentGated targets) (agentHistory (seg ++ h))) :
    Along gate.Gated (seg ++ h) := by
  induction seg with
  | nil => exact hh
  | cons e seg ih =>
    rw [List.forall_mem_cons] at hseg
    obtain ⟨⟨c, a, rfl⟩, hseg⟩ := hseg
    refine ⟨Allows.mono ha.1 fun target htarget => ?_, ih hseg ha.2⟩
    obtain ⟨options, built, hmem, hbuilt⟩ := ht target htarget
    exact ⟨options, built, List.mem_append_right seg hmem, hbuilt⟩

theorem triple_agent {p : AgentAction α} {K : (ReleaseJobTarget → Prop) → Prop}
    {P X : AgentHistory → Prop} {Q : α → AgentHistory → Prop}
    (hp : ∀ targets, K targets → Triple recording (Along (gate.AgentGated targets)) P p Q X) :
    Triple recording (Along gate.Gated) (fun h => K (gate.Known h) ∧ P (agentHistory h)) (agent p)
      (fun a h => Q a (agentHistory h)) fun h => X (agentHistory h) := by
  rintro s h hh ⟨hknown, hP⟩
  have hran := BuildAndDeploy.triple_agent (hp _ hknown) s h (along_agentGated hh fun _ hk => hk) hP
  apply wp_mono (wp_and (wp_rolled p s h) hran)
  · rintro a _ _ ⟨⟨⟨seg, rfl, hseg⟩, -⟩, hgated, hq⟩
    exact ⟨along_gated hseg hh (fun _ hk => hk) hgated, hq⟩
  · rintro e _ _ ⟨⟨seg, rfl, hseg⟩, hgated, hx⟩
    exact ⟨along_gated hseg hh (fun _ hk => hk) hgated, hx⟩
  · rintro _ ⟨⟨seg, rfl, hseg⟩, hgated⟩
    exact along_gated hseg hh (fun _ hk => hk) hgated

theorem triple_open {p : BuildAction ε α} {P : BuildHistory → Prop} (hp : p.Uses gate.Open)
    (hP : Persistent recording P) :
    Triple recording (Along gate.Gated) P p (fun _ => P) P :=
  hp.triple_along (fun _ _ _ hc _ => .inr (.inl (hc _))) hP

theorem triple_buildApp {options : BuildAppOptions} (hopen : gate.Open (.buildApp options)) :
    Triple recording (Along gate.Gated) (fun _ => True) (buildApp options)
      (fun built h => ∀ target, gate.Target built target → gate.Known h target) fun _ => True := by
  apply Triple.bind (R := fun answer h => ∀ built, answer = .ok built →
    ∀ target, gate.Target built target → gate.Known h target)
  · apply triple_ask_along
    · exact fun _ _ _ => .inr (.inl (hopen _))
    · rintro h _ _ built rfl target htarget
      exact ⟨options, built, List.mem_cons_self, htarget⟩
  · rintro (e | built)
    · exact triple_throw fun _ _ => trivial
    · exact triple_pure fun h hknown => hknown built rfl

theorem triple_cleared {p : BuildAction ε α} : Triple recording (Along gate.Gated)
    (fun h => gate.Cleared (agentHistory h)) p (fun _ h => gate.Cleared (agentHistory h))
    fun h => gate.Cleared (agentHistory h) :=
  Method.triple_unbound (fun _ _ hc => .inl hc) persistent_cleared_build

end

theorem cleared_of_none (hnone : preActivationOf gate.releasePhases gate.releaseJobs = none)
    (h : AgentHistory) : gate.Cleared h := by
  intro hjob
  rw [hnone] at hjob
  cases hjob

theorem triple_run {targets : ReleaseJobTarget → Prop} {runner : ReleasePhaseRunner}
    {job : PreActivationJobConfig} {target : ReleaseJobTarget}
    (hjob : preActivationOf gate.releasePhases gate.releaseJobs = some (runner, job))
    (htarget : targets target) (hservice : target.serviceId = gate.serviceId)
    (hdeployment : target.deploymentId = gate.deploymentId) :
    Triple recording (Along (gate.AgentGated targets)) (fun _ => True)
      (ReleaseJobs.run runner target
        (preActivationRequest job.command job.timeoutSeconds : ReleasePhaseRequest Unit))
      (fun result h => ∀ attempt, result = .succeeded attempt → gate.Cleared h) fun _ => True := by
  have hmay (c : AgentCall) (a : Option c.Answer) (h : AgentHistory) (hmay : RunnerMay target
      (preActivationRequest job.command job.timeoutSeconds : ReleasePhaseRequest Unit) c h) :
      gate.AgentGated targets ⟨c, a⟩ h :=
    .inr (.inr ⟨c, rfl, runner, job, hjob, .inr ⟨target, htarget, hmay⟩⟩)
  apply (ReleaseGate.triple_run hmay rfl).mono
  · exact fun _ h => h
  · intro result h hpassed attempt hresult _
    rw [← hservice, ← hdeployment]
    exact hpassed attempt hresult
  · exact fun _ h => h

theorem triple_deferWhileBlocking : Triple recording (Along gate.Gated) (fun _ => True)
    (deferWhileBlocking gate.releasePhases gate.releaseJobs gate.serviceId gate.deploymentId)
    (fun _ _ => True) fun _ => True := by
  unfold deferWhileBlocking
  split
  · next runner job hjob =>
    have hwatch (targets : ReleaseJobTarget → Prop) (_ : True) : Triple recording
        (Along (gate.AgentGated targets)) (fun _ => True) (deferWhileBlockingJobRuns runner
          gate.serviceId gate.deploymentId : AgentAction Unit) (fun _ _ => True) fun _ => True :=
      safe_deferWhileBlockingJobRuns fun c a h hc => .inr (.inr ⟨c, rfl, runner, job, hjob, .inl hc⟩)
    exact (triple_agent hwatch).mono (fun _ _ => ⟨trivial, trivial⟩) (fun _ _ h => h) fun _ h => h
  · exact triple_pure fun _ h => h

end NouvaAgent.ActivationGate
