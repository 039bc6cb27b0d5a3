import NouvaAgent.ManagedFiles
import NouvaAgent.TraefikRuntime

namespace NouvaAgent.TraefikRuntime

open Text Interaction Method ManagedRuntime

variable {σ : Type} {paths : TraefikRuntimePaths}

def Looking : RuntimeCall → Prop
  | .request r => match r with
    | .readFile _ | .readDirectory _ | .access _ | .stat _ | .inspectContainer _ | .listNetworks
    | .connectNetwork _ _ | .inspectNetwork _ | .fetch _ _ => True
    | _ => False
  | _ => True

def AcmeCall (paths : TraefikRuntimePaths) : RuntimeCall → Prop
  | .request (.change change) => ∀ p, change.Touches p →
      p = paths.acmeStoragePath ∨ p = temporary paths.acmeStoragePath
  | c => Looking c

theorem countRoutersIn_looks {dynamicDir : String} {file : DirectoryEntry} :
    (countRoutersIn dynamicDir file).Uses Looking := by
  refine uses_bind (readManagedFile_uses trivial) fun content => ?_
  cases content with
  | none => exact uses_pure _
  | some content => exact uses_assign _

theorem countRouteFiles_looks {dynamicDir : String} :
    (countRouteFiles dynamicDir : RuntimeMethod σ _).Uses Looking := by
  refine uses_bind (uses_settle (uses_request trivial)) fun entries => ?_
  cases entries with
  | error e => exact uses_pure _
  | ok entries =>
    refine uses_bind (uses_withLocals ?_) fun _ => uses_pure _
    exact uses_bind (uses_forEach fun _ _ => countRoutersIn_looks) fun _ => uses_locals

theorem fetchManagedRouterCount_looks {adminPort : ℕ} :
    (fetchManagedRouterCount adminPort : RuntimeMethod σ _).Uses Looking := by
  refine uses_bind (uses_request trivial) fun response => ?_
  split
  · exact uses_bind (uses_ofExcept _) fun _ => uses_pure _
  · exact uses_pure _

theorem fetchPing_looks {adminPort : ℕ} : (fetchPing adminPort : RuntimeMethod σ _).Uses Looking := by
  refine uses_bind (uses_settle (uses_request trivial)) fun response => ?_
  cases response <;> exact uses_pure _

theorem probeAcme_looks : (probeAcme paths : RuntimeMethod σ _).Uses Looking := by
  have hread : (do
      request (.access paths.acmeStoragePath)
      request (.stat paths.acmeStoragePath) : RuntimeMethod σ ℕ).Uses Looking :=
    uses_bind (uses_request trivial) fun _ => uses_request trivial
  refine uses_bind (uses_settle hread) fun probed => ?_
  cases probed with
  | error e => exact uses_pure _
  | ok mode =>
    dsimp only
    split <;> exact uses_pure _

theorem probeTraefikRuntime_looks {containerName : String} {adminPort : ℕ} :
    (probeTraefikRuntime paths containerName adminPort : RuntimeMethod σ _).Uses Looking := by
  refine uses_bind (uses_request trivial) fun inspection => ?_
  refine uses_bind countRouteFiles_looks fun counts => ?_
  have hrest (found : Bool × Option ℕ) (f : Bool × Option ℕ → ServerCheckStatus × String →
      TraefikProbeResult) : (Method.bind (Method.pure found) fun found =>
        Method.bind (probeAcme paths) fun acme => Method.pure (f found acme) :
          RuntimeMethod σ _).Uses Looking :=
    uses_bind (uses_pure _) fun _ => uses_bind probeAcme_looks fun _ => uses_pure _
  dsimp only
  split
  · refine uses_bind fetchPing_looks fun _ => ?_
    exact uses_bind (uses_settle fetchManagedRouterCount_looks) fun _ => hrest _ _
  · exact hrest _ _

theorem pollHealth_looks {options : ReconcileOptions} {expected : HealthExpectation}
    {startedAt : ℤ} (fuel : ℕ) (lastError : String) :
    (pollHealth paths options expected startedAt fuel lastError : RuntimeMethod σ Unit).Uses
      Looking := by
  induction fuel generalizing lastError with
  | zero => exact uses_cut
  | succ fuel ih =>
    refine uses_bind (uses_now trivial) fun time => ?_
    split
    · refine uses_bind probeTraefikRuntime_looks fun probe => ?_
      cases lastErrorOf expected probe with
      | none => exact uses_pure _
      | some lastError => exact uses_bind (uses_sleep trivial) fun _ => ih lastError
    · exact uses_throw _

theorem waitForTraefikHealth_looks {fuel : ℕ} {options : ReconcileOptions}
    {expected : HealthExpectation} :
    (waitForTraefikHealth fuel paths options expected : RuntimeMethod σ Unit).Uses Looking :=
  uses_bind (uses_now trivial) fun _ => pollHealth_looks _ _

theorem connectProjectNetwork_looks {containerName : String} {network : RuntimeNetwork} :
    (connectProjectNetwork containerName network).Uses Looking := by
  refine uses_bind (uses_settle (uses_request trivial)) fun connected => ?_
  cases connected with
  | ok _ => exact uses_pure _
  | error e =>
    dsimp only
    split
    · refine uses_bind (uses_request trivial) fun found => ?_
      split
      · exact uses_throw _
      · exact uses_pure _
    · exact uses_throw _

theorem connectTraefik_looks {fuel : ℕ} {containerName : String} {serverId : Option String} :
    (connectTraefikToManagedProjectNetworks fuel containerName serverId :
      RuntimeMethod σ Unit).Uses Looking := by
  have hconnect : ∀ networks : List RuntimeNetwork,
      (Method.allSettled fuel (networks.map (connectProjectNetwork containerName))).Uses Looking := by
    intro networks
    apply uses_allSettled
    intro p hp
    obtain ⟨network, _, rfl⟩ := List.mem_map.mp hp
    exact connectProjectNetwork_looks
  refine uses_bind (uses_request trivial) fun networks => ?_
  refine uses_bind (uses_lift (hconnect _)) fun connected => ?_
  exact uses_forEach fun r _ => uses_ofExcept r

variable {process : TraefikProcess} {fuel : ℕ} {options : ReconcileOptions}

theorem checkCandidate_looks :
    (checkCandidate process fuel options : RuntimeMethod σ Unit).Uses Looking :=
  uses_bind connectTraefik_looks fun _ => waitForTraefikHealth_looks

theorem checkPrimary_looks :
    (checkPrimary process fuel options : RuntimeMethod σ Unit).Uses Looking :=
  uses_bind connectTraefik_looks fun _ => waitForTraefikHealth_looks

theorem writeEmptyAcmeStorage_calls :
    (writeEmptyAcmeStorage paths : RuntimeMethod σ Unit).Uses (AcmeCall paths) := by
  refine uses_bind (uses_request fun p hp => hp.elim) fun _ => ?_
  refine uses_bind (uses_request fun p hp => .inr hp) fun _ => ?_
  refine uses_bind (uses_request fun p hp => hp.elim) fun _ => ?_
  refine uses_bind (uses_request fun p hp => hp.symm) fun _ => ?_
  exact uses_request fun p hp => hp.elim

theorem ensureTraefikState_calls :
    (ensureTraefikState paths : RuntimeMethod σ Unit).Uses (AcmeCall paths) := by
  refine uses_bind (uses_request fun p hp => hp.elim) fun _ => ?_
  refine uses_bind (uses_request fun p hp => hp.elim) fun _ => ?_
  refine uses_bind (uses_request fun p hp => hp.elim) fun _ => ?_
  refine uses_tryCatch (uses_bind (uses_request trivial) fun currentContent => ?_) fun _ =>
    writeEmptyAcmeStorage_calls
  split
  · exact writeEmptyAcmeStorage_calls
  · exact uses_request fun p hp => hp.elim

end NouvaAgent.TraefikRuntime
