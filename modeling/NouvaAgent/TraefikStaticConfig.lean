import NouvaAgent.TraefikCutover

namespace NouvaAgent.TraefikRuntime

open Text Interaction Method ManagedRuntime

def staticPath (options : ReconcileOptions) : String := (paths options).staticConfigPath

def Prepares : RuntimeRequest → Prop
  | .change _ | .ensureNetwork _ => True
  | _ => False

def Aside : RuntimeCall → Prop
  | .request r => ¬ Prepares r
  | _ => True

/-- The latest call was to put a file or the network in place, and it was rejected. -/
def Unprepared (w : TraefikWorld) : Prop :=
  ∃ r e before, Prepares r ∧ w.log = ⟨.request r, some (.error e)⟩ :: before

variable {process : TraefikProcess} {fuel : ℕ} {config : TraefikConfig} {options : ReconcileOptions}
  {image : Option String} {s : Option TraefikRuntimeFailure} {w w' : TraefikWorld}
  {contents : Option String}

def Former (options : ReconcileOptions) (contents : Option String) (w : TraefikWorld) : Prop :=
  w.files (staticPath options) = contents

def Installed (config : TraefikConfig) (options : ReconcileOptions) (w : TraefikWorld) : Prop :=
  w.files (staticPath options) = some (staticConfig config options) ∧ ¬ Unprepared w

def Placed (config : TraefikConfig) (options : ReconcileOptions) (contents : Option String)
    (w : TraefikWorld) : Prop :=
  Former options contents w ∧ Unprepared w ∨ Installed config options w

theorem staticPath_ne_acme : staticPath options ≠ (paths options).acmeStoragePath := by
  intro h
  exact absurd ((String.append_right_inj options.dataDir).mp h) (by decide +kernel)

theorem staticPath_ne_acme_temporary :
    staticPath options ≠ temporary (paths options).acmeStoragePath := by
  intro h
  have h : options.dataDir ++ "/traefik/static/traefik.yml" =
      options.dataDir ++ "/traefik/acme/acme.json" ++ ".tmp" := h
  rw [String.append_assoc] at h
  exact absurd ((String.append_right_inj options.dataDir).mp h) (by decide +kernel)

theorem acme_spares {c : RuntimeCall} (hc : AcmeCall (paths options) c) :
    c.Spares (staticPath options) := by
  cases c with
  | request q =>
    cases q with
    | change change =>
      exact fun ht => (hc _ ht).elim staticPath_ne_acme staticPath_ne_acme_temporary
    | _ => trivial
  | now => trivial
  | sleep ms => trivial

theorem looking_aside {c : RuntimeCall} (hc : Looking c) : Aside c := by
  cases c with
  | request q => cases q <;> first | exact id | exact hc.elim
  | now => trivial
  | sleep ms => trivial

theorem aside_spares {p : String} {c : RuntimeCall} (hc : Aside c) : c.Spares p := by
  cases c with
  | request q =>
    cases q with
    | change change => exact (hc trivial).elim
    | _ => trivial
  | now => trivial
  | sleep ms => trivial

theorem Installed.aside {c : RuntimeCall} {r : Option c.Answer} (hc : Aside c)
    (hm : serving process image w c r w') (h : Installed config options w) :
    Installed config options w' := by
  refine ⟨(hm.2.1.spares (aside_spares hc)).trans h.1, ?_⟩
  rintro ⟨q, e, before, hq, hlog⟩
  obtain rfl : c = .request q := congrArg Event.call (List.cons.inj (hm.1.symm.trans hlog)).1
  exact hc hq

theorem former_wp {σ α : Type} {p : RuntimeMethod σ α} {s : σ}
    (hp : p.Uses (RuntimeCall.Spares (staticPath options))) (h : Former options contents w) :
    p.wp (serving process image) (Post.always (Former options contents)) s w :=
  hp.wp (fun _ _ _ _ hc hm h => (hm.2.1.spares hc).trans h) h

theorem installed_wp {σ α : Type} {p : RuntimeMethod σ α} {s : σ} (hp : p.Uses Aside)
    (h : Installed config options w) :
    p.wp (serving process image) (Post.always (Installed config options)) s w :=
  hp.wp (fun _ _ _ _ hc hm h => h.aside hc hm) h

section

variable {σ α β : Type}

/-- Where `p` throws, it is over the latest call, which was to prepare. -/
def Preparing (process : TraefikProcess) (image : Option String) (p : RuntimeMethod σ α) : Prop :=
  ∀ s w, p.wp (serving process image) ⟨fun _ _ _ => True, fun _ _ => Unprepared, fun _ => True⟩ s w

theorem preparing_request {r : RuntimeRequest} (h : Prepares r) :
    Preparing process image (request r : RuntimeMethod σ _) := fun _ w =>
  (wp_request r).mpr ⟨fun _ _ => trivial, fun e _ hm => ⟨r, e, w.log, h, hm.1⟩,
    fun _ _ _ => trivial⟩

theorem Preparing.bind {p : RuntimeMethod σ β} {f : β → RuntimeMethod σ α}
    (hp : Preparing process image p) (hf : ∀ b, Preparing process image (f b)) :
    Preparing process image (Method.bind p f) := fun s w =>
  wp_bind_of (R := fun _ _ _ => True) (hp s w) fun b s w _ => hf b s w

theorem writeManagedFile_preparing {path contents : String} {mode : Option ℕ} :
    Preparing process image (writeManagedFile path contents mode : RuntimeMethod σ Unit) := by
  refine Preparing.bind (preparing_request trivial) fun _ => ?_
  refine Preparing.bind (preparing_request trivial) fun _ => ?_
  cases mode with
  | none => exact preparing_request trivial
  | some mode =>
    refine Preparing.bind (preparing_request trivial) fun _ => ?_
    exact Preparing.bind (preparing_request trivial) fun _ => preparing_request trivial

theorem ensureTraefikState_preparing {paths : TraefikRuntimePaths} :
    Preparing process image (ensureTraefikState paths : RuntimeMethod σ Unit) := by
  refine Preparing.bind (preparing_request trivial) fun _ => ?_
  refine Preparing.bind (preparing_request trivial) fun _ => ?_
  refine Preparing.bind (preparing_request trivial) fun _ s w => ?_
  have hwrite : Preparing process image (writeEmptyAcmeStorage paths : RuntimeMethod σ Unit) :=
    writeManagedFile_preparing
  refine (wp_tryCatch _ _).mpr (wp_mono (wp_true _ s w) (fun _ _ _ h => h) ?_ fun _ h => h)
  exact fun _ s w _ => hwrite s w

end

theorem writeStaticConfig_wp (h : Former options contents w) :
    (writeManagedFile (staticPath options) (staticConfig config options) : TraefikMethod Unit).wp
      (serving process image)
      ⟨fun _ _ => Installed config options, fun _ _ => Former options contents, fun _ => True⟩ s w := by
  have hspares : (RuntimeCall.request (.change (.writeFile (temporary (staticPath options))
      (staticConfig config options)))).Spares (staticPath options) := temporary_ne _
  have hmkdir : (RuntimeCall.request (.change (.mkdir (dirname (staticPath options))))).Spares
      (staticPath options) := fun ht => ht.elim
  refine (wp_bind _ _).mpr ((wp_request _).mpr ⟨fun _ _ => trivial,
    fun e w' hm => (hm.2.1.spares hmkdir).trans h, fun _ w' hm => ?_⟩)
  have h : Former options contents w' := (hm.2.1.spares hmkdir).trans h
  refine (wp_bind _ _).mpr ((wp_request _).mpr ⟨fun _ _ => trivial,
    fun e w' hm => (hm.2.1.spares hspares).trans h, fun _ w'' hm => ?_⟩)
  have h : Former options contents w'' := (hm.2.1.spares hspares).trans h
  have hwritten : w''.files (temporary (staticPath options)) = some (staticConfig config options) := by
    rw [show w''.files = _ from hm.2.1]
    exact Function.update_self _ _ _
  refine (wp_request _).mpr ⟨fun _ _ => trivial, fun e w' hm => ?_, fun _ w' hm => ⟨?_, ?_⟩⟩
  · exact (congrFun hm.2.1 _).trans h
  · rw [show w'.files = _ from hm.2.1, FileChange.apply, Function.update_of_ne (temporary_ne _),
      Function.update_self, hwritten]
  · rintro ⟨r, e, before, _, hlog⟩
    cases (List.cons.inj (hm.1.symm.trans hlog)).1

theorem preflight_aside :
    (preflight process fuel config options).Uses Aside := by
  refine uses_bind (uses_request id) fun _ => ?_
  refine uses_bind (uses_request id) fun _ => ?_
  refine uses_bind (uses_request id) fun _ => ?_
  refine uses_tryCatch (checkCandidate_looks.mono fun _ => looking_aside) fun error => ?_
  refine uses_bind (uses_request id) fun _ => ?_
  exact uses_bind (uses_assign _) fun _ => uses_throw _

theorem restorePrevious_aside {σ : Type} {previousImage : String} :
    (restorePrevious process fuel config options previousImage : RuntimeMethod σ Unit).Uses
      Aside :=
  uses_bind (uses_request id) fun _ => checkPrimary_looks.mono fun _ => looking_aside

theorem rollBack_aside {previousImage : Option String} {error : Failure} :
    (rollBack process fuel config options previousImage error).Uses Aside := by
  refine uses_bind (uses_request id) fun _ => ?_
  have hend (status : RollbackStatus) : (Method.bind (Method.pure status) fun status =>
      Method.bind (recordTraefikRuntimeFailure .cutover (error.message "Traefik cutover failed") status)
        fun _ => (Method.throw error : TraefikMethod Unit)).Uses Aside :=
    uses_bind (uses_pure _) fun _ => uses_bind (uses_assign _) fun _ => uses_throw _
  cases previousImage.filter (· ≠ "") with
  | none => exact hend _
  | some image =>
    refine uses_bind (uses_settle restorePrevious_aside) fun restored => ?_
    cases restored <;> exact hend _

theorem cutOver_aside {previousImage : Option String} :
    (cutOver process fuel config options previousImage).Uses Aside := by
  refine uses_bind (uses_request id) fun _ => ?_
  refine uses_bind (uses_request id) fun _ => ?_
  refine uses_finally (uses_tryCatch ?_ fun error => rollBack_aside) (uses_request id)
  exact uses_bind (checkPrimary_looks.mono fun _ => looking_aside) fun _ => uses_assign _

theorem reconcileTraefikRuntime_places (h : Former options contents w) :
    (reconcileTraefikRuntime process fuel config options).wp (serving process image)
      ⟨fun _ _ _ => True, fun _ _ => Placed config options contents, fun _ => True⟩ s w := by
  have hprepare {α : Type} {p : TraefikMethod α} {s : Option TraefikRuntimeFailure}
      {w : TraefikWorld} (hp : p.Uses (RuntimeCall.Spares (staticPath options)))
      (hfails : Preparing process image p) (h : Former options contents w) :
      p.wp (serving process image)
        ⟨fun _ _ => Former options contents, fun _ _ => Placed config options contents,
          fun _ => True⟩ s w :=
    wp_mono (wp_and (former_wp hp h) (hfails s w)) (fun _ _ _ h => h.1) (fun _ _ _ h => .inl h)
      fun _ _ => trivial
  refine wp_bind_of (hprepare (ensureTraefikState_calls.mono fun _ => acme_spares)
    ensureTraefikState_preparing h) fun _ s w h => ?_
  refine wp_bind_of (hprepare (uses_request trivial) (preparing_request trivial) h)
    fun _ s w h => ?_
  refine wp_bind_of (wp_mono (wp_and (writeStaticConfig_wp h) (writeManagedFile_preparing s w))
    (fun _ _ _ h => h.1) (fun _ _ _ h => .inl h) fun _ h => h.1) fun _ s w h => ?_
  refine wp_mono (installed_wp (uses_bind (uses_request id) fun current => ?_) h)
    (fun _ _ _ _ => trivial) (fun _ _ _ h => .inr h) fun _ _ => trivial
  split
  · exact uses_bind (connectTraefik_looks.mono fun _ => looking_aside) fun _ => uses_assign _
  · exact uses_bind preflight_aside fun _ => cutOver_aside

/-- A reconcile that ends with an error, whether the primary is still there or not, leaves the file as
it was exactly where what failed was its preparation, or where the file holds the new one already. -/
theorem failed_reconcile_spares_iff {files : RuntimeFiles} {s' : Option TraefikRuntimeFailure}
    {error : Failure} (he : Program.Exec (serving process image)
      (reconcileTraefikRuntime process fuel config options s) (onServer files)
      (.done (.error error, s')) w) :
    w.files (staticPath options) = files (staticPath options) ↔
      Unprepared w ∨ files (staticPath options) = some (staticConfig config options) := by
  have hstart : Former options (files (staticPath options)) (onServer files) := rfl
  have hend : Placed config options (files (staticPath options)) w :=
    Program.wp_sound (reconcileTraefikRuntime_places hstart) he
  obtain ⟨hfile, hfailed⟩ | ⟨hfile, hprepared⟩ := hend
  · exact iff_of_true hfile (.inl hfailed)
  · rw [hfile, eq_comm]
    simp [hprepared]

def unanswered : RuntimeRequest → Option CallError
  | .fetch _ _ => some ⟨true, "connect ECONNREFUSED", none⟩
  | _ => none

def brokenUpgrade (contents : String) :
    Outcome (Except Failure Unit × Option TraefikRuntimeFailure) × TraefikWorld :=
  (reconcileTraefikRuntime sampleProcess 3 sampleConfig sampleOptions none).play (server unanswered)
    (onServer fun p => if p = staticPath sampleOptions then some contents else none)

theorem brokenUpgrade_exec (contents : String) {o : Outcome (Except Failure Unit ×
    Option TraefikRuntimeFailure)} (ho : (brokenUpgrade contents).1 = o) :
    Program.Exec (serving sampleProcess (some "traefik:v3.4"))
      (reconcileTraefikRuntime sampleProcess 3 sampleConfig sampleOptions none)
      (onServer fun p => if p = staticPath sampleOptions then some contents else none) o
      (brokenUpgrade contents).2 :=
  Program.exec_of_play (server_serving _) ho

/-- What the candidate failed with is what the primary loads next. -/
theorem broken_upgrade_installed : ∃ error s', Program.Exec
      (serving sampleProcess (some "traefik:v3.4"))
      (reconcileTraefikRuntime sampleProcess 3 sampleConfig sampleOptions none)
      (onServer fun p => if p = staticPath sampleOptions then some "api: \x7b\x7d\n" else none)
      (.done (.error error, s')) (brokenUpgrade "api: \x7b\x7d\n").2 ∧
    (brokenUpgrade "api: \x7b\x7d\n").2.removed = false ∧
    (brokenUpgrade "api: \x7b\x7d\n").2.files (staticPath sampleOptions) ≠
      some "api: \x7b\x7d\n" := by
  have hend : (brokenUpgrade "api: \x7b\x7d\n").1 =
      .done (.error (.error "Traefik ping endpoint is not healthy"),
        some ⟨.preflight, "Traefik ping endpoint is not healthy", .notNeeded⟩) := by
    decide +kernel
  exact ⟨_, _, brokenUpgrade_exec _ hend, by decide +kernel, by decide +kernel⟩

theorem broken_image_spares :
    (brokenUpgrade (staticConfig sampleConfig sampleOptions)).2.files (staticPath sampleOptions) =
      some (staticConfig sampleConfig sampleOptions) := by
  have hend : (brokenUpgrade (staticConfig sampleConfig sampleOptions)).1 =
      .done (.error (.error "Traefik ping endpoint is not healthy"),
        some ⟨.preflight, "Traefik ping endpoint is not healthy", .notNeeded⟩) := by
    decide +kernel
  have hfile : (if staticPath sampleOptions = staticPath sampleOptions then
      some (staticConfig sampleConfig sampleOptions) else none) =
        some (staticConfig sampleConfig sampleOptions) := if_pos rfl
  have hspares := (failed_reconcile_spares_iff (brokenUpgrade_exec _ hend)).mpr (.inr hfile)
  exact hspares.trans hfile

end NouvaAgent.TraefikRuntime
