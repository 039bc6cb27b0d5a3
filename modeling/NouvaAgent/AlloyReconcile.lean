import NouvaAgent.AlloyRuntime
import NouvaAgent.ManagedFiles

namespace NouvaAgent

open Text Interaction Method ManagedRuntime

structure AlloyContainer where
  shown : RuntimeInspection
  loaded : Option String

structure AlloyWorld where
  files : RuntimeFiles
  container : Option AlloyContainer

namespace AlloyContainer

def Runs (c : AlloyContainer) : Prop := c.shown.running = some true

def start (file : Option String) (c : AlloyContainer) : AlloyContainer :=
  ⟨{ c.shown with running := some true }, file⟩

def stop (c : AlloyContainer) : AlloyContainer := { c with shown.running := some false }

def reload (file : Option String) (c : AlloyContainer) : AlloyContainer :=
  if c.shown.running = some true then { c with loaded := file } else c

end AlloyContainer

namespace AlloyRuntime

section

variable (dynamicPath : String)

inductive Drift (w : AlloyWorld) : AlloyWorld → Prop
  | starts (c : AlloyContainer) (hc : w.container = some c) :
    Drift w { w with container := some (c.start (w.files dynamicPath)) }
  | stops (c : AlloyContainer) (hc : w.container = some c) :
    Drift w { w with container := some c.stop }

def Made (spec : RuntimeContainerSpec) (shown : RuntimeInspection) : Prop :=
  shown.image = some spec.image ∧ shown.cmd = some spec.cmd ∧ shown.labels = some spec.labels ∧
    shown.binds = some spec.binds

/-- `ensureContainer`, where it does not replace, leaves a container that runs. -/
inductive Ensured (spec : RuntimeContainerSpec) (file : Option String) :
    Option AlloyContainer → Option AlloyContainer → Prop
  | made (shown : RuntimeInspection) (hmade : Made spec shown) :
    Ensured spec file none (some (AlloyContainer.start file ⟨shown, none⟩))
  | kept (c : AlloyContainer) (hruns : c.Runs) : Ensured spec file (some c) (some c)
  | started (c : AlloyContainer) (hruns : ¬ c.Runs) :
    Ensured spec file (some c) (some (c.start file))

/-- How a call, with its answer, changes the container. What was rejected or got no answer may have
been done, or a part of it. -/
def ContainerEffect (file : Option String) : (c : RuntimeCall) → Option c.Answer →
    (before after : Option AlloyContainer) → Prop
  | .request (.inspectContainer name), some (.ok found), before, after =>
    (name = alloyContainerName → found = before.map AlloyContainer.shown) ∧ after = before
  | .request (.removeContainer name _), some (.ok _), before, after =>
    after = if name = alloyContainerName then none else before
  | .request (.removeContainer name _), _, before, after =>
    after = before ∨ name = alloyContainerName ∧ after = none
  | .request (.ensureContainer spec _ _), some (.ok _), before, after =>
    if spec.name = alloyContainerName then Ensured spec file before after else after = before
  | .request (.ensureContainer spec _ _), _, before, after =>
    after = before ∨ spec.name = alloyContainerName ∧ (Ensured spec file before after ∨
      before = none ∧ ∃ shown, Made spec shown ∧ shown.running ≠ some true ∧
        after = some ⟨shown, none⟩)
  | .request (.fetch method _), some (.ok response), before, after =>
    after = if method = "POST" ∧ response.ok = true then before.map (AlloyContainer.reload file)
      else before
  | .request (.fetch method _), _, before, after =>
    after = before ∨ method = "POST" ∧ after = before.map (AlloyContainer.reload file)
  | _, _, before, after => after = before

def ReadsTruly (files : RuntimeFiles) : (c : RuntimeCall) → Option c.Answer → Prop
  | .request (.readFile path), some (.ok contents) => files path = some contents
  | _, _ => True

/-- What a call may do, where `dynamicPath` is what Alloy loads. -/
def collecting : Model RuntimeCall.Answer AlloyWorld := fun w c r w' =>
  ∃ v, Relation.ReflTransGen (Drift dynamicPath) w v ∧ c.FileEffect r v.files w'.files ∧
    ContainerEffect (v.files dynamicPath) c r v.container w'.container ∧ ReadsTruly v.files c r

def Aside : RuntimeCall → Prop
  | .request r => match r with
    | .change change => ¬ change.Touches dynamicPath
    | .removeContainer name _ => name ≠ alloyContainerName
    | .ensureContainer _ _ _ => False
    | .fetch method _ => method ≠ "POST"
    | _ => True
  | _ => True

def Unmaking : RuntimeCall → Prop
  | .request (.ensureContainer _ _ _) => False
  | _ => True

structure Steady (J : AlloyWorld → Prop) : Prop where
  drift : ∀ w w', Drift dynamicPath w w' → J w → J w'
  same : ∀ w w', w'.files dynamicPath = w.files dynamicPath → w'.container = w.container → J w → J w'

def Filed (contents : String) (w : AlloyWorld) : Prop := w.files dynamicPath = some contents

def Synced (contents : String) (w : AlloyWorld) : Prop :=
  Filed dynamicPath contents w ∧
    ∀ c, w.container = some c → c.Runs → c.loaded = some contents

def Absent (w : AlloyWorld) : Prop := w.container = none

end

variable {dynamicPath contents : String} {w w' v : AlloyWorld} {J : AlloyWorld → Prop}

theorem drifts_files (h : Relation.ReflTransGen (Drift dynamicPath) w v) : v.files = w.files := by
  induction h with
  | refl => rfl
  | tail _ hd ih => cases hd <;> exact ih

theorem Steady.drifts (hJ : Steady dynamicPath J)
    (h : Relation.ReflTransGen (Drift dynamicPath) w v) (hw : J w) : J v := by
  induction h with
  | refl => exact hw
  | tail _ hd ih => exact hJ.drift _ _ hd ih

theorem collecting_files {c : RuntimeCall} {r : Option c.Answer}
    (hm : collecting dynamicPath w c r w') : c.FileEffect r w.files w'.files := by
  obtain ⟨v, hd, heffect, _⟩ := hm
  exact drifts_files hd ▸ heffect

theorem aside_spares {c : RuntimeCall} (hc : Aside dynamicPath c) : c.Spares dynamicPath := by
  cases c with
  | request q => cases q <;> first | exact hc | trivial
  | now => trivial
  | sleep ms => trivial

theorem aside_container {c : RuntimeCall} {r : Option c.Answer} {file : Option String}
    {before after : Option AlloyContainer} (hc : Aside dynamicPath c)
    (he : ContainerEffect file c r before after) : after = before := by
  cases c with
  | request q =>
    cases q with
    | inspectContainer name =>
      rcases r with _ | _ | _
      · exact he
      · exact he
      · exact he.2
    | removeContainer name force =>
      have hname : name ≠ alloyContainerName := hc
      rcases r with _ | _ | _
      · exact he.resolve_right fun h => hname h.1
      · exact he.resolve_right fun h => hname h.1
      · exact he.trans (if_neg hname)
    | ensureContainer spec replace pull => exact hc.elim
    | fetch method url =>
      have hmethod : method ≠ "POST" := hc
      rcases r with _ | _ | _
      · exact he.resolve_right fun h => hmethod h.1
      · exact he.resolve_right fun h => hmethod h.1
      · exact he.trans (if_neg fun h => hmethod h.1)
    | _ => exact he
  | now => exact he
  | sleep ms => exact he

theorem Steady.aside {c : RuntimeCall} {r : Option c.Answer} (hJ : Steady dynamicPath J)
    (hc : Aside dynamicPath c) (hm : collecting dynamicPath w c r w') (hw : J w) : J w' := by
  obtain ⟨v, hd, heffect, hcontainer, _⟩ := hm
  exact hJ.same v w' (heffect.spares (aside_spares hc)) (aside_container hc hcontainer)
    (hJ.drifts hd hw)

theorem steady_wp {σ α : Type} {p : RuntimeMethod σ α} {s : σ} (hJ : Steady dynamicPath J)
    (hp : p.Uses (Aside dynamicPath)) (hw : J w) :
    p.wp (collecting dynamicPath) (Post.always J) s w :=
  hp.wp (fun _ _ _ _ hc hm hw => hJ.aside hc hm hw) hw

theorem Steady.imp (hJ : Steady dynamicPath J) (P : Prop) :
    Steady dynamicPath fun w => P → J w where
  drift := fun w w' hd h hp => hJ.drift w w' hd (h hp)
  same := fun w w' hfile hcontainer h hp => hJ.same w w' hfile hcontainer (h hp)

theorem filed_steady : Steady dynamicPath (Filed dynamicPath contents) where
  drift := by rintro w w' (⟨c, hc⟩ | ⟨c, hc⟩) h <;> exact h
  same := fun w w' hfile _ h => hfile.trans h

theorem absent_steady : Steady dynamicPath Absent where
  drift := by
    rintro w w' (⟨c, hc⟩ | ⟨c, hc⟩) h <;> exact nomatch hc.symm.trans h
  same := fun w w' _ hcontainer h => hcontainer.trans h

theorem synced_steady : Steady dynamicPath (Synced dynamicPath contents) where
  drift := by
    rintro w w' (⟨c, hc⟩ | ⟨c, hc⟩) ⟨hfile, h⟩
    · refine ⟨hfile, fun c' hc' _ => ?_⟩
      obtain rfl := Option.some.inj hc'
      exact hfile
    · refine ⟨hfile, fun c' hc' hruns => ?_⟩
      obtain rfl := Option.some.inj hc'
      exact absurd hruns (by simp [AlloyContainer.Runs, AlloyContainer.stop])
  same := by
    rintro w w' hfile hcontainer ⟨hfiled, h⟩
    exact ⟨hfile.trans hfiled, fun c hc => h c (hcontainer ▸ hc)⟩

def dynamicOf (dataDir : String) : String := (getAlloyRuntimePaths dataDir).dynamicConfigPath

variable {dataDir : String} {σ : Type} {input : AlloyRuntimeInput} {options : ReconcileAlloyOptions}
  {process : AlloyProcess} {fuel : ℕ}

theorem append_ne_dynamic {suffix : String} (h : suffix ≠ "/alloy/config/redaction-context.alloy") :
    dynamicOf dataDir ≠ dataDir ++ suffix :=
  fun heq => h ((String.append_right_inj dataDir).mp heq).symm

theorem temporary_append (suffix : String) :
    temporary (dataDir ++ suffix) = dataDir ++ (suffix ++ ".tmp") := String.append_assoc

theorem write_aside {suffix contents : String} (h : suffix ≠ "/alloy/config/redaction-context.alloy")
    (ht : suffix ++ ".tmp" ≠ "/alloy/config/redaction-context.alloy") :
    (writeManagedFile (dataDir ++ suffix) contents : RuntimeMethod σ Unit).Uses
      (Aside (dynamicOf dataDir)) := by
  have htemporary : dynamicOf dataDir ≠ temporary (dataDir ++ suffix) := by
    rw [temporary_append]
    exact append_ne_dynamic ht
  exact writeManagedFile_uses (fun h => h.elim) htemporary
    (not_or.mpr ⟨htemporary, append_ne_dynamic h⟩)

theorem removal_apart {suffix : String} {recursive : Bool}
    (h : ¬ FileChange.Under suffix recursive "/alloy/config/redaction-context.alloy") :
    ¬ (FileChange.rm (dataDir ++ suffix) recursive).Touches (dynamicOf dataDir) :=
  fun hunder => h ((FileChange.under_append dataDir suffix _ recursive).mp hunder)

theorem candidateDir_apart : ¬ (FileChange.rm (getAlloyRuntimePaths dataDir).candidateConfigDir
    true).Touches (dynamicOf dataDir) := removal_apart (by decide +kernel)

theorem legacyConfig_apart : ¬ (FileChange.rm (dataDir ++ "/alloy" ++ "/config.alloy") false).Touches
    (dynamicOf dataDir) := by
  rw [String.append_assoc]
  exact removal_apart (by decide +kernel)

theorem writeAlloyCandidateConfig_aside {staticContents dynamicContents : String} :
    (writeAlloyCandidateConfig (getAlloyRuntimePaths dataDir) staticContents dynamicContents :
      RuntimeMethod σ Unit).Uses (Aside (dynamicOf dataDir)) := by
  refine uses_bind (uses_request candidateDir_apart) fun _ => ?_
  refine uses_bind (write_aside (by decide +kernel) (by decide +kernel)) fun _ => ?_
  exact write_aside (by decide +kernel) (by decide +kernel)

theorem probeAlloyRuntime_aside {paths : AlloyRuntimePaths} :
    (probeAlloyRuntime paths input : RuntimeMethod σ _).Uses (Aside dynamicPath) := by
  have hconfig : (probeConfig paths : RuntimeMethod σ _).Uses (Aside dynamicPath) := by
    refine uses_bind (uses_settle (uses_bind (uses_request trivial) fun _ =>
      uses_request trivial)) fun found => ?_
    cases found <;> exact uses_pure _
  have hmetrics : (probeMetrics : RuntimeMethod σ _).Uses (Aside dynamicPath) := by
    have hget : Aside dynamicPath (.request (.fetch "GET" (alloyUrl "/metrics"))) :=
      show "GET" ≠ "POST" by decide
    refine uses_bind (uses_settle (uses_request hget)) fun response => ?_
    cases response <;> exact uses_pure _
  refine uses_bind (uses_request trivial) fun inspection => ?_
  refine uses_bind (uses_request trivial) fun imagePresent => ?_
  refine uses_bind hconfig fun configPresent => ?_
  split
  · exact uses_bind hmetrics fun _ => uses_pure _
  · exact uses_pure _

theorem waitForAlloyHealth_aside {paths : AlloyRuntimePaths} :
    (waitForAlloyHealth fuel paths input options : RuntimeMethod σ Unit).Uses
      (Aside dynamicPath) := by
  refine uses_bind (uses_now trivial) fun startedAt => ?_
  generalize "Alloy runtime did not become healthy" = lastError
  induction fuel generalizing lastError with
  | zero => exact uses_cut
  | succ fuel ih =>
    refine uses_bind (uses_now trivial) fun time => ?_
    split
    · refine uses_bind probeAlloyRuntime_aside fun probe => ?_
      cases lastErrorOf probe with
      | none => exact uses_pure _
      | some lastError => exact uses_bind (uses_sleep trivial) fun _ => ih lastError
    · exact uses_throw _

theorem validateAlloyConfig_aside {pullImage : Bool} :
    (validateAlloyConfig process input pullImage : RuntimeMethod σ Unit).Uses
      (Aside dynamicPath) := by
  have hname : Aside dynamicPath (.request
      (.removeContainer alloyValidationContainerName true)) :=
    show alloyValidationContainerName ≠ alloyContainerName by decide
  have hawait (containerId : String) : (awaitValidation process input containerId :
      RuntimeMethod σ Unit).Uses (Aside dynamicPath) := by
    refine uses_bind (uses_request trivial) fun _ => ?_
    refine uses_bind (uses_request trivial) fun status => ?_
    split
    · refine uses_bind (uses_request trivial) fun logs => ?_
      exact uses_bind (uses_ofExcept _) fun version => uses_throw _
    · exact uses_pure _
  have hrest : (do
      request (.removeContainer alloyValidationContainerName true)
      let containerId ← request (.createContainer (buildAlloyValidationContainerSpec input))
      Method.finally_ (awaitValidation process input containerId)
        (request (.removeContainer alloyValidationContainerName true)) :
      RuntimeMethod σ Unit).Uses (Aside dynamicPath) := by
    refine uses_bind (uses_request hname) fun _ => ?_
    refine uses_bind (uses_request trivial) fun containerId => ?_
    exact uses_finally (hawait containerId) (uses_request hname)
  unfold validateAlloyConfig
  split
  · exact uses_bind (uses_request trivial) fun _ => hrest
  · exact hrest

theorem health_synced {s : σ} {paths : AlloyRuntimePaths} (h : Synced dynamicPath contents w) :
    (waitForAlloyHealth fuel paths input options).wp (collecting dynamicPath)
      ⟨fun _ _ => Synced dynamicPath contents, fun _ _ _ => True, fun _ => True⟩ s w :=
  wp_mono (steady_wp synced_steady waitForAlloyHealth_aside h) (fun _ _ _ h => h)
    (fun _ _ _ _ => trivial) fun _ _ => trivial

theorem reloadHealthy_syncs {s : σ} {paths : AlloyRuntimePaths}
    (h : Filed dynamicPath contents w) :
    (reloadHealthy fuel paths input options).wp (collecting dynamicPath)
      ⟨fun _ _ => Synced dynamicPath contents, fun _ _ _ => True, fun _ => True⟩ s w := by
  refine wp_bind_of (R := fun _ _ => Synced dynamicPath contents) ?_ fun _ s w h => health_synced h
  refine (wp_bind _ _).mpr ((wp_request _).mpr ⟨fun _ _ => trivial, fun _ _ _ => trivial,
    fun response w' hm => ?_⟩)
  obtain ⟨v, hd, heffect, hcontainer, _⟩ := hm
  have hfile : v.files dynamicPath = some contents := filed_steady.drifts hd h
  dsimp only
  split
  · next hok =>
    refine ⟨(congrFun heffect dynamicPath).trans hfile, fun c hc hruns => ?_⟩
    have hreload : w'.container = v.container.map (AlloyContainer.reload (v.files dynamicPath)) :=
      hcontainer.trans (if_pos ⟨rfl, hok⟩)
    rw [hreload, Option.map_eq_some_iff] at hc
    obtain ⟨c', _, rfl⟩ := hc
    unfold AlloyContainer.reload at hruns ⊢
    split
    · exact hfile
    · next hstopped =>
      rw [if_neg hstopped] at hruns
      exact absurd hruns hstopped
  · trivial

theorem rollBackDynamicConfig_throws {M : Model RuntimeCall.Answer AlloyWorld} {s : σ}
    {paths : AlloyRuntimePaths} {previousContents : Option String} :
    (rollBackDynamicConfig fuel paths input options previousContents).wp M
      ⟨fun _ _ _ => False, fun _ _ _ => True, fun _ => True⟩ s w := by
  refine wp_bind_any (fun _ _ _ => trivial) (fun _ => trivial) fun _ s w => ?_
  refine wp_bind_any (fun _ _ _ => trivial) (fun _ => trivial) fun r s w => ?_
  cases r <;> trivial

theorem write_filed (path : String) (s : σ) (w : AlloyWorld) :
    (writeManagedFile path contents).wp (collecting dynamicPath)
      ⟨fun _ _ w => w.files path = some contents, fun _ _ _ => True, fun _ => True⟩ s w := by
  have hfiles (w : AlloyWorld) (c : RuntimeCall) (r : Option c.Answer) (w' : AlloyWorld)
      (hm : collecting dynamicPath w c r w') : c.FileEffect r w.files w'.files :=
    collecting_files hm
  exact writeManagedFile_writes hfiles path contents s w

theorem replaceAlloyDynamicConfig_syncs {s : σ} :
    (replaceAlloyDynamicConfig fuel (getAlloyRuntimePaths dataDir) input options contents).wp
      (collecting (dynamicOf dataDir))
      ⟨fun _ _ => Synced (dynamicOf dataDir) contents, fun _ _ _ => True, fun _ => True⟩ s w := by
  refine wp_bind_any (fun _ _ _ => trivial) (fun _ => trivial) fun previousContents s w => ?_
  refine wp_bind_of (write_filed _ s w) fun _ s w hwritten => ?_
  refine (wp_bind _ _).mpr ((wp_request _).mpr ⟨fun _ _ => trivial, fun _ _ _ => trivial,
    fun _ w' hm => ?_⟩)
  have hfiled : Filed (dynamicOf dataDir) contents w' := by
    have hnext : dynamicOf dataDir ≠ nextPath (getAlloyRuntimePaths dataDir) := by
      intro h
      have hlength := congrArg String.length h
      simp [nextPath, dynamicOf] at hlength
    have hrenamed : w'.files = (FileChange.rename (nextPath (getAlloyRuntimePaths dataDir))
        (dynamicOf dataDir)).apply w.files := collecting_files hm
    rw [Filed, hrenamed, FileChange.apply, Function.update_of_ne hnext, Function.update_self]
    exact hwritten
  refine (wp_tryCatch _ _).mpr (wp_mono (reloadHealthy_syncs hfiled) (fun _ _ _ h => h) ?_
    fun _ h => h)
  exact fun _ s w _ => wp_mono rollBackDynamicConfig_throws (fun _ _ _ h => h.elim)
    (fun _ _ _ h => h) fun _ h => h

theorem absent_keeps {c : RuntimeCall} {r : Option c.Answer} (hc : Unmaking c)
    (hm : collecting dynamicPath w c r w') (h : Absent w) : Absent w' := by
  obtain ⟨v, hd, _, hcontainer, _⟩ := hm
  have hv : v.container = none := absent_steady.drifts hd h
  rw [hv] at hcontainer
  cases c with
  | request q =>
    cases q with
    | inspectContainer name =>
      rcases r with _ | _ | _
      · exact hcontainer
      · exact hcontainer
      · exact hcontainer.2
    | removeContainer name force =>
      rcases r with _ | _ | _
      · exact hcontainer.elim (fun h => h) fun h => h.2
      · exact hcontainer.elim (fun h => h) fun h => h.2
      · exact hcontainer.trans (ite_self none)
    | ensureContainer spec replace pull => exact hc.elim
    | fetch method url =>
      rcases r with _ | _ | _
      · exact hcontainer.elim (fun h => h) fun h => h.2
      · exact hcontainer.elim (fun h => h) fun h => h.2
      · exact hcontainer.trans (ite_self none)
    | _ => exact hcontainer
  | now => exact hcontainer
  | sleep ms => exact hcontainer

theorem made_syncs {spec : RuntimeContainerSpec} {id : String} {replace pull : Bool}
    (hname : spec.name = alloyContainerName) (hfile : Filed dynamicPath contents w)
    (habsent : Absent w) (hm : collecting dynamicPath w (.request (.ensureContainer spec replace pull))
      (some (.ok id)) w') : Synced dynamicPath contents w' := by
  obtain ⟨v, hd, heffect, hcontainer, _⟩ := hm
  have hv : v.container = none := absent_steady.drifts hd habsent
  have hfile : v.files dynamicPath = some contents := filed_steady.drifts hd hfile
  have hensured : Ensured spec (v.files dynamicPath) v.container w'.container :=
    (if_pos hname).mp hcontainer
  rw [hv, hfile] at hensured
  refine ⟨(congrFun heffect dynamicPath).trans hfile, fun c hc _ => ?_⟩
  generalize w'.container = after at hensured hc
  cases hensured with
  | made shown hmade => exact Option.some.inj hc ▸ rfl

theorem recreateAlloy_syncs {s : σ} {present : Bool} {staticContents stateHash : String}
    (h : present = false → Absent w) :
    (recreateAlloy fuel (getAlloyRuntimePaths dataDir) input options present staticContents contents
      stateHash).wp (collecting (dynamicOf dataDir))
      ⟨fun _ _ => Synced (dynamicOf dataDir) contents, fun _ _ _ => True, fun _ => True⟩ s w := by
  have hkeep {path text : String} {s : σ} {w : AlloyWorld} (h : present = false → Absent w) :
      (writeManagedFile path text).wp (collecting (dynamicOf dataDir))
        (Post.always fun w => present = false → Absent w) s w := by
    have hwrite : (writeManagedFile path text : RuntimeMethod σ Unit).Uses Unmaking :=
      writeManagedFile_uses trivial trivial trivial
    exact hwrite.wp (fun _ _ _ _ hc hm h hpresent => absent_keeps hc hm (h hpresent)) h
  refine wp_bind_of (wp_mono (hkeep h) (fun _ _ _ h => h) (fun _ _ _ _ => trivial)
    fun _ _ => trivial) fun _ s w h => ?_
  refine wp_bind_of (R := fun _ _ w => (present = false → Absent w) ∧
    Filed (dynamicOf dataDir) contents w) (wp_mono (wp_and (hkeep h) (write_filed _ s w))
      (fun _ _ _ h => h) (fun _ _ _ _ => trivial) fun _ _ => trivial) fun _ s w h => ?_
  have hlegacy : Aside (dynamicOf dataDir) (.request (.change
      (.rm ((getAlloyRuntimePaths dataDir).rootDir ++ "/config.alloy") false))) :=
    legacyConfig_apart
  have hrest {s : σ} {w : AlloyWorld} (habsent : Absent w)
      (hfile : Filed (dynamicOf dataDir) contents w) : (do
        request (.ensureNetwork input.config.localTraefikNetwork)
        let _ ← request (.ensureContainer (buildAlloyContainerSpec input stateHash) false false)
        waitForAlloyHealth fuel (getAlloyRuntimePaths dataDir) input options
        request (.change (.rm ((getAlloyRuntimePaths dataDir).rootDir ++ "/config.alloy") false)) :
        RuntimeMethod σ Unit).wp (collecting (dynamicOf dataDir))
        ⟨fun _ _ => Synced (dynamicOf dataDir) contents, fun _ _ _ => True, fun _ => True⟩ s w := by
    refine (wp_bind _ _).mpr ((wp_request _).mpr ⟨fun _ _ => trivial, fun _ _ _ => trivial,
      fun _ w' hm => ?_⟩)
    have hnetwork : Aside (dynamicOf dataDir)
        (.request (.ensureNetwork input.config.localTraefikNetwork)) := trivial
    have habsent := absent_steady.aside hnetwork hm habsent
    have hfile := filed_steady.aside hnetwork hm hfile
    refine (wp_bind _ _).mpr ((wp_request _).mpr ⟨fun _ _ => trivial, fun _ _ _ => trivial,
      fun _ w'' hm => ?_⟩)
    refine wp_bind_of (health_synced (made_syncs rfl hfile habsent hm)) fun _ s w h => ?_
    exact wp_mono (steady_wp synced_steady (uses_request hlegacy) h) (fun _ _ _ h => h)
      (fun _ _ _ _ => trivial) fun _ _ => trivial
  dsimp only
  split
  · refine (wp_bind _ _).mpr ((wp_request _).mpr ⟨fun _ _ => trivial, fun _ _ _ => trivial,
      fun _ w' hm => ?_⟩)
    obtain ⟨v, hd, heffect, hcontainer, _⟩ := hm
    have hfile := filed_steady.drifts hd h.2
    exact hrest (hcontainer.trans (if_pos rfl)) ((congrFun heffect _).trans hfile)
  · next hpresent => exact hrest (h.1 (Bool.eq_false_iff.mpr hpresent)) h.2

theorem applyAlloyConfig_syncs {s : σ} {present current : Bool} {staticContents stateHash : String}
    (h : present = false → Absent w) :
    (applyAlloyConfig fuel (getAlloyRuntimePaths dataDir) input options process present current
      staticContents contents stateHash).wp (collecting (dynamicOf dataDir))
      ⟨fun _ _ => Synced (dynamicOf dataDir) contents, fun _ _ _ => True, fun _ => True⟩ s w := by
  have hkeep {α : Type} {p : RuntimeMethod σ α} {s : σ} {w : AlloyWorld}
      (hp : p.Uses (Aside (dynamicOf dataDir))) (h : present = false → Absent w) :
      p.wp (collecting (dynamicOf dataDir)) ⟨fun _ _ w => present = false → Absent w,
        fun _ _ _ => True, fun _ => True⟩ s w :=
    wp_mono (steady_wp (absent_steady.imp _) hp h) (fun _ _ _ h => h) (fun _ _ _ _ => trivial) fun _ _ => trivial
  cases current with
  | true =>
    refine wp_bind_any (fun _ _ _ => trivial) (fun _ => trivial) fun _ s w => ?_
    refine wp_bind_any (fun _ _ _ => trivial) (fun _ => trivial) fun _ s w => ?_
    refine wp_bind_any (fun _ _ _ => trivial) (fun _ => trivial) fun _ s w => ?_
    exact replaceAlloyDynamicConfig_syncs
  | false =>
    refine (wp_bind _ _).mpr ?_
    refine wp_bind_of (hkeep validateAlloyConfig_aside h) fun _ s w h => ?_
    exact recreateAlloy_syncs h

inductive Since (file : Option String) : Option AlloyContainer → Option AlloyContainer → Prop
  | none : Since file none none
  | some (c c' : AlloyContainer) (hshown : c'.shown = { c.shown with running := c'.shown.running })
    (hloaded : c'.Runs → c.Runs ∧ c'.loaded = c.loaded ∨ c'.loaded = file) :
    Since file (some c) (some c')

structure Held (dynamicPath : String) (w₀ w : AlloyWorld) : Prop where
  files : w.files = w₀.files
  container : Since (w₀.files dynamicPath) w₀.container w.container

theorem Held.refl (w : AlloyWorld) : Held dynamicPath w w := by
  refine ⟨rfl, ?_⟩
  cases hc : w.container with
  | none => exact .none
  | some c => exact .some c c rfl fun hruns => .inl ⟨hruns, rfl⟩

theorem Held.drift {w₀ : AlloyWorld} (h : Held dynamicPath w₀ w) (hd : Drift dynamicPath w w') :
    Held dynamicPath w₀ w' := by
  obtain ⟨hfiles, hsince⟩ := h
  cases hd with
  | starts c hc =>
    rw [hc] at hsince
    refine ⟨hfiles, ?_⟩
    generalize w₀.container = before at hsince
    cases hsince with
    | some c₀ _ hshown hloaded =>
      refine .some c₀ _ ?_ fun _ => .inr (congrFun hfiles _)
      exact congrArg (fun i : RuntimeInspection => { i with running := some true }) hshown
  | stops c hc =>
    rw [hc] at hsince
    refine ⟨hfiles, ?_⟩
    generalize w₀.container = before at hsince
    cases hsince with
    | some c₀ _ hshown hloaded =>
      refine .some c₀ _ ?_ fun hruns => ?_
      · exact congrArg (fun i : RuntimeInspection => { i with running := some false }) hshown
      · exact absurd hruns (by simp [AlloyContainer.Runs, AlloyContainer.stop])

theorem Held.drifts {w₀ : AlloyWorld} (h : Held dynamicPath w₀ w)
    (hd : Relation.ReflTransGen (Drift dynamicPath) w v) : Held dynamicPath w₀ v := by
  induction hd with
  | refl => exact h
  | tail _ hd ih => exact ih.drift hd

def Looking : RuntimeCall → Prop
  | .request (.change (.mkdir _)) | .request (.inspectContainer _) | .request (.readFile _) => True
  | _ => False

theorem looking_same {c : RuntimeCall} {r : Option c.Answer} (hc : Looking c)
    (hm : collecting dynamicPath w c r w') : ∃ v, Relation.ReflTransGen (Drift dynamicPath) w v ∧
      w' = v := by
  obtain ⟨v, hd, heffect, hcontainer, _⟩ := hm
  refine ⟨v, hd, ?_⟩
  have hfiles : w'.files = v.files := by
    funext p
    refine heffect.spares ?_
    cases c with
    | request q =>
      cases q with
      | change change => cases change <;> first | exact fun h => h | exact hc.elim
      | _ => trivial
    | _ => trivial
  have haside : Aside dynamicPath c := by
    cases c with
    | request q =>
      cases q with
      | change change => cases change <;> first | exact fun h => h | exact hc.elim
      | _ => trivial
    | _ => trivial
  have hcontainer := aside_container haside hcontainer
  cases w'
  cases v
  exact congrArg₂ AlloyWorld.mk hfiles hcontainer

theorem Held.looking {w₀ : AlloyWorld} {c : RuntimeCall} {r : Option c.Answer} (hc : Looking c)
    (hm : collecting dynamicPath w c r w') (h : Held dynamicPath w₀ w) : Held dynamicPath w₀ w' := by
  obtain ⟨v, hd, rfl⟩ := looking_same hc hm
  exact h.drifts hd

def Loads (input : AlloyRuntimeInput) (w : AlloyWorld) : Prop :=
  ∀ c, w.container = some c → c.Runs →
    ∃ contents, renderAlloyDynamicConfig input = .ok contents ∧ c.loaded = some contents

/-- The files and the container are as the input wants them, but what runs has loaded something else
than the file. -/
def Stale (process : AlloyProcess) (dataDir : String) (input : AlloyRuntimeInput) (w : AlloyWorld) :
    Prop :=
  ∃ c staticContents contents, w.container = some c ∧
    staticConfig process (runtimeInput input (some c.shown)) = .ok staticContents ∧
    renderAlloyDynamicConfig input = .ok contents ∧
    isAlloyContainerCurrent (some c.shown) (runtimeInput input (some c.shown))
      (process.sha256 staticContents) = true ∧
    w.files (getAlloyRuntimePaths dataDir).staticConfigPath = some staticContents ∧
    w.files (dynamicOf dataDir) = some contents ∧ c.loaded ≠ some contents

inductive Found (w₀ : AlloyWorld) : Option RuntimeInspection → Prop
  | none (hc : w₀.container = none) : Found w₀ none
  | some (c : AlloyContainer) (hc : w₀.container = some c) (running : Option Bool) :
    Found w₀ (some { c.shown with running })

theorem Held.found {w₀ : AlloyWorld} (h : Held dynamicPath w₀ w) :
    Found w₀ (w.container.map AlloyContainer.shown) := by
  obtain ⟨_, hsince⟩ := h
  cases hc₀ : w₀.container with
  | none =>
    rw [hc₀] at hsince
    generalize w.container = after at hsince
    cases hsince with
    | none => exact .none hc₀
  | some c₀ =>
    rw [hc₀] at hsince
    generalize w.container = after at hsince
    cases hsince with
    | some _ c hshown hloaded =>
      rw [Option.map_some, hshown]
      exact .some c₀ hc₀ _

theorem readManagedFile_held {w₀ : AlloyWorld} {s : σ} {path : String}
    (h : Held dynamicPath w₀ w) : (readManagedFile path).wp (collecting dynamicPath)
      ⟨fun read _ w => Held dynamicPath w₀ w ∧
          ∀ contents, read = some contents → w₀.files path = some contents,
        fun _ _ _ => True, fun _ => True⟩ s w := by
  have hlooks : Looking (.request (.readFile path)) := trivial
  refine (wp_bind _ _).mpr ((wp_settle _).mpr ((wp_request _).mpr ⟨fun _ _ => trivial,
    fun e w' hm => ?_, fun contents w' hm => ?_⟩))
  · exact ⟨h.looking hlooks hm, fun _ hread => nomatch hread⟩
  · refine ⟨h.looking hlooks hm, fun contents' hread => ?_⟩
    obtain rfl := Option.some.inj hread
    obtain ⟨v, hd, _, _, hread⟩ := hm
    exact (congrFun (h.drifts hd).files path).symm.trans hread

theorem Synced.loads (h : Synced dynamicPath contents w)
    (hrender : renderAlloyDynamicConfig input = .ok contents) : Loads input w :=
  fun c hc hruns => ⟨contents, hrender, h.2 c hc hruns⟩

theorem Held.loads {w₀ : AlloyWorld} {found : Option RuntimeInspection} {staticContents : String}
    (h : Held (dynamicOf dataDir) w₀ w) (hfound : Found w₀ found)
    (hstale : ¬ Stale process dataDir input w₀)
    (hstatics : staticConfig process (runtimeInput input found) = .ok staticContents)
    (hrender : renderAlloyDynamicConfig input = .ok contents)
    (hcurrent : isAlloyContainerCurrent found (runtimeInput input found)
      (process.sha256 staticContents) = true)
    (hstatic : w₀.files (getAlloyRuntimePaths dataDir).staticConfigPath = some staticContents)
    (hdynamic : w₀.files (dynamicOf dataDir) = some contents) : Loads input w := by
  intro c hc hruns
  refine ⟨contents, hrender, ?_⟩
  have hsince := h.container
  cases hfound with
  | none hnone =>
    rw [hnone, hc] at hsince
    cases hsince
  | some c₀ hc₀ running =>
    rw [hc₀, hc] at hsince
    cases hsince with
    | some _ _ hshown hloaded =>
      obtain ⟨hruns₀, hkept⟩ | hfile := hloaded hruns
      · have hrunning : running = some true := by
          have hall := hcurrent
          simp only [isAlloyContainerCurrent, Bool.and_eq_true, decide_eq_true_eq] at hall
          exact hall.1.1.1.1.1.1.1.1
        have hsame : { c₀.shown with running } = c₀.shown := by
          rw [hrunning, ← show c₀.shown.running = some true from hruns₀]
        rw [hsame] at hcurrent hstatics
        by_contra hne
        exact hstale ⟨c₀, staticContents, contents, hc₀, hstatics, hrender, hcurrent, hstatic,
          hdynamic, hkept ▸ hne⟩
      · exact hfile.trans hdynamic

theorem reconcileInspected_loads {s : σ} {w₀ : AlloyWorld} {found : Option RuntimeInspection}
    (h : Held (dynamicOf dataDir) w₀ w) (hfound : Found w₀ found)
    (hstale : ¬ Stale process dataDir input w₀) :
    (reconcileInspected process fuel (getAlloyRuntimePaths dataDir) (runtimeInput input found)
      options found).wp (collecting (dynamicOf dataDir))
      ⟨fun _ _ => Loads input, fun _ _ _ => True, fun _ => True⟩ s w := by
  refine wp_bind_of (R := fun staticContents _ w => staticConfig process (runtimeInput input found) =
    .ok staticContents ∧ Held (dynamicOf dataDir) w₀ w) ((wp_ofExcept _).mpr
      ⟨fun _ hstatics => ⟨hstatics, h⟩, fun _ _ => trivial⟩) fun staticContents s w ⟨hstatics, h⟩ => ?_
  refine wp_bind_of (R := fun contents _ w => renderAlloyDynamicConfig input = .ok contents ∧
    Held (dynamicOf dataDir) w₀ w) ((wp_ofExcept _).mpr ⟨fun contents hrender => ⟨hrender, h⟩,
      fun _ _ => trivial⟩) fun contents s w ⟨hrender, h⟩ => ?_
  refine wp_bind_of (readManagedFile_held h) fun activeStatic s w ⟨h, hstatic⟩ => ?_
  refine wp_bind_of (readManagedFile_held h) fun activeDynamic s w ⟨h, hdynamic⟩ => ?_
  dsimp only
  split
  · next hcurrent =>
    simp only [Bool.and_eq_true, decide_eq_true_eq] at hcurrent
    exact h.loads hfound hstale hstatics hrender hcurrent.1.2 (hstatic _ hcurrent.1.1) (hdynamic _ hcurrent.2)
  · have habsent : found.isSome = false → Absent w := by
      intro hnone
      have hsince := h.container
      cases hfound with
      | none hc =>
        rw [hc] at hsince
        unfold Absent
        generalize w.container = after at hsince ⊢
        cases hsince
        rfl
      | some c hc running => cases hnone
    refine wp_bind_of (wp_mono (steady_wp (absent_steady.imp _) writeAlloyCandidateConfig_aside
      habsent) (fun _ _ _ h => h) (fun _ _ _ _ => trivial) fun _ _ => trivial) fun _ s w habsent => ?_
    refine (wp_finally _ _).mpr (wp_mono (applyAlloyConfig_syncs habsent) ?_ ?_ fun _ _ => trivial)
    · intro _ s w hsynced
      exact wp_mono (steady_wp synced_steady (uses_request candidateDir_apart) hsynced)
        (fun _ _ _ h => h.loads hrender) (fun _ _ _ _ => trivial) fun _ _ => trivial
    · exact fun _ s w _ => wp_mono (wp_true _ s w) (fun _ _ _ _ => trivial) (fun _ _ _ _ => trivial)
        fun _ _ => trivial

theorem reconcileAlloyRuntime_loads {s : σ} (henabled : input.config.observability.enabled = true)
    (hpaths : pathsOf input options = getAlloyRuntimePaths dataDir)
    (hstale : ¬ Stale process dataDir input w) :
    (reconcileAlloyRuntime process fuel input options).wp (collecting (dynamicOf dataDir))
      ⟨fun _ _ => Loads input, fun _ _ _ => True, fun _ => True⟩ s w := by
  have hheld {α : Type} {p : RuntimeMethod σ α} {s : σ} {v : AlloyWorld} (hp : p.Uses Looking)
      (h : Held (dynamicOf dataDir) w v) : p.wp (collecting (dynamicOf dataDir))
        ⟨fun _ _ => Held (dynamicOf dataDir) w, fun _ _ _ => True, fun _ => True⟩ s v :=
    wp_mono (hp.wp (fun _ _ _ _ hc hm h => h.looking hc hm) h) (fun _ _ _ h => h)
      (fun _ _ _ _ => trivial) fun _ _ => trivial
  unfold reconcileAlloyRuntime
  rw [if_pos henabled, hpaths]
  split
  · have hstate : (ensureAlloyState (getAlloyRuntimePaths dataDir) : RuntimeMethod σ Unit).Uses
        Looking := uses_bind (uses_request trivial) fun _ =>
      uses_bind (uses_request trivial) fun _ => uses_request trivial
    refine wp_bind_of (hheld hstate (Held.refl w)) fun _ s v h => ?_
    refine (wp_bind _ _).mpr ((wp_request _).mpr ⟨fun _ _ => trivial, fun _ _ _ => trivial,
      fun found v' hm => ?_⟩)
    obtain ⟨u, hd, _, hcontainer, _⟩ := id hm
    have hlooks : Looking (.request (.inspectContainer alloyContainerName)) := trivial
    have hfound : found = u.container.map AlloyContainer.shown := hcontainer.1 rfl
    exact reconcileInspected_loads (h.looking hlooks hm) (hfound ▸ (h.drifts hd).found) hstale
  · trivial

end AlloyRuntime

end NouvaAgent
