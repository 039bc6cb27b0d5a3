import NouvaAgent.AlloyReconcile

namespace NouvaAgent.AlloyRuntime

open Text Interaction Method ManagedRuntime

variable {dataDir dynamicPath contents : String} {σ : Type} {input : AlloyRuntimeInput}
  {options : ReconcileAlloyOptions} {process : AlloyProcess} {fuel : ℕ} {w w' : AlloyWorld} {s : σ}

theorem collecting_now {c : RuntimeCall} {r : Option c.Answer}
    (hfiles : c.FileEffect r w.files w'.files)
    (hcontainer : ContainerEffect (w.files dynamicPath) c r w.container w'.container)
    (hreads : ReadsTruly w.files c r) : collecting dynamicPath w c r w' :=
  ⟨w, .refl, hfiles, hcontainer, hreads⟩

theorem exec_change (change : FileChange) (w : AlloyWorld) (s : σ) :
    Program.Exec (collecting dynamicPath) (request (.change change) s) w (.done (.ok (), s))
      ⟨change.apply w.files, w.container⟩ :=
  exec_request (collecting_now rfl rfl trivial)

theorem exec_write (path contents : String) (w : AlloyWorld) (s : σ) :
    Program.Exec (collecting dynamicPath) (writeManagedFile path contents none s) w (.done (.ok (), s))
      ⟨written path contents w.files, w.container⟩ :=
  exec_bind (exec_change _ w s) (exec_bind (exec_change _ _ s) (exec_change _ _ s))

theorem exec_inspect (w : AlloyWorld) (s : σ) :
    Program.Exec (collecting dynamicPath) (request (.inspectContainer alloyContainerName) s) w
      (.done (.ok (w.container.map AlloyContainer.shown), s)) w :=
  exec_request (collecting_now rfl ⟨fun _ => rfl, rfl⟩ trivial)

def candidateFiles (dataDir staticContents contents : String) (files : RuntimeFiles) : RuntimeFiles :=
  written (getAlloyRuntimePaths dataDir).candidateDynamicConfigPath contents
    (written (getAlloyRuntimePaths dataDir).candidateStaticConfigPath staticContents
      ((FileChange.rm (getAlloyRuntimePaths dataDir).candidateConfigDir true).apply files))

theorem exec_candidate (staticContents contents : String) (w : AlloyWorld) (s : σ) :
    Program.Exec (collecting dynamicPath) (writeAlloyCandidateConfig (getAlloyRuntimePaths dataDir)
      staticContents contents s) w (.done (.ok (), s))
      ⟨candidateFiles dataDir staticContents contents w.files, w.container⟩ :=
  exec_bind (exec_change _ w s) (exec_bind (exec_write _ _ _ s) (exec_write _ _ _ s))

theorem exec_validate (pullImage : Bool) (w : AlloyWorld) (s : σ) :
    Program.Exec (collecting dynamicPath) (validateAlloyConfig process input pullImage s) w
      (.done (.ok (), s)) w := by
  have hremove : Program.Exec (collecting dynamicPath)
      (request (.removeContainer alloyValidationContainerName true) s) w (.done (.ok (), s)) w :=
    exec_request (collecting_now rfl (by simp [ContainerEffect, alloyValidationContainerName,
      alloyContainerName]) trivial)
  have hcreate : Program.Exec (collecting dynamicPath)
      (request (.createContainer (buildAlloyValidationContainerSpec input)) s) w
      (.done (.ok "validation", s)) w := exec_request (collecting_now rfl rfl trivial)
  have hstart : Program.Exec (collecting dynamicPath) (request (.startContainer "validation") s) w
      (.done (.ok (), s)) w := exec_request (collecting_now rfl rfl trivial)
  have hwait : Program.Exec (collecting dynamicPath) (request (.waitContainer "validation" 30000) s)
      w (.done (.ok (0 : ℤ), s)) w := exec_request (collecting_now rfl rfl trivial)
  have hawait : Program.Exec (collecting dynamicPath)
      (awaitValidation process input "validation" s) w (.done (.ok (), s)) w :=
    exec_bind hstart (exec_bind hwait (.ret _ _))
  have hpull : Program.Exec (collecting dynamicPath)
      (request (.pullImage input.config.observability.alloyImage) s) w (.done (.ok (), s)) w :=
    exec_request (collecting_now rfl rfl trivial)
  cases pullImage with
  | true =>
    exact exec_bind hpull
      (exec_bind hremove (exec_bind hcreate (exec_finally hawait hremove)))
  | false => exact exec_bind hremove (exec_bind hcreate (exec_finally hawait hremove))

theorem exec_health {paths : AlloyRuntimePaths} {c : AlloyContainer} (hc : w.container = some c)
    (hruns : c.Runs) (htimeout : 0 < options.timeoutMs) :
    Program.Exec (collecting dynamicPath) (waitForAlloyHealth (fuel + 1) paths input options s) w
      (.done (.ok (), s)) w := by
  have hnow : Program.Exec (collecting dynamicPath) ((now : RuntimeMethod σ ℤ) s) w
      (.done (.ok (0 : ℤ), s)) w := .call (collecting_now rfl rfl trivial) (.ret _ _)
  have himage : Program.Exec (collecting dynamicPath)
      (request (.inspectImage input.config.observability.alloyImage) s) w (.done (.ok true, s)) w :=
    exec_request (collecting_now rfl rfl trivial)
  have haccess (path : String) : Program.Exec (collecting dynamicPath) (request (.access path) s) w
      (.done (.ok (), s)) w := exec_request (collecting_now rfl rfl trivial)
  have hfetch : Program.Exec (collecting dynamicPath)
      (request (.fetch "GET" (alloyUrl "/metrics")) s) w (.done (.ok ⟨true, 200, .ok []⟩, s)) w :=
    exec_request (collecting_now rfl (by simp [ContainerEffect]) trivial)
  have hconfig : Program.Exec (collecting dynamicPath) (probeConfig paths s) w
      (.done (.ok true, s)) w :=
    exec_bind (exec_settle (exec_bind (haccess _) (haccess _))) (.ret _ _)
  have hmetrics : Program.Exec (collecting dynamicPath) ((probeMetrics : RuntimeMethod σ Bool) s) w
      (.done (.ok true, s)) w := exec_bind (exec_settle hfetch) (.ret _ _)
  have hinspect : Program.Exec (collecting dynamicPath)
      (request (.inspectContainer alloyContainerName) s) w
      (.done (.ok (w.container.map AlloyContainer.shown), s)) w := exec_inspect w s
  rw [hc, Option.map_some] at hinspect
  have hrunning : isRunning (some c.shown) = true := by
    have hshown : c.shown.running = some true := hruns
    simp [isRunning, hshown]
  have hprobe : Program.Exec (collecting dynamicPath) (probeAlloyRuntime paths input s) w
      (.done (.ok ⟨true, true, true, some c.shown⟩, s)) w := by
    refine exec_bind hinspect (exec_bind himage (exec_bind hconfig ?_))
    rw [if_pos hrunning]
    exact exec_bind hmetrics (.ret _ _)
  have hfine : lastErrorOf ⟨true, true, true, some c.shown⟩ = none := by simp [lastErrorOf, hrunning]
  refine exec_bind hnow (exec_bind hnow ?_)
  rw [if_pos (by simpa using htimeout)]
  refine exec_bind hprobe ?_
  rw [hfine]
  exact .ret _ _

def made (input : AlloyRuntimeInput) (stateHash contents : String) : AlloyContainer where
  shown := { running := some true, image := some input.config.observability.alloyImage,
             cmd := some getAlloyRunArguments,
             labels := some (buildAlloyContainerSpec input stateHash).labels,
             binds := some (buildAlloyContainerSpec input stateHash).binds,
             memory := some alloyMemoryLimitBytes, memorySwap := some alloyMemoryLimitBytes,
             logConfig := some managedContainerLogConfig,
             portBindings := (buildAlloyContainerSpec input stateHash).portBindings }
  loaded := some contents

theorem exec_state (w : AlloyWorld) (s : σ) : Program.Exec (collecting dynamicPath)
    (ensureAlloyState (getAlloyRuntimePaths dataDir) s) w (.done (.ok (), s)) w :=
  exec_bind (exec_change _ w s) (exec_bind (exec_change _ w s) (exec_change _ w s))

def newFiles (dataDir staticContents contents : String) (files : RuntimeFiles) : RuntimeFiles :=
  written (dynamicOf dataDir) contents
    (written (getAlloyRuntimePaths dataDir).staticConfigPath staticContents files)

theorem exec_recreate {staticContents stateHash : String} (hc : w.container = none)
    (htimeout : 0 < options.timeoutMs) :
    Program.Exec (collecting (dynamicOf dataDir)) (recreateAlloy (fuel + 1)
      (getAlloyRuntimePaths dataDir) input options false staticContents contents stateHash s) w
      (.done (.ok (), s))
      ⟨(FileChange.rm (dataDir ++ "/alloy" ++ "/config.alloy") false).apply
        (newFiles dataDir staticContents contents w.files), some (made input stateHash contents)⟩ := by
  have hnetwork : Program.Exec (collecting (dynamicOf dataDir))
      (request (.ensureNetwork input.config.localTraefikNetwork) s)
      ⟨newFiles dataDir staticContents contents w.files, w.container⟩ (.done (.ok (), s))
      ⟨newFiles dataDir staticContents contents w.files, w.container⟩ :=
    exec_request (collecting_now rfl rfl trivial)
  have hmade : Program.Exec (collecting (dynamicOf dataDir))
      (request (.ensureContainer (buildAlloyContainerSpec input stateHash) false false) s)
      ⟨newFiles dataDir staticContents contents w.files, w.container⟩ (.done (.ok "id", s))
      ⟨newFiles dataDir staticContents contents w.files, some (made input stateHash contents)⟩ := by
    have hensured : Ensured (buildAlloyContainerSpec input stateHash)
        (newFiles dataDir staticContents contents w.files (dynamicOf dataDir)) none
        (some (made input stateHash contents)) := by
      rw [newFiles, written_self]
      exact .made (made input stateHash contents).shown ⟨rfl, rfl, rfl, rfl⟩
    have heffect : ContainerEffect (newFiles dataDir staticContents contents w.files
        (dynamicOf dataDir)) (.request (.ensureContainer (buildAlloyContainerSpec input stateHash)
          false false)) (some (.ok "id")) w.container (some (made input stateHash contents)) := by
      rw [hc]
      have hname : (buildAlloyContainerSpec input stateHash).name = alloyContainerName := rfl
      simpa only [ContainerEffect, if_pos hname] using hensured
    exact exec_request (collecting_now rfl heffect trivial)
  exact exec_bind (exec_write _ _ _ s) (exec_bind (exec_write _ _ _ s) (exec_bind hnetwork
    (exec_bind hmade (exec_bind (exec_health rfl rfl htimeout) (exec_change _ _ s)))))

theorem staticConfig_organization {staticContents : String}
    (h : staticConfig process input = .ok staticContents) : hasOrganization input = true := by
  by_contra hnone
  simp [staticConfig, renderAlloyStaticConfig, hnone, Except.mapError] at h

theorem exec_reconcile {s : σ} {found : Option RuntimeInspection} {staticContents : String}
    {o : Outcome (Except Failure Unit × σ)} (henabled : input.config.observability.enabled = true)
    (hpaths : pathsOf input options = getAlloyRuntimePaths dataDir)
    (hfound : w.container.map AlloyContainer.shown = found)
    (hstatics : staticConfig process (runtimeInput input found) = .ok staticContents)
    (he : Program.Exec (collecting (dynamicOf dataDir)) (reconcileInspected process fuel
      (getAlloyRuntimePaths dataDir) (runtimeInput input found) options found s) w o w') :
    Program.Exec (collecting (dynamicOf dataDir))
      (reconcileAlloyRuntime process fuel input options s) w o w' := by
  have horganization : hasOrganization input = true := staticConfig_organization hstatics
  have hinspect : Program.Exec (collecting (dynamicOf dataDir))
      (request (.inspectContainer alloyContainerName) s) w
      (.done (.ok (w.container.map AlloyContainer.shown), s)) w := exec_inspect w s
  rw [hfound] at hinspect
  unfold reconcileAlloyRuntime
  rw [if_pos henabled, if_pos horganization, hpaths]
  exact exec_bind (exec_state w s) (exec_bind hinspect he)

theorem exec_read {path text : String} (hfile : w.files path = some text) (s : σ) :
    Program.Exec (collecting dynamicPath) (readManagedFile path s) w (.done (.ok (some text), s)) w :=
  exec_readManagedFile (collecting_now rfl rfl hfile)

theorem stale_returns {s : σ} (henabled : input.config.observability.enabled = true)
    (hpaths : pathsOf input options = getAlloyRuntimePaths dataDir)
    (hstale : Stale process dataDir input w) :
    Program.Exec (collecting (dynamicOf dataDir)) (reconcileAlloyRuntime process fuel input options s)
      w (.done (.ok (), s)) w ∧ ¬ Loads input w := by
  obtain ⟨c, staticContents, contents, hc, hstatics, hrender, hcurrent, hstatic, hdynamic, hloaded⟩ :=
    hstale
  constructor
  · have hrender : renderAlloyDynamicConfig (runtimeInput input (some c.shown)) = .ok contents :=
      hrender
    have hfound : w.container.map AlloyContainer.shown = some c.shown := congrArg _ hc
    refine exec_reconcile henabled hpaths hfound hstatics ?_
    unfold reconcileInspected
    rw [hstatics, hrender]
    refine exec_bind (.ret _ _) (exec_bind (.ret _ _) (exec_bind (exec_read hstatic s)
      (exec_bind (exec_read hdynamic s) ?_)))
    simp only [hcurrent, decide_true, Bool.and_true]
    exact .ret _ _
  · intro hloads
    have hruns : c.Runs := by
      simp only [isAlloyContainerCurrent, Bool.and_eq_true, decide_eq_true_eq] at hcurrent
      exact hcurrent.1.1.1.1.1.1.1.1
    obtain ⟨contents', hrender', hloaded'⟩ := hloads c hc hruns
    rw [hrender] at hrender'
    cases hrender'
    exact hloaded hloaded'

def installedFiles (dataDir staticContents contents : String) (files : RuntimeFiles) : RuntimeFiles :=
  (FileChange.rm (getAlloyRuntimePaths dataDir).candidateConfigDir true).apply
    ((FileChange.rm (dataDir ++ "/alloy" ++ "/config.alloy") false).apply
      (newFiles dataDir staticContents contents (candidateFiles dataDir staticContents contents files)))

theorem installed_dynamic (dataDir staticContents contents : String) (files : RuntimeFiles) :
    installedFiles dataDir staticContents contents files (dynamicOf dataDir) = some contents := by
  rw [installedFiles, FileChange.apply_untouched candidateDir_apart,
    FileChange.apply_untouched legacyConfig_apart, newFiles, written_self]

theorem installed_static (dataDir staticContents contents : String) (files : RuntimeFiles) :
    installedFiles dataDir staticContents contents files
      (getAlloyRuntimePaths dataDir).staticConfigPath = some staticContents := by
  have hcandidate : ¬ (FileChange.rm (getAlloyRuntimePaths dataDir).candidateConfigDir true).Touches
      (getAlloyRuntimePaths dataDir).staticConfigPath := fun h =>
    absurd ((FileChange.under_append dataDir _ _ _).mp h) (by decide +kernel)
  have hlegacy : ¬ (FileChange.rm (dataDir ++ "/alloy" ++ "/config.alloy") false).Touches
      (getAlloyRuntimePaths dataDir).staticConfigPath := fun h =>
    absurd ((FileChange.under_append dataDir _ _ _).mp (String.append_assoc ▸ h)) (by decide +kernel)
  have hdynamic : (getAlloyRuntimePaths dataDir).staticConfigPath ≠ dynamicOf dataDir :=
    (append_ne_dynamic (by decide +kernel)).symm
  have htemporary : (getAlloyRuntimePaths dataDir).staticConfigPath ≠ temporary (dynamicOf dataDir) := by
    rw [dynamicOf, getAlloyRuntimePaths, temporary_append, ne_eq, String.append_right_inj]
    decide +kernel
  rw [installedFiles, FileChange.apply_untouched hcandidate, FileChange.apply_untouched hlegacy,
    newFiles, written_of_ne hdynamic htemporary, written_self]

theorem reconcile_installs {s : σ} {staticContents : String}
    (henabled : input.config.observability.enabled = true)
    (hpaths : pathsOf input options = getAlloyRuntimePaths dataDir) (hnone : w.container = none)
    (hstatics : staticConfig process input = .ok staticContents)
    (hrender : renderAlloyDynamicConfig input = .ok contents) (htimeout : 0 < options.timeoutMs) :
    Program.Exec (collecting (dynamicOf dataDir))
      (reconcileAlloyRuntime process (fuel + 1) input options s) w (.done (.ok (), s))
      ⟨installedFiles dataDir staticContents contents w.files,
        some (made input (process.sha256 staticContents) contents)⟩ := by
  have hunread (path : String) : Program.Exec (collecting (dynamicOf dataDir))
      (readManagedFile path s) w (.done (.ok none, s)) w :=
    exec_readManagedFile_none (e := ⟨false, "ENOENT", none⟩) (collecting_now rfl rfl trivial)
  have happly : Program.Exec (collecting (dynamicOf dataDir)) (applyAlloyConfig (fuel + 1)
      (getAlloyRuntimePaths dataDir) input options process false false staticContents contents
      (process.sha256 staticContents) s)
      ⟨candidateFiles dataDir staticContents contents w.files, w.container⟩ (.done (.ok (), s)) _ :=
    exec_bind (.ret _ _) (exec_bind (exec_validate true _ s) (exec_recreate hnone htimeout))
  have hfound : w.container.map AlloyContainer.shown = none := congrArg _ hnone
  refine exec_reconcile henabled hpaths hfound hstatics ?_
  unfold reconcileInspected
  rw [show runtimeInput input none = input from rfl, hstatics, hrender]
  refine exec_bind (.ret _ _) (exec_bind (.ret _ _) (exec_bind (hunread _)
    (exec_bind (hunread _) ?_)))
  exact exec_bind (exec_candidate staticContents contents w s)
    (exec_finally happly (exec_change _ _ s))

theorem candidateFiles_apart {staticContents path : String} (files : RuntimeFiles)
    (h : ¬ FileChange.Under (getAlloyRuntimePaths dataDir).candidateConfigDir true path) :
    candidateFiles dataDir staticContents contents files path = files path := by
  have hne {suffix : String} (hunder : FileChange.Under "/alloy/config.candidate" true suffix) :
      path ≠ dataDir ++ suffix := by
    rintro rfl
    exact h ((FileChange.under_append _ _ _ _).mpr hunder)
  have htemporary {suffix : String}
      (hunder : FileChange.Under "/alloy/config.candidate" true (suffix ++ ".tmp")) :
      path ≠ temporary (dataDir ++ suffix) := by
    rw [temporary_append]
    exact hne hunder
  have hdynamic : path ≠ (getAlloyRuntimePaths dataDir).candidateDynamicConfigPath :=
    hne (by decide +kernel)
  have hstatic : path ≠ (getAlloyRuntimePaths dataDir).candidateStaticConfigPath :=
    hne (by decide +kernel)
  rw [candidateFiles, written_of_ne hdynamic (htemporary (by decide +kernel)),
    written_of_ne hstatic (htemporary (by decide +kernel))]
  exact FileChange.apply_untouched h

def replacedFiles (dataDir staticContents contents : String) (files : RuntimeFiles) : RuntimeFiles :=
  (FileChange.rename (nextPath (getAlloyRuntimePaths dataDir)) (dynamicOf dataDir)).apply
    (written (nextPath (getAlloyRuntimePaths dataDir)) contents
      (candidateFiles dataDir staticContents contents files))

theorem dynamic_ne_next : dynamicOf dataDir ≠ nextPath (getAlloyRuntimePaths dataDir) := by
  intro h
  have hlength := congrArg String.length h
  simp [nextPath, dynamicOf] at hlength

theorem replaced_dynamic (dataDir staticContents contents : String) (files : RuntimeFiles) :
    replacedFiles dataDir staticContents contents files (dynamicOf dataDir) = some contents := by
  rw [replacedFiles, FileChange.apply, Function.update_of_ne dynamic_ne_next, Function.update_self,
    written_self]

theorem replaced_static (dataDir staticContents contents : String) (files : RuntimeFiles) :
    replacedFiles dataDir staticContents contents files
      (getAlloyRuntimePaths dataDir).staticConfigPath =
      files (getAlloyRuntimePaths dataDir).staticConfigPath := by
  have hne {suffix : String} (h : "/alloy/config/static.alloy" ≠ suffix) :
      (getAlloyRuntimePaths dataDir).staticConfigPath ≠ dataDir ++ suffix :=
    fun heq => h ((String.append_right_inj dataDir).mp heq)
  have hnext : (getAlloyRuntimePaths dataDir).staticConfigPath ≠
      nextPath (getAlloyRuntimePaths dataDir) := by
    rw [nextPath, getAlloyRuntimePaths, String.append_assoc]
    exact hne (by decide +kernel)
  have htemporary : (getAlloyRuntimePaths dataDir).staticConfigPath ≠
      temporary (nextPath (getAlloyRuntimePaths dataDir)) := by
    rw [nextPath, getAlloyRuntimePaths, String.append_assoc, temporary_append]
    exact hne (by decide +kernel)
  have hcandidate : ¬ FileChange.Under (getAlloyRuntimePaths dataDir).candidateConfigDir true
      (getAlloyRuntimePaths dataDir).staticConfigPath := fun h =>
    absurd ((FileChange.under_append dataDir _ _ _).mp h) (by decide +kernel)
  have hrename : ¬ (FileChange.rename (nextPath (getAlloyRuntimePaths dataDir))
      (dynamicOf dataDir)).Touches (getAlloyRuntimePaths dataDir).staticConfigPath :=
    not_or.mpr ⟨hnext, hne (by decide +kernel)⟩
  rw [replacedFiles, FileChange.apply_untouched hrename, written_of_ne hnext htemporary,
    candidateFiles_apart files hcandidate]

section

variable {c : AlloyContainer} {staticContents previous : String}
  {o : Outcome (Except Failure Unit × σ)}

/-- A reconcile where only the dynamic configuration changes, up to where the file is replaced. -/
theorem exec_replace {s : σ}
    (hprevious : w.files (dynamicOf dataDir) = some previous)
    (he : Program.Exec (collecting (dynamicOf dataDir)) (Method.tryCatch
        (reloadHealthy fuel (getAlloyRuntimePaths dataDir) (runtimeInput input (some c.shown)) options)
        (fun _ => rollBackDynamicConfig fuel (getAlloyRuntimePaths dataDir)
          (runtimeInput input (some c.shown)) options (some previous)) s)
      ⟨replacedFiles dataDir staticContents contents w.files, w.container⟩ o w') :
    Program.Exec (collecting (dynamicOf dataDir)) (applyAlloyConfig fuel
      (getAlloyRuntimePaths dataDir) (runtimeInput input (some c.shown)) options process true true
      staticContents contents (process.sha256 staticContents) s)
      ⟨candidateFiles dataDir staticContents contents w.files, w.container⟩ o w' := by
  have hstays : candidateFiles dataDir staticContents contents w.files (dynamicOf dataDir) =
      some previous := (candidateFiles_apart w.files candidateDir_apart).trans hprevious
  have himage (w : AlloyWorld) : Program.Exec (collecting (dynamicOf dataDir))
      (request (.inspectImage (runtimeInput input (some c.shown)).config.observability.alloyImage) s)
      w (.done (.ok true, s)) w := exec_request (collecting_now rfl rfl trivial)
  unfold applyAlloyConfig
  refine exec_bind (himage _) (exec_bind (.ret _ _) (exec_bind (exec_validate false _ s) ?_))
  unfold replaceAlloyDynamicConfig
  exact exec_bind (exec_read hstays s) (exec_bind (exec_write _ _ _ s)
    (exec_bind (exec_change _ _ s) he))

theorem exec_outdated {s : σ} (henabled : input.config.observability.enabled = true)
    (hpaths : pathsOf input options = getAlloyRuntimePaths dataDir) (hc : w.container = some c)
    (hstatics : staticConfig process (runtimeInput input (some c.shown)) = .ok staticContents)
    (hrender : renderAlloyDynamicConfig input = .ok contents)
    (hcurrent : isAlloyContainerCurrent (some c.shown) (runtimeInput input (some c.shown))
      (process.sha256 staticContents) = true)
    (hstatic : w.files (getAlloyRuntimePaths dataDir).staticConfigPath = some staticContents)
    (hdynamic : w.files (dynamicOf dataDir) = some previous) (hnew : previous ≠ contents)
    (he : Program.Exec (collecting (dynamicOf dataDir)) (Method.finally_
        (applyAlloyConfig fuel (getAlloyRuntimePaths dataDir) (runtimeInput input (some c.shown))
          options process true true staticContents contents (process.sha256 staticContents))
        (request (.change (.rm (getAlloyRuntimePaths dataDir).candidateConfigDir true))) s)
      ⟨candidateFiles dataDir staticContents contents w.files, w.container⟩ o w') :
    Program.Exec (collecting (dynamicOf dataDir))
      (reconcileAlloyRuntime process fuel input options s) w o w' := by
  have hrender : renderAlloyDynamicConfig (runtimeInput input (some c.shown)) = .ok contents :=
    hrender
  have hfound : w.container.map AlloyContainer.shown = some c.shown := congrArg _ hc
  refine exec_reconcile henabled hpaths hfound hstatics ?_
  unfold reconcileInspected
  rw [hstatics, hrender]
  refine exec_bind (.ret _ _) (exec_bind (.ret _ _) (exec_bind (exec_read hstatic s)
    (exec_bind (exec_read hdynamic s) ?_)))
  simp only [hcurrent, decide_true, Bool.and_true, Option.some.injEq, hnew, decide_false]
  exact exec_bind (exec_candidate staticContents contents w s) he

theorem reconcile_interrupted {s : σ} (henabled : input.config.observability.enabled = true)
    (hpaths : pathsOf input options = getAlloyRuntimePaths dataDir) (hc : w.container = some c)
    (hstatics : staticConfig process (runtimeInput input (some c.shown)) = .ok staticContents)
    (hrender : renderAlloyDynamicConfig input = .ok contents)
    (hcurrent : isAlloyContainerCurrent (some c.shown) (runtimeInput input (some c.shown))
      (process.sha256 staticContents) = true)
    (hstatic : w.files (getAlloyRuntimePaths dataDir).staticConfigPath = some staticContents)
    (hdynamic : w.files (dynamicOf dataDir) = some previous) (hnew : previous ≠ contents) :
    Program.Exec (collecting (dynamicOf dataDir))
      (reconcileAlloyRuntime process fuel input options s) w .cut
      ⟨replacedFiles dataDir staticContents contents w.files, w.container⟩ := by
  have hreload (w : AlloyWorld) : Program.Exec (collecting (dynamicOf dataDir))
      (reloadHealthy fuel (getAlloyRuntimePaths dataDir) (runtimeInput input (some c.shown)) options s)
      w .cut w :=
    exec_bind_cut _ (exec_bind_cut _ (exec_lost (collecting_now rfl (.inl rfl) trivial)))
  exact exec_outdated henabled hpaths hc hstatics hrender hcurrent hstatic hdynamic hnew
    (exec_finally_cut _ (exec_replace hdynamic (exec_tryCatch_cut _ (hreload _))))

def reloadedFiles (dataDir staticContents contents : String) (files : RuntimeFiles) : RuntimeFiles :=
  (FileChange.rm (getAlloyRuntimePaths dataDir).candidateConfigDir true).apply
    (replacedFiles dataDir staticContents contents files)

theorem reconcile_reloads {s : σ} (henabled : input.config.observability.enabled = true)
    (hpaths : pathsOf input options = getAlloyRuntimePaths dataDir) (hc : w.container = some c)
    (hruns : c.Runs)
    (hstatics : staticConfig process (runtimeInput input (some c.shown)) = .ok staticContents)
    (hrender : renderAlloyDynamicConfig input = .ok contents)
    (hcurrent : isAlloyContainerCurrent (some c.shown) (runtimeInput input (some c.shown))
      (process.sha256 staticContents) = true)
    (hstatic : w.files (getAlloyRuntimePaths dataDir).staticConfigPath = some staticContents)
    (hdynamic : w.files (dynamicOf dataDir) = some previous) (hnew : previous ≠ contents)
    (htimeout : 0 < options.timeoutMs) :
    Program.Exec (collecting (dynamicOf dataDir))
      (reconcileAlloyRuntime process (fuel + 1) input options s) w (.done (.ok (), s))
      ⟨reloadedFiles dataDir staticContents contents w.files,
        some { c with loaded := some contents }⟩ := by
  let replaced := replacedFiles dataDir staticContents contents w.files
  have hpost : Program.Exec (collecting (dynamicOf dataDir)) (request reloadRequest s)
      ⟨replaced, w.container⟩ (.done (.ok (⟨true, 200, .ok []⟩ : FetchResponse), s))
      ⟨replaced, some { c with loaded := some contents }⟩ := by
    have heffect : some { c with loaded := some contents } =
        w.container.map (AlloyContainer.reload (replaced (dynamicOf dataDir))) := by
      have hrunning : c.shown.running = some true := hruns
      have hfile : replaced (dynamicOf dataDir) = some contents := replaced_dynamic _ _ _ _
      rw [hc, hfile, Option.map_some, AlloyContainer.reload, if_pos hrunning]
    exact exec_request (collecting_now rfl heffect trivial)
  have hreload : Program.Exec (collecting (dynamicOf dataDir)) (reloadHealthy (fuel + 1)
      (getAlloyRuntimePaths dataDir) (runtimeInput input (some c.shown)) options s)
      ⟨replaced, w.container⟩ (.done (.ok (), s))
      ⟨replaced, some { c with loaded := some contents }⟩ :=
    exec_bind (exec_bind hpost (.ret _ _)) (exec_health rfl hruns htimeout)
  exact exec_outdated henabled hpaths hc hstatics hrender hcurrent hstatic hdynamic hnew
    (exec_finally (exec_replace hdynamic (exec_tryCatch _ hreload)) (exec_change _ _ s))

end

structure AlloyCall where
  input : AlloyRuntimeInput
  before : AlloyWorld
  outcome : Outcome (Except Failure Unit × Unit)
  after : AlloyWorld

/-- What may come to be on a server without a collector, by calls that may end in any way, or be cut
off, the latest first. -/
inductive Run (process : AlloyProcess) (dataDir : String) : List AlloyCall → AlloyWorld → Prop
  | start (w : AlloyWorld) (hnone : w.container = none) : Run process dataDir [] w
  | drift {calls : List AlloyCall} {w w' : AlloyWorld} (h : Run process dataDir calls w)
    (hd : Drift (dynamicOf dataDir) w w') : Run process dataDir calls w'
  | call {calls : List AlloyCall} {w w' : AlloyWorld} {input : AlloyRuntimeInput}
    {options : ReconcileAlloyOptions} {fuel : ℕ} {outcome : Outcome (Except Failure Unit × Unit)}
    (h : Run process dataDir calls w) (henabled : input.config.observability.enabled = true)
    (hpaths : pathsOf input options = getAlloyRuntimePaths dataDir)
    (he : Program.Exec (collecting (dynamicOf dataDir))
      (reconcileAlloyRuntime process fuel input options ()) w outcome w') :
    Run process dataDir (⟨input, w, outcome, w'⟩ :: calls) w'

theorem call_loads_iff (henabled : input.config.observability.enabled = true)
    (hpaths : pathsOf input options = getAlloyRuntimePaths dataDir) :
    (∀ w', Program.Exec (collecting (dynamicOf dataDir))
      (reconcileAlloyRuntime process fuel input options ()) w (.done (.ok (), ())) w' →
        Loads input w') ↔ ¬ Stale process dataDir input w := by
  constructor
  · intro h hstale
    obtain ⟨he, hloads⟩ := stale_returns henabled hpaths hstale
    exact hloads (h w he)
  · exact fun hfresh w' he => Program.wp_sound (reconcileAlloyRuntime_loads henabled hpaths hfresh) he

def sampleInput (version : String) : AlloyRuntimeInput where
  dataDir := "/var/lib/nouva-agent"
  dataVolume := "nouva-agent-data"
  serverId := "srv_1"
  apiUrl := "https://nouva.sh"
  agentToken := "agent-token"
  redactionContextVersion := some version
  redactionContextScopeVersions := none
  config := { observability := { enabled := true, organizationId := some "org_1",
                                 alloyImage := "grafana/alloy:v1.17.1", scrapeIntervalSeconds := 15,
                                 noneLabelValue := "__none__" },
              localTraefikNetwork := "nouva-local" }

def sampleDigest : String := "41be8cfc5d360ef91e446520ee43bc434921cf57cc4d91a7cd9730c87083dd56"

def sampleProcess : AlloyProcess where
  sha256 _ := sampleDigest
  redactSensitiveText text _ := text

def emptyWorld : AlloyWorld := ⟨fun _ => none, none⟩

def sampleStatic : String := "\n\n".intercalate (logBlocks (sampleInput "v1") ++
  cadvisorBlocks (sampleInput "v1") ++ traefikBlocks (sampleInput "v1") "nouva-traefik" 8082 ++
  hostBlocks (sampleInput "v1") ++ [remoteWriteBlock (sampleInput "v1"), ""])

def sampleDynamic (version : String) : String :=
  let rules := "\n\n".intercalate [renderSystemRule version]
  "\n\n".intercalate
    [renderRelabel "loki.relabel" "loki.write.nouva.receiver" rules,
      renderRelabel "prometheus.relabel" "prometheus.remote_write.nouva.receiver" rules, ""]

theorem sample_static (version : String) (found : Option RuntimeInspection) :
    staticConfig sampleProcess (runtimeInput (sampleInput version) found) = .ok sampleStatic := rfl

theorem sample_dynamic {version : String} (h : version = "v1" ∨ version = "v2") :
    renderAlloyDynamicConfig (sampleInput version) = .ok (sampleDynamic version) := by
  rcases h with rfl | rfl <;> rfl

theorem sampleDynamic_ne : sampleDynamic "v1" ≠ sampleDynamic "v2" := by decide +kernel

def sampleCollector : AlloyContainer := made (sampleInput "v1") sampleDigest (sampleDynamic "v1")

theorem sample_current : isAlloyContainerCurrent (some sampleCollector.shown)
    (runtimeInput (sampleInput "v2") (some sampleCollector.shown)) sampleDigest = true := by
  decide +kernel

def installed : AlloyWorld where
  files := installedFiles "/var/lib/nouva-agent" sampleStatic (sampleDynamic "v1") fun _ => none
  container := some sampleCollector

theorem sample_installs : Program.Exec (collecting (dynamicOf "/var/lib/nouva-agent"))
    (reconcileAlloyRuntime sampleProcess 1 (sampleInput "v1") {} ()) emptyWorld (.done (.ok (), ()))
    installed :=
  reconcile_installs rfl rfl rfl (sample_static "v1" none) (sample_dynamic (.inl rfl)) (by decide)

def interrupted : AlloyWorld where
  files := replacedFiles "/var/lib/nouva-agent" sampleStatic (sampleDynamic "v2") installed.files
  container := some sampleCollector

theorem sample_installed :
    installed.files (getAlloyRuntimePaths "/var/lib/nouva-agent").staticConfigPath = some sampleStatic ∧
      installed.files (dynamicOf "/var/lib/nouva-agent") = some (sampleDynamic "v1") :=
  ⟨installed_static "/var/lib/nouva-agent" sampleStatic (sampleDynamic "v1") fun _ => none,
    installed_dynamic "/var/lib/nouva-agent" sampleStatic (sampleDynamic "v1") fun _ => none⟩

theorem sample_interrupted : Program.Exec (collecting (dynamicOf "/var/lib/nouva-agent"))
    (reconcileAlloyRuntime sampleProcess 1 (sampleInput "v2") {} ()) installed .cut interrupted :=
  reconcile_interrupted rfl rfl rfl (sample_static "v2" _) (sample_dynamic (.inr rfl)) sample_current
    sample_installed.1 sample_installed.2 sampleDynamic_ne

def reloaded : AlloyWorld where
  files := reloadedFiles "/var/lib/nouva-agent" sampleStatic (sampleDynamic "v2") installed.files
  container := some { sampleCollector with loaded := some (sampleDynamic "v2") }

theorem sample_reloads : Program.Exec (collecting (dynamicOf "/var/lib/nouva-agent"))
    (reconcileAlloyRuntime sampleProcess 1 (sampleInput "v2") {} ()) installed (.done (.ok (), ()))
    reloaded :=
  reconcile_reloads rfl rfl rfl rfl (sample_static "v2" _) (sample_dynamic (.inr rfl)) sample_current
    sample_installed.1 sample_installed.2 sampleDynamic_ne (by decide)

theorem installed_fresh :
    ¬ Stale sampleProcess "/var/lib/nouva-agent" (sampleInput "v2") installed := by
  rintro ⟨_, _, contents, _, _, hrender, _, _, hdynamic, _⟩
  have hcontents : sampleDynamic "v2" = contents :=
    Except.ok.inj ((sample_dynamic (.inr rfl)).symm.trans hrender)
  exact sampleDynamic_ne (Option.some.inj (sample_installed.2.symm.trans (hcontents ▸ hdynamic)))

theorem interrupted_stale :
    Stale sampleProcess "/var/lib/nouva-agent" (sampleInput "v2") interrupted := by
  have hstatic := replaced_static "/var/lib/nouva-agent" sampleStatic (sampleDynamic "v2")
    installed.files
  exact ⟨sampleCollector, sampleStatic, sampleDynamic "v2", rfl, sample_static "v2" _,
    sample_dynamic (.inr rfl), sample_current, hstatic.trans sample_installed.1,
    replaced_dynamic "/var/lib/nouva-agent" sampleStatic (sampleDynamic "v2") installed.files,
    fun h => sampleDynamic_ne (Option.some.inj h)⟩

/-- In every run, each call that returns leaves the collector with the configuration of its input,
unless it began where the world was stale for it. -/
theorem alloy_runs_load {calls : List AlloyCall} (h : Run process dataDir calls w) :
    ∀ call ∈ calls, ¬ Stale process dataDir call.input call.before →
      call.outcome = .done (.ok (), ()) → Loads call.input call.after := by
  induction h with
  | start w hnone => exact fun _ hmem => nomatch hmem
  | drift h hd ih => exact ih
  | @call calls w w' input options fuel outcome h henabled hpaths he ih =>
    refine List.forall_mem_cons.mpr ⟨fun hfresh houtcome => ?_, ih⟩
    have hloads := Program.wp_sound (reconcileAlloyRuntime_loads henabled hpaths hfresh) he
    rw [show outcome = .done (.ok (), ()) from houtcome] at hloads
    exact hloads

/-- A second call finds the collector running and changes the configuration that it has loaded. -/
theorem alloy_runs_load_reloaded : Loads (sampleInput "v2") reloaded :=
  alloy_runs_load (.call (.call (.start emptyWorld rfl) rfl rfl sample_installs) rfl rfl
      sample_reloads) ⟨sampleInput "v2", installed, .done (.ok (), ()), reloaded⟩ List.mem_cons_self
    installed_fresh rfl

/-- A call that returns on a server where an earlier one was cut off between the rename and the
reload. -/
theorem interrupted_unloaded : ∃ calls w, Run sampleProcess "/var/lib/nouva-agent" calls w ∧
    ∃ call ∈ calls, call.outcome = .done (.ok (), ()) ∧ ¬ Loads call.input call.after := by
  have hreturned : Program.Exec (collecting (dynamicOf "/var/lib/nouva-agent"))
      (reconcileAlloyRuntime sampleProcess 1 (sampleInput "v2") {} ()) interrupted
      (.done (.ok (), ())) interrupted ∧ ¬ Loads (sampleInput "v2") interrupted :=
    stale_returns rfl rfl interrupted_stale
  obtain ⟨hreturns, hloads⟩ := hreturned
  exact ⟨_, _, .call (.call (.call (.start emptyWorld rfl) rfl rfl sample_installs) rfl rfl
    sample_interrupted) rfl rfl hreturns, _, List.mem_cons_self, rfl, hloads⟩

end NouvaAgent.AlloyRuntime
