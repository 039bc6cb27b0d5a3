import NouvaAgent.Interaction.Play
import NouvaAgent.TraefikCalls

namespace NouvaAgent

open Text Interaction Method ManagedRuntime

structure TraefikWorld where
  removed : Bool
  files : RuntimeFiles
  log : RuntimeHistory

namespace TraefikRuntime

section

variable (process : TraefikProcess) (fuel : ℕ) (config : TraefikConfig) (options : ReconcileOptions)
  (image : Option String)

def onServer (files : RuntimeFiles) : TraefikWorld := ⟨false, files, []⟩

/-- Whether the primary that was there is removed after a call. A rejected removal may still have
removed it. -/
def Removal : (c : RuntimeCall) → Option c.Answer → (removed removed' : Bool) → Prop
  | .request (.removeContainer name _), some (.ok _), removed, removed' =>
    removed' = (removed || name == primaryName process)
  | .request (.removeContainer name _), _, removed, removed' =>
    removed' = removed ∨ name = primaryName process ∧ removed' = true
  | _, _, removed, removed' => removed' = removed

def Shown (removed : Bool) : (c : RuntimeCall) → Option c.Answer → Prop
  | .request (.inspectContainer name), some (.ok found) =>
    name = primaryName process → removed = false →
      ∃ inspection, found = some inspection ∧ inspection.image = image
  | _, _ => True

def serving : Model RuntimeCall.Answer TraefikWorld := fun w c r w' =>
  w'.log = ⟨c, r⟩ :: w.log ∧ c.FileEffect r w.files w'.files ∧
    Removal process c r w.removed w'.removed ∧ Shown process image w.removed c r

def marksPrimary : RuntimeCall → Bool
  | .request (.removeContainer name _) => name == primaryName process
  | .request (.ensureContainer spec _ _) => spec.name == primaryName process
  | _ => false

def marks (log : RuntimeHistory) : RuntimeHistory :=
  log.filter fun e => marksPrimary process e.call

def removal (r : Option (Except CallError Unit)) : RuntimeEvent :=
  ⟨.request (removePrimary process), r⟩

def creation (image : String) (r : Option (Except CallError String)) : RuntimeEvent :=
  ⟨.request (createPrimary process config options image), r⟩

/-- If the primary was removed, then a primary with its image was created after that, or at least
attempted. -/
def Retried (w : TraefikWorld) : Prop :=
  w.removed = true → ∃ previousImage r r', image = some previousImage ∧
    [creation process config options previousImage r, removal process r'].Sublist w.log

/-- The latest events are the checks of the new primary, and they passed. -/
def CheckPassed (log : RuntimeHistory) : Prop :=
  ∃ check id earlier,
    log = check ++ creation process config options process.traefikImage (some (.ok id)) :: earlier ∧
      Ran (checkPrimary process fuel options : TraefikMethod Unit) check (.ok ())

structure Restorable (log : RuntimeHistory) : Prop where
  known : ∃ previousImage, image = some previousImage ∧ previousImage ≠ ""
  created : ∀ e, creation process config options process.traefikImage (some (.error e)) ∉ log
  removed : ∀ e, removal process (some (.error e)) ∉ log
  cleaned : ∀ e before, log = ⟨.request (removeCandidate process), some (.error e)⟩ :: before →
    ¬ CheckPassed process fuel config options before

/-- If the primary was removed, then Docker said so, and the new image is the previous one or the
cutover fails where it is rolled back. -/
def Guarded (w : TraefikWorld) : Prop :=
  w.removed = true → removal process (some (.ok ())) ∈ w.log ∧
    (image = some process.traefikImage ∨ Restorable process fuel config options image w.log)

inductive Failing : RuntimeHistory → Prop
  | uncreated (e : CallError) :
    Failing [creation process config options process.traefikImage (some (.error e)),
      removal process (some (.ok ()))]
  | unremoved (e : CallError) (id : String) :
    Failing [removal process (some (.error e)),
      creation process config options process.traefikImage (some (.ok id)),
      removal process (some (.ok ()))]
  | unknown (id : String) (hi : ∀ previousImage, image = some previousImage → previousImage = "") :
    Failing [removal process (some (.ok ())),
      creation process config options process.traefikImage (some (.ok id)),
      removal process (some (.ok ()))]
  | restored (id previousImage : String) (r : Option (Except CallError String))
    (hi : image = some previousImage) (hne : previousImage ≠ "") :
    Failing [creation process config options previousImage r, removal process (some (.ok ())),
      creation process config options process.traefikImage (some (.ok id)),
      removal process (some (.ok ()))]

inductive Ending (w : TraefikWorld) : Prop
  | before (hr : w.removed = false)
  | unanswered (e : CallError) (hm : marks process w.log = [removal process (some (.error e))])
  | failing (hr : w.removed = true) (hm : Failing process config options image (marks process w.log))
  | cutOver (id : String) (e : CallError) (before : RuntimeHistory) (hr : w.removed = true)
      (hl : w.log = ⟨.request (removeCandidate process), some (.error e)⟩ :: before)
      (hm : marks process before =
        [creation process config options process.traefikImage (some (.ok id)),
          removal process (some (.ok ()))])
      (hp : CheckPassed process fuel config options before)

def At (removed : Bool) (ms : RuntimeHistory) (w : TraefikWorld) : Prop :=
  w.removed = removed ∧ marks process w.log = ms

end

variable {process : TraefikProcess} {fuel : ℕ} {config : TraefikConfig} {options : ReconcileOptions}
  {image : Option String} {removed : Bool} {ms : RuntimeHistory} {s : Option TraefikRuntimeFailure}
  {w w' : TraefikWorld}

theorem candidateName_ne : candidateName process ≠ primaryName process := by
  intro h
  have hlength := congrArg String.length h
  simp [candidateName, primaryName] at hlength

theorem marks_quiet {c : RuntimeCall} (hc : marksPrimary process c = false)
    (r : Option c.Answer) (log : RuntimeHistory) :
    marks process (⟨c, r⟩ :: log) = marks process log :=
  List.filter_cons_of_neg (by simp [hc])

theorem Removal.quiet {c : RuntimeCall} {r : Option c.Answer} {removed removed' : Bool}
    (hc : marksPrimary process c = false) (hr : Removal process c r removed removed') :
    removed' = removed := by
  cases c with
  | request q =>
    cases q with
    | removeContainer name force =>
      have hname : (name == primaryName process) = false := hc
      rcases r with _ | _ | _
      · obtain hr | ⟨hn, _⟩ := hr
        · exact hr
        · exact absurd hn (beq_eq_false_iff_ne.mp hname)
      · obtain hr | ⟨hn, _⟩ := hr
        · exact hr
        · exact absurd hn (beq_eq_false_iff_ne.mp hname)
      · rw [Removal, hname, Bool.or_false] at hr
        exact hr
    | _ => exact hr
  | now => exact hr
  | sleep ms => exact hr

theorem At.quiet {c : RuntimeCall} {r : Option c.Answer} (hc : marksPrimary process c = false)
    (hm : serving process image w c r w') (ha : At process removed ms w) :
    At process removed ms w' := by
  obtain ⟨hlog, _, hr, _⟩ := hm
  refine ⟨(hr.quiet hc).trans ha.1, ?_⟩
  rw [hlog, marks_quiet hc]
  exact ha.2

theorem looking_quiet {c : RuntimeCall} (hc : Looking c) : marksPrimary process c = false := by
  cases c with
  | request q => cases q <;> first | rfl | exact hc.elim
  | now => rfl
  | sleep ms => rfl

theorem acme_quiet {paths : TraefikRuntimePaths} {c : RuntimeCall} (hc : AcmeCall paths c) :
    marksPrimary process c = false := by
  cases c with
  | request q =>
    cases q with
    | change change => rfl
    | _ => exact looking_quiet hc
  | now => rfl
  | sleep ms => rfl

theorem removeCandidate_quiet : marksPrimary process (.request (removeCandidate process)) = false :=
  beq_eq_false_iff_ne.mpr candidateName_ne

theorem quiet_wp {σ α : Type} {p : RuntimeMethod σ α} {s : σ}
    (hp : p.Uses fun c => marksPrimary process c = false) (ha : At process removed ms w) :
    p.wp (serving process image) (Post.always (At process removed ms)) s w :=
  hp.wp (fun _ _ _ _ hc hm ha => ha.quiet hc hm) ha

theorem removePrimary_wp {σ : Type} {s : σ} {Q : Post Failure σ Unit TraefikWorld}
    (ha : At process removed ms w)
    (hok : ∀ w', At process true (removal process (some (.ok ())) :: ms) w' → Q.ok () s w')
    (herr : ∀ e w', (removed = true → w'.removed = true) →
      marks process w'.log = removal process (some (.error e)) :: ms → Q.err (.call e) s w')
    (hcut : ∀ w', Q.cut w') :
    (request (removePrimary process)).wp (serving process image) Q s w := by
  have hmark (r : Option (Except CallError Unit)) :
      marks process (removal process r :: w.log) = removal process r :: ms := by
    rw [← ha.2]
    exact List.filter_cons_of_pos (by simp [removal, marksPrimary, removePrimary])
  refine (wp_request _).mpr ⟨fun w' _ => hcut w', ?_, ?_⟩
  · rintro e w' ⟨hlog, _, hr, _⟩
    refine herr e w' (fun hremoved => ?_) (hlog ▸ hmark _)
    obtain hr | ⟨_, hr⟩ := hr
    · exact hr.trans (ha.1.trans hremoved)
    · exact hr
  · rintro ⟨⟩ w' ⟨hlog, _, hr, _⟩
    refine hok w' ⟨?_, hlog ▸ hmark _⟩
    rw [show w'.removed = (w.removed || primaryName process == primaryName process) from hr,
      beq_self_eq_true, Bool.or_true]

theorem createPrimary_wp {σ : Type} {s : σ} {Q : Post Failure σ String TraefikWorld}
    {wanted : String} (ha : At process removed ms w)
    (hok : ∀ id w', w'.log = creation process config options wanted (some (.ok id)) :: w.log →
      At process removed (creation process config options wanted (some (.ok id)) :: ms) w' →
        Q.ok id s w')
    (herr : ∀ e w',
      At process removed (creation process config options wanted (some (.error e)) :: ms) w' →
        Q.err (.call e) s w')
    (hcut : ∀ w', Q.cut w') :
    (request (createPrimary process config options wanted)).wp (serving process image) Q s w := by
  have hafter (r : Option (Except CallError String)) (w' : TraefikWorld)
      (hm : serving process image w (.request (createPrimary process config options wanted)) r w') :
      At process removed (creation process config options wanted r :: ms) w' := by
    obtain ⟨hlog, _, hr, _⟩ := hm
    refine ⟨hr.trans ha.1, ?_⟩
    rw [hlog, ← ha.2]
    exact List.filter_cons_of_pos
      (by simp [marksPrimary, createPrimary, primarySpec, buildTraefikContainerSpec])
  exact (wp_request _).mpr ⟨fun w' _ => hcut w', fun e w' hm => herr e w' (hafter _ w' hm),
    fun id w' hm => hok id w' hm.1 (hafter _ w' hm)⟩

theorem restorePrevious_wp {σ : Type} {s : σ} {previousImage : String}
    (ha : At process removed ms w) :
    (restorePrevious process fuel config options previousImage).wp (serving process image)
      ⟨fun _ _ w => ∃ r, At process removed (creation process config options previousImage r :: ms) w,
        fun _ _ w => ∃ r,
          At process removed (creation process config options previousImage r :: ms) w,
        fun _ => True⟩ s w := by
  refine (wp_bind _ _).mpr (createPrimary_wp ha (fun id w' _ hid => ?_) (fun e w' he => ⟨_, he⟩)
    fun _ => trivial)
  exact wp_mono (quiet_wp (checkPrimary_looks.mono fun _ => looking_quiet) hid)
    (fun _ _ _ h => ⟨_, h⟩) (fun _ _ _ h => ⟨_, h⟩) fun _ _ => trivial

theorem rollBack_wp {id : String} {error : Failure}
    (ha : At process true [creation process config options process.traefikImage (some (.ok id)),
      removal process (some (.ok ()))] w) :
    (rollBack process fuel config options image error).wp (serving process image)
      ⟨fun _ _ _ => False,
        fun _ _ w => w.removed = true ∧ Failing process config options image (marks process w.log),
        fun _ => True⟩ s w := by
  refine (wp_bind _ _).mpr (removePrimary_wp ha (fun w' hw => ?_)
    (fun e w' hr hm => ⟨hr rfl, hm ▸ .unremoved e id⟩) fun _ => trivial)
  cases hi : image.filter (· ≠ "") with
  | none =>
    refine ⟨hw.1, hw.2 ▸ .unknown id fun previousImage himage => ?_⟩
    by_contra hne
    simp [himage, hne] at hi
  | some previousImage =>
    obtain ⟨himage, hne⟩ := Option.filter_eq_some_iff.mp hi
    have hsettled : ∀ w, (∃ r, At process true (creation process config options previousImage r ::
        removal process (some (.ok ())) :: [creation process config options process.traefikImage
          (some (.ok id)), removal process (some (.ok ()))]) w) →
        w.removed = true ∧ Failing process config options image (marks process w.log) := by
      rintro w ⟨r, hr, hm⟩
      exact ⟨hr, hm ▸ .restored id previousImage r himage (of_decide_eq_true hne)⟩
    refine (wp_bind _ _).mpr ((wp_settle _).mpr
      (wp_mono (restorePrevious_wp hw) ?_ ?_ fun _ _ => trivial))
    · exact fun _ _ w hr => hsettled w hr
    · exact fun _ _ w hr => hsettled w hr

theorem serving_logs : Program.Logs (serving process image) TraefikWorld.log :=
  fun _ _ _ _ hm => hm.1

theorem verifyCutover_wp {id : String} {earlier : RuntimeHistory}
    (hlog : w.log = creation process config options process.traefikImage (some (.ok id)) :: earlier)
    (ha : At process true [creation process config options process.traefikImage (some (.ok id)),
      removal process (some (.ok ()))] w) :
    (verifyCutover process fuel config options image).wp (serving process image)
      ⟨fun _ _ w => At process true
          [creation process config options process.traefikImage (some (.ok id)),
            removal process (some (.ok ()))] w ∧ CheckPassed process fuel config options w.log,
        fun _ _ w => w.removed = true ∧ Failing process config options image (marks process w.log),
        fun _ => True⟩ s w := by
  refine (wp_tryCatch _ _).mpr ((wp_bind _ _).mpr (wp_mono
    (wp_and (quiet_wp (checkPrimary_looks.mono fun _ => looking_quiet) ha)
      (wp_ran_of serving_logs _ _ _)) ?_ ?_ fun _ _ => trivial))
  · rintro _ s w ⟨h, check, hcheck, hran⟩
    exact ⟨h, check, id, earlier, hcheck.trans (congrArg _ hlog), hran⟩
  · exact fun error s w h => wp_mono (rollBack_wp h.1) (fun _ _ _ h => h.elim) (fun _ _ _ h => h)
      fun _ h => h

theorem cutOver_wp (ha : At process false [] w) :
    (cutOver process fuel config options image).wp (serving process image)
      ⟨fun _ _ _ => True, fun _ _ => Ending process fuel config options image, fun _ => True⟩ s w := by
  refine (wp_bind _ _).mpr (removePrimary_wp ha (fun w hw => ?_) (fun e w hr hm => .unanswered e hm)
    fun _ => trivial)
  refine (wp_bind _ _).mpr (createPrimary_wp hw (fun id w hlog hid => ?_)
    (fun e w he => .failing he.1 (he.2 ▸ .uncreated e)) fun _ => trivial)
  refine (wp_finally _ _).mpr (wp_mono (verifyCutover_wp hlog hid) ?_ ?_ fun _ _ => trivial)
  · rintro _ s w ⟨hdone, hpassed⟩
    refine (wp_request _).mpr ⟨fun _ _ => trivial, fun e w' hm => ?_, fun _ _ _ => trivial⟩
    have hafter := hdone.quiet removeCandidate_quiet hm
    exact .cutOver id e w.log hafter.1 hm.1 hdone.2 hpassed
  · rintro _ s w ⟨hr, hm⟩
    have hend (w' : TraefikWorld) (h : At process true (marks process w.log) w') :
        Ending process fuel config options image w' := .failing h.1 (h.2 ▸ hm)
    exact wp_mono (quiet_wp (uses_request removeCandidate_quiet) ⟨hr, rfl⟩)
      (fun _ _ w h => hend w h) (fun _ _ w h => hend w h) fun _ _ => trivial

theorem preflight_wp (ha : At process false [] w) :
    (preflight process fuel config options).wp (serving process image)
      (Post.always (At process false [])) s w := by
  have hspec : ∀ replace pull, marksPrimary process
      (.request (.ensureContainer (candidateSpec process config options) replace pull)) = false :=
    fun _ _ => beq_eq_false_iff_ne.mpr candidateName_ne
  refine quiet_wp (uses_bind (uses_request rfl) fun _ => ?_) ha
  refine uses_bind (uses_request removeCandidate_quiet) fun _ => ?_
  refine uses_bind (uses_request (hspec _ _)) fun _ => ?_
  refine uses_tryCatch (checkCandidate_looks.mono fun _ => looking_quiet) fun error => ?_
  refine uses_bind (uses_request removeCandidate_quiet) fun _ => ?_
  exact uses_bind (uses_assign _) fun _ => uses_throw _

theorem writeManagedFile_quiet {σ : Type} {path contents : String} {mode : Option ℕ} :
    (writeManagedFile path contents mode : RuntimeMethod σ Unit).Uses fun c =>
      marksPrimary process c = false := by
  refine uses_bind (uses_request rfl) fun _ => ?_
  refine uses_bind (uses_request rfl) fun _ => ?_
  cases mode with
  | none => exact uses_request rfl
  | some mode =>
    refine uses_bind (uses_request rfl) fun _ => ?_
    exact uses_bind (uses_request rfl) fun _ => uses_request rfl

theorem reconcileTraefikRuntime_wp (ha : At process false [] w) :
    (reconcileTraefikRuntime process fuel config options).wp (serving process image)
      ⟨fun _ _ _ => True, fun _ _ => Ending process fuel config options image, fun _ => True⟩ s w := by
  have hbefore (w : TraefikWorld) (h : At process false [] w) :
      Ending process fuel config options image w := .before h.1
  have hpart {α : Type} {p : TraefikMethod α} {s : Option TraefikRuntimeFailure}
      {w : TraefikWorld} (hp : p.wp (serving process image) (Post.always (At process false [])) s w) :
      p.wp (serving process image) ⟨fun _ _ => At process false [],
        fun _ _ => Ending process fuel config options image, fun _ => True⟩ s w :=
    wp_mono hp (fun _ _ _ h => h) (fun _ _ w h => hbefore w h) fun _ _ => trivial
  refine wp_bind_of (hpart (quiet_wp (ensureTraefikState_calls.mono fun _ => acme_quiet) ha))
    fun _ s w ha => ?_
  refine wp_bind_of (hpart (quiet_wp (uses_request rfl) ha)) fun _ s w ha => ?_
  refine wp_bind_of (hpart (quiet_wp writeManagedFile_quiet ha)) fun _ s w ha => ?_
  refine (wp_bind _ _).mpr ((wp_request _).mpr ⟨fun _ _ => trivial, fun e w' hm => ?_,
    fun found w' hm => ?_⟩)
  · exact hbefore w' (ha.quiet rfl hm)
  · obtain ⟨inspection, rfl, rfl⟩ := hm.2.2.2 rfl ha.1
    have ha := ha.quiet rfl hm
    dsimp only
    split
    · have hconnect : (connectTraefikToManagedProjectNetworks fuel (primaryName process)
          (serverId options) : TraefikMethod Unit).Uses fun c => marksPrimary process c = false :=
        connectTraefik_looks.mono fun _ => looking_quiet
      exact wp_bind_of (hpart (quiet_wp hconnect ha)) fun _ _ _ _ => trivial
    · exact wp_bind_of (hpart (preflight_wp ha)) fun _ s w ha => cutOver_wp ha

theorem removal_marked (r : Option (Except CallError Unit)) :
    marksPrimary process (removal process r).call = true := beq_self_eq_true _

theorem creation_marked (wanted : String) (r : Option (Except CallError String)) :
    marksPrimary process (creation process config options wanted r).call = true :=
  beq_self_eq_true _

theorem creation_ne (wanted : String) (r : Option (Except CallError String))
    (r' : Option (Except CallError Unit)) :
    creation process config options wanted r ≠ removal process r' := by
  intro h
  have hcall := congrArg Event.call h
  cases RuntimeCall.request.inj hcall

theorem creation_injective {wanted wanted' : String} {r r' : Option (Except CallError String)}
    (h : creation process config options wanted r = creation process config options wanted' r') :
    wanted = wanted' ∧ r = r' := by
  obtain ⟨hcall, hanswer⟩ := Event.mk.inj h
  have hspec := (RuntimeRequest.ensureContainer.inj (RuntimeCall.request.inj hcall)).1
  exact ⟨congrArg RuntimeContainerSpec.image hspec, eq_of_heq hanswer⟩

theorem removal_injective {r r' : Option (Except CallError Unit)}
    (h : removal process r = removal process r') : r = r' := eq_of_heq (Event.mk.inj h).2

theorem mem_marks {e : RuntimeEvent} {log : RuntimeHistory}
    (he : marksPrimary process e.call = true) : e ∈ marks process log ↔ e ∈ log := by
  simp [marks, he]

theorem sublist_marks {es log : RuntimeHistory} (hes : ∀ e ∈ es, marksPrimary process e.call = true) :
    es.Sublist (marks process log) ↔ es.Sublist log := by
  constructor
  · exact fun h => h.trans List.filter_sublist
  · intro h
    have hfilter := h.filter fun e => marksPrimary process e.call
    rwa [List.filter_eq_self.mpr hes] at hfilter

theorem marks_checked {check earlier : RuntimeHistory} {id : String}
    (hran : Ran (checkPrimary process fuel options : TraefikMethod Unit) check (.ok ())) :
    marks process (check ++
        creation process config options process.traefikImage (some (.ok id)) :: earlier) =
      creation process config options process.traefikImage (some (.ok id)) :: marks process earlier := by
  have hquiet : ∀ e ∈ check, marksPrimary process e.call = false :=
    fun e he => looking_quiet ((hran.confined checkPrimary_looks.confined).1 e he)
  rw [marks, List.filter_append, List.filter_eq_nil_iff.mpr fun e he => by simp [hquiet e he],
    List.nil_append]
  exact List.filter_cons_of_pos (creation_marked _ _)

theorem retried_iff (hr : w.removed = true) : Retried process config options image w ↔
    ∃ previousImage r r', image = some previousImage ∧
      [creation process config options previousImage r, removal process r'].Sublist
        (marks process w.log) := by
  have hes (previousImage : String) (r : Option (Except CallError String))
      (r' : Option (Except CallError Unit)) :
      ∀ e ∈ [creation process config options previousImage r, removal process r'],
        marksPrimary process e.call = true := by
    rintro e (_ | ⟨_, _ | ⟨_, ⟨⟩⟩⟩)
    · exact creation_marked _ _
    · exact removal_marked _
  simp only [Retried, hr, forall_const, sublist_marks (hes _ _ _)]

theorem retried_new (removals : List (Option (Except CallError Unit)))
    {r : Option (Except CallError String)} (hr : w.removed = true)
    (hm : marks process w.log = removals.map (removal process) ++
      [creation process config options process.traefikImage r, removal process (some (.ok ()))])
    (hno : ¬ Restorable process fuel config options image w.log) :
    Retried process config options image w ↔ Guarded process fuel config options image w := by
  have hremoved : removal process (some (.ok ())) ∈ w.log := by
    rw [← mem_marks (removal_marked _), hm]
    simp
  have hnew : ∀ wanted r', creation process config options wanted r' ∈ marks process w.log →
      wanted = process.traefikImage := by
    intro wanted r' hmem
    rw [hm, List.mem_append, List.mem_map] at hmem
    obtain ⟨r'', _, heq⟩ | hmem := hmem
    · exact absurd heq.symm (creation_ne _ _ _)
    · simp only [List.mem_cons, List.not_mem_nil, or_false, creation_ne] at hmem
      exact (creation_injective hmem).1
  have hguarded : Guarded process fuel config options image w ↔ image = some process.traefikImage := by
    simp [Guarded, hr, hremoved, hno]
  rw [hguarded, retried_iff hr]
  constructor
  · rintro ⟨previousImage, r', r'', hi, hsub⟩
    rw [hi, hnew previousImage r' (hsub.subset List.mem_cons_self)]
  · intro hi
    rw [hm]
    exact ⟨_, r, _, hi, List.sublist_append_right _ _⟩

theorem Restorable.removed_ok {log : RuntimeHistory} {e : CallError}
    (h : Restorable process fuel config options image log) :
    removal process (some (.error e)) ∉ marks process log := by
  rw [mem_marks (removal_marked _)]
  exact h.removed e

theorem Restorable.created_ok {log : RuntimeHistory} {e : CallError}
    (h : Restorable process fuel config options image log) :
    creation process config options process.traefikImage (some (.error e)) ∉ marks process log := by
  rw [mem_marks (creation_marked _ _)]
  exact h.created e

theorem restored_guarded {id previousImage : String} {r : Option (Except CallError String)}
    (hi : image = some previousImage) (hne : previousImage ≠ "")
    (hm : marks process w.log = [creation process config options previousImage r,
      removal process (some (.ok ())),
      creation process config options process.traefikImage (some (.ok id)),
      removal process (some (.ok ()))]) :
    Guarded process fuel config options image w := by
  intro hr
  constructor
  · rw [← mem_marks (removal_marked _), hm]
    simp
  refine or_iff_not_imp_left.mpr fun hi' => ⟨⟨previousImage, hi, hne⟩, ?_, ?_, ?_⟩
  · intro e he
    rw [← mem_marks (creation_marked _ _), hm] at he
    simp only [List.mem_cons, List.not_mem_nil, or_false, creation_ne, false_or] at he
    obtain he | he := he
    · exact hi' (hi.trans (congrArg some (creation_injective he).1.symm))
    · exact nomatch (creation_injective he).2
  · intro e he
    rw [← mem_marks (removal_marked _), hm] at he
    simp only [List.mem_cons, List.not_mem_nil, or_false, (creation_ne _ _ _).symm, false_or] at he
    obtain he | he := he <;> exact nomatch removal_injective he
  · -- the checks that passed would stand right behind the previous image's creation
    rintro e before hl ⟨check, id', earlier, hbefore, hran⟩
    rw [hl, marks_quiet removeCandidate_quiet, hbefore, marks_checked hran] at hm
    exact hi' (hi.trans (congrArg some (creation_injective (List.cons.inj hm).1).1.symm))

theorem Failing.retried_iff (hr : w.removed = true)
    (hf : Failing process config options image (marks process w.log)) :
    Retried process config options image w ↔ Guarded process fuel config options image w := by
  generalize hm : marks process w.log = ms at hf
  cases hf with
  | uncreated e =>
    exact retried_new [] hr hm fun h => h.created_ok (e := e) (by simp [hm])
  | unremoved e id =>
    exact retried_new [_] hr hm fun h => h.removed_ok (e := e) (by simp [hm])
  | unknown id hi =>
    refine retried_new [_] hr hm fun h => ?_
    obtain ⟨previousImage, himage, hne⟩ := h.known
    exact hne (hi previousImage himage)
  | restored id previousImage r hi hne =>
    refine iff_of_true ?_ (restored_guarded hi hne hm)
    refine (TraefikRuntime.retried_iff hr).mpr ⟨previousImage, r, some (.ok ()), hi, ?_⟩
    rw [hm]
    exact (List.nil_sublist _).cons_cons _ |>.cons_cons _

theorem Ending.retried_iff (he : Ending process fuel config options image w) :
    Retried process config options image w ↔ Guarded process fuel config options image w := by
  cases he with
  | before hr => simp [Retried, Guarded, hr]
  | unanswered e hm =>
    by_cases hr : w.removed = true
    · have hnone : removal process (some (.ok ())) ∉ w.log := by
        rw [← mem_marks (removal_marked _), hm, List.mem_singleton]
        exact fun h => nomatch removal_injective h
      refine iff_of_false (fun h => ?_) fun h => hnone (h hr).1
      obtain ⟨previousImage, r, r', _, hsub⟩ := (TraefikRuntime.retried_iff hr).mp h
      rw [hm] at hsub
      exact absurd hsub.length_le (by simp)
    · simp [Retried, Guarded, hr]
  | failing hr hm => exact hm.retried_iff hr
  | cutOver id e before hr hl hm hp =>
    have hlog : marks process w.log = marks process before := by
      rw [hl, marks_quiet removeCandidate_quiet]
    exact retried_new [] hr (hlog.trans hm) fun h => h.cleaned e before hl hp

/-- A primary that was removed is given another try exactly where the removal was answered and
either nothing changes its image or the cutover fails in the part that is rolled back. -/
theorem reconcile_retried_iff {files : RuntimeFiles} {s' : Option TraefikRuntimeFailure}
    {error : Failure} (he : Program.Exec (serving process image)
      (reconcileTraefikRuntime process fuel config options s) (onServer files)
      (.done (.error error, s')) w) :
    Retried process config options image w ↔ Guarded process fuel config options image w :=
  Ending.retried_iff (Program.wp_sound (reconcileTraefikRuntime_wp ⟨rfl, rfl⟩) he)

def following (process : TraefikProcess) (w : TraefikWorld) (c : RuntimeCall) (r : Option c.Answer) :
    TraefikWorld where
  removed := match c, r with
    | .request (.removeContainer name _), some (.ok _) => w.removed || name == primaryName process
    | _, _ => w.removed
  files := match c, r with
    | .request (.change change), some (.ok _) => change.apply w.files
    | _, _ => w.files
  log := ⟨c, r⟩ :: w.log

theorem following_serving {c : RuntimeCall} {r : Option c.Answer}
    (hshown : Shown process image w.removed c r) :
    serving process image w c r (following process w c r) := by
  refine ⟨rfl, ?_, ?_, hshown⟩
  · cases c with
    | request q =>
      cases q with
      | change change =>
        rcases r with _ | _ | _
        · exact .inr (FileChange.rejected_self change w.files)
        · exact FileChange.rejected_self change w.files
        · rfl
      | _ => rfl
    | now => rfl
    | sleep ms => rfl
  · cases c with
    | request q =>
      cases q with
      | removeContainer name force =>
        rcases r with _ | _ | _
        · exact .inl rfl
        · exact .inl rfl
        · rfl
      | _ => rfl
    | now => rfl
    | sleep ms => rfl

def wellAnswer (w : TraefikWorld) : (r : RuntimeRequest) → r.Result
  | .inspectContainer name =>
    if name = "nouva-traefik" then
      if w.removed then some { running := some false }
      else some { running := some true, image := some "traefik:v3.4" }
    else some { running := some true, portBindings := [("8082/tcp", [⟨"127.0.0.1", "8083"⟩])] }
  | .stat _ => acmeFileMode
  | .readFile _ | .ensureContainer _ _ _ | .createContainer _ | .containerLogs _ => "{}"
  | .readDirectory _ | .listNetworks => []
  | .inspectImage _ | .inspectNetwork _ => true
  | .waitContainer _ _ => 0
  | .fetch _ _ => ⟨true, 200, .ok []⟩
  | .change _ | .access _ | .ensureNetwork _ | .pullImage _ | .removeContainer _ _
  | .startContainer _ | .connectNetwork _ _ => ()

def sampleProcess : TraefikProcess where
  sha256 _ := "0de258e0ba8856bf03c87a4f3b1734eb10ad2e31188cc05f6ab80a146955fb2b"

def sampleConfig : TraefikConfig := ⟨"nouva-ingress", none⟩

def sampleOptions : ReconcileOptions := { dataVolume := "nouva-agent-data" }

def server (fails : RuntimeRequest → Option CallError) (w : TraefikWorld) :
    (c : RuntimeCall) → Option c.Answer × TraefikWorld
  | .request r =>
    let answer := match fails r with
      | some e => .error e
      | none => .ok (wellAnswer w r)
    (some answer, following sampleProcess w (.request r) (some answer))
  | .now => (some (10000 * w.log.length), following sampleProcess w .now (some (10000 * w.log.length)))
  | .sleep ms => (some (), following sampleProcess w (.sleep ms) (some ()))

theorem server_serving (fails : RuntimeRequest → Option CallError) (w : TraefikWorld)
    (c : RuntimeCall) : serving sampleProcess (some "traefik:v3.4") w c (server fails w c).1
      (server fails w c).2 := by
  cases c with
  | request r =>
    refine following_serving ?_
    cases r with
    | inspectContainer name =>
      have hshown : ∀ answer : Except CallError (Option RuntimeInspection), (answer = match
          fails (.inspectContainer name) with
            | some e => .error e
            | none => .ok (wellAnswer w (.inspectContainer name))) →
          Shown sampleProcess (some "traefik:v3.4") w.removed
            (.request (.inspectContainer name)) (some answer) := by
        intro answer heq
        cases hf : fails (.inspectContainer name) with
        | some e =>
          rw [hf] at heq
          exact heq ▸ trivial
        | none =>
          rw [hf] at heq
          subst heq
          intro hname hremoved
          have hname : name = "nouva-traefik" := hname
          simp [wellAnswer, hname, hremoved]
      exact hshown _ rfl
    | _ => trivial
  | now => exact following_serving trivial
  | sleep ms => exact following_serving trivial

def upgrade (fails : RuntimeRequest → Option CallError) :
    Outcome (Except Failure Unit × Option TraefikRuntimeFailure) × TraefikWorld :=
  (reconcileTraefikRuntime sampleProcess 3 sampleConfig sampleOptions none).play
    (server fails) (onServer fun _ => none)

def portTaken : RuntimeRequest → Option CallError
  | .ensureContainer spec _ _ =>
    if spec.name = "nouva-traefik" then some ⟨true, "port is already allocated", some 500⟩ else none
  | _ => none

theorem port_taken_unretried : ∃ error s', Program.Exec (serving sampleProcess (some "traefik:v3.4"))
      (reconcileTraefikRuntime sampleProcess 3 sampleConfig sampleOptions none)
      (onServer fun _ => none) (.done (.error error, s')) (upgrade portTaken).2 ∧
    ¬ Retried sampleProcess sampleConfig sampleOptions (some "traefik:v3.4")
      (upgrade portTaken).2 := by
  refine ⟨_, _, Program.exec_of_play (server_serving _) rfl, fun h => ?_⟩
  obtain ⟨previousImage, r, r', hi, hsub⟩ := (retried_iff rfl).mp h
  have hmarks : marks sampleProcess (upgrade portTaken).2.log =
      [creation sampleProcess sampleConfig sampleOptions "traefik:v3.5"
        (some (.error ⟨true, "port is already allocated", some 500⟩)),
        removal sampleProcess (some (.ok ()))] := rfl
  have hmem := hsub.subset List.mem_cons_self
  simp only [hmarks, List.mem_cons, List.not_mem_nil, or_false, creation_ne] at hmem
  have himage : "traefik:v3.4" = "traefik:v3.5" :=
    (Option.some.inj hi).trans (creation_injective hmem).1
  exact absurd himage (by decide)

theorem unhealthy_retried : Retried sampleProcess sampleConfig sampleOptions (some "traefik:v3.4")
    (upgrade fun _ => none).2 := by
  have hend : (upgrade fun _ => none).1 =
      .done (.error (.error "Traefik container is not running"),
        some ⟨.cutover, "Traefik container is not running", .failed⟩) := by
    decide +kernel
  have hmarks : marks sampleProcess (upgrade fun _ => none).2.log =
      [creation sampleProcess sampleConfig sampleOptions "traefik:v3.4" (some (.ok "{}")),
        removal sampleProcess (some (.ok ())),
        creation sampleProcess sampleConfig sampleOptions "traefik:v3.5" (some (.ok "{}")),
        removal sampleProcess (some (.ok ()))] := by
    decide +kernel
  have hexec : Program.Exec (serving sampleProcess (some "traefik:v3.4"))
      (reconcileTraefikRuntime sampleProcess 3 sampleConfig sampleOptions none)
      (onServer fun _ => none) (.done (.error (.error "Traefik container is not running"),
        some ⟨.cutover, "Traefik container is not running", .failed⟩)) (upgrade fun _ => none).2 :=
    Program.exec_of_play (server_serving _) hend
  exact (reconcile_retried_iff hexec).mpr (restored_guarded rfl (by decide) hmarks)

end TraefikRuntime

end NouvaAgent
