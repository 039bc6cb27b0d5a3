import Mathlib.Data.List.Chain
import NouvaAgent.AgentHistory
import NouvaAgent.WorkerReadiness

namespace NouvaAgent.WorkerReadinessInput

open Text Interaction Agent Method CandidateReadiness

def NeverBack (e : AgentEvent) (h : AgentHistory) : Prop :=
  ∀ time, e = ⟨.now, some time⟩ → ∀ earlier ∈ readings h, earlier ≤ time

abbrev looks (h : AgentHistory) : List DockerContainerInspection := h.flatMap shown

def restartsOf (inspection : DockerContainerInspection) : ℤ := inspection.restartCount.getD 0

def firstLook : AgentHistory → Option (ℤ × DockerContainerInspection)
  | [] => none
  | ⟨.request (.inspectContainer _), some (.ok (some inspection))⟩ :: h =>
    (firstLook h).or ((readings h).head?.map (·, inspection))
  | _ :: h => firstLook h

/-- What the event log told of the container's exits, and nothing where it could not be read. -/
def loggedExits : AgentHistory → ℕ
  | [] => 0
  | ⟨.request (.countContainerExits _ _ _), some (.ok exits)⟩ :: _ => exits
  | _ :: h => loggedExits h

structure Reckoning where
  baseline : ℤ
  recent : ℤ
  recovered : Bool

/-- What the container brings along, as configured: its recent restarts, with what its restart
count was when it was first seen, or the restarts before its start. -/
def reckoning (input : WorkerReadinessInput) (h : AgentHistory) : Reckoning :=
  match (firstLook h).filter fun _ => input.ignoreEarlierRestarts with
  | none => ⟨0, input.restartsBeforeStart, false⟩
  | some (time, inspection) => ⟨restartsOf inspection,
      min (readRestartCount inspection) (loggedExits h),
      hasOutlastedRestartLoop inspection time input.crashLoopRestartCount⟩

def Reckoning.counted (r : Reckoning) (inspection : DockerContainerInspection) : ℤ :=
  let observed := max 0 (restartsOf inspection - r.baseline)
  (if r.recovered ∧ observed = 0 then 0 else r.recent) + observed

/-- The look before the time `since` and every look after it found the container started, with no
more restarts than the look before. -/
def Steady (since : ℤ) (h : AgentHistory) : Prop :=
  ∃ seg first before, h = seg ++ ⟨.now, some since⟩ :: before ∧
    (looks before).head? = some first ∧
    (∀ inspection ∈ looks seg ++ [first], isStarted inspection) ∧
    (looks seg ++ [first]).IsChain fun later earlier => restartsOf later ≤ restartsOf earlier

def Ready (input : WorkerReadinessInput) (h : AgentHistory) : Prop :=
  if input.hasHealthcheck then
    ∃ inspection ∈ looks h, healthOf inspection = some "healthy" ∧ isStarted inspection
  else ∃ time since before, h = ⟨.now, some time⟩ :: before ∧
    Steady since before ∧ input.runningGraceMs ≤ time - since

def WithinDeadline (input : WorkerReadinessInput) (e : AgentEvent) (before : AgentHistory) :
    Prop :=
  ∀ name, e.call = .request (.inspectContainer name) →
    ∃ inspectedAt earlier started, before = ⟨.now, some inspectedAt⟩ :: earlier ∧
      firstReading earlier = some started ∧
      ∀ time ∈ readings earlier, time ≤ started + input.timeoutMs

section

variable {input : WorkerReadinessInput} {h : AgentHistory} {e : AgentEvent}

theorem looks_blind (he : Blind e.call) : looks (e :: h) = looks h := by
  rw [looks, List.flatMap_cons, shown_blind he, List.nil_append]

theorem Steady.blind {since : ℤ} (hs : Steady since h) (he : Blind e.call) :
    Steady since (e :: h) := by
  obtain ⟨seg, first, before, rfl, hfirst, hstarted, hchain⟩ := hs
  refine ⟨e :: seg, first, before, rfl, hfirst, ?_, ?_⟩
  · rwa [looks_blind he]
  · rwa [looks_blind he]

theorem Steady.begin {since : ℤ} {first : DockerContainerInspection}
    (hfirst : (looks h).head? = some first) (hstarted : isStarted first) :
    Steady since (⟨.now, some since⟩ :: h) := by
  refine ⟨[], first, h, rfl, hfirst, ?_, ?_⟩
  · simpa using hstarted
  · exact List.isChain_singleton first

theorem Steady.look {since : ℤ} {name : String} {inspection : DockerContainerInspection}
    (hs : Steady since h) (hstarted : isStarted inspection)
    (hle : ∀ older ∈ (looks h).head?, restartsOf inspection ≤ restartsOf older) :
    Steady since (⟨.request (.inspectContainer name), some (.ok (some inspection))⟩ :: h) := by
  obtain ⟨seg, first, before, rfl, hfirst, hall, hchain⟩ := hs
  have hlooks : looks (⟨.request (.inspectContainer name), some (.ok (some inspection))⟩ :: seg) =
      inspection :: looks seg := rfl
  have hhead : (looks (seg ++ ⟨.now, some since⟩ :: before)).head? =
      (looks seg ++ [first]).head? := by
    rw [looks, List.flatMap_append, List.head?_append, List.head?_append]
    exact congrArg ((looks seg).head?.or ·) hfirst
  refine ⟨_ :: seg, first, before, rfl, hfirst, ?_, ?_⟩
  · rw [hlooks, List.cons_append, List.forall_mem_cons]
    exact ⟨hstarted, hall⟩
  · rw [hlooks, List.cons_append, List.isChain_cons]
    exact ⟨hhead ▸ hle, hchain⟩

theorem firstLook_cons {first : ℤ × DockerContainerInspection} (hf : firstLook h = some first) :
    firstLook (e :: h) = some first := by
  unfold firstLook
  split
  case h_1 hnil => cases hnil
  case h_2 heq =>
    obtain ⟨-, rfl⟩ := List.cons.inj heq
    rw [hf, Option.some_or]
  case h_3 heq =>
    obtain ⟨-, rfl⟩ := List.cons.inj heq
    exact hf

theorem loggedExits_cons (he : ∀ id sinceMs untilMs, e.call ≠
    .request (.countContainerExits id sinceMs untilMs)) : loggedExits (e :: h) = loggedExits h := by
  rcases e with ⟨c, r⟩
  cases c with
  | request q =>
    cases q with
    | countContainerExits id sinceMs untilMs => exact absurd rfl (he id sinceMs untilMs)
    | _ => rfl
  | _ => rfl

theorem reckoning_cons (hfirst : input.ignoreEarlierRestarts = true → (firstLook h).isSome)
    (he : ∀ id sinceMs untilMs, e.call ≠
      .request (.countContainerExits id sinceMs untilMs)) :
    reckoning input (e :: h) = reckoning input h := by
  unfold reckoning
  rw [loggedExits_cons he]
  cases hignore : input.ignoreEarlierRestarts with
  | false => simp
  | true =>
    obtain ⟨first, hf⟩ := Option.isSome_iff_exists.mp (hfirst hignore)
    rw [hf, firstLook_cons hf]

def Idle : AgentCall → Prop
  | .request _ => False
  | _ => True

theorem Idle.blind {c : AgentCall} (hc : Idle c) : Blind c := by
  cases c with
  | request r => exact hc.elim
  | _ => trivial

theorem Idle.not_request {c : AgentCall} (hc : Idle c) (r : Request) : c ≠ .request r := by
  rintro rfl
  exact hc

theorem firstLook_idle (he : Idle e.call) : firstLook (e :: h) = firstLook h := by
  rcases e with ⟨c, r⟩
  cases c with
  | request q => exact he.elim
  | _ => rfl

inductive Known (input : WorkerReadinessInput) (state : WorkerReadinessState) (h : AgentHistory) :
    Prop
  | unseen (hignore : input.ignoreEarlierRestarts = true) (hlooks : looks h = [])
      (hfirst : firstLook h = none) (hexits : loggedExits h = 0)
      (hbaseline : state.restartBaseline = none)
  | seen (hfirst : input.ignoreEarlierRestarts = true → (firstLook h).isSome)
      (hbaseline : state.restartBaseline = some (reckoning input h).baseline)
      (hrecent : state.recentRestarts = (reckoning input h).recent)
      (hrecovered : state.recoveredFromRecentRestarts = (reckoning input h).recovered)

def BelowThreshold (input : WorkerReadinessInput) (h : AgentHistory) : Prop :=
  ∀ inspection ∈ looks h, (reckoning input h).counted inspection < input.crashLoopRestartCount

/-- What the wait remembers between two polls is what its looks have shown. -/
structure Tracked (input : WorkerReadinessInput) (state : WorkerReadinessState)
    (h : AgentHistory) : Prop where
  observed : state.observedRestartCount = (looks h).head?.map restartsOf
  running : ∀ since, state.runningSince = some since →
    input.hasHealthcheck = false ∧ Steady since h
  below : BelowThreshold input h
  known : Known input state h

theorem Known.idle {state : WorkerReadinessState} (hk : Known input state h) (he : Idle e.call) :
    Known input state (e :: h) := by
  have hexits : loggedExits (e :: h) = loggedExits h :=
    loggedExits_cons fun _ _ _ => he.not_request _
  cases hk with
  | unseen hignore hlooks hfirst hnone hbaseline =>
    exact .unseen hignore ((looks_blind he.blind).trans hlooks)
      ((firstLook_idle he).trans hfirst) (hexits.trans hnone) hbaseline
  | seen hfirst hbaseline hrecent hrecovered =>
    have hsame := reckoning_cons hfirst (e := e) fun _ _ _ => he.not_request _
    exact .seen (by rwa [firstLook_idle he]) (hsame ▸ hbaseline) (hsame ▸ hrecent)
      (hsame ▸ hrecovered)

theorem BelowThreshold.cons {state : WorkerReadinessState} (hb : BelowThreshold input h)
    (hk : Known input state h) (he : Blind e.call)
    (hc : ∀ id sinceMs untilMs, e.call ≠ .request (.countContainerExits id sinceMs untilMs)) :
    BelowThreshold input (e :: h) := by
  unfold BelowThreshold
  rw [looks_blind he]
  cases hk with
  | unseen _ hlooks => simp [hlooks]
  | seen hfirst =>
    rw [reckoning_cons hfirst hc]
    exact hb

theorem Tracked.idle {state : WorkerReadinessState} (ht : Tracked input state h)
    (he : Idle e.call) : Tracked input state (e :: h) where
  observed := (looks_blind he.blind).symm ▸ ht.observed
  running := fun since hs => ⟨(ht.running since hs).1, (ht.running since hs).2.blind he.blind⟩
  below := ht.below.cons ht.known he.blind fun _ _ _ => he.not_request _
  known := ht.known.idle he

theorem withinDeadline_cons (he : ∀ name, e.call ≠ .request (.inspectContainer name))
    (ht : Along (WithinDeadline input) h) : Along (WithinDeadline input) (e :: h) :=
  ⟨fun name hc => absurd hc (he name), ht⟩

variable {σ : Type}

def Counted (look h : AgentHistory) : Prop :=
  h = look ∨ ∃ id sinceMs untilMs answer,
    h = ⟨.request (.countContainerExits id sinceMs untilMs), answer⟩ :: look

theorem Counted.looks {look : AgentHistory} (hc : Counted look h) : looks h = looks look := by
  obtain rfl | ⟨_, _, _, _, rfl⟩ := hc
  · rfl
  · exact looks_blind trivial

theorem Counted.firstLook {look : AgentHistory} {first : ℤ × DockerContainerInspection}
    (hc : Counted look h) (hf : firstLook look = some first) : firstLook h = some first := by
  obtain rfl | ⟨_, _, _, _, rfl⟩ := hc
  · exact hf
  · exact firstLook_cons hf

theorem Counted.steady {look : AgentHistory} {since : ℤ} (hc : Counted look h)
    (hs : Steady since look) : Steady since h := by
  obtain rfl | ⟨_, _, _, _, rfl⟩ := hc
  · exact hs
  · exact hs.blind trivial

theorem Counted.withinDeadline {look : AgentHistory} (hc : Counted look h)
    (ht : Along (WithinDeadline input) look) : Along (WithinDeadline input) h := by
  obtain rfl | ⟨_, _, _, _, rfl⟩ := hc
  · exact ht
  · exact withinDeadline_cons (by simp) ht

theorem Counted.firstReading {look : AgentHistory} {started : ℤ} (hc : Counted look h)
    (hf : firstReading look = some started) : firstReading h = some started := by
  obtain rfl | ⟨_, _, _, _, rfl⟩ := hc
  · exact hf
  · exact firstReading_cons hf

theorem readRestartCount_nonneg (inspection : DockerContainerInspection) :
    0 ≤ readRestartCount inspection := le_max_left _ _

theorem countRecentRestarts_wp {F : AgentEvent → AgentHistory → Prop}
    {inspection : DockerContainerInspection} {untilMs : ℤ} {Q : Post Failure σ ℤ AgentHistory}
    (s : σ) (hexits : loggedExits h = 0) (hcut : ∀ h', Counted h h' → Q.cut h')
    (hok : ∀ h', Counted h h' →
      Q.ok (min (readRestartCount inspection) (loggedExits h')) s h') :
    (countRecentRestarts inspection untilMs).wp (assuming F) Q s h := by
  have hnone : min (readRestartCount inspection) (0 : ℤ) = 0 :=
    min_eq_right (readRestartCount_nonneg inspection)
  unfold countRecentRestarts
  dsimp only
  split
  case isTrue hzero =>
    have hsame := hok h (.inl rfl)
    rw [hexits, Nat.cast_zero, hnone] at hsame
    exact hsame
  case isFalse =>
    refine (wp_bind _ _).mpr ((wp_settle _).mpr ((wp_request_assuming _).mpr
      ⟨fun _ => hcut _ (.inr ⟨_, _, _, _, rfl⟩), fun e _ => ?_, fun exits _ => ?_⟩))
    · have hfailed := hok _ (.inr ⟨inspection.id, untilMs - recentExitWindowMs, untilMs,
        some (.error e), rfl⟩)
      have hstill : loggedExits (⟨.request (.countContainerExits inspection.id
          (untilMs - recentExitWindowMs) untilMs), some (.error e)⟩ :: h) = 0 := hexits
      rw [hstill, Nat.cast_zero, hnone] at hfailed
      exact hfailed
    · exact hok (⟨.request (.countContainerExits inspection.id (untilMs - recentExitWindowMs)
        untilMs), some (.ok exits)⟩ :: h) (.inr ⟨_, _, _, _, rfl⟩)

theorem readBaseline_wp {state : WorkerReadinessState} {inspection : DockerContainerInspection}
    {inspectedAt : ℤ} {name : String} {look : AgentHistory} (s : σ)
    (hlook : look = ⟨.request (.inspectContainer name), some (.ok (some inspection))⟩ :: h)
    (hat : (readings h).head? = some inspectedAt) (ht : Along (WithinDeadline input) look)
    (hb : BelowThreshold input h) (hk : Known input state h) :
    (input.readBaseline inspection inspectedAt (restartsOf inspection) state).wp
      (assuming NeverBack) (Post.keeping (Along (WithinDeadline input)) fun r h' =>
        Counted look h' ∧
        (input.ignoreEarlierRestarts = true → (firstLook h').isSome) ∧
        r.1 = (reckoning input h').baseline ∧
        r.2.runningSince = state.runningSince ∧
        r.2.observedRestartCount = state.observedRestartCount ∧
        r.2.restartBaseline = some (reckoning input h').baseline ∧
        r.2.recentRestarts = (reckoning input h').recent ∧
        r.2.recoveredFromRecentRestarts = (reckoning input h').recovered ∧
        ∀ earlier ∈ looks h,
          (reckoning input h').counted earlier < input.crashLoopRestartCount) s look := by
  cases hk with
  | seen hfirst hbaseline hrecent hrecovered =>
    have hsame : reckoning input look = reckoning input h :=
      hlook ▸ reckoning_cons hfirst (by simp)
    have hseen : input.ignoreEarlierRestarts = true → (firstLook look).isSome := fun hignore => by
      obtain ⟨first, hf⟩ := Option.isSome_iff_exists.mp (hfirst hignore)
      rw [hlook, firstLook_cons hf]
      rfl
    unfold readBaseline
    rw [hbaseline]
    exact ⟨ht, .inl rfl, hseen, hsame ▸ rfl, rfl, rfl, hsame ▸ hbaseline, hsame ▸ hrecent,
      hsame ▸ hrecovered, hsame ▸ hb⟩
  | unseen hignore hlooks hfirst hexits hbaseline =>
    have hseen : firstLook look = some (inspectedAt, inspection) := by
      rw [hlook, firstLook, hfirst, hat]
      rfl
    unfold readBaseline
    rw [hbaseline]
    refine (wp_bind _ _).mpr (countRecentRestarts_wp s ?_ (fun h' hc => hc.withinDeadline ht)
      fun h' hc => ?_)
    · rw [hlook]
      exact hexits
    · have hknown : reckoning input h' = ⟨restartsOf inspection,
          min (readRestartCount inspection) (loggedExits h'),
          hasOutlastedRestartLoop inspection inspectedAt input.crashLoopRestartCount⟩ := by
        unfold reckoning
        rw [hc.firstLook hseen, hignore]
        rfl
      refine ⟨hc.withinDeadline ht, hc, fun _ => ?_, ?_, rfl, rfl, ?_, ?_, ?_, ?_⟩
      · rw [hc.firstLook hseen]
        rfl
      · rw [hknown]
      · rw [hknown]
      · rw [hknown]
      · rw [hknown]
      · rw [hlooks]
        exact fun _ hmem => absurd hmem List.not_mem_nil

theorem judge_ok {inspection : DockerContainerInspection} {restartCount baseline : ℤ}
    {state state' : WorkerReadinessState}
    (hj : input.judge inspection restartCount baseline state = .ok state') :
    countedRestarts state (max 0 (restartCount - baseline)) < input.crashLoopRestartCount ∧
    state'.observedRestartCount = some restartCount ∧
    state'.restartBaseline = state.restartBaseline ∧
    state'.recentRestarts = state.recentRestarts ∧
    state'.recoveredFromRecentRestarts = state.recoveredFromRecentRestarts ∧
    ∀ since, state'.runningSince = some since → state.runningSince = some since ∧
      ∀ count ∈ state.observedRestartCount, restartCount ≤ count := by
  unfold judge at hj
  dsimp only at hj
  split at hj
  · cases hj
  · rename_i hbelow
    split at hj
    · cases hj
    · cases hj
      refine ⟨not_le.mp hbelow, rfl, rfl, rfl, rfl, fun since hsince => ?_⟩
      dsimp only at hsince
      split at hsince
      · cases hsince
      · rename_i hsame
        refine ⟨hsince, fun count hcount => ?_⟩
        rw [Option.mem_def.mp hcount] at hsame
        simpa using hsame

theorem settle_wp {inspection : DockerContainerInspection} {runningSince : Option ℤ} (s : σ)
    (ht : Along (WithinDeadline input) h) (hseen : (looks h).head? = some inspection)
    (hrunning : ∀ since, runningSince = some since → input.hasHealthcheck = false ∧
      (isStarted inspection → Steady since h)) :
    (input.settle inspection runningSince).wp (assuming NeverBack)
      (Post.keeping (Along (WithinDeadline input)) fun r h' =>
        (r.1 = true → Ready input h') ∧
        (∀ since, r.2 = some since → input.hasHealthcheck = false ∧ Steady since h') ∧
        ∃ ticks : AgentHistory, h' = ticks ++ h ∧ ∀ e ∈ ticks, Idle e.call) s h := by
  have hmem : inspection ∈ looks h := List.mem_of_head? hseen
  unfold settle
  split
  case isTrue hcheck =>
    refine ⟨ht, fun hready => ?_, fun since hsince => ?_, [], rfl, by simp⟩
    · rw [Bool.and_eq_true, decide_eq_true_eq] at hready
      unfold Ready
      rw [if_pos hcheck]
      exact ⟨inspection, hmem, hready⟩
    · have hoff := (hrunning since hsince).1
      rw [hcheck] at hoff
      cases hoff
  case isFalse hcheck =>
    have hoff : input.hasHealthcheck = false := Bool.not_eq_true _ ▸ hcheck
    split
    case isFalse =>
      refine ⟨ht, fun hready => ?_, fun since hsince => ?_, [], rfl, by simp⟩
      · cases hready
      · cases hsince
    case isTrue hstarted =>
      cases runningSince with
      | some since =>
        have hsteady := (hrunning since rfl).2 hstarted
        refine (wp_bind _ _).mpr (wp_now_assuming.mpr
          ⟨fun _ => withinDeadline_cons (by simp) ht, fun time _ => ?_⟩)
        refine ⟨withinDeadline_cons (by simp) ht, fun hready => ?_, fun since' hsince => ?_,
          [⟨.now, some time⟩], rfl, by simp [Idle]⟩
        · unfold Ready
          rw [if_neg hcheck]
          exact ⟨time, since, h, rfl, hsteady, of_decide_eq_true hready⟩
        · cases hsince
          exact ⟨hoff, hsteady.blind trivial⟩
      | none =>
        have hbegin : ∀ since, Steady since (⟨.now, some since⟩ :: h) :=
          fun since => Steady.begin hseen hstarted
        refine (wp_bind _ _).mpr (wp_now_assuming.mpr
          ⟨fun _ => withinDeadline_cons (by simp) ht, fun since _ => ?_⟩)
        refine (wp_bind _ _).mpr (wp_now_assuming.mpr
          ⟨fun _ => withinDeadline_cons (by simp) (withinDeadline_cons (by simp) ht),
            fun time _ => ?_⟩)
        refine ⟨withinDeadline_cons (by simp) (withinDeadline_cons (by simp) ht),
          fun hready => ?_, fun since' hsince => ?_,
          [⟨.now, some time⟩, ⟨.now, some since⟩], rfl, by simp [Idle]⟩
        · unfold Ready
          rw [if_neg hcheck]
          exact ⟨time, since, _, rfl, hbegin since, of_decide_eq_true hready⟩
        · cases hsince
          exact ⟨hoff, (hbegin since).blind trivial⟩

theorem Tracked.ticks {state : WorkerReadinessState} {ticks : AgentHistory}
    (ht : Tracked input state h) (hticks : ∀ e ∈ ticks, Idle e.call) :
    Tracked input state (ticks ++ h) := by
  induction ticks with
  | nil => exact ht
  | cons e ticks ih =>
    rw [List.forall_mem_cons] at hticks
    exact (ih hticks.2).idle hticks.1

def Sustained (input : WorkerReadinessInput) (h : AgentHistory) : Prop :=
  Ready input h ∧ BelowThreshold input h

theorem counted_eq {state : WorkerReadinessState} {r : Reckoning}
    (inspection : DockerContainerInspection) (hrecent : state.recentRestarts = r.recent)
    (hrecovered : state.recoveredFromRecentRestarts = r.recovered) :
    countedRestarts state (max 0 (restartsOf inspection - r.baseline)) = r.counted inspection := by
  unfold countedRestarts Reckoning.counted
  rw [hrecent, hrecovered]

theorem poll_wp {deadline started : ℤ} {state : WorkerReadinessState} (fuel : ℕ) (s : σ)
    (hdeadline : deadline = started + input.timeoutMs) (hstarted : firstReading h = some started)
    (ht : Along (WithinDeadline input) h) (htracked : Tracked input state h) :
    (input.poll deadline fuel state).wp (assuming NeverBack)
      (Post.keeping (Along (WithinDeadline input)) fun _ => Sustained input) s h := by
  induction fuel generalizing state h s with
  | zero => exact ht
  | succ fuel ih =>
    refine (wp_bind _ _).mpr (wp_now_assuming.mpr
      ⟨fun _ => withinDeadline_cons (by simp) ht, fun time htime => ?_⟩)
    have ht1 := withinDeadline_cons (e := ⟨.now, some time⟩) (by simp) ht
    dsimp only
    split
    case isFalse => exact ht1
    case isTrue hearly =>
      refine (wp_bind _ _).mpr (wp_now_assuming.mpr
        ⟨fun _ => withinDeadline_cons (by simp) ht1, fun inspectedAt _ => ?_⟩)
      have ht2 := withinDeadline_cons (e := ⟨.now, some inspectedAt⟩) (by simp) ht1
      have hlook : ∀ answer, Along (WithinDeadline input)
          (⟨.request (.inspectContainer input.containerName), answer⟩ ::
            ⟨.now, some inspectedAt⟩ :: ⟨.now, some time⟩ :: h) := by
        refine fun answer => ⟨fun name _ => ⟨inspectedAt, _, started, rfl,
          firstReading_cons hstarted, ?_⟩, ht2⟩
        show ∀ reading ∈ time :: readings h, reading ≤ started + input.timeoutMs
        rw [List.forall_mem_cons]
        exact ⟨hdeadline ▸ hearly, fun earlier hearlier =>
          (htime time rfl earlier hearlier).trans (hdeadline ▸ hearly)⟩
      refine (wp_bind _ _).mpr ((wp_request_assuming _).mpr
        ⟨fun _ => hlook _, fun e _ => hlook _, fun found _ => ?_⟩)
      cases found with
      | none => exact hlook _
      | some inspection =>
        dsimp only
        split
        case h_1 => exact hlook _
        have htracked2 := (htracked.idle (e := ⟨.now, some time⟩) trivial).idle
          (e := ⟨.now, some inspectedAt⟩) trivial
        refine wp_bind_of (readBaseline_wp s rfl rfl (hlook _) htracked2.below htracked2.known) ?_
        rintro ⟨baseline, state'⟩ s h' ⟨ht', hcounted, hseen, hbase, hsince, hobserved, hknown,
          hrecent, hrecovered, hbelow⟩
        have hlooks : looks h' = inspection :: looks h := hcounted.looks
        refine (wp_bind _ _).mpr ((wp_ofExcept _).mpr ⟨fun judged hjudge => ?_, fun _ _ => ht'⟩)
        obtain ⟨hcount, hobserved', hbase', hrecent', hrecovered', hrunning⟩ := judge_ok hjudge
        dsimp only at hbase hcount
        rw [hbase] at hcount
        have hsteady : ∀ since, judged.runningSince = some since →
            input.hasHealthcheck = false ∧ (isStarted inspection → Steady since h') := by
          intro since hrun
          obtain ⟨hrun', hle⟩ := hrunning since hrun
          obtain ⟨hoff, hs⟩ := htracked2.running since (hsince ▸ hrun')
          refine ⟨hoff, fun hstart => hcounted.steady (hs.look hstart fun older holder => ?_)⟩
          apply hle
          rw [hobserved, htracked2.observed, Option.mem_def.mp holder]
          rfl
        have hjudged : Tracked input { judged with runningSince := none } h' := by
          refine ⟨?_, fun since hrun => ?_, ?_, ?_⟩
          · rw [hlooks]
            exact hobserved'
          · cases hrun
          · unfold BelowThreshold
            rw [hlooks, List.forall_mem_cons]
            exact ⟨counted_eq inspection hrecent hrecovered ▸ hcount, hbelow⟩
          · exact .seen hseen (hbase'.trans hknown) (hrecent'.trans hrecent)
              (hrecovered'.trans hrecovered)
        refine wp_bind_of (settle_wp s ht' (hlooks ▸ rfl) hsteady) ?_
        rintro ⟨ready, runningSince⟩ s h4 ⟨ht4, hready, hrun4, ticks, rfl, hticks⟩
        have hnext : Tracked input { judged with runningSince } (ticks ++ h') :=
          ⟨(hjudged.ticks hticks).observed, hrun4, (hjudged.ticks hticks).below, by
            cases (hjudged.ticks hticks).known with
            | unseen h1 h2 h3 h4 h5 => exact .unseen h1 h2 h3 h4 h5
            | seen h1 h2 h3 h4 => exact .seen h1 h2 h3 h4⟩
        dsimp only
        split
        case isTrue hdone => exact ⟨ht4, hready hdone, hnext.below⟩
        case isFalse =>
          refine (wp_bind _ _).mpr ((wp_sleep_assuming _).mpr
            ⟨fun _ => withinDeadline_cons (by simp) ht4, fun _ => ?_⟩)
          have hslept := hnext.idle (e := ⟨.sleep input.intervalMs, some ()⟩) trivial
          refine ih s ?_ (withinDeadline_cons (by simp) ht4) hslept
          refine firstReading_cons (firstReading_append ticks (hcounted.firstReading ?_))
          exact firstReading_cons (firstReading_cons (firstReading_cons hstarted))

end

/-- On any clock that never goes back, whatever Docker answers: the worker is found ready only once
it was seen healthy, or started over the whole grace period, and at each look the restarts that
count were below the threshold; and no look begins once the clock has shown a time past the
deadline. -/
theorem waitForWorkerReadiness_sustained {σ : Type} (env : AgentEnvironment) (fuel : ℕ)
    (input : WorkerReadinessInput) (s : σ)
    (hclock : Along NeverBack ((waitForWorkerReadiness fuel input s).run env []).2) :
    (∀ s', ((waitForWorkerReadiness fuel input s).run env []).1 = .done (.ok (), s') →
      Ready input ((waitForWorkerReadiness fuel input s).run env []).2 ∧
      BelowThreshold input ((waitForWorkerReadiness fuel input s).run env []).2) ∧
    ∀ later e before, ((waitForWorkerReadiness fuel input s).run env []).2 =
      later ++ e :: before → WithinDeadline input e before := by
  have hwp : (waitForWorkerReadiness fuel input).wp (assuming NeverBack)
      (Post.keeping (Along (WithinDeadline input)) fun _ => Sustained input) s [] := by
    refine (wp_bind _ _).mpr (wp_now_assuming.mpr
      ⟨fun _ => withinDeadline_cons (by simp) trivial, fun started _ => ?_⟩)
    refine poll_wp fuel s rfl rfl (withinDeadline_cons (by simp) trivial)
      (Tracked.idle ⟨rfl, fun since hrun => ?_, fun _ hmem => ?_, ?_⟩ trivial)
    · cases hrun
    · cases hmem
    · cases hignore : input.ignoreEarlierRestarts with
      | true => exact .unseen hignore rfl rfl rfl (by simp [initial, hignore])
      | false =>
        refine .seen (fun h => ?_) ?_ rfl rfl
        · rw [hignore] at h
          cases h
        · simp [initial, hignore, reckoning, firstLook]
  have hrun := Program.wp_sound hwp (Program.run_exec env _ [] hclock)
  generalize (waitForWorkerReadiness fuel input s).run env [] = run at hrun
  obtain ⟨outcome, h⟩ := run
  have htimely : Along (WithinDeadline input) h := by
    rcases outcome with ⟨_ | _, _⟩ | _
    · exact hrun
    · exact hrun.1
    · exact hrun
  refine ⟨?_, along_iff.mp htimely⟩
  rintro s' rfl
  exact hrun.2

def runningWorker : AgentEnvironment where
  answer h
    | .request r => some (.ok (wellAnswer (fun name => some ⟨name, name, none, some 1,
        some ⟨some true, some "running", none, none, none, none, none⟩, none, none, none, none⟩)
        (.run 1) r))
    | .now => some ((readings h).foldr max 0 + 250)
    | .sleep _ => some ()
  pick _ := 0

theorem runningWorker_neverBack (h : AgentHistory) (c : AgentCall) :
    NeverBack ⟨c, runningWorker.answer h c⟩ h := by
  intro time he
  cases c with
  | now =>
    have htime : (readings h).foldr max 0 + 250 = time := by
      simpa [runningWorker] using he
    have hlatest : ∀ earlier ∈ readings h, earlier ≤ (readings h).foldr max 0 := by
      induction readings h with
      | nil => exact fun _ hmem => absurd hmem List.not_mem_nil
      | cons latest rest ih =>
        rw [List.forall_mem_cons]
        exact ⟨le_max_left _ _, fun earlier hmem => (ih earlier hmem).trans (le_max_right _ _)⟩
    intro earlier hmem
    have hle := hlatest earlier hmem
    omega
  | request r => cases congrArg Event.call he
  | sleep ms => cases congrArg Event.call he

def runningInput : WorkerReadinessInput where
  containerName := "worker"
  hasHealthcheck := false
  runningGraceMs := 1000

theorem waitForWorkerReadiness_sustained_running :
    ((waitForWorkerReadiness 5 runningInput ()).run runningWorker []).1 = .done (.ok (), ()) ∧
    Ready runningInput ((waitForWorkerReadiness 5 runningInput ()).run runningWorker []).2 ∧
    BelowThreshold runningInput
      ((waitForWorkerReadiness 5 runningInput ()).run runningWorker []).2 := by
  have hdone : ((waitForWorkerReadiness 5 runningInput ()).run runningWorker []).1 =
      .done (.ok (), ()) := by decide +kernel
  obtain ⟨hready, -⟩ := waitForWorkerReadiness_sustained runningWorker 5 runningInput ()
    (Program.run_along runningWorker_neverBack _ trivial)
  exact ⟨hdone, hready () hdone⟩

end NouvaAgent.WorkerReadinessInput
