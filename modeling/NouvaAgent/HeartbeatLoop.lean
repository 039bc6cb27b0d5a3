import Mathlib.Data.List.Basic
import Mathlib.Data.List.Count
import Mathlib.Data.Nat.Basic
import Mathlib.Logic.Relation
import NouvaAgent.Interaction.History

namespace NouvaAgent.HeartbeatLoop

open Interaction

inductive Race
  | undecided
  | settled (success : Bool)
  | exceeded

/-- A promise `work` whose callbacks have not run, with its outcome once it is settled. -/
structure Work where
  tick : ℕ
  outcome : Option Bool

structure Awaited where
  tick : ℕ
  race : Race

inductive Event
  | fired
  | began (tick : ℕ)
  | succeeded (tick : ℕ)
  | rejected (tick : ℕ)
  | failed (tick : ℕ)
  | skipped (tick : ℕ)
  | failureLimit
  deriving DecidableEq

/-- The loop's variables, the timers that are armed, the promises that it waits for, and what it has
seen so far, the latest first. `outside` says that `isStopped` has answered true. -/
structure State where
  failures : ℕ := 0
  skips : ℕ := 0
  stopped : Bool := false
  inFlight : Bool := false
  scheduled : Option ℕ := none
  started : Bool := false
  outside : Bool := false
  timers : List ℕ := []
  works : List Work := []
  awaited : List Awaited := []
  armed : ℕ := 0
  ticks : ℕ := 0
  log : List Event := []

namespace State

variable (s : State) (limit : ℕ)

def reschedule (isStopped : Bool) : State :=
  if s.stopped then s
  else if isStopped then { s with outside := true }
  else { s with scheduled := some s.armed, timers := s.timers ++ [s.armed], armed := s.armed + 1 }

def recordFailure (tick : ℕ) : State × Bool :=
  let failed := { s with failures := s.failures + 1, log := .failed tick :: s.log }
  if limit ≤ failed.failures then
    ({ failed with stopped := true, log := .failureLimit :: failed.log }, false)
  else (failed, true)

def recordSkip : State × Bool :=
  let skipped := { s with skips := s.skips + 1, log := .skipped (s.ticks - 1) :: s.log }
  if limit ≤ skipped.skips then
    ({ skipped with stopped := true, log := .failureLimit :: skipped.log }, false)
  else (skipped, true)

def runTick (isStopped isStoppedLater : Bool) : State :=
  if s.stopped then s
  else if isStopped then { s with outside := true }
  else if s.inFlight then
    let recorded := s.recordSkip limit
    if recorded.2 then recorded.1.reschedule isStoppedLater else recorded.1
  else { s with
    inFlight := true
    works := s.works ++ [⟨s.ticks, none⟩]
    awaited := s.awaited ++ [⟨s.ticks, .undecided⟩]
    ticks := s.ticks + 1
    log := .began s.ticks :: s.log }

def fire (timer : ℕ) (isStopped isStoppedLater : Bool) : State :=
  State.runTick { s with
    scheduled := none, timers := s.timers.erase timer, log := .fired :: s.log }
    limit isStopped isStoppedLater

def observe (tick : ℕ) (success : Bool) : State :=
  { s with
    inFlight := false
    skips := 0
    failures := if success then 0 else s.failures
    awaited := s.awaited.map fun waiting =>
      match waiting.race with
      | .undecided => if waiting.tick = tick then { waiting with race := .settled success } else waiting
      | _ => waiting
    log := (if success then .succeeded tick else .rejected tick) :: s.log }

def resume (tick : ℕ) (success isStopped : Bool) : State :=
  if success then State.reschedule { s with failures := 0, skips := 0 } isStopped
  else
    let recorded := s.recordFailure limit tick
    if recorded.2 then recorded.1.reschedule isStopped else recorded.1

def stop : State :=
  { s with stopped := true, timers := s.scheduled.elim s.timers s.timers.erase, scheduled := none }

end State

def Race.success? : Race → Option Bool
  | .undecided => none
  | .settled success => some success
  | .exceeded => some false

inductive Clock (limit : ℕ) : State → State → Prop
  | exceed {s : State} {before after : List Awaited} {tick : ℕ}
      (h : s.awaited = before ++ ⟨tick, .undecided⟩ :: after) :
      Clock limit s { s with awaited := before ++ ⟨tick, .exceeded⟩ :: after }
  | resume {s : State} {before after : List Awaited} {tick : ℕ} {race : Race} {success : Bool}
      (isStopped : Bool) (h : s.awaited = before ++ ⟨tick, race⟩ :: after)
      (hrace : race.success? = some success) :
      Clock limit s (State.resume { s with awaited := before ++ after } limit tick success isStopped)

inductive Step (limit : ℕ) : State → State → Prop
  | start {s : State} (isStopped : Bool) (h : s.started = false) :
      Step limit s (State.reschedule { s with started := true } isStopped)
  | stop (s : State) : Step limit s s.stop
  | fire {s : State} {timer : ℕ} (isStopped isStoppedLater : Bool) (h : timer ∈ s.timers) :
      Step limit s (s.fire limit timer isStopped isStoppedLater)
  | settle {s : State} {before after : List Work} {tick : ℕ} (success : Bool)
      (h : s.works = before ++ ⟨tick, none⟩ :: after) :
      Step limit s { s with works := before ++ ⟨tick, some success⟩ :: after }
  | observe {s : State} {before after : List Work} {tick : ℕ} {success : Bool}
      (h : s.works = before ++ ⟨tick, some success⟩ :: after) :
      Step limit s (State.observe { s with works := before ++ after } tick success)
  | clock {s s' : State} (h : Clock limit s s') : Step limit s s'

inductive Reachable (limit : ℕ) : State → Prop
  | initial : Reachable limit {}
  | step {s s' : State} (h : Reachable limit s) (hs : Step limit s s') : Reachable limit s'

def Event.isSuccess : Event → Bool
  | .succeeded _ => true
  | _ => false

def Event.isFailure : Event → Bool
  | .failed _ => true
  | _ => false

def failuresSince : List Event → ℕ
  | [] => 0
  | e :: log =>
    if e.isSuccess then 0
    else if e.isFailure then failuresSince log + 1
    else failuresSince log

/-- The latest skips, if they are of this tick. -/
def skipsSince (tick : ℕ) : List Event → ℕ
  | .skipped t :: log => if t = tick then skipsSince tick log + 1 else 0
  | .fired :: log => skipsSince tick log
  | .failureLimit :: log => skipsSince tick log
  | _ => 0

def firesSince (tick : ℕ) : List Event → ℕ
  | [] => 0
  | .began t :: log => if t = tick then 0 else firesSince tick log
  | .fired :: log => firesSince tick log + 1
  | _ :: log => firesSince tick log

/-- The failure limit is reached by consecutive failures, or by consecutive skips of one tick that
is still not settled as far as the loop knows. -/
def LimitReached (limit : ℕ) (log : List Event) : Prop :=
  (∃ recent older, log = recent ++ older ∧ (∀ e ∈ recent, e.isSuccess = false) ∧
    limit ≤ recent.countP Event.isFailure) ∨
  ∃ tick recent older, log = recent ++ older ∧ (∀ e ∈ recent, e = .fired ∨ e = .skipped tick) ∧
    limit ≤ recent.count (.skipped tick) ∧ .succeeded tick ∉ log ∧ .rejected tick ∉ log

structure Core (limit : ℕ) (s : State) : Prop where
  inFlight : s.inFlight = !s.works.isEmpty
  oneWork : s.works.length ≤ 1
  timers : s.timers = s.scheduled.toList
  atMost : s.timers.length + s.awaited.length ≤ 1
  unstarted : s.started = false → s.timers = [] ∧ s.awaited = []
  quiet : s.stopped = true → s.timers = []
  latest : ∀ w ∈ s.works,
    w.tick + 1 = s.ticks ∧ .succeeded w.tick ∉ s.log ∧ .rejected w.tick ∉ s.log
  settledTicks : ∀ t, .succeeded t ∈ s.log ∨ .rejected t ∈ s.log → t < s.ticks
  awaitedSkips : s.awaited ≠ [] → s.skips = 0
  awaitedSuccess : ∀ a ∈ s.awaited, a.race = .settled true → s.failures = 0
  failures : s.failures = failuresSince s.log
  noSkips : s.works = [] → s.skips = 0
  skips : ∀ w ∈ s.works, s.skips = skipsSince w.tick s.log
  fires : ∀ w ∈ s.works, s.outside = false → s.skips = firesSince w.tick s.log
  reached : .failureLimit ∈ s.log → s.stopped = true ∧ s.awaited = []
  below : .failureLimit ∉ s.log → s.skips < max limit 1
  once : s.log.count .failureLimit ≤ 1
  justified : Each (fun e before => e = .failureLimit → LimitReached limit before) s.log

def Kept (s : State) : Prop :=
  s.started = true → s.stopped = false → s.outside = false →
    s.timers.length + s.awaited.length = 1

section

variable {limit : ℕ} {s s' : State}

theorem failuresSince_eq (log : List Event) : ∃ recent older, log = recent ++ older ∧
    (∀ e ∈ recent, e.isSuccess = false) ∧ failuresSince log = recent.countP Event.isFailure := by
  induction log with
  | nil => exact ⟨[], [], rfl, nofun, rfl⟩
  | cons e log ih =>
    obtain ⟨recent, older, rfl, hnone, hcount⟩ := ih
    by_cases hs : e.isSuccess
    · exact ⟨[], _, rfl, nofun, by rw [failuresSince, if_pos hs]; rfl⟩
    · refine ⟨e :: recent, older, rfl, ?_, ?_⟩
      · simpa [hs] using hnone
      · rw [failuresSince, if_neg hs, hcount, List.countP_cons]
        split <;> rfl

theorem skipsSince_eq (tick : ℕ) {log : List Event} (h : .failureLimit ∉ log) :
    ∃ recent older, log = recent ++ older ∧ (∀ e ∈ recent, e = .fired ∨ e = .skipped tick) ∧
      skipsSince tick log = recent.count (.skipped tick) := by
  induction log with
  | nil => exact ⟨[], [], rfl, nofun, rfl⟩
  | cons e log ih =>
    rw [List.mem_cons, not_or] at h
    obtain ⟨recent, older, hlog, hall, hcount⟩ := ih h.2
    cases e with
    | fired =>
      refine ⟨.fired :: recent, older, by rw [hlog]; rfl, ?_, ?_⟩
      · simpa using hall
      · rw [skipsSince, hcount, List.count_cons_of_ne (by simp)]
    | skipped t =>
      by_cases ht : t = tick
      · subst ht
        refine ⟨.skipped t :: recent, older, by rw [hlog]; rfl, ?_, ?_⟩
        · simpa using hall
        · rw [skipsSince, if_pos rfl, hcount, List.count_cons_self]
      · exact ⟨[], _, rfl, nofun, by rw [skipsSince, if_neg ht]; rfl⟩
    | failureLimit => exact absurd rfl h.1
    | began t => exact ⟨[], _, rfl, nofun, rfl⟩
    | succeeded t => exact ⟨[], _, rfl, nofun, rfl⟩
    | rejected t => exact ⟨[], _, rfl, nofun, rfl⟩
    | failed t => exact ⟨[], _, rfl, nofun, rfl⟩

theorem Core.unreached (h : Core limit s) (hs : s.timers ≠ [] ∨ s.awaited ≠ []) :
    .failureLimit ∉ s.log := by
  intro hmem
  obtain ⟨hstopped, hawaited⟩ := h.reached hmem
  rcases hs with hs | hs
  · exact hs (h.quiet hstopped)
  · exact hs hawaited

theorem Core.reschedule (h : Core limit s) (ht : s.timers = []) (ha : s.awaited = [])
    (hs : s.started = true) (isStopped : Bool) :
    Core limit (s.reschedule isStopped) ∧ Kept (s.reschedule isStopped) := by
  unfold State.reschedule
  split
  · next hstopped => exact ⟨h, fun _ hno => absurd hno (by simp [hstopped])⟩
  · next hstopped =>
    split
    · exact ⟨{ h with fires := fun _ _ hno => nomatch hno }, fun _ _ hno => nomatch hno⟩
    · refine ⟨{ h with
        timers := by simp [ht]
        atMost := by simp [ht, ha]
        unstarted := fun hno => absurd (hs.symm.trans hno) (by simp)
        quiet := fun hstop => absurd hstop hstopped }, fun _ _ _ => by simp [ht, ha]⟩

theorem Core.recordFailure (h : Core limit s) (ht : s.timers = []) (ha : s.awaited = [])
    (hno : .failureLimit ∉ s.log) (hskips : s.skips = 0) (tick : ℕ) :
    Core limit (s.recordFailure limit tick).1 := by
  have hfailures : s.failures + 1 = failuresSince (.failed tick :: s.log) := by
    rw [h.failures]
    rfl
  have hno' : .failureLimit ∉ Event.failed tick :: s.log := by simpa using hno
  have hrecorded : Core limit
      { s with failures := s.failures + 1, log := .failed tick :: s.log } :=
    { h with
      latest := fun w hw => by simpa using h.latest w hw
      settledTicks := fun t hmem => h.settledTicks t (by simpa using hmem)
      awaitedSuccess := fun a hmem => by simp [ha] at hmem
      failures := hfailures
      skips := fun w hw => hskips
      fires := h.fires
      reached := fun hmem => absurd hmem hno'
      below := fun _ => h.below hno
      once := by simp [h.once]
      justified := each_cons.mpr ⟨nofun, h.justified⟩ }
  unfold State.recordFailure
  dsimp only
  split
  · next hlimit =>
    have hjust : LimitReached limit (.failed tick :: s.log) := by
      obtain ⟨recent, older, hlog, hnone, hcount⟩ := failuresSince_eq (.failed tick :: s.log)
      exact .inl ⟨recent, older, hlog, hnone, by omega⟩
    exact { hrecorded with
      quiet := fun _ => ht
      latest := fun w hw => by simpa using h.latest w hw
      settledTicks := fun t hmem => h.settledTicks t (by simpa using hmem)
      failures := hfailures
      skips := fun w hw => hskips
      fires := h.fires
      reached := fun _ => ⟨rfl, ha⟩
      below := fun hnot => absurd List.mem_cons_self hnot
      once := by simp [List.count_eq_zero.mpr hno]
      justified := each_cons.mpr ⟨fun _ => hjust, hrecorded.justified⟩ }
  · exact hrecorded

def State.fired (s : State) : State :=
  { s with scheduled := none, timers := [], log := .fired :: s.log }

theorem Core.fired (h : Core limit s) (hf : s.works = [] ∨ s.outside = true) :
    Core limit s.fired :=
  { h with
    timers := rfl
    atMost := by
      have := h.atMost
      simp only [State.fired, List.length_nil]
      omega
    unstarted := fun hno => ⟨rfl, (h.unstarted hno).2⟩
    quiet := fun _ => rfl
    latest := fun w hw => by simpa [State.fired] using h.latest w hw
    settledTicks := fun t hmem => h.settledTicks t (by simpa [State.fired] using hmem)
    failures := h.failures
    skips := h.skips
    fires := fun w hw hno => by
      rcases hf with hf | hf
      · exact absurd hw (by simp [State.fired, hf])
      · exact absurd (hf.symm.trans hno) (by simp)
    reached := fun hmem => h.reached (by simpa [State.fired] using hmem)
    below := fun hmem => h.below (by simpa [State.fired] using hmem)
    once := by simpa [State.fired] using h.once
    justified := each_cons.mpr ⟨nofun, h.justified⟩ }

theorem Core.recordSkip {w : Work} (h : Core limit s) (ha : s.awaited = [])
    (hno : .failureLimit ∉ s.log) (hw : w ∈ s.works) :
    Core limit (s.fired.recordSkip limit).1 := by
  have hlatest := h.latest w hw
  have htick : s.ticks - 1 = w.tick := by omega
  have honly : ∀ w' ∈ s.works, w'.tick = w.tick := by
    intro w' hw'
    have := (h.latest w' hw').1
    omega
  have hskips : ∀ w' ∈ s.works,
      s.skips + 1 = skipsSince w'.tick (.skipped w.tick :: .fired :: s.log) := by
    intro w' hw'
    rw [skipsSince, if_pos (honly w' hw').symm, skipsSince, h.skips w' hw']
  have hno' : .failureLimit ∉ Event.skipped w.tick :: .fired :: s.log := by simpa using hno
  have hother : ∀ w' ∈ s.works, .succeeded w'.tick ∉ Event.skipped w.tick :: .fired :: s.log ∧
      .rejected w'.tick ∉ Event.skipped w.tick :: .fired :: s.log := by
    intro w' hw'
    simpa using (h.latest w' hw').2
  have hjust : Each (fun e before => e = .failureLimit → LimitReached limit before)
      (.skipped w.tick :: .fired :: s.log) :=
    each_cons.mpr ⟨nofun, each_cons.mpr ⟨nofun, h.justified⟩⟩
  have hfires : ∀ w' ∈ s.works, s.outside = false →
      s.skips + 1 = firesSince w'.tick (.skipped w.tick :: .fired :: s.log) := by
    intro w' hw' hinside
    rw [h.fires w' hw' hinside]
    rfl
  have hnotNone : s.works ≠ [] := List.ne_nil_of_mem hw
  have hsettled : ∀ t, .succeeded t ∈ Event.skipped w.tick :: .fired :: s.log ∨
      .rejected t ∈ Event.skipped w.tick :: .fired :: s.log → t < s.ticks := by
    intro t hmem
    exact h.settledTicks t (by simpa using hmem)
  have hlen : ([] : List ℕ).length + s.awaited.length ≤ 1 := by simp [ha]
  unfold State.recordSkip State.fired
  dsimp only
  rw [htick]
  split
  · next hlimit =>
    have hreached : LimitReached limit (.skipped w.tick :: .fired :: s.log) := by
      obtain ⟨recent, older, hlog, hall, hcount⟩ := skipsSince_eq w.tick hno'
      refine .inr ⟨w.tick, recent, older, hlog, hall, ?_, hother w hw⟩
      rw [← hcount, ← hskips w hw]
      exact hlimit
    exact { h with
      timers := rfl
      atMost := hlen
      unstarted := fun _ => ⟨rfl, ha⟩
      quiet := fun _ => rfl
      latest := fun w' hw' => ⟨(h.latest w' hw').1, by simpa using (hother w' hw')⟩
      settledTicks := fun t hmem => hsettled t (by simpa using hmem)
      awaitedSkips := fun hne => absurd ha hne
      failures := h.failures
      noSkips := fun hnone => absurd hnone hnotNone
      skips := hskips
      fires := hfires
      reached := fun _ => ⟨rfl, ha⟩
      below := fun hnot => absurd List.mem_cons_self hnot
      once := by simp [List.count_eq_zero.mpr hno]
      justified := each_cons.mpr ⟨fun _ => hreached, hjust⟩ }
  · next hlimit =>
    exact { h with
      timers := rfl
      atMost := hlen
      unstarted := fun _ => ⟨rfl, ha⟩
      quiet := fun _ => rfl
      latest := fun w' hw' => ⟨(h.latest w' hw').1, hother w' hw'⟩
      settledTicks := hsettled
      awaitedSkips := fun hne => absurd ha hne
      failures := h.failures
      noSkips := fun hnone => absurd hnone hnotNone
      skips := hskips
      fires := hfires
      reached := fun hmem => absurd hmem hno'
      below := fun _ => lt_of_lt_of_le (Nat.lt_of_not_le hlimit) (le_max_left _ _)
      once := by simpa using h.once
      justified := hjust }

theorem Core.begin (h : Core limit s) (ha : s.awaited = []) (hs : s.started = true)
    (hno : .failureLimit ∉ s.log) (hw : s.works = []) (hstopped : s.stopped = false)
    (isStoppedLater : Bool) :
    Core limit (s.fired.runTick limit false isStoppedLater) ∧
      Kept (s.fired.runTick limit false isStoppedLater) := by
  have hflight : s.inFlight = false := by simp [h.inFlight, hw]
  unfold State.runTick State.fired
  simp only [hstopped, hflight, hw, ha, Bool.false_eq_true, ↓reduceIte, List.nil_append]
  refine ⟨?_, fun _ _ _ => rfl⟩
  have hskips : s.skips = 0 := h.noSkips hw
  have hnew : .succeeded s.ticks ∉ s.log ∧ .rejected s.ticks ∉ s.log := by
    constructor
    · exact fun hmem => absurd (h.settledTicks _ (.inl hmem)) (by simp)
    · exact fun hmem => absurd (h.settledTicks _ (.inr hmem)) (by simp)
  exact { h with
    inFlight := rfl
    oneWork := le_refl _
    timers := rfl
    atMost := le_refl _
    unstarted := fun hnot => absurd (hs.symm.trans hnot) (by simp)
    quiet := fun _ => rfl
    latest := fun w hmem => by
      rw [List.mem_singleton] at hmem
      subst hmem
      exact ⟨rfl, by simpa using hnew⟩
    settledTicks := fun t hmem => Nat.lt_succ_of_lt (h.settledTicks t (by simpa using hmem))
    awaitedSkips := fun _ => hskips
    awaitedSuccess := fun a hmem hrace => by
      rw [List.mem_singleton] at hmem
      subst hmem
      exact nomatch hrace
    failures := h.failures
    noSkips := fun hnone => nomatch hnone
    skips := fun _ _ => hskips
    fires := fun w hmem _ => by
      rw [List.mem_singleton] at hmem
      subst hmem
      rw [firesSince, if_pos rfl]
      exact hskips
    reached := fun hmem => absurd hmem (by simpa using hno)
    below := fun _ => h.below hno
    once := by simpa using h.once
    justified := each_cons.mpr ⟨nofun, each_cons.mpr ⟨nofun, h.justified⟩⟩ }

theorem Core.runTick (h : Core limit s) (ha : s.awaited = []) (hs : s.started = true)
    (hno : .failureLimit ∉ s.log) (hstopped : s.stopped = false) (isStopped isStoppedLater : Bool) :
    Core limit (s.fired.runTick limit isStopped isStoppedLater) ∧
      Kept (s.fired.runTick limit isStopped isStoppedLater) := by
  have hgoing : s.fired.stopped = false := hstopped
  cases isStopped with
  | true =>
    have hout : Core limit { s with outside := true } :=
      { h with fires := fun _ _ hinside => nomatch hinside }
    rw [State.runTick, if_neg (by simp [hgoing]), if_pos rfl]
    exact ⟨hout.fired (.inr rfl), fun _ _ hinside => nomatch hinside⟩
  | false =>
    by_cases hw : s.works = []
    · exact h.begin ha hs hno hw hstopped isStoppedLater
    · obtain ⟨w, hmem⟩ := List.exists_mem_of_ne_nil _ hw
      have hskipped := h.recordSkip ha hno hmem
      have hflight : s.fired.inFlight = true := by simp [State.fired, h.inFlight, hw]
      rw [State.runTick, hgoing, hflight]
      simp only [Bool.false_eq_true, ↓reduceIte]
      by_cases hlimit : limit ≤ s.skips + 1
      · have hdone : s.fired.recordSkip limit = ((s.fired.recordSkip limit).1, false) := by
          simp [State.recordSkip, State.fired, hlimit]
        rw [hdone]
        refine ⟨hskipped, fun _ hnot => ?_⟩
        simp [State.recordSkip, State.fired, hlimit] at hnot
      · have hon : s.fired.recordSkip limit = ((s.fired.recordSkip limit).1, true) := by
          simp [State.recordSkip, State.fired, hlimit]
        rw [hon]
        apply hskipped.reschedule
        · simp [State.recordSkip, State.fired, hlimit]
        · simp [State.recordSkip, State.fired, hlimit, ha]
        · simp [State.recordSkip, State.fired, hlimit, hs]

theorem Core.resume (h : Core limit s) (ht : s.timers = []) (ha : s.awaited = [])
    (hs : s.started = true) (hno : .failureLimit ∉ s.log) (hskips : s.skips = 0) (tick : ℕ)
    {success : Bool} (hsuccess : success = true → s.failures = 0) (isStopped : Bool) :
    Core limit (s.resume limit tick success isStopped) ∧
      Kept (s.resume limit tick success isStopped) := by
  cases success with
  | true =>
    have hsame : { s with failures := 0, skips := 0 } = s := by
      have hfailures := hsuccess rfl
      cases s
      simp_all
    rw [State.resume, if_pos rfl, hsame]
    exact h.reschedule ht ha hs isStopped
  | false =>
    have hrecorded := h.recordFailure ht ha hno hskips tick
    rw [State.resume, if_neg Bool.false_ne_true]
    dsimp only
    by_cases hlimit : limit ≤ s.failures + 1
    · have hdone : s.recordFailure limit tick = ((s.recordFailure limit tick).1, false) := by
        simp [State.recordFailure, hlimit]
      rw [hdone]
      refine ⟨hrecorded, fun _ hnot => ?_⟩
      simp [State.recordFailure, hlimit] at hnot
    · have hon : s.recordFailure limit tick = ((s.recordFailure limit tick).1, true) := by
        simp [State.recordFailure, hlimit]
      rw [hon]
      apply hrecorded.reschedule
      · simp [State.recordFailure, hlimit, ht]
      · simp [State.recordFailure, hlimit, ha]
      · simp [State.recordFailure, hlimit, hs]

theorem Core.observe {w : Work} {success : Bool} (h : Core limit s) (hw : s.works = [w]) :
    Core limit (State.observe { s with works := [] } w.tick success) := by
  have htick : w.tick + 1 = s.ticks := (h.latest w (by simp [hw])).1
  have hlength : (State.observe { s with works := [] } w.tick success).awaited.length =
      s.awaited.length := List.length_map ..
  have hnone : (State.observe { s with works := [] } w.tick success).awaited = [] ↔
      s.awaited = [] := List.map_eq_nil_iff
  have hevent : (if success then Event.succeeded w.tick else .rejected w.tick) ≠ .failureLimit := by
    cases success <;> simp
  have hlimit : .failureLimit ∈ (State.observe { s with works := [] } w.tick success).log ↔
      .failureLimit ∈ s.log := by
    simp [State.observe, hevent.symm]
  have hzero : s.failures = 0 →
      (State.observe { s with works := [] } w.tick success).failures = 0 := by
    intro hs
    cases success <;> simp [State.observe, hs]
  exact { h with
    inFlight := rfl
    oneWork := Nat.zero_le _
    atMost := by
      rw [hlength]
      exact h.atMost
    unstarted := fun hnot => ⟨(h.unstarted hnot).1, hnone.mpr (h.unstarted hnot).2⟩
    latest := nofun
    settledTicks := fun t hmem => by
      by_cases ht : t = w.tick
      · rw [ht]
        exact Nat.lt_of_succ_le (le_of_eq htick)
      · apply h.settledTicks t
        cases success <;> simpa [State.observe, ht] using hmem
    awaitedSkips := fun _ => rfl
    awaitedSuccess := fun a hmem hrace => by
      obtain ⟨b, hb, rfl⟩ := List.mem_map.mp hmem
      obtain ⟨tick, race⟩ := b
      cases race with
      | undecided =>
        dsimp only at hrace
        split at hrace
        · cases success with
          | true => rfl
          | false => exact nomatch hrace
        · exact nomatch hrace
      | settled success' => exact hzero (h.awaitedSuccess _ hb hrace)
      | exceeded => exact nomatch hrace
    failures := by
      have hf := h.failures
      cases success with
      | true => rfl
      | false => exact hf
    noSkips := fun _ => rfl
    skips := nofun
    fires := nofun
    reached := fun hmem => ⟨(h.reached (hlimit.mp hmem)).1, hnone.mpr (h.reached (hlimit.mp hmem)).2⟩
    below := fun _ => lt_of_lt_of_le Nat.zero_lt_one (le_max_right _ _)
    once := by
      have := h.once
      simp only [State.observe]
      rwa [List.count_cons_of_ne hevent]
    justified := each_cons.mpr ⟨fun he => absurd he hevent, h.justified⟩ }

theorem Core.stop (h : Core limit s) : Core limit s.stop := by
  have htimers : s.stop.timers = [] := by
    have := h.timers
    cases hsched : s.scheduled with
    | none => simpa [State.stop, hsched] using this
    | some timer => simp [State.stop, hsched, this]
  exact { h with
    timers := htimers
    atMost := by
      rw [htimers]
      have := h.atMost
      simp only [State.stop, List.length_nil]
      omega
    unstarted := fun hnot => ⟨htimers, (h.unstarted hnot).2⟩
    quiet := fun _ => htimers
    reached := fun hmem => ⟨rfl, (h.reached hmem).2⟩ }

theorem Core.settle {before after : List Work} {tick : ℕ} (h : Core limit s) (success : Bool)
    (hw : s.works = before ++ ⟨tick, none⟩ :: after) :
    Core limit { s with works := before ++ ⟨tick, some success⟩ :: after } := by
  obtain ⟨hone, rfl, rfl⟩ := eq_singleton h.oneWork hw
  have hmem : (⟨tick, none⟩ : Work) ∈ s.works := by simp [hone]
  exact { h with
    inFlight := by simp [h.inFlight, hone]
    oneWork := le_refl _
    latest := by simpa using h.latest _ hmem
    noSkips := nofun
    skips := by simpa using h.skips _ hmem
    fires := by simpa using h.fires _ hmem }

theorem Race.success?_true {race : Race} (h : race.success? = some true) : race = .settled true := by
  cases race with
  | undecided => exact nomatch h
  | settled success => rw [Option.some.inj h]
  | exceeded => exact nomatch h

theorem Clock.inv (h : Core limit s) (hs : Clock limit s s') : Core limit s' ∧ Kept s' := by
  cases hs with
  | @exceed before after tick ha =>
    have hmost := h.atMost
    obtain ⟨hone, rfl, rfl⟩ := eq_singleton (by omega) ha
    have ht : s.timers = [] := by simpa [hone] using hmost
    have hno := h.unreached (.inr (by simp [hone]))
    have hcore : Core limit { s with awaited := [] ++ ⟨tick, .exceeded⟩ :: [] } :=
      { h with
        atMost := by simp [ht]
        unstarted := fun hnot => absurd (h.unstarted hnot).2 (by simp [hone])
        awaitedSkips := fun _ => h.awaitedSkips (by simp [hone])
        awaitedSuccess := fun a hmem hrace => by
          simp only [List.nil_append, List.mem_singleton] at hmem
          subst hmem
          exact nomatch hrace
        reached := fun hmem => absurd hmem hno }
    exact ⟨hcore, fun _ _ _ => by simp [ht]⟩
  | @resume before after tick race success isStopped ha hrace =>
    have hmost := h.atMost
    obtain ⟨hone, rfl, rfl⟩ := eq_singleton (by omega) ha
    have ht : s.timers = [] := by simpa [hone] using hmost
    have hno := h.unreached (.inr (by simp [hone]))
    have hstarted : s.started = true := by
      by_contra hnot
      rw [Bool.not_eq_true] at hnot
      exact absurd (h.unstarted hnot).2 (by simp [hone])
    have hcore : Core limit { s with awaited := [] } :=
      { h with
        atMost := by simp [ht]
        unstarted := fun _ => ⟨ht, rfl⟩
        awaitedSkips := fun hne => absurd rfl hne
        awaitedSuccess := nofun
        reached := fun hmem => absurd hmem hno }
    have hsuccess : success = true → s.failures = 0 := by
      rintro rfl
      have hsettled := Race.success?_true hrace
      exact h.awaitedSuccess ⟨tick, race⟩ (by simp [hone]) hsettled
    exact hcore.resume ht rfl hstarted hno (h.awaitedSkips (by simp [hone])) tick hsuccess isStopped

theorem Core.fire {timer : ℕ} (h : Core limit s) (hm : timer ∈ s.timers)
    (isStopped isStoppedLater : Bool) :
    Core limit (s.fire limit timer isStopped isStoppedLater) ∧
      Kept (s.fire limit timer isStopped isStoppedLater) := by
  have hmost := h.atMost
  have hpos := List.length_pos_of_mem hm
  obtain ⟨only, hone⟩ := List.length_eq_one_iff.mp (by omega : s.timers.length = 1)
  have ha : s.awaited = [] := List.length_eq_zero_iff.mp (by omega)
  have hnone : s.timers.erase timer = [] := by
    rw [hone, List.mem_singleton] at hm
    simp [hone, hm]
  have hstopped : s.stopped = false := by
    by_contra hnot
    rw [Bool.not_eq_false] at hnot
    exact absurd (h.quiet hnot) (by simp [hone])
  have hstarted : s.started = true := by
    by_contra hnot
    rw [Bool.not_eq_true] at hnot
    exact absurd (h.unstarted hnot).1 (by simp [hone])
  have hno := h.unreached (.inl (by simp [hone]))
  unfold State.fire
  rw [hnone]
  exact h.runTick ha hstarted hno hstopped isStopped isStoppedLater

theorem inv_step (h : Core limit s ∧ Kept s) (hs : Step limit s s') : Core limit s' ∧ Kept s' := by
  obtain ⟨h, hkept⟩ := h
  cases hs with
  | start isStopped hnot =>
    obtain ⟨ht, ha⟩ := h.unstarted hnot
    have hstarted : Core limit { s with started := true } :=
      { h with unstarted := fun _ => ⟨ht, ha⟩ }
    exact hstarted.reschedule ht ha rfl isStopped
  | stop => exact ⟨h.stop, fun _ hnot => nomatch hnot⟩
  | fire isStopped isStoppedLater hm => exact h.fire hm isStopped isStoppedLater
  | settle success hw => exact ⟨h.settle success hw, hkept⟩
  | @observe before after tick success hw =>
    obtain ⟨hone, rfl, rfl⟩ := eq_singleton h.oneWork hw
    refine ⟨h.observe hone, fun h₁ h₂ h₃ => ?_⟩
    have hlength : (State.observe { s with works := [] } tick success).awaited.length =
        s.awaited.length := List.length_map ..
    rw [← hkept h₁ h₂ h₃, ← hlength]
    rfl
  | clock hc => exact hc.inv h

theorem inv_initial : Core limit {} ∧ Kept {} := by
  refine ⟨?_, fun hnot => nomatch hnot⟩
  constructor
  case below => exact fun _ => lt_of_lt_of_le Nat.zero_lt_one (le_max_right _ _)
  case justified => exact each_nil _
  case settledTicks => simp
  all_goals simp [failuresSince]

theorem Reachable.inv (h : Reachable limit s) : Core limit s ∧ Kept s := by
  induction h with
  | initial => exact inv_initial
  | step _ hs ih => exact inv_step ih hs

theorem resume_rearms (limit : ℕ) (h : s.timers = []) (hstopped : s.stopped = false) (tick : ℕ)
    (success : Bool) {s' : State}
    (hs' : s' = State.resume { s with awaited := [] } limit tick success false) :
    s'.awaited = [] ∧ (s'.timers.length = 1 ∨ .failureLimit ∈ s'.log) := by
  subst hs'
  cases success with
  | true => simp [State.resume, State.reschedule, h, hstopped]
  | false =>
    by_cases hlimit : limit ≤ s.failures + 1
    · simp [State.resume, State.recordFailure, hlimit]
    · simp [State.resume, State.recordFailure, State.reschedule, hlimit, h, hstopped]

theorem awaited_rearms (h : Core limit s) (ha : s.awaited ≠ []) (hstopped : s.stopped = false) :
    ∃ s', Relation.ReflTransGen (Clock limit) s s' ∧ s'.awaited = [] ∧
      (s'.timers.length = 1 ∨ .failureLimit ∈ s'.log) := by
  obtain ⟨⟨tick, race⟩, rest, hl⟩ := List.exists_cons_of_ne_nil ha
  have hl' : s.awaited = [] ++ ⟨tick, race⟩ :: rest := hl
  have hmost := h.atMost
  obtain ⟨hone, -, rfl⟩ := eq_singleton (by omega) hl'
  have ht : s.timers = [] := by simpa [hone] using hmost
  cases hrace : race.success? with
  | some success =>
    exact ⟨_, .single (.resume false hl' hrace), resume_rearms limit ht hstopped tick success rfl⟩
  | none =>
    have hundecided : race = .undecided := by
      cases race with
      | undecided => rfl
      | settled success => exact nomatch hrace
      | exceeded => exact nomatch hrace
    subst hundecided
    have hexceed : Clock limit s { s with awaited := [] ++ ⟨tick, .exceeded⟩ :: [] } := .exceed hl'
    have hexceeded : ({ s with awaited := [] ++ ⟨tick, .exceeded⟩ :: [] } : State).awaited =
        [] ++ ⟨tick, .exceeded⟩ :: [] := rfl
    have hresume : Clock limit _ _ := .resume false hexceeded rfl
    exact ⟨_, .tail (.single hexceed) hresume, resume_rearms limit ht hstopped tick false rfl⟩

end

/-- In every state that the loop reaches: one tick is in flight at most. Until the loop is stopped,
there is exactly one armed timer or awaited tick, and the deadline of an awaited tick arms the timer
again. `onFailureLimit` is called once at most, when the limit is reached, and a tick that does not
settle reaches it once the timers have fired often enough. -/
theorem heartbeat_loop_neither_stacks_nor_dies (limit : ℕ) (s : State) (h : Reachable limit s) :
    s.works.length ≤ 1 ∧
      (s.started = true → s.stopped = false → s.outside = false →
        s.timers.length + s.awaited.length = 1) ∧
      (s.awaited ≠ [] → s.stopped = false → ∃ s', Relation.ReflTransGen (Clock limit) s s' ∧
        s'.awaited = [] ∧ (s'.timers.length = 1 ∨ .failureLimit ∈ s'.log)) ∧
      s.log.count .failureLimit ≤ 1 ∧
      (∀ after before, s.log = after ++ .failureLimit :: before → LimitReached limit before) ∧
      ∀ tick, ⟨tick, none⟩ ∈ s.works → s.outside = false → max limit 1 ≤ firesSince tick s.log →
        .failureLimit ∈ s.log := by
  obtain ⟨hcore, hkept⟩ := h.inv
  refine ⟨hcore.oneWork, hkept, awaited_rearms hcore, hcore.once,
    fun after before heq => hcore.justified after _ before heq rfl, ?_⟩
  intro tick hwork hinside hfires
  by_contra hno
  have hskips : s.skips = firesSince tick s.log := hcore.fires _ hwork hinside
  have hbelow := hcore.below hno
  omega

def firstTick : State :=
  (State.reschedule { started := true } false).fire 5 0 false false

theorem firstTick_reachable : Reachable 5 firstTick := by
  have hstart : Reachable 5 (State.reschedule { started := true } false) :=
    .step .initial (.start false rfl)
  exact .step hstart (.fire false false (by decide))

theorem heartbeat_loop_neither_stacks_nor_dies_firstTick :
    firstTick.works.length ≤ 1 ∧ firstTick.timers.length + firstTick.awaited.length = 1 :=
  have h := heartbeat_loop_neither_stacks_nor_dies 5 firstTick firstTick_reachable
  ⟨h.1, h.2.1 rfl rfl rfl⟩

end NouvaAgent.HeartbeatLoop
