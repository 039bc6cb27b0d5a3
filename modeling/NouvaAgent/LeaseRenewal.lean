import Mathlib.Data.Rat.Floor
import Mathlib.Logic.Relation
import NouvaAgent.WorkReporting
import NouvaAgent.Interaction.History

namespace NouvaAgent.LeaseRenewal

open Interaction

def defaultAgentLeaseTtlSeconds : ℚ := 120

/-- A number of seconds that is not finite is `none`. -/
def resolveAgentWorkLeaseRenewalIntervalMs (leaseTtlSeconds : Option ℚ) : ℤ :=
  let safeLeaseTtlSeconds := (leaseTtlSeconds.filter (0 < ·)).getD defaultAgentLeaseTtlSeconds
  max 1000 (safeLeaseTtlSeconds * 1000 / 3).floor

inductive RenewalError
  | aborted
  | failed (failure : ReportFailure)
  deriving DecidableEq

def shouldStopRetryingAgentWorkMutation : RenewalError → Bool
  | .failed (.api error) => error.status = 404 || error.status = 409 || error.status = 422
  | _ => false

structure Callback where
  stops : Bool := false
  throws : Bool := false

structure Renewal where
  id : ℕ
  reply : Option (Except RenewalError Unit)

structure Timer where
  id : ℕ
  delayMs : ℤ
  deriving DecidableEq

structure Ended where
  id : ℕ
  rejected : Bool
  deriving DecidableEq

inductive Stop
  | awaiting (inFlight : Option ℕ)
  | resolved
  | rejected
  deriving DecidableEq

/-- The variables of a renewal, the timers that are armed, the calls that are waited for and those
that have ended, the callbacks that have not run, and the leases that were asked for so far. A
renewal and its abort controller are named by a number, and so is a timer. -/
structure State where
  stopped : Bool := false
  leaseLost : Bool := false
  scheduled : Option ℕ := none
  activeAbortController : Option ℕ := none
  inFlight : Option ℕ := none
  timers : List Timer := []
  renewals : List Renewal := []
  ended : List Ended := []
  finals : List ℕ := []
  stops : List Stop := []
  aborted : List ℕ := []
  armed : ℕ := 0
  started : ℕ := 0
  sent : List ℕ := []

namespace State

variable (leaseTtlSeconds : Option ℚ) (s : State)

def startRenewal : State :=
  let called := { s with inFlight := some s.started, started := s.started + 1 }
  if s.stopped ∨ s.leaseLost then { called with
    ended := s.ended ++ [⟨s.started, false⟩]
    finals := s.finals ++ [s.started] }
  else { called with
    activeAbortController := some s.started
    renewals := s.renewals ++ [⟨s.started, none⟩]
    sent := s.sent ++ [s.started] }

def stop : State :=
  { s with
    stopped := true
    timers := s.timers.filter fun timer => s.scheduled ≠ some timer.id
    scheduled := none
    aborted := s.aborted ++ s.activeAbortController.toList
    stops := s.stops ++ [.awaiting s.inFlight] }

def callBack (callback : Callback) : State := if callback.stops then s.stop else s

def afterReply (reply : Except RenewalError Unit) (callback : Callback) : State × ℤ × Bool :=
  let normalIntervalMs := resolveAgentWorkLeaseRenewalIntervalMs leaseTtlSeconds
  match reply with
  | .ok () => (s, normalIntervalMs, false)
  | .error error =>
    if s.stopped ∧ error = .aborted then (s, normalIntervalMs, false)
    else if shouldStopRetryingAgentWorkMutation error then
      (State.callBack { s with leaseLost := true } callback, normalIntervalMs, callback.throws)
    else (s.callBack callback, min normalIntervalMs 5000, callback.throws)

def scheduleNext (delayMs : ℤ) : State :=
  let cleared := { s with activeAbortController := none }
  if s.stopped ∨ s.leaseLost then cleared
  else { cleared with
    scheduled := some s.armed
    timers := s.timers ++ [⟨s.armed, delayMs⟩]
    armed := s.armed + 1 }

def resume (id : ℕ) (reply : Except RenewalError Unit) (callback : Callback) : State :=
  let (replied, delayMs, rejected) := s.afterReply leaseTtlSeconds reply callback
  let next := replied.scheduleNext delayMs
  { next with ended := next.ended ++ [⟨id, rejected⟩], finals := next.finals ++ [id] }

def final (id : ℕ) : State := { s with inFlight := if s.inFlight = some id then none else s.inFlight }

def fire (timer : Timer) : State :=
  startRenewal { s with scheduled := none, timers := s.timers.filter (·.id ≠ timer.id) }

end State

inductive Step (leaseTtlSeconds : Option ℚ) : State → State → Prop
  | fire {s : State} {timer : Timer} (h : timer ∈ s.timers) : Step leaseTtlSeconds s (s.fire timer)
  | reply {s : State} {before after : List Renewal} {id : ℕ} (reply : Except RenewalError Unit)
      (h : s.renewals = before ++ ⟨id, none⟩ :: after) :
      Step leaseTtlSeconds s { s with renewals := before ++ ⟨id, some reply⟩ :: after }
  | resume {s : State} {before after : List Renewal} {id : ℕ} {reply : Except RenewalError Unit}
      (callback : Callback) (h : s.renewals = before ++ ⟨id, some reply⟩ :: after) :
      Step leaseTtlSeconds s
        (State.resume leaseTtlSeconds { s with renewals := before ++ after } id reply callback)
  | final {s : State} {before after : List ℕ} {id : ℕ} (h : s.finals = before ++ id :: after) :
      Step leaseTtlSeconds s (State.final { s with finals := before ++ after } id)
  | stop (s : State) : Step leaseTtlSeconds s s.stop
  | stopResolves {s : State} {before after : List Stop} {inFlight : Option ℕ}
      (h : s.stops = before ++ .awaiting inFlight :: after)
      (hended : ∀ id ∈ inFlight, ⟨id, false⟩ ∈ s.ended) :
      Step leaseTtlSeconds s { s with stops := before ++ .resolved :: after }
  | stopRejects {s : State} {before after : List Stop} {id : ℕ}
      (h : s.stops = before ++ .awaiting (some id) :: after) (hended : ⟨id, true⟩ ∈ s.ended) :
      Step leaseTtlSeconds s { s with stops := before ++ .rejected :: after }

/-- The first renewal is started at once. -/
inductive Reachable (leaseTtlSeconds : Option ℚ) : State → Prop
  | initial : Reachable leaseTtlSeconds (State.startRenewal {})
  | step {s s' : State} (h : Reachable leaseTtlSeconds s) (hs : Step leaseTtlSeconds s s') :
      Reachable leaseTtlSeconds s'

def Over (s : State) : Prop := s.stopped = true ∨ s.leaseLost = true

structure Inv (s : State) : Prop where
  armed : s.timers.map Timer.id = s.scheduled.toList
  single : s.renewals.length + s.timers.length ≤ 1
  kept : ¬Over s → s.renewals.length + s.timers.length = 1
  quiet : Over s → s.timers = []
  lost : s.leaseLost = true → s.renewals = []
  current : ∀ r ∈ s.renewals, s.inFlight = some r.id
  fresh : ∀ r ∈ s.renewals, r.id < s.started ∧ r.id ∉ s.finals ∧ ∀ e ∈ s.ended, e.id ≠ r.id
  older : (∀ e ∈ s.ended, e.id < s.started) ∧ ∀ id ∈ s.finals, id < s.started
  stops : s.stops ≠ [] → s.stopped = true
  awaited : ∀ inFlight, .awaiting inFlight ∈ s.stops → ∀ r ∈ s.renewals, inFlight = some r.id
  resolved : .resolved ∈ s.stops → s.renewals = []

section

variable {leaseTtlSeconds : Option ℚ} {s s' : State} {id : ℕ}

theorem Inv.unarmed (h : Inv s) (ht : s.timers = []) : s.scheduled = none := by
  have harmed := h.armed
  rw [ht, List.map_nil] at harmed
  exact Option.toList_eq_nil_iff.mp harmed.symm

theorem Inv.fire {timer : Timer} (h : Inv s) (hm : timer ∈ s.timers) : Inv (s.fire timer) := by
  have hsingle := h.single
  have hpos := List.length_pos_of_mem hm
  have hnone : s.renewals = [] := List.length_eq_zero_iff.mp (by omega)
  obtain ⟨only, honly⟩ := List.length_eq_one_iff.mp (by omega : s.timers.length = 1)
  obtain rfl : timer = only := by simpa [honly] using hm
  have hfilter : s.timers.filter (fun t => t.id ≠ timer.id) = [] := by simp [honly]
  have hactive : ¬(s.stopped = true ∨ s.leaseLost = true) := fun hover => by
    simp [h.quiet hover] at hm
  have hstops : s.stops = [] := by
    by_contra hne
    exact hactive (.inl (h.stops hne))
  unfold State.fire State.startRenewal
  rw [hfilter, hnone]
  dsimp only
  rw [if_neg hactive]
  exact {
    armed := rfl
    single := le_refl _
    kept := fun _ => rfl
    quiet := fun _ => rfl
    lost := fun hlost => absurd (.inr hlost) hactive
    current := by simp
    fresh := by
      intro r hr
      obtain rfl := List.mem_singleton.mp hr
      refine ⟨Nat.lt_succ_self _, fun hmem => ?_, fun e he => ?_⟩
      · exact absurd (h.older.2 _ hmem) (lt_irrefl _)
      · exact Nat.ne_of_lt (h.older.1 e he)
    older := ⟨fun e he => Nat.lt_succ_of_lt (h.older.1 e he),
      fun id hid => Nat.lt_succ_of_lt (h.older.2 id hid)⟩
    stops := fun hne => absurd hstops hne
    awaited := by simp [hstops]
    resolved := by simp [hstops] }

theorem Inv.reply {before after : List Renewal} (h : Inv s)
    (hs : s.renewals = before ++ ⟨id, none⟩ :: after) (reply : Except RenewalError Unit) :
    Inv { s with renewals := before ++ ⟨id, some reply⟩ :: after } := by
  have hsingle := h.single
  obtain ⟨hone, rfl, rfl⟩ := eq_singleton (by omega) hs
  have hmem : (⟨id, none⟩ : Renewal) ∈ s.renewals := by simp [hone]
  exact { h with
    single := by simpa [hone] using hsingle
    kept := fun hactive => by simpa [hone] using h.kept hactive
    lost := fun hlost => absurd (h.lost hlost) (by simp [hone])
    current := by simpa using h.current _ hmem
    fresh := by simpa using h.fresh _ hmem
    awaited := fun inFlight ha => by simpa using h.awaited inFlight ha _ hmem
    resolved := fun hr => absurd (h.resolved hr) (by simp [hone]) }

structure Resting (s : State) : Prop where
  timers : s.timers = []
  scheduled : s.scheduled = none
  renewals : s.renewals = []
  older : (∀ e ∈ s.ended, e.id < s.started) ∧ ∀ id ∈ s.finals, id < s.started
  stops : s.stops ≠ [] → s.stopped = true

theorem Resting.callBack (h : Resting s) (callback : Callback) :
    Resting (s.callBack callback) := by
  unfold State.callBack State.stop
  split
  · exact { h with
      timers := by simp [h.timers]
      scheduled := rfl
      stops := fun _ => rfl }
  · exact h

theorem Resting.afterReply (h : Resting s) (ttl : Option ℚ) (reply : Except RenewalError Unit)
    (callback : Callback) : Resting (s.afterReply ttl reply callback).1 := by
  have hlost : Resting { s with leaseLost := true } := { h with }
  unfold State.afterReply
  cases reply with
  | ok u => exact h
  | error error =>
    dsimp only
    split
    · exact h
    · split
      · exact hlost.callBack callback
      · exact h.callBack callback

theorem Resting.scheduleNext (h : Resting s) (delayMs : ℤ) : Inv (s.scheduleNext delayMs) := by
  unfold State.scheduleNext
  dsimp only
  split
  · next hover =>
    exact {
      armed := by simp [h.timers, h.scheduled]
      single := by simp [h.timers, h.renewals]
      kept := fun hactive => absurd hover hactive
      quiet := fun _ => h.timers
      lost := fun _ => h.renewals
      current := by simp [h.renewals]
      fresh := by simp [h.renewals]
      older := h.older
      stops := h.stops
      awaited := by simp [h.renewals]
      resolved := fun _ => h.renewals }
  · next hactive =>
    exact {
      armed := by simp [h.timers]
      single := by simp [h.timers, h.renewals]
      kept := fun _ => by simp [h.timers, h.renewals]
      quiet := fun hover => absurd hover hactive
      lost := fun _ => h.renewals
      current := by simp [h.renewals]
      fresh := by simp [h.renewals]
      older := h.older
      stops := h.stops
      awaited := by simp [h.renewals]
      resolved := fun _ => h.renewals }

theorem callBack_frame (callback : Callback) : (s.callBack callback).started = s.started ∧
    (s.callBack callback).sent = s.sent ∧ (Over s → Over (s.callBack callback)) := by
  unfold State.callBack State.stop
  split
  · exact ⟨rfl, rfl, fun _ => .inl rfl⟩
  · exact ⟨rfl, rfl, id⟩

theorem afterReply_frame (ttl : Option ℚ) (reply : Except RenewalError Unit)
    (callback : Callback) : (s.afterReply ttl reply callback).1.started = s.started ∧
      (s.afterReply ttl reply callback).1.sent = s.sent ∧
      (Over s → Over (s.afterReply ttl reply callback).1) := by
  unfold State.afterReply
  cases reply with
  | ok u => exact ⟨rfl, rfl, id⟩
  | error error =>
    dsimp only
    split
    · exact ⟨rfl, rfl, id⟩
    · split
      · obtain ⟨hstarted, hsent, hover⟩ :=
          callBack_frame (s := { s with leaseLost := true }) callback
        exact ⟨hstarted, hsent, fun _ => hover (.inr rfl)⟩
      · exact callBack_frame callback

theorem scheduleNext_frame (delayMs : ℤ) : (s.scheduleNext delayMs).started = s.started ∧
    (s.scheduleNext delayMs).sent = s.sent ∧ (s.scheduleNext delayMs).renewals = s.renewals ∧
    (Over s → Over (s.scheduleNext delayMs)) := by
  unfold State.scheduleNext
  dsimp only
  split
  · exact ⟨rfl, rfl, rfl, id⟩
  · exact ⟨rfl, rfl, rfl, id⟩

theorem Resting.ended (h : Resting s) (hid : id < s.started) (delayMs : ℤ) (rejected : Bool) :
    Inv { s.scheduleNext delayMs with
      ended := (s.scheduleNext delayMs).ended ++ [⟨id, rejected⟩]
      finals := (s.scheduleNext delayMs).finals ++ [id] } := by
  have hnext := h.scheduleNext delayMs
  obtain ⟨hstarted, -, hrenewals, -⟩ := scheduleNext_frame (s := s) delayMs
  have hnone := hrenewals.trans h.renewals
  rw [← hstarted] at hid
  exact { hnext with
    fresh := fun r hr => absurd hr (by simp [hnone])
    older := by
      refine ⟨fun e he => ?_, fun i hi => ?_⟩
      · rcases List.mem_append.mp he with he | he
        · exact hnext.older.1 e he
        · obtain rfl := List.mem_singleton.mp he
          exact hid
      · rcases List.mem_append.mp hi with hi | hi
        · exact hnext.older.2 i hi
        · obtain rfl := List.mem_singleton.mp hi
          exact hid }

theorem Inv.resume {before after : List Renewal} {reply : Except RenewalError Unit} (h : Inv s)
    (hs : s.renewals = before ++ ⟨id, some reply⟩ :: after) (callback : Callback) :
    Inv (State.resume leaseTtlSeconds { s with renewals := before ++ after } id reply callback) := by
  have hsingle := h.single
  obtain ⟨hone, rfl, rfl⟩ := eq_singleton (by omega) hs
  have ht : s.timers = [] := by simpa [hone] using hsingle
  have hresting : Resting { s with renewals := [] ++ [] } :=
    { timers := ht
      scheduled := h.unarmed ht
      renewals := rfl
      older := h.older
      stops := h.stops }
  have hreplied := hresting.afterReply leaseTtlSeconds reply callback
  obtain ⟨hstarted, -, -⟩ := afterReply_frame (s := { s with renewals := [] ++ [] })
    leaseTtlSeconds reply callback
  have hid : id < s.started := (h.fresh ⟨id, some reply⟩ (by simp [hone])).1
  exact hreplied.ended (hstarted.symm ▸ hid) _ _

theorem Inv.final {before after : List ℕ} (h : Inv s) (hs : s.finals = before ++ id :: after) :
    Inv (State.final { s with finals := before ++ after } id) := by
  have hsub : ∀ i ∈ before ++ after, i ∈ s.finals := by
    intro i hi
    rw [hs, List.mem_append, List.mem_cons]
    rcases List.mem_append.mp hi with hi | hi
    · exact .inl hi
    · exact .inr (.inr hi)
  exact { h with
    current := fun r hr => by
      have hne : r.id ≠ id := by
        rintro rfl
        exact (h.fresh r hr).2.1 (by simp [hs])
      simp [State.final, h.current r hr, hne]
    fresh := fun r hr => ⟨(h.fresh r hr).1, fun hmem => (h.fresh r hr).2.1 (hsub _ hmem),
      (h.fresh r hr).2.2⟩
    older := ⟨h.older.1, fun i hi => h.older.2 i (hsub i hi)⟩ }

theorem Inv.stop (h : Inv s) : Inv s.stop := by
  have hnone : s.timers.filter (fun timer => s.scheduled ≠ some timer.id) = [] := by
    apply List.filter_eq_nil_iff.mpr
    intro timer hm
    have hid : timer.id ∈ s.scheduled.toList := h.armed ▸ List.mem_map_of_mem hm
    simpa using hid
  unfold State.stop
  rw [hnone]
  have hsingle := h.single
  exact { h with
    armed := rfl
    single := le_trans (Nat.le_add_right _ s.timers.length) hsingle
    kept := fun hactive => absurd (.inl rfl) hactive
    quiet := fun _ => rfl
    stops := fun _ => rfl
    awaited := fun inFlight ha r hr => by
      rcases List.mem_append.mp ha with ha | ha
      · exact h.awaited inFlight ha r hr
      · rw [List.mem_singleton, Stop.awaiting.injEq] at ha
        rw [ha, h.current r hr]
    resolved := fun hr => h.resolved (by simpa using hr) }

theorem Inv.stopped {before after : List Stop} {inFlight : Option ℕ} {result : Stop} (h : Inv s)
    (hs : s.stops = before ++ .awaiting inFlight :: after)
    (hresult : ∀ awaited, result ≠ .awaiting awaited)
    (hended : result = .resolved → s.renewals = []) :
    Inv { s with stops := before ++ result :: after } := by
  have hold : ∀ stop ∈ before ++ result :: after, stop ∈ s.stops ∨ stop = result := by
    intro stop hmem
    rw [List.mem_append, List.mem_cons] at hmem
    rcases hmem with hmem | rfl | hmem
    · exact .inl (by simp [hs, hmem])
    · exact .inr rfl
    · exact .inl (by simp [hs, hmem])
  exact { h with
    stops := fun _ => h.stops (by simp [hs])
    awaited := fun awaited ha r hr => by
      rcases hold _ ha with ha | ha
      · exact h.awaited awaited ha r hr
      · exact absurd ha.symm (hresult awaited)
    resolved := fun hr => by
      rcases hold _ hr with hr | hr
      · exact h.resolved hr
      · exact hended hr.symm }

theorem Step.inv (h : Inv s) (hs : Step leaseTtlSeconds s s') : Inv s' := by
  cases hs with
  | fire hm => exact h.fire hm
  | reply reply hr => exact h.reply hr reply
  | resume callback hr => exact h.resume hr callback
  | final hf => exact h.final hf
  | stop => exact h.stop
  | @stopResolves before after inFlight hstop hended =>
    refine h.stopped hstop (fun _ => nofun) fun _ => ?_
    apply List.eq_nil_iff_forall_not_mem.mpr
    intro r hr
    have hawaited := h.awaited inFlight (by simp [hstop]) r hr
    exact (h.fresh r hr).2.2 _ (hended r.id (by simp [hawaited])) rfl
  | stopRejects hstop hended => exact h.stopped hstop (fun _ => nofun) nofun

theorem inv_initial : Inv (State.startRenewal {}) where
  armed := rfl
  single := le_refl _
  kept := fun _ => rfl
  quiet := fun _ => rfl
  lost := nofun
  current := fun r hr => by
    obtain rfl := List.mem_singleton.mp hr
    rfl
  fresh := fun r hr => by
    obtain rfl := List.mem_singleton.mp hr
    exact ⟨Nat.zero_lt_one, nofun, nofun⟩
  older := ⟨nofun, nofun⟩
  stops := fun hne => absurd rfl hne
  awaited := nofun
  resolved := nofun

theorem Reachable.inv (h : Reachable leaseTtlSeconds s) : Inv s := by
  induction h with
  | initial => exact inv_initial
  | step _ hs ih => exact hs.inv ih

theorem resume_over {reply : Except RenewalError Unit} {callback : Callback} (h : Over s) :
    Over (s.resume leaseTtlSeconds id reply callback) ∧
      (s.resume leaseTtlSeconds id reply callback).sent = s.sent := by
  obtain ⟨-, hsent, hover⟩ := afterReply_frame (s := s) leaseTtlSeconds reply callback
  obtain ⟨-, hsent', -, hover'⟩ := scheduleNext_frame
    (s := (s.afterReply leaseTtlSeconds reply callback).1)
    (s.afterReply leaseTtlSeconds reply callback).2.1
  exact ⟨hover' (hover h), hsent'.trans hsent⟩

theorem Step.over (h : Inv s) (ho : Over s) (hs : Step leaseTtlSeconds s s') :
    Over s' ∧ s'.sent = s.sent := by
  cases hs with
  | fire hm => exact absurd hm (by simp [h.quiet ho])
  | reply reply hr => exact ⟨ho, rfl⟩
  | @resume before after id reply callback hr =>
    exact resume_over (s := { s with renewals := before ++ after }) ho
  | final hf => exact ⟨ho, rfl⟩
  | stop => exact ⟨.inl rfl, rfl⟩
  | stopResolves hstop hended => exact ⟨ho, rfl⟩
  | stopRejects hstop hended => exact ⟨ho, rfl⟩

theorem over_of_steps (h : Inv s) (ho : Over s)
    (hs : Relation.ReflTransGen (Step leaseTtlSeconds) s s') :
    s'.sent = s.sent ∧ s'.timers = [] := by
  have hall : Inv s' ∧ Over s' ∧ s'.sent = s.sent := by
    induction hs with
    | refl => exact ⟨h, ho, rfl⟩
    | tail _ hstep ih =>
      obtain ⟨hinv, hover, hsent⟩ := ih
      obtain ⟨hover', hsent'⟩ := hstep.over hinv hover
      exact ⟨hstep.inv hinv, hover', hsent'.trans hsent⟩
  exact ⟨hall.2.2, hall.1.quiet hall.2.1⟩

end

/-- However timers, replies and `stop` fall: one renewal is in flight at most and one timer is armed
at most, and there is one of the two until renewal is stopped or the lease is lost. When the lease
is lost, or `stop` has resolved, no renewal is in flight, none is sent any more and no timer is
armed. -/
theorem lease_renewal_is_single_and_stops (leaseTtlSeconds : Option ℚ) (s : State)
    (h : Reachable leaseTtlSeconds s) :
    s.renewals.length ≤ 1 ∧ s.timers.length ≤ 1 ∧
      (s.stopped = false → s.leaseLost = false → s.renewals.length + s.timers.length = 1) ∧
      (s.leaseLost = true ∨ .resolved ∈ s.stops → s.renewals = [] ∧ s.timers = [] ∧
        ∀ s', Relation.ReflTransGen (Step leaseTtlSeconds) s s' →
          s'.sent = s.sent ∧ s'.timers = []) := by
  have hinv := h.inv
  have hsingle := hinv.single
  refine ⟨by omega, by omega, fun hstopped hlost => hinv.kept ?_, fun hend => ?_⟩
  · rintro (hover | hover)
    · exact absurd (hstopped.symm.trans hover) (by simp)
    · exact absurd (hlost.symm.trans hover) (by simp)
  · have hboth : s.renewals = [] ∧ Over s := by
      rcases hend with hlost | hresolved
      · exact ⟨hinv.lost hlost, .inr hlost⟩
      · exact ⟨hinv.resolved hresolved, .inl (hinv.stops (List.ne_nil_of_mem hresolved))⟩
    exact ⟨hboth.1, hinv.quiet hboth.2, fun s' hs' => over_of_steps hinv hboth.2 hs'⟩

def refused : State :=
  State.resume (some 120) { State.startRenewal {} with renewals := [] ++ [] } 0
    (.error (.failed (.api ⟨"POST", "/api/agent/work/work_1/renew", 409, "no longer active"⟩))) {}

theorem refused_reachable : Reachable (some 120) refused := by
  have hreply : Reachable (some 120) { State.startRenewal {} with
      renewals := [] ++ ⟨0, some (.error (.failed (.api ⟨"POST", "/api/agent/work/work_1/renew",
        409, "no longer active"⟩)))⟩ :: [] } := .step .initial (.reply _ rfl)
  exact .step hreply (.resume {} rfl)

theorem lease_renewal_is_single_and_stops_refused :
    refused.timers = [] ∧ refused.renewals = [] ∧ refused.sent = [0] := by
  obtain ⟨-, -, -, hend⟩ := lease_renewal_is_single_and_stops (some 120) refused refused_reachable
  have hlost := hend (.inl rfl)
  exact ⟨hlost.2.1, hlost.1, rfl⟩

end NouvaAgent.LeaseRenewal
