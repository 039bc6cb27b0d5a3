import Mathlib.Data.List.Basic
import Mathlib.Data.Nat.Basic
import NouvaAgent.Interaction.History

namespace NouvaAgent.AlloyDrain

open Interaction

variable {Input Error : Type}

structure Call (Input : Type) where
  number : ℕ
  input : Input

/-- Where the loop of a drain stands. A reconcile has an outcome once it has settled, which is its
error if it failed. -/
inductive Phase (Input Error : Type)
  | reconciling (call : Call Input) (outcome : Option (Option Error))
  | exited (latestFailure : Option Error)

structure Drain (Input Error : Type) where
  number : ℕ
  phase : Phase Input Error

inductive Event
  | called (call : ℕ)
  | began (call : ℕ)
  | succeeded (call : ℕ)
  | failed (call : ℕ)
  | resolved (call : ℕ)
  | rejected (call : ℕ)
  deriving DecidableEq

/-- The variables of the module, the drains with what their promises came to, the calls that wait,
each with its drain, and what has happened so far, the latest first. -/
structure State (Input Error : Type) where
  pendingAlloyReconcile : Option (Call Input) := none
  alloyReconcileDrain : Option ℕ := none
  drains : List (Drain Input Error) := []
  settled : List (ℕ × Option Error) := []
  waiting : List (ℕ × ℕ) := []
  calls : ℕ := 0
  started : ℕ := 0
  log : List Event := []

namespace State

variable (s : State Input Error)

def loop (drain : ℕ) (latestFailure : Option Error) : State Input Error :=
  match s.pendingAlloyReconcile with
  | some pending => { s with
      pendingAlloyReconcile := none
      drains := s.drains ++ [⟨drain, .reconciling pending none⟩]
      log := .began pending.number :: s.log }
  | none => { s with drains := s.drains ++ [⟨drain, .exited latestFailure⟩] }

def ensureAlloyRuntime (input : Input) : State Input Error :=
  let called := { s with
    pendingAlloyReconcile := some ⟨s.calls, input⟩
    calls := s.calls + 1
    log := .called s.calls :: s.log }
  match s.alloyReconcileDrain with
  | some drain => { called with waiting := (s.calls, drain) :: s.waiting }
  | none =>
    let begun := called.loop s.started none
    { begun with
      alloyReconcileDrain := some s.started
      started := s.started + 1
      waiting := (s.calls, s.started) :: s.waiting }

end State

def outcomeEvent (call : ℕ) : Option Error → Event
  | none => .succeeded call
  | some _ => .failed call

def answerEvent (call : ℕ) : Option Error → Event
  | none => .resolved call
  | some _ => .rejected call

inductive Step : State Input Error → State Input Error → Prop
  | call (s : State Input Error) (input : Input) : Step s (s.ensureAlloyRuntime input)
  | settle {s : State Input Error} {before after : List (Drain Input Error)} {drain : ℕ}
      {call : Call Input} (failure : Option Error)
      (h : s.drains = before ++ ⟨drain, .reconciling call none⟩ :: after) :
      Step s { s with
        drains := before ++ ⟨drain, .reconciling call (some failure)⟩ :: after
        log := outcomeEvent call.number failure :: s.log }
  | loop {s : State Input Error} {before after : List (Drain Input Error)} {drain : ℕ}
      {call : Call Input} {failure : Option Error}
      (h : s.drains = before ++ ⟨drain, .reconciling call (some failure)⟩ :: after) :
      Step s (State.loop { s with drains := before ++ after } drain failure)
  | clear {s : State Input Error} {before after : List (Drain Input Error)} {drain : ℕ}
      {failure : Option Error} (h : s.drains = before ++ ⟨drain, .exited failure⟩ :: after) :
      Step s { s with
        alloyReconcileDrain := none
        drains := before ++ after
        settled := (drain, failure) :: s.settled }
  | answer {s : State Input Error} {before after : List (ℕ × ℕ)} {call drain : ℕ}
      {failure : Option Error} (h : s.waiting = before ++ (call, drain) :: after)
      (hsettled : (drain, failure) ∈ s.settled) :
      Step s { s with waiting := before ++ after, log := answerEvent call failure :: s.log }

inductive Reachable (P : State Input Error → State Input Error → Prop) : State Input Error → Prop
  | initial : Reachable P {}
  | step {s s' : State Input Error} (h : Reachable P s) (hs : Step s s') (hp : P s s') :
      Reachable P s'

def Exited (s : State Input Error) : Prop :=
  ∃ drain failure, ⟨drain, .exited failure⟩ ∈ s.drains

def Timely (s s' : State Input Error) : Prop :=
  Exited s → s'.calls = s.calls

/-- A reconcile with the input of this call or a later one began behind the call, and succeeded. -/
def Served (call : ℕ) (log : List Event) : Prop :=
  ∃ later, call ≤ later ∧ List.Sublist [.succeeded later, .began later, .called call] log

def Drain.reconciles (drain : Drain Input Error) : Bool :=
  match drain.phase with
  | .reconciling _ none => true
  | _ => false

def Drain.running (drain : Drain Input Error) : Bool :=
  match drain.phase with
  | .reconciling _ _ => true
  | .exited _ => false

structure NeverLost (s : State Input Error) : Prop where
  single : s.drains.countP Drain.reconciles ≤ 1
  served : ∀ call after before, s.log = after ++ .resolved call :: before → Served call before
  drained : (∀ drain ∈ s.drains, drain.running = false) → s.pendingAlloyReconcile = none

def Progress (call : ℕ) (log : List Event) : Phase Input Error → Prop
  | .reconciling c none => call ≤ c.number ∧ List.Sublist [.began c.number, .called call] log
  | .reconciling c (some none) =>
    call ≤ c.number ∧ List.Sublist [.succeeded c.number, .began c.number, .called call] log
  | .exited none => Served call log
  | _ => True

structure Inv (s : State Input Error) : Prop where
  slot : s.alloyReconcileDrain = s.drains.head?.map Drain.number
  one : s.drains.length ≤ 1
  latest : ∀ p, s.pendingAlloyReconcile = some p → p.number + 1 = s.calls
  waiting : ∀ w ∈ s.waiting, w.1 < s.calls ∧ .called w.1 ∈ s.log ∧ w.2 < s.started
  fresh : ∀ d ∈ s.drains, d.number < s.started ∧ ∀ p ∈ s.settled, p.1 ≠ d.number
  past : ∀ p ∈ s.settled, p.1 < s.started
  progress : s.pendingAlloyReconcile = none → ∀ d ∈ s.drains, ∀ w ∈ s.waiting, w.2 = d.number →
    Progress w.1 s.log d.phase
  drained : s.pendingAlloyReconcile ≠ none → ∃ d ∈ s.drains, d.running = true
  settled : ∀ p ∈ s.settled, p.2 = none → ∀ w ∈ s.waiting, w.2 = p.1 → Served w.1 s.log
  served : Each (fun e before => ∀ call, e = .resolved call → Served call before) s.log

section

variable {s s' : State Input Error}

theorem Served.cons {call : ℕ} {log : List Event} (e : Event) (h : Served call log) :
    Served call (e :: log) := by
  obtain ⟨later, hle, hsub⟩ := h
  exact ⟨later, hle, hsub.cons e⟩

theorem Progress.cons {call : ℕ} {log : List Event} {phase : Phase Input Error} (e : Event)
    (h : Progress call log phase) : Progress call (e :: log) phase := by
  match phase, h with
  | .reconciling _ none, h => exact ⟨h.1, h.2.cons e⟩
  | .reconciling _ (some none), h => exact ⟨h.1, h.2.cons e⟩
  | .reconciling _ (some (some _)), _ => exact trivial
  | .exited none, h => exact Served.cons e h
  | .exited (some _), _ => exact trivial

theorem Inv.loop {drain : ℕ} {call : Call Input} {failure : Option Error} (h : Inv s)
    (hdrains : s.drains = [⟨drain, .reconciling call (some failure)⟩]) :
    Inv (State.loop { s with drains := [] } drain failure) := by
  have hmem : ⟨drain, .reconciling call (some failure)⟩ ∈ s.drains := by simp [hdrains]
  have hslot : s.alloyReconcileDrain = some drain := by simp [h.slot, hdrains]
  obtain ⟨hdrain, hfresh⟩ := h.fresh _ hmem
  unfold State.loop
  cases hpending : s.pendingAlloyReconcile with
  | some pending =>
    have hcalls := h.latest pending hpending
    dsimp only
    rw [List.nil_append]
    exact { h with
      slot := hslot
      one := le_refl _
      latest := nofun
      waiting := fun w hw => ⟨(h.waiting w hw).1, List.mem_cons_of_mem _ (h.waiting w hw).2.1,
        (h.waiting w hw).2.2⟩
      fresh := List.forall_mem_singleton.mpr ⟨hdrain, hfresh⟩
      progress := by
        intro _ d hd w hw _
        rw [List.mem_singleton] at hd
        subst hd
        obtain ⟨hlt, hcalled, -⟩ := h.waiting w hw
        refine ⟨by omega, ?_⟩
        exact (List.singleton_sublist.mpr hcalled).cons_cons _
      drained := fun hne => absurd rfl hne
      settled := fun p hp hnone w hw heq => (h.settled p hp hnone w hw heq).cons _
      served := each_cons.mpr ⟨nofun, h.served⟩ }
  | none =>
    have hprogress := h.progress hpending _ hmem
    dsimp only
    rw [List.nil_append]
    exact { h with
      slot := hslot
      one := le_refl _
      latest := nofun
      fresh := List.forall_mem_singleton.mpr ⟨hdrain, hfresh⟩
      progress := by
        intro _ d hd w hw heq
        rw [List.mem_singleton] at hd
        subst hd
        cases failure with
        | none => exact ⟨call.number, hprogress w hw heq⟩
        | some error => exact trivial
      drained := fun hne => absurd rfl hne }

theorem Inv.call (h : Inv s) (hexited : ¬ Exited s) (input : Input) :
    Inv (s.ensureAlloyRuntime input) := by
  have hwaiting : ∀ w ∈ s.waiting, w.1 < s.calls + 1 ∧ .called w.1 ∈ Event.called s.calls :: s.log ∧
      w.2 < s.started := by
    intro w hw
    obtain ⟨hcall, hcalled, hdrain⟩ := h.waiting w hw
    exact ⟨by omega, List.mem_cons_of_mem _ hcalled, hdrain⟩
  unfold State.ensureAlloyRuntime
  cases hslot : s.alloyReconcileDrain with
  | some drain =>
    have hhead := h.slot
    rw [hslot] at hhead
    obtain ⟨d, hd, hnumber⟩ := Option.map_eq_some_iff.mp hhead.symm
    have hmem : d ∈ s.drains := List.mem_of_mem_head? hd
    have hrunning : d.running = true := by
      obtain ⟨number, phase⟩ := d
      cases phase with
      | reconciling call outcome => rfl
      | exited failure => exact absurd ⟨number, failure, hmem⟩ hexited
    dsimp only
    exact { h with
      slot := hhead
      latest := fun p hp => by rw [← Option.some.inj hp]
      waiting := List.forall_mem_cons.mpr
        ⟨⟨Nat.lt_succ_self _, List.mem_cons_self, hnumber ▸ (h.fresh d hmem).1⟩, hwaiting⟩
      progress := nofun
      drained := fun _ => ⟨d, hmem, hrunning⟩
      settled := fun p hp hnone w hw heq => by
        rcases List.mem_cons.mp hw with rfl | hw
        · exact absurd (hnumber ▸ heq.symm) ((h.fresh d hmem).2 p hp)
        · exact (h.settled p hp hnone w hw heq).cons _
      served := each_cons.mpr ⟨nofun, h.served⟩ }
  | none =>
    have hnone : s.drains = [] := by
      have hhead := h.slot
      rw [hslot] at hhead
      exact List.head?_eq_none_iff.mp (Option.map_eq_none_iff.mp hhead.symm)
    simp only [State.loop, hnone, List.nil_append]
    exact { h with
      slot := rfl
      one := le_refl _
      latest := nofun
      waiting := List.forall_mem_cons.mpr ⟨⟨Nat.lt_succ_self _, by simp, Nat.lt_succ_self _⟩,
        fun w hw => ⟨(hwaiting w hw).1, List.mem_cons_of_mem _ (hwaiting w hw).2.1,
          Nat.lt_succ_of_lt (hwaiting w hw).2.2⟩⟩
      fresh := List.forall_mem_singleton.mpr
        ⟨Nat.lt_succ_self _, fun p hp => Nat.ne_of_lt (h.past p hp)⟩
      past := fun p hp => Nat.lt_succ_of_lt (h.past p hp)
      progress := by
        intro _ d hd w hw heq
        rw [List.mem_singleton] at hd
        subst hd
        rcases List.mem_cons.mp hw with rfl | hw
        · exact ⟨le_refl _, by simp⟩
        · exact absurd heq (Nat.ne_of_lt (h.waiting w hw).2.2)
      drained := fun hne => absurd rfl hne
      settled := fun p hp hnone w hw heq => by
        rcases List.mem_cons.mp hw with rfl | hw
        · exact absurd heq.symm (Nat.ne_of_lt (h.past p hp))
        · exact ((h.settled p hp hnone w hw heq).cons _).cons _
      served := each_cons.mpr ⟨nofun, each_cons.mpr ⟨nofun, h.served⟩⟩ }

theorem Inv.settle {drain : ℕ} {call : Call Input} (h : Inv s) (failure : Option Error)
    (hdrains : s.drains = [⟨drain, .reconciling call none⟩]) :
    Inv { s with
      drains := [⟨drain, .reconciling call (some failure)⟩]
      log := outcomeEvent call.number failure :: s.log } := by
  have hmem : ⟨drain, .reconciling call none⟩ ∈ s.drains := by simp [hdrains]
  have hslot : s.alloyReconcileDrain = some drain := by simp [h.slot, hdrains]
  obtain ⟨hdrain, hfresh⟩ := h.fresh _ hmem
  have hother : ∀ n, outcomeEvent call.number failure ≠ .resolved n := by
    cases failure <;> nofun
  exact { h with
    slot := hslot
    one := le_refl _
    waiting := fun w hw => ⟨(h.waiting w hw).1, List.mem_cons_of_mem _ (h.waiting w hw).2.1,
      (h.waiting w hw).2.2⟩
    fresh := List.forall_mem_singleton.mpr ⟨hdrain, hfresh⟩
    progress := by
      intro hpending d hd w hw heq
      rw [List.mem_singleton] at hd
      subst hd
      obtain ⟨hle, hsub⟩ := h.progress hpending _ hmem w hw heq
      cases failure with
      | none => exact ⟨hle, hsub.cons_cons _⟩
      | some error => exact trivial
    drained := fun _ => ⟨_, List.mem_singleton_self _, rfl⟩
    settled := fun p hp hnone w hw heq => (h.settled p hp hnone w hw heq).cons _
    served := each_cons.mpr ⟨fun n heq => absurd heq (hother n), h.served⟩ }

theorem Inv.clear {drain : ℕ} {failure : Option Error} (h : Inv s)
    (hdrains : s.drains = [⟨drain, .exited failure⟩]) :
    Inv { s with
      alloyReconcileDrain := none, drains := [], settled := (drain, failure) :: s.settled } := by
  have hmem : ⟨drain, .exited failure⟩ ∈ s.drains := by simp [hdrains]
  obtain ⟨hdrain, hfresh⟩ := h.fresh _ hmem
  have hpending : s.pendingAlloyReconcile = none := by
    by_contra hne
    obtain ⟨d, hd, hrunning⟩ := h.drained hne
    rw [hdrains, List.mem_singleton] at hd
    subst hd
    exact nomatch hrunning
  exact { h with
    slot := rfl
    one := Nat.zero_le _
    fresh := nofun
    past := List.forall_mem_cons.mpr ⟨hdrain, h.past⟩
    progress := nofun
    drained := fun hne => absurd hpending hne
    settled := by
      intro p hp hnone w hw heq
      rcases List.mem_cons.mp hp with rfl | hp
      · obtain rfl : failure = none := hnone
        exact h.progress hpending _ hmem w hw heq
      · exact h.settled p hp hnone w hw heq }

theorem Inv.answer {before after : List (ℕ × ℕ)} {call drain : ℕ} {failure : Option Error}
    (h : Inv s) (hw : s.waiting = before ++ (call, drain) :: after)
    (hsettled : (drain, failure) ∈ s.settled) :
    Inv { s with waiting := before ++ after, log := answerEvent call failure :: s.log } := by
  have hmem : (call, drain) ∈ s.waiting := by simp [hw]
  have hsub : ∀ w ∈ before ++ after, w ∈ s.waiting := by
    intro w hin
    rw [hw]
    rcases List.mem_append.mp hin with hin | hin
    · exact List.mem_append_left _ hin
    · exact List.mem_append_right _ (List.mem_cons_of_mem _ hin)
  exact { h with
    waiting := fun w hin => ⟨(h.waiting w (hsub w hin)).1,
      List.mem_cons_of_mem _ (h.waiting w (hsub w hin)).2.1, (h.waiting w (hsub w hin)).2.2⟩
    progress := fun hnone d hd w hin heq => (h.progress hnone d hd w (hsub w hin) heq).cons _
    settled := fun p hp hnone w hin heq => (h.settled p hp hnone w (hsub w hin) heq).cons _
    served := by
      refine each_cons.mpr ⟨fun n heq => ?_, h.served⟩
      cases failure with
      | none =>
        obtain rfl : call = n := by simpa [answerEvent] using heq
        exact h.settled _ hsettled rfl _ hmem rfl
      | some error => exact nomatch heq }

theorem Inv.step (h : Inv s) (hs : Step s s') (ht : Timely s s') : Inv s' := by
  cases hs with
  | call input =>
    have hexited : ¬ Exited s := by
      intro hexit
      have hcalls := ht hexit
      unfold State.ensureAlloyRuntime at hcalls
      split at hcalls
      · simp at hcalls
      · simp only [State.loop] at hcalls
        simp at hcalls
    exact h.call hexited input
  | settle failure hd =>
    obtain ⟨hone, rfl, rfl⟩ := eq_singleton h.one hd
    exact h.settle failure hone
  | loop hd =>
    obtain ⟨hone, rfl, rfl⟩ := eq_singleton h.one hd
    exact h.loop hone
  | clear hd =>
    obtain ⟨hone, rfl, rfl⟩ := eq_singleton h.one hd
    exact h.clear hone
  | answer hw hsettled => exact h.answer hw hsettled

theorem Reachable.inv (h : Reachable Timely s) : Inv s := by
  induction h with
  | initial =>
    constructor
    case served => exact each_nil _
    all_goals simp
  | step _ hs hp ih => exact ih.step hs hp

theorem Inv.neverLost (h : Inv s) : NeverLost s := by
  constructor
  · exact le_trans List.countP_le_length h.one
  · intro call after before heq
    exact h.served after _ before heq call rfl
  · intro hidle
    by_contra hne
    obtain ⟨d, hd, hrunning⟩ := h.drained hne
    exact absurd (hidle d hd) (by simp [hrunning])

end

/-- In every run in which no call lands between the exit of a drain's loop and its `finally`
callback, no reconcile is lost. -/
theorem alloy_reconciles_never_lost (s : State Input Error) (h : Reachable Timely s) :
    NeverLost s :=
  h.inv.neverLost

theorem timely_of_calls {s s' : State Input Error} (h : s'.calls = s.calls) : Timely s s' :=
  fun _ => h

theorem timely_call {s : State Input Error} (input : Input)
    (h : ∀ d ∈ s.drains, d.running = true) : Timely s (s.ensureAlloyRuntime input) := by
  rintro ⟨drain, failure, hmem⟩
  exact nomatch h _ hmem

/-- Two calls come while the reconcile of a first one runs. What the later of them asks for is
reconciled next, and the other resolves with it. -/
def coalesced : State Unit Unit :=
  { settled := [(0, none)]
    waiting := [(0, 0)]
    calls := 3
    started := 1
    log := [.resolved 1, .resolved 2, .succeeded 2, .began 2, .succeeded 0, .called 2, .called 1,
      .began 0, .called 0] }

theorem coalesced_reachable : Reachable Timely coalesced := by
  have hcall := Reachable.initial.step (.call ({} : State Unit Unit) ()) (timely_call _ nofun)
  have hagain := hcall.step (.call _ ())
    (timely_call _ (by simp [State.ensureAlloyRuntime, State.loop, Drain.running]))
  have hcalled := hagain.step (.call _ ())
    (timely_call _ (by simp [State.ensureAlloyRuntime, State.loop, Drain.running]))
  have hfirst := hcalled.step (@Step.settle _ _ _ [] [] 0 ⟨0, ()⟩ none rfl) (timely_of_calls rfl)
  have hsecond := hfirst.step (@Step.loop _ _ _ [] [] 0 ⟨0, ()⟩ none rfl) (timely_of_calls rfl)
  have hsettled := hsecond.step (@Step.settle _ _ _ [] [] 0 ⟨2, ()⟩ none rfl) (timely_of_calls rfl)
  have hexited := hsettled.step (@Step.loop _ _ _ [] [] 0 ⟨2, ()⟩ none rfl) (timely_of_calls rfl)
  have hcleared := hexited.step (@Step.clear _ _ _ [] [] 0 none rfl) (timely_of_calls rfl)
  have hlast := hcleared.step (@Step.answer _ _ _ [] [(1, 0), (0, 0)] 2 0 none rfl
    List.mem_cons_self) (timely_of_calls rfl)
  exact hlast.step (@Step.answer _ _ _ [] [(0, 0)] 1 0 none rfl List.mem_cons_self)
    (timely_of_calls rfl)

theorem alloy_reconciles_never_lost_coalesced : NeverLost coalesced :=
  alloy_reconciles_never_lost coalesced coalesced_reachable

def first (phase : Phase Unit Unit) (log : List Event) : State Unit Unit :=
  { alloyReconcileDrain := some 0
    drains := [⟨0, phase⟩]
    waiting := [(0, 0)]
    calls := 1
    started := 1
    log := log }

def succeeded : State Unit Unit := first (.exited none) [.succeeded 0, .began 0, .called 0]

theorem succeeded_reachable : Reachable (fun _ _ => True) succeeded := by
  have hdrains (outcome : Option (Option Unit)) (log : List Event) :
      (first (.reconciling ⟨0, ()⟩ outcome) log).drains =
        [] ++ ⟨0, .reconciling ⟨0, ()⟩ outcome⟩ :: [] := rfl
  have hcall : Reachable (fun _ _ => True)
      (first (.reconciling ⟨0, ()⟩ none) [.began 0, .called 0]) :=
    .step .initial (.call {} ()) trivial
  have hsettle : Reachable (fun _ _ => True)
      (first (.reconciling ⟨0, ()⟩ (some none)) [.succeeded 0, .began 0, .called 0]) :=
    .step hcall (.settle none (hdrains _ _)) trivial
  exact .step hsettle (.loop (hdrains _ _)) trivial

/-- A call that lands behind the exit of the loop resolves without a reconcile of its own, and its
input is left pending with no drain. -/
theorem alloy_reconcile_lost :
    ∃ s : State Unit Unit, Reachable (fun _ _ => True) s ∧ s.drains = [] ∧
      s.alloyReconcileDrain = none ∧ s.pendingAlloyReconcile ≠ none ∧
      s.log = [.resolved 1, .called 1, .succeeded 0, .began 0, .called 0] ∧ ¬ NeverLost s := by
  have hcall := succeeded_reachable.step (.call succeeded ()) trivial
  have hdrains : (succeeded.ensureAlloyRuntime ()).drains = [] ++ ⟨0, .exited none⟩ :: [] := rfl
  have hclear := hcall.step (.clear hdrains) trivial
  have hwaiting : (succeeded.ensureAlloyRuntime ()).waiting = [] ++ (1, 0) :: [(0, 0)] := rfl
  have hanswer := hclear.step (.answer hwaiting List.mem_cons_self) trivial
  refine ⟨_, hanswer, rfl, rfl, nofun, rfl, fun h => ?_⟩
  have hnone := h.drained nofun
  exact nomatch hnone

end NouvaAgent.AlloyDrain
