import Mathlib.Data.List.Nodup
import NouvaAgent.Interaction.Promises

namespace NouvaAgent

open Interaction Relation

namespace SerializedTask

variable {ε α τ : Type}

/-- The runner, with the promises there are. What `run` returned for each task that was submitted,
which tasks were called and what became of them is kept with it, in the order in which it happened:
every task is named by the promise that its caller has. -/
structure State (ε α τ : Type) where
  promises : Promises ε α τ
  tail : ℕ
  submitted : List (ℕ × τ) := []
  called : List (ℕ × τ) := []
  finished : List (ℕ × Except ε α) := []

variable (undefined : α)

def createSerializedTaskRunner : State ε α τ where
  promises := [.settled (.ok undefined)]
  tail := 0

/-- `then(task)`: without a second handler, what is rejected is passed on. -/
def callTask (task : τ) : Except ε α → Reply ε α τ
  | .ok _ => .call task
  | .error error => .settle (.error error)

/-- `then(() => undefined, () => undefined)`. -/
def absorb : Except ε α → Reply ε α τ := fun _ => .settle (.ok undefined)

def run (s : State ε α τ) (task : τ) : State ε α τ :=
  let result := s.promises.length
  let chained := s.promises.chain s.tail (callTask task)
  { s with
    promises := chained.chain result (absorb undefined)
    tail := chained.length
    submitted := s.submitted ++ [(result, task)] }

def calls (promise : ℕ) : Promise ε α τ → List (ℕ × τ)
  | .running task => [(promise, task)]
  | _ => []

inductive Step : State ε α τ → State ε α τ → Prop
  | run (s : State ε α τ) (task : τ) : Step s (run undefined s task)
  | job {s : State ε α τ} {i : ℕ} {p : Promise ε α τ} (h : s.promises.job i = some p) :
      Step s { s with promises := s.promises.set i p, called := s.called ++ calls i p }
  | finish {s : State ε α τ} {i : ℕ} {task : τ} (outcome : Except ε α)
      (h : s.promises[i]? = some (.running task)) :
      Step s { s with
        promises := s.promises.set i (.finished task outcome)
        finished := s.finished ++ [(i, outcome)] }

/-- The runner in the course of time, in which it may also be left alone. -/
structure Run (σ : ℕ → State ε α τ) : Prop where
  initial : σ 0 = createSerializedTaskRunner undefined
  next : ∀ n, σ (n + 1) = σ n ∨ Step undefined (σ n) (σ (n + 1))

inductive Stage (s : State ε α τ) (k : ℕ) (task : τ) : Prop
  | waits (hc : s.called.length ≤ k)
      (h : s.promises[2 * k + 1]? = some (.waiting (2 * k) (callTask task)))
  | runs (hc : s.called.length = k + 1) (hf : s.finished.length = k)
      (h : s.promises[2 * k + 1]? = some (.running task))
  | ended (outcome : Except ε α) (hf : s.finished[k]? = some (2 * k + 1, outcome))
      (h : s.promises[2 * k + 1]? = some (.finished task outcome) ∨
        s.promises[2 * k + 1]? = some (.settled outcome))

inductive Tail (s : State ε α τ) (k : ℕ) : Prop
  | waits (j : ℕ) (hk : k = j + 1)
      (h : s.promises[2 * k]? = some (.waiting (2 * j + 1) (absorb undefined)))
  | settled (h : s.promises[2 * k]? = some (.settled (.ok undefined)))
      (hf : k ≤ s.finished.length)

structure Inv (s : State ε α τ) : Prop where
  length : s.promises.length = 2 * s.submitted.length + 1
  tail : s.tail = 2 * s.submitted.length
  named : ∀ k x, s.submitted[k]? = some x → x.1 = 2 * k + 1
  called : s.called <+: s.submitted
  finished : s.finished.map Prod.fst <+: s.called.map Prod.fst
  exclusive : s.called.length ≤ s.finished.length + 1
  stages : ∀ k x, s.submitted[k]? = some x → Stage s k x.2
  tails : ∀ k ≤ s.submitted.length, Tail undefined s k

variable {undefined : α} {s s' : State ε α τ}

theorem inv_initial : Inv undefined (createSerializedTaskRunner undefined : State ε α τ) where
  length := rfl
  tail := rfl
  named := nofun
  called := List.prefix_refl _
  finished := List.prefix_refl _
  exclusive := Nat.zero_le _
  stages := nofun
  tails := fun k hk => by
    obtain rfl := Nat.le_zero.mp hk
    exact .settled rfl (Nat.le_refl 0)

theorem prefix_concat {β : Type} {l l' : List β} {x : β} (h : l <+: l')
    (hx : l'[l.length]? = some x) : l ++ [x] <+: l' := by
  obtain ⟨rest, rfl⟩ := h
  rw [List.getElem?_append_right (Nat.le_refl _), Nat.sub_self] at hx
  cases rest with
  | nil => exact nomatch hx
  | cons y rest =>
    obtain rfl := Option.some.inj hx
    exact ⟨rest, List.append_cons l y rest ▸ rfl⟩

theorem Stage.other {k : ℕ} {task : τ} (h : Stage s k task)
    (hp : s'.promises[2 * k + 1]? = s.promises[2 * k + 1]?) (hc : s'.called = s.called)
    (hf : s'.finished = s.finished) : Stage s' k task := by
  cases h with
  | waits hcalled h => exact .waits (hc ▸ hcalled) (hp.trans h)
  | runs hcalled hfinished h => exact .runs (hc ▸ hcalled) (hf ▸ hfinished) (hp.trans h)
  | ended outcome hfinished h => exact .ended outcome (hf ▸ hfinished) (hp ▸ h)

theorem Tail.other {k : ℕ} (h : Tail undefined s k)
    (hp : s'.promises[2 * k]? = s.promises[2 * k]?)
    (hf : s.finished.length ≤ s'.finished.length) : Tail undefined s' k := by
  cases h with
  | waits j hk h => exact .waits j hk (hp.trans h)
  | settled h hfinished => exact .settled (hp.trans h) (hfinished.trans hf)

namespace Inv

theorem lt_of_submitted {k : ℕ} {x : ℕ × τ} (h : s.submitted[k]? = some x) :
    k < s.submitted.length := (List.getElem?_eq_some_iff.mp h).1

theorem lt_of_result (h : Inv undefined s) {k : ℕ} {x : ℕ × τ} (hk : s.submitted[k]? = some x) :
    2 * k + 1 < s.promises.length := by
  have hlength := h.length
  have hlt := lt_of_submitted hk
  omega

theorem finished_le (h : Inv undefined s) : s.finished.length ≤ s.called.length := by
  simpa using h.finished.length_le

theorem called_le (h : Inv undefined s) : s.called.length ≤ s.submitted.length :=
  h.called.length_le

theorem called_at (h : Inv undefined s) {k : ℕ} (hk : k < s.called.length) :
    s.called[k]? = s.submitted[k]? := by
  obtain ⟨rest, hrest⟩ := h.called
  rw [← hrest, List.getElem?_append_left hk]

theorem submitted_run {task : τ} {k : ℕ} {x : ℕ × τ}
    (h : (SerializedTask.run undefined s task).submitted[k]? = some x) :
    s.submitted[k]? = some x ∨ k = s.submitted.length ∧ x = (s.promises.length, task) := by
  by_cases hk : k < s.submitted.length
  · exact .inl ((List.getElem?_append_left hk).symm.trans h)
  · have hlast := lt_of_submitted h
    have hlength : (SerializedTask.run undefined s task).submitted.length =
      s.submitted.length + 1 := List.length_append
    obtain rfl : k = s.submitted.length := by omega
    exact .inr ⟨rfl, Option.some.inj (h.symm.trans List.getElem?_concat_length)⟩

theorem run (h : Inv undefined s) (task : τ) : Inv undefined (run undefined s task) := by
  have hlen := h.length
  have hold : ∀ i < s.promises.length,
      (SerializedTask.run undefined s task).promises[i]? = s.promises[i]? := fun i hi =>
    (Promises.getElem?_chain_of_lt (hi.trans (Promises.length_chain ▸ Nat.lt_succ_self _))).trans
      (Promises.getElem?_chain_of_lt hi)
  have hresult : (SerializedTask.run undefined s task).promises[s.promises.length]? =
      some (.waiting s.tail (callTask task)) :=
    (Promises.getElem?_chain_of_lt (Promises.length_chain ▸ Nat.lt_succ_self _)).trans
      Promises.getElem?_chain_length
  have hlast : (SerializedTask.run undefined s task).promises[s.promises.length + 1]? =
      some (.waiting s.promises.length (absorb undefined)) := by
    have hlength : (s.promises.chain s.tail (callTask task)).length = s.promises.length + 1 :=
      Promises.length_chain
    rw [← hlength]
    exact Promises.getElem?_chain_length
  have hsubmitted : (SerializedTask.run undefined s task).submitted.length =
    s.submitted.length + 1 := List.length_append
  have hpromises : (SerializedTask.run undefined s task).promises.length =
    s.promises.length + 1 + 1 := Promises.length_chain.trans (congrArg _ Promises.length_chain)
  exact {
    length := by omega
    tail := by
      have htail : (SerializedTask.run undefined s task).tail = s.promises.length + 1 :=
        Promises.length_chain
      omega
    named := fun k x hk => by
      rcases submitted_run hk with hk | ⟨rfl, rfl⟩
      · exact h.named k x hk
      · exact hlen
    called := h.called.trans (List.prefix_append _ _)
    finished := h.finished
    exclusive := h.exclusive
    stages := fun k x hk => by
      rcases submitted_run hk with hk | ⟨rfl, rfl⟩
      · have hlt := lt_of_submitted hk
        exact (h.stages k x hk).other (hold _ (by omega)) rfl rfl
      · exact .waits h.called_le (hlen ▸ h.tail ▸ hresult)
    tails := fun k hk => by
      by_cases hle : k ≤ s.submitted.length
      · exact (h.tails k hle).other (hold _ (by omega)) (Nat.le_refl _)
      · obtain rfl : k = s.submitted.length + 1 := by omega
        refine .waits s.submitted.length rfl ?_
        rw [← hlen, Nat.mul_add, Nat.mul_one, ← hlast, hlen] }

theorem call (h : Inv undefined s) {task : τ} {k : ℕ}
    (hk : s.submitted[k]? = some (2 * k + 1, task)) (hc : s.called.length = k)
    (hf : s.finished.length = k) :
    Inv undefined { s with
      promises := s.promises.set (2 * k + 1) (.running task)
      called := s.called ++ [(2 * k + 1, task)] } where
  length := by rw [List.length_set]; exact h.length
  tail := h.tail
  named := h.named
  called := prefix_concat h.called (hc.symm ▸ hk)
  finished := by
    rw [List.map_append]
    exact h.finished.trans (List.prefix_append _ _)
  exclusive := by
    rw [List.length_append, List.length_singleton]
    exact Nat.succ_le_succ (hc.trans hf.symm).le
  stages := fun j x hj => by
    by_cases hjk : j = k
    · subst hjk
      rw [hk] at hj
      cases hj
      have hlt : 2 * j + 1 < s.promises.length := h.lt_of_result hk
      exact .runs (by simp [hc]) hf (List.getElem?_set_self hlt)
    · have hsame : (s.promises.set (2 * k + 1) (.running task))[2 * j + 1]? =
          s.promises[2 * j + 1]? := List.getElem?_set_ne (by omega)
      cases h.stages j x hj with
      | waits hcalled h => exact .waits (by simp; omega) (hsame.trans h)
      | runs hcalled hfinished h => exact absurd (hfinished.symm.trans hf) hjk
      | ended outcome hfinished h => exact .ended outcome hfinished (hsame.symm ▸ h)
  tails := fun j hj => (h.tails j hj).other (List.getElem?_set_ne (by omega)) (Nat.le_refl _)

theorem finish (h : Inv undefined s) {task : τ} {k : ℕ} (outcome : Except ε α)
    (hk : s.submitted[k]? = some (2 * k + 1, task)) (hc : s.called.length = k + 1)
    (hf : s.finished.length = k) :
    Inv undefined { s with
      promises := s.promises.set (2 * k + 1) (.finished task outcome)
      finished := s.finished ++ [(2 * k + 1, outcome)] } where
  length := by rw [List.length_set]; exact h.length
  tail := h.tail
  named := h.named
  called := h.called
  finished := by
    have hcalled : s.called[k]? = some (2 * k + 1, task) := (h.called_at (by omega)).trans hk
    rw [List.map_append]
    refine prefix_concat h.finished ?_
    rw [List.length_map, hf, List.getElem?_map, hcalled]
    rfl
  exclusive := by
    rw [List.length_append, List.length_singleton]
    exact h.exclusive.trans (Nat.le_succ _)
  stages := fun j x hj => by
    by_cases hjk : j = k
    · subst hjk
      rw [hk] at hj
      cases hj
      have hlt : 2 * j + 1 < s.promises.length := h.lt_of_result hk
      exact .ended outcome (hf ▸ List.getElem?_concat_length) (.inl (List.getElem?_set_self hlt))
    · have hsame : (s.promises.set (2 * k + 1) (.finished task outcome))[2 * j + 1]? =
          s.promises[2 * j + 1]? := List.getElem?_set_ne (by omega)
      cases h.stages j x hj with
      | waits hcalled h => exact .waits hcalled (hsame.trans h)
      | runs hcalled hfinished h => exact absurd (hfinished.symm.trans hf) hjk
      | ended o hfinished h =>
        refine .ended o ?_ (hsame.symm ▸ h)
        rw [List.getElem?_append_left (List.getElem?_eq_some_iff.mp hfinished).1]
        exact hfinished
  tails := fun j hj => (h.tails j hj).other (List.getElem?_set_ne (by omega)) (by simp)

theorem adopt (h : Inv undefined s) {k : ℕ} {outcome : Except ε α}
    (hf : s.finished[k]? = some (2 * k + 1, outcome)) :
    Inv undefined { s with promises := s.promises.set (2 * k + 1) (.settled outcome) } where
  length := by rw [List.length_set]; exact h.length
  tail := h.tail
  named := h.named
  called := h.called
  finished := h.finished
  exclusive := h.exclusive
  stages := fun j x hj => by
    by_cases hjk : j = k
    · subst hjk
      have hlt : 2 * j + 1 < s.promises.length := h.lt_of_result hj
      exact .ended outcome hf (.inr (List.getElem?_set_self hlt))
    · exact (h.stages j x hj).other (List.getElem?_set_ne (by omega)) rfl rfl
  tails := fun j hj => (h.tails j hj).other (List.getElem?_set_ne (by omega)) (Nat.le_refl _)

theorem absorbed (h : Inv undefined s) {k : ℕ} (hf : k < s.finished.length) :
    Inv undefined { s with
      promises := s.promises.set (2 * (k + 1)) (.settled (.ok undefined)) } where
  length := by rw [List.length_set]; exact h.length
  tail := h.tail
  named := h.named
  called := h.called
  finished := h.finished
  exclusive := h.exclusive
  stages := fun j x hj =>
    (h.stages j x hj).other (List.getElem?_set_ne (by omega)) rfl rfl
  tails := fun j hj => by
    by_cases hjk : j = k + 1
    · subst hjk
      have hlt : 2 * (k + 1) < s.promises.length := by
        have hlength := h.length
        have hlast : k + 1 ≤ s.submitted.length := hj
        omega
      exact .settled (List.getElem?_set_self hlt) hf
    · exact (h.tails j hj).other (List.getElem?_set_ne (by omega)) (Nat.le_refl _)

theorem promise_cases (h : Inv undefined s) {i : ℕ} (hi : i < s.promises.length) :
    (∃ k task, i = 2 * k + 1 ∧ s.submitted[k]? = some (i, task)) ∨
      ∃ k ≤ s.submitted.length, i = 2 * k := by
  have hlength := h.length
  obtain ⟨k, rfl | rfl⟩ : ∃ k, i = 2 * k ∨ i = 2 * k + 1 := ⟨i / 2, by omega⟩
  · exact .inr ⟨k, by omega, rfl⟩
  · have hk : k < s.submitted.length := by omega
    have hat : s.submitted[k]? = some s.submitted[k] := List.getElem?_eq_getElem hk
    refine .inl ⟨k, s.submitted[k].2, rfl, hat.trans (congrArg some ?_)⟩
    exact Prod.ext (h.named k _ hat) rfl

theorem job (h : Inv undefined s) {i : ℕ} {p : Promise ε α τ} (hj : s.promises.job i = some p) :
    Inv undefined { s with
      promises := s.promises.set i p, called := s.called ++ calls i p } := by
  rcases h.promise_cases (Promises.lt_of_job hj) with ⟨k, task, rfl, hk⟩ | ⟨k, hk, rfl⟩
  · cases h.stages k _ hk with
    | waits hcalled hp =>
      obtain ⟨o, hsettled, rfl⟩ := (Promises.job_waiting hp).mp hj
      cases h.tails k (lt_of_submitted hk).le with
      | waits j _ htail => exact nomatch htail.symm.trans hsettled
      | settled htail hfinished =>
        cases htail.symm.trans hsettled
        have hle := h.finished_le
        exact h.call hk (by omega) (by omega)
    | runs _ _ hp => exact nomatch (Promises.job_running hp).symm.trans hj
    | ended outcome hfinished hp =>
      rcases hp with hp | hp
      · cases (Promises.job_finished hp).symm.trans hj
        have hadopt := h.adopt hfinished
        exact (List.append_nil s.called).symm ▸ hadopt
      · exact nomatch (Promises.job_settled hp).symm.trans hj
  · cases h.tails k hk with
    | waits j hkj htail =>
      subst hkj
      obtain ⟨o, hsettled, rfl⟩ := (Promises.job_waiting htail).mp hj
      obtain ⟨x, hx⟩ : ∃ x, s.submitted[j]? = some x := ⟨_, List.getElem?_eq_getElem hk⟩
      have hfinished : j < s.finished.length := by
        cases h.stages j x hx with
        | waits _ hp => exact nomatch hp.symm.trans hsettled
        | runs _ _ hp => exact nomatch hp.symm.trans hsettled
        | ended _ hfinished _ => exact (List.getElem?_eq_some_iff.mp hfinished).1
      have habsorbed := h.absorbed hfinished
      exact (List.append_nil s.called).symm ▸ habsorbed
    | settled htail _ => exact nomatch (Promises.job_settled htail).symm.trans hj

theorem running (h : Inv undefined s) {i : ℕ} {task : τ}
    (hi : s.promises[i]? = some (.running task)) :
    ∃ k, i = 2 * k + 1 ∧ s.submitted[k]? = some (2 * k + 1, task) ∧
      s.called.length = k + 1 ∧ s.finished.length = k := by
  rcases h.promise_cases (Promises.lt_of_getElem? hi) with ⟨k, task', rfl, hk⟩ | ⟨k, hk, rfl⟩
  · cases h.stages k _ hk with
    | waits _ hp => exact nomatch hp.symm.trans hi
    | runs hcalled hfinished hp =>
      cases hp.symm.trans hi
      exact ⟨k, rfl, hk, hcalled, hfinished⟩
    | ended _ _ hp => rcases hp with hp | hp <;> exact nomatch hp.symm.trans hi
  · cases h.tails k hk with
    | waits j _ htail => exact nomatch htail.symm.trans hi
    | settled htail _ => exact nomatch htail.symm.trans hi

theorem step (h : Inv undefined s) (hs : Step undefined s s') : Inv undefined s' := by
  cases hs with
  | run task => exact h.run task
  | job hj => exact h.job hj
  | finish outcome hi =>
    obtain ⟨k, rfl, hk, hcalled, hfinished⟩ := h.running hi
    exact h.finish outcome hk hcalled hfinished

end Inv

/-- The tasks run one at a time, in the order in which they were submitted, and each caller has what
its own task came to. -/
structure Exclusive (s : State ε α τ) : Prop where
  order : s.called <+: s.submitted
  once : (s.called.map Prod.fst).Nodup
  finished : s.finished.map Prod.fst <+: s.called.map Prod.fst
  oneAtATime : s.called.length ≤ s.finished.length + 1
  alone : ∀ (i j : ℕ) (task task' : τ), s.promises[i]? = some (.running task) →
    s.promises[j]? = some (.running task') → i = j
  own : ∀ (k promise : ℕ) (task : τ) (outcome : Except ε α),
    s.submitted[k]? = some (promise, task) →
    s.promises[promise]? = some (.settled outcome) → s.finished[k]? = some (promise, outcome)

theorem Inv.exclusive_state (h : Inv undefined s) : Exclusive s where
  order := h.called
  once := by
    refine List.nodup_iff_getElem?_ne_getElem?.mpr fun i j hij hj heq => ?_
    rw [List.length_map] at hj
    rw [List.getElem?_map, List.getElem?_map, h.called_at (hij.trans hj), h.called_at hj,
      List.getElem?_eq_getElem ((hij.trans hj).trans_le h.called_le),
      List.getElem?_eq_getElem (hj.trans_le h.called_le)] at heq
    have hi' := h.named i _ (List.getElem?_eq_getElem ((hij.trans hj).trans_le h.called_le))
    have hj' := h.named j _ (List.getElem?_eq_getElem (hj.trans_le h.called_le))
    have hsame := Option.some.inj heq
    omega
  finished := h.finished
  oneAtATime := h.exclusive
  alone := fun i j task task' hi hj => by
    obtain ⟨k, rfl, -, -, hk⟩ := h.running hi
    obtain ⟨k', rfl, -, -, hk'⟩ := h.running hj
    rw [hk.symm.trans hk']
  own := fun k promise task outcome hk hsettled => by
    have hname : promise = 2 * k + 1 := h.named k _ hk
    subst hname
    cases h.stages k _ hk with
    | waits _ hp => exact nomatch hp.symm.trans hsettled
    | runs _ _ hp => exact nomatch hp.symm.trans hsettled
    | ended o hfinished hp =>
      rcases hp with hp | hp
      · exact nomatch hp.symm.trans hsettled
      · cases hp.symm.trans hsettled
        exact hfinished

theorem Step.promises (hinv : Inv undefined s) (hs : Step undefined s s') :
    ReflTransGen Promises.Step s.promises s'.promises := by
  cases hs with
  | run task =>
    have htail : s.tail < s.promises.length := by
      have hlength := hinv.length
      have htail := hinv.tail
      omega
    have hresult : s.promises.length < (s.promises.chain s.tail (callTask task)).length :=
      Promises.length_chain ▸ Nat.lt_succ_self _
    exact .tail (.single (.chain _ htail)) (.chain _ hresult)
  | job hj => exact .single (.job hj)
  | finish outcome hi => exact .single (.finish outcome hi)

theorem Step.submitted (hs : Step undefined s s') : s.submitted <+: s'.submitted := by
  cases hs with
  | run task => exact List.prefix_append _ _
  | job hj => exact List.prefix_refl _
  | finish outcome hi => exact List.prefix_refl _

theorem Step.finished (hs : Step undefined s s') : s.finished.length ≤ s'.finished.length := by
  cases hs with
  | run task => exact Nat.le_refl _
  | job hj => exact Nat.le_refl _
  | finish outcome hi => simp

def Returns (σ : ℕ → State ε α τ) (k : ℕ) : Prop :=
  ∀ n, k < (σ n).called.length → ∃ m, k < (σ m).finished.length

namespace Run

variable {σ : ℕ → State ε α τ} {n m : ℕ}

theorem inv (hr : Run undefined σ) (n : ℕ) : Inv undefined (σ n) := by
  induction n with
  | zero => exact hr.initial.symm ▸ inv_initial
  | succ n ih =>
    rcases hr.next n with heq | hs
    · exact heq.symm ▸ ih
    · exact ih.step hs

theorem promises (hr : Run undefined σ) : Promises.Run fun n => (σ n).promises where
  backward := by
    rw [hr.initial]
    intro i before handler hi
    cases i with
    | zero => exact nomatch hi
    | succ i => exact nomatch hi
  next := fun n => by
    rcases hr.next n with heq | hs
    · exact heq.symm ▸ .refl
    · exact hs.promises (hr.inv n)

theorem submitted_later (hr : Run undefined σ) (hnm : n ≤ m) :
    (σ n).submitted <+: (σ m).submitted := by
  induction hnm with
  | refl => exact List.prefix_refl _
  | step _ ih =>
    rcases hr.next _ with heq | hs
    · exact heq.symm ▸ ih
    · exact ih.trans hs.submitted

theorem finished_later (hr : Run undefined σ) (hnm : n ≤ m) :
    (σ n).finished.length ≤ (σ m).finished.length := by
  induction hnm with
  | refl => exact Nat.le_refl _
  | step _ ih =>
    rcases hr.next _ with heq | hs
    · exact heq.symm ▸ ih
    · exact ih.trans hs.finished

theorem finishes (hr : Run undefined σ) {k i : ℕ} (hreturns : ∀ j < k, Returns σ j)
    (hi : i ≤ 2 * k) : Promises.Finishes (fun n => (σ n).promises) i := by
  intro n task hrunning
  obtain ⟨j, rfl, -, hcalled, -⟩ := (hr.inv n).running hrunning
  obtain ⟨m, hm⟩ := hreturns j (by omega) n (by omega)
  refine ⟨max n m, Nat.le_max_left n m, fun task' hstill => ?_⟩
  obtain ⟨j', hj, -, -, hfinished⟩ := (hr.inv (max n m)).running hstill
  have hlater := hr.finished_later (Nat.le_max_right n m)
  omega

theorem calls (hr : Run undefined σ) (hf : Promises.Fair fun n => (σ n).promises) {k promise : ℕ}
    {task : τ} (hk : (σ n).submitted[k]? = some (promise, task))
    (hreturns : ∀ j < k, Returns σ j) : ∃ m, (σ m).called[k]? = some (promise, task) := by
  have hcalled : ∃ m, n ≤ m ∧ k < (σ m).called.length := by
    cases (hr.inv n).stages k _ hk with
    | waits _ hp =>
      have htail : 2 * k < (σ n).promises.length :=
        (Nat.lt_succ_self _).trans ((hr.inv n).lt_of_result hk)
      obtain ⟨m, outcome, -, hm⟩ := hr.promises.settles hf (2 * k)
        (fun i hi => hr.finishes hreturns hi) htail
      obtain ⟨m', p, hnm, hp', hrank⟩ := hr.promises.begins hf hp ⟨m, outcome, hm⟩
      have hk' := List.prefix_iff_getElem?.mp (hr.submitted_later hnm) k
        (Inv.lt_of_submitted hk)
      refine ⟨m', hnm, ?_⟩
      cases (hr.inv m').stages k _ hk' with
      | waits _ hwaits =>
        cases hp'.symm.trans hwaits
        exact absurd hrank (Nat.lt_irrefl 3)
      | runs hc _ _ => omega
      | ended _ hfinished _ =>
        have hlt := (List.getElem?_eq_some_iff.mp hfinished).1
        exact hlt.trans_le (hr.inv m').finished_le
    | runs hc _ _ => exact ⟨n, Nat.le_refl n, by omega⟩
    | ended _ hfinished _ =>
      have hlt := (List.getElem?_eq_some_iff.mp hfinished).1
      exact ⟨n, Nat.le_refl n, hlt.trans_le (hr.inv n).finished_le⟩
  obtain ⟨m, hnm, hm⟩ := hcalled
  obtain ⟨rest, hrest⟩ := hr.submitted_later hnm
  refine ⟨m, ((hr.inv m).called_at hm).trans ?_⟩
  rw [← hrest, List.getElem?_append_left (Inv.lt_of_submitted hk), hk]

theorem delivers (hr : Run undefined σ) (hf : Promises.Fair fun n => (σ n).promises)
    {k promise : ℕ} {task : τ} (hk : (σ n).submitted[k]? = some (promise, task))
    (hreturns : ∀ j ≤ k, Returns σ j) :
    ∃ m outcome, (σ m).finished[k]? = some (promise, outcome) ∧
      (σ m).promises[promise]? = some (.settled outcome) := by
  have hname : promise = 2 * k + 1 := (hr.inv n).named k _ hk
  subst hname
  obtain ⟨m, outcome, hnm, hsettled⟩ := hr.promises.settles hf (2 * k + 1)
    (fun i hi => hr.finishes (k := k + 1) (fun j hj => hreturns j (Nat.le_of_lt_succ hj))
      (by omega)) ((hr.inv n).lt_of_result hk)
  obtain ⟨rest, hrest⟩ := hr.submitted_later hnm
  have hk' : (σ m).submitted[k]? = some (2 * k + 1, task) := by
    rw [← hrest, List.getElem?_append_left (Inv.lt_of_submitted hk), hk]
  exact ⟨m, outcome, (hr.inv m).exclusive_state.own k _ task outcome hk' hsettled, hsettled⟩

end Run

/-- Under any interleaving of submissions with what the tasks come to, the tasks run one at a time
and in order, none is called twice, and no caller is given what another task came to. If every job
that is queued is done some time, then a task is called once those before it have finished, whether
they resolved or rejected, and its caller is told once it has finished itself. -/
theorem createSerializedTaskRunner_fair_mutex {σ : ℕ → State ε α τ} (hr : Run undefined σ) :
    (∀ n, Exclusive (σ n)) ∧
    (Promises.Fair (fun n => (σ n).promises) → ∀ (n k promise : ℕ) (task : τ),
      (σ n).submitted[k]? = some (promise, task) →
      ((∀ j < k, Returns σ j) → ∃ m, (σ m).called[k]? = some (promise, task)) ∧
      ((∀ j ≤ k, Returns σ j) → ∃ m outcome, (σ m).finished[k]? = some (promise, outcome) ∧
        (σ m).promises[promise]? = some (.settled outcome))) :=
  ⟨fun n => (hr.inv n).exclusive_state, fun hf _ _ _ _ hk =>
    ⟨fun hreturns => hr.calls hf hk hreturns, fun hreturns => hr.delivers hf hk hreturns⟩⟩

section

def moves : List (State String ℕ String → State String ℕ String) :=
  let job (i : ℕ) (p : Promise String ℕ String) (s : State String ℕ String) :=
    { s with promises := s.promises.set i p, called := s.called ++ calls i p }
  let finish (i : ℕ) (task : String) (outcome : Except String ℕ) (s : State String ℕ String) :=
    { s with
      promises := s.promises.set i (.finished task outcome)
      finished := s.finished ++ [(i, outcome)] }
  [(run 0 · "reconcile"), (run 0 · "repair"), job 1 (.running "reconcile"),
    finish 1 "reconcile" (.error "reconcile failed"), job 1 (.settled (.error "reconcile failed")),
    job 2 (.settled (.ok 0)), job 3 (.running "repair"), finish 3 "repair" (.ok 7),
    job 3 (.settled (.ok 7)), job 4 (.settled (.ok 0))]

def afterMoves (n : ℕ) : State String ℕ String :=
  (moves.take n).foldl (fun s move => move s) (createSerializedTaskRunner 0)

theorem afterMoves_of_le {n : ℕ} (h : 10 ≤ n) : afterMoves n = afterMoves 10 := by
  unfold afterMoves
  rw [List.take_of_length_le (show moves.length ≤ n from h),
    List.take_of_length_le (show moves.length ≤ 10 from Nat.le_refl 10)]

theorem afterMoves_run : Run 0 afterMoves where
  initial := rfl
  next := fun n => by
    match n with
    | 0 => exact .inr (.run _ _)
    | 1 => exact .inr (.run _ _)
    | 2 => exact .inr (.job rfl)
    | 3 => exact .inr (.finish _ rfl)
    | 4 => exact .inr (.job rfl)
    | 5 => exact .inr (.job rfl)
    | 6 => exact .inr (.job rfl)
    | 7 => exact .inr (.finish _ rfl)
    | 8 => exact .inr (.job rfl)
    | 9 => exact .inr (.job rfl)
    | n + 10 =>
      left
      rw [afterMoves_of_le (Nat.le_add_left 10 n), afterMoves_of_le (by omega)]

theorem afterMoves_fair : Promises.Fair fun n => (afterMoves n).promises := by
  intro n i _
  refine ⟨max n 10, Nat.le_max_left n 10, ?_⟩
  dsimp only
  rw [afterMoves_of_le (Nat.le_max_right n 10)]
  match i with
  | 0 | 1 | 2 | 3 | 4 => rfl
  | i + 5 => rfl

theorem afterMoves_returns (j : ℕ) (hj : j ≤ 1) : Returns afterMoves j := fun _ _ =>
  ⟨10, Nat.lt_succ_of_le hj⟩

theorem createSerializedTaskRunner_fair_mutex_after_rejection :
    Exclusive (afterMoves 7) ∧ ∃ m outcome, (afterMoves m).finished[1]? = some (3, outcome) ∧
      (afterMoves m).promises[3]? = some (.settled outcome) :=
  have hmutex := createSerializedTaskRunner_fair_mutex afterMoves_run
  ⟨hmutex.1 7, (hmutex.2 afterMoves_fair 2 1 3 "repair" rfl).2 afterMoves_returns⟩

end

end SerializedTask

end NouvaAgent
