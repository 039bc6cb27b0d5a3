import Mathlib.Data.List.Basic
import Mathlib.Logic.Relation
import Mathlib.Order.Nat

namespace NouvaAgent.Interaction

open Relation

variable {ε α τ : Type}

/-- What a handler comes back with: an outcome, or the promise of a task that it called. -/
inductive Reply (ε α τ : Type)
  | settle (outcome : Except ε α)
  | call (task : τ)

/-- A promise that `then` made waits for the promise at `before`. If its handler called a task, it
takes over what the promise of the task has come to, in a job of its own. -/
inductive Promise (ε α τ : Type)
  | waiting (before : ℕ) (handler : Except ε α → Reply ε α τ)
  | running (task : τ)
  | finished (task : τ) (outcome : Except ε α)
  | settled (outcome : Except ε α)

def Promise.rank : Promise ε α τ → ℕ
  | waiting _ _ => 3
  | running _ => 2
  | finished _ _ => 1
  | settled _ => 0

theorem Promise.rank_le (p : Promise ε α τ) : p.rank ≤ 3 := by
  cases p <;> simp [rank]

theorem Promise.settled_of_rank (p : Promise ε α τ) (h : p.rank = 0) :
    ∃ outcome, p = .settled outcome := by
  cases p with
  | settled outcome => exact ⟨outcome, rfl⟩
  | _ => exact nomatch h

def Reply.promise : Reply ε α τ → Promise ε α τ
  | settle outcome => .settled outcome
  | call task => .running task

abbrev Promises (ε α τ : Type) := List (Promise ε α τ)

namespace Promises

def chain (promises : Promises ε α τ) (before : ℕ)
    (handler : Except ε α → Reply ε α τ) : Promises ε α τ :=
  promises ++ [Promise.waiting before handler]

def job (promises : Promises ε α τ) (promise : ℕ) : Option (Promise ε α τ) :=
  match promises[promise]? with
  | some (.waiting before handler) =>
    match promises[before]? with
    | some (.settled outcome) => some (handler outcome).promise
    | _ => none
  | some (.finished _ outcome) => some (.settled outcome)
  | _ => none

inductive Step : Promises ε α τ → Promises ε α τ → Prop
  | chain {promises : Promises ε α τ} {before : ℕ} (handler : Except ε α → Reply ε α τ)
      (h : before < promises.length) : Step promises (promises.chain before handler)
  | job {promises : Promises ε α τ} {i : ℕ} {p : Promise ε α τ} (h : promises.job i = some p) :
      Step promises (promises.set i p)
  | finish {promises : Promises ε α τ} {i : ℕ} {task : τ} (outcome : Except ε α)
      (h : promises[i]? = some (.running task)) :
      Step promises (promises.set i (.finished task outcome))

def Backward (promises : Promises ε α τ) : Prop :=
  ∀ (i before : ℕ) handler, promises[i]? = some (.waiting before handler) → before < i

variable {promises promises' : Promises ε α τ} {i before : ℕ} {p p' : Promise ε α τ}
  {handler : Except ε α → Reply ε α τ} {outcome : Except ε α} {task : τ}

theorem job_waiting (h : promises[i]? = some (.waiting before handler)) :
    promises.job i = some p ↔
      ∃ outcome, promises[before]? = some (.settled outcome) ∧ p = (handler outcome).promise := by
  unfold job
  rw [h]
  dsimp only
  split
  · next outcome hb => simp [hb, eq_comm]
  · next hb =>
    refine ⟨nofun, ?_⟩
    rintro ⟨outcome, hsettled, -⟩
    exact absurd hsettled (hb outcome)

theorem job_running (h : promises[i]? = some (.running task)) : promises.job i = none := by
  unfold job
  rw [h]

theorem job_finished (h : promises[i]? = some (.finished task outcome)) :
    promises.job i = some (.settled outcome) := by
  unfold job
  rw [h]

theorem job_settled (h : promises[i]? = some (.settled outcome)) : promises.job i = none := by
  unfold job
  rw [h]

theorem lt_of_job (h : promises.job i = some p) : i < promises.length := by
  by_contra hlt
  unfold job at h
  rw [List.getElem?_eq_none (Nat.not_lt.mp hlt)] at h
  exact nomatch h

theorem length_chain : (promises.chain before handler).length = promises.length + 1 :=
  List.length_append

theorem getElem?_chain_of_lt (h : i < promises.length) :
    (promises.chain before handler)[i]? = promises[i]? := List.getElem?_append_left h

theorem getElem?_chain_length :
    (promises.chain before handler)[promises.length]? = some (.waiting before handler) := by
  simp [chain]

theorem lt_of_getElem? (h : promises[i]? = some p) : i < promises.length :=
  (List.getElem?_eq_some_iff.mp h).1

theorem job_rank (h : promises[i]? = some p) (hj : promises.job i = some p') :
    p'.rank < p.rank := by
  cases p with
  | waiting b k =>
    obtain ⟨o, -, rfl⟩ := (job_waiting h).mp hj
    cases hk : k o <;> simp [Reply.promise, Promise.rank]
  | running task => exact nomatch (job_running h).symm.trans hj
  | finished task o =>
    rw [job_finished h] at hj
    cases hj
    exact Nat.zero_lt_one
  | settled o => exact nomatch (job_settled h).symm.trans hj

theorem Step.cases_at (hs : Step promises promises') (h : promises[i]? = some p) :
    promises'[i]? = some p ∨ (∃ q, promises.job i = some q ∧ promises'[i]? = some q) ∨
      ∃ task outcome, p = .running task ∧ promises'[i]? = some (.finished task outcome) := by
  have hlt := lt_of_getElem? h
  cases hs with
  | chain handler hb => exact .inl ((getElem?_chain_of_lt hlt).trans h)
  | @job j q hj =>
    by_cases hij : j = i
    · subst hij
      exact .inr (.inl ⟨q, hj, List.getElem?_set_self hlt⟩)
    · exact .inl ((List.getElem?_set_ne hij).trans h)
  | @finish j task outcome hj =>
    by_cases hij : j = i
    · subst hij
      rw [h] at hj
      exact .inr (.inr ⟨task, outcome, Option.some.inj hj, List.getElem?_set_self hlt⟩)
    · exact .inl ((List.getElem?_set_ne hij).trans h)

theorem Step.goes_on (hs : Step promises promises') (h : promises[i]? = some p) :
    ∃ p', promises'[i]? = some p' ∧ (p' = p ∨ p'.rank < p.rank) := by
  obtain hsame | ⟨q, hj, hq⟩ | ⟨task, outcome, rfl, hq⟩ := hs.cases_at h
  · exact ⟨p, hsame, .inl rfl⟩
  · exact ⟨q, hq, .inr (job_rank h hj)⟩
  · exact ⟨_, hq, .inr Nat.one_lt_two⟩

theorem Step.length_le (hs : Step promises promises') : promises.length ≤ promises'.length := by
  cases hs with
  | chain handler hb => exact length_chain ▸ Nat.le_succ _
  | job hj => exact (List.length_set ..).symm.le
  | finish outcome hj => exact (List.length_set ..).symm.le

theorem Step.backward (hs : Step promises promises') (h : promises.Backward) :
    promises'.Backward := by
  intro i before handler hi
  by_cases hlt : i < promises.length
  · obtain ⟨p, hp⟩ : ∃ p, promises[i]? = some p := ⟨_, List.getElem?_eq_getElem hlt⟩
    obtain ⟨p', hp', hsame | hless⟩ := hs.goes_on hp
    · exact h i before handler (hp.trans (hsame ▸ hp' ▸ hi))
    · -- nothing has more left to be done than a promise that waits
      rw [hi] at hp'
      cases hp'
      exact absurd hless (Nat.not_lt.mpr p.rank_le)
  · cases hs with
    | chain k hb =>
      have hlast : i = promises.length := by
        have := lt_of_getElem? hi
        rw [length_chain] at this
        omega
      subst hlast
      rw [getElem?_chain_length] at hi
      obtain ⟨rfl, -⟩ := Promise.waiting.inj (Option.some.inj hi)
      exact hb
    | job hj => exact absurd (lt_of_getElem? hi) (by simpa using hlt)
    | finish outcome hj => exact absurd (lt_of_getElem? hi) (by simpa using hlt)

theorem backward_steps (hs : ReflTransGen Step promises promises') (h : promises.Backward) :
    promises'.Backward := by
  induction hs with
  | refl => exact h
  | tail _ hs ih => exact hs.backward ih

theorem steps_go_on (hs : ReflTransGen Step promises promises') (h : promises[i]? = some p) :
    ∃ p', promises'[i]? = some p' ∧ (p' = p ∨ p'.rank < p.rank) := by
  induction hs with
  | refl => exact ⟨p, h, .inl rfl⟩
  | tail _ hs ih =>
    obtain ⟨q, hq, hle⟩ := ih
    obtain ⟨p', hp', hle'⟩ := hs.goes_on hq
    refine ⟨p', hp', ?_⟩
    rcases hle with rfl | hless
    · exact hle'
    · rcases hle' with rfl | hless'
      · exact .inr hless
      · exact .inr (hless'.trans hless)

structure Run (σ : ℕ → Promises ε α τ) : Prop where
  backward : (σ 0).Backward
  next : ∀ n, ReflTransGen Step (σ n) (σ (n + 1))

def Fair (σ : ℕ → Promises ε α τ) : Prop :=
  ∀ n i, (σ n).job i ≠ none → ∃ m, n ≤ m ∧ (σ m).job i = none

def Finishes (σ : ℕ → Promises ε α τ) (i : ℕ) : Prop :=
  ∀ n task, (σ n)[i]? = some (.running task) →
    ∃ m, n ≤ m ∧ ∀ task', (σ m)[i]? ≠ some (.running task')

namespace Run

variable {σ : ℕ → Promises ε α τ} {n m : ℕ}

theorem later (hr : Run σ) (hnm : n ≤ m) : ReflTransGen Step (σ n) (σ m) := by
  induction hnm with
  | refl => exact .refl
  | step _ ih => exact ih.trans (hr.next _)

theorem backward_at (hr : Run σ) (n : ℕ) : (σ n).Backward :=
  backward_steps (hr.later (Nat.zero_le n)) hr.backward

theorem goes_on (hr : Run σ) (hnm : n ≤ m) (h : (σ n)[i]? = some p) :
    ∃ p', (σ m)[i]? = some p' ∧ (p' = p ∨ p'.rank < p.rank) :=
  steps_go_on (hr.later hnm) h

theorem settled_later (hr : Run σ) (hnm : n ≤ m) (h : (σ n)[i]? = some (.settled outcome)) :
    (σ m)[i]? = some (.settled outcome) := by
  obtain ⟨p, hp, rfl | hless⟩ := hr.goes_on hnm h
  · exact hp
  · exact absurd hless (Nat.not_lt_zero _)

theorem begins (hr : Run σ) (hf : Fair σ) (h : (σ n)[i]? = some (.waiting before handler))
    (hb : ∃ m outcome, (σ m)[before]? = some (.settled outcome)) :
    ∃ m p, n ≤ m ∧ (σ m)[i]? = some p ∧ p.rank < 3 := by
  obtain ⟨m, outcome, hm⟩ := hb
  have hsettled := hr.settled_later (Nat.le_max_right n m) hm
  obtain ⟨p, hp, rfl | hless⟩ := hr.goes_on (Nat.le_max_left n m) h
  · have hjob := (job_waiting hp).mpr ⟨outcome, hsettled, rfl⟩
    obtain ⟨k, hk, hnone⟩ := hf (max n m) i (by simp [hjob])
    obtain ⟨p', hp', rfl | hless⟩ := hr.goes_on hk hp
    · have hstill := (job_waiting hp').mpr ⟨outcome, hr.settled_later hk hsettled, rfl⟩
      exact nomatch hstill.symm.trans hnone
    · exact ⟨k, p', Nat.le_trans (Nat.le_max_left n m) hk, hp', hless⟩
  · exact ⟨max n m, p, Nat.le_max_left n m, hp, hless⟩

theorem settles_of_begun (hr : Run σ) (hf : Fair σ) (hfinishes : Finishes σ i)
    (h : (σ n)[i]? = some p) (hp : p.rank < 3) :
    ∃ m outcome, n ≤ m ∧ (σ m)[i]? = some (.settled outcome) := by
  have hfinished : ∀ {n task outcome}, (σ n)[i]? = some (.finished task outcome) →
      ∃ m outcome, n ≤ m ∧ (σ m)[i]? = some (.settled outcome) := by
    intro n task outcome hn
    obtain ⟨m, hnm, hnone⟩ := hf n i (by simp [job_finished hn])
    obtain ⟨q, hq, rfl | hless⟩ := hr.goes_on hnm hn
    · exact nomatch (job_finished hq).symm.trans hnone
    · obtain ⟨o, rfl⟩ := q.settled_of_rank (Nat.lt_one_iff.mp hless)
      exact ⟨m, o, hnm, hq⟩
  cases p with
  | waiting b k => exact absurd hp (Nat.lt_irrefl 3)
  | running task =>
    obtain ⟨m, hnm, hend⟩ := hfinishes n task h
    obtain ⟨q, hq, rfl | hless⟩ := hr.goes_on hnm h
    · exact absurd hq (hend task)
    · cases q with
      | waiting b k => exact absurd hless (by simp [Promise.rank])
      | running task' => exact absurd hless (by simp [Promise.rank])
      | finished task' o =>
        obtain ⟨k, o', hmk, hk⟩ := hfinished hq
        exact ⟨k, o', Nat.le_trans hnm hmk, hk⟩
      | settled o => exact ⟨m, o, hnm, hq⟩
  | finished task o => exact hfinished h
  | settled o => exact ⟨n, o, Nat.le_refl n, h⟩

theorem settles (hr : Run σ) (hf : Fair σ) (i : ℕ) (hfinishes : ∀ j ≤ i, Finishes σ j)
    (hlt : i < (σ n).length) : ∃ m outcome, n ≤ m ∧ (σ m)[i]? = some (.settled outcome) := by
  induction i using Nat.strongRecOn with
  | ind i ih =>
    obtain ⟨p, hp⟩ : ∃ p, (σ n)[i]? = some p := ⟨_, List.getElem?_eq_getElem hlt⟩
    have hbegun : ∃ m p, n ≤ m ∧ (σ m)[i]? = some p ∧ p.rank < 3 := by
      cases p with
      | waiting before handler =>
        have hbefore := hr.backward_at n i before handler hp
        obtain ⟨m, outcome, -, hm⟩ := ih before hbefore
          (fun j hj => hfinishes j (hj.trans hbefore.le)) (hbefore.trans hlt)
        exact hr.begins hf hp ⟨m, outcome, hm⟩
      | running task => exact ⟨n, _, Nat.le_refl n, hp, by simp [Promise.rank]⟩
      | finished task o => exact ⟨n, _, Nat.le_refl n, hp, by simp [Promise.rank]⟩
      | settled o => exact ⟨n, _, Nat.le_refl n, hp, by simp [Promise.rank]⟩
    obtain ⟨m, q, hnm, hq, hrank⟩ := hbegun
    obtain ⟨k, outcome, hmk, hk⟩ := hr.settles_of_begun hf (hfinishes i (Nat.le_refl i)) hq hrank
    exact ⟨k, outcome, Nat.le_trans hnm hmk, hk⟩

end Run

end Promises

end NouvaAgent.Interaction
