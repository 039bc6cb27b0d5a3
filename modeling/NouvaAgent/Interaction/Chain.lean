import Mathlib.Data.List.Basic
import Mathlib.Data.List.Pairwise

namespace NouvaAgent.Interaction

variable {α : Type}

inductive LinkPhase
  | waiting
  | running
  | settled
  deriving DecidableEq, Repr

structure Link (α : Type) where
  task : α
  phase : LinkPhase
  deriving DecidableEq, Repr

/-- The promise `p.then(task).then(task')..`, as the tasks that are chained in it. -/
abbrev Chain (α : Type) := List (Link α)

namespace Chain

def Settled (chain : Chain α) : Prop := ∀ l ∈ chain.getLast?, l.phase = .settled

/-- A task has only begun if those before it have settled. -/
def Ordered (chain : Chain α) : Prop :=
  chain.Pairwise fun l l' => l'.phase ≠ .waiting → l.phase = .settled

def begun (chain : Chain α) : List α :=
  chain.flatMap fun l => if l.phase = .waiting then [] else [l.task]

def pending (chain : Chain α) : List α :=
  chain.flatMap fun l => if l.phase = .waiting then [l.task] else []

def running (chain : Chain α) : List α :=
  chain.flatMap fun l => if l.phase = .running then [l.task] else []

variable {chain before after : Chain α} {l : Link α} {task : α}

theorem ordered_nil : Ordered ([] : Chain α) := List.Pairwise.nil

theorem Ordered.add (h : Ordered chain) (task : α) : Ordered (chain ++ [⟨task, .waiting⟩]) := by
  refine List.pairwise_append.mpr ⟨h, List.pairwise_singleton _ _, fun l _ l' hl' hbegun => ?_⟩
  rw [List.mem_singleton.mp hl'] at hbegun
  exact absurd rfl hbegun

theorem Ordered.settled_before (h : Ordered (before ++ l :: after)) (hl : l.phase ≠ .waiting) :
    ∀ l' ∈ before, l'.phase = .settled := fun l' hl' =>
  (List.pairwise_append.mp h).2.2 l' hl' l List.mem_cons_self hl

theorem Ordered.waiting_after (h : Ordered (before ++ l :: after)) (hl : l.phase ≠ .settled) :
    ∀ l' ∈ after, l'.phase = .waiting := by
  intro l' hl'
  by_contra hbegun
  exact hl ((List.pairwise_cons.mp (List.pairwise_append.mp h).2.1).1 l' hl' hbegun)

theorem Ordered.all_settled (h : Ordered chain) (hs : chain.Settled) :
    ∀ l ∈ chain, l.phase = .settled := by
  cases hlast : chain.getLast? with
  | none =>
    rw [List.getLast?_eq_none_iff.mp hlast]
    exact nofun
  | some last =>
    have hphase := hs last hlast
    obtain ⟨init, rfl⟩ := List.getLast?_eq_some_iff.mp hlast
    intro l hl
    rw [List.mem_append, List.mem_singleton] at hl
    rcases hl with hl | rfl
    · exact h.settled_before (by simp [hphase]) l hl
    · exact hphase

theorem Ordered.change (h : Ordered (before ++ l :: after)) (l' : Link α)
    (hbefore : ∀ k ∈ before, k.phase = .settled) (hafter : ∀ k ∈ after, k.phase = .waiting) :
    Ordered (before ++ l' :: after) := by
  obtain ⟨hb, ha, -⟩ := List.pairwise_append.mp h
  refine List.pairwise_append.mpr ⟨hb, List.pairwise_cons.mpr ⟨fun k hk hbegun => ?_,
    (List.pairwise_cons.mp ha).2⟩, fun k hk _ _ _ => hbefore k hk⟩
  exact absurd (hafter k hk) hbegun

@[simp] theorem begun_append (chain more : Chain α) :
    begun (chain ++ more) = chain.begun ++ more.begun := List.flatMap_append

theorem begun_waiting (h : ∀ l ∈ chain, l.phase = .waiting) : chain.begun = [] :=
  List.flatMap_eq_nil_iff.mpr fun l hl => if_pos (h l hl)

theorem pending_waiting (h : ∀ l ∈ chain, l.phase = .waiting) :
    chain.pending = chain.map Link.task := by
  induction chain with
  | nil => rfl
  | cons l rest ih =>
    rw [List.forall_mem_cons] at h
    have hrest := ih h.2
    unfold pending at hrest ⊢
    rw [List.flatMap_cons, hrest, if_pos h.1]
    rfl

theorem pending_settled (h : ∀ l ∈ chain, l.phase = .settled) : chain.pending = [] :=
  List.flatMap_eq_nil_iff.mpr fun l hl => if_neg (by simp [h l hl])

theorem running_settled (h : ∀ l ∈ chain, l.phase = .settled) : chain.running = [] :=
  List.flatMap_eq_nil_iff.mpr fun l hl => if_neg (by simp [h l hl])

theorem running_waiting (h : ∀ l ∈ chain, l.phase = .waiting) : chain.running = [] :=
  List.flatMap_eq_nil_iff.mpr fun l hl => if_neg (by simp [h l hl])

theorem Ordered.begin (h : Ordered (before ++ ⟨task, .waiting⟩ :: after))
    (hs : before.Settled) : Ordered (before ++ ⟨task, .running⟩ :: after) ∧
      begun (before ++ ⟨task, .running⟩ :: after) =
        begun (before ++ ⟨task, .waiting⟩ :: after) ++ [task] := by
  have hbefore := Ordered.all_settled (List.pairwise_append.mp h).1 hs
  have hafter := h.waiting_after (by simp)
  refine ⟨h.change _ hbefore hafter, ?_⟩
  have hnone : after.begun = [] := begun_waiting hafter
  have hrunning : begun (⟨task, .running⟩ :: after) = task :: after.begun := rfl
  have hwaiting : begun (⟨task, .waiting⟩ :: after) = after.begun := rfl
  rw [begun_append, begun_append, hrunning, hwaiting, hnone, List.append_nil]

theorem Ordered.settle (h : Ordered (before ++ ⟨task, .running⟩ :: after)) :
    Ordered (before ++ ⟨task, .settled⟩ :: after) ∧
      begun (before ++ ⟨task, .settled⟩ :: after) =
        begun (before ++ ⟨task, .running⟩ :: after) := by
  refine ⟨h.change _ (h.settled_before (by simp)) (h.waiting_after (by simp)), ?_⟩
  have hsame : begun (⟨task, .settled⟩ :: after) = begun (⟨task, .running⟩ :: after) := rfl
  rw [begun_append, begun_append, hsame]

theorem Ordered.running_length (h : Ordered chain) : chain.running.length ≤ 1 := by
  induction chain with
  | nil => exact Nat.zero_le _
  | cons l rest ih =>
    have hcons : running (l :: rest) =
        (if l.phase = .running then [l.task] else []) ++ running rest := rfl
    rw [hcons]
    split
    · next hl =>
      have hwaiting : ∀ l' ∈ rest, l'.phase = .waiting :=
        @Ordered.waiting_after α [] rest l h (by simp [hl])
      rw [running_waiting hwaiting, List.append_nil]
      exact Nat.le_refl 1
    · exact ih (List.pairwise_cons.mp h).2

theorem Ordered.tasks (h : Ordered chain) :
    chain.map Link.task = chain.begun ++ chain.pending := by
  induction chain with
  | nil => rfl
  | cons l rest ih =>
    have hbegun : begun (l :: rest) =
        (if l.phase = .waiting then [] else [l.task]) ++ begun rest := rfl
    have hpending : pending (l :: rest) =
        (if l.phase = .waiting then [l.task] else []) ++ pending rest := rfl
    rw [hbegun, hpending, List.map_cons]
    split
    · next hl =>
      have hwaiting : ∀ l' ∈ rest, l'.phase = .waiting :=
        @Ordered.waiting_after α [] rest l h (by simp [hl])
      rw [begun_waiting hwaiting, pending_waiting hwaiting]
      rfl
    · rw [ih (List.pairwise_cons.mp h).2]
      rfl

end Chain

end NouvaAgent.Interaction
