import Mathlib.Data.List.Basic

namespace NouvaAgent.Reading

variable {β ω ε α γ : Type}

/-- How reading from the front of an input may end: with a value and what is left, with a failure,
or because the input ran out. -/
inductive Outcome (β ω ε α : Type)
  | done (a : α) (rest : List β)
  | failed (e : ε)
  | starved (w : ω)

def Reader (β ω ε α : Type) : Type := List β → Outcome β ω ε α

namespace Reader

def pure (a : α) : Reader β ω ε α := fun input => .done a input

def fail (e : ε) : Reader β ω ε α := fun _ => .failed e

def bind (p : Reader β ω ε α) (f : α → Reader β ω ε γ) : Reader β ω ε γ := fun input =>
  match p input with
  | .done a rest => f a rest
  | .failed e => .failed e
  | .starved w => .starved w

instance : Monad (Reader β ω ε) where
  pure := pure
  bind := bind

def next (w : ω) : Reader β ω ε β
  | [] => .starved w
  | b :: rest => .done b rest

def take (w : ω) (n : ℕ) : Reader β ω ε (List β) := fun input =>
  if input.length < n then .starved w else .done (input.take n) (input.drop n)

def times (p : Reader β ω ε α) : ℕ → Reader β ω ε (List α)
  | 0 => pure []
  | n + 1 => bind p fun a => bind (times p n) fun as => pure (a :: as)

/-- `p` reads exactly `xs`, whatever comes after it, and makes `a` of it. -/
def Reads (p : Reader β ω ε α) (xs : List β) (a : α) : Prop :=
  ∀ rest, p (xs ++ rest) = .done a rest

/-- What was read or failed before more input came is the same with it. -/
def Extends (more : List β) : Outcome β ω ε α → Outcome β ω ε α → Prop
  | .done a rest, o => o = .done a (rest ++ more)
  | .failed e, o => o = .failed e
  | .starved _, _ => True

/-- More input at the end changes nothing, unless the input had run out. -/
def Steady (p : Reader β ω ε α) : Prop :=
  ∀ input more, Extends more (p input) (p (input ++ more))

@[simp] theorem pure_eq (a : α) : (Pure.pure a : Reader β ω ε α) = pure a := rfl

@[simp] theorem bind_eq (p : Reader β ω ε α) (f : α → Reader β ω ε γ) :
    (p >>= f) = bind p f := rfl

variable {p : Reader β ω ε α} {f : α → Reader β ω ε γ} {xs ys : List β} {a : α} {c : γ}

theorem reads_pure (a : α) : Reads (pure a : Reader β ω ε α) [] a := fun _ => rfl

theorem reads_bind (hp : Reads p xs a) (hf : Reads (f a) ys c) : Reads (bind p f) (xs ++ ys) c := by
  intro rest
  unfold bind
  rw [List.append_assoc, hp]
  exact hf rest

theorem reads_last (hp : Reads p xs a) (hf : Reads (f a) [] c) : Reads (bind p f) xs c := by
  have hread := reads_bind hp hf
  rwa [List.append_nil] at hread

theorem reads_map {g : α → γ} (hp : Reads p xs a) :
    Reads (bind p fun a => pure (g a)) xs (g a) := reads_last hp (reads_pure _)

theorem reads_next (w : ω) (b : β) : Reads (next w : Reader β ω ε β) [b] b := fun _ => rfl

theorem reads_take (w : ω) (xs : List β) : Reads (take w xs.length : Reader β ω ε _) xs xs := by
  intro rest
  unfold take
  rw [if_neg (by simp), List.take_left, List.drop_left]

theorem reads_times {g : γ → List β} {v : γ → α} (cs : List γ)
    (hp : ∀ c ∈ cs, Reads p (g c) (v c)) :
    Reads (times p cs.length) (cs.flatMap g) (cs.map v) := by
  induction cs with
  | nil => exact reads_pure []
  | cons c cs ih =>
    rw [List.forall_mem_cons] at hp
    rw [List.flatMap_cons]
    exact reads_bind hp.1 (reads_map (ih hp.2))

theorem steady_pure (a : α) : Steady (pure a : Reader β ω ε α) := fun _ _ => rfl

theorem steady_fail (e : ε) : Steady (fail e : Reader β ω ε α) := fun _ _ => rfl

theorem steady_bind (hp : Steady p) (hf : ∀ a, Steady (f a)) : Steady (bind p f) := by
  intro input more
  have hmore := hp input more
  unfold bind
  cases hi : p input with
  | done a rest =>
    rw [hi] at hmore
    rw [show p (input ++ more) = .done a (rest ++ more) from hmore]
    exact hf a rest more
  | failed e =>
    rw [hi] at hmore
    rw [show p (input ++ more) = .failed e from hmore]
    exact rfl
  | starved w => trivial

theorem steady_next (w : ω) : Steady (next w : Reader β ω ε β) := by
  intro input more
  cases input with
  | nil => trivial
  | cons b rest => exact rfl

theorem steady_take (w : ω) (n : ℕ) : Steady (take w n : Reader β ω ε _) := by
  intro input more
  unfold take
  by_cases h : input.length < n
  · rw [if_pos h]
    trivial
  · have hle : n ≤ input.length := Nat.le_of_not_lt h
    have hmore : ¬ (input ++ more).length < n := by
      rw [List.length_append]
      omega
    rw [if_neg h, if_neg hmore]
    show Outcome.done _ _ = Outcome.done _ _
    rw [List.take_append_of_le_length hle, List.drop_append_of_le_length hle]

theorem steady_times (hp : Steady p) (n : ℕ) : Steady (times p n) := by
  induction n with
  | zero => exact steady_pure []
  | succ n ih => exact steady_bind hp fun a => steady_bind ih fun as => steady_pure _

end Reader

end NouvaAgent.Reading
