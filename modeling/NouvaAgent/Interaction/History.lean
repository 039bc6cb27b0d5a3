import Mathlib.Data.List.Basic

namespace NouvaAgent.Interaction

variable {α E : Type}

/-- Every event of a history, which has its latest event first, meets what is asked of it and of the
history before it. -/
def Each (P : E → List E → Prop) (log : List E) : Prop :=
  ∀ after e before, log = after ++ e :: before → P e before

theorem each_nil (P : E → List E → Prop) : Each P [] := by
  intro after e before h
  exact absurd h (by simp)

theorem each_cons {P : E → List E → Prop} {log : List E} {e : E} :
    Each P (e :: log) ↔ P e log ∧ Each P log := by
  constructor
  · intro h
    exact ⟨h [] e log rfl, fun after e' before heq => h (e :: after) e' before (by rw [heq]; rfl)⟩
  · rintro ⟨he, hlog⟩ after e' before heq
    cases after with
    | nil =>
      rw [List.nil_append, List.cons.injEq] at heq
      rwa [← heq.1, ← heq.2]
    | cons a after =>
      rw [List.cons_append, List.cons.injEq] at heq
      exact hlog after e' before heq.2

theorem eq_singleton {l before after : List α} {a : α} (h : l.length ≤ 1)
    (hl : l = before ++ a :: after) : l = [a] ∧ before = [] ∧ after = [] := by
  subst hl
  simp only [List.length_append, List.length_cons] at h
  have hbefore : before = [] := List.length_eq_zero_iff.mp (by omega)
  have hafter : after = [] := List.length_eq_zero_iff.mp (by omega)
  simp [hbefore, hafter]

end NouvaAgent.Interaction
