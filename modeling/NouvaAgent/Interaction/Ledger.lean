import NouvaAgent.Interaction.Program

namespace NouvaAgent.Interaction

variable {C : Type} {A : C → Type} {K : Type}

/-- What an event makes, and what it gives back. -/
structure Ledger (A : C → Type) (K : Type) where
  makes : Event A → Option K
  returns : Event A → Option K

namespace Ledger

variable [DecidableEq K] {l : Ledger A K} {e : Event A} {h : History A} {k : K} {ks : List K}

def outstanding (l : Ledger A K) : History A → List K
  | [] => []
  | e :: h => (l.makes e).toList ++ (l.outstanding h).filter fun k => l.returns e ≠ some k

theorem outstanding_aside (hmakes : l.makes e = none)
    (hreturns : ∀ k ∈ l.outstanding h, l.returns e ≠ some k) :
    l.outstanding (e :: h) = l.outstanding h := by
  rw [outstanding, hmakes, Option.toList_none, List.nil_append, List.filter_eq_self]
  exact fun k hk => decide_eq_true (hreturns k hk)

theorem outstanding_made (hmakes : l.makes e = some k) (hreturns : l.returns e = none) :
    l.outstanding (e :: h) = k :: l.outstanding h := by
  rw [outstanding, hmakes, hreturns, Option.toList_some, List.singleton_append, List.filter_eq_self.mpr]
  exact fun _ _ => decide_eq_true nofun

theorem outstanding_returned (hmakes : l.makes e = none) (hreturns : l.returns e = some k)
    (h' : l.outstanding h = k :: ks) (hk : k ∉ ks) : l.outstanding (e :: h) = ks := by
  rw [outstanding, hmakes, hreturns, h', Option.toList_none, List.nil_append,
    List.filter_cons_of_neg (by simp), List.filter_eq_self]
  intro k' hk'
  apply decide_eq_true
  rintro ⟨⟩
  exact hk hk'

end Ledger

end NouvaAgent.Interaction
