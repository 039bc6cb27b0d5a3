import NouvaAgent.Interaction.Program

namespace NouvaAgent.Interaction.Program

variable {C : Type} {A : C → Type} {W α : Type}

/-- Runs a process against surroundings that a function of the world gives: an answer, and the world
after it. Of what runs side by side, the first always goes on. -/
def play (step : W → (c : C) → Option (A c) × W) : Program A α → W → Outcome α × W
  | .ret a, w => (.done a, w)
  | .cut, w => (.cut, w)
  | .call c next, w =>
    match step w c with
    | (none, w) => (.cut, w)
    | (some r, w) => (next r).play step w
  | .pick next, w => (next 0).play step w

theorem play_exec {M : Model A W} {step : W → (c : C) → Option (A c) × W}
    (hstep : ∀ w c, M w c (step w c).1 (step w c).2) (p : Program A α) (w : W) :
    Exec M p w (play step p w).1 (play step p w).2 := by
  induction p generalizing w with
  | ret a => exact .ret a w
  | cut => exact .cut w
  | call c next ih =>
    have hc := hstep w c
    rw [play]
    rcases hs : step w c with ⟨_ | r, w'⟩
    · rw [hs] at hc
      exact .lost hc
    · rw [hs] at hc
      exact .call hc (ih r w')
  | pick next ih => exact .pick 0 (ih 0 w)

theorem exec_of_play {M : Model A W} {step : W → (c : C) → Option (A c) × W}
    (hstep : ∀ w c, M w c (step w c).1 (step w c).2) {p : Program A α} {w : W} {o : Outcome α}
    (ho : (play step p w).1 = o) : Exec M p w o (play step p w).2 := by
  subst ho
  exact play_exec hstep p w

end NouvaAgent.Interaction.Program
