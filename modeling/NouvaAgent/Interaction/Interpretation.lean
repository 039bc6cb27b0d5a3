import NouvaAgent.Interaction.Triples

namespace NouvaAgent.Interaction

variable {C D : Type} {A : C → Type} {B : D → Type} {ε σ τ α W : Type}

/-- The method that does what a program does, with a method in place of each of its calls. -/
def Program.interpret (f : (c : C) → Method B ε τ (A c)) : Program A α → Method B ε τ α
  | .ret a => Method.pure a
  | .cut => Method.cut
  | .call c next => Method.bind (f c) fun r => (next r).interpret f
  | .pick next => fun s => .pick fun n => (next n).interpret f s

def Method.interpret (f : (c : C) → Method B ε τ (A c)) (p : Action A ε α) : Method B ε τ α :=
  Method.bind ((p ()).interpret f) fun r => Method.ofExcept r.1

theorem Along.and {P Q : Event A → History A → Prop} {h : History A} :
    Along (fun e h => P e h ∧ Q e h) h ↔ Along P h ∧ Along Q h := by
  induction h with
  | nil => simp [Along]
  | cons e h ih =>
    simp only [Along, ih]
    tauto

namespace Program

theorem along_of_wp {G : Event A → History A → Prop} {p : Program A α}
    {Q : Outcome α → History A → Prop} {h : History A}
    (hp : p.wp recording (fun o h => Along G h ∧ Q o h) h) : Along G h := by
  let env : Environment A := ⟨fun _ _ => none, fun _ => 0⟩
  have hend := wp_sound hp (run_exec env p h (along_iff.mpr fun _ _ _ _ => trivial))
  obtain ⟨later, hlater⟩ := run_suffix env p h
  exact Along.append (hlater ▸ hend.1)

/-- Where every method keeps `I` between what the program has seen and the world, whenever `G` allows
its call, the interpreted program does: its calls are those that the program makes. -/
theorem wp_interpret {G : Event A → History A → Prop} {I : History A → τ → W → Prop}
    {K : W → Prop} {M : Model B W} {f : (c : C) → Method B ε τ (A c)}
    (hf : ∀ c h s w, (∀ r, G ⟨c, r⟩ h) → Along G h → I h s w →
      (f c).wp M ⟨fun r s w => I (⟨c, some r⟩ :: h) s w, fun _ _ _ => False, K⟩ s w)
    (hK : ∀ h s w, I h s w → K w) {p : Program A α} {Q : Outcome α → History A → Prop}
    {h : History A} {s : τ} {w : W} (hp : p.wp recording (fun o h => Along G h ∧ Q o h) h)
    (hI : I h s w) : (p.interpret f).wp M ⟨fun a s w => ∃ h, Along G h ∧ Q (.done a) h ∧ I h s w,
      fun _ _ _ => False, K⟩ s w := by
  have hG : Along G h := along_of_wp hp
  induction p generalizing h s w with
  | ret a => exact ⟨h, hp.1, hp.2, hI⟩
  | cut => exact hK h s w hI
  | call c next ih =>
    have hnext (r : Option (A c)) : G ⟨c, r⟩ h := by
      cases r with
      | none => exact (hp.1 _ ⟨rfl, trivial⟩).1.1
      | some r => exact (along_of_wp (hp.2 r _ ⟨rfl, trivial⟩)).1
    apply Method.wp_bind_of (hf c h s w hnext hG hI)
    intro r s w hI
    have hrest := hp.2 r _ ⟨rfl, trivial⟩
    exact ih r hrest hI (along_of_wp hrest)
  | pick next ih => exact fun n => ih n (hp n) hI hG

end Program

end NouvaAgent.Interaction
