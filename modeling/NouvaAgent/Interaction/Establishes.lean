import NouvaAgent.Interaction.Method

namespace NouvaAgent.Interaction

variable {C : Type} {A : C → Type} {ε σ α β W : Type} {M : Model A W}

def Persistent (M : Model A W) (P : W → Prop) : Prop := ∀ w c r w', M w c r w' → P w → P w'

theorem Persistent.and {P Q : W → Prop} (hP : Persistent M P) (hQ : Persistent M Q) :
    Persistent M fun w => P w ∧ Q w :=
  fun w c r w' hm h => ⟨hP w c r w' hm h.1, hQ w c r w' hm h.2⟩

theorem Persistent.forall {ι : Sort*} {P : ι → W → Prop} (h : ∀ i, Persistent M (P i)) :
    Persistent M fun w => ∀ i, P i w :=
  fun w c r w' hm hP i => h i w c r w' hm (hP i)

theorem persistent_const (p : Prop) : Persistent M fun _ => p := fun _ _ _ _ _ h => h

theorem Persistent.cons {P : History A → Prop} (hP : Persistent recording P) (e : Event A)
    {h : History A} (hp : P h) : P (e :: h) := hP h e.call e.answer _ ⟨rfl, trivial⟩ hp

theorem Persistent.exec {P : W → Prop} (h : Persistent M P) {p : Program A α} {w w' : W}
    {o : Outcome α} (he : Program.Exec M p w o w') (hw : P w) : P w' := by
  induction he with
  | ret => exact hw
  | cut => exact hw
  | call hs _ ih => exact ih (h _ _ _ _ hs hw)
  | lost hs => exact h _ _ _ _ hs hw
  | pick n _ ih => exact ih hw

namespace Method

/-- Wherever `p` returns, what it returns and the world that it leaves meet `Q`. -/
def Establishes (M : Model A W) (p : Method A ε σ α) (Q : α → W → Prop) : Prop :=
  ∀ s w, p.wp M ⟨fun a _ w => Q a w, fun _ _ _ => True, fun _ => True⟩ s w

section

variable {p : Method A ε σ α} {Q R : α → W → Prop}

theorem Establishes.mono (hp : p.Establishes M Q) (h : ∀ a w, Q a w → R a w) :
    p.Establishes M R := fun s w =>
  wp_mono (hp s w) (fun a _ w => h a w) (fun _ _ _ h => h) fun _ h => h

theorem Establishes.exec (hp : p.Establishes M Q) {s s' : σ} {w w' : W} {a : α}
    (he : Program.Exec M (p s) w (.done (.ok a, s')) w') : Q a w' :=
  Program.wp_sound (hp s w) he

theorem establishes_pure {a : α} (h : ∀ w, Q a w) : (Method.pure a : Method A ε σ α).Establishes M Q :=
  fun _ w => h w

theorem establishes_returned (a : α) :
    (Method.pure a : Method A ε σ α).Establishes M fun b _ => b = a := establishes_pure fun _ => rfl

theorem establishes_throw {e : ε} : (Method.throw e : Method A ε σ α).Establishes M Q :=
  fun _ _ => trivial

theorem establishes_ask {c : C} {Q : A c → W → Prop}
    (h : ∀ w r w', M w c (some r) w' → Q r w') :
    (Method.ask c : Method A ε σ (A c)).Establishes M Q :=
  fun _ w => (wp_ask c).mpr ⟨fun _ _ => trivial, fun r w' hm => h w r w' hm⟩

theorem Persistent.wp {P : W → Prop} (h : Persistent M P) (p : Method A ε σ α) {s : σ} {w : W}
    (hw : P w) : p.wp M (Post.always P) s w :=
  Uses.wp (S := fun _ => True) (fun s => (p s).confined_true) (fun w c r w' _ => h w c r w') hw

theorem Establishes.bind {p : Method A ε σ β} {f : β → Method A ε σ α} {P : β → W → Prop}
    {Q : β → α → W → Prop} (hp : p.Establishes M P) (hP : ∀ b, Persistent M (P b))
    (hf : ∀ b, (f b).Establishes M (Q b)) :
    (Method.bind p f).Establishes M fun a w => ∃ b, P b w ∧ Q b a w := fun s w =>
  wp_bind_of (hp s w) fun b s _ hw =>
    wp_mono (wp_and (Persistent.wp (hP b) (f b) hw) (hf b s _)) (fun _ _ _ h => ⟨b, h.1, h.2⟩)
      (fun _ _ _ _ => trivial) fun _ _ => trivial

theorem Establishes.then {p : Method A ε σ Unit} {q : Method A ε σ α} {P : W → Prop}
    (hp : p.Establishes M fun _ => P) (hP : Persistent M P) (hq : q.Establishes M Q) :
    (Method.bind p fun _ => q).Establishes M fun a w => P w ∧ Q a w :=
  (hp.bind (fun _ => hP) fun _ => hq).mono fun _ _ ⟨_, h⟩ => h

theorem establishes_forEach {xs : List β} {body : β → Method A ε σ Unit} {P : β → W → Prop}
    (hP : ∀ x, Persistent M (P x)) (h : ∀ x ∈ xs, (body x).Establishes M fun _ => P x) :
    (Method.forEach xs body).Establishes M fun _ w => ∀ x ∈ xs, P x w := by
  induction xs with
  | nil => exact establishes_pure fun _ _ hx => nomatch hx
  | cons x xs ih =>
    rw [List.forall_mem_cons] at h
    exact (h.1.then (hP x) (ih h.2)).mono fun _ _ hw => List.forall_mem_cons.mpr hw

theorem Establishes.any (p : Method A ε σ α) : p.Establishes M fun _ _ => True :=
  fun s w => wp_mono (wp_true p s w) (fun _ _ _ _ => trivial) (fun _ _ _ _ => trivial)
    fun _ _ => trivial

end

end Method

end NouvaAgent.Interaction
