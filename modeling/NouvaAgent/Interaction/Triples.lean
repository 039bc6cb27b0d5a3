import NouvaAgent.Interaction.Establishes
import NouvaAgent.Interaction.Laws

namespace NouvaAgent.Interaction.Method

variable {C : Type} {A : C → Type} {ε σ α β W : Type}

/-- Begun where `J` and `P` hold, `p` has `J` at every end, and leaves `Q` where it returns and `X`
where it throws. -/
def Triple (M : Model A W) (J P : W → Prop) (p : Method A ε σ α) (Q : α → W → Prop)
    (X : W → Prop) : Prop :=
  ∀ s w, J w → P w → p.wp M ⟨fun a _ w => J w ∧ Q a w, fun _ _ w => J w ∧ X w, J⟩ s w

section

variable {M : Model A W} {J P R X : W → Prop} {p : Method A ε σ α} {Q : α → W → Prop}

theorem Triple.mono {P' X' : W → Prop} {Q' : α → W → Prop} (h : Triple M J P p Q X)
    (hP : ∀ w, P' w → P w) (hQ : ∀ a w, Q a w → Q' a w) (hX : ∀ w, X w → X' w) :
    Triple M J P' p Q' X' := by
  intro s w hJ hw
  apply wp_mono (h s w hJ (hP w hw))
  · exact fun a _ w ha => ⟨ha.1, hQ a w ha.2⟩
  · exact fun _ _ w he => ⟨he.1, hX w he.2⟩
  · exact fun _ h => h

theorem triple_pure {a : α} (h : ∀ w, P w → Q a w) :
    Triple M J P (Method.pure a : Method A ε σ α) Q X :=
  fun _ w hJ hw => ⟨hJ, h w hw⟩

theorem triple_throw {e : ε} (h : ∀ w, P w → X w) :
    Triple M J P (Method.throw e : Method A ε σ α) Q X :=
  fun _ w hJ hw => ⟨hJ, h w hw⟩

theorem triple_ofExcept {r : Except ε α} (h : ∀ a, r = .ok a → ∀ w, P w → Q a w)
    (hX : ∀ w, P w → X w) : Triple M J P (Method.ofExcept r : Method A ε σ α) Q X := by
  cases r with
  | ok a => exact triple_pure (h a rfl)
  | error e => exact triple_throw hX

theorem triple_locals : Triple M J P (Method.locals : Method A ε σ σ) (fun _ => P) X :=
  fun _ _ hJ hw => ⟨hJ, hw⟩

theorem triple_assign (f : σ → σ) : Triple M J P (Method.assign f : Method A ε σ Unit)
    (fun _ => P) X := fun _ _ hJ hw => ⟨hJ, hw⟩

theorem triple_ask {c : C} {Q : A c → W → Prop} (hJ : ∀ w r w', M w c r w' → J w → P w → J w')
    (hQ : ∀ w r w', M w c (some r) w' → J w → P w → Q r w') :
    Triple M J P (Method.ask c : Method A ε σ (A c)) Q X := by
  intro s w hj hw
  apply (wp_ask c).mpr
  constructor
  · exact fun w' hm => hJ w none w' hm hj hw
  · exact fun r w' hm => ⟨hJ w (some r) w' hm hj hw, hQ w r w' hm hj hw⟩

theorem Triple.bind {p : Method A ε σ β} {f : β → Method A ε σ α} {R : β → W → Prop}
    (hp : Triple M J P p R X) (hf : ∀ b, Triple M J (R b) (f b) Q X) :
    Triple M J P (Method.bind p f) Q X :=
  fun s w hJ hw => wp_bind_of (hp s w hJ hw) fun b s w h => hf b s w h.1 h.2

theorem Triple.kept (h : Triple M J P p Q X) : Triple M J P p (fun a w => J w ∧ Q a w) X := by
  intro s w hJ hw
  apply wp_mono (h s w hJ hw)
  · exact fun _ _ _ ⟨hj, hq⟩ => ⟨hj, hj, hq⟩
  · exact fun _ _ _ h => h
  · exact fun _ h => h

theorem Triple.frame (h : Triple M J P p Q X) (hR : Persistent M R) :
    Triple M J (fun w => P w ∧ R w) p (fun a w => Q a w ∧ R w) fun w => X w ∧ R w := by
  intro s w hJ hw
  apply wp_mono (wp_and (h s w hJ hw.1) (Persistent.wp hR p hw.2))
  · exact fun _ _ _ ⟨⟨hj, hq⟩, hr⟩ => ⟨hj, hq, hr⟩
  · exact fun _ _ _ ⟨⟨hj, hx⟩, hr⟩ => ⟨hj, hx, hr⟩
  · exact fun _ h => h.1

theorem triple_forEach {xs : List β} {body : β → Method A ε σ Unit} {I : List β → W → Prop}
    (h : ∀ done x rest, xs = done ++ x :: rest →
      Triple M J (I done) (body x) (fun _ => I (done ++ [x])) X) :
    Triple M J (I []) (Method.forEach xs body) (fun _ => I xs) X := by
  have hrest (done rest : List β) (hxs : xs = done ++ rest) :
      Triple M J (I done) (Method.forEach rest body) (fun _ => I xs) X := by
    induction rest generalizing done with
    | nil =>
      rw [List.append_nil] at hxs
      exact hxs ▸ triple_pure fun _ hw => hw
    | cons x rest ih =>
      apply (h done x rest hxs).bind
      exact fun _ => ih (done ++ [x]) (by simp [hxs])
  exact hrest [] xs rfl

theorem triple_forEach_all {xs : List β} {body : β → Method A ε σ Unit} {R : β → W → Prop}
    (hR : ∀ x, Persistent M (R x))
    (h : ∀ x ∈ xs, Triple M J P (body x) (fun _ w => P w ∧ R x w) X) :
    Triple M J P (Method.forEach xs body) (fun _ w => P w ∧ ∀ x ∈ xs, R x w) X := by
  induction xs with
  | nil => exact triple_pure fun _ hw => ⟨hw, fun _ hx => (List.not_mem_nil hx).elim⟩
  | cons x xs ih =>
    rw [List.forall_mem_cons] at h
    apply h.1.bind
    intro _
    apply ((ih h.2).frame (hR x)).mono
    · exact fun _ hw => hw
    · exact fun _ _ hw => ⟨hw.1.1, List.forall_mem_cons.mpr ⟨hw.2, hw.1.2⟩⟩
    · exact fun _ hw => hw.1

theorem Triple.exec (h : Triple M J P p Q X) {s : σ} {w w' : W}
    {o : Outcome (Except ε α × σ)} (he : Program.Exec M (p s) w o w') (hJ : J w) (hP : P w) :
    J w' ∧ (∀ a s', o = .done (.ok a, s') → Q a w') ∧ ∀ e s', o = .done (.error e, s') → X w' := by
  have hend := Program.wp_sound (h s w hJ hP) he
  obtain ⟨⟨e | a, s'⟩⟩ | _ := o
  · exact ⟨hend.1, nofun, fun _ _ _ => hend.2⟩
  · exact ⟨hend.1, fun b _ hb => by cases hb; exact hend.2, nofun⟩
  · exact ⟨hend, nofun, nofun⟩

theorem Triple.exec_ended (h : Triple M J P p (fun _ => X) X) {s : σ} {w w' : W}
    {o : Outcome (Except ε α × σ)} (he : Program.Exec M (p s) w o w') (hJ : J w) (hP : P w)
    (hended : o ≠ .cut) : X w' := by
  have hend := h.exec he hJ hP
  obtain ⟨e | a, s'⟩ | _ := o
  · exact hend.2.2 e s' rfl
  · exact hend.2.1 a s' rfl
  · exact absurd rfl hended

theorem Triple.framed {S : C → Prop} (h : Triple M J P p Q X) (hp : p.Framed S) {s : σ} {w : W}
    (hJ : J w) (hP : P w) : p.wp M ⟨fun a t w => t = s ∧ J w ∧ Q a w,
      fun _ t w => t = s ∧ J w ∧ X w, J⟩ s w := by
  apply wp_mono (wp_and (hp.wp (J := fun _ => True) (fun _ _ _ _ _ _ _ => trivial) trivial)
    (h s w hJ hP))
  · exact fun _ _ _ ⟨⟨ht, _⟩, hq⟩ => ⟨ht, hq⟩
  · exact fun _ _ _ ⟨⟨ht, _⟩, hx⟩ => ⟨ht, hx⟩
  · exact fun _ h => h.2

theorem uses_any (p : Method A ε σ α) : p.Uses fun _ => True := fun s => (p s).confined_true

theorem Uses.triple {S : C → Prop} (hp : p.Uses S)
    (hJ : ∀ w c r w', S c → M w c r w' → J w → P w → J w' ∧ P w') :
    Triple M J P p (fun _ => P) P := by
  intro s w hj hw
  apply wp_mono (hp.wp (J := fun w => J w ∧ P w) (fun w c r w' hc hm h => hJ w c r w' hc hm h.1 h.2)
    ⟨hj, hw⟩)
  · exact fun _ _ _ h => h
  · exact fun _ _ _ h => h
  · exact fun _ h => h.1

theorem Triple.returning {S : C → Prop} {T : α → Prop} (h : Triple M J P p Q X)
    (hp : p.Confined S T) : Triple M J P p (fun a w => Q a w ∧ T a) X := by
  intro s w hJ hw
  apply wp_mono (wp_and (h s w hJ hw) hp.wp)
  · exact fun _ _ _ ⟨⟨hj, hq⟩, ht⟩ => ⟨hj, hq, ht⟩
  · exact fun _ _ _ h => h.1
  · exact fun _ h => h.1

theorem Triple.tryCatch {handler : ε → Method A ε σ α} {Y : W → Prop} (hp : Triple M J P p Q Y)
    (hf : ∀ e, Triple M J Y (handler e) Q X) : Triple M J P (Method.tryCatch p handler) Q X := by
  intro s w hJ hw
  apply (wp_tryCatch p handler).mpr
  apply wp_mono (hp s w hJ hw)
  · exact fun _ _ _ h => h
  · exact fun e s w h => hf e s w h.1 h.2
  · exact fun _ h => h

theorem Triple.withLocals {τ : Type} {t : τ} {p : Method A ε τ α} (h : Triple M J P p Q X) :
    Triple M J P (Method.withLocals t p : Method A ε σ α) Q X :=
  fun _ w hJ hw => (wp_withLocals t p).mpr (h t w hJ hw)

theorem Triple.finally_ {f : Method A ε σ Unit} {R : α → W → Prop} {Y : W → Prop}
    (hp : Triple M J P p Q Y) (hf : ∀ a, Triple M J (Q a) f (fun _ => R a) X)
    (hy : Triple M J Y f (fun _ => X) X) : Triple M J P (Method.finally_ p f) R X := by
  intro s w hJ hw
  apply (wp_finally p f).mpr
  apply wp_mono (hp s w hJ hw)
  · exact fun a s w hq => hf a s w hq.1 hq.2
  · exact fun _ s w he => hy s w he.1 he.2
  · exact fun _ h => h

theorem wp_mapThrown {δ : Type} (f : ε → δ) (p : Method A ε σ α) {R : Post δ σ α W} {s : σ} {w : W} :
    (mapThrown f p).wp M R s w ↔ p.wp M ⟨R.ok, fun e => R.err (f e), R.cut⟩ s w := by
  unfold Method.wp mapThrown
  rw [Program.wp_bind]
  constructor
  · intro h
    apply Program.wp_mono h
    rintro (⟨e | a, t⟩ | _) w hw <;> exact hw
  · intro h
    apply Program.wp_mono h
    rintro (⟨e | a, t⟩ | _) w hw <;> exact hw

theorem uses_mapThrown {δ : Type} {f : ε → δ} {S : C → Prop} (hp : p.Uses S) :
    (Method.mapThrown f p).Uses S := fun s => (hp s).bind fun _ _ => trivial

theorem Triple.mapThrown {δ : Type} {f : ε → δ} (h : Triple M J P p Q X) :
    Triple M J P (Method.mapThrown f p) Q X :=
  fun s w hJ hw => (wp_mapThrown f p).mpr (h s w hJ hw)

theorem Triple.settle (h : Triple M J P p Q X) :
    Triple M J P p.settle (fun r w => match r with | .ok a => Q a w | .error _ => X w) X := by
  intro s w hJ hw
  apply (wp_settle p).mpr
  apply wp_mono (h s w hJ hw)
  · exact fun _ _ _ h => h
  · exact fun _ _ _ h => h
  · exact fun _ h => h

end

section

variable {G : Event A → History A → Prop} {P X : History A → Prop} {p : Method A ε σ α}
  {Q : α → History A → Prop}

theorem persistent_recording {P : History A → Prop} (h : ∀ e h, P h → P (e :: h)) :
    Persistent recording P := by
  rintro w c r _ ⟨rfl, -⟩ hw
  exact h _ w hw

theorem triple_ask_along {c : C} {Q : A c → History A → Prop}
    (hG : ∀ h r, P h → G ⟨c, r⟩ h) (hQ : ∀ h r, P h → Q r (⟨c, some r⟩ :: h)) :
    Triple recording (Along G) P (Method.ask c : Method A ε σ (A c)) Q X := by
  apply triple_ask
  · rintro h r _ ⟨rfl, -⟩ hG' hP
    exact ⟨hG h r hP, hG'⟩
  · rintro h r _ ⟨rfl, -⟩ - hP
    exact hQ h r hP

theorem Uses.triple_along {S : C → Prop} (hp : p.Uses S) (hG : ∀ c r h, S c → P h → G ⟨c, r⟩ h)
    (hP : Persistent recording P) : Triple recording (Along G) P p (fun _ => P) P := by
  apply hp.triple
  rintro h c r _ hc ⟨rfl, hm⟩ hJ hw
  exact ⟨⟨hG c r h hc hw, hJ⟩, hP h c r _ ⟨rfl, hm⟩ hw⟩

theorem triple_unbound (hG : ∀ e h, P h → G e h) (hP : Persistent recording P) :
    Triple recording (Along G) P p (fun _ => P) P :=
  (uses_any p).triple_along (fun _ _ h _ => hG _ h) hP

abbrev Safe (G : Event A → History A → Prop) (p : Method A ε σ α) : Prop :=
  Triple recording (Along G) (fun _ => True) p (fun _ _ => True) fun _ => True

theorem Safe.bind {p : Method A ε σ β} {f : β → Method A ε σ α} (hp : Safe G p)
    (hf : ∀ b, Safe G (f b)) : Safe G (Method.bind p f) :=
  Triple.bind (R := fun _ _ => True) hp hf

theorem Uses.safe {S : C → Prop} (hp : p.Uses S) (hG : ∀ c r h, S c → G ⟨c, r⟩ h) : Safe G p :=
  hp.triple_along (fun c r h hc _ => hG c r h hc) fun _ _ _ _ _ _ => trivial

theorem Triple.run (h : Triple recording (Along G) P p Q X) (env : Environment A) (s : σ)
    (hP : P []) : Along G ((p s).run env []).2 ∧ ∀ a s', ((p s).run env []).1 = .done (.ok a, s') →
      Q a ((p s).run env []).2 := by
  have hrun := h.exec (Program.run_exec env (p s) [] (along_iff.mpr fun _ _ _ _ => trivial)) trivial hP
  exact ⟨hrun.1, hrun.2.1⟩

end

section

variable {M : Model A W} {X : ε → W → Prop} {p : Method A ε σ α}

def Blames (M : Model A W) (X : ε → W → Prop) (p : Method A ε σ α) : Prop :=
  ∀ s w, p.wp M ⟨fun _ _ _ => True, fun e _ w => X e w, fun _ => True⟩ s w

theorem blames_pure {a : α} : Blames M X (Method.pure a : Method A ε σ α) := fun _ _ => trivial

theorem blames_throw {e : ε} (h : ∀ w, X e w) : Blames M X (Method.throw e : Method A ε σ α) :=
  fun _ w => h w

theorem Blames.bind {p : Method A ε σ β} {f : β → Method A ε σ α} (hp : Blames M X p)
    (hf : ∀ b, Blames M X (f b)) : Blames M X (Method.bind p f) :=
  fun s w => wp_bind_of (hp s w) fun b s w _ => hf b s w

theorem Blames.mapThrown {δ : Type} {f : ε → δ} {Y : δ → W → Prop}
    (hY : ∀ e w, Y (f e) w) : Blames M Y (Method.mapThrown f p) := by
  intro s w
  apply (wp_mapThrown f p).mpr
  apply wp_mono (wp_true p s w)
  · exact fun _ _ _ _ => trivial
  · exact fun e _ w _ => hY e w
  · exact fun _ _ => trivial

theorem Blames.tryCatch {handler : ε → Method A ε σ α} {Y : ε → W → Prop} (hp : Blames M Y p)
    (hf : ∀ e s w, Y e w → (handler e).wp M ⟨fun _ _ _ => True, fun e _ w => X e w, fun _ => True⟩ s w) :
    Blames M X (Method.tryCatch p handler) := by
  intro s w
  apply (wp_tryCatch p handler).mpr
  apply wp_mono (hp s w)
  · exact fun _ _ _ _ => trivial
  · exact fun e s w he => hf e s w he
  · exact fun _ _ => trivial

theorem Blames.finally_ {f : Method A ε σ Unit} (hp : Blames M X p) (hf : Blames M X f)
    (hX : ∀ e, Persistent M (X e)) : Blames M X (Method.finally_ p f) := by
  intro s w
  apply (wp_finally p f).mpr
  apply wp_mono (hp s w)
  · intro a s w _
    apply wp_mono (hf s w)
    · exact fun _ _ _ _ => trivial
    · exact fun _ _ _ he => he
    · exact fun _ _ => trivial
  · intro e s w he
    apply wp_mono (wp_and (hf s w) (Persistent.wp (hX e) f he))
    · exact fun _ _ _ h => h.2
    · exact fun _ _ _ h => h.1
    · exact fun _ _ => trivial
  · exact fun _ _ => trivial

end

end NouvaAgent.Interaction.Method
