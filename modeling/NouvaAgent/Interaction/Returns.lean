import NouvaAgent.Interaction.Method

namespace NouvaAgent.Interaction

variable {C : Type} {A : C → Type} {ε σ τ α β : Type}

namespace Program

theorem Produces.confined {S : C → Prop} {R : α → Prop} {p : Program A α} {seg : History A} {a : α}
    (hp : p.Confined S R) (h : p.Produces seg a) : (∀ e ∈ seg, S e.call) ∧ R a := by
  induction h with
  | ret a => exact ⟨by simp, hp⟩
  | call hn ih =>
    obtain ⟨hseg, ha⟩ := ih (hp.2 _)
    refine ⟨fun e he => ?_, ha⟩
    obtain he | he := List.mem_append.mp he
    · exact hseg e he
    · obtain rfl := List.mem_singleton.mp he
      exact hp.1
  | pick n hn ih => exact ih (hp n)

theorem run_produces {env : Environment A} {p : Program A α} {h : History A} {a : α}
    (hrun : (p.run env h).1 = .done a) :
    ∃ seg, (p.run env h).2 = seg ++ h ∧ p.Produces seg a := by
  have hall : Along (fun _ _ => True) (p.run env h).2 := along_iff.mpr fun _ _ _ _ => trivial
  obtain ⟨seg, hseg, hproduces⟩ := wp_run (wp_produces p h) hall
  exact ⟨seg, hseg, hproduces a hrun⟩

end Program

namespace Method

/-- The events `seg` (latest first) are those of a run of `p` that started with the locals `s`,
returned `a` and left the locals `s'`. -/
def Returns (p : Method A ε σ α) (s : σ) (seg : History A) (a : α) (s' : σ) : Prop :=
  (p s).Produces seg (.ok a, s')

def Framed (S : C → Prop) (p : Method A ε σ α) : Prop :=
  ∀ s, (p s).Confined S fun r => r.2 = s

section

variable {S : C → Prop} {p : Method A ε σ α}

theorem Framed.uses (hp : p.Framed S) : p.Uses S := fun s =>
  (hp s).mono (fun _ h => h) fun _ _ => trivial

theorem framed_pure (a : α) : (Method.pure a : Method A ε σ α).Framed S := fun _ => rfl

theorem framed_throw (e : ε) : (Method.throw e : Method A ε σ α).Framed S := fun _ => rfl

theorem framed_cut : (Method.cut : Method A ε σ α).Framed S := fun _ => trivial

theorem framed_locals : (Method.locals : Method A ε σ σ).Framed S := fun _ => rfl

theorem framed_ask {c : C} (hc : S c) : (Method.ask c : Method A ε σ (A c)).Framed S :=
  fun _ => ⟨hc, fun _ => rfl⟩

theorem framed_ofExcept (r : Except ε α) : (Method.ofExcept r : Method A ε σ α).Framed S := by
  cases r <;> exact fun _ => rfl

theorem framed_bind {p : Method A ε σ β} {f : β → Method A ε σ α} (hp : p.Framed S)
    (hf : ∀ b, (f b).Framed S) : (Method.bind p f).Framed S := fun s =>
  (hp s).bind fun
    | (.ok b, _), h => h ▸ hf b _
    | (.error _, _), h => h

theorem framed_settle (hp : p.Framed S) : p.settle.Framed S := fun s => (hp s).bind fun _ h => h

theorem framed_finally {f : Method A ε σ Unit} (hp : p.Framed S) (hf : f.Framed S) :
    (Method.finally_ p f).Framed S :=
  framed_bind (framed_settle hp) fun r => framed_bind hf fun _ => framed_ofExcept r

theorem framed_forEach {xs : List β} {body : β → Method A ε σ Unit}
    (h : ∀ x ∈ xs, (body x).Framed S) : (Method.forEach xs body).Framed S := by
  induction xs with
  | nil => exact framed_pure ()
  | cons x xs ih =>
    rw [List.forall_mem_cons] at h
    exact framed_bind h.1 fun _ => ih h.2

end

theorem bind_produced {p : Method A ε σ β} {f : β → Method A ε σ α} {s : σ} {seg : History A}
    {x : Except ε α × σ} (h : (Method.bind p f s).Produces seg x) :
    (∃ e t, (p s).Produces seg (.error e, t) ∧ x = (.error e, t)) ∨
      ∃ before later b t, seg = later ++ before ∧ p.Returns s before b t ∧
        (f b t).Produces later x := by
  obtain ⟨before, later, ⟨r, t⟩, rfl, hp, hf⟩ := Program.Produces.of_bind h
  cases r with
  | error e =>
    cases hf
    exact .inl ⟨e, t, hp, rfl⟩
  | ok b => exact .inr ⟨before, later, b, t, rfl, hp, hf⟩

theorem Ran.confined {S : C → Prop} {R : α → Prop} {p : Method A ε σ α} {seg : History A} {a : α}
    (h : Ran p seg (.ok a)) (hp : p.Confined S R) : (∀ e ∈ seg, S e.call) ∧ R a := by
  obtain ⟨s, s', h⟩ := h
  obtain ⟨hcalls, ha⟩ := Program.Produces.confined (hp s) h
  exact ⟨hcalls, ha a rfl⟩

namespace Returns

variable {S : C → Prop} {p : Method A ε σ α} {s s' : σ} {seg : History A} {a : α}

theorem ran (h : p.Returns s seg a s') : Ran p seg (.ok a) := ⟨s, s', h⟩

theorem calls (h : p.Returns s seg a s') (hp : p.Uses S) : ∀ e ∈ seg, S e.call :=
  (Program.Produces.confined (hp s) h).1

theorem framed (h : p.Returns s seg a s') (hp : p.Framed S) : s' = s ∧ ∀ e ∈ seg, S e.call := by
  obtain ⟨hcalls, hlocals⟩ := Program.Produces.confined (hp s) h
  exact ⟨hlocals, hcalls⟩

theorem of_pure {b : α} (h : (Method.pure b : Method A ε σ α).Returns s seg a s') :
    seg = [] ∧ a = b ∧ s' = s := by
  cases h
  exact ⟨rfl, rfl, rfl⟩

theorem not_throw {e : ε} : ¬(Method.throw e : Method A ε σ α).Returns s seg a s' := by
  intro h
  cases h

theorem of_locals {t : σ} (h : (Method.locals : Method A ε σ σ).Returns s seg t s') :
    seg = [] ∧ t = s ∧ s' = s := by
  cases h
  exact ⟨rfl, rfl, rfl⟩

theorem of_assign {f : σ → σ} (h : (Method.assign f : Method A ε σ Unit).Returns s seg () s') :
    seg = [] ∧ s' = f s := by
  cases h
  exact ⟨rfl, rfl⟩

theorem of_ask {c : C} {r : A c} (h : (Method.ask c : Method A ε σ (A c)).Returns s seg r s') :
    seg = [⟨c, some r⟩] ∧ s' = s := by
  cases h with
  | call hn =>
    cases hn
    exact ⟨rfl, rfl⟩

theorem of_ofExcept {r : Except ε α} (h : (Method.ofExcept r).Returns s seg a s') :
    seg = [] ∧ r = .ok a ∧ s' = s := by
  cases r <;> cases h
  exact ⟨rfl, rfl, rfl⟩

theorem of_bind {p : Method A ε σ β} {f : β → Method A ε σ α}
    (h : (Method.bind p f).Returns s seg a s') : ∃ before later b t, seg = later ++ before ∧
      p.Returns s before b t ∧ (f b).Returns t later a s' := by
  obtain ⟨before, later, ⟨r, t⟩, rfl, hp, hf⟩ := Program.Produces.of_bind h
  cases r with
  | error e => cases hf
  | ok b => exact ⟨before, later, b, t, rfl, hp, hf⟩

theorem of_bind_framed {p : Method A ε σ β} {f : β → Method A ε σ α}
    (h : (Method.bind p f).Returns s seg a s') (hp : p.Framed S) : ∃ before later b,
      seg = later ++ before ∧ p.Returns s before b s ∧ (f b).Returns s later a s' := by
  obtain ⟨before, later, b, t, rfl, hreturns, hf⟩ := h.of_bind
  obtain ⟨rfl, _⟩ := hreturns.framed hp
  exact ⟨before, later, b, rfl, hreturns, hf⟩

theorem of_settle (h : p.settle.Returns s seg (.ok a) s') : p.Returns s seg a s' := by
  obtain ⟨before, later, r, rfl, hp, hf⟩ := Program.Produces.of_bind h
  obtain ⟨r, t⟩ := r
  cases hf
  exact hp

theorem of_tryCatch {f : ε → Method A ε σ α} (h : (Method.tryCatch p f).Returns s seg a s') :
    p.Returns s seg a s' ∨ ∃ before later e t, seg = later ++ before ∧
      (p s).Produces before (.error e, t) ∧ (f e).Returns t later a s' := by
  obtain ⟨before, later, ⟨r, t⟩, rfl, hp, hf⟩ := Program.Produces.of_bind h
  cases r with
  | error e => exact .inr ⟨before, later, e, t, rfl, hp, hf⟩
  | ok b =>
    cases hf
    exact .inl hp

theorem of_withLocals {t : τ} {p : Method A ε τ α}
    (h : (Method.withLocals t p : Method A ε σ α).Returns s seg a s') :
    s' = s ∧ ∃ t', p.Returns t seg a t' := by
  obtain ⟨before, later, ⟨r, t'⟩, rfl, hp, hf⟩ := Program.Produces.of_bind h
  cases hf
  exact ⟨rfl, t', hp⟩

theorem of_lift {p : Action A ε α} (h : (Method.lift p : Method A ε σ α).Returns s seg a s') :
    s' = s ∧ Ran p seg (.ok a) := by
  obtain ⟨hs, t, hp⟩ := of_withLocals h
  exact ⟨hs, (), t, hp⟩

theorem of_forEach {xs : List β} {body : β → Method A ε σ Unit}
    (h : (Method.forEach xs body).Returns s seg () s') :
    ∀ x ∈ xs, ∃ t part t', part.Sublist seg ∧ (body x).Returns t part () t' := by
  induction xs generalizing s seg with
  | nil => simp
  | cons x xs ih =>
    obtain ⟨before, later, _, t, rfl, hx, hxs⟩ := of_bind h
    rw [List.forall_mem_cons]
    refine ⟨⟨s, before, t, List.sublist_append_right later before, hx⟩, fun y hy => ?_⟩
    obtain ⟨u, part, u', hpart, hbody⟩ := ih hxs y hy
    exact ⟨u, part, u', hpart.trans (List.sublist_append_left later before), hbody⟩

theorem of_forEach_framed {xs : List β} {body : β → Method A ε σ Unit}
    (hbody : ∀ x ∈ xs, (body x).Framed S) (h : (Method.forEach xs body).Returns s seg () s') :
    ∀ x ∈ xs, ∃ later part before, seg = later ++ (part ++ before) ∧
      (body x).Returns s part () s ∧ ∀ e ∈ before, S e.call := by
  induction xs generalizing seg with
  | nil => simp
  | cons x xs ih =>
    rw [List.forall_mem_cons] at hbody
    obtain ⟨before, later, _, rfl, hx, hxs⟩ := h.of_bind_framed hbody.1
    rw [List.forall_mem_cons]
    refine ⟨⟨later, before, [], by rw [List.append_nil], hx, by simp⟩, fun y hy => ?_⟩
    obtain ⟨later', part, before', rfl, hround, hcalls⟩ := ih hbody.2 hxs y hy
    refine ⟨later', part, before' ++ before, by simp only [List.append_assoc], hround, ?_⟩
    exact List.forall_mem_append.mpr ⟨hcalls, (hx.framed hbody.1).2⟩

end Returns

theorem Framed.wp {W : Type} {M : Model A W} {S : C → Prop} {p : Method A ε σ α} {J : W → Prop}
    {s : σ} {w : W} (hp : p.Framed S) (hJ : ∀ w c r w', S c → M w c r w' → J w → J w') (hw : J w) :
    p.wp M ⟨fun _ t w => t = s ∧ J w, fun _ t w => t = s ∧ J w, J⟩ s w := by
  refine Program.wp_mono ((hp s).wp hJ hw) ?_
  rintro (⟨e | a, t⟩ | _) w h
  · exact ⟨h.2 _ rfl, h.1⟩
  · exact ⟨h.2 _ rfl, h.1⟩
  · exact h.1

theorem wp_returns {F : Event A → History A → Prop} (p : Method A ε σ α) (s : σ) (h : History A) :
    p.wp (assuming F) ⟨fun a s' h' => ∃ seg, h' = seg ++ h ∧ p.Returns s seg a s',
      fun _ _ _ => True, fun _ => True⟩ s h := by
  refine Program.wp_mono (Program.wp_produces (p s) h) ?_
  rintro (⟨e | a, s'⟩ | _) w ⟨seg, hl, hp⟩
  · trivial
  · exact ⟨seg, hl, hp _ rfl⟩
  · trivial

end Method

end NouvaAgent.Interaction
