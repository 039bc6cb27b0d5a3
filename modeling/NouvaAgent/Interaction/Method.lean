import NouvaAgent.Interaction.Program

namespace NouvaAgent.Interaction

variable {C : Type} {A : C → Type} {W ε σ τ α β : Type}

/-- A program that may throw, with mutable locals `σ` that keep their values when it throws. -/
def Method (A : C → Type) (ε σ α : Type) : Type := σ → Program A (Except ε α × σ)

abbrev Action (A : C → Type) (ε α : Type) : Type := Method A ε Unit α

namespace Method

def pure (a : α) : Method A ε σ α := fun s => .ret (.ok a, s)

def throw (e : ε) : Method A ε σ α := fun s => .ret (.error e, s)

def bind (p : Method A ε σ α) (f : α → Method A ε σ β) : Method A ε σ β := fun s =>
  (p s).bind fun
    | (.ok a, s) => f a s
    | (.error e, s) => .ret (.error e, s)

def tryCatch (p : Method A ε σ α) (handler : ε → Method A ε σ α) : Method A ε σ α := fun s =>
  (p s).bind fun
    | (.ok a, s) => .ret (.ok a, s)
    | (.error e, s) => handler e s

instance : Monad (Method A ε σ) where
  pure := pure
  bind := bind

instance : MonadExceptOf ε (Method A ε σ) where
  throw := throw
  tryCatch := tryCatch

def locals : Method A ε σ σ := fun s => .ret (.ok s, s)

def assign (f : σ → σ) : Method A ε σ Unit := fun s => .ret (.ok (), f s)

def cut : Method A ε σ α := fun _ => .cut

def ask (c : C) : Method A ε σ (A c) := fun s => .call c fun r => .ret (.ok r, s)

def withLocals (t : τ) (p : Method A ε τ α) : Method A ε σ α := fun s =>
  (p t).bind fun r => .ret (r.1, s)

def lift (p : Action A ε α) : Method A ε σ α := withLocals () p

instance : MonadLift (Method A ε Unit) (Method A ε σ) where
  monadLift := lift

def settle (p : Method A ε σ α) : Method A ε σ (Except ε α) := fun s =>
  (p s).bind fun r => .ret (.ok r.1, r.2)

def ofExcept : Except ε α → Method A ε σ α
  | .ok a => pure a
  | .error e => throw e

/-- `try { p } finally { f }`: what `f` throws replaces the outcome of `p`. -/
def finally_ (p : Method A ε σ α) (f : Method A ε σ Unit) : Method A ε σ α := do
  let r ← p.settle
  f
  ofExcept r

/-- Every one of `ps` run side by side, with what each returned or threw. -/
def allSettled (fuel : ℕ) (ps : List (Action A ε α)) : Action A ε (List (Except ε α)) := fun _ =>
  (Program.interleave fuel (ps.map (· ()))).bind fun rs => .ret (.ok (rs.map Prod.fst), ())

def forEach (xs : List β) (body : β → Method A ε σ Unit) : Method A ε σ Unit :=
  match xs with
  | [] => pure ()
  | x :: xs => do body x; forEach xs body

end Method

/-- What holds when a method returns, when it throws, and when it is cut off. -/
structure Post (ε σ α W : Type) where
  ok : α → σ → W → Prop
  err : ε → σ → W → Prop
  cut : W → Prop

namespace Post

def outcome (Q : Post ε σ α W) : Outcome (Except ε α × σ) → W → Prop
  | .done (.ok a, s), w => Q.ok a s w
  | .done (.error e, s), w => Q.err e s w
  | .cut, w => Q.cut w

def always (J : W → Prop) : Post ε σ α W := ⟨fun _ _ => J, fun _ _ => J, J⟩

def keeping (J : W → Prop) (R : α → W → Prop) : Post ε σ α W :=
  ⟨fun a _ w => J w ∧ R a w, fun _ _ => J, J⟩

end Post

namespace Method

def wp (M : Model A W) (p : Method A ε σ α) (Q : Post ε σ α W) (s : σ) (w : W) : Prop :=
  (p s).wp M Q.outcome w

def Uses (S : C → Prop) (p : Method A ε σ α) : Prop :=
  ∀ s, (p s).Confined S fun _ => True

def Confined (S : C → Prop) (R : α → Prop) (p : Method A ε σ α) : Prop :=
  ∀ s, (p s).Confined S fun r => ∀ a, r.1 = .ok a → R a

def Throws (X : ε → Prop) (p : Method A ε σ α) : Prop :=
  ∀ s, (p s).Confined (fun _ => True) fun r => ∀ e, r.1 = .error e → X e

/-- The events `seg` (latest first) are those of a run of `p` that ended as `r`. -/
def Ran (p : Method A ε σ α) (seg : History A) (r : Except ε α) : Prop :=
  ∃ s s', (p s).Produces seg (r, s')

variable {M : Model A W} {Q : Post ε σ α W} {s : σ} {w : W}

@[simp] theorem pure_eq (a : α) : (Pure.pure a : Method A ε σ α) = Method.pure a := rfl

@[simp] theorem bind_eq (p : Method A ε σ α) (f : α → Method A ε σ β) :
    (p >>= f) = Method.bind p f := rfl

@[simp] theorem throw_eq (e : ε) : (MonadExcept.throw e : Method A ε σ α) = Method.throw e := rfl

@[simp] theorem tryCatch_eq (p : Method A ε σ α) (f : ε → Method A ε σ α) :
    (MonadExcept.tryCatch p f) = Method.tryCatch p f := rfl

@[simp] theorem lift_eq (p : Action A ε α) :
    (liftM p : Method A ε σ α) = Method.lift p := rfl

@[simp] theorem wp_pure (a : α) : (Method.pure a).wp M Q s w ↔ Q.ok a s w := Iff.rfl

@[simp] theorem wp_throw (e : ε) : (Method.throw e).wp M Q s w ↔ Q.err e s w := Iff.rfl

@[simp] theorem wp_cut : (Method.cut : Method A ε σ α).wp M Q s w ↔ Q.cut w := Iff.rfl

@[simp] theorem wp_locals {Q : Post ε σ σ W} :
    (Method.locals : Method A ε σ σ).wp M Q s w ↔ Q.ok s s w := Iff.rfl

@[simp] theorem wp_assign (f : σ → σ) {Q : Post ε σ Unit W} :
    (Method.assign f : Method A ε σ Unit).wp M Q s w ↔ Q.ok () (f s) w := Iff.rfl

@[simp] theorem wp_ofExcept (r : Except ε α) : (ofExcept r).wp M Q s w ↔
    (∀ a, r = .ok a → Q.ok a s w) ∧ ∀ e, r = .error e → Q.err e s w := by
  cases r <;> simp [ofExcept]

theorem wp_ask (c : C) {Q : Post ε σ (A c) W} : (ask c : Method A ε σ (A c)).wp M Q s w ↔
    (∀ w', M w c none w' → Q.cut w') ∧ ∀ r w', M w c (some r) w' → Q.ok r s w' := Iff.rfl

@[simp] theorem wp_bind (p : Method A ε σ β) (f : β → Method A ε σ α) :
    (Method.bind p f).wp M Q s w ↔
      p.wp M ⟨fun b s w => (f b).wp M Q s w, Q.err, Q.cut⟩ s w := by
  unfold wp Method.bind
  rw [Program.wp_bind]
  apply Iff.of_eq
  congr 1
  funext o w
  rcases o with ⟨e | b, s⟩ | _ <;> rfl

@[simp] theorem wp_tryCatch (p : Method A ε σ α) (f : ε → Method A ε σ α) :
    (Method.tryCatch p f).wp M Q s w ↔
      p.wp M ⟨Q.ok, fun e s w => (f e).wp M Q s w, Q.cut⟩ s w := by
  unfold wp Method.tryCatch
  rw [Program.wp_bind]
  apply Iff.of_eq
  congr 1
  funext o w
  rcases o with ⟨e | b, s⟩ | _ <;> rfl

@[simp] theorem wp_settle (p : Method A ε σ α) {Q : Post ε σ (Except ε α) W} :
    p.settle.wp M Q s w ↔
      p.wp M ⟨fun a => Q.ok (.ok a), fun e => Q.ok (.error e), Q.cut⟩ s w := by
  unfold wp settle
  rw [Program.wp_bind]
  apply Iff.of_eq
  congr 1
  funext o w
  rcases o with ⟨e | b, s⟩ | _ <;> rfl

@[simp] theorem wp_withLocals (t : τ) (p : Method A ε τ α) :
    (withLocals t p : Method A ε σ α).wp M Q s w ↔
      p.wp M ⟨fun a _ => Q.ok a s, fun e _ => Q.err e s, Q.cut⟩ t w := by
  unfold wp withLocals
  rw [Program.wp_bind]
  apply Iff.of_eq
  congr 1
  funext o w
  rcases o with ⟨e | b, s⟩ | _ <;> rfl

@[simp] theorem wp_lift (p : Action A ε α) : (lift p : Method A ε σ α).wp M Q s w ↔
    p.wp M ⟨fun a _ => Q.ok a s, fun e _ => Q.err e s, Q.cut⟩ () w := wp_withLocals () p

@[simp] theorem wp_finally (p : Method A ε σ α) (f : Method A ε σ Unit) :
    (finally_ p f).wp M Q s w ↔
      p.wp M ⟨fun a s w => f.wp M ⟨fun _ => Q.ok a, Q.err, Q.cut⟩ s w,
        fun e s w => f.wp M ⟨fun _ => Q.err e, Q.err, Q.cut⟩ s w, Q.cut⟩ s w := by
  simp [finally_]

theorem wp_ask_assuming {F : Event A → History A → Prop} (c : C) {h : History A}
    {Q : Post ε σ (A c) (History A)} : (ask c : Method A ε σ (A c)).wp (assuming F) Q s h ↔
      (F ⟨c, none⟩ h → Q.cut (⟨c, none⟩ :: h)) ∧
        ∀ r, F ⟨c, some r⟩ h → Q.ok r s (⟨c, some r⟩ :: h) := by
  simp only [wp_ask, assuming, and_imp, forall_eq]

theorem wp_mono {p : Method A ε σ α} {R : Post ε σ α W} (hp : p.wp M Q s w)
    (hok : ∀ a s w, Q.ok a s w → R.ok a s w) (herr : ∀ e s w, Q.err e s w → R.err e s w)
    (hcut : ∀ w, Q.cut w → R.cut w) : p.wp M R s w := by
  refine Program.wp_mono hp ?_
  rintro (⟨e | a, s⟩ | _) w h
  · exact herr _ _ _ h
  · exact hok _ _ _ h
  · exact hcut _ h

theorem wp_and {p : Method A ε σ α} {R : Post ε σ α W} (hq : p.wp M Q s w) (hr : p.wp M R s w) :
    p.wp M ⟨fun a s w => Q.ok a s w ∧ R.ok a s w, fun e s w => Q.err e s w ∧ R.err e s w,
      fun w => Q.cut w ∧ R.cut w⟩ s w := by
  refine Program.wp_mono (Program.wp_and hq hr) ?_
  rintro (⟨e | a, s⟩ | _) w h <;> exact h

theorem wp_bind_of {p : Method A ε σ β} {f : β → Method A ε σ α} {R : β → σ → W → Prop}
    (hp : p.wp M ⟨R, Q.err, Q.cut⟩ s w) (hf : ∀ b s w, R b s w → (f b).wp M Q s w) :
    (Method.bind p f).wp M Q s w :=
  (wp_bind p f).mpr (wp_mono hp hf (fun _ _ _ h => h) fun _ h => h)

theorem wp_true (p : Method A ε σ α) (s : σ) (w : W) :
    p.wp M (Post.always fun _ => True) s w := by
  refine Program.wp_mono ((p s).confined_true.wp (J := fun _ => True) (fun _ _ _ _ _ _ h => h)
    trivial) ?_
  rintro (⟨e | a, s⟩ | _) w _ <;> trivial

theorem wp_bind_any {p : Method A ε σ β} {f : β → Method A ε σ α} (herr : ∀ e s w, Q.err e s w)
    (hcut : ∀ w, Q.cut w) (hf : ∀ b s w, (f b).wp M Q s w) : (Method.bind p f).wp M Q s w :=
  wp_bind_of (R := fun _ _ _ => True) (wp_mono (wp_true p s w) (fun _ _ _ h => h)
    (fun e s w _ => herr e s w) fun w _ => hcut w) fun b s w _ => hf b s w

section

variable {J : W → Prop} {R S : α → W → Prop}

theorem keeping_pure {a : α} (h : J w) (ha : R a w) :
    (Method.pure a : Method A ε σ α).wp M (Post.keeping J R) s w := ⟨h, ha⟩

theorem keeping_mono {p : Method A ε σ α} (hp : p.wp M (Post.keeping J R) s w)
    (h : ∀ a w, R a w → S a w) : p.wp M (Post.keeping J S) s w :=
  wp_mono hp (fun _ _ _ ha => ⟨ha.1, h _ _ ha.2⟩) (fun _ _ _ h => h) fun _ h => h

theorem keeping_bind {p : Action A ε β} {f : β → Action A ε α} {T : β → W → Prop}
    (hp : p.wp M (Post.keeping J T) () w)
    (hf : ∀ b w, J w → T b w → (f b).wp M (Post.keeping J R) () w) :
    (Method.bind p f).wp M (Post.keeping J R) () w :=
  wp_bind_of (R := fun b _ w => J w ∧ T b w) hp fun b _ w h => hf b w h.1 h.2

end

theorem Uses.mono {S T : C → Prop} {p : Method A ε σ α} (hp : p.Uses S) (hs : ∀ c, S c → T c) :
    p.Uses T := fun s => (hp s).mono hs fun _ h => h

theorem uses_pure {S : C → Prop} (a : α) : (Method.pure a : Method A ε σ α).Uses S :=
  fun _ => trivial

theorem uses_throw {S : C → Prop} (e : ε) : (Method.throw e : Method A ε σ α).Uses S :=
  fun _ => trivial

theorem uses_cut {S : C → Prop} : (Method.cut : Method A ε σ α).Uses S := fun _ => trivial

theorem uses_locals {S : C → Prop} : (Method.locals : Method A ε σ σ).Uses S := fun _ => trivial

theorem uses_assign {S : C → Prop} (f : σ → σ) : (Method.assign f : Method A ε σ Unit).Uses S :=
  fun _ => trivial

theorem uses_ofExcept {S : C → Prop} (r : Except ε α) :
    (Method.ofExcept r : Method A ε σ α).Uses S := by cases r <;> exact fun _ => trivial

theorem uses_ask {S : C → Prop} {c : C} (hc : S c) : (Method.ask c : Method A ε σ (A c)).Uses S :=
  fun _ => ⟨hc, fun _ => trivial⟩

theorem uses_bind {S : C → Prop} {p : Method A ε σ β} {f : β → Method A ε σ α} (hp : p.Uses S)
    (hf : ∀ b, (f b).Uses S) : (Method.bind p f).Uses S := fun s =>
  (hp s).bind fun
    | (.ok b, s), _ => hf b s
    | (.error _, _), _ => trivial

theorem uses_tryCatch {S : C → Prop} {p : Method A ε σ α} {f : ε → Method A ε σ α} (hp : p.Uses S)
    (hf : ∀ e, (f e).Uses S) : (Method.tryCatch p f).Uses S := fun s =>
  (hp s).bind fun
    | (.ok _, _), _ => trivial
    | (.error e, s), _ => hf e s

theorem uses_settle {S : C → Prop} {p : Method A ε σ α} (hp : p.Uses S) : p.settle.Uses S :=
  fun s => (hp s).bind fun _ _ => trivial

theorem uses_withLocals {S : C → Prop} {t : τ} {p : Method A ε τ α} (hp : p.Uses S) :
    (Method.withLocals t p : Method A ε σ α).Uses S := fun _ => (hp t).bind fun _ _ => trivial

theorem uses_lift {S : C → Prop} {p : Action A ε α} (hp : p.Uses S) :
    (Method.lift p : Method A ε σ α).Uses S := uses_withLocals hp

theorem uses_finally {S : C → Prop} {p : Method A ε σ α} {f : Method A ε σ Unit} (hp : p.Uses S)
    (hf : f.Uses S) : (Method.finally_ p f).Uses S :=
  uses_bind (uses_settle hp) fun r => uses_bind hf fun _ => uses_ofExcept r

theorem uses_forEach {S : C → Prop} {xs : List β} {body : β → Method A ε σ Unit}
    (h : ∀ x ∈ xs, (body x).Uses S) : (Method.forEach xs body).Uses S := by
  induction xs with
  | nil => exact uses_pure ()
  | cons x xs ih =>
    rw [List.forall_mem_cons] at h
    exact uses_bind h.1 fun _ => ih h.2

theorem uses_allSettled {S : C → Prop} {fuel : ℕ} {ps : List (Action A ε α)}
    (h : ∀ p ∈ ps, p.Uses S) : (allSettled fuel ps).Uses S := by
  intro s
  have hinterleave : (Program.interleave fuel (ps.map (· ()))).Confined S fun _ => True := by
    apply (Program.interleave_confined (R := fun _ _ => True) fuel _).mono (fun _ h => h)
    · exact fun _ _ => trivial
    · intro i t ht
      rw [List.getElem?_map, Option.map_eq_some_iff] at ht
      obtain ⟨p, hp, rfl⟩ := ht
      exact h p (List.mem_of_getElem? hp) ()
  exact hinterleave.bind fun _ _ => trivial

theorem Uses.confined {S : C → Prop} {p : Method A ε σ α} (hp : p.Uses S) :
    p.Confined S fun _ => True := fun s => (hp s).mono (fun _ h => h) fun _ _ _ _ => trivial

theorem confined_pure {S : C → Prop} {R : α → Prop} {a : α} (h : R a) :
    (Method.pure a : Method A ε σ α).Confined S R := fun _ _ ha => Except.ok.inj ha ▸ h

theorem confined_throw {S : C → Prop} {R : α → Prop} {e : ε} :
    (Method.throw e : Method A ε σ α).Confined S R := fun _ _ ha => nomatch ha

theorem confined_any (p : Method A ε σ α) : p.Confined (fun _ => True) fun _ => True :=
  fun s => (p s).confined_true.mono (fun _ h => h) fun _ _ _ _ => trivial

theorem confined_bind {S : C → Prop} {R : α → Prop} {T : β → Prop} {p : Method A ε σ β}
    {f : β → Method A ε σ α} (hp : p.Confined S T) (hf : ∀ b, T b → (f b).Confined S R) :
    (Method.bind p f).Confined S R := fun s =>
  (hp s).bind fun
    | (.ok b, s), h => hf b (h b rfl) s
    | (.error _, _), _ => fun _ he => nomatch he

theorem confined_lift {S : C → Prop} {R : α → Prop} {p : Action A ε α} (hp : p.Confined S R) :
    (Method.lift p : Method A ε σ α).Confined S R := fun _ => (hp ()).bind fun _ h => h

theorem confined_allSettled {S : C → Prop} {R : ℕ → α → Prop} {fuel : ℕ}
    {ps : List (Action A ε α)}
    (h : ∀ (i : ℕ) (p : Action A ε α), ps[i]? = some p → p.Confined S (R i)) :
    (allSettled fuel ps).Confined S fun rs =>
      rs.length = ps.length ∧ ∀ i a, rs[i]? = some (.ok a) → R i a := by
  intro s
  have hparts : ∀ (i : ℕ) (t : Program A (Except ε α × Unit)), (ps.map (· ()))[i]? = some t →
      t.Confined S fun r => ∀ a, r.1 = .ok a → R i a := by
    intro i t ht
    rw [List.getElem?_map, Option.map_eq_some_iff] at ht
    obtain ⟨p, hp, rfl⟩ := ht
    exact h i p hp ()
  have hinterleave := Program.interleave_confined fuel hparts
  refine hinterleave.bind fun rs ⟨hlength, hrs⟩ results hr => ?_
  cases hr
  refine ⟨by simpa using hlength, fun i a ha => ?_⟩
  rw [List.getElem?_map, Option.map_eq_some_iff] at ha
  obtain ⟨r, hr, hra⟩ := ha
  exact hrs i r hr a hra

theorem Confined.wp {S : C → Prop} {R : α → Prop} {p : Method A ε σ α} (hp : p.Confined S R) :
    p.wp M ⟨fun a _ _ => R a, fun _ _ _ => True, fun _ => True⟩ s w := by
  refine Program.wp_mono ((hp s).wp (J := fun _ => True) (fun _ _ _ _ _ _ h => h) trivial) ?_
  rintro (⟨e | a, s⟩ | _) w h
  · trivial
  · exact h.2 _ rfl a rfl
  · trivial

theorem Confined.run {S : C → Prop} {R : α → Prop} {p : Method A ε σ α} (hp : p.Confined S R)
    {env : Environment A} {s s' : σ} {h : History A} {a : α}
    (hrun : ((p s).run env h).1 = .done (.ok a, s')) : R a :=
  (Program.wp_run (F := fun _ _ => True) ((hp s).wp (J := fun _ => True) (fun _ _ _ _ _ _ h => h)
    trivial) (along_iff.mpr fun _ _ _ _ => trivial)).2 _ hrun a rfl

theorem Uses.wp {S : C → Prop} {p : Method A ε σ α} {J : W → Prop} (hp : p.Uses S)
    (hJ : ∀ w c r w', S c → M w c r w' → J w → J w') (hw : J w) : p.wp M (Post.always J) s w := by
  refine Program.wp_mono ((hp s).wp hJ hw) ?_
  rintro (⟨e | a, s⟩ | _) w h <;> exact h.1

theorem Uses.keeping {S : C → Prop} {p : Method A ε σ α} {J P : W → Prop} (hp : p.Uses S)
    (hJ : ∀ w c r w', S c → M w c r w' → J w → P w → J w' ∧ P w') (hw : J w) (hP : P w) :
    p.wp M (Post.keeping J fun _ => P) s w :=
  wp_mono (hp.wp (J := fun w => J w ∧ P w) (fun w c r w' hc hm h => hJ w c r w' hc hm h.1 h.2)
    ⟨hw, hP⟩) (fun _ _ _ h => h) (fun _ _ _ h => h.1) fun _ h => h.1

theorem Uses.wp_assuming {S : C → Prop} {F : Event A → History A → Prop} {p : Method A ε σ α}
    {J : History A → Prop} {h : History A} (hp : p.Uses S)
    (hJ : ∀ e h, S e.call → J h → J (e :: h)) (hj : J h) :
    p.wp (assuming F) (Post.always J) s h := by
  refine hp.wp (fun h c r h' hc hm hj => ?_) hj
  obtain ⟨rfl, _⟩ := hm
  exact hJ ⟨c, r⟩ h hc hj

section

variable {X : ε → Prop}

theorem throws_pure (a : α) : (Method.pure a : Method A ε σ α).Throws X := fun _ _ h => nomatch h

theorem throws_throw {e : ε} (h : X e) : (Method.throw e : Method A ε σ α).Throws X :=
  fun _ _ he => Except.error.inj he ▸ h

theorem throws_cut : (Method.cut : Method A ε σ α).Throws X := fun _ => trivial

theorem throws_locals : (Method.locals : Method A ε σ σ).Throws X := fun _ _ h => nomatch h

theorem throws_assign (f : σ → σ) : (Method.assign f : Method A ε σ Unit).Throws X :=
  fun _ _ h => nomatch h

theorem throws_ask (c : C) : (Method.ask c : Method A ε σ (A c)).Throws X :=
  fun _ => ⟨trivial, fun _ _ h => nomatch h⟩

theorem throws_ofExcept {r : Except ε α} (h : ∀ e, r = .error e → X e) :
    (Method.ofExcept r : Method A ε σ α).Throws X := by
  cases r with
  | ok a => exact throws_pure a
  | error e => exact throws_throw (h e rfl)

theorem throws_bind {p : Method A ε σ β} {f : β → Method A ε σ α} (hp : p.Throws X)
    (hf : ∀ b, (f b).Throws X) : (Method.bind p f).Throws X := fun s =>
  (hp s).bind fun
    | (.ok b, s), _ => hf b s
    | (.error e, _), h => fun _ he => Except.error.inj he ▸ h e rfl

theorem throws_tryCatch {p : Method A ε σ α} {f : ε → Method A ε σ α}
    (hf : ∀ e, (f e).Throws X) : (Method.tryCatch p f).Throws X := fun s =>
  (p s).confined_true.bind fun
    | (.ok _, _), _ => fun _ he => nomatch he
    | (.error e, s), _ => hf e s

theorem throws_settle {p : Method A ε σ α} : p.settle.Throws X := fun s =>
  (p s).confined_true.bind fun _ _ _ he => nomatch he

theorem throws_withLocals {t : τ} {p : Method A ε τ α} (hp : p.Throws X) :
    (Method.withLocals t p : Method A ε σ α).Throws X := fun _ => (hp t).bind fun _ hr => hr

theorem throws_lift {p : Action A ε α} (hp : p.Throws X) :
    (Method.lift p : Method A ε σ α).Throws X := throws_withLocals hp

theorem throws_allSettled {fuel : ℕ} {ps : List (Action A ε α)} : (allSettled fuel ps).Throws X :=
  fun _ => (Program.confined_true _).bind fun _ _ _ he => nomatch he

theorem Throws.wp {p : Method A ε σ α} (hp : p.Throws X) :
    p.wp M ⟨fun _ _ _ => True, fun e _ _ => X e, fun _ => True⟩ s w := by
  refine Program.wp_mono ((hp s).wp (J := fun _ => True) (fun _ _ _ _ _ _ h => h) trivial) ?_
  rintro (⟨e | a, s⟩ | _) w h
  · exact h.2 _ rfl e rfl
  · trivial
  · trivial

end

theorem exec_bind {p : Method A ε σ β} {f : β → Method A ε σ α} {s s' : σ} {w w' w'' : W} {b : β}
    {o : Outcome (Except ε α × σ)} (hp : Program.Exec M (p s) w (.done (.ok b, s')) w')
    (hf : Program.Exec M (f b s') w' o w'') : Program.Exec M (Method.bind p f s) w o w'' :=
  hp.bind hf

theorem exec_bind_cut {p : Method A ε σ β} (f : β → Method A ε σ α) {s : σ} {w w' : W}
    (hp : Program.Exec M (p s) w .cut w') : Program.Exec M (Method.bind p f s) w .cut w' :=
  hp.bind_cut _

theorem exec_settle {p : Method A ε σ α} {s s' : σ} {w w' : W} {r : Except ε α}
    (hp : Program.Exec M (p s) w (.done (r, s')) w') :
    Program.Exec M (p.settle s) w (.done (.ok r, s')) w' := hp.bind (.ret _ _)

theorem exec_finally {p : Method A ε σ α} {f : Method A ε σ Unit} {s s' s'' : σ} {w w' w'' : W}
    {a : α} (hp : Program.Exec M (p s) w (.done (.ok a, s')) w')
    (hf : Program.Exec M (f s') w' (.done (.ok (), s'')) w'') :
    Program.Exec M (finally_ p f s) w (.done (.ok a, s'')) w'' :=
  exec_bind (exec_settle hp) (exec_bind hf (.ret _ _))

theorem exec_finally_cut {p : Method A ε σ α} (f : Method A ε σ Unit) {s : σ} {w w' : W}
    (hp : Program.Exec M (p s) w .cut w') : Program.Exec M (finally_ p f s) w .cut w' :=
  exec_bind_cut _ (hp.bind_cut _)

theorem exec_tryCatch {p : Method A ε σ α} (f : ε → Method A ε σ α) {s s' : σ} {w w' : W} {a : α}
    (hp : Program.Exec M (p s) w (.done (.ok a, s')) w') :
    Program.Exec M (tryCatch p f s) w (.done (.ok a, s')) w' := hp.bind (.ret _ _)

theorem exec_tryCatch_cut {p : Method A ε σ α} (f : ε → Method A ε σ α) {s : σ} {w w' : W}
    (hp : Program.Exec M (p s) w .cut w') : Program.Exec M (tryCatch p f s) w .cut w' :=
  hp.bind_cut _

theorem always_exec {p : Method A ε σ α} {J : W → Prop} {s : σ} {w w' : W}
    {o : Outcome (Except ε α × σ)} (hp : p.wp M (Post.always J) s w)
    (he : Program.Exec M (p s) w o w') : J w' := by
  have hend := Program.wp_sound hp he
  rcases o with ⟨_ | _, _⟩ | _ <;> exact hend

theorem always_run {F : Event A → History A → Prop} {env : Environment A} {p : Method A ε σ α}
    {J : History A → Prop} {s : σ} {h : History A} (hp : p.wp (assuming F) (Post.always J) s h)
    (hF : Along F ((p s).run env h).2) : J ((p s).run env h).2 :=
  always_exec hp (Program.run_exec env (p s) h hF)

theorem wp_grows {F : Event A → History A → Prop} (p : Method A ε σ α) (s : σ) (h : History A) :
    p.wp (assuming F) (Post.always fun h' => ∃ later, h' = later ++ h) s h := by
  refine Program.wp_mono (Program.wp_produces (p s) h) ?_
  rintro (⟨e | a, s⟩ | _) w ⟨later, hl, _⟩ <;> exact ⟨later, hl⟩

theorem wp_ran_of {log : W → History A} (hM : Program.Logs M log) (p : Method A ε σ α) (s : σ)
    (w : W) : p.wp M ⟨fun a _ w' => ∃ seg, log w' = seg ++ log w ∧ Ran p seg (.ok a),
      fun e _ w' => ∃ seg, log w' = seg ++ log w ∧ Ran p seg (.error e),
      fun w' => ∃ seg, log w' = seg ++ log w⟩ s w := by
  refine Program.wp_mono (hM.wp_produces (p s) w) ?_
  rintro (⟨e | a, s'⟩ | _) w ⟨seg, hl, hp⟩
  · exact ⟨seg, hl, s, s', hp _ rfl⟩
  · exact ⟨seg, hl, s, s', hp _ rfl⟩
  · exact ⟨seg, hl⟩

theorem wp_ran {F : Event A → History A → Prop} (p : Method A ε σ α) (s : σ) (h : History A) :
    p.wp (assuming F) ⟨fun a _ h' => ∃ seg, h' = seg ++ h ∧ Ran p seg (.ok a),
      fun e _ h' => ∃ seg, h' = seg ++ h ∧ Ran p seg (.error e),
      fun h' => ∃ seg, h' = seg ++ h⟩ s h := wp_ran_of (Program.assuming_logs F) p s h

theorem wp_allSettled {F : Event A → History A → Prop} {fuel : ℕ} {ps : List (Action A ε α)}
    (h : History A) : (allSettled fuel ps).wp (assuming F)
      ⟨fun rs _ h' => ∃ seg, h' = seg ++ h ∧ Ran (allSettled fuel ps) seg (.ok rs),
        fun _ _ _ => False, fun h' => ∃ seg, h' = seg ++ h⟩ () h :=
  wp_mono (wp_and (wp_ran _ () h) (Throws.wp (X := fun _ => False) throws_allSettled))
    (fun _ _ _ h => h.1) (fun _ _ _ h => h.2) fun _ h => h.1

theorem wp_grows_and {F : Event A → History A → Prop} {p : Method A ε σ α} {s : σ} {h : History A}
    {Q : Post ε σ α (History A)} {P : History A → Prop} (hp : p.wp (assuming F) Q s h)
    (hP : ∀ later, P (later ++ h)) : p.wp (assuming F)
      ⟨fun a s h => Q.ok a s h ∧ P h, fun e s h => Q.err e s h ∧ P h, fun h => Q.cut h ∧ P h⟩ s h :=
  wp_mono (wp_and hp (wp_grows p s h)) (fun _ _ _ ⟨hq, _, hl⟩ => ⟨hq, hl ▸ hP _⟩)
    (fun _ _ _ ⟨hq, _, hl⟩ => ⟨hq, hl ▸ hP _⟩) fun _ ⟨hq, _, hl⟩ => ⟨hq, hl ▸ hP _⟩

theorem wp_forEach {xs : List β} {body : β → Method A ε σ Unit} {J : W → Prop}
    (h : ∀ x ∈ xs, ∀ s w, J w → (body x).wp M (Post.always J) s w) (hw : J w) :
    (Method.forEach xs body).wp M (Post.always J) s w := by
  induction xs generalizing s w with
  | nil => exact hw
  | cons x xs ih =>
    rw [List.forall_mem_cons] at h
    exact wp_bind_of (R := fun _ _ => J) (h.1 s w hw) fun _ s w hj => ih h.2 hj

theorem wp_forEach_locals {xs : List β} {body : β → Method A ε σ Unit} {J : σ → W → Prop}
    {X : ε → σ → W → Prop} {K : W → Prop} (h : ∀ x ∈ xs, ∀ s w, J s w →
      (body x).wp M ⟨fun _ => J, X, K⟩ s w) (hw : J s w) :
    (Method.forEach xs body).wp M ⟨fun _ => J, X, K⟩ s w := by
  induction xs generalizing s w with
  | nil => exact hw
  | cons x xs ih =>
    rw [List.forall_mem_cons] at h
    exact wp_bind_of (R := fun _ => J) (h.1 s w hw) fun _ s w hj => ih h.2 hj

theorem allSettled_ran {fuel : ℕ} {ps : List (Action A ε α)} {seg : History A}
    {rs : List (Except ε α)} (h : Ran (allSettled fuel ps) seg (.ok rs)) {i : ℕ} {r : Except ε α}
    (hr : rs[i]? = some r) :
    ∃ p part, ps[i]? = some p ∧ part.Sublist seg ∧ Ran p part r := by
  obtain ⟨s, s', hproduces⟩ := h
  obtain ⟨before, later, results, rfl, hinterleave, hreturn⟩ := hproduces.of_bind
  cases hreturn
  rw [List.getElem?_map, Option.map_eq_some_iff] at hr
  obtain ⟨result, hresult, rfl⟩ := hr
  obtain ⟨t, part, ht, hpart, ht'⟩ := Program.interleave_produces hinterleave hresult
  rw [List.getElem?_map, Option.map_eq_some_iff] at ht
  obtain ⟨p, hp, rfl⟩ := ht
  exact ⟨p, part, hp, by simpa using hpart, (), result.2, ht'⟩

theorem allSettled_opens {S : C → Prop} {fuel : ℕ} {ps : List (Action A ε α)}
    (hps : ∀ p ∈ ps, (p ()).Opens S) : (allSettled fuel ps ()).Opens S := by
  refine (Program.interleave_opens fun t ht => ?_).bind fun _ => trivial
  obtain ⟨p, hp, rfl⟩ := List.mem_map.mp ht
  exact hps p hp

section

variable {p : Method A ε σ β} {q : Action A ε β} {f : β → Method A ε σ α} {g : β → Action A ε α}

theorem bind_eq_lift (hp : p = lift q) (hf : ∀ b, f b = lift (g b)) :
    Method.bind p f = lift (Method.bind q g) := by
  funext s
  obtain rfl := hp
  have hf : f = fun b => lift (g b) := funext hf
  subst hf
  show ((q ()).bind _).bind _ = ((q ()).bind _).bind _
  rw [Program.bind_assoc, Program.bind_assoc]
  congr 1
  funext r
  rcases r with ⟨e | b, u⟩ <;> rfl

theorem settle_eq_lift (hp : p = lift q) : p.settle = lift q.settle := by
  funext s
  obtain rfl := hp
  show ((q ()).bind _).bind _ = ((q ()).bind _).bind _
  rw [Program.bind_assoc, Program.bind_assoc]
  rfl

theorem ofExcept_eq_lift (r : Except ε α) : (ofExcept r : Method A ε σ α) = lift (ofExcept r) := by
  cases r <;> rfl

end

end Method

end NouvaAgent.Interaction
