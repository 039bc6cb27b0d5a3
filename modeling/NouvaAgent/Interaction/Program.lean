import Mathlib.Data.List.Basic
import Mathlib.Data.Nat.Basic

namespace NouvaAgent.Interaction

variable {C : Type} {A : C → Type} {W α β : Type}

/-- A process that asks its surroundings for answers. It ends with a result, or it is cut off:
it crashed, or the fuel of one of its loops ran out. -/
inductive Program (A : C → Type) (α : Type) : Type
  | ret (a : α)
  | cut
  | call (c : C) (next : A c → Program A α)
  | pick (next : ℕ → Program A α)

structure Event (A : C → Type) where
  call : C
  answer : Option (A call)

instance [DecidableEq C] [∀ c, DecidableEq (A c)] : DecidableEq (Event A)
  | ⟨c, r⟩, ⟨c', r'⟩ =>
    if hc : c = c' then
      if hr : hc ▸ r = r' then .isTrue (by cases hc; cases hr; rfl)
      else .isFalse fun h => by cases h; exact hr rfl
    else .isFalse fun h => hc (congrArg Event.call h)

abbrev History (A : C → Type) := List (Event A)

inductive Outcome (α : Type)
  | done (a : α)
  | cut
  deriving DecidableEq

/-- Surroundings that may answer a call in any way, depending on everything before it. -/
structure Environment (A : C → Type) where
  answer : History A → (c : C) → Option (A c)
  pick : History A → ℕ

abbrev Model (A : C → Type) (W : Type) := W → (c : C) → Option (A c) → W → Prop

def Along (P : Event A → History A → Prop) : History A → Prop
  | [] => True
  | e :: h => P e h ∧ Along P h

/-- The world that only remembers. An answer may be any that `F` allows at that point. -/
def assuming (F : Event A → History A → Prop) : Model A (History A) :=
  fun h c r h' => h' = ⟨c, r⟩ :: h ∧ F ⟨c, r⟩ h

abbrev recording : Model A (History A) := assuming fun _ _ => True

theorem Along.append {P : Event A → History A → Prop} {later h : History A}
    (hp : Along P (later ++ h)) : Along P h := by
  induction later with
  | nil => exact hp
  | cons e later ih => exact ih hp.2

theorem along_iff {P : Event A → History A → Prop} {h : History A} :
    Along P h ↔ ∀ later e before, h = later ++ e :: before → P e before := by
  constructor
  · rintro hp later e before rfl
    exact (hp.append).1
  · intro hp
    induction h with
    | nil => trivial
    | cons e h ih =>
      refine ⟨hp [] e h rfl, ih fun later e' before hh => ?_⟩
      exact hp (e :: later) e' before (by rw [hh, List.cons_append])

namespace Program

def bind : Program A α → (α → Program A β) → Program A β
  | .ret a, f => f a
  | .cut, _ => .cut
  | .call c next, f => .call c (fun r => (next r).bind f)
  | .pick next, f => .pick (fun n => (next n).bind f)

def run (env : Environment A) : Program A α → History A → Outcome α × History A
  | .ret a, h => (.done a, h)
  | .cut, h => (.cut, h)
  | .call c next, h =>
    match env.answer h c with
    | none => (.cut, ⟨c, none⟩ :: h)
    | some r => (next r).run env (⟨c, some r⟩ :: h)
  | .pick next, h => (next (env.pick h)).run env h

/-- `p` can take the world from `w` to `w'` and end as `o`. -/
inductive Exec (M : Model A W) : Program A α → W → Outcome α → W → Prop
  | ret (a : α) (w : W) : Exec M (.ret a) w (.done a) w
  | cut (w : W) : Exec M .cut w .cut w
  | call {c : C} {r : A c} {next : A c → Program A α} {w w' w'' : W} {o : Outcome α}
      (hs : M w c (some r) w') (hn : Exec M (next r) w' o w'') : Exec M (.call c next) w o w''
  | lost {c : C} {next : A c → Program A α} {w w' : W}
      (hs : M w c none w') : Exec M (.call c next) w .cut w'
  | pick {next : ℕ → Program A α} {w w' : W} {o : Outcome α} (n : ℕ)
      (hn : Exec M (next n) w o w') : Exec M (.pick next) w o w'

/-- `Q` holds however `p` ends, whatever the world `M` answers. -/
def wp (M : Model A W) : Program A α → (Outcome α → W → Prop) → W → Prop
  | .ret a, Q, w => Q (.done a) w
  | .cut, Q, w => Q .cut w
  | .call c next, Q, w =>
    (∀ w', M w c none w' → Q .cut w') ∧ ∀ r w', M w c (some r) w' → (next r).wp M Q w'
  | .pick next, Q, w => ∀ n, (next n).wp M Q w

/-- The events `seg` (latest first) take `p` to the result `a`. -/
inductive Produces : Program A α → History A → α → Prop
  | ret (a : α) : Produces (.ret a) [] a
  | call {c : C} {r : A c} {next : A c → Program A α} {seg : History A} {a : α}
      (hn : Produces (next r) seg a) : Produces (.call c next) (seg ++ [⟨c, some r⟩]) a
  | pick {next : ℕ → Program A α} {seg : History A} {a : α} (n : ℕ)
      (hn : Produces (next n) seg a) : Produces (.pick next) seg a

def Confined (S : C → Prop) (R : α → Prop) : Program A α → Prop
  | .ret a => R a
  | .cut => True
  | .call c next => S c ∧ ∀ r, (next r).Confined S R
  | .pick next => ∀ n, (next n).Confined S R

def Opens (S : C → Prop) : Program A α → Prop
  | .ret _ => True
  | .cut => True
  | .call c _ => S c
  | .pick next => ∀ n, (next n).Opens S

/-- `p` neither crashes nor leaves a choice open: it only asks, and ends. -/
def Responsive : Program A α → Prop
  | .ret _ => True
  | .cut => False
  | .call _ next => ∀ r, (next r).Responsive
  | .pick _ => False

theorem Responsive.bind {p : Program A α} {f : α → Program A β} (hp : p.Responsive)
    (hf : ∀ a, (f a).Responsive) : (p.bind f).Responsive := by
  induction p with
  | ret a => exact hf a
  | cut => exact hp.elim
  | call c next ih => exact fun r => ih r (hp r)
  | pick next ih => exact hp.elim

theorem wp_sound {M : Model A W} {p : Program A α} {Q : Outcome α → W → Prop} {w w' : W}
    {o : Outcome α} (hp : p.wp M Q w) (he : Exec M p w o w') : Q o w' := by
  induction he with
  | ret a w => exact hp
  | cut w => exact hp
  | call hs _ ih => exact ih (hp.2 _ _ hs)
  | lost hs => exact hp.1 _ hs
  | pick n _ ih => exact ih (hp n)

theorem Exec.bind {M : Model A W} {p : Program A α} {f : α → Program A β} {w w' w'' : W} {a : α}
    {o : Outcome β} (hp : Exec M p w (.done a) w') (hf : Exec M (f a) w' o w'') :
    Exec M (p.bind f) w o w'' := by
  generalize hd : Outcome.done a = d at hp
  induction hp with
  | ret b w => exact Outcome.done.inj hd ▸ hf
  | cut w => cases hd
  | call hs _ ih => exact .call hs (ih hf hd)
  | lost hs => cases hd
  | pick n _ ih => exact .pick n (ih hf hd)

theorem Exec.bind_cut {M : Model A W} {p : Program A α} {w w' : W} (f : α → Program A β)
    (hp : Exec M p w .cut w') : Exec M (p.bind f) w .cut w' := by
  generalize hd : (Outcome.cut : Outcome α) = d at hp
  induction hp with
  | ret b w => cases hd
  | cut w => exact .cut w
  | call hs _ ih => exact .call hs (ih hd)
  | lost hs => exact .lost hs
  | pick n _ ih => exact .pick n (ih hd)

theorem run_suffix (env : Environment A) (p : Program A α) (h : History A) :
    ∃ later, (p.run env h).2 = later ++ h := by
  induction p generalizing h with
  | ret a => exact ⟨[], rfl⟩
  | cut => exact ⟨[], rfl⟩
  | call c next ih =>
    simp only [run]
    split
    · exact ⟨[⟨c, none⟩], rfl⟩
    · next r _ =>
      obtain ⟨later, hl⟩ := ih r (⟨c, some r⟩ :: h)
      exact ⟨later ++ [⟨c, some r⟩], by rw [hl, List.append_assoc, List.singleton_append]⟩
  | pick next ih => exact ih _ h

theorem run_exec {F : Event A → History A → Prop} (env : Environment A) (p : Program A α)
    (h : History A) (hF : Along F (p.run env h).2) :
    Exec (assuming F) p h (p.run env h).1 (p.run env h).2 := by
  induction p generalizing h with
  | ret a => exact .ret a h
  | cut => exact .cut h
  | call c next ih =>
    cases hr : env.answer h c with
    | none =>
      simp only [run, hr] at hF ⊢
      exact .lost ⟨rfl, hF.1⟩
    | some r =>
      simp only [run, hr] at hF ⊢
      obtain ⟨later, hl⟩ := run_suffix env (next r) (⟨c, some r⟩ :: h)
      have hstep : Along F (⟨c, some r⟩ :: h) := (hl ▸ hF).append
      exact .call ⟨rfl, hstep.1⟩ (ih r _ hF)
  | pick next ih => exact .pick _ (ih _ h hF)

theorem run_along {F : Event A → History A → Prop} {env : Environment A}
    (hF : ∀ h c, F ⟨c, env.answer h c⟩ h) (p : Program A α) {h : History A} (hh : Along F h) :
    Along F (p.run env h).2 := by
  induction p generalizing h with
  | ret a => exact hh
  | cut => exact hh
  | call c next ih =>
    have hstep := hF h c
    cases hr : env.answer h c with
    | none =>
      rw [hr] at hstep
      simp only [run, hr]
      exact ⟨hstep, hh⟩
    | some r =>
      rw [hr] at hstep
      simp only [run, hr]
      exact ih r ⟨hstep, hh⟩
  | pick next ih => exact ih _ hh

theorem wp_run {F : Event A → History A → Prop} {env : Environment A} {p : Program A α}
    {Q : Outcome α → History A → Prop} {h : History A} (hp : p.wp (assuming F) Q h)
    (hF : Along F (p.run env h).2) : Q (p.run env h).1 (p.run env h).2 :=
  wp_sound hp (run_exec env p h hF)

theorem wp_mono {M : Model A W} {p : Program A α} {Q R : Outcome α → W → Prop} {w : W}
    (hp : p.wp M Q w) (h : ∀ o w, Q o w → R o w) : p.wp M R w := by
  induction p generalizing w with
  | ret a => exact h _ _ hp
  | cut => exact h _ _ hp
  | call c next ih => exact ⟨fun w' hs => h _ _ (hp.1 w' hs), fun r w' hs => ih r (hp.2 r w' hs)⟩
  | pick next ih => exact fun n => ih n (hp n)

theorem wp_and {M : Model A W} {p : Program A α} {Q R : Outcome α → W → Prop} {w : W}
    (hq : p.wp M Q w) (hr : p.wp M R w) : p.wp M (fun o w => Q o w ∧ R o w) w := by
  induction p generalizing w with
  | ret a => exact ⟨hq, hr⟩
  | cut => exact ⟨hq, hr⟩
  | call c next ih =>
    exact ⟨fun w' hs => ⟨hq.1 w' hs, hr.1 w' hs⟩, fun r w' hs => ih r (hq.2 r w' hs) (hr.2 r w' hs)⟩
  | pick next ih => exact fun n => ih n (hq n) (hr n)

theorem wp_bind {M : Model A W} (p : Program A α) (f : α → Program A β)
    (Q : Outcome β → W → Prop) (w : W) :
    (p.bind f).wp M Q w ↔ p.wp M (fun o w => match o with
      | .done a => (f a).wp M Q w
      | .cut => Q .cut w) w := by
  induction p generalizing w with
  | ret a => rfl
  | cut => rfl
  | call c next ih => simp only [bind, wp, ih]
  | pick next ih => simp only [bind, wp, ih]

theorem Confined.mono {S T : C → Prop} {R U : α → Prop} {p : Program A α}
    (hp : p.Confined S R) (hs : ∀ c, S c → T c) (hr : ∀ a, R a → U a) : p.Confined T U := by
  induction p with
  | ret a => exact hr a hp
  | cut => trivial
  | call c next ih => exact ⟨hs c hp.1, fun r => ih r (hp.2 r)⟩
  | pick next ih => exact fun n => ih n (hp n)

theorem Confined.bind {S : C → Prop} {R : α → Prop} {U : β → Prop} {p : Program A α}
    {f : α → Program A β} (hp : p.Confined S R) (hf : ∀ a, R a → (f a).Confined S U) :
    (p.bind f).Confined S U := by
  induction p with
  | ret a => exact hf a hp
  | cut => trivial
  | call c next ih => exact ⟨hp.1, fun r => ih r (hp.2 r)⟩
  | pick next ih => exact fun n => ih n (hp n)

theorem confined_true (p : Program A α) : p.Confined (fun _ => True) fun _ => True := by
  induction p with
  | ret a => trivial
  | cut => trivial
  | call c next ih => exact ⟨trivial, ih⟩
  | pick next ih => exact ih

theorem Confined.wp {M : Model A W} {S : C → Prop} {R : α → Prop} {p : Program A α}
    {J : W → Prop} {w : W} (hp : p.Confined S R)
    (hJ : ∀ w c r w', S c → M w c r w' → J w → J w') (hw : J w) :
    p.wp M (fun o w => J w ∧ ∀ a, o = .done a → R a) w := by
  induction p generalizing w with
  | ret a => exact ⟨hw, fun b hb => Outcome.done.inj hb ▸ hp⟩
  | cut => exact ⟨hw, fun b hb => nomatch hb⟩
  | call c next ih =>
    exact ⟨fun w' hs => ⟨hJ _ _ _ _ hp.1 hs hw, fun b hb => nomatch hb⟩,
      fun r w' hs => ih r (hp.2 r) (hJ _ _ _ _ hp.1 hs hw)⟩
  | pick next ih => exact fun n => ih n (hp n) hw

/-- Whatever the world `M` does is written to its log. -/
def Logs (M : Model A W) (log : W → History A) : Prop :=
  ∀ w c r w', M w c r w' → log w' = ⟨c, r⟩ :: log w

theorem assuming_logs (F : Event A → History A → Prop) : Logs (assuming F) id :=
  fun _ _ _ _ hs => hs.1

theorem Logs.wp_produces {M : Model A W} {log : W → History A} (hM : Logs M log) (p : Program A α)
    (w : W) : p.wp M
      (fun o w' => ∃ seg, log w' = seg ++ log w ∧ ∀ a, o = .done a → p.Produces seg a) w := by
  induction p generalizing w with
  | ret a => exact ⟨[], rfl, fun b hb => Outcome.done.inj hb ▸ .ret a⟩
  | cut => exact ⟨[], rfl, fun b hb => nomatch hb⟩
  | call c next ih =>
    refine ⟨fun w' hs => ⟨[⟨c, none⟩], hM _ _ _ _ hs, fun b hb => nomatch hb⟩, fun r w' hs => ?_⟩
    refine wp_mono (ih r w') ?_
    rintro o w'' ⟨seg, hseg, hp⟩
    refine ⟨seg ++ [⟨c, some r⟩], ?_, fun a ha => .call (hp a ha)⟩
    rw [hseg, hM _ _ _ _ hs, List.append_assoc, List.singleton_append]
  | pick next ih =>
    intro n
    refine wp_mono (ih n w) ?_
    rintro o w' ⟨seg, hseg, hp⟩
    exact ⟨seg, hseg, fun a ha => .pick n (hp a ha)⟩

theorem wp_produces {F : Event A → History A → Prop} (p : Program A α) (h : History A) :
    p.wp (assuming F) (fun o h' => ∃ seg, h' = seg ++ h ∧ ∀ a, o = .done a → p.Produces seg a) h :=
  (assuming_logs F).wp_produces p h

theorem bind_assoc {γ : Type} (p : Program A α) (f : α → Program A β) (g : β → Program A γ) :
    (p.bind f).bind g = p.bind fun a => (f a).bind g := by
  induction p with
  | ret a => rfl
  | cut => rfl
  | call c next ih => exact congrArg (Program.call c) (funext ih)
  | pick next ih => exact congrArg Program.pick (funext ih)

theorem Produces.of_bind {p : Program A α} {f : α → Program A β} {seg : History A} {b : β}
    (h : (p.bind f).Produces seg b) : ∃ before later a, seg = later ++ before ∧
      p.Produces before a ∧ (f a).Produces later b := by
  induction p generalizing seg with
  | ret a => exact ⟨[], seg, a, (List.append_nil seg).symm, .ret a, h⟩
  | cut => cases h
  | call c next ih =>
    cases h with
    | call hn =>
      obtain ⟨before, later, a, rfl, hp, hf⟩ := ih _ hn
      exact ⟨before ++ [_], later, a, List.append_assoc _ _ _, .call hp, hf⟩
  | pick next ih =>
    cases h with
    | pick n hn =>
      obtain ⟨before, later, a, rfl, hp, hf⟩ := ih n hn
      exact ⟨before, later, a, rfl, .pick n hp, hf⟩

def results : List (Program A α) → Option (List α)
  | [] => some []
  | .ret a :: ts => (results ts).map (a :: ·)
  | _ :: _ => none

theorem Opens.bind {S : C → Prop} {p : Program A α} {f : α → Program A β} (hp : p.Opens S)
    (hf : ∀ a, (f a).Opens S) : (p.bind f).Opens S := by
  induction p with
  | ret a => exact hf a
  | cut => trivial
  | call c next => exact hp
  | pick next ih => exact fun n => ih n (hp n)

theorem Produces.first {S : C → Prop} {p : Program A α} {seg rest : History A} {e : Event A} {a : α}
    (h : p.Produces seg a) (hp : p.Opens S) (hseg : seg = rest ++ [e]) : S e.call := by
  induction h generalizing rest with
  | ret a => exact absurd hseg.symm (by simp)
  | call hn ih =>
    obtain ⟨-, he⟩ := List.append_inj' hseg rfl
    obtain rfl := List.cons.inj he |>.1
    exact hp
  | pick n hn ih => exact ih (hp n) hseg

/-- Runs `ts` side by side: at each turn the surroundings pick whose call is answered next. -/
def interleave : ℕ → List (Program A α) → Program A (List α)
  | 0, _ => .cut
  | fuel + 1, ts =>
    match results ts with
    | some as => .ret as
    | none => .pick fun n =>
      match ts[n]? with
      | some (.call c next) => .call c fun r => interleave fuel (ts.set n (next r))
      | some (.pick next) => .pick fun m => interleave fuel (ts.set n (next m))
      | _ => interleave fuel ts

theorem results_confined {S : C → Prop} {R : ℕ → α → Prop} {ts : List (Program A α)} {as : List α}
    (hts : ∀ (i : ℕ) (p : Program A α), ts[i]? = some p → p.Confined S (R i)) (h : results ts = some as) :
    as.length = ts.length ∧ ∀ i a, as[i]? = some a → R i a := by
  induction ts generalizing as R with
  | nil =>
    obtain rfl : as = [] := by simpa [results] using h.symm
    simp
  | cons p ts ih =>
    cases p with
    | ret a =>
      obtain ⟨bs, hbs, rfl⟩ : ∃ bs, results ts = some bs ∧ a :: bs = as := by
        simpa [results] using h
      obtain ⟨hlen, hrest⟩ := ih (R := fun i => R (i + 1)) (fun i p hp => hts (i + 1) p (by simpa using hp)) hbs
      refine ⟨by simp [hlen], fun i b hb => ?_⟩
      cases i with
      | zero =>
        obtain rfl : a = b := by simpa using hb
        exact hts 0 (.ret a) (by simp)
      | succ i => exact hrest i b (by simpa using hb)
    | cut => simp [results] at h
    | call c next => simp [results] at h
    | pick next => simp [results] at h

theorem interleave_confined {S : C → Prop} {R : ℕ → α → Prop} (fuel : ℕ) {ts : List (Program A α)}
    (hts : ∀ (i : ℕ) (p : Program A α), ts[i]? = some p → p.Confined S (R i)) :
    (interleave fuel ts).Confined S
      (fun as => as.length = ts.length ∧ ∀ i a, as[i]? = some a → R i a) := by
  induction fuel generalizing ts with
  | zero => trivial
  | succ fuel ih =>
    have step (n : ℕ) (q p : Program A α) (hq : ts[n]? = some q) (hp : p.Confined S (R n)) :
        (interleave fuel (ts.set n p)).Confined S
          (fun as => as.length = ts.length ∧ ∀ i a, as[i]? = some a → R i a) := by
      have hset : ∀ (i : ℕ) (t : Program A α), (ts.set n p)[i]? = some t → t.Confined S (R i) := ?_
      · exact (ih hset).mono (fun _ h => h) (by simp)
      intro i t ht
      by_cases hi : n = i
      · subst hi
        have hlt : n < ts.length := (List.getElem?_eq_some_iff.mp hq).1
        obtain rfl : p = t := by simpa [List.getElem?_set, hlt] using ht
        exact hp
      · exact hts i t (by simpa [List.getElem?_set, hi] using ht)
    simp only [interleave]
    split
    · next as has => exact results_confined hts has
    · intro n
      dsimp only
      split
      · next c next hn =>
        have hc := hts n _ hn
        exact ⟨hc.1, fun r => step n _ _ hn (hc.2 r)⟩
      · next next hn => exact fun m => step n _ _ hn (hts n _ hn m)
      · exact ih hts

theorem interleave_opens {S : C → Prop} {fuel : ℕ} {ts : List (Program A α)}
    (hts : ∀ t ∈ ts, t.Opens S) : (interleave fuel ts).Opens S := by
  induction fuel generalizing ts with
  | zero => trivial
  | succ fuel ih =>
    unfold interleave
    split
    · trivial
    · intro n
      dsimp only
      split
      · next c next hn => exact hts _ (List.mem_of_getElem? hn)
      · next next hn =>
        refine fun m => ih fun t ht => ?_
        obtain ht | rfl := List.mem_or_eq_of_mem_set ht
        · exact hts t ht
        · exact hts _ (List.mem_of_getElem? hn) m
      · exact ih hts

theorem results_getElem {ts : List (Program A α)} {as : List α} (h : results ts = some as) {i : ℕ}
    {a : α} (ha : as[i]? = some a) : ts[i]? = some (.ret a) := by
  induction ts generalizing as i with
  | nil =>
    obtain rfl : as = [] := by simpa [results] using h.symm
    simp at ha
  | cons p ts ih =>
    cases p with
    | ret b =>
      obtain ⟨bs, hbs, rfl⟩ : ∃ bs, results ts = some bs ∧ b :: bs = as := by
        simpa [results] using h
      cases i with
      | zero =>
        obtain rfl : b = a := by simpa using ha
        rfl
      | succ i => exact ih hbs (by simpa using ha)
    | cut => simp [results] at h
    | call c next => simp [results] at h
    | pick next => simp [results] at h

theorem interleave_produces {fuel : ℕ} {ts : List (Program A α)} {seg : History A} {as : List α}
    (h : (interleave fuel ts).Produces seg as) {i : ℕ} {a : α} (ha : as[i]? = some a) :
    ∃ t part, ts[i]? = some t ∧ part.Sublist seg ∧ t.Produces part a := by
  induction fuel generalizing ts seg with
  | zero => cases h
  | succ fuel ih =>
    unfold interleave at h
    split at h
    case h_1 bs hresults =>
      cases h
      exact ⟨.ret a, [], results_getElem hresults ha, .refl _, .ret a⟩
    case h_2 =>
      cases h with
      | pick n hn =>
        dsimp only at hn
        split at hn
        case h_1 c next hthread =>
          cases hn with
          | @call _ r _ rest _ hrest =>
            obtain ⟨t, part, ht, hpart, hproduces⟩ := ih hrest
            by_cases hi : n = i
            · subst hi
              have hlt := (List.getElem?_eq_some_iff.mp hthread).1
              obtain rfl : next r = t := by simpa [List.getElem?_set, hlt] using ht
              exact ⟨_, _, hthread, hpart.append_right _, .call hproduces⟩
            · exact ⟨t, part, by simpa [List.getElem?_set, hi] using ht,
                hpart.trans (List.sublist_append_left _ _), hproduces⟩
        case h_2 next hthread =>
          cases hn with
          | pick m hrest =>
            obtain ⟨t, part, ht, hpart, hproduces⟩ := ih hrest
            by_cases hi : n = i
            · subst hi
              have hlt := (List.getElem?_eq_some_iff.mp hthread).1
              obtain rfl : next m = t := by simpa [List.getElem?_set, hlt] using ht
              exact ⟨_, _, hthread, hpart, .pick m hproduces⟩
            · exact ⟨t, part, by simpa [List.getElem?_set, hi] using ht, hpart, hproduces⟩
        case h_3 => exact ih hn

end Program

end NouvaAgent.Interaction
