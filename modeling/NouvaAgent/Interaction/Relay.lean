import NouvaAgent.Interaction.Triples

namespace NouvaAgent.Interaction

variable {C D : Type} {A : C → Type} {B : D → Type} {ε σ α V W K : Type}

/-- The program that asks other calls, and reads its own answers off theirs. -/
def Program.relay (f : C → D) (g : (c : C) → B (f c) → A c) : Program A α → Program B α
  | .ret a => .ret a
  | .cut => .cut
  | .call c next => .call (f c) fun r => (next (g c r)).relay f g
  | .pick next => .pick fun n => (next n).relay f g

def Method.relay (f : C → D) (g : (c : C) → B (f c) → A c) (p : Method A ε σ α) :
    Method B ε σ α := fun s => (p s).relay f g

theorem Program.relay_bind {β : Type} {f : C → D} {g : (c : C) → B (f c) → A c}
    (p : Program A α) (q : α → Program A β) :
    (p.bind q).relay f g = (p.relay f g).bind fun a => (q a).relay f g := by
  induction p with
  | ret a => rfl
  | cut => rfl
  | call c next ih => exact congrArg (Program.call (f c)) (funext fun r => ih (g c r))
  | pick next ih => exact congrArg Program.pick (funext ih)

theorem Method.relay_bind {β : Type} {f : C → D} {g : (c : C) → B (f c) → A c}
    (p : Method A ε σ α) (q : α → Method A ε σ β) :
    (Method.bind p q).relay f g = Method.bind (p.relay f g) fun a => (q a).relay f g := by
  funext s
  apply (Program.relay_bind _ _).trans
  apply congrArg ((p s).relay f g).bind
  funext r
  obtain ⟨e | a, t⟩ := r
  · rfl
  · rfl

namespace Program

variable {f : C → D} {g : (c : C) → B (f c) → A c} {p : Program A α} {M : Model B V}
  {N : Model A W} {world : V → W} {rest : V → K} {S : C → Prop} {R : α → Prop}

/-- A relayed program does to the part of the world that `N` is about what it does by itself, and
nothing to the rest, where this is so of each of its calls. -/
theorem wp_relay {Q : Outcome α → W → Prop} {v : V}
    (hM : ∀ v c r v', S c → M v (f c) r v' → N (world v) c (r.map (g c)) (world v') ∧
      rest v' = rest v) (hp : p.Confined S R) (h : p.wp N Q (world v)) :
    (p.relay f g).wp M (fun o v' => Q o (world v') ∧ rest v' = rest v) v := by
  induction p generalizing v with
  | ret a => exact ⟨h, rfl⟩
  | cut => exact ⟨h, rfl⟩
  | call c next ih =>
    constructor
    · intro v' hm
      obtain ⟨hn, hrest⟩ := hM v c none v' hp.1 hm
      exact ⟨h.1 _ hn, hrest⟩
    · intro r v' hm
      obtain ⟨hn, hrest⟩ := hM v c (some r) v' hp.1 hm
      rw [← hrest]
      exact ih (g c r) (hp.2 _) (h.2 _ _ hn)
  | pick next ih => exact fun n => ih n (hp n) (h n)

end Program

namespace Method

theorem wp_relay {f : C → D} {g : (c : C) → B (f c) → A c} {M : Model B V} {N : Model A W}
    {world : V → W} {rest : V → K} {S : C → Prop} {p : Method A ε σ α} {J : W → Prop}
    {R : α → W → Prop} {s : σ} {v : V}
    (hM : ∀ v c r v', S c → M v (f c) r v' → N (world v) c (r.map (g c)) (world v') ∧
      rest v' = rest v) (hp : p.Uses S) (h : p.wp N (Post.keeping J R) s (world v)) :
    (p.relay f g).wp M (Post.keeping (fun v' => J (world v') ∧ rest v' = rest v)
      fun a v' => R a (world v')) s v := by
  apply Program.wp_mono (Program.wp_relay hM (hp s) h)
  rintro (⟨e | a, t⟩ | _) v' ⟨hq, hrest⟩
  · exact ⟨hq, hrest⟩
  · exact ⟨⟨hq.1, hrest⟩, hq.2⟩
  · exact ⟨hq, hrest⟩

theorem uses_relay {f : C → D} {g : (c : C) → B (f c) → A c} {S : D → Prop} {p : Method A ε σ α}
    (hp : p.Uses fun c => S (f c)) : (p.relay f g).Uses S := by
  have hconfined (q : Program A (Except ε α × σ)) (hq : q.Confined (fun c => S (f c)) fun _ => True) :
      (q.relay f g).Confined S fun _ => True := by
    induction q with
    | ret a => exact hq
    | cut => trivial
    | call c next ih => exact ⟨hq.1, fun r => ih _ (hq.2 _)⟩
    | pick next ih => exact fun n => ih n (hq n)
  exact fun s => hconfined (p s) (hp s)

/-- Where relayed calls do to the part of the world that `N` is about what they do there, a relayed
method does so too. -/
theorem Triple.relay {f : C → D} {g : (c : C) → B (f c) → A c} {M : Model B V} {N : Model A W}
    {world : V → W} {p : Method A ε σ α} {J P X : W → Prop} {Q : α → W → Prop}
    (hM : ∀ v c r v', M v (f c) r v' → N (world v) c (r.map (g c)) (world v'))
    (h : Triple N J P p Q X) : Triple M (fun v => J (world v)) (fun v => P (world v)) (p.relay f g)
      (fun a v => Q a (world v)) fun v => X (world v) := by
  intro s v hJ hP
  have hM' (v : V) (c : C) (r : Option (B (f c))) (v' : V) (_ : True) (hm : M v (f c) r v') :
      N (world v) c (r.map (g c)) (world v') ∧ () = () := ⟨hM v c r v' hm, rfl⟩
  have hrelay := Program.wp_relay hM' (Program.confined_true _) (h s (world v) hJ hP)
  apply Program.wp_mono hrelay
  rintro (⟨e | a, t⟩ | _) v' ⟨hq, -⟩
  · exact hq
  · exact hq
  · exact hq

end Method

end NouvaAgent.Interaction
