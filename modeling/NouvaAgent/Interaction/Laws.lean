import NouvaAgent.Interaction.Returns

namespace NouvaAgent.Interaction

variable {C : Type} {A : C → Type} {ε δ σ α β γ : Type}

theorem Program.Produces.bind {p : Program A α} {f : α → Program A β} {before later : History A}
    {a : α} {b : β} (hp : p.Produces before a) (hf : (f a).Produces later b) :
    (p.bind f).Produces (later ++ before) b := by
  induction hp with
  | ret a => exact (List.append_nil later).symm ▸ hf
  | call hn ih => exact List.append_assoc .. ▸ Program.Produces.call (ih hf)
  | pick n hn ih => exact .pick n (ih hf)

theorem Program.Confined.bind_congr {S : C → Prop} {R : α → Prop} {p : Program A α}
    {f g : α → Program A β} (hp : p.Confined S R) (h : ∀ a, R a → f a = g a) :
    p.bind f = p.bind g := by
  induction p with
  | ret a => exact h a hp
  | cut => rfl
  | call c next ih => exact congrArg (Program.call c) (funext fun r => ih r (hp.2 r))
  | pick next ih => exact congrArg Program.pick (funext fun n => ih n (hp n))

namespace Method

variable {p : Method A ε σ α} {f : α → Method A ε σ β} {g : β → Method A ε σ γ}

theorem bind_assoc : Method.bind (Method.bind p f) g =
    Method.bind p fun a => Method.bind (f a) g := by
  funext s
  show ((p s).bind _).bind _ = (p s).bind _
  rw [Program.bind_assoc]
  congr 1
  funext r
  rcases r with ⟨e | a, t⟩ <;> rfl

def resume (f : α → Method A ε σ β) : Except ε α → Method A ε σ β
  | .ok a => f a
  | .error e => throw e

theorem bind_eq_settle : Method.bind p f = Method.bind p.settle (resume f) := by
  funext s
  show (p s).bind _ = ((p s).bind _).bind _
  rw [Program.bind_assoc]
  congr 1
  funext r
  rcases r with ⟨e | a, t⟩ <;> rfl

theorem settle_bind : (Method.bind p f).settle =
    Method.bind p.settle fun r => (resume f r).settle := by
  funext s
  show ((p s).bind _).bind _ = ((p s).bind _).bind _
  rw [Program.bind_assoc, Program.bind_assoc]
  congr 1
  funext r
  rcases r with ⟨e | a, t⟩ <;> rfl

def mapThrown (f : ε → δ) (p : Method A ε σ α) : Method A δ σ α := fun s =>
  (p s).bind fun r => .ret (r.1.mapError f, r.2)

theorem mapThrown_bind (h : ε → δ) : mapThrown h (Method.bind p f) =
    Method.bind (mapThrown h p) fun a => mapThrown h (f a) := by
  funext s
  show ((p s).bind _).bind _ = ((p s).bind _).bind _
  rw [Program.bind_assoc, Program.bind_assoc]
  congr 1
  funext r
  rcases r with ⟨e | a, t⟩ <;> rfl

theorem mapThrown_ofExcept (h : ε → δ) (r : Except ε α) :
    mapThrown h (ofExcept r : Method A ε σ α) = ofExcept (r.mapError h) := by
  cases r <;> rfl

theorem bind_mapThrown_settle (h k : ε → δ) {f : α → Method A δ σ β} :
    Method.bind (mapThrown h p) f =
      Method.bind (mapThrown k p.settle) fun r => resume f (r.mapError h) := by
  funext s
  show ((p s).bind _).bind _ = (((p s).bind _).bind _).bind _
  rw [Program.bind_assoc, Program.bind_assoc, Program.bind_assoc]
  congr 1
  funext r
  rcases r with ⟨e | a, t⟩ <;> rfl

abbrev Total (p : Method A ε σ α) : Prop := p.Throws fun _ => False

theorem Total.bind_congr (hp : p.Total) {f g : Except ε α × σ → Program A β} (s : σ)
    (h : ∀ a t, f (.ok a, t) = g (.ok a, t)) : (p s).bind f = (p s).bind g := by
  refine Program.Confined.bind_congr (hp s) ?_
  rintro ⟨e | a, t⟩ hr
  · exact (hr e rfl).elim
  · exact h a t

theorem Total.settle_bind (hp : p.Total) : (Method.bind p f).settle =
    Method.bind p fun a => (f a).settle := by
  funext s
  show ((p s).bind _).bind _ = (p s).bind _
  rw [Program.bind_assoc]
  exact hp.bind_congr s fun _ _ => rfl

theorem Total.mapThrown_eq (hp : p.Total) (h k : ε → δ) : mapThrown h p = mapThrown k p :=
  funext fun s => hp.bind_congr s fun _ _ => rfl

theorem Total.mapThrown {h : ε → δ} (hp : p.Total) : (Method.mapThrown h p).Total := fun s =>
  (hp s).bind fun
    | (.ok _, _), _ => fun _ he => nomatch he
    | (.error e, _), hr => (hr e rfl).elim

theorem Total.not_thrown (hp : p.Total) {s t : σ} {seg : History A} {e : ε} :
    ¬ (p s).Produces seg (.error e, t) := fun h =>
  (Program.Produces.confined (hp s) h).2 e rfl

theorem Returns.to_mapThrown {h : ε → δ} {s t : σ} {seg : History A} {a : α}
    (hp : p.Returns s seg a t) : (Method.mapThrown h p).Returns s seg a t := by
  have hend : (Program.ret (.ok a, t) : Program A (Except δ α × σ)).Produces [] (.ok a, t) := .ret _
  exact Program.Produces.bind (f := fun r => .ret (r.1.mapError h, r.2)) hp hend

theorem Returns.mapThrown {h : ε → δ} {s t : σ} {seg : History A} {a : α}
    (hp : (Method.mapThrown h p).Returns s seg a t) : p.Returns s seg a t := by
  obtain ⟨before, later, ⟨r, u⟩, rfl, hbefore, hlater⟩ := Program.Produces.of_bind hp
  cases r with
  | error e => cases hlater
  | ok b =>
    cases hlater
    exact hbefore

theorem settle_ofExcept (r : Except ε α) : (ofExcept r : Method A ε σ α).settle = Method.pure r := by
  cases r <;> rfl

theorem bind_ofExcept (r : Except ε α) : Method.bind (ofExcept r) f = resume f r := by
  cases r <;> rfl

theorem Returns.bind_produces {before later : History A} {s t : σ} {a : α} {x : Except ε β × σ}
    (hp : p.Returns s before a t) (hf : (f a t).Produces later x) :
    (Method.bind p f s).Produces (later ++ before) x := Program.Produces.bind hp hf

theorem Returns.bind {before later : History A} {s t u : σ} {a : α} {b : β}
    (hp : p.Returns s before a t) (hf : (f a).Returns t later b u) :
    (Method.bind p f).Returns s (later ++ before) b u := hp.bind_produces hf

end Method

end NouvaAgent.Interaction
