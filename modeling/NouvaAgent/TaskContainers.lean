import NouvaAgent.WorkerVolume

namespace NouvaAgent.TaskContainers

open Text Interaction Agent Method WorkerVolume

structure World (S : Type) where
  made : String → Option DockerContainerSpec
  ended : String → Option Bool
  rest : S

/-- How a world `S` goes on between the agent's calls, what a task of some spec does to it, whether
it ends well or not, and how the other calls are answered. The containers of tasks are told from all
others by their identifiers. -/
structure Surroundings (S : Type) where
  isTask : String → Prop
  drift : S → S → Prop
  runs : DockerContainerSpec → Bool → S → S → Prop
  answers : Model AgentCall.Answer S

namespace Surroundings

variable {S : Type} (E : Surroundings S)

/-- What a task does is done when it is started. Where the start fails, it may have been done or
not. -/
def Started (w : World S) (s : S) (id : String) (r : Option (Except CallError Unit))
    (w' : World S) : Prop :=
  match w.made id, r with
  | some spec, some (.ok _) => ∃ b s', E.runs spec b s s' ∧
      w' = { w with ended := Function.update w.ended id (some b), rest := s' }
  | some spec, _ => w' = { w with rest := s } ∨ ∃ b s', E.runs spec b s s' ∧ w' = { w with rest := s' }
  | none, _ => w' = { w with rest := s }

def Answered (w : World S) (s : S) (c : AgentCall) (r : Option c.Answer) (w' : World S) : Prop :=
  ∃ s', E.answers s c r s' ∧ w' = { w with rest := s' }

def effect : Model AgentCall.Answer (World S) := fun w c r w' => ∃ s, E.drift w.rest s ∧
  match c, r with
  | .request (.createContainer spec), some (.ok id) =>
    E.isTask id ∧ w' = { w with made := Function.update w.made id (some spec), rest := s }
  | .request (.startContainer id), r => (E.isTask id → E.Started w s id r w') ∧
      (¬ E.isTask id → E.Answered w s (.request (.startContainer id)) r w')
  | .request (.waitContainer id _), some (.ok status) =>
    (status = 0 → w.ended id = some true) ∧ w' = { w with rest := s }
  | .request (.listContainersByLabels labels), some (.ok listed) =>
    (∀ container ∈ listed, ¬ E.isTask (getContainerIdentifier container)) ∧
      E.Answered w s (.request (.listContainersByLabels labels)) (some (.ok listed)) w'
  | c, r => E.Answered w s c r w'

structure Keeps (T : AgentCall → Prop) (P : S → Prop) : Prop where
  drift : ∀ s s', E.drift s s' → P s → P s'
  answers : ∀ s c r s', T c → E.answers s c r s' → P s → P s'

end Surroundings

def Around : AgentCall → Prop
  | .request (.pullImage _) | .request (.removeContainer _ _ _) | .request (.createContainer _)
  | .request (.waitContainer _ _) | .request (.containerLogs _) => True
  | _ => False

variable {S σ : Type} {E : Surroundings S} {T : AgentCall → Prop} {P Q R : S → Prop} {w w' : World S}

/-- The frame rule: a call that starts no task keeps what its surroundings keep. -/
theorem effect_keeps (h : E.Keeps T P) {c : AgentCall} {r : Option c.Answer} (hT : T c)
    (hstart : ∀ id, c = .request (.startContainer id) → ¬ E.isTask id)
    (hm : E.effect w c r w') (hw : P w.rest) : P w'.rest := by
  obtain ⟨s, hdrift, hm⟩ := hm
  have hs : P s := h.drift _ _ hdrift hw
  have hanswered (ha : E.Answered w s c r w') : P w'.rest := by
    obtain ⟨s', ha, rfl⟩ := ha
    exact h.answers _ _ _ _ hT ha hs
  split at hm
  · exact hm.2 ▸ hs
  · exact hanswered (hm.2 (hstart _ rfl))
  · exact hm.2 ▸ hs
  · exact hanswered hm.2
  · exact hanswered hm

namespace Surroundings.Keeps

theorem around_wp {α : Type} {p : AgentMethod σ α} {s : σ} (h : E.Keeps Around P)
    (hp : p.Uses Around) (hw : P w.rest) : p.wp E.effect (Post.always fun w => P w.rest) s w := by
  refine hp.wp (fun w c r w' hc hm hw => effect_keeps h hc (fun id heq => ?_) hm hw) hw
  subst heq
  exact hc.elim

theorem and (hP : E.Keeps T P) (hQ : E.Keeps T Q) : E.Keeps T fun s => P s ∧ Q s where
  drift := fun s s' hd h => ⟨hP.drift s s' hd h.1, hQ.drift s s' hd h.2⟩
  answers := fun s c r s' hT ha h => ⟨hP.answers s c r s' hT ha h.1, hQ.answers s c r s' hT ha h.2⟩

theorem mono {T' : AgentCall → Prop} (hP : E.Keeps T P) (h : ∀ c, T' c → T c) : E.Keeps T' P where
  drift := hP.drift
  answers := fun s c r s' hT => hP.answers s c r s' (h c hT)

end Surroundings.Keeps

structure Done (Q R : S → Prop) (id : String) (w : World S) : Prop where
  well : w.ended id = some true → Q w.rest
  any : R w.rest

theorem startContainer_wp {spec : DockerContainerSpec} {id : String} {s : σ} (hP : E.Keeps Around P)
    (hstill : ∀ s, P s → R s) (hdone : ∀ s s', P s → E.runs spec true s s' → Q s')
    (hruns : ∀ b s s', P s → E.runs spec b s s' → R s') (htask : E.isTask id)
    (hmade : w.made id = some spec) (hw : P w.rest) :
    (request (.startContainer id) : AgentMethod σ Unit).wp E.effect
      ⟨fun _ _ w => Done Q R id w, fun _ _ w => R w.rest, fun w => R w.rest⟩ s w := by
  have hstarted {r : Option (Except CallError Unit)} {w' : World S}
      (hm : E.effect w (.request (.startContainer id)) r w') :
      ∃ s, P s ∧ E.Started w s id r w' := by
    obtain ⟨s, hd, hm⟩ := hm
    exact ⟨s, hP.drift _ _ hd hw, hm.1 htask⟩
  have hpartly {s : S} {w' : World S} (hs : P s)
      (hm : w' = { w with rest := s } ∨ ∃ b s', E.runs spec b s s' ∧ w' = { w with rest := s' }) :
      R w'.rest := by
    obtain rfl | ⟨b, s', hrun, rfl⟩ := hm
    · exact hstill _ hs
    · exact hruns b _ _ hs hrun
  refine (wp_request _).mpr ⟨fun w' hm => ?_, fun e w' hm => ?_, fun _ w' hm => ?_⟩
  · obtain ⟨s, hs, hm⟩ := hstarted hm
    simp only [Surroundings.Started, hmade] at hm
    exact hpartly hs hm
  · obtain ⟨s, hs, hm⟩ := hstarted hm
    simp only [Surroundings.Started, hmade] at hm
    exact hpartly hs hm
  · obtain ⟨s, hs, hm⟩ := hstarted hm
    simp only [Surroundings.Started, hmade] at hm
    obtain ⟨b, s', hrun, rfl⟩ := hm
    refine ⟨fun hended => ?_, hruns b _ _ hs hrun⟩
    have hb : some b = some true := (Function.update_self id _ _).symm.trans hended
    cases hb
    exact hdone _ _ hs hrun

theorem awaitTask_wp {spec : DockerContainerSpec} {id name : String} {s : σ}
    (hP : E.Keeps Around P) (hQ : E.Keeps Around Q) (hR : E.Keeps Around R)
    (hstill : ∀ s, P s → R s) (hdone : ∀ s s', P s → E.runs spec true s s' → Q s')
    (hruns : ∀ b s s', P s → E.runs spec b s s' → R s') (htask : E.isTask id)
    (hmade : w.made id = some spec) (hw : P w.rest) :
    (awaitTask id name : AgentMethod σ Unit).wp E.effect
      ⟨fun _ _ w => Q w.rest ∧ R w.rest, fun _ _ w => R w.rest, fun w => R w.rest⟩ s w := by
  have hwait : Around (.request (.waitContainer id none)) := trivial
  have hfail {s : σ} {status : ℤ} {w : World S} (hw : R w.rest) :
      (failTask id name status : AgentMethod σ Unit).wp E.effect
        ⟨fun _ _ w => Q w.rest ∧ R w.rest, fun _ _ w => R w.rest, fun w => R w.rest⟩ s w :=
    wp_bind_of (R := fun _ _ w => R w.rest) (hR.around_wp (uses_settle (uses_request trivial)) hw)
      fun _ _ _ hw => hw
  refine wp_bind_of (startContainer_wp hP hstill hdone hruns htask hmade hw) fun _ s w hw => ?_
  have hany {r : Option (Except CallError ℤ)} {w' : World S}
      (hm : E.effect w (.request (.waitContainer id none)) r w') : R w'.rest :=
    effect_keeps hR hwait (fun _ h => nomatch h) hm hw.any
  refine (wp_bind _ _).mpr ((wp_request _).mpr ⟨fun _ => hany, fun _ _ => hany, ?_⟩)
  intro status w' hm
  have hw' := hany hm
  obtain ⟨s', hd, hended, rfl⟩ := hm
  dsimp only
  by_cases hstatus : status = 0
  · rw [if_pos hstatus]
    exact ⟨hQ.drift _ _ hd (hw.well (hended hstatus)), hw'⟩
  · rw [if_neg hstatus]
    exact hfail hw'

theorem runWorkerVolumeTask_wp {spec : DockerContainerSpec} {s : σ} (hP : E.Keeps Around P)
    (hQ : E.Keeps Around Q) (hR : E.Keeps Around R) (hstill : ∀ s, P s → R s)
    (hdone : ∀ s s', P s → E.runs spec true s s' → Q s')
    (hruns : ∀ b s s', P s → E.runs spec b s s' → R s') (hw : P w.rest) :
    (runWorkerVolumeTask spec : AgentMethod σ Unit).wp E.effect
      ⟨fun _ _ w => Q w.rest ∧ R w.rest, fun _ _ w => R w.rest, fun w => R w.rest⟩ s w := by
  have hbefore {r : Request} {s : σ} {w : World S} (hr : Around (.request r)) (hw : P w.rest) :
      (request r : AgentMethod σ _).wp E.effect
        ⟨fun _ _ w => P w.rest, fun _ _ w => R w.rest, fun w => R w.rest⟩ s w :=
    wp_mono (hP.around_wp (uses_request hr) hw) (fun _ _ _ h => h) (fun _ _ _ h => hstill _ h)
      fun _ h => hstill _ h
  have hcreate : Around (.request (.createContainer spec)) := trivial
  refine wp_bind_of (hbefore trivial hw) fun _ s w hw => ?_
  refine wp_bind_of (hbefore trivial hw) fun _ s w hw => ?_
  have hany {r : Option (Except CallError String)} {w' : World S}
      (hm : E.effect w (.request (.createContainer spec)) r w') : R w'.rest :=
    hstill _ (effect_keeps hP hcreate (fun _ h => nomatch h) hm hw)
  refine (wp_bind _ _).mpr ((wp_request _).mpr ⟨fun _ => hany, fun _ _ => hany, ?_⟩)
  rintro id w ⟨s', hd, htask, rfl⟩
  have hawait : (awaitTask id spec.name : AgentMethod σ Unit).wp E.effect
      ⟨fun _ _ w => Q w.rest ∧ R w.rest, fun _ _ w => R w.rest, fun w => R w.rest⟩ s
      ⟨Function.update w.made id (some spec), w.ended, s'⟩ :=
    awaitTask_wp hP hQ hR hstill hdone hruns htask (Function.update_self _ _ _) (hP.drift _ _ hd hw)
  refine (wp_finally _ _).mpr (wp_mono hawait (fun _ s w hw => ?_) (fun _ s w hw => ?_) fun _ h => h)
  · exact wp_mono ((hQ.and hR).around_wp (uses_request trivial) hw) (fun _ _ _ h => h)
      (fun _ _ _ h => h.2) fun _ h => h.2
  · exact wp_mono (hR.around_wp (uses_request trivial) hw) (fun _ _ _ h => h)
      (fun _ _ _ h => h) fun _ h => h

end NouvaAgent.TaskContainers
