import NouvaAgent.Host
import NouvaAgent.Interaction.Triples

namespace NouvaAgent

open Interaction

abbrev HostEvent := Event HostCall.Answer

abbrev HostHistory := History HostCall.Answer

namespace Host

open Method

variable {σ α W : Type}

theorem triple_agent {M : Model HostCall.Answer W} {J P X : W → Prop} {p : AgentMethod σ α}
    {Q : α → W → Prop} (h : Triple (onAgent M) J P p Q X) : Triple M J P (agent p) Q X :=
  fun s w hJ hw => (wp_agent p).mpr (h s w hJ hw)

theorem persistent_onAgent {M : Model HostCall.Answer W} {P : W → Prop} (h : Persistent M P) :
    Persistent (onAgent M) P := fun w c r w' hm => h w (.agent c) r w' hm

section

variable {G : HostEvent → HostHistory → Prop} {P X : HostHistory → Prop} {r : Request}
  {Q : r.Result → HostHistory → Prop}

theorem triple_agentRequest (hG : ∀ a h, P h → G ⟨.agent (.request r), a⟩ h)
    (hQ : ∀ a h, P h → Q a (⟨.agent (.request r), some (.ok a)⟩ :: h))
    (hX : ∀ e h, P h → X (⟨.agent (.request r), some (.error e)⟩ :: h)) :
    Triple (onAgent recording) (Along G) P (Agent.request r : AgentMethod σ r.Result) Q X := by
  intro s h hJ hP
  apply (Agent.wp_request r).mpr
  refine ⟨?_, ?_, ?_⟩
  · rintro _ ⟨rfl, -⟩
    exact ⟨hG _ h hP, hJ⟩
  · rintro e _ ⟨rfl, -⟩
    exact ⟨⟨hG _ h hP, hJ⟩, hX e h hP⟩
  · rintro a _ ⟨rfl, -⟩
    exact ⟨⟨hG _ h hP, hJ⟩, hQ a h hP⟩

theorem triple_request (hG : ∀ a h, P h → G ⟨.agent (.request r), a⟩ h)
    (hQ : ∀ a h, P h → Q a (⟨.agent (.request r), some (.ok a)⟩ :: h))
    (hX : ∀ e h, P h → X (⟨.agent (.request r), some (.error e)⟩ :: h)) :
    Triple recording (Along G) P (request r : HostMethod σ r.Result) Q X :=
  triple_agent (triple_agentRequest hG hQ hX)

end

theorem triple_answered {G : HostEvent → HostHistory → Prop} {P X : HostHistory → Prop}
    {c : HostCall} {Q : HostHistory → Prop} {f : c.Answer → HostMethod σ Unit}
    (hf : ∀ a, f a = .pure () ∨ ∃ e, f a = .throw e) (hG : ∀ a h, P h → G ⟨c, a⟩ h)
    (hQ : ∀ a h, f a = .pure () → P h → Q (⟨c, some a⟩ :: h))
    (hX : ∀ a h, P h → X (⟨c, some a⟩ :: h)) :
    Triple recording (Along G) P (Method.bind (.ask c) f) (fun _ => Q) X := by
  have hask : Triple recording (Along G) P (Method.ask c : HostMethod σ c.Answer)
      (fun a h => ∃ before, h = ⟨c, some a⟩ :: before ∧ P before) X := by
    apply triple_ask_along
    · exact fun h a hP => hG a h hP
    · exact fun h a hP => ⟨h, rfl, hP⟩
  apply hask.bind
  intro a
  obtain hpure | ⟨e, hthrow⟩ := hf a
  · rw [hpure]
    apply triple_pure
    rintro _ ⟨h, rfl, hP⟩
    exact hQ a h hpure hP
  · rw [hthrow]
    apply triple_throw
    rintro _ ⟨h, rfl, hP⟩
    exact hX a h hP

end Host

end NouvaAgent
