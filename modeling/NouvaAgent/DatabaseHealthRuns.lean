import Mathlib.Data.List.Nodup
import Mathlib.Data.List.Perm.Basic
import Mathlib.Data.Rat.Floor
import Mathlib.Logic.Function.Iterate
import Mathlib.Logic.Relation
import NouvaAgent.DatabaseHealth

namespace NouvaAgent.DatabaseHealth

open Text Interaction Program

def isProbe (e : Event HealthCall.Answer) : Bool :=
  match e.call with
  | .runProbe _ _ _ => true
  | _ => false

section

variable {container : ManagedDatabaseContainer} {events : History HealthCall.Answer}
  {observation : DatabaseRuntimeHealthObservation}

/-- What an observation says for certain: whose it is. It takes one authenticated probe at most. -/
def Observes (container : ManagedDatabaseContainer) (events : History HealthCall.Answer)
    (observation : DatabaseRuntimeHealthObservation) : Prop :=
  observation.identity = (container.serviceId, container.containerId, container.containerName,
    container.engine.text) ∧ events.countP isProbe ≤ 1

theorem report_observes {state : DatabaseRuntimeHealthState} {reason : DatabaseRuntimeHealthReason}
    (h : (report container state reason).Produces events observation) :
    observation.identity = (container.serviceId, container.containerId, container.containerName,
      container.engine.text) ∧ events.countP isProbe = 0 := by
  cases h with
  | call hn =>
    cases hn
    exact ⟨rfl, rfl⟩

theorem probeDatabase_observes {inspection : DatabaseInspection}
    {credentials : DatabaseProbeCredentials}
    (h : (probeDatabase container inspection credentials).Produces events observation) :
    Observes container events observation := by
  cases h with
  | @call _ r _ later _ hn =>
    have hreport : observation.identity = (container.serviceId, container.containerId,
        container.containerName, container.engine.text) ∧ later.countP isProbe = 0 := by
      cases r with
      | error e => exact report_observes hn
      | ok u => exact report_observes hn
    refine ⟨hreport.1, ?_⟩
    rw [List.countP_append, hreport.2, Nat.zero_add]
    exact List.countP_le_length

theorem hasKnownKernelIncompatibility_probes {containerName : String} {known : Bool}
    (h : (hasKnownKernelIncompatibility containerName).Produces events known) :
    events.countP isProbe = 0 := by
  cases h with
  | @call _ r _ later _ hn =>
    cases r with
    | error e =>
      cases hn
      rfl
    | ok logs =>
      cases hn
      rfl

theorem observeInspected_observes {inspection : DatabaseInspection}
    (h : (observeInspected container inspection).Produces events observation) :
    Observes container events observation := by
  unfold observeInspected at h
  dsimp only at h
  split at h
  · obtain ⟨before, later, known, rfl, hknown, hreport⟩ := h.of_bind
    obtain ⟨hidentity, hnone⟩ := report_observes hreport
    refine ⟨hidentity, ?_⟩
    rw [List.countP_append, hnone, hasKnownKernelIncompatibility_probes hknown]
    exact Nat.zero_le _
  · split at h
    · split at h
      · exact ⟨(report_observes h).1, by simp [(report_observes h).2]⟩
      · exact probeDatabase_observes h
    · exact ⟨(report_observes h).1, by simp [(report_observes h).2]⟩

theorem observeDatabaseRuntimeHealth_observes
    (h : (observeDatabaseRuntimeHealth container).Produces events observation) :
    Observes container events observation := by
  cases h with
  | @call _ r _ later _ hn =>
    have hlater : Observes container later observation := by
      cases r with
      | error e => exact ⟨(report_observes hn).1, by simp [(report_observes hn).2]⟩
      | ok inspection =>
        cases inspection with
        | none => exact ⟨(report_observes hn).1, by simp [(report_observes hn).2]⟩
        | some inspection => exact observeInspected_observes hn
    refine ⟨hlater.1, ?_⟩
    rw [List.countP_append]
    exact hlater.2

theorem observeInspected_responsive (container : ManagedDatabaseContainer)
    (inspection : DatabaseInspection) : (observeInspected container inspection).Responsive := by
  unfold observeInspected
  dsimp only
  split
  · apply Responsive.bind
    · intro r
      cases r <;> trivial
    · intro known time
      trivial
  · split
    · split
      · exact fun _ => trivial
      · intro r
        cases r <;> exact fun _ => trivial
    · exact fun _ => trivial

theorem observeDatabaseRuntimeHealth_responsive (container : ManagedDatabaseContainer) :
    (observeDatabaseRuntimeHealth container).Responsive := by
  intro r
  cases r with
  | error e => exact fun _ => trivial
  | ok inspection =>
    cases inspection with
    | none => exact fun _ => trivial
    | some inspection => exact observeInspected_responsive container inspection

end

theorem takeNext_cases (containers : List InventoriedDatabaseContainer) (next : ℕ) :
    (takeNext containers next = (next + containers.length, none) ∧
        ∀ container ∈ containers, container.engine = none) ∨
      ∃ skipped container rest engine, containers = skipped ++ container :: rest ∧
        (∀ other ∈ skipped, other.engine = none) ∧ container.engine = some engine ∧
        takeNext containers next = (next + skipped.length + 1,
          some (next + skipped.length, container.managed engine)) := by
  induction containers generalizing next with
  | nil => exact .inl ⟨rfl, nofun⟩
  | cons container rest ih =>
    cases hengine : container.engine with
    | some engine =>
      refine .inr ⟨[], container, rest, engine, rfl, nofun, hengine, ?_⟩
      simp [takeNext, hengine]
    | none =>
      have htake : takeNext (container :: rest) next = takeNext rest (next + 1) := by
        simp [takeNext, hengine]
      rcases ih (next + 1) with ⟨hnone, hall⟩ | ⟨skipped, found, after, engine, hrest, hall, hfound, hsome⟩
      · refine .inl ⟨?_, by simpa [hengine] using hall⟩
        rw [htake, hnone, List.length_cons, Nat.add_right_comm, Nat.add_assoc]
      · refine .inr ⟨container :: skipped, found, after, engine, by rw [hrest]; rfl,
          by simpa [hengine] using hall, hfound, ?_⟩
        have hlength : next + 1 + skipped.length = next + (container :: skipped).length := by
          rw [List.length_cons]
          omega
        rw [htake, hsome, hlength]

def Observed (c : Collection) (index : ℕ) (container : ManagedDatabaseContainer) : Prop :=
  ∃ inventoried engine, c.containers[index]? = some inventoried ∧
    inventoried.engine = some engine ∧ container = inventoried.managed engine

structure Holds (c : Collection) (finished : List Finished)
    (entries : List DatabaseRuntimeHealthObservation) : Prop where
  length : entries.length = c.containers.length
  made : ∀ f ∈ finished, entries[f.index]? = some f.observation
  unmade : ∀ i container, c.containers[i]? = some container →
    i ∉ finished.map Finished.index → entries[i]? = some (c.placeholder container)

structure Lists (c : Collection) (arrays : Arrays DatabaseRuntimeHealthObservation)
    (report : DatabaseRuntimeHealthReport) : Prop where
  observedAt : report.observedAt = c.observedAt
  apart : report.containers ≠ Collection.observations
  entries : ∃ entries, arrays.read report.containers = some entries ∧
    entries.map DatabaseRuntimeHealthObservation.identity =
      c.containers.map InventoriedDatabaseContainer.identity

structure Core (c : Collection) (s : State) : Prop where
  entries : ∃ entries, s.arrays.read Collection.observations = some entries ∧ Holds c s.finished entries
  published : ∀ r ∈ s.published, Lists c s.arrays r
  bound : s.next ≤ c.containers.length
  once : s.started.Nodup
  taken : ∀ i, i ∈ s.started ↔ i < s.next ∧
    ∃ container, c.containers[i]? = some container ∧ container.engine ≠ none
  accounted : s.started.Perm (s.flights.map Flight.index ++ s.finished.map Finished.index)
  flights : ∀ f ∈ s.flights, Observed c f.index f.container ∧ f.program.Responsive ∧
    ∀ later observation, f.program.Produces later observation →
      (observeDatabaseRuntimeHealth f.container).Produces (later ++ f.answered) observation
  finished : ∀ f ∈ s.finished, ∃ container, Observed c f.index container ∧
    (observeDatabaseRuntimeHealth container).Produces f.events f.observation
  returned : ∀ r, s.returned = some r → s.flights = [] ∧ r.observedAt = c.observedAt ∧
    s.arrays.read r.containers = s.arrays.read Collection.observations

def Drained (c : Collection) (s : State) : Prop :=
  s.flights = [] → s.next = c.containers.length

section

variable {c : Collection} {s s' : State} {entries : List DatabaseRuntimeHealthObservation}

theorem Core.identities (h : Core c s) (hholds : Holds c s.finished entries) :
    entries.map DatabaseRuntimeHealthObservation.identity =
      c.containers.map InventoriedDatabaseContainer.identity := by
  apply List.ext_getElem?
  intro i
  rw [List.getElem?_map, List.getElem?_map]
  cases hi : c.containers[i]? with
  | none =>
    have hnone : entries[i]? = none := by
      rw [List.getElem?_eq_none_iff, hholds.length]
      exact List.getElem?_eq_none_iff.mp hi
    rw [hnone]
    rfl
  | some container =>
    by_cases hmem : i ∈ s.finished.map Finished.index
    · obtain ⟨f, hf, rfl⟩ := List.mem_map.mp hmem
      obtain ⟨managed, ⟨inventoried, engine, hat, hengine, rfl⟩, hproduces⟩ := h.finished f hf
      obtain rfl : inventoried = container := Option.some.inj (hat.symm.trans hi)
      have hidentity := (observeDatabaseRuntimeHealth_observes hproduces).1
      rw [hholds.made f hf, Option.map_some, Option.map_some, hidentity]
      simp [InventoriedDatabaseContainer.identity, InventoriedDatabaseContainer.managed, hengine]
    · rw [hholds.unmade i container hi hmem]
      rfl

theorem Lists.allocate {arrays : Arrays DatabaseRuntimeHealthObservation}
    {report : DatabaseRuntimeHealthReport} (h : Lists c arrays report)
    (values : List DatabaseRuntimeHealthObservation) : Lists c (arrays.allocate values) report := by
  obtain ⟨found, hread, hidentity⟩ := h.entries
  refine ⟨h.observedAt, h.apart, found, ?_, hidentity⟩
  rw [Arrays.read_allocate_of_lt (Arrays.lt_of_read hread), hread]

theorem Core.snapshot (h : Core c s) : Core c (c.snapshot s).1 ∧
    Lists c (c.snapshot s).1.arrays (c.snapshot s).2 ∧
    (c.snapshot s).1.arrays.read (c.snapshot s).2.containers =
      (c.snapshot s).1.arrays.read Collection.observations := by
  obtain ⟨entries, hread, hholds⟩ := h.entries
  have hlt := Arrays.lt_of_read hread
  have harrays : (c.snapshot s).1.arrays = s.arrays.allocate entries := by
    simp [Collection.snapshot, hread]
  have hcopy : (c.snapshot s).1.arrays.read s.arrays.length = some entries := by
    rw [harrays, Arrays.read_allocate]
  have hkept : (c.snapshot s).1.arrays.read Collection.observations = some entries := by
    rw [harrays, Arrays.read_allocate_of_lt hlt, hread]
  have hlists : Lists c (c.snapshot s).1.arrays (c.snapshot s).2 :=
    { observedAt := rfl
      apart := Nat.ne_of_gt hlt
      entries := ⟨entries, hcopy, h.identities hholds⟩ }
  refine ⟨{ h with
    entries := ⟨entries, hkept, hholds⟩
    published := fun r hr => by
      rw [harrays]
      exact (h.published r hr).allocate entries
    returned := fun r hr => ?_ }, hlists, hcopy.trans hkept.symm⟩
  obtain ⟨hflights, hobserved, hsame⟩ := h.returned r hr
  refine ⟨hflights, hobserved, ?_⟩
  have hr' : s.arrays.read r.containers = some entries := hsame.trans hread
  rw [hkept, harrays, Arrays.read_allocate_of_lt (Arrays.lt_of_read hr'), hr']

theorem Core.publish (h : Core c s) : Core c (c.publish s) := by
  obtain ⟨hcore, hlists, -⟩ := h.snapshot
  refine { hcore with published := fun r hr => ?_ }
  rcases List.mem_append.mp hr with hold | hnew
  · exact hcore.published r hold
  · obtain rfl := List.mem_singleton.mp hnew
    exact hlists

theorem drop_getElem? {i : ℕ} {container : InventoriedDatabaseContainer} (hle : s.next ≤ i)
    (hi : c.containers[i]? = some container) :
    (c.containers.drop s.next)[i - s.next]? = some container := by
  rw [List.getElem?_drop, Nat.add_sub_cancel' hle, hi]

theorem Core.worker (h : Core c s) (hnone : s.returned = none) :
    Core c (c.worker s) ∧ Drained c (c.worker s) := by
  have hlength : s.next + (c.containers.drop s.next).length = c.containers.length := by
    rw [List.length_drop]
    have := h.bound
    omega
  unfold Collection.worker
  rcases takeNext_cases (c.containers.drop s.next) s.next with
    ⟨htake, hall⟩ | ⟨skipped, container, rest, engine, hdrop, hall, hengine, htake⟩
  · rw [htake, hlength]
    refine ⟨{ h with bound := le_refl _, taken := fun i => ?_ }, fun _ => rfl⟩
    rw [h.taken i]
    constructor
    · rintro ⟨hlt, hknown⟩
      exact ⟨lt_of_lt_of_le hlt h.bound, hknown⟩
    · rintro ⟨-, found, hi, hknown⟩
      refine ⟨?_, found, hi, hknown⟩
      by_contra hge
      have hmem := List.mem_of_getElem? (drop_getElem? (Nat.le_of_not_lt hge) hi)
      exact hknown (hall found hmem)
  · rw [htake]
    dsimp only
    have hat : c.containers[s.next + skipped.length]? = some container := by
      rw [← List.getElem?_drop, hdrop, List.getElem?_append_right (le_refl _), Nat.sub_self]
      rfl
    have hfresh : s.next + skipped.length ∉ s.started := by
      intro hmem
      have := ((h.taken _).mp hmem).1
      omega
    refine ⟨{ h with
      bound := (List.getElem?_eq_some_iff.mp hat).1
      once := List.nodup_append.mpr ⟨h.once, List.nodup_singleton _, fun i hi j hj hij => ?_⟩
      taken := fun i => ?_
      accounted := ?_
      flights := fun f hf => ?_
      returned := fun r hr => absurd (hnone.symm.trans hr) (by simp) }, fun hno => ?_⟩
    · rw [List.mem_singleton] at hj
      exact hfresh (hj ▸ hij ▸ hi)
    · dsimp only
      rw [List.mem_append, List.mem_singleton, h.taken i]
      constructor
      · rintro (⟨hlt, hknown⟩ | rfl)
        · exact ⟨by omega, hknown⟩
        · exact ⟨by omega, container, hat, by simp [hengine]⟩
      · rintro ⟨hlt, found, hi, hknown⟩
        by_cases hold : i < s.next
        · exact .inl ⟨hold, found, hi, hknown⟩
        · by_cases hlast : i = s.next + skipped.length
          · exact .inr hlast
          · have hskipped := drop_getElem? (Nat.le_of_not_lt hold) hi
            rw [hdrop, List.getElem?_append_left (by omega)] at hskipped
            exact absurd (hall found (List.mem_of_getElem? hskipped)) hknown
    · rw [List.map_append, List.map_singleton]
      refine (h.accounted.append_right _).trans ?_
      rw [List.append_assoc, List.append_assoc]
      exact List.Perm.append_left _ List.perm_append_comm
    · rcases List.mem_append.mp hf with hold | hnew
      · exact h.flights f hold
      · obtain rfl := List.mem_singleton.mp hnew
        refine ⟨⟨container, engine, hat, hengine, rfl⟩,
          observeDatabaseRuntimeHealth_responsive _, fun later observation hlater => ?_⟩
        rwa [List.append_nil]
    · simp at hno

theorem Core.answer {before after : List Flight} {flight : Flight} {call : HealthCall}
    {next : call.Answer → HealthProgram DatabaseRuntimeHealthObservation} (h : Core c s)
    (hs : s.flights = before ++ { flight with program := .call call next } :: after)
    (answer : call.Answer) :
    Core c { s with flights := before ++ { flight with
      answered := ⟨call, some answer⟩ :: flight.answered, program := next answer } :: after } := by
  have hmem : { flight with program := .call call next } ∈ s.flights := by simp [hs]
  obtain ⟨hobserved, hresponsive, hproduces⟩ := h.flights _ hmem
  refine { h with
    accounted := by simpa [hs] using h.accounted
    flights := fun f hf => ?_
    returned := fun r hr => absurd (h.returned r hr).1 (by simp [hs]) }
  rw [List.mem_append, List.mem_cons] at hf
  rcases hf with hf | rfl | hf
  · exact h.flights f (by simp [hs, hf])
  · refine ⟨hobserved, hresponsive answer, fun later observation hlater => ?_⟩
    have hwhole := hproduces _ _ (Produces.call hlater)
    rwa [List.append_assoc, List.singleton_append] at hwhole
  · exact h.flights f (by simp [hs, hf])

theorem Core.resume {before after : List Flight} {flight : Flight}
    {observation : DatabaseRuntimeHealthObservation} (h : Core c s)
    (hs : s.flights = before ++ { flight with program := .ret observation } :: after) :
    Core c (c.resume { s with flights := before ++ after } flight observation) ∧
      Drained c (c.resume { s with flights := before ++ after } flight observation) := by
  have hmem : { flight with program := .ret observation } ∈ s.flights := by simp [hs]
  obtain ⟨hobserved, -, hproduces⟩ := h.flights _ hmem
  have hdone : (observeDatabaseRuntimeHealth flight.container).Produces flight.answered
      observation := hproduces [] observation (.ret observation)
  have hnone : s.returned = none := by
    cases hr : s.returned with
    | none => rfl
    | some r => exact absurd (h.returned r hr).1 (by simp [hs])
  obtain ⟨entries, hread, hholds⟩ := h.entries
  obtain ⟨inventoried, engine, hat, -, -⟩ := id hobserved
  have hfresh : flight.index ∉ s.finished.map Finished.index := by
    intro hin
    have hnodup := h.accounted.nodup_iff.mp h.once
    have hflight : flight.index ∈ s.flights.map Flight.index := List.mem_map.mpr ⟨_, hmem, rfl⟩
    exact (List.nodup_append.mp hnodup).2.2 _ hflight _ hin rfl
  have hlt : flight.index < entries.length := by
    rw [hholds.length]
    exact (List.getElem?_eq_some_iff.mp hat).1
  have hstored : Core c { s with
      flights := before ++ after
      arrays := s.arrays.store Collection.observations flight.index observation
      finished := s.finished ++ [⟨flight.index, flight.answered, observation⟩] } := by
    refine { h with
      entries := ⟨_, Arrays.read_store hread flight.index observation, ?_⟩
      published := fun r hr => ?_
      accounted := ?_
      flights := fun f hf => h.flights f ?_
      finished := fun f hf => ?_
      returned := fun r hr => absurd (hnone.symm.trans hr) (by simp) }
    · refine ⟨by rw [List.length_set, hholds.length], fun f hf => ?_, fun i container hi hno => ?_⟩
      · rcases List.mem_append.mp hf with hold | hnew
        · have hne : flight.index ≠ f.index := by
            rintro heq
            exact hfresh (heq ▸ List.mem_map_of_mem hold)
          rw [List.getElem?_set_ne hne, hholds.made f hold]
        · obtain rfl := List.mem_singleton.mp hnew
          rw [List.getElem?_set_self hlt]
      · rw [List.map_append, List.mem_append, not_or] at hno
        have hne : flight.index ≠ i := by
          rintro rfl
          exact hno.2 (by simp)
        rw [List.getElem?_set_ne hne, hholds.unmade i container hi hno.1]
    · obtain ⟨found, hfound, hidentity⟩ := (h.published r hr).entries
      refine ⟨(h.published r hr).observedAt, (h.published r hr).apart, found, ?_, hidentity⟩
      rw [Arrays.read_store_of_ne (h.published r hr).apart.symm, hfound]
    · refine h.accounted.trans ?_
      rw [hs]
      simp only [List.map_append, List.map_cons, List.append_assoc]
      refine List.Perm.append_left _ ?_
      rw [List.cons_append, ← List.append_assoc, List.map_nil]
      exact (List.perm_append_singleton _ _).symm
    · rcases List.mem_append.mp hf with hf | hf
      · simp [hs, hf]
      · simp [hs, hf]
    · rcases List.mem_append.mp hf with hold | hnew
      · exact h.finished f hold
      · obtain rfl := List.mem_singleton.mp hnew
        exact ⟨flight.container, hobserved, hdone⟩
  exact hstored.publish.worker hnone

theorem Core.finish (h : Core c s) (hs : s.flights = []) : Core c (c.finish s) := by
  obtain ⟨hcore, hlists, hsame⟩ := h.snapshot
  refine { hcore with returned := fun r hr => ?_ }
  obtain rfl : (c.snapshot s).2 = r := Option.some.inj hr
  exact ⟨hs, hlists.observedAt, hsame⟩

@[simp] theorem worker_arrays (c : Collection) (s : State) : (c.worker s).arrays = s.arrays := by
  unfold Collection.worker
  split <;> rfl

@[simp] theorem worker_published (c : Collection) (s : State) :
    (c.worker s).published = s.published := by
  unfold Collection.worker
  split <;> rfl

@[simp] theorem worker_returned (c : Collection) (s : State) :
    (c.worker s).returned = s.returned := by
  unfold Collection.worker
  split <;> rfl

theorem Core.workers (h : Core c s) (hnone : s.returned = none) (n : ℕ) :
    Core c ((c.worker)^[n] s) ∧ ((c.worker)^[n] s).returned = none ∧
      (n ≠ 0 → Drained c ((c.worker)^[n] s)) := by
  induction n with
  | zero => exact ⟨h, hnone, fun hzero => absurd rfl hzero⟩
  | succ n ih =>
    obtain ⟨hcore, hreturned, -⟩ := ih
    rw [Function.iterate_succ_apply']
    obtain ⟨hcore', hdrained⟩ := hcore.worker hreturned
    exact ⟨hcore', by rw [worker_returned, hreturned], fun _ => hdrained⟩

theorem containers_of_workers (h : c.workers = 0) : c.containers.length = 0 := by
  by_contra hne
  have hone : (1 : ℚ) ≤ min (max 1 (c.concurrency.getD 2)) (c.containers.length : ℚ) := by
    apply le_min (le_max_left _ _)
    exact_mod_cast Nat.one_le_iff_ne_zero.mpr hne
  have hfloor : 1 ≤ (min (max 1 (c.concurrency.getD 2)) (c.containers.length : ℚ)).floor :=
    Rat.le_floor_iff.mpr (by exact_mod_cast hone)
  unfold Collection.workers at h
  omega

theorem core_start (c : Collection) : Core c c.start ∧ Drained c c.start := by
  have hplaced : Core c { arrays := [c.containers.map c.placeholder] } :=
    { entries := by
        refine ⟨_, rfl, List.length_map _, nofun, fun i container hi _ => ?_⟩
        rw [List.getElem?_map, hi]
        rfl
      published := nofun
      bound := Nat.zero_le _
      once := List.nodup_nil
      taken := fun i => by simp
      accounted := List.Perm.refl _
      flights := nofun
      finished := nofun
      returned := nofun }
  obtain ⟨hcore, -, hdrained⟩ := hplaced.publish.workers rfl c.workers
  refine ⟨hcore, ?_⟩
  by_cases hzero : c.workers = 0
  · intro _
    have hnext : c.start.next = 0 := by
      unfold Collection.start
      rw [hzero]
      rfl
    rw [hnext, containers_of_workers hzero]
  · exact hdrained hzero

theorem Step.core (h : Core c s ∧ Drained c s) (hs : Step c s s') : Core c s' ∧ Drained c s' := by
  obtain ⟨hcore, hdrained⟩ := h
  cases hs with
  | answer answer hf => exact ⟨hcore.answer hf answer, fun hno => absurd hno (by simp)⟩
  | resume hf => exact hcore.resume hf
  | finish hf _ => exact ⟨hcore.finish hf, fun _ => hdrained hf⟩

theorem Reachable.core (h : Reachable c s) : Core c s ∧ Drained c s := by
  induction h with
  | start => exact core_start c
  | step _ hs ih => exact hs.core ih

def Kept (s s' : State) : Prop :=
  s.published <+: s'.published ∧
    ∀ r ∈ s.published, s'.arrays.read r.containers = s.arrays.read r.containers

theorem Kept.refl (s : State) : Kept s s := ⟨List.prefix_refl _, fun _ _ => rfl⟩

theorem Kept.trans {s₁ s₂ s₃ : State} (h : Kept s₁ s₂) (h' : Kept s₂ s₃) : Kept s₁ s₃ :=
  ⟨h.1.trans h'.1, fun r hr => (h'.2 r (h.1.subset hr)).trans (h.2 r hr)⟩

theorem Step.kept (h : Core c s) (hs : Step c s s') : Kept s s' := by
  have hlt : ∀ r ∈ s.published, r.containers < s.arrays.length := by
    intro r hr
    obtain ⟨found, hfound, -⟩ := (h.published r hr).entries
    exact Arrays.lt_of_read hfound
  cases hs with
  | answer answer hf => exact Kept.refl s
  | resume hf =>
    refine ⟨?_, fun r hr => ?_⟩
    · simp [Collection.resume, Collection.publish, Collection.snapshot]
    · simp only [Collection.resume, worker_arrays, Collection.publish, Collection.snapshot]
      rw [Arrays.read_allocate_of_lt (by simpa using hlt r hr),
        Arrays.read_store_of_ne (h.published r hr).apart.symm]
  | finish hf hno =>
    exact ⟨List.prefix_refl _, fun r hr => Arrays.read_allocate_of_lt (hlt r hr) _⟩

theorem kept_of_steps (h : Core c s ∧ Drained c s) (hs : Relation.ReflTransGen (Step c) s s') :
    Kept s s' := by
  have hboth : (Core c s' ∧ Drained c s') ∧ Kept s s' := by
    induction hs with
    | refl => exact ⟨h, Kept.refl s⟩
    | tail _ hstep ih => exact ⟨hstep.core ih.1, ih.2.trans (hstep.kept ih.1.1)⟩
  exact hboth.2

instance (call : HealthCall) : Nonempty call.Answer := by
  cases call with
  | now => exact ⟨(0 : ℤ)⟩
  | inspectContainer containerName => exact ⟨.error ⟨true, "", none⟩⟩
  | containerLogs containerName => exact ⟨.error ⟨true, "", none⟩⟩
  | runProbe container inspection probe => exact ⟨.error ⟨true, "", none⟩⟩

theorem Core.progress (h : Core c s) (hnone : s.returned = none) : ∃ s', Step c s s' := by
  cases hflights : s.flights with
  | nil => exact ⟨_, .finish hflights hnone⟩
  | cons flight rest =>
    obtain ⟨-, hresponsive, -⟩ := h.flights flight (by simp [hflights])
    cases hprogram : flight.program with
    | ret observation =>
      have hfirst : flight = { flight with program := .ret observation } := by rw [← hprogram]
      exact ⟨_, @Step.resume c s [] rest flight observation (by rw [hflights, ← hfirst]; rfl)⟩
    | cut => exact (hprogram ▸ hresponsive).elim
    | pick next => exact (hprogram ▸ hresponsive).elim
    | call call next =>
      have hfirst : flight = { flight with program := .call call next } := by rw [← hprogram]
      exact ⟨_, @Step.answer c s [] rest flight call next (Classical.arbitrary _)
        (by rw [hflights, ← hfirst]; rfl)⟩

theorem Core.all_observed (h : Core c s) (hdrained : Drained c s) (hflights : s.flights = [])
    {i : ℕ} {container : InventoriedDatabaseContainer} (hi : c.containers[i]? = some container)
    (hengine : container.engine ≠ none) : ∃ f ∈ s.finished, f.index = i := by
  have hstarted : i ∈ s.started := by
    rw [h.taken, hdrained hflights]
    exact ⟨(List.getElem?_eq_some_iff.mp hi).1, container, hi, hengine⟩
  have hfinished := h.accounted.subset hstarted
  rw [hflights] at hfinished
  simpa using hfinished

end

/-- However the answers come in: every report that was published lists the inventory in its order,
and later probes leave it as it is. Each container with an engine is observed once, by one probe at
most, and a container without one never is. The report that is returned has every observation. -/
theorem database_health_is_complete (c : Collection) (s : State) (h : Reachable c s) :
    (∀ r ∈ s.published, r.observedAt = c.observedAt ∧
      ∃ entries, s.arrays.read r.containers = some entries ∧
        entries.map DatabaseRuntimeHealthObservation.identity =
          c.containers.map InventoriedDatabaseContainer.identity) ∧
      (∀ s', Relation.ReflTransGen (Step c) s s' → s.published <+: s'.published ∧
        ∀ r ∈ s.published, s'.arrays.read r.containers = s.arrays.read r.containers) ∧
      (∀ i container, c.containers[i]? = some container →
        s.started.count i ≤ 1 ∧ (container.engine = none → i ∉ s.started)) ∧
      (∀ f ∈ s.finished, f.index ∈ s.started ∧ f.events.countP isProbe ≤ 1 ∧
        ∃ container, Observed c f.index container ∧
          (observeDatabaseRuntimeHealth container).Produces f.events f.observation) ∧
      (s.returned = none → ∃ s', Step c s s') ∧
      ∀ r, s.returned = some r → r.observedAt = c.observedAt ∧
        (∀ i container, c.containers[i]? = some container → container.engine ≠ none →
          s.started.count i = 1 ∧ ∃ f ∈ s.finished, f.index = i) ∧
        ∃ entries, s.arrays.read r.containers = some entries ∧
          entries.map DatabaseRuntimeHealthObservation.identity =
            c.containers.map InventoriedDatabaseContainer.identity ∧
          ∀ f ∈ s.finished, entries[f.index]? = some f.observation := by
  obtain ⟨hcore, hdrained⟩ := h.core
  have hfinished : ∀ f ∈ s.finished, f.index ∈ s.started := by
    intro f hf
    rw [hcore.accounted.mem_iff]
    exact List.mem_append_right _ (List.mem_map_of_mem hf)
  refine ⟨fun r hr => ⟨(hcore.published r hr).observedAt, (hcore.published r hr).entries⟩,
    fun s' hs => kept_of_steps h.core hs, fun i container hi => ⟨?_, fun hnone hmem => ?_⟩,
    fun f hf => ⟨hfinished f hf, ?_⟩, hcore.progress, fun r hr => ?_⟩
  · exact List.nodup_iff_count_le_one.mp hcore.once i
  · obtain ⟨-, found, hfound, hknown⟩ := (hcore.taken i).mp hmem
    obtain rfl : found = container := Option.some.inj (hfound.symm.trans hi)
    exact hknown hnone
  · obtain ⟨container, hobserved, hproduces⟩ := hcore.finished f hf
    exact ⟨(observeDatabaseRuntimeHealth_observes hproduces).2, container, hobserved, hproduces⟩
  · obtain ⟨hflights, hat, hsame⟩ := hcore.returned r hr
    obtain ⟨entries, hread, hholds⟩ := hcore.entries
    refine ⟨hat, fun i container hi hengine => ?_, entries, hsame.trans hread,
      hcore.identities hholds, hholds.made⟩
    obtain ⟨f, hf, rfl⟩ := hcore.all_observed hdrained hflights hi hengine
    exact ⟨List.count_eq_one_of_mem hcore.once (hfinished f hf), f, hf, rfl⟩

def database (serviceId : String) : ListedContainer where
  id := "ctr_" ++ serviceId
  names := some ["/nouva-postgres-" ++ serviceId]
  labels := some [("nouva.kind", "database"), ("nouva.service.id", serviceId)]

def pair : Collection where
  observedAt := "2026-09-16T00:00:00.000Z"
  listing := [database "svc_8", database "svc_9"]
  concurrency := none

def managed (serviceId : String) : ManagedDatabaseContainer :=
  ⟨serviceId, "ctr_" ++ serviceId, "nouva-postgres-" ++ serviceId, .postgres⟩

theorem pair_containers : pair.containers =
    [⟨"svc_8", "ctr_svc_8", "nouva-postgres-svc_8", some .postgres⟩,
      ⟨"svc_9", "ctr_svc_9", "nouva-postgres-svc_9", some .postgres⟩] := by decide +kernel

theorem pair_workers : pair.workers = 2 := by decide +kernel

section

variable (index : ℕ) (container : ManagedDatabaseContainer)

def asked : Flight := ⟨index, container, [], observeDatabaseRuntimeHealth container⟩

def missing : Flight where
  index := index
  container := container
  answered := [⟨.inspectContainer container.containerName, some (.ok none)⟩]
  program := report container .unavailable .containerMissing

def gone : DatabaseRuntimeHealthObservation :=
  ⟨container.serviceId, container.containerId, container.containerName, container.engine.text,
    .unavailable, .containerMissing, toISOString 1789516800000⟩

def dated : Flight where
  index := index
  container := container
  answered := ⟨.now, some (1789516800000 : ℤ)⟩ :: (missing index container).answered
  program := .ret (gone container)

end

theorem Reachable.misses {c : Collection} {s : State} (h : Reachable c s) (index : ℕ)
    (container : ManagedDatabaseContainer) (before after : List Flight)
    (hflights : s.flights = before ++ asked index container :: after) :
    Reachable c { s with flights := before ++ dated index container :: after } := by
  have hmissing : Step c s { s with flights := before ++ missing index container :: after } :=
    @Step.answer c s before after (asked index container)
      (.inspectContainer container.containerName) _ (.ok none) hflights
  have hdated := @Step.answer c { s with flights := before ++ missing index container :: after }
    before after (missing index container) .now _ (1789516800000 : ℤ) rfl
  exact .step (.step h hmissing) hdated

def secondDone : State :=
  pair.resume { pair.start with flights := [asked 0 (managed "svc_8")] } (dated 1 (managed "svc_9"))
    (gone (managed "svc_9"))

def pairObserved : State :=
  pair.resume { secondDone with flights := [] } (dated 0 (managed "svc_8")) (gone (managed "svc_8"))

def pairDone : State := pair.finish pairObserved

theorem pair_flights :
    pair.start.flights = [asked 0 (managed "svc_8"), asked 1 (managed "svc_9")] := by
  unfold Collection.start
  rw [pair_workers]
  rfl

theorem secondDone_flights : secondDone.flights = [asked 0 (managed "svc_8")] := by
  unfold secondDone Collection.start
  rw [pair_workers]
  rfl

theorem pairObserved_ends : pairObserved.flights = [] ∧ pairObserved.returned = none := by
  unfold pairObserved secondDone Collection.start
  rw [pair_workers]
  exact ⟨rfl, rfl⟩

theorem pairDone_reachable : Reachable pair pairDone := by
  have hsecond := Reachable.start.misses 1 (managed "svc_9") [asked 0 (managed "svc_8")] []
    pair_flights
  have hdone : Reachable pair secondDone :=
    hsecond.step (@Step.resume pair _ [asked 0 (managed "svc_8")] [] (dated 1 (managed "svc_9"))
      (gone (managed "svc_9")) rfl)
  have hfirst := hdone.misses 0 (managed "svc_8") [] [] secondDone_flights
  have hobserved : Reachable pair pairObserved :=
    hfirst.step (@Step.resume pair _ [] [] (dated 0 (managed "svc_8")) (gone (managed "svc_8")) rfl)
  exact hobserved.step (.finish pairObserved_ends.1 pairObserved_ends.2)

theorem database_health_is_complete_pair :
    ∃ r, pairDone.returned = some r ∧ pairDone.finished.map Finished.index = [1, 0] ∧
      ∃ entries, pairDone.arrays.read r.containers = some entries ∧
        entries.map DatabaseRuntimeHealthObservation.identity =
          [("svc_8", "ctr_svc_8", "nouva-postgres-svc_8", "postgres"),
            ("svc_9", "ctr_svc_9", "nouva-postgres-svc_9", "postgres")] := by
  obtain ⟨-, -, -, -, -, hreturned⟩ :=
    database_health_is_complete pair pairDone pairDone_reachable
  obtain ⟨-, -, entries, hread, hidentities, -⟩ := hreturned _ rfl
  refine ⟨_, rfl, ?_, entries, hread, ?_⟩
  · unfold pairDone pairObserved secondDone Collection.start
    rw [pair_workers]
    rfl
  · rw [hidentities, pair_containers]
    rfl

end NouvaAgent.DatabaseHealth
