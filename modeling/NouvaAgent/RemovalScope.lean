import NouvaAgent.CleanupProofs
import NouvaAgent.HostTriples

namespace NouvaAgent.ServiceRemoval

open Text Interaction Host Method

def listed (labels : TextRecord) (found : List DockerContainerInspection) : HostEvent :=
  ⟨.agent (.request (.listContainersByLabels labels)), some (.ok found)⟩

def Listed (labels : TextRecord) (id : String) (h : HostHistory) : Prop :=
  ∃ found, listed labels found ∈ h ∧ ∃ c ∈ found, c.id = id ∧ hasLabels labels c.label = true

def ShownEmpty (labels : TextRecord) (h : HostHistory) : Prop :=
  ∃ found, listed labels found ∈ h ∧ ∀ c ∈ found, hasLabels labels c.label = false

/-- What a removal may ask for: nothing is destroyed but the subject, and its images and its route
only once its containers are gone. -/
def Warranted (subject : Subject) (e : HostEvent) (before : HostHistory) : Prop :=
  match e.call with
  | .agent (.request (.listContainersByLabels labels)) => subject.labels = some labels
  | .agent (.request (.inspectContainer _)) | .agent (.request (.inspectImage _))
  | .agent (.request (.inspectVolume _)) => True
  | .agent (.request (.removeContainer id _ _)) =>
    id ≠ "" ∧ ∃ labels ∈ subject.labels, Listed labels id before
  | .agent (.request (.removeImage reference _)) =>
    reference ∈ subject.images ∧ ∃ labels ∈ subject.labels, ShownEmpty labels before
  | .agent (.request (.deleteLocalTraefikRoute serviceId)) =>
    subject.route = some serviceId ∧ ∃ labels ∈ subject.labels, ShownEmpty labels before
  | .removeVolume name _ => subject.volume = some name
  | _ => False

variable {subject : Subject} {labels : TextRecord}

abbrev Warrants {α : Type} (subject : Subject) (P : HostHistory → Prop) (p : HostAction α)
    (Q : α → HostHistory → Prop) : Prop :=
  Triple recording (Along (Warranted subject)) P p Q fun _ => True

theorem persistent_shownEmpty (labels : TextRecord) :
    Persistent recording (ShownEmpty labels) := by
  rintro h c r _ ⟨rfl, -⟩ ⟨found, hmem, hnone⟩
  exact ⟨found, List.mem_cons_of_mem _ hmem, hnone⟩

theorem warrants_request {r : Request} {P : HostHistory → Prop} {Q : r.Result → HostHistory → Prop}
    (hG : ∀ a h, P h → Warranted subject ⟨.agent (.request r), a⟩ h)
    (hQ : ∀ a h, P h → Q a (⟨.agent (.request r), some (.ok a)⟩ :: h)) :
    Warrants subject P (request r) Q :=
  triple_request hG hQ fun _ _ _ => trivial

theorem warrants_listInScope (h : subject.labels = some labels) :
    Warrants subject (fun _ => True) (listInScope labels) fun containers h =>
      (containers = [] → ShownEmpty labels h) ∧ ∀ c ∈ containers, Listed labels c.id h := by
  have hlist : Warrants subject (fun _ => True) (request (.listContainersByLabels labels))
      fun found h => listed labels found ∈ h :=
    warrants_request (fun _ _ _ => h) fun _ _ _ => List.mem_cons_self
  apply hlist.bind
  intro found
  apply triple_pure
  intro h hmem
  constructor
  · intro hnone
    refine ⟨found, hmem, fun c hc => ?_⟩
    simpa using List.filter_eq_nil_iff.mp hnone c hc
  · intro c hc
    obtain ⟨hc, hlabels⟩ := List.mem_filter.mp hc
    exact ⟨found, hmem, c, hc, rfl, hlabels⟩

theorem listed_mono {id : String} {h : HostHistory} (e : HostEvent)
    (hlisted : Listed labels id h) : Listed labels id (e :: h) := by
  obtain ⟨found, hmem, hc⟩ := hlisted
  exact ⟨found, List.mem_cons_of_mem _ hmem, hc⟩

theorem warrants_removeInScope (hlabels : subject.labels = some labels)
    (container : DockerContainerInspection) (containers : List DockerContainerInspection)
    (hmem : container ∈ containers) :
    Warrants subject (fun h => ∀ c ∈ containers, Listed labels c.id h) (removeInScope container)
      fun _ h => ∀ c ∈ containers, Listed labels c.id h := by
  unfold removeInScope
  split
  · exact triple_throw fun _ _ => trivial
  · next hid =>
    apply warrants_request
    · exact fun _ h hP => ⟨hid, labels, hlabels, hP container hmem⟩
    · exact fun _ h hP c hc => listed_mono _ (hP c hc)

theorem warrants_removeScope (hlabels : subject.labels = some labels) :
    Warrants subject (fun _ => True) (removeScope labels) fun _ => ShownEmpty labels := by
  apply ((warrants_listInScope hlabels).mono (fun _ h => h) (fun _ _ h => h.2) fun _ h => h).bind
  intro containers
  have hremove : Warrants subject (fun h => ∀ c ∈ containers, Listed labels c.id h)
      (Method.forEach containers removeInScope) fun _ h => ∀ c ∈ containers, Listed labels c.id h :=
    triple_forEach (I := fun _ h => ∀ c ∈ containers, Listed labels c.id h)
      fun done c rest hxs => warrants_removeInScope hlabels c containers (by simp [hxs])
  apply hremove.bind
  intro _
  apply ((warrants_listInScope hlabels).mono (fun _ _ => trivial) (fun _ _ h => h.1)
    fun _ h => h).bind
  intro remaining
  split
  · next hnone => exact triple_pure fun h hP => hP hnone
  · exact triple_throw fun _ _ => trivial

theorem warrants_removeManagedServiceContainers {serviceId : String} {deploymentId : Option String}
    (hlabels : subject.labels = some (scopeLabels serviceId deploymentId)) :
    Warrants subject (fun _ => True) (removeManagedServiceContainers serviceId deploymentId)
      fun _ => ShownEmpty (scopeLabels serviceId deploymentId) := by
  unfold removeManagedServiceContainers
  split
  · exact triple_throw fun _ _ => trivial
  · exact warrants_removeScope hlabels

theorem warrants_later {r : Request} (hG : ∀ a h, ShownEmpty labels h →
    Warranted subject ⟨.agent (.request r), a⟩ h) :
    Warrants subject (ShownEmpty labels) (request r) fun _ => ShownEmpty labels :=
  warrants_request hG fun _ _ hP => persistent_shownEmpty labels _ _ _ _ ⟨rfl, trivial⟩ hP

theorem warrants_forEach {β : Type} {xs : List β} {body : β → HostAction Unit}
    {P : HostHistory → Prop} (h : ∀ x ∈ xs, Warrants subject P (body x) fun _ => P) :
    Warrants subject P (Method.forEach xs body) fun _ => P :=
  triple_forEach (I := fun _ => P) fun _ x _ hxs => h x (by simp [hxs])

theorem warrants_removeImages (hlabels : subject.labels = some labels) {references : List String}
    (himages : ∀ reference ∈ references, reference ∈ subject.images) :
    Warrants subject (ShownEmpty labels) (removeImages references) fun _ => ShownEmpty labels :=
  warrants_forEach fun reference hmem =>
    warrants_later fun _ _ hP => ⟨himages reference hmem, labels, hlabels, hP⟩

theorem warrants_verifyContainerAbsent (identifier : Option String) :
    Warrants subject (ShownEmpty labels) (VolumeWipe.verifyContainerAbsent identifier)
      fun _ => ShownEmpty labels := by
  unfold VolumeWipe.verifyContainerAbsent
  split
  · exact triple_pure fun _ h => h
  · next identifier _ =>
    have hinspect : Warrants subject (ShownEmpty labels) (request (.inspectContainer identifier))
        fun _ => ShownEmpty labels := warrants_later fun _ _ _ => trivial
    apply hinspect.bind
    rintro (_ | _)
    · exact triple_pure fun _ h => h
    · exact triple_throw fun _ _ => trivial

theorem warrants_verifyImageAbsent (reference : String) :
    Warrants subject (ShownEmpty labels) (verifyImageAbsent reference)
      fun _ => ShownEmpty labels := by
  have hinspect : Warrants subject (ShownEmpty labels) (request (.inspectImage reference))
      fun _ => ShownEmpty labels := warrants_later fun _ _ _ => trivial
  apply hinspect.bind
  rintro (_ | _)
  · exact triple_pure fun _ h => h
  · exact triple_throw fun _ _ => trivial

theorem warrants_verifyVolumeAbsent (name : String) :
    Warrants subject (fun _ => True) (VolumeWipe.verifyVolumeAbsent name) fun _ _ => True := by
  have hinspect : Warrants subject (fun _ => True) (request (.inspectVolume name))
      fun _ _ => True := warrants_request (fun _ _ _ => trivial) fun _ _ _ => trivial
  apply hinspect.bind
  rintro (_ | _)
  · exact triple_pure fun _ _ => trivial
  · exact triple_throw fun _ _ => trivial

theorem warrants_deleteLocalTraefikRoute {serviceId : String}
    (hlabels : subject.labels = some labels) (hroute : subject.route = some serviceId) :
    Warrants subject (ShownEmpty labels) (request (.deleteLocalTraefikRoute serviceId))
      fun _ => ShownEmpty labels :=
  warrants_later fun _ _ hP => ⟨hroute, labels, hlabels, hP⟩

theorem warrants_removeVolume {name : String} (h : subject.volume = some name) :
    Warrants subject (fun _ => True) (VolumeWipe.removeVolume name true) fun _ _ => True := by
  apply triple_answered
  · rintro (e | _)
    · exact .inr ⟨_, rfl⟩
    · exact .inl rfl
  · exact fun _ _ _ => h
  · exact fun _ _ _ _ => trivial
  · exact fun _ _ _ => trivial

theorem warrants_removeWorkerServiceRuntime {serviceId : String} {metadata : Option RemovedRuntime}
    (hlabels : subject.labels = some (scopeLabels serviceId none))
    (himages : subject.images = localImages getRetainedImageReferences metadata) :
    Warrants subject (fun _ => True) (removeWorkerServiceRuntime serviceId metadata)
      fun _ _ => True := by
  apply (warrants_removeManagedServiceContainers hlabels).bind
  intro containers
  apply (warrants_removeImages hlabels fun _ hmem => himages ▸ hmem).bind
  exact fun _ => triple_pure fun _ _ => trivial

theorem warrants_handleRemove {serviceId deploymentId : String} {metadata : Option RemovedRuntime}
    (hlabels : subject.labels = some (scopeLabels serviceId (some deploymentId)))
    (himages : subject.images = localImages getRetainedRuntimeImageReferences metadata)
    (hroute : subject.route = some serviceId) :
    Warrants subject (fun _ => True) (handleRemove serviceId metadata deploymentId)
      fun _ _ => True := by
  unfold handleRemove
  split
  · exact triple_throw fun _ _ => trivial
  apply (warrants_removeManagedServiceContainers hlabels).bind
  intro containers
  apply (warrants_removeImages hlabels fun _ hmem => himages ▸ hmem).bind
  intro _
  apply (warrants_deleteLocalTraefikRoute hlabels hroute).bind
  exact fun _ => triple_pure fun _ _ => trivial

theorem warrants_deleteRuntime {payload : RemoveServicePayload}
    (hlabels : subject.labels = some (scopeLabels payload.serviceId none))
    (himages : subject.images = if payload.serviceType = .app then
      localImages getRetainedRuntimeImageReferences payload.runtimeMetadata else [])
    (hroute : subject.route = some payload.serviceId) :
    Warrants subject (fun _ => True) (deleteRuntime payload) fun _ _ => True := by
  apply (warrants_removeManagedServiceContainers hlabels).bind
  intro containers
  apply (warrants_removeImages hlabels fun _ hmem => himages ▸ hmem).bind
  intro _
  apply (warrants_verifyContainerAbsent _).bind
  intro _
  apply (warrants_forEach fun reference _ => warrants_verifyImageAbsent reference).bind
  intro _
  apply (warrants_deleteLocalTraefikRoute hlabels hroute).bind
  exact fun _ => triple_pure fun _ _ => trivial

theorem RemovalWork.warrants (work : RemovalWork) :
    Warrants work.subject (fun _ => True) work.handle fun _ _ => True := by
  cases work with
  | removeWorker => exact warrants_removeWorkerServiceRuntime rfl rfl
  | removeApp => exact warrants_handleRemove rfl rfl rfl
  | deleteVolume name =>
    apply (warrants_removeVolume rfl).bind
    intro _
    apply (warrants_verifyVolumeAbsent name).bind
    exact fun _ => triple_pure fun _ _ => trivial
  | deleteService payload =>
    obtain ⟨serviceId, serviceType, containerName, metadata⟩ := payload
    cases serviceType with
    | worker =>
      apply (warrants_removeVolume rfl).bind
      exact fun _ => warrants_removeWorkerServiceRuntime rfl rfl
    | app =>
      apply (warrants_removeVolume rfl).bind
      exact fun _ => warrants_deleteRuntime rfl rfl rfl
    | database =>
      apply (warrants_removeVolume rfl).bind
      exact fun _ => warrants_deleteRuntime rfl rfl rfl

/-- However its calls end, a removal destroys nothing but its subject. -/
theorem removal_spares_the_rest (work : RemovalWork) (env : Environment HostCall.Answer) :
    Along (Warranted work.subject) ((work.handle ()).run env []).2 :=
  (work.warrants.run env () trivial).1

end NouvaAgent.ServiceRemoval
