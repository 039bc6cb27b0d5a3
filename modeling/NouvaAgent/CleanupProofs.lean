import NouvaAgent.Interaction.Establishes
import NouvaAgent.ServiceRemoval

namespace NouvaAgent.ServiceRemoval

open Text Interaction Host Method

structure Container where
  id : String
  name : String
  label : String → Option String

def identity (container : DockerContainerInspection) : Container :=
  ⟨container.id, container.name, container.label⟩

def Container.Named (k : Container) (nameOrId : String) : Prop :=
  k.id = nameOrId ∨ k.name = nameOrId ∨ withoutSlash k.name = nameOrId

/-- What stands on a server, with every identifier that a container had so far. -/
structure Server where
  containers : Set Container
  usedIds : Set String
  images : Set String
  volumes : Set String
  routes : Set String

structure Subject where
  labels : Option TextRecord := none
  identifier : Option String := none
  images : List String := []
  volume : Option String := none
  route : Option String := none

def Subject.Owns (subject : Subject) (k : Container) : Prop :=
  (∃ labels ∈ subject.labels, hasLabels labels k.label = true) ∨
    ∃ name ∈ present subject.identifier, k.Named name

structure Dwindles (subject : Subject) (s s' : Server) : Prop where
  containers : ∀ k ∈ s'.containers, k ∈ s.containers ∨ k.id ∉ s.usedIds ∧ ¬ subject.Owns k
  usedIds : s.usedIds ⊆ s'.usedIds
  images : ∀ reference ∈ subject.images, reference ∈ s'.images → reference ∈ s.images
  volume : ∀ name ∈ subject.volume, name ∈ s'.volumes → name ∈ s.volumes
  route : ∀ serviceId ∈ subject.route, serviceId ∈ s'.routes → serviceId ∈ s.routes

def Tells (c : HostCall) (r : Option c.Answer) (s : Server) : Prop :=
  match c, r with
  | .agent (.request (.listContainersByLabels labels)), some (.ok found) =>
    (∀ k ∈ s.containers, hasLabels labels k.label = true → ∃ c ∈ found, identity c = k) ∧
      ∀ c ∈ found, c.id ∈ s.usedIds ∧ ∀ k ∈ s.containers, k.id = c.id → k = identity c
  | .agent (.request (.inspectContainer name)), some (.ok none) =>
    ∀ k ∈ s.containers, ¬ k.Named name
  | .agent (.request (.inspectImage reference)), some (.ok none) => reference ∉ s.images
  | .agent (.request (.removeImage reference _)), some (.ok _) => reference ∉ s.images
  | .agent (.request (.inspectVolume name)), some (.ok none) => name ∉ s.volumes
  | .removeVolume name _, some (.ok _) => name ∉ s.volumes
  | .agent (.request (.deleteLocalTraefikRoute serviceId)), some (.ok _) => serviceId ∉ s.routes
  | _, _ => True

def effect (subject : Subject) : Model HostCall.Answer Server := fun s c r s' =>
  Dwindles subject s s' ∧ Tells c r s'

def ScopeEmpty (labels : TextRecord) (s : Server) : Prop :=
  ∀ k ∈ s.containers, hasLabels labels k.label = false

def Absent (identifier : Option String) (s : Server) : Prop :=
  ∀ name ∈ present identifier, ∀ k ∈ s.containers, ¬ k.Named name

def IdGone (id : String) (s : Server) : Prop := id ∈ s.usedIds ∧ ∀ k ∈ s.containers, k.id ≠ id

structure Gone (subject : Subject) (s : Server) : Prop where
  containers : ∀ labels ∈ subject.labels, ScopeEmpty labels s
  identifier : Absent subject.identifier s
  images : ∀ reference ∈ subject.images, reference ∉ s.images
  volume : ∀ name ∈ subject.volume, name ∉ s.volumes
  route : ∀ serviceId ∈ subject.route, serviceId ∉ s.routes

def Certifies (proof : CleanupProof) (s : Server) : Prop :=
  match proof with
  | .deleteService identifier serviceId retainedImages =>
    ScopeEmpty (scopeLabels serviceId none) s ∧ Absent identifier s ∧
      ∀ reference ∈ retainedImages, reference ∉ s.images
  | .deleteWorker serviceId containers retainedImages =>
    ScopeEmpty (scopeLabels serviceId none) s ∧ (∀ id ∈ containers, IdGone id s) ∧
      ∀ reference ∈ retainedImages, reference ∉ s.images
  | .deleteVolume name => name ∉ s.volumes

section

variable {subject : Subject} {labels : TextRecord}

theorem establishes_request {r : Request} {Q : r.Result → Server → Prop}
    (h : ∀ a s, Tells (.agent (.request r)) (some (.ok a)) s → Q a s) :
    (request r : HostAction r.Result).Establishes (effect subject) Q := fun _ _ =>
  (wp_request r).mpr ⟨fun _ _ => trivial, fun _ _ _ => trivial, fun a _ hm => h a _ hm.2⟩

/-! What stays gone. -/

theorem persistent_scopeEmpty (h : subject.labels = some labels) :
    Persistent (effect subject) (ScopeEmpty labels) := by
  intro s c r s' hm hempty k hk
  obtain hold | ⟨-, hnew⟩ := hm.1.containers k hk
  · exact hempty k hold
  · exact Bool.eq_false_iff.mpr fun hlabels => hnew (.inl ⟨labels, h, hlabels⟩)

theorem persistent_absent : Persistent (effect subject) (Absent subject.identifier) := by
  intro s c r s' hm habsent name hname k hk hnamed
  obtain hold | ⟨-, hnew⟩ := hm.1.containers k hk
  · exact habsent name hname k hold hnamed
  · exact hnew (.inr ⟨name, hname, hnamed⟩)

theorem persistent_idGone (id : String) : Persistent (effect subject) (IdGone id) := by
  rintro s c r s' hm ⟨hused, hgone⟩
  refine ⟨hm.1.usedIds hused, fun k hk hid => ?_⟩
  obtain hold | ⟨hnew, -⟩ := hm.1.containers k hk
  · exact hgone k hold hid
  · exact hnew (hid ▸ hused)

def ImageGone (subject : Subject) (reference : String) (s : Server) : Prop :=
  reference ∈ subject.images → reference ∉ s.images

theorem persistent_imageGone (reference : String) :
    Persistent (effect subject) (ImageGone subject reference) :=
  fun _ _ _ _ hm hgone hmem himage => hgone hmem (hm.1.images reference hmem himage)

theorem persistent_volume {name : String} (h : subject.volume = some name) :
    Persistent (effect subject) fun s => name ∉ s.volumes :=
  fun _ _ _ _ hm hgone hmem => hgone (hm.1.volume name h hmem)

theorem persistent_route {serviceId : String} (h : subject.route = some serviceId) :
    Persistent (effect subject) fun s => serviceId ∉ s.routes :=
  fun _ _ _ _ hm hgone hmem => hgone (hm.1.route serviceId h hmem)

/-! The containers. -/

def Known (container : DockerContainerInspection) (s : Server) : Prop :=
  container.id ∈ s.usedIds ∧ ∀ k ∈ s.containers, k.id = container.id → k = identity container

theorem persistent_known (container : DockerContainerInspection) :
    Persistent (effect subject) (Known container) := by
  rintro s c r s' hm ⟨hused, hsame⟩
  refine ⟨hm.1.usedIds hused, fun k hk hid => ?_⟩
  obtain hold | ⟨hnew, -⟩ := hm.1.containers k hk
  · exact hsame k hold hid
  · exact absurd (hid ▸ hused) hnew

theorem establishes_listInScope (labels : TextRecord) :
    (listInScope labels).Establishes (effect subject) fun found s =>
      (∀ k ∈ s.containers, hasLabels labels k.label = true → ∃ c ∈ found, identity c = k) ∧
        ∀ c ∈ found, hasLabels labels c.label = true ∧ Known c s := by
  have hlist : (request (.listContainersByLabels labels) : HostAction _).Establishes
      (effect subject) fun found s =>
        (∀ k ∈ s.containers, hasLabels labels k.label = true → ∃ c ∈ found, identity c = k) ∧
          ∀ c ∈ found, Known c s := establishes_request fun _ _ h => h
  intro s w
  refine wp_bind_of (hlist s w) fun found s w hfound => ⟨fun k hk hlabels => ?_, fun c hc => ?_⟩
  · obtain ⟨c, hc, rfl⟩ := hfound.1 k hk hlabels
    exact ⟨c, List.mem_filter.mpr ⟨hc, hlabels⟩, rfl⟩
  · obtain ⟨hc, hlabels⟩ := List.mem_filter.mp hc
    exact ⟨hlabels, hfound.2 c hc⟩

theorem establishes_removeInScope (container : DockerContainerInspection) :
    (removeInScope container).Establishes (effect subject) fun _ _ => container.id ≠ "" := by
  unfold removeInScope
  split
  · exact establishes_throw
  · next hid => exact establishes_request fun _ _ _ => hid

theorem establishes_removeScope (labels : TextRecord) : (removeScope labels).Establishes
    (effect subject) fun containers s => ScopeEmpty labels s ∧
      ∀ c ∈ containers, c.id ≠ "" ∧ IdGone c.id s := by
  have hlast (containers : List DockerContainerInspection) :
      (Method.bind (listInScope labels) fun remaining =>
        if remaining = [] then Method.pure containers
        else Method.throw (.error "Managed service containers still exist after cleanup") :
          HostAction _).Establishes (effect subject) fun listed s =>
            listed = containers ∧ ScopeEmpty labels s := by
    intro s w
    refine wp_bind_of (establishes_listInScope labels s w) fun remaining s w hfound => ?_
    split
    · next hnone =>
      refine ⟨rfl, fun k hk => Bool.eq_false_iff.mpr fun hlabels => ?_⟩
      obtain ⟨c, hc, -⟩ := hfound.1 k hk hlabels
      rw [hnone] at hc
      cases hc
    · trivial
  have hfirst : (listInScope labels).Establishes (effect subject) fun containers s =>
      ∀ c ∈ containers, hasLabels labels c.label = true ∧ Known c s :=
    (establishes_listInScope labels).mono fun _ _ h => h.2
  have hremove (containers : List DockerContainerInspection) :=
    establishes_forEach (M := effect subject) (fun c => persistent_const (c.id ≠ ""))
      fun c (_ : c ∈ containers) => establishes_removeInScope c
  refine (hfirst.bind (fun containers => Persistent.forall fun c => Persistent.forall fun _ =>
    (persistent_const _).and (persistent_known c)) fun containers =>
      (hremove containers).then (persistent_const _) (hlast containers)).mono ?_
  rintro listed s ⟨containers, hknown, hids, rfl, hempty⟩
  refine ⟨hempty, fun c hc => ⟨hids c hc, (hknown c hc).2.1, fun k hk hid => ?_⟩⟩
  obtain ⟨hlabels, -, hsame⟩ := hknown c hc
  have hnot := hempty k hk
  rw [hsame k hk hid] at hnot
  exact Bool.false_ne_true (hnot.symm.trans hlabels)

theorem establishes_removeManagedServiceContainers (serviceId : String)
    (deploymentId : Option String) :
    (removeManagedServiceContainers serviceId deploymentId).Establishes (effect subject)
      fun containers s => ScopeEmpty (scopeLabels serviceId deploymentId) s ∧
        ∀ c ∈ containers, c.id ≠ "" ∧ IdGone c.id s := by
  unfold removeManagedServiceContainers
  split
  · exact establishes_throw
  · exact establishes_removeScope _

/-! The images, and the rest. -/

theorem establishes_removeImages (references : List String) :
    (removeImages references).Establishes (effect subject)
      fun _ s => ∀ reference ∈ references, ImageGone subject reference s :=
  establishes_forEach persistent_imageGone fun _ _ => establishes_request fun _ _ h _ => h

theorem establishes_verifyContainerAbsent :
    (VolumeWipe.verifyContainerAbsent subject.identifier).Establishes (effect subject)
      fun _ => Absent subject.identifier := by
  unfold VolumeWipe.verifyContainerAbsent
  cases hname : present subject.identifier with
  | none => exact establishes_pure fun s name h => nomatch hname.symm.trans h
  | some name =>
    intro s w
    have hinspect : (request (.inspectContainer name) : HostAction _).Establishes (effect subject)
        fun found s => found = none → Absent subject.identifier s := by
      refine establishes_request fun found s h => ?_
      rintro rfl other hother
      obtain rfl : name = other := Option.some.inj (hname.symm.trans hother)
      exact h
    refine wp_bind_of (hinspect s w) fun found s w hfound => ?_
    cases found with
    | none => exact hfound rfl
    | some _ => trivial

theorem establishes_removeVolume (name : String) : (VolumeWipe.removeVolume name true).Establishes
    (effect subject) fun _ s => name ∉ s.volumes := by
  intro s w
  have hask : (Method.ask (HostCall.removeVolume name true) : HostAction _).Establishes
      (effect subject) fun r s => r = .ok () → name ∉ s.volumes := by
    refine establishes_ask fun w r w' hm => ?_
    rintro rfl
    exact hm.2
  refine wp_bind_of (hask s w) fun r s w hr => ?_
  cases r with
  | ok _ => exact hr rfl
  | error _ => trivial

theorem establishes_deleteLocalTraefikRoute (serviceId : String) :
    (request (.deleteLocalTraefikRoute serviceId) : HostAction _).Establishes (effect subject)
      fun _ s => serviceId ∉ s.routes := establishes_request fun _ _ h => h

end

/-! The work that removes something. -/

inductive RemovalWork
  | deleteService (payload : RemoveServicePayload)
  | removeWorker (serviceId : String) (metadata : Option RemovedRuntime)
  | removeApp (serviceId : String) (metadata : Option RemovedRuntime) (deploymentId : String)
  | deleteVolume (name : String)

namespace RemovalWork

def handle : RemovalWork → HostAction RemovalResult
  | deleteService payload => handleDeleteService payload
  | removeWorker serviceId metadata => removeWorkerServiceRuntime serviceId metadata
  | removeApp serviceId metadata deploymentId => handleRemove serviceId metadata deploymentId
  | deleteVolume name => handleDeleteVolume name

def subject : RemovalWork → Subject
  | deleteService payload =>
    match payload.serviceType with
    | .worker =>
      { labels := some (scopeLabels payload.serviceId none)
        images := localImages getRetainedImageReferences payload.runtimeMetadata
        volume := some (buildBuildkitCacheVolumeName payload.serviceId) }
    | .app =>
      { labels := some (scopeLabels payload.serviceId none)
        identifier := resolveServiceContainerIdentifier payload
        images := localImages getRetainedRuntimeImageReferences payload.runtimeMetadata
        volume := some (buildBuildkitCacheVolumeName payload.serviceId)
        route := some payload.serviceId }
    | .database =>
      { labels := some (scopeLabels payload.serviceId none)
        identifier := resolveServiceContainerIdentifier payload
        volume := some (buildBuildkitCacheVolumeName payload.serviceId)
        route := some payload.serviceId }
  | removeWorker serviceId metadata =>
    { labels := some (scopeLabels serviceId none)
      images := localImages getRetainedImageReferences metadata }
  | removeApp serviceId metadata deploymentId =>
    { labels := some (scopeLabels serviceId (some deploymentId))
      images := localImages getRetainedRuntimeImageReferences metadata, route := some serviceId }
  | deleteVolume name => { volume := some name }

end RemovalWork

section

variable {subject : Subject}

theorem persistent_imagesGone (references : List String) : Persistent (effect subject)
    fun s => ∀ reference ∈ references, ImageGone subject reference s :=
  Persistent.forall fun reference => Persistent.forall fun _ => persistent_imageGone reference

theorem persistent_removed {labels : TextRecord} (h : subject.labels = some labels)
    (containers : List DockerContainerInspection) : Persistent (effect subject) fun s =>
      ScopeEmpty labels s ∧ ∀ c ∈ containers, c.id ≠ "" ∧ IdGone c.id s :=
  (persistent_scopeEmpty h).and <| Persistent.forall fun c => Persistent.forall fun _ =>
    (persistent_const _).and (persistent_idGone c.id)

theorem establishes_removeWorkerServiceRuntime {serviceId : String}
    {metadata : Option RemovedRuntime} (h : subject.labels = some (scopeLabels serviceId none))
    (himages : subject.images = localImages getRetainedImageReferences metadata) :
    (removeWorkerServiceRuntime serviceId metadata).Establishes (effect subject) fun result s =>
      ScopeEmpty (scopeLabels serviceId none) s ∧ (∀ reference ∈ subject.images,
        reference ∉ s.images) ∧ ∀ proof ∈ result.cleanupProof, Certifies proof s := by
  refine ((establishes_removeManagedServiceContainers serviceId none).bind (persistent_removed h)
    fun containers => (establishes_removeImages _).then (persistent_imagesGone _)
      (establishes_returned _)).mono ?_
  rintro result s ⟨containers, ⟨hempty, hgone⟩, himage, rfl⟩
  have hnone : ∀ reference ∈ subject.images, reference ∉ s.images := fun reference hmem =>
    himage reference (himages ▸ hmem) hmem
  refine ⟨hempty, hnone, fun proof hsome => ?_⟩
  obtain rfl := Option.some.inj hsome
  refine ⟨hempty, fun id hid => ?_, himages ▸ hnone⟩
  obtain ⟨c, hc, rfl⟩ := List.mem_map.mp hid
  have hidentifier : getContainerIdentifier c = c.id := if_neg (hgone c hc).1
  exact hidentifier ▸ (hgone c hc).2

theorem establishes_handleRemove {serviceId deploymentId : String}
    {metadata : Option RemovedRuntime}
    (h : subject.labels = some (scopeLabels serviceId (some deploymentId)))
    (himages : subject.images = localImages getRetainedRuntimeImageReferences metadata)
    (hroute : subject.route = some serviceId) :
    (handleRemove serviceId metadata deploymentId).Establishes (effect subject) fun result s =>
      ScopeEmpty (scopeLabels serviceId (some deploymentId)) s ∧ (∀ reference ∈ subject.images,
        reference ∉ s.images) ∧ serviceId ∉ s.routes ∧ result.cleanupProof = none := by
  unfold handleRemove
  split
  · exact establishes_throw
  refine ((establishes_removeManagedServiceContainers serviceId (some deploymentId)).bind
    (persistent_removed h) fun _ => (establishes_removeImages _).then (persistent_imagesGone _)
      ((establishes_deleteLocalTraefikRoute serviceId).then (persistent_route hroute)
        (establishes_returned _))).mono ?_
  rintro result s ⟨containers, ⟨hempty, -⟩, himage, hgone, rfl⟩
  exact ⟨hempty, fun reference hmem => himage reference (himages ▸ hmem) hmem, hgone, rfl⟩

theorem establishes_deleteRuntime {payload : RemoveServicePayload}
    (h : subject.labels = some (scopeLabels payload.serviceId none))
    (hidentifier : subject.identifier = resolveServiceContainerIdentifier payload)
    (himages : subject.images = if payload.serviceType = .app then
      localImages getRetainedRuntimeImageReferences payload.runtimeMetadata else [])
    (hroute : subject.route = some payload.serviceId) :
    (deleteRuntime payload).Establishes (effect subject) fun result s =>
      ScopeEmpty (scopeLabels payload.serviceId none) s ∧ Absent subject.identifier s ∧
        (∀ reference ∈ subject.images, reference ∉ s.images) ∧ payload.serviceId ∉ s.routes ∧
        ∀ proof ∈ result.cleanupProof, Certifies proof s := by
  have hverify := @establishes_verifyContainerAbsent subject
  rw [hidentifier] at hverify
  refine ((establishes_removeManagedServiceContainers payload.serviceId none).bind
    (persistent_removed h) fun _ => (establishes_removeImages _).then (persistent_imagesGone _)
      (hverify.then (hidentifier ▸ persistent_absent) ((Establishes.any _).then (persistent_const True)
        ((establishes_deleteLocalTraefikRoute _).then (persistent_route hroute)
          (establishes_returned _))))).mono ?_
  rintro result s ⟨containers, ⟨hempty, -⟩, himage, habsent, -, hgone, rfl⟩
  have hnone : ∀ reference ∈ subject.images, reference ∉ s.images := fun reference hmem =>
    himage reference (himages ▸ hmem) hmem
  refine ⟨hempty, hidentifier ▸ habsent, hnone, hgone, fun proof hsome => ?_⟩
  obtain rfl := Option.some.inj hsome
  exact ⟨hempty, habsent, himages ▸ hnone⟩

end

theorem RemovalWork.establishes (work : RemovalWork) :
    work.handle.Establishes (effect work.subject) fun result s =>
      Gone work.subject s ∧ ∀ proof ∈ result.cleanupProof, Certifies proof s := by
  have hnone (name : String) : ¬ (name ∈ (none : Option String)) := fun h => nomatch h
  have habsent (s : Server) : Absent none s := fun name hname => nomatch hname
  cases work with
  | removeWorker serviceId metadata =>
    refine (establishes_removeWorkerServiceRuntime rfl rfl).mono fun result s h => ⟨⟨?_, habsent s,
      h.2.1, fun _ hmem => (hnone _ hmem).elim, fun _ hmem => (hnone _ hmem).elim⟩, h.2.2⟩
    rintro labels ⟨⟩
    exact h.1
  | removeApp serviceId metadata deploymentId =>
    refine (establishes_handleRemove rfl rfl rfl).mono fun result s h => ⟨⟨?_, habsent s, h.2.1,
      fun _ hmem => (hnone _ hmem).elim, ?_⟩, ?_⟩
    · rintro labels ⟨⟩
      exact h.1
    · rintro route ⟨⟩
      exact h.2.2.1
    · rw [h.2.2.2]
      exact fun _ hmem => nomatch hmem
  | deleteVolume name =>
    refine ((establishes_removeVolume name).then (persistent_volume rfl) ((Establishes.any _).then
      (persistent_const True) (establishes_returned _))).mono ?_
    rintro result s ⟨hgone, -, rfl⟩
    refine ⟨⟨fun _ hmem => (nomatch hmem), habsent s, fun _ hmem => (nomatch hmem), ?_,
      fun _ hmem => (hnone _ hmem).elim⟩, ?_⟩
    · rintro volume ⟨⟩
      exact hgone
    · rintro proof ⟨⟩
      exact hgone
  | deleteService payload =>
    obtain ⟨serviceId, serviceType, containerName, metadata⟩ := payload
    have hvolume {subject : Subject} :=
      @establishes_removeVolume subject (buildBuildkitCacheVolumeName serviceId)
    cases serviceType with
    | worker =>
      refine (hvolume.then (persistent_volume rfl) (establishes_removeWorkerServiceRuntime rfl
        rfl)).mono fun result s h => ⟨⟨?_, habsent s, h.2.2.1, ?_,
          fun _ hmem => (hnone _ hmem).elim⟩, h.2.2.2⟩
      · rintro labels ⟨⟩
        exact h.2.1
      · rintro volume ⟨⟩
        exact h.1
    | app =>
      refine (hvolume.then (persistent_volume rfl) (establishes_deleteRuntime rfl rfl rfl rfl)).mono
        fun result s h => ⟨⟨?_, h.2.2.1, h.2.2.2.1, ?_, ?_⟩, h.2.2.2.2.2⟩
      · rintro labels ⟨⟩
        exact h.2.1
      · rintro volume ⟨⟩
        exact h.1
      · rintro route ⟨⟩
        exact h.2.2.2.2.1
    | database =>
      refine (hvolume.then (persistent_volume rfl) (establishes_deleteRuntime rfl rfl rfl rfl)).mono
        fun result s h => ⟨⟨?_, h.2.2.1, h.2.2.2.1, ?_, ?_⟩, h.2.2.2.2.2⟩
      · rintro labels ⟨⟩
        exact h.2.1
      · rintro volume ⟨⟩
        exact h.1
      · rintro route ⟨⟩
        exact h.2.2.2.2.1

/-- A removal that is reported as done has left nothing of its subject, and what it certifies is
true, whatever else went on. -/
theorem removal_leaves_nothing (work : RemovalWork) {s s' : Server} {result : RemovalResult}
    (h : Program.Exec (effect work.subject) (work.handle ()) s (.done (.ok result, ())) s') :
    Gone work.subject s' ∧ ∀ proof ∈ result.cleanupProof, Certifies proof s' :=
  work.establishes.exec h

def leftover : DockerContainerInspection where
  id := "w1"
  name := "/nouva-worker-service"
  image := none
  restartCount := none
  state := none
  hostConfig := none
  config := some ⟨none, some [("nouva.managed", "true"), ("nouva.service.id", "service")], none⟩
  networks := none
  mounts := none

def occupied : Server := ⟨{identity leftover}, {"w1"}, ∅, ∅, ∅⟩

def cleared : Server := ⟨∅, {"w1"}, ∅, ∅, ∅⟩

def workerRemoval : RemovalWork := .removeWorker "service" none

theorem removal_leaves_nothing_worker : ScopeEmpty (scopeLabels "service" none) cleared := by
  have hrefl (s : Server) : Dwindles workerRemoval.subject s s :=
    ⟨fun _ => .inl, subset_rfl, fun _ _ => id, fun _ _ => id, fun _ _ => id⟩
  have hcleared : Dwindles workerRemoval.subject occupied cleared :=
    ⟨fun _ hk => hk.elim, subset_rfl, fun _ _ => id, fun _ _ => id, fun _ _ => id⟩
  have hlisted : effect workerRemoval.subject occupied
      (.agent (.request (.listContainersByLabels (scopeLabels "service" none))))
      (some (.ok [leftover])) occupied := by
    refine ⟨hrefl _, fun k hk _ => ⟨leftover, List.mem_cons_self, hk.symm⟩, fun c hc => ?_⟩
    obtain rfl := List.mem_singleton.mp hc
    exact ⟨rfl, fun k hk _ => hk⟩
  have hremoved : effect workerRemoval.subject occupied
      (.agent (.request (.removeContainer "w1" true none))) (some (.ok ())) cleared :=
    ⟨hcleared, trivial⟩
  have hempty : effect workerRemoval.subject cleared
      (.agent (.request (.listContainersByLabels (scopeLabels "service" none))))
      (some (.ok [])) cleared := ⟨hrefl _, fun _ hk => hk.elim, fun _ hc => nomatch hc⟩
  have hrun : Program.Exec (effect workerRemoval.subject) (workerRemoval.handle ()) occupied
      (.done (.ok ⟨[removeWorkerInstance leftover],
        some (.deleteWorker "service" ["w1"] [])⟩, ())) cleared :=
    .call hlisted (.call hremoved (.call hempty (.ret _ _)))
  exact (removal_leaves_nothing workerRemoval hrun).1.containers _ rfl

end NouvaAgent.ServiceRemoval
