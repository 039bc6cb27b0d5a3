import Mathlib.Data.List.Basic
import Mathlib.Data.List.Flatten
import Mathlib.Data.List.Perm.Basic
import Mathlib.Data.List.Nodup
import Mathlib.Data.Nat.Basic

namespace NouvaAgent.WorkScheduler

variable {Config Work : Type} (id : Work → String)

/-- `maxConcurrency`: a positive safe integer. -/
structure MaxConcurrency where
  value : ℕ
  valid : 1 ≤ value ∧ value ≤ 9007199254740991

/-- An item of a lease response, told from all others by the request that was answered and its place
in the response. -/
structure Leased (Work : Type) where
  request : ℕ
  place : ℕ
  work : Work

inductive Stage
  | scheduled
  | running
  | settled
  deriving DecidableEq

structure Execution (Work : Type) where
  item : Leased Work
  stage : Stage

/-- A call of `leaseWork`, told from all others by how many were made before it. -/
structure LeaseRequest where
  number : ℕ
  limit : ℕ
  activeWorkItemIds : List String
  deriving DecidableEq

structure Answer (Work : Type) where
  request : LeaseRequest
  items : List (Leased Work)

/-- The scheduler's variables, what it waits for and what it reported. The last two are no variables
of its own: `Step` keeps there what every request was answered and what was executed. -/
structure State (Config Work : Type) where
  activeWork : List String := []
  pollActive : Bool := false
  config : Option Config := none
  requests : ℕ := 0
  leases : List LeaseRequest := []
  executions : List (Execution Work) := []
  duplicates : List (Leased Work) := []
  failures : List (Leased Work) := []
  answers : List (Answer Work) := []
  executed : List (Leased Work) := []

def review (activeWork : List String) : List (Leased Work) → (workIds : List String) →
    List String × List (Leased Work)
  | [], workIds => (workIds, [])
  | item :: rest, workIds =>
    if id item.work ∈ workIds ∨ id item.work ∈ activeWork then
      let reviewed := review activeWork rest workIds
      (reviewed.1, item :: reviewed.2)
    else review activeWork rest (workIds ++ [id item.work])

def launch : List (Leased Work) → (workIds : List String) → List (Leased Work)
  | [], _ => []
  | item :: rest, workIds =>
    if id item.work ∈ workIds then item :: launch rest (workIds.erase (id item.work))
    else launch rest workIds

def tagged (request : ℕ) (workItems : List Work) : List (Leased Work) :=
  workItems.zipIdx.map fun (work, place) => ⟨request, place, work⟩

def LeaseRequest.answer (request : LeaseRequest) (workItems : List Work) : Answer Work :=
  ⟨request, tagged request.number workItems⟩

namespace State

variable (s : State Config Work)

def trigger (max : MaxConcurrency) : State Config Work :=
  if s.pollActive then s
  else
    let availableCapacity := max.value - s.activeWork.length
    if availableCapacity = 0 then s
    else { s with
      pollActive := true
      requests := s.requests + 1
      leases := ⟨s.requests, availableCapacity,
        s.activeWork.mergeSort fun a b => decide (a ≤ b)⟩ :: s.leases }

def leaseRejected (request : LeaseRequest) : State Config Work :=
  { s with pollActive := false, leases := s.leases.erase request }

def leaseResolved (request : LeaseRequest) (config : Config) (workItems : List (Leased Work)) :
    State Config Work :=
  let answered := { s with
    pollActive := false
    config := some config
    leases := s.leases.erase request }
  if request.limit < workItems.length then answered
  else
    let reviewed := review id s.activeWork workItems []
    let launched := launch id workItems reviewed.1
    { answered with
      activeWork := s.activeWork ++ launched.map fun item => id item.work
      executions := s.executions ++ launched.map fun item => ⟨item, .scheduled⟩
      duplicates := s.duplicates ++ reviewed.2 }

end State

inductive Step (max : MaxConcurrency) : State Config Work → State Config Work → Prop
  | trigger (s : State Config Work) : Step max s (s.trigger max)
  | leaseRejected {s : State Config Work} {request : LeaseRequest} (h : request ∈ s.leases) :
      Step max s (s.leaseRejected request)
  | leaseResolved {s : State Config Work} {request : LeaseRequest} (config : Config)
      (workItems : List Work) (h : request ∈ s.leases) :
      Step max s { s.leaseResolved id request config (request.answer workItems).items with
        answers := s.answers ++ [request.answer workItems] }
  | execute {s : State Config Work} {before after : List (Execution Work)} {item : Leased Work}
      (h : s.executions = before ++ ⟨item, .scheduled⟩ :: after) :
      Step max s { s with
        executions := before ++ ⟨item, .running⟩ :: after, executed := s.executed ++ [item] }
  | settle {s : State Config Work} {before after : List (Execution Work)} {item : Leased Work}
      (rejected : Bool) (h : s.executions = before ++ ⟨item, .running⟩ :: after) :
      Step max s { s with
        executions := before ++ ⟨item, .settled⟩ :: after
        failures := if rejected then s.failures ++ [item] else s.failures }
  | finish {s : State Config Work} {before after : List (Execution Work)} {item : Leased Work}
      (h : s.executions = before ++ ⟨item, .settled⟩ :: after) :
      Step max s { s with
        executions := before ++ after, activeWork := s.activeWork.erase (id item.work) }

inductive Reachable (max : MaxConcurrency) : State Config Work → Prop
  | initial : Reachable max {}
  | step {s s' : State Config Work} (h : Reachable max s) (hs : Step id max s s') : Reachable max s'

def scheduledItems (executions : List (Execution Work)) : List (Leased Work) :=
  (executions.filter fun e => e.stage = .scheduled).map Execution.item

/-- The items of the answers that kept to the limit of their request. -/
def dueItems (answers : List (Answer Work)) : List (Leased Work) :=
  (answers.filter fun answer => answer.items.length ≤ answer.request.limit).flatMap Answer.items

structure Inv (max : MaxConcurrency) (s : State Config Work) : Prop where
  keys : s.activeWork = s.executions.map fun e => id e.item.work
  distinct : s.activeWork.Nodup
  single : s.leases.length = if s.pollActive then 1 else 0
  sent : ∀ request ∈ s.leases, request.number < s.requests
  room : ∀ request ∈ s.leases, request.limit + s.executions.length ≤ max.value
  bounded : s.executions.length ≤ max.value
  handled : (s.executed ++ s.duplicates ++ scheduledItems s.executions).Perm (dueItems s.answers)
  tags : (s.answers.flatMap Answer.items).Nodup
  past : ∀ item ∈ s.answers.flatMap Answer.items,
    item.request < s.requests ∧ ∀ request ∈ s.leases, item.request ≠ request.number
  leased : ∀ e ∈ s.executions, e.item ∈ s.answers.flatMap Answer.items

section

variable {id : Work → String} {max : MaxConcurrency} {s s' : State Config Work}

theorem review_launch (id : Work → String) (activeWork : List String) (items : List (Leased Work))
    (workIds : List String) : ∃ ids, (review id activeWork items workIds).1 = workIds ++ ids ∧
      (launch id items ids).map (fun item => id item.work) = ids ∧ ids.Nodup ∧
      (∀ i ∈ ids, i ∉ workIds ∧ i ∉ activeWork) ∧
      (launch id items ids ++ (review id activeWork items workIds).2).Perm items := by
  induction items generalizing workIds with
  | nil => exact ⟨[], by simp [review, launch]⟩
  | cons item rest ih =>
    by_cases hclash : id item.work ∈ workIds ∨ id item.work ∈ activeWork
    · obtain ⟨ids, hreview, hlaunch, hnodup, hnew, hperm⟩ := ih workIds
      have hno : id item.work ∉ ids := by
        intro hmem
        obtain ⟨hwork, hactive⟩ := hnew _ hmem
        exact hclash.elim hwork hactive
      refine ⟨ids, ?_, ?_, hnodup, hnew, ?_⟩
      · rw [review, if_pos hclash, hreview]
      · rw [launch, if_neg hno, hlaunch]
      · rw [review, if_pos hclash, launch, if_neg hno]
        exact List.perm_middle.trans (hperm.cons item)
    · obtain ⟨ids, hreview, hlaunch, hnodup, hnew, hperm⟩ := ih (workIds ++ [id item.work])
      have hno : id item.work ∉ ids := fun hmem => (hnew _ hmem).1 (by simp)
      refine ⟨id item.work :: ids, ?_, ?_, List.nodup_cons.mpr ⟨hno, hnodup⟩, ?_, ?_⟩
      · rw [review, if_neg hclash, hreview, List.append_assoc, List.singleton_append]
      · rw [launch, if_pos List.mem_cons_self, List.erase_cons_head, List.map_cons, hlaunch]
      · rw [List.forall_mem_cons]
        refine ⟨not_or.mp hclash, fun i hi => ?_⟩
        obtain ⟨hwork, hactive⟩ := hnew i hi
        exact ⟨fun hmem => hwork (List.mem_append_left _ hmem), hactive⟩
      · rw [review, if_neg hclash, launch, if_pos List.mem_cons_self, List.erase_cons_head]
        exact hperm.cons item

theorem tagged_nodup (request : ℕ) (workItems : List Work) : (tagged request workItems).Nodup := by
  have hplaces : (tagged request workItems).map Leased.place =
      List.range' 0 workItems.length := by
    rw [tagged, List.map_map, ← List.zipIdx_map_snd]
    rfl
  apply List.Nodup.of_map Leased.place
  rw [hplaces]
  exact List.nodup_range'

theorem mem_tagged {request : ℕ} {workItems : List Work} {item : Leased Work}
    (h : item ∈ tagged request workItems) : item.request = request := by
  obtain ⟨⟨work, place⟩, -, rfl⟩ := List.mem_map.mp h
  rfl

theorem launch_sublist (id : Work → String) (items : List (Leased Work)) (workIds : List String) :
    (launch id items workIds).Sublist items := by
  induction items generalizing workIds with
  | nil => exact .refl []
  | cons item rest ih =>
    unfold launch
    split
    · exact (ih _).cons_cons item
    · exact (ih _).cons item

theorem dueItems_append (answers : List (Answer Work)) (answer : Answer Work) :
    dueItems (answers ++ [answer]) = dueItems answers ++
      if answer.items.length ≤ answer.request.limit then answer.items else [] := by
  unfold dueItems
  rw [List.filter_append, List.flatMap_append]
  split
  case isTrue hfits => simp [hfits]
  case isFalse hexceeds => simp [hexceeds]

theorem Inv.trigger (h : Inv id max s) : Inv id max (s.trigger max) := by
  unfold State.trigger
  dsimp only
  split
  · exact h
  · next hidle =>
    split
    · exact h
    · have hnone : s.leases = [] := by simpa [hidle] using h.single
      have hlen : s.activeWork.length = s.executions.length := by rw [h.keys, List.length_map]
      refine { h with
        single := by simp [hnone], sent := fun request hr => ?_, room := fun request hr => ?_
        past := fun item hi => ?_ }
      · rw [hnone, List.mem_singleton] at hr
        subst hr
        exact Nat.lt_succ_self s.requests
      · rw [hnone, List.mem_singleton] at hr
        subst hr
        have hb := h.bounded
        dsimp only
        omega
      · have hpast := (h.past item hi).1
        refine ⟨Nat.lt_succ_of_lt hpast, fun request hr => ?_⟩
        rw [hnone, List.mem_singleton] at hr
        subst hr
        exact Nat.ne_of_lt hpast

theorem Inv.answered {request : LeaseRequest} (h : Inv id max s) (hr : request ∈ s.leases) :
    s.leases = [request] := by
  have hsingle := h.single
  split at hsingle
  · obtain ⟨only, hl⟩ := List.length_eq_one_iff.mp hsingle
    rw [hl, List.mem_singleton] at hr
    rw [hl, hr]
  · rw [List.length_eq_zero_iff.mp hsingle] at hr
    exact nomatch hr

theorem Inv.leaseRejected {request : LeaseRequest} (h : Inv id max s) (hr : request ∈ s.leases) :
    Inv id max (s.leaseRejected request) := by
  have hnone : s.leases.erase request = [] := by simp [h.answered hr]
  refine { h with single := ?_, sent := ?_, room := ?_, past := fun item hi => ?_ }
  · simp [State.leaseRejected, hnone]
  · simp [State.leaseRejected, hnone]
  · simp [State.leaseRejected, hnone]
  · exact ⟨(h.past item hi).1, by simp [State.leaseRejected, hnone]⟩

theorem Inv.fresh {request : LeaseRequest} (h : Inv id max s) (hr : request ∈ s.leases)
    (workItems : List Work) :
    ((s.answers ++ [request.answer workItems]).flatMap Answer.items).Nodup ∧
      ∀ item ∈ (s.answers ++ [request.answer workItems]).flatMap Answer.items,
        item.request < s.requests := by
  have hitems : (s.answers ++ [request.answer workItems]).flatMap Answer.items =
      s.answers.flatMap Answer.items ++ tagged request.number workItems := by
    simp [LeaseRequest.answer]
  rw [hitems]
  refine ⟨List.nodup_append'.mpr ⟨h.tags, tagged_nodup _ _, fun item hi hmem => ?_⟩,
    fun item hi => ?_⟩
  · exact (h.past item hi).2 request hr (mem_tagged hmem)
  · rcases List.mem_append.mp hi with hi | hi
    · exact (h.past item hi).1
    · rw [mem_tagged hi]
      exact h.sent request hr

theorem Inv.leaseResolved {request : LeaseRequest} (config : Config) (workItems : List Work)
    (h : Inv id max s) (hr : request ∈ s.leases) :
    Inv id max { s.leaseResolved id request config (request.answer workItems).items with
      answers := s.answers ++ [request.answer workItems] } := by
  have hnone : s.leases.erase request = [] := by simp [h.answered hr]
  obtain ⟨htags, hpast⟩ := h.fresh hr workItems
  have hkept : ∀ e ∈ s.executions,
      e.item ∈ (s.answers ++ [request.answer workItems]).flatMap Answer.items := fun e he => by
    rw [List.flatMap_append]
    exact List.mem_append_left _ (h.leased e he)
  have hdue := dueItems_append s.answers (request.answer workItems)
  have hrequest : (request.answer workItems).request = request := rfl
  generalize request.answer workItems = answer at *
  rw [hrequest] at hdue
  unfold State.leaseResolved
  dsimp only
  split
  · next hexceeds =>
    rw [if_neg (Nat.not_le_of_lt hexceeds), List.append_nil] at hdue
    refine { h with
      single := ?_, sent := ?_, room := ?_, handled := hdue ▸ h.handled, tags := htags
      past := fun item hi => ⟨hpast item hi, ?_⟩, leased := hkept }
    all_goals simp [hnone]
  · next hfits =>
    rw [if_pos (Nat.le_of_not_lt hfits)] at hdue
    obtain ⟨ids, hreview, hlaunch, hnodup, hnew, hperm⟩ :=
      review_launch id s.activeWork answer.items []
    rw [List.nil_append] at hreview
    rw [hreview]
    have hcount : (launch id answer.items ids).length ≤ request.limit := by
      have hlen := hperm.length_eq
      rw [List.length_append] at hlen
      omega
    refine {
      keys := ?_, distinct := ?_, single := by simp [hnone], sent := by simp [hnone]
      room := by simp [hnone], bounded := ?_, handled := ?_, tags := htags
      past := fun item hi => ⟨hpast item hi, by simp [hnone]⟩, leased := ?_ }
    · simp only [List.map_append, List.map_map, ← h.keys]
      rfl
    · simp only [hlaunch]
      exact List.nodup_append'.mpr ⟨h.distinct, hnodup, fun i hi hmem => (hnew i hmem).2 hi⟩
    · have hroom := h.room request hr
      simp only [List.length_append, List.length_map]
      omega
    · have hscheduled : scheduledItems (s.executions ++
          (launch id answer.items ids).map fun item => ⟨item, .scheduled⟩) =
          scheduledItems s.executions ++ launch id answer.items ids := by
        simp [scheduledItems, List.filter_map, Function.comp_def]
      dsimp only
      rw [hscheduled, hdue]
      have hmove : (s.executed ++ (s.duplicates ++ (review id s.activeWork answer.items []).2) ++
          (scheduledItems s.executions ++ launch id answer.items ids)).Perm
          ((s.executed ++ s.duplicates ++ scheduledItems s.executions) ++
            (launch id answer.items ids ++ (review id s.activeWork answer.items []).2)) := by
        simp only [List.append_assoc]
        apply List.Perm.append_left
        apply List.Perm.append_left
        rw [← List.append_assoc (scheduledItems s.executions)]
        exact List.perm_append_comm
      exact hmove.trans (h.handled.append hperm)
    · intro e he
      rcases List.mem_append.mp he with he | he
      · exact hkept e he
      · obtain ⟨item, hitem, rfl⟩ := List.mem_map.mp he
        rw [List.flatMap_append]
        refine List.mem_append_right _ ?_
        simpa using (launch_sublist id answer.items ids).mem hitem

theorem Inv.move {before after : List (Execution Work)} {item : Leased Work} {stage stage' : Stage}
    {executed failures : List (Leased Work)} (h : Inv id max s)
    (he : s.executions = before ++ ⟨item, stage⟩ :: after)
    (hh : (executed ++ s.duplicates ++ scheduledItems (before ++ ⟨item, stage'⟩ :: after)).Perm
      (s.executed ++ s.duplicates ++ scheduledItems s.executions)) :
    Inv id max { s with
      executions := before ++ ⟨item, stage'⟩ :: after, executed := executed
      failures := failures } := by
  have hlen : (before ++ ⟨item, stage'⟩ :: after).length = s.executions.length := by simp [he]
  refine { h with
    keys := ?_, room := hlen ▸ h.room, bounded := hlen ▸ h.bounded, handled := hh.trans h.handled
    leased := fun e hmem => ?_ }
  · rw [h.keys, he]
    simp
  · have hmem' : ∃ e' ∈ s.executions, e'.item = e.item := by
      rw [he]
      rcases List.mem_append.mp hmem with hmem | hmem
      · exact ⟨e, List.mem_append_left _ hmem, rfl⟩
      · obtain rfl | hmem := List.mem_cons.mp hmem
        · exact ⟨⟨item, stage⟩, by simp, rfl⟩
        · exact ⟨e, by simp [hmem], rfl⟩
    obtain ⟨e', hmem', hitem⟩ := hmem'
    exact hitem ▸ h.leased e' hmem'

theorem scheduledItems_append (before after : List (Execution Work)) :
    scheduledItems (before ++ after) = scheduledItems before ++ scheduledItems after := by
  simp [scheduledItems]

theorem scheduledItems_scheduled (item : Leased Work) (after : List (Execution Work)) :
    scheduledItems (⟨item, .scheduled⟩ :: after) = item :: scheduledItems after := by
  simp [scheduledItems]

theorem scheduledItems_begun {item : Leased Work} {stage : Stage} (after : List (Execution Work))
    (h : stage ≠ .scheduled) : scheduledItems (⟨item, stage⟩ :: after) = scheduledItems after := by
  simp [scheduledItems, h]

theorem Inv.step (h : Inv id max s) (hs : Step id max s s') : Inv id max s' := by
  cases hs with
  | trigger => exact h.trigger
  | leaseRejected hr => exact h.leaseRejected hr
  | leaseResolved config workItems hr => exact h.leaseResolved config workItems hr
  | @execute before after item he =>
    refine h.move he ?_
    rw [he, scheduledItems_append, scheduledItems_append, scheduledItems_scheduled,
      scheduledItems_begun _ (by simp)]
    simp only [List.append_assoc, List.singleton_append]
    apply List.Perm.append_left
    have hmiddle : (s.duplicates ++ scheduledItems before ++ item :: scheduledItems after).Perm
        (item :: (s.duplicates ++ scheduledItems before ++ scheduledItems after)) :=
      List.perm_middle
    simp only [List.append_assoc] at hmiddle
    exact hmiddle.symm
  | @settle before after item rejected he =>
    refine h.move he ?_
    rw [he, scheduledItems_append, scheduledItems_append, scheduledItems_begun _ (by simp),
      scheduledItems_begun _ (by simp)]
  | @finish before after item he =>
    have hkeys := h.keys
    have hdistinct := h.distinct
    rw [he, List.map_append, List.map_cons] at hkeys
    have hno : id item.work ∉ before.map fun e => id e.item.work := by
      rw [hkeys, List.nodup_middle, List.nodup_cons] at hdistinct
      exact fun hmem => hdistinct.1 (List.mem_append_left _ hmem)
    have herase : s.activeWork.erase (id item.work) =
        (before ++ after).map fun e => id e.item.work := by
      rw [hkeys, List.erase_append_right _ hno, List.erase_cons_head, List.map_append]
    have hkept : (before ++ after).Sublist (before ++ ⟨item, .settled⟩ :: after) :=
      (List.sublist_cons_self _ after).append_left before
    have hlen : (before ++ after).length ≤ s.executions.length := he ▸ hkept.length_le
    refine { h with
      keys := herase, distinct := hdistinct.erase _
      room := fun request hr => le_trans (Nat.add_le_add_left hlen _) (h.room request hr)
      bounded := le_trans hlen h.bounded, handled := ?_
      leased := fun e hmem => h.leased e (he ▸ hkept.mem hmem) }
    have hh := h.handled
    rw [he, scheduledItems_append, scheduledItems_begun _ (by simp),
      ← scheduledItems_append] at hh
    exact hh

theorem Reachable.inv {s : State Config Work} (h : Reachable id max s) : Inv id max s := by
  induction h with
  | initial =>
    exact ⟨rfl, List.nodup_nil, rfl, nofun, nofun, Nat.zero_le _, .refl _, List.nodup_nil, nofun,
      nofun⟩
  | step _ hs ih => exact ih.step hs

theorem exists_execute {item : Leased Work} (h : item ∈ scheduledItems s.executions) :
    ∃ s', Step id max s s' ∧ s'.executed = s.executed ++ [item] := by
  obtain ⟨e, he, rfl⟩ := List.mem_map.mp h
  obtain ⟨hmem, hstage⟩ := List.mem_filter.mp he
  obtain ⟨before, after, hsplit⟩ := List.append_of_mem hmem
  obtain ⟨item, stage⟩ := e
  obtain rfl : stage = .scheduled := of_decide_eq_true hstage
  exact ⟨_, .execute hsplit, rfl⟩

end

/-- In every state that the scheduler reaches, it waits for one lease at most, runs no more than
`maxConcurrency` executions, no two of one id, and every item that an answer within its limit held is
at one place: executed, reported as a duplicate, or about to be executed, which nothing prevents. -/
theorem scheduler_loses_and_duplicates_nothing (id : Work → String) (max : MaxConcurrency)
    (s : State Config Work) (h : Reachable id max s) :
    s.leases.length = (if s.pollActive then 1 else 0) ∧ s.executions.length ≤ max.value ∧
      (s.executions.map fun e => id e.item.work).Nodup ∧
      (s.answers.flatMap Answer.items).Nodup ∧
      (s.executed ++ s.duplicates ++ scheduledItems s.executions).Nodup ∧
      (∀ item, (∃ answer ∈ s.answers, answer.items.length ≤ answer.request.limit ∧
          item ∈ answer.items) ↔
        item ∈ s.executed ∨ item ∈ s.duplicates ∨ item ∈ scheduledItems s.executions) ∧
      ∀ item ∈ scheduledItems s.executions,
        ∃ s', Step id max s s' ∧ s'.executed = s.executed ++ [item] := by
  have hinv := h.inv
  have hdue : (dueItems s.answers).Nodup :=
    hinv.tags.sublist (List.Sublist.flatMap List.filter_sublist Answer.items)
  refine ⟨hinv.single, hinv.bounded, ?_, hinv.tags, hinv.handled.nodup_iff.mpr hdue, fun item => ?_,
    fun item => exists_execute⟩
  · rw [← hinv.keys]
    exact hinv.distinct
  · have hhandled := hinv.handled.mem_iff (a := item)
    simp only [dueItems, List.mem_flatMap, List.mem_filter, decide_eq_true_eq, and_assoc,
      List.mem_append, or_assoc] at hhandled
    exact hhandled.symm

def maxTwo : MaxConcurrency := ⟨2, by decide⟩

def asked : State Unit String := State.trigger {} maxTwo

def answered : State Unit String :=
  { asked.leaseResolved (fun work => work) ⟨0, 2, []⟩ () (tagged 0 ["a", "a"]) with
    answers := [⟨⟨0, 2, []⟩, tagged 0 ["a", "a"]⟩] }

def repeated : State Unit String :=
  { answered with executions := [⟨⟨0, 0, "a"⟩, .running⟩], executed := [⟨0, 0, "a"⟩] }

theorem repeated_reachable : Reachable (fun work => work) maxTwo repeated := by
  have hasked : Reachable (fun work => work) maxTwo asked := .step .initial (.trigger {})
  have hmem : (⟨0, 2, []⟩ : LeaseRequest) ∈ asked.leases := by simp [asked, State.trigger, maxTwo]
  have hanswered : Reachable (fun work => work) maxTwo answered :=
    .step hasked (.leaseResolved () ["a", "a"] hmem)
  have hscheduled : answered.executions = [] ++ ⟨⟨0, 0, "a"⟩, .scheduled⟩ :: [] := rfl
  exact .step hanswered (.execute hscheduled)

theorem scheduler_loses_and_duplicates_nothing_repeated :
    (repeated.executed ++ repeated.duplicates ++ scheduledItems repeated.executions).Nodup ∧
      ((⟨0, 1, "a"⟩ : Leased String) ∈ repeated.executed ∨ ⟨0, 1, "a"⟩ ∈ repeated.duplicates ∨
        ⟨0, 1, "a"⟩ ∈ scheduledItems repeated.executions) :=
  have h := scheduler_loses_and_duplicates_nothing _ _ _ repeated_reachable
  ⟨h.2.2.2.2.1, (h.2.2.2.2.2.1 ⟨0, 1, "a"⟩).mp
    ⟨⟨⟨0, 2, []⟩, tagged 0 ["a", "a"]⟩, List.mem_cons_self, by decide,
      by simp [tagged]⟩⟩

end NouvaAgent.WorkScheduler
