import NouvaAgent.Interaction.Chain
import NouvaAgent.LiteralRedaction

namespace NouvaAgent

open Interaction

inductive BuildLogMessageType
  | stdout
  | stderr
  | progress
  | exit
  deriving DecidableEq, Repr

inductive BuildLogStage
  | cloning
  | analyzing
  | building
  | pushing
  | deploying
  deriving DecidableEq, Repr

structure BuildLogMessage where
  type : BuildLogMessageType
  line : Option Units := none
  timestamp : ℤ
  stage : Option BuildLogStage := none
  percent : Option ℤ := none
  message : Option Units := none
  exitCode : Option ℤ := none
  success : Option Bool := none
  deriving DecidableEq

structure BuildLogBatch where
  deploymentId : String
  entries : List BuildLogMessage
  deriving DecidableEq

structure BuildLogPublisherOptions where
  deploymentId : String
  flushIntervalMs : ℕ := 1000
  flushBatchSize : ℕ := 200
  maxEntries : ℕ := 20000
  maxLineLength : ℕ := 4000

namespace BuildLogPublisher

def truncationSuffix : Units := units "… [line truncated]"

def truncateBuildLogLine (line : Units) (maxLength : ℕ) : Units :=
  if line.length ≤ maxLength then line else line.take maxLength ++ truncationSuffix

/-- A call of `close` that waits: for the promise that its flush returned, and then for the one that
is `inFlight` by then. Each is named by how many sends are chained in it. -/
inductive Closing
  | flushing (sends : ℕ)
  | draining (sends : ℕ)
  | resolved
  deriving DecidableEq

/-- The publisher's variables, with the sends that are chained in `inFlight`, and what has been sent,
reported to `onSendError` and accepted so far. What `emit` was called with before `close` is kept
with the clock of each call. -/
structure State where
  buffer : List BuildLogMessage := []
  emitted : ℕ := 0
  capacityNoticeSent : Bool := false
  closed : Bool := false
  timer : Option ℕ := none
  inFlight : Chain BuildLogBatch := []
  sent : List BuildLogBatch := []
  reported : ℕ := 0
  closings : List Closing := []
  emits : List (BuildLogMessage × ℤ) := []
  accepted : List BuildLogMessage := []

namespace State

variable (o : BuildLogPublisherOptions) (s : State)

def cancelTimer : State := { s with timer := none }

def flush : State :=
  let stopped := s.cancelTimer
  if s.buffer = [] then stopped
  else { stopped with
    buffer := []
    inFlight := s.inFlight ++ [⟨⟨o.deploymentId, s.buffer⟩, .waiting⟩] }

def armTimer : State :=
  if s.timer ≠ none ∨ s.closed then s else { s with timer := some o.flushIntervalMs }

def push (entry : BuildLogMessage) : State :=
  let pushed := { s with buffer := s.buffer ++ [entry], accepted := s.accepted ++ [entry] }
  if o.flushBatchSize ≤ pushed.buffer.length then pushed.flush o else pushed.armTimer o

def capacityNotice (now : ℤ) : BuildLogMessage where
  type := .stderr
  line := some (units ("[nouva] build log truncated after " ++ toString o.maxEntries ++
    " lines; the rest of this build's output is not retained"))
  timestamp := now

def truncated (entry : BuildLogMessage) : BuildLogMessage :=
  { entry with line := entry.line.map (truncateBuildLogLine · o.maxLineLength) }

def accept (entry : BuildLogMessage) : State :=
  State.push o { s with emitted := s.emitted + 1 } (truncated o entry)

def noticeCapacity (now : ℤ) : State :=
  if s.capacityNoticeSent then s
  else State.push o { s with capacityNoticeSent := true } (capacityNotice o now)

def emit (entry : BuildLogMessage) (now : ℤ) : State :=
  if s.closed then s
  else if o.maxEntries ≤ s.emitted then
    let noticed := s.noticeCapacity o now
    if entry.type ≠ .exit then noticed else noticed.accept o entry
  else s.accept o entry

def fire : State := State.flush o { s with timer := none }

def close : State :=
  if s.closed then { s with closings := s.closings ++ [.draining s.inFlight.length] }
  else
    let flushed := State.flush o { s with closed := true }
    { flushed with closings := flushed.closings ++ [.flushing flushed.inFlight.length] }

end State

inductive Step (o : BuildLogPublisherOptions) : State → State → Prop
  | emit (s : State) (entry : BuildLogMessage) (now : ℤ) :
      Step o s { s.emit o entry now with
        emits := if s.closed then s.emits else s.emits ++ [(entry, now)] }
  | fire {s : State} (h : s.timer ≠ none) : Step o s (s.fire o)
  | close (s : State) : Step o s (s.close o)
  | send {s : State} {before after : Chain BuildLogBatch} {batch : BuildLogBatch}
      (h : s.inFlight = before ++ ⟨batch, .waiting⟩ :: after) (hsettled : before.Settled) :
      Step o s { s with inFlight := before ++ ⟨batch, .running⟩ :: after, sent := s.sent ++ [batch] }
  | settle {s : State} {before after : Chain BuildLogBatch} {batch : BuildLogBatch}
      (rejected : Bool) (h : s.inFlight = before ++ ⟨batch, .running⟩ :: after) :
      Step o s { s with
        inFlight := before ++ ⟨batch, .settled⟩ :: after
        reported := s.reported + if rejected then 1 else 0 }
  | flushed {s : State} {before after : List Closing} {sends : ℕ}
      (h : s.closings = before ++ .flushing sends :: after)
      (hsettled : Chain.Settled (s.inFlight.take sends)) :
      Step o s { s with closings := before ++ .draining s.inFlight.length :: after }
  | drained {s : State} {before after : List Closing} {sends : ℕ}
      (h : s.closings = before ++ .draining sends :: after)
      (hsettled : Chain.Settled (s.inFlight.take sends)) :
      Step o s { s with closings := before ++ .resolved :: after }

inductive Reachable (o : BuildLogPublisherOptions) : State → Prop
  | initial : Reachable o {}
  | step {s s' : State} (h : Reachable o s) (hs : Step o s s') : Reachable o s'

def overflow (o : BuildLogPublisherOptions) (emits : List (BuildLogMessage × ℤ)) :
    List (BuildLogMessage × ℤ) := emits.drop o.maxEntries

def exits (emits : List (BuildLogMessage × ℤ)) : List BuildLogMessage :=
  (emits.map Prod.fst).filter (·.type = .exit)

/-- What is accepted of the entries that were emitted: the first ones, and beyond the limit one
notice and the entries that end the stream. -/
def acceptedOf (o : BuildLogPublisherOptions) (emits : List (BuildLogMessage × ℤ)) :
    List BuildLogMessage :=
  (emits.take o.maxEntries).map (fun e => State.truncated o e.1) ++
    ((overflow o emits).head?.toList.map (fun e => State.capacityNotice o e.2) ++
      (exits (overflow o emits)).map (State.truncated o))

def Closing.WaitsFor (inFlight : Chain BuildLogBatch) : Closing → Prop
  | flushing sends => sends = inFlight.length
  | draining sends => sends = inFlight.length
  | resolved => ∀ l ∈ inFlight, l.phase = .settled

structure Flow (o : BuildLogPublisherOptions) (s : State) : Prop where
  accounted : s.accepted = (s.inFlight.map Link.task).flatMap BuildLogBatch.entries ++ s.buffer
  batches : ∀ b ∈ s.inFlight.map Link.task, b.deploymentId = o.deploymentId ∧
    b.entries.length ≤ max 1 o.flushBatchSize
  fits : s.buffer.length ≤ max 1 o.flushBatchSize
  ordered : s.inFlight.Ordered
  sent : s.sent = s.inFlight.begun
  closings : ∀ c ∈ s.closings, c.WaitsFor s.inFlight

structure Waiting (o : BuildLogPublisherOptions) (s : State) : Prop where
  buffered : s.buffer ≠ [] → s.buffer.length < o.flushBatchSize ∧ s.timer ≠ none
  drained : s.closed = true → s.buffer = []
  unclosed : s.closed = false → s.closings = []

structure Admitted (o : BuildLogPublisherOptions) (s : State) : Prop where
  accepted : s.accepted = acceptedOf o s.emits
  emitted : s.emitted = min o.maxEntries s.emits.length + (exits (overflow o s.emits)).length
  notice : s.capacityNoticeSent = decide (o.maxEntries < s.emits.length)

section

variable {o : BuildLogPublisherOptions} {s s' : State}

@[simp] theorem flush_buffer : (s.flush o).buffer = [] := by
  unfold State.flush
  dsimp only
  split
  · assumption
  · rfl

@[simp] theorem flush_closings : (s.flush o).closings = s.closings := by
  unfold State.flush
  dsimp only
  split <;> rfl

@[simp] theorem flush_closed : (s.flush o).closed = s.closed := by
  unfold State.flush
  dsimp only
  split <;> rfl

theorem flush_frame : (s.flush o).emits = s.emits ∧ (s.flush o).accepted = s.accepted ∧
    (s.flush o).emitted = s.emitted ∧ (s.flush o).capacityNoticeSent = s.capacityNoticeSent := by
  unfold State.flush
  dsimp only
  split <;> exact ⟨rfl, rfl, rfl, rfl⟩

theorem armTimer_frame : (s.armTimer o).accepted = s.accepted ∧
    (s.armTimer o).emitted = s.emitted ∧
    (s.armTimer o).capacityNoticeSent = s.capacityNoticeSent := by
  unfold State.armTimer
  split <;> exact ⟨rfl, rfl, rfl⟩

theorem push_frame (entry : BuildLogMessage) : (s.push o entry).accepted = s.accepted ++ [entry] ∧
    (s.push o entry).emitted = s.emitted ∧
    (s.push o entry).capacityNoticeSent = s.capacityNoticeSent := by
  unfold State.push
  dsimp only
  split
  · exact flush_frame.2
  · exact armTimer_frame

theorem push_closed (entry : BuildLogMessage) : (s.push o entry).closed = s.closed := by
  unfold State.push State.armTimer
  dsimp only
  split
  · exact flush_closed
  · split <;> rfl

/-- A flush puts what is buffered behind the sends that are chained already. No call of `close` may
be waiting for them if there is anything to flush. -/
theorem Flow.flush (h : Flow o s) (hc : s.buffer ≠ [] → s.closings = []) : Flow o (s.flush o) := by
  unfold State.flush
  dsimp only
  split
  · exact { h with }
  · next hne =>
    exact { h with
      accounted := by simp [State.cancelTimer, h.accounted]
      batches := fun b hb => by
        rw [List.map_append, List.mem_append, List.map_singleton, List.mem_singleton] at hb
        rcases hb with hb | rfl
        · exact h.batches b hb
        · exact ⟨rfl, h.fits⟩
      fits := Nat.zero_le _
      ordered := h.ordered.add _
      sent := by
        rw [Chain.begun_append]
        exact h.sent.trans (List.append_nil _).symm
      closings := fun c hmem => by
        have hnil : s.cancelTimer.closings = [] := hc hne
        rw [hnil] at hmem
        exact nomatch hmem }

theorem flush_waiting (hc : s.closed = false → s.closings = []) : Waiting o (s.flush o) where
  buffered := fun hne => absurd flush_buffer hne
  drained := fun _ => flush_buffer
  unclosed := fun hopen => by
    rw [flush_closings]
    exact hc (flush_closed.symm.trans hopen)

theorem push_inv (h : Flow o s) (hw : Waiting o s) (hopen : s.closed = false)
    (entry : BuildLogMessage) : Flow o (s.push o entry) ∧ Waiting o (s.push o entry) := by
  have hnone := hw.unclosed hopen
  have hfits : (s.buffer ++ [entry]).length ≤ max 1 o.flushBatchSize := by
    rw [List.length_append, List.length_singleton]
    by_cases hempty : s.buffer = []
    · simp [hempty]
    · have := (hw.buffered hempty).1
      omega
  have hpushed : Flow o
      { s with buffer := s.buffer ++ [entry], accepted := s.accepted ++ [entry] } :=
    { h with
      accounted := by simp [h.accounted]
      fits := hfits }
  unfold State.push
  dsimp only
  split
  · exact ⟨hpushed.flush fun _ => hnone, flush_waiting fun _ => hnone⟩
  · next hroom =>
    rw [Nat.not_le] at hroom
    unfold State.armTimer
    dsimp only
    split
    · next harmed =>
      have htimer : s.timer ≠ none := harmed.resolve_right (by simp [hopen])
      exact ⟨hpushed, fun _ => ⟨hroom, htimer⟩, fun hc => absurd (hopen.symm.trans hc) (by simp),
        fun _ => hnone⟩
    · exact ⟨{ hpushed with }, fun _ => ⟨hroom, by simp⟩,
        fun hc => absurd (hopen.symm.trans hc) (by simp), fun _ => hnone⟩

theorem overflow_nil {emits : List (BuildLogMessage × ℤ)} (h : emits.length ≤ o.maxEntries) :
    overflow o emits = [] := List.drop_eq_nil_of_le h

theorem overflow_append {emits : List (BuildLogMessage × ℤ)} (h : o.maxEntries ≤ emits.length)
    (e : BuildLogMessage × ℤ) : overflow o (emits ++ [e]) = overflow o emits ++ [e] :=
  List.drop_append_of_le_length h

theorem exits_append (emits : List (BuildLogMessage × ℤ)) (e : BuildLogMessage × ℤ) :
    exits (emits ++ [e]) = exits emits ++ if e.1.type = .exit then [e.1] else [] := by
  unfold exits
  rw [List.map_append, List.filter_append]
  split
  · next h => simp [h]
  · next h => simp [h]

theorem acceptedOf_within {emits : List (BuildLogMessage × ℤ)} (h : emits.length < o.maxEntries)
    (e : BuildLogMessage × ℤ) :
    acceptedOf o (emits ++ [e]) = acceptedOf o emits ++ [State.truncated o e.1] := by
  have hlength : (emits ++ [e]).length ≤ o.maxEntries := by
    rw [List.length_append, List.length_singleton]
    omega
  unfold acceptedOf
  rw [overflow_nil hlength, overflow_nil (le_of_lt h), List.take_of_length_le hlength,
    List.take_of_length_le (le_of_lt h)]
  simp [exits]

theorem acceptedOf_beyond {emits : List (BuildLogMessage × ℤ)} (h : o.maxEntries ≤ emits.length)
    (e : BuildLogMessage × ℤ) : acceptedOf o (emits ++ [e]) = acceptedOf o emits ++
      ((if o.maxEntries < emits.length then [] else [State.capacityNotice o e.2]) ++
        if e.1.type = .exit then [State.truncated o e.1] else []) := by
  unfold acceptedOf
  rw [overflow_append h, exits_append, List.take_append_of_le_length h]
  by_cases hbeyond : o.maxEntries < emits.length
  · obtain ⟨first, rest, hrest⟩ : ∃ first rest, overflow o emits = first :: rest :=
      List.exists_cons_of_ne_nil fun hnil => by
        have := List.drop_eq_nil_iff.mp hnil
        omega
    rw [hrest, if_pos hbeyond]
    split <;> simp
  · rw [overflow_nil (Nat.le_of_not_lt hbeyond), if_neg hbeyond]
    split <;> simp [exits]

theorem Admitted.full_iff (h : Admitted o s) :
    o.maxEntries ≤ s.emitted ↔ o.maxEntries ≤ s.emits.length := by
  rw [h.emitted]
  by_cases hfull : o.maxEntries ≤ s.emits.length
  · simp only [hfull, iff_true]
    omega
  · rw [overflow_nil (by omega)]
    simp only [exits, List.map_nil, List.filter_nil, List.length_nil]
    omega

theorem noticeCapacity_frame (now : ℤ) : (s.noticeCapacity o now).accepted = s.accepted ++
      (if s.capacityNoticeSent then [] else [State.capacityNotice o now]) ∧
    (s.noticeCapacity o now).emitted = s.emitted ∧
    (s.noticeCapacity o now).capacityNoticeSent = true ∧
    (s.noticeCapacity o now).closed = s.closed := by
  unfold State.noticeCapacity
  split
  · next h => simp [h]
  · next h =>
    obtain ⟨haccepted, hemitted, hnotice⟩ := push_frame (o := o)
      (s := { s with capacityNoticeSent := true }) (State.capacityNotice o now)
    exact ⟨haccepted, hemitted, hnotice, push_closed _⟩

theorem noticeCapacity_inv (h : Flow o s) (hw : Waiting o s) (hopen : s.closed = false)
    (now : ℤ) : Flow o (s.noticeCapacity o now) ∧ Waiting o (s.noticeCapacity o now) := by
  unfold State.noticeCapacity
  split
  · exact ⟨h, hw⟩
  · have hflow : Flow o { s with capacityNoticeSent := true } := { h with }
    have hwaiting : Waiting o { s with capacityNoticeSent := true } := { hw with }
    exact push_inv hflow hwaiting hopen _

theorem accept_frame (entry : BuildLogMessage) :
    (s.accept o entry).accepted = s.accepted ++ [State.truncated o entry] ∧
    (s.accept o entry).emitted = s.emitted + 1 ∧
    (s.accept o entry).capacityNoticeSent = s.capacityNoticeSent :=
  push_frame _

theorem accept_inv (h : Flow o s) (hw : Waiting o s) (hopen : s.closed = false)
    (entry : BuildLogMessage) : Flow o (s.accept o entry) ∧ Waiting o (s.accept o entry) := by
  have hflow : Flow o { s with emitted := s.emitted + 1 } := { h with }
  have hwaiting : Waiting o { s with emitted := s.emitted + 1 } := { hw with }
  exact push_inv hflow hwaiting hopen _

theorem Admitted.within (h : Admitted o s) (hroom : s.emits.length < o.maxEntries)
    {e : BuildLogMessage × ℤ} (hemits : s'.emits = s.emits ++ [e])
    (haccepted : s'.accepted = s.accepted ++ [State.truncated o e.1])
    (hemitted : s'.emitted = s.emitted + 1)
    (hnotice : s'.capacityNoticeSent = s.capacityNoticeSent) : Admitted o s' := by
  have hlength : s'.emits.length = s.emits.length + 1 := by
    rw [hemits, List.length_append, List.length_singleton]
  constructor
  · rw [haccepted, hemits, acceptedOf_within hroom, h.accepted]
  · rw [hemitted, h.emitted, overflow_nil (le_of_lt hroom), overflow_nil (by omega), hlength]
    simp only [exits, List.map_nil, List.filter_nil, List.length_nil]
    omega
  · rw [hnotice, h.notice, hlength, decide_eq_decide]
    omega

theorem Admitted.beyond (h : Admitted o s) (hfull : o.maxEntries ≤ s.emits.length)
    {e : BuildLogMessage × ℤ} (hemits : s'.emits = s.emits ++ [e])
    (haccepted : s'.accepted = s.accepted ++
      ((if s.capacityNoticeSent then [] else [State.capacityNotice o e.2]) ++
        if e.1.type = .exit then [State.truncated o e.1] else []))
    (hemitted : s'.emitted = s.emitted + if e.1.type = .exit then 1 else 0)
    (hnotice : s'.capacityNoticeSent = true) : Admitted o s' := by
  have hlength : s'.emits.length = s.emits.length + 1 := by
    rw [hemits, List.length_append, List.length_singleton]
  constructor
  · rw [haccepted, hemits, acceptedOf_beyond hfull, h.accepted, h.notice]
    simp only [decide_eq_true_eq]
  · have hexits : (exits (overflow o s'.emits)).length =
        (exits (overflow o s.emits)).length + if e.1.type = .exit then 1 else 0 := by
      rw [hemits, overflow_append hfull, exits_append, List.length_append]
      split <;> rfl
    rw [hemitted, h.emitted, hexits, hlength]
    omega
  · rw [hnotice, hlength, eq_comm, decide_eq_true_eq]
    omega

structure Inv (o : BuildLogPublisherOptions) (s : State) : Prop where
  flow : Flow o s
  waiting : Waiting o s
  admitted : Admitted o s

theorem emit_inv (h : Inv o s) (entry : BuildLogMessage) (now : ℤ) :
    Inv o { s.emit o entry now with
      emits := if s.closed then s.emits else s.emits ++ [(entry, now)] } := by
  unfold State.emit
  split
  · exact h
  · next hclosed =>
    have hopen : s.closed = false := by simpa using hclosed
    split
    · next hfull =>
      rw [h.admitted.full_iff] at hfull
      obtain ⟨hnoticed, hwaits⟩ := noticeCapacity_inv h.flow h.waiting hopen now
      obtain ⟨haccepted, hcount, hsent, hstill⟩ := noticeCapacity_frame (o := o) (s := s) now
      dsimp only
      split
      · next hother =>
        refine ⟨{ hnoticed with }, { hwaits with }, h.admitted.beyond hfull rfl ?_ ?_ hsent⟩
        · rw [haccepted, if_neg hother, List.append_nil]
        · rw [hcount, if_neg hother, Nat.add_zero]
      · next hexit =>
        rw [ne_eq, not_not] at hexit
        obtain ⟨hflow, hwaiting⟩ := accept_inv hnoticed hwaits (hstill.trans hopen) entry
        obtain ⟨haccepted', hcount', hsent'⟩ := accept_frame (o := o)
          (s := s.noticeCapacity o now) entry
        refine ⟨{ hflow with }, { hwaiting with }, h.admitted.beyond hfull rfl ?_ ?_
          (hsent'.trans hsent)⟩
        · rw [haccepted', haccepted, if_pos hexit, List.append_assoc]
        · rw [hcount', hcount, if_pos hexit]
    · next hroom =>
      rw [h.admitted.full_iff, Nat.not_le] at hroom
      obtain ⟨hflow, hwaiting⟩ := accept_inv h.flow h.waiting hopen entry
      obtain ⟨haccepted, hcount, hsent⟩ := accept_frame (o := o) (s := s) entry
      exact ⟨{ hflow with }, { hwaiting with }, h.admitted.within hroom rfl haccepted hcount hsent⟩

theorem flush_admitted (h : Admitted o s) : Admitted o (s.flush o) := by
  obtain ⟨hemits, haccepted, hemitted, hnotice⟩ := flush_frame (o := o) (s := s)
  exact ⟨by rw [haccepted, hemits, h.accepted], by rw [hemitted, hemits, h.emitted],
    by rw [hnotice, hemits, h.notice]⟩

theorem fire_inv (h : Inv o s) : Inv o (s.fire o) := by
  have hflow : Flow o { s with timer := none } := { h.flow with }
  have hadmitted : Admitted o { s with timer := none } := { h.admitted with }
  have hnone : s.buffer ≠ [] → s.closings = [] := by
    intro hne
    apply h.waiting.unclosed
    by_contra hclosed
    exact hne (h.waiting.drained (by simpa using hclosed))
  exact ⟨hflow.flush hnone, flush_waiting h.waiting.unclosed, flush_admitted hadmitted⟩

theorem Flow.wait (h : Flow o s) {c : Closing} (hc : c.WaitsFor s.inFlight) :
    Flow o { s with closings := s.closings ++ [c] } :=
  { h with
    closings := fun c' hmem => by
      rcases List.mem_append.mp hmem with hold | hnew
      · exact h.closings c' hold
      · rwa [List.mem_singleton.mp hnew] }

theorem close_inv (h : Inv o s) : Inv o (s.close o) := by
  unfold State.close
  split
  · next hclosed =>
    refine ⟨h.flow.wait rfl, { h.waiting with unclosed := fun hopen => ?_ }, { h.admitted with }⟩
    exact absurd (hclosed.symm.trans hopen) (by simp)
  · next hclosed =>
    have hnone : s.closings = [] := h.waiting.unclosed (by simpa using hclosed)
    have hflow : Flow o { s with closed := true } := { h.flow with }
    have hadmitted : Admitted o { s with closed := true } := { h.admitted with }
    have hshut : (State.flush o { s with closed := true }).closed = true := flush_closed
    refine ⟨(hflow.flush fun _ => hnone).wait rfl, ⟨fun hne => absurd flush_buffer hne,
      fun _ => flush_buffer, fun hopen => ?_⟩, { flush_admitted hadmitted with }⟩
    exact absurd (hshut.symm.trans hopen) (by simp)

theorem goOn_inv (h : Inv o s) {before after : List Closing} {c c' : Closing}
    (hs : s.closings = before ++ c :: after) (hc : c'.WaitsFor s.inFlight) :
    Inv o { s with closings := before ++ c' :: after } := by
  refine ⟨{ h.flow with closings := fun d hd => ?_ },
    { h.waiting with unclosed := fun hopen => ?_ }, { h.admitted with }⟩
  · rw [List.mem_append, List.mem_cons] at hd
    rcases hd with hd | rfl | hd
    · exact h.flow.closings d (by simp [hs, hd])
    · exact hc
    · exact h.flow.closings d (by simp [hs, hd])
  · exact absurd (h.waiting.unclosed hopen) (by simp [hs])

theorem Flow.advance (h : Flow o s) {before after : Chain BuildLogBatch} {l l' : Link BuildLogBatch}
    (hs : s.inFlight = before ++ l :: after) (hl : l.phase ≠ .settled) :
    ∀ c ∈ s.closings, c.WaitsFor (before ++ l' :: after) := by
  intro c hc
  have hwaits := h.closings c hc
  have hlength : s.inFlight.length = (before ++ l' :: after).length := by
    rw [hs]
    simp
  cases c with
  | flushing sends => exact Eq.trans hwaits hlength
  | draining sends => exact Eq.trans hwaits hlength
  | resolved => exact absurd (hwaits l (by simp [hs])) hl

theorem Step.inv (h : Inv o s) (hs : Step o s s') : Inv o s' := by
  have hordered := h.flow.ordered
  cases hs with
  | emit entry now => exact emit_inv h entry now
  | fire _ => exact fire_inv h
  | close => exact close_inv h
  | @send before after batch hf hsettled =>
    rw [hf] at hordered
    obtain ⟨hnext, hbegun⟩ := hordered.begin hsettled
    exact ⟨{ h.flow with
      accounted := by simp [h.flow.accounted, hf]
      batches := fun b hb => h.flow.batches b (by simpa [hf] using hb)
      ordered := hnext
      sent := by rw [hbegun, h.flow.sent, hf]
      closings := h.flow.advance hf (by simp) }, { h.waiting with }, { h.admitted with }⟩
  | @settle before after batch rejected hf =>
    rw [hf] at hordered
    obtain ⟨hnext, hbegun⟩ := hordered.settle
    exact ⟨{ h.flow with
      accounted := by simp [h.flow.accounted, hf]
      batches := fun b hb => h.flow.batches b (by simpa [hf] using hb)
      ordered := hnext
      sent := by rw [hbegun, h.flow.sent, hf]
      closings := h.flow.advance hf (by simp) }, { h.waiting with }, { h.admitted with }⟩
  | flushed hc hsettled => exact goOn_inv h hc rfl
  | @drained before after sends hc hsettled =>
    apply goOn_inv h hc
    have hmem : Closing.draining sends ∈ s.closings := by simp [hc]
    have hwaits : sends = s.inFlight.length := h.flow.closings _ hmem
    rw [hwaits, List.take_length] at hsettled
    exact hordered.all_settled hsettled

theorem inv_initial : Inv o {} where
  flow := {
    accounted := rfl
    batches := nofun
    fits := Nat.zero_le _
    ordered := Chain.ordered_nil
    sent := rfl
    closings := nofun }
  waiting := ⟨fun hne => absurd rfl hne, fun _ => rfl, fun _ => rfl⟩
  admitted := {
    accepted := by simp [acceptedOf, overflow, exits]
    emitted := by simp [overflow, exits]
    notice := by simp }

theorem Reachable.inv (h : Reachable o s) : Inv o s := by
  induction h with
  | initial => exact inv_initial
  | step _ hs ih => exact hs.inv ih

theorem filter_truncated (p : BuildLogMessageType → Bool) (es : List BuildLogMessage) :
    (es.map (State.truncated o)).filter (fun e => p e.type) =
      (es.filter fun e => p e.type).map (State.truncated o) := by
  rw [List.filter_map]
  rfl

theorem acceptedOf_exits (emits : List (BuildLogMessage × ℤ)) :
    (acceptedOf o emits).filter (fun e => e.type = .exit) =
      (exits emits).map (State.truncated o) := by
  have hnotices : ((overflow o emits).head?.toList.map fun e => State.capacityNotice o e.2).filter
      (fun e => e.type = .exit) = [] := by
    apply List.filter_eq_nil_iff.mpr
    intro e he
    obtain ⟨first, -, rfl⟩ := List.mem_map.mp he
    simp [State.capacityNotice]
  have hfirst : (emits.take o.maxEntries).map (fun e => State.truncated o e.1) =
      ((emits.take o.maxEntries).map Prod.fst).map (State.truncated o) := by
    rw [List.map_map]
    rfl
  have hsplit : exits emits = exits (emits.take o.maxEntries) ++ exits (overflow o emits) := by
    unfold exits overflow
    rw [← List.filter_append, ← List.map_append, List.take_append_drop]
  unfold acceptedOf
  rw [List.filter_append, List.filter_append, hnotices, List.nil_append, hfirst,
    filter_truncated (· = .exit), filter_truncated (· = .exit), hsplit, List.map_append]
  unfold exits
  rw [List.filter_filter]
  simp only [Bool.and_self]

theorem acceptedOf_others (emits : List (BuildLogMessage × ℤ)) : ∃ kept notices,
    (acceptedOf o emits).filter (fun e => e.type ≠ .exit) = kept ++ notices ∧
      kept.length ≤ o.maxEntries ∧ notices.length ≤ 1 ∧
      ∀ n ∈ notices, ∃ now, n = State.capacityNotice o now := by
  have hnone : ((exits (overflow o emits)).map (State.truncated o)).filter
      (fun e => e.type ≠ .exit) = [] := by
    apply List.filter_eq_nil_iff.mpr
    intro e he
    obtain ⟨exit, hexit, rfl⟩ := List.mem_map.mp he
    have htype : exit.type = .exit := by simpa using (List.mem_filter.mp hexit).2
    simp [State.truncated, htype]
  refine ⟨((emits.take o.maxEntries).map fun e => State.truncated o e.1).filter
      (fun e => e.type ≠ .exit), ((overflow o emits).head?.toList.map fun e =>
      State.capacityNotice o e.2).filter (fun e => e.type ≠ .exit), ?_, ?_, ?_, ?_⟩
  · unfold acceptedOf
    rw [List.filter_append, List.filter_append, hnone, List.append_nil]
  · refine le_trans (List.length_filter_le _ _) ?_
    rw [List.length_map]
    exact List.length_take_le _ _
  · refine le_trans (List.length_filter_le _ _) ?_
    rw [List.length_map]
    cases (overflow o emits).head? <;> simp
  · intro n hn
    obtain ⟨e, -, rfl⟩ := List.mem_map.mp (List.mem_filter.mp hn).1
    exact ⟨e.2, rfl⟩

end

/-- However emits, the timer, `close` and the ends of the sends fall: what is accepted is sent once
and in order, in batches that are small enough and one at a time. What the limit lets through is
accepted, all entries that end the stream with it, and nothing of it is unsent when `close` has
resolved. -/
theorem build_log_publisher_delivers_in_order (o : BuildLogPublisherOptions) (s : State)
    (h : Reachable o s) :
    s.accepted = s.sent.flatMap BuildLogBatch.entries ++
        (s.inFlight.pending.flatMap BuildLogBatch.entries ++ s.buffer) ∧
      (∀ b ∈ s.sent, b.deploymentId = o.deploymentId ∧
        b.entries.length ≤ max 1 o.flushBatchSize) ∧
      s.inFlight.running.length ≤ 1 ∧
      s.accepted = acceptedOf o s.emits ∧
      s.accepted.filter (fun e => e.type = .exit) = (exits s.emits).map (State.truncated o) ∧
      (∃ kept notices, s.accepted.filter (fun e => e.type ≠ .exit) = kept ++ notices ∧
        kept.length ≤ o.maxEntries ∧ notices.length ≤ 1 ∧
        ∀ n ∈ notices, ∃ now, n = State.capacityNotice o now) ∧
      (.resolved ∈ s.closings → s.accepted = s.sent.flatMap BuildLogBatch.entries ∧
        s.inFlight.running = []) := by
  obtain ⟨hflow, hwaiting, hadmitted⟩ := h.inv
  have htasks := hflow.ordered.tasks
  have haccounted : s.accepted = s.sent.flatMap BuildLogBatch.entries ++
      (s.inFlight.pending.flatMap BuildLogBatch.entries ++ s.buffer) := by
    rw [hflow.accounted, htasks, hflow.sent, List.flatMap_append, List.append_assoc]
  refine ⟨haccounted, fun b hb => hflow.batches b ?_, hflow.ordered.running_length,
    hadmitted.accepted, ?_, ?_, fun hresolved => ?_⟩
  · rw [htasks, ← hflow.sent]
    exact List.mem_append_left _ hb
  · rw [hadmitted.accepted]
    exact acceptedOf_exits s.emits
  · rw [hadmitted.accepted]
    exact acceptedOf_others s.emits
  · have hsettled : ∀ l ∈ s.inFlight, l.phase = .settled := hflow.closings _ hresolved
    have hempty : s.buffer = [] := by
      apply hwaiting.drained
      by_contra hopen
      rw [hwaiting.unclosed (by simpa using hopen)] at hresolved
      exact nomatch hresolved
    rw [haccounted, Chain.pending_settled hsettled, hempty]
    exact ⟨List.append_nil _, Chain.running_settled hsettled⟩

def short : BuildLogPublisherOptions := { deploymentId := "dep-4", maxEntries := 1 }

def shortLine : BuildLogMessage := { type := .stdout, line := some (units "one"), timestamp := 1 }

def shortExit : BuildLogMessage :=
  { type := .exit, timestamp := 2, success := some true, exitCode := some 0 }

def emitted : State :=
  let line : State := { State.emit short {} shortLine 1 with emits := [(shortLine, 1)] }
  { line.emit short shortExit 2 with emits := [(shortLine, 1), (shortExit, 2)] }

def lastBatch : BuildLogBatch := ⟨"dep-4", emitted.buffer⟩

def closing : State := emitted.close short

def closedDown : State :=
  { closing with
    inFlight := [] ++ ⟨lastBatch, .settled⟩ :: []
    sent := [] ++ [lastBatch]
    closings := [] ++ .resolved :: [] }

theorem closedDown_reachable : Reachable short closedDown := by
  have hemitted : Reachable short emitted :=
    .step (.step .initial (.emit {} shortLine 1)) (.emit _ shortExit 2)
  have hclosing : Reachable short closing := .step hemitted (.close _)
  have hsend : Reachable short { closing with
      inFlight := [] ++ ⟨lastBatch, .running⟩ :: [], sent := [] ++ [lastBatch] } :=
    .step hclosing (@Step.send short closing [] [] lastBatch rfl nofun)
  have hsettle : Reachable short { closing with
      inFlight := [] ++ ⟨lastBatch, .settled⟩ :: [], sent := [] ++ [lastBatch] } :=
    .step hsend (.settle false rfl)
  have hflushed : Reachable short { closing with
      inFlight := [] ++ ⟨lastBatch, .settled⟩ :: [], sent := [] ++ [lastBatch]
      closings := [] ++ .draining 1 :: [] } :=
    .step hsettle (@Step.flushed short _ [] [] 1 rfl (by rintro l ⟨⟩; rfl))
  exact .step hflushed (@Step.drained short _ [] [] 1 rfl (by rintro l ⟨⟩; rfl))

theorem build_log_publisher_delivers_in_order_closed :
    closedDown.accepted = closedDown.sent.flatMap BuildLogBatch.entries ∧
      exits closedDown.emits ≠ [] := by
  obtain ⟨-, -, -, -, -, -, hclosed⟩ :=
    build_log_publisher_delivers_in_order short closedDown closedDown_reachable
  exact ⟨(hclosed (by decide)).1, by decide⟩

end BuildLogPublisher

end NouvaAgent
