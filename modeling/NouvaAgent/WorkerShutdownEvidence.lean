import NouvaAgent.AgentHistory
import NouvaAgent.WorkerShutdown

namespace NouvaAgent.WorkerShutdown

open Text Interaction Agent Method

/-- The least time that a clock may show next which goes on by at least each wait. -/
def clockFloor : AgentHistory → Option ℤ
  | [] => none
  | ⟨.now, some time⟩ :: _ => some time
  | ⟨.sleep ms, _⟩ :: h => (clockFloor h).map (· + ms)
  | _ :: h => clockFloor h

def Advances (e : AgentEvent) (h : AgentHistory) : Prop :=
  ∀ time floor, e = ⟨.now, some time⟩ → clockFloor h = some floor → floor ≤ time

def requestedWaits : AgentHistory → ℤ
  | [] => 0
  | ⟨.sleep ms, _⟩ :: h => ms + requestedWaits h
  | _ :: h => requestedWaits h

def signals : AgentHistory → List String
  | [] => []
  | ⟨.request (.killContainer _ signal), _⟩ :: h => signal :: signals h
  | _ :: h => signals h

def lastLook : AgentHistory → Option Bool
  | [] => none
  | ⟨.request (.inspectContainer _), some (.ok found)⟩ :: _ =>
    some (found.any DockerContainerInspection.running)
  | _ :: h => lastLook h

def policyOff (identifier : String) (answer : Except CallError Unit) : AgentEvent :=
  ⟨.request (.updateContainerRestartPolicy identifier "no"), some answer⟩

/-- The container was found running, and then the clock showed that the grace period was over. -/
def GraceOver (stop : WorkerStop) (h : AgentHistory) : Prop :=
  ∃ startedAt time inspection before, h = ⟨.now, some time⟩ ::
      ⟨.request (.inspectContainer stop.identifier), some (.ok (some inspection))⟩ :: before ∧
    inspection.running = true ∧ firstReading before = some startedAt ∧
    startedAt + stop.policy.gracePeriodSeconds * 1000 ≤ time

/-- A signal is sent to the container once its restart policy is off, and the one after it, which is
the last, once the grace period is over. -/
def Orderly (stop : WorkerStop) (e : AgentEvent) (before : AgentHistory) : Prop :=
  ∀ nameOrId signal, e.call = .request (.killContainer nameOrId signal) →
    nameOrId = stop.identifier ∧ policyOff stop.identifier (.ok ()) ∈ before ∧
      (signals before = [] ∨
        (signals before).length = 1 ∧ signal = "SIGKILL" ∧ GraceOver stop before)

def Honest (stop : WorkerStop) (report : WorkerShutdownReport) (h : AgentHistory) : Prop :=
  match report.outcome with
  | .exited | .forced | .alreadyStopped => lastLook h = some false ∨
      ∃ error, policyOff stop.identifier (.error error) ∈ h ∧ error.status = some 404
  | .hung => lastLook h = some true
  | .unconfirmed => False

def longestWaits (stop : WorkerStop) : ℤ := stop.policy.gracePeriodSeconds * 1000 + 15000

structure Bounded (stop : WorkerStop) (h : AgentHistory) : Prop where
  orderly : Along (Orderly stop) h
  waits : requestedWaits h ≤ longestWaits stop

theorem signals_cons {e : AgentEvent} {h : AgentHistory}
    (he : ∀ nameOrId signal, e.call ≠ .request (.killContainer nameOrId signal)) :
    signals (e :: h) = signals h := by
  rcases e with ⟨c, r⟩
  cases c with
  | request q =>
    cases q with
    | killContainer nameOrId signal => exact absurd rfl (he nameOrId signal)
    | _ => rfl
  | _ => rfl

theorem orderly_cons {stop : WorkerStop} {e : AgentEvent} {h : AgentHistory}
    (he : ∀ nameOrId signal, e.call ≠ .request (.killContainer nameOrId signal))
    (ho : Along (Orderly stop) h) : Along (Orderly stop) (e :: h) :=
  ⟨fun nameOrId signal hc => absurd hc (he nameOrId signal), ho⟩

structure Stopping (stop : WorkerStop) (sent : List String) (startedAt : ℤ) (h : AgentHistory) :
    Prop where
  orderly : Along (Orderly stop) h
  off : policyOff stop.identifier (.ok ()) ∈ h
  sent : signals h = sent
  started : firstReading h = some startedAt

/-- What has been waited and what is left until the deadline stay within `limit`. -/
def Paced (limit deadline : ℤ) (h : AgentHistory) : Prop :=
  ∃ floor, clockFloor h = some floor ∧ requestedWaits h ≤ limit ∧
    requestedWaits h + (deadline - floor) ≤ limit

section

variable {σ : Type} {stop : WorkerStop} {sent : List String} {startedAt limit deadline : ℤ}
  {h : AgentHistory}

theorem Stopping.cons {e : AgentEvent} (hs : Stopping stop sent startedAt h)
    (he : ∀ nameOrId signal, e.call ≠ .request (.killContainer nameOrId signal)) :
    Stopping stop sent startedAt (e :: h) where
  orderly := orderly_cons he hs.orderly
  off := List.mem_cons_of_mem _ hs.off
  sent := (signals_cons he).trans hs.sent
  started := firstReading_cons hs.started

theorem Stopping.bounded (hs : Stopping stop sent startedAt h) (hl : limit ≤ longestWaits stop)
    (hw : requestedWaits h ≤ limit) : Bounded stop h :=
  ⟨hs.orderly, hw.trans hl⟩

theorem readRunningState_wp {identifier : String} {Q : Post Failure σ RunningState AgentHistory}
    {s : σ} (hcut : Q.cut (⟨.request (.inspectContainer identifier), none⟩ :: h))
    (herr : ∀ e f, Q.err f s (⟨.request (.inspectContainer identifier), some (.error e)⟩ :: h))
    (hok : ∀ found state, state.running = found.any DockerContainerInspection.running →
      Q.ok state s (⟨.request (.inspectContainer identifier), some (.ok found)⟩ :: h)) :
    (readRunningState identifier).wp (assuming Advances) Q s h := by
  refine (wp_bind _ _).mpr ((wp_request_assuming _).mpr ⟨fun _ => hcut, fun e _ => herr e _, ?_⟩)
  intro found _
  cases found with
  | none => exact hok none _ rfl
  | some inspection => exact hok (some inspection) _ rfl

def Waited (stop : WorkerStop) (startedAt deadline : ℤ) (state : Option RunningState)
    (h : AgentHistory) : Prop :=
  match state with
  | some _ => lastLook h = some false
  | none => ∃ time inspection before, h = ⟨.now, some time⟩ ::
      ⟨.request (.inspectContainer stop.identifier), some (.ok (some inspection))⟩ :: before ∧
    inspection.running = true ∧ firstReading before = some startedAt ∧ deadline ≤ time

theorem waitUntilStopped_wp (fuel : ℕ) (s : σ) (hs : Stopping stop sent startedAt h)
    (hp : Paced limit deadline h) (hl : limit ≤ longestWaits stop) :
    (waitUntilStopped stop.identifier deadline fuel).wp (assuming Advances)
      ⟨fun state _ h' => Stopping stop sent startedAt h' ∧ requestedWaits h' ≤ limit ∧
        Waited stop startedAt deadline state h',
        fun _ _ => Bounded stop, Bounded stop⟩ s h := by
  induction fuel generalizing h with
  | zero =>
    obtain ⟨_, _, hw, _⟩ := hp
    exact hs.bounded hl hw
  | succ fuel ih =>
    obtain ⟨floor, hfloor, hw, hleft⟩ := hp
    have hlook : ∀ answer, Stopping stop sent startedAt
        (⟨.request (.inspectContainer stop.identifier), answer⟩ :: h) :=
      fun answer => hs.cons (by simp)
    refine (wp_bind _ _).mpr (readRunningState_wp ((hlook _).bounded hl hw)
      (fun e _ => (hlook _).bounded hl hw) fun found state hstate => ?_)
    dsimp only
    split
    case isFalse hstopped =>
      refine ⟨hlook _, hw, ?_⟩
      rw [Bool.not_eq_true, hstate] at hstopped
      exact congrArg some hstopped
    case isTrue hrunning =>
      refine (wp_bind _ _).mpr (wp_now_assuming.mpr
        ⟨fun _ => ((hlook _).cons (by simp)).bounded hl hw, fun time htime => ?_⟩)
      have hgone : floor ≤ time := htime time floor rfl hfloor
      dsimp only
      split
      case isTrue hover =>
        rw [hstate] at hrunning
        obtain ⟨inspection, rfl⟩ : ∃ inspection, found = some inspection := by
          cases found with
          | none => cases hrunning
          | some inspection => exact ⟨inspection, rfl⟩
        exact ⟨(hlook _).cons (by simp), hw, time, inspection, h, rfl, hrunning, hs.started,
          by omega⟩
      case isFalse hearly =>
        have hwaits : requestedWaits h + min 500 (deadline - time) ≤ limit := by omega
        refine (wp_bind _ _).mpr ((wp_sleep_assuming _).mpr ⟨fun _ => ?_, fun _ => ?_⟩)
        · refine (((hlook _).cons (by simp)).cons (by simp)).bounded hl ?_
          calc min 500 (deadline - time) + requestedWaits h
              = requestedWaits h + min 500 (deadline - time) := add_comm _ _
            _ ≤ limit := hwaits
        · refine ih (((hlook _).cons (by simp)).cons (by simp))
            ⟨time + min 500 (deadline - time), rfl, ?_, ?_⟩
          · rw [add_comm] at hwaits
            exact hwaits
          · show min 500 (deadline - time) + requestedWaits h +
              (deadline - (time + min 500 (deadline - time))) ≤ limit
            omega

theorem Bounded.now {time : Option ℤ} (hb : Bounded stop h) : Bounded stop (⟨.now, time⟩ :: h) :=
  ⟨orderly_cons (by simp) hb.orderly, hb.waits⟩

theorem Bounded.request {r : Request} {answer : Option (Except CallError r.Result)}
    (hb : Bounded stop h) (hr : ∀ nameOrId signal, r ≠ .killContainer nameOrId signal) :
    Bounded stop (⟨.request r, answer⟩ :: h) :=
  ⟨orderly_cons (fun nameOrId signal hc => hr nameOrId signal (AgentCall.request.inj hc))
    hb.orderly, hb.waits⟩

theorem report_wp {signal : String} {outcome : WorkerShutdownOutcome} {exitCode : Option ℤ} (s : σ)
    (hb : Bounded stop h)
    (hh : ∀ report time, report.outcome = outcome → Honest stop report (⟨.now, some time⟩ :: h)) :
    (stop.report startedAt signal outcome exitCode).wp (assuming Advances)
      (Post.keeping (Bounded stop) (Honest stop)) s h := by
  refine (wp_bind _ _).mpr (wp_now_assuming.mpr ⟨fun _ => hb.now, fun time _ => ?_⟩)
  exact ⟨hb.now, hh _ time rfl⟩

theorem Stopping.kill {signal : String} {answer : Option (Except CallError Bool)}
    (hs : Stopping stop sent startedAt h)
    (ho : sent = [] ∨ sent.length = 1 ∧ signal = "SIGKILL" ∧ GraceOver stop h) :
    Stopping stop (signal :: sent) startedAt
      (⟨.request (.killContainer stop.identifier signal), answer⟩ :: h) where
  orderly := by
    refine ⟨fun nameOrId signal' hc => ?_, hs.orderly⟩
    cases hc
    exact ⟨rfl, hs.off, hs.sent ▸ ho⟩
  off := List.mem_cons_of_mem _ hs.off
  sent := congrArg (signal :: ·) hs.sent
  started := hs.started

theorem Waited.graceOver (hd : deadline = startedAt + stop.policy.gracePeriodSeconds * 1000)
    (hw : Waited stop startedAt deadline none h) : GraceOver stop h := by
  obtain ⟨time, inspection, before, rfl, hrunning, hfirst, hpast⟩ := hw
  exact ⟨startedAt, time, inspection, before, rfl, hrunning, hfirst, hd ▸ hpast⟩

theorem Waited.lastLook (hw : Waited stop startedAt deadline none h) : lastLook h = some true := by
  obtain ⟨time, inspection, before, rfl, hrunning, -, -⟩ := hw
  exact congrArg some hrunning

theorem kill_wp {signal : String} (fuel : ℕ) (s : σ) (hs : Stopping stop [signal] startedAt h)
    (hw : requestedWaits h ≤ stop.policy.gracePeriodSeconds * 1000) (hg : GraceOver stop h) :
    (stop.kill fuel startedAt signal).wp (assuming Advances)
      (Post.keeping (Bounded stop) (Honest stop)) s h := by
  have hlimit : requestedWaits h ≤ longestWaits stop := by
    unfold longestWaits
    omega
  have hkill : ∀ answer, Stopping stop ["SIGKILL", signal] startedAt
      (⟨.request (.killContainer stop.identifier "SIGKILL"), answer⟩ :: h) :=
    fun answer => hs.kill (.inr ⟨rfl, rfl, hg⟩)
  refine (wp_bind _ _).mpr ((wp_request_assuming _).mpr
    ⟨fun _ => (hkill _).bounded le_rfl hlimit, fun e _ => (hkill _).bounded le_rfl hlimit,
      fun alive _ => ?_⟩)
  refine (wp_bind _ _).mpr (wp_now_assuming.mpr
    ⟨fun _ => ((hkill _).bounded le_rfl hlimit).now, fun time _ => ?_⟩)
  have hpaced : Paced (longestWaits stop) (time + 15000) (⟨.now, some time⟩ ::
      ⟨.request (.killContainer stop.identifier "SIGKILL"), some (.ok alive)⟩ :: h) := by
    refine ⟨time, rfl, hlimit, ?_⟩
    show requestedWaits h + (time + 15000 - time) ≤ longestWaits stop
    unfold longestWaits
    omega
  refine wp_bind_of (waitUntilStopped_wp fuel s ((hkill _).cons (by simp)) hpaced le_rfl) ?_
  rintro (_ | state) s h' ⟨hs', hw', hwaited⟩
  · refine report_wp s (hs'.bounded le_rfl hw') fun report time ho => ?_
    unfold Honest
    rw [ho]
    exact hwaited.lastLook
  · refine report_wp s (hs'.bounded le_rfl hw') fun report time ho => ?_
    unfold Honest
    rw [ho]
    exact .inl hwaited

theorem signalled_wp {signal : String} (fuel : ℕ) (s : σ) (hs : Stopping stop [] startedAt h)
    (hfloor : clockFloor h = some startedAt) (hw : requestedWaits h = 0) :
    (stop.signalled fuel startedAt signal).wp (assuming Advances)
      (Post.keeping (Bounded stop) (Honest stop)) s h := by
  have hlimit : (stop.policy.gracePeriodSeconds : ℤ) * 1000 ≤ longestWaits stop := by
    unfold longestWaits
    omega
  have hkill : ∀ answer, Stopping stop [signal] startedAt
      (⟨.request (.killContainer stop.identifier signal), answer⟩ :: h) :=
    fun answer => hs.kill (.inl rfl)
  have hnone : requestedWaits h ≤ stop.policy.gracePeriodSeconds * 1000 := by omega
  refine (wp_bind _ _).mpr ((wp_request_assuming _).mpr
    ⟨fun _ => (hkill _).bounded hlimit hnone, fun e _ => (hkill _).bounded hlimit hnone,
      fun alive _ => ?_⟩)
  have hpaced : Paced (stop.policy.gracePeriodSeconds * 1000)
      (startedAt + stop.policy.gracePeriodSeconds * 1000)
      (⟨.request (.killContainer stop.identifier signal), some (.ok alive)⟩ :: h) := by
    refine ⟨startedAt, hfloor, hnone, ?_⟩
    show requestedWaits h + (startedAt + stop.policy.gracePeriodSeconds * 1000 - startedAt) ≤ _
    omega
  refine wp_bind_of (waitUntilStopped_wp fuel s (hkill _) hpaced hlimit) ?_
  rintro (_ | state) s h' ⟨hs', hw', hwaited⟩
  · exact kill_wp fuel s hs' hw' (hwaited.graceOver rfl)
  · refine report_wp s (hs'.bounded hlimit hw') fun report time ho => ?_
    unfold Honest
    rw [ho]
    exact .inl hwaited

theorem stopWorkerContainerGracefully_wp (fuel : ℕ) (stop : WorkerStop) (s : σ) :
    (stopWorkerContainerGracefully fuel stop).wp (assuming Advances)
      (Post.keeping (Bounded stop) (Honest stop)) s [] := by
  have hstart : ∀ time, Bounded stop [⟨.now, time⟩] := by
    refine fun time => ⟨orderly_cons (by simp) trivial, ?_⟩
    show (0 : ℤ) ≤ longestWaits stop
    unfold longestWaits
    omega
  refine (wp_bind _ _).mpr (wp_now_assuming.mpr ⟨fun _ => hstart _, fun startedAt _ => ?_⟩)
  have hlook : ∀ answer, Bounded stop [⟨.request (.inspectContainer stop.identifier), answer⟩,
      ⟨.now, some startedAt⟩] := fun answer => (hstart _).request (by simp)
  refine (wp_bind _ _).mpr (readRunningState_wp (hlook _) (fun e _ => hlook _)
    fun found state hstate => ?_)
  dsimp only
  split
  case isFalse hstopped =>
    refine report_wp s (hlook _) fun report time ho => ?_
    unfold Honest
    rw [ho]
    rw [Bool.not_eq_true, hstate] at hstopped
    exact .inl (congrArg some hstopped)
  case isTrue hrunning =>
    have hoff : ∀ answer, Bounded stop [⟨.request (.updateContainerRestartPolicy stop.identifier
        "no"), answer⟩, ⟨.request (.inspectContainer stop.identifier), some (.ok found)⟩,
        ⟨.now, some startedAt⟩] := fun answer => (hlook _).request (by simp)
    refine (wp_bind _ _).mpr ((wp_settle _).mpr ((wp_request_assuming _).mpr
      ⟨fun _ => hoff _, fun e _ => ?_, fun _ _ => ?_⟩))
    · by_cases hgone : (Failure.call e).status = some 404
      · dsimp only
        rw [if_pos hgone]
        refine report_wp s (hoff _) fun report time ho => ?_
        unfold Honest
        rw [ho]
        exact .inr ⟨e, by simp [policyOff], hgone⟩
      · dsimp only
        rw [if_neg hgone]
        exact hoff _
    · exact signalled_wp fuel s ⟨(hoff _).orderly, List.mem_cons_self, rfl, rfl⟩ rfl rfl

end

/-- On any clock that goes on by at least each wait, whatever Docker answers: the signals come in
order, a report says what the last look at the container showed, and the waits are within bounds. -/
theorem stopWorkerContainerGracefully_evidence {σ : Type} (env : AgentEnvironment) (fuel : ℕ)
    (stop : WorkerStop) (s : σ)
    (hclock : Along Advances ((stopWorkerContainerGracefully fuel stop s).run env []).2) :
    (∀ later e before, ((stopWorkerContainerGracefully fuel stop s).run env []).2 =
      later ++ e :: before → Orderly stop e before) ∧
    (∀ report s', ((stopWorkerContainerGracefully fuel stop s).run env []).1 =
      .done (.ok report, s') →
        Honest stop report ((stopWorkerContainerGracefully fuel stop s).run env []).2) ∧
    requestedWaits ((stopWorkerContainerGracefully fuel stop s).run env []).2 ≤
      longestWaits stop := by
  have hrun := Program.wp_sound (stopWorkerContainerGracefully_wp fuel stop s)
    (Program.run_exec env _ [] hclock)
  generalize (stopWorkerContainerGracefully fuel stop s).run env [] = run at hrun
  obtain ⟨outcome, h⟩ := run
  have hbounded : Bounded stop h := by
    rcases outcome with ⟨_ | report, s'⟩ | _
    · exact hrun
    · exact hrun.1
    · exact hrun
  refine ⟨along_iff.mp hbounded.orderly, ?_, hbounded.waits⟩
  rintro report s' rfl
  exact hrun.2

def stubbornStop : WorkerStop :=
  ⟨"worker", "worker", .previous, ⟨none, 1, by decide, .overlap⟩⟩

def stubbornWorker : AgentEnvironment where
  answer h
    | .request r => some (.ok (wellAnswer (fun name => some ⟨name, name, none, none,
        some ⟨some (!(signals h).contains "SIGKILL"), none, some 137, none, none, none, none⟩,
        none, none, none, none⟩) (.run 1) r))
    | .now => some ((clockFloor h).getD 0)
    | .sleep _ => some ()
  pick _ := 0

theorem stubbornWorker_advances (h : AgentHistory) (c : AgentCall) :
    Advances ⟨c, stubbornWorker.answer h c⟩ h := by
  intro time floor he hfloor
  cases c with
  | now =>
    have htime : (clockFloor h).getD 0 = time := by
      simpa [stubbornWorker] using he
    rw [hfloor] at htime
    exact htime.le
  | request r => cases congrArg Event.call he
  | sleep ms => cases congrArg Event.call he

theorem stopWorkerContainerGracefully_evidence_stubborn :
    ((stopWorkerContainerGracefully 3 stubbornStop ()).run stubbornWorker []).1 =
      .done (.ok ⟨"worker", .previous, "SIGTERM", 1, .forced, some 137, 1000⟩, ()) ∧
    Honest stubbornStop ⟨"worker", .previous, "SIGTERM", 1, .forced, some 137, 1000⟩
      ((stopWorkerContainerGracefully 3 stubbornStop ()).run stubbornWorker []).2 ∧
    requestedWaits ((stopWorkerContainerGracefully 3 stubbornStop ()).run stubbornWorker []).2 ≤
      16000 := by
  have hdone : ((stopWorkerContainerGracefully 3 stubbornStop ()).run stubbornWorker []).1 =
      .done (.ok ⟨"worker", .previous, "SIGTERM", 1, .forced, some 137, 1000⟩, ()) := by
    decide +kernel
  obtain ⟨-, hhonest, hwaits⟩ := stopWorkerContainerGracefully_evidence stubbornWorker 3
    stubbornStop () (Program.run_along stubbornWorker_advances _ trivial)
  exact ⟨hdone, hhonest _ _ hdone, hwaits⟩

end NouvaAgent.WorkerShutdown
