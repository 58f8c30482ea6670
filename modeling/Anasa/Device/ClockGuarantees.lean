import Anasa.Device.ClockInvariant

/-!
# The guarantees of the device clock

What holds in every state that an audio simulator can reach, however late its thread is woken and
however long a callback takes.

1. **Pace.** A callback is never early, lateness does not move the deadlines that follow, and the
   thread sleeps only after as many callbacks as there were periods.
2. **Stopping.** At most one callback begins after a stop is requested, and `stop` returns after a
   bounded number of steps of the thread.
-/

namespace Anasa

open Concurrency EventSystem AudioSimulator

variable {period : ℤ} {s s' : AudioSimulator}

/-! ## Reachable states -/

theorem clockInv_inductive : (simulatorSystem period).Inductive (ClockInv period) :=
  fun _ e _ h hnext => (h.later e.elapsed).step (simulatorSystem_step hnext)

theorem SimulatorReachable.inv (h : SimulatorReachable period s) : ClockInv period s := by
  obtain ⟨now, es, hrun⟩ := h
  exact clockInv_inductive.run (.init now) hrun

/-! ## Pace -/

/-- The callbacks of the latest session and its deadlines. -/
structure Paced (period : ℤ) (s : AudioSimulator) : Prop where
  /-- **No callback is early**: `n` others begin before it, and it begins after `n + 1` periods. -/
  never_early : ∀ (n : ℕ) (t : ℤ), s.history.begun.reverse[n]? = some t →
    s.history.startTime + (n + 1) * period ≤ t
  /-- **Lateness is not passed on**: the next deadline counts the callbacks that have returned. -/
  deadline : ∀ phase, s.thread = some phase → phase ≠ .starting → s.nextCallbackTime =
    s.history.startTime + (s.history.begun.length + 1 - phase.inCallback) * period
  /-- **None is skipped**: a thread that sleeps has made one callback for each period that was over
  when it last woke. -/
  caught_up : 0 < period → s.thread = some .sleeping → s.stopFlag = false → ∀ t ∈ s.wakeTime,
    (s.history.begun.length : ℤ) = (t - s.history.startTime) / period

theorem ClockInv.never_early (h : ClockInv period s) {n : ℕ} {t : ℤ}
    (ht : s.history.begun.reverse[n]? = some t) : s.history.startTime + (n + 1) * period ≤ t := by
  obtain ⟨hn, -⟩ := List.getElem?_eq_some_iff.mp ht
  rw [List.length_reverse] at hn
  rw [List.getElem?_reverse hn] at ht
  have hpaced := (h.paced _ _ ht).1
  have hcount : (s.history.begun.length : ℤ) - (s.history.begun.length - 1 - n : ℕ) = n + 1 := by
    omega
  rwa [hcount] at hpaced

/-- Whole periods, when a deadline has passed and the one after has not. -/
theorem periods_eq {start t : ℤ} {n : ℕ} (hperiod : 0 < period) (hpast : start + n * period ≤ t)
    (hnext : t < start + (n + 1) * period) : (n : ℤ) = (t - start) / period := by
  have hle : (n : ℤ) ≤ (t - start) / period := by
    rw [Int.le_ediv_iff_mul_le hperiod]
    linarith
  have hlt : (t - start) / period < n + 1 := by
    rw [Int.ediv_lt_iff_lt_mul hperiod]
    linarith
  omega

/-- **The pace of the clock.** -/
theorem simulatorRun_paced (h : SimulatorReachable period s) : Paced period s where
  never_early _ _ ht := h.inv.never_early ht
  deadline phase hthread hphase := (h.inv.phase phase hthread).deadline hphase
  caught_up hperiod hthread hgoing t ht := by
    have hphase := h.inv.phase _ hthread
    have hnext := hphase.caughtUp rfl hgoing t ht
    rw [hphase.deadline nofun] at hnext
    refine periods_eq hperiod (h.inv.counted t ht).1 ?_
    simpa [ClockPhase.inCallback] using hnext

/-- A clock with a period of ten that is woken fifteen late, after some events. -/
def clockAfter (es : List SimulatorEvent) : AudioSimulator :=
  ((simulatorSystem 10).run es { now := 100 }).getD { now := 100 }

theorem clockAfter_reachable {es : List SimulatorEvent}
    (h : ((simulatorSystem 10).run es { now := 100 }).isSome = true) :
    SimulatorReachable 10 (clockAfter es) := by
  refine ⟨100, es, ?_⟩
  obtain ⟨s, hs⟩ := Option.isSome_iff_exists.mp h
  unfold clockAfter
  rw [hs]
  rfl

/-- The thread takes some steps. -/
def clockSteps (n : ℕ) : List SimulatorEvent :=
  List.replicate n ⟨0, .clock { playing := true }⟩

/-- The thread sleeps until `110`, wakes at `125` and makes two callbacks. -/
def lateEvents : List SimulatorEvent :=
  ⟨0, .start true⟩ :: clockSteps 3 ++ ⟨25, .clock {}⟩ :: clockSteps 9

theorem simulatorRun_paced_late :
    Paced 10 (clockAfter (lateEvents ++ clockSteps 2)) ∧
      (clockAfter (lateEvents ++ clockSteps 2)).thread = some .sleeping ∧
      (clockAfter (lateEvents ++ clockSteps 2)).history.begun = [125, 125] ∧
      (clockAfter (lateEvents ++ clockSteps 2)).nextCallbackTime = 130 :=
  ⟨simulatorRun_paced (clockAfter_reachable (by decide +kernel)), by decide +kernel,
    by decide +kernel, by decide +kernel⟩

/-! ## Stopping -/

/-- Steps of the thread until it ends, once a stop is requested. -/
def ClockPhase.toEnd : ClockPhase → ℕ
  | .starting => 2
  | .checkingStop .loop => 1
  | .checkingStop .woken => 1
  | .checkingStop .catchUp => 2
  | .checkingEngine .loop => 3
  | .checkingEngine .woken => 6
  | .checkingEngine .catchUp => 5
  | .sleeping => 2
  | .reading => 5
  | .calling => 4
  | .processing _ => 3
  | .exited => 0

/-- Steps until `stop` returns. -/
def AudioSimulator.stopRank (s : AudioSimulator) : ℕ :=
  (s.thread.elim 0 ClockPhase.toEnd) + if s.stopping then 1 else 0

/-- A step of the thread, or the join of it. -/
def SimulatorEvent.isStopStep (e : SimulatorEvent) : Bool :=
  match e.action with
  | .join => true
  | .clock _ => true
  | _ => false

theorem ClockPhase.toEnd_le (phase : ClockPhase) : phase.toEnd ≤ 6 := by
  cases phase with
  | checkingStop check => cases check <;> decide
  | checkingEngine check => cases check <;> decide
  | processing callbackStart => exact (by decide : 3 ≤ 6)
  | _ => decide

theorem AudioSimulator.stopRank_le (s : AudioSimulator) : s.stopRank ≤ 7 := by
  have hthread : s.thread.elim 0 ClockPhase.toEnd ≤ 6 := by
    cases s.thread with
    | none => exact Nat.zero_le _
    | some phase => exact phase.toEnd_le
  unfold AudioSimulator.stopRank
  split <;> omega

/-- The thread goes on while `stop` waits for it. -/
theorem clockRank_thread {phase phase' : ClockPhase} (hphase : s.thread = some phase)
    (hphase' : s'.thread = some phase') (hstopping : s'.stopping = s.stopping)
    (hlt : phase'.toEnd < phase.toEnd) : 1 + s'.stopRank ≤ s.stopRank := by
  unfold AudioSimulator.stopRank
  rw [hphase, hphase', hstopping]
  show 1 + (phase'.toEnd + _) ≤ phase.toEnd + _
  omega

/-- **While `stop` waits** each step of the thread brings it closer to its end. -/
theorem clockRank_step {e : SimulatorEvent} (h : ClockInv period s) (hstopping : s.stopping = true)
    (hstep : SimulatorStep period s e.action s') :
    (if e.isStopStep then 1 else 0) + s'.stopRank ≤ s.stopRank := by
  obtain ⟨hstop, hstarted⟩ := h.stopping hstopping
  obtain ⟨elapsed, action⟩ := e
  cases hstep with
  | startIgnored made => simp [SimulatorEvent.isStopStep]
  | startFails hstopped => cases hstarted.symm.trans hstopped
  | starts hstopped => cases hstarted.symm.trans hstopped
  | stopIgnored hstopped => cases hstarted.symm.trans hstopped
  | stops => simp [SimulatorEvent.isStopStep, AudioSimulator.stopRank, hstopping]
  | joins hstopping hthread =>
    simp [SimulatorEvent.isStopStep, AudioSimulator.stopRank, hstopping]
  | requests => simp [SimulatorEvent.isStopStep, AudioSimulator.stopRank]
  | clears hstopped => cases hstarted.symm.trans hstopped
  | begins result hthread => exact clockRank_thread hthread rfl rfl (by decide)
  | passes result check hthread hgoing => cases hstop.symm.trans hgoing
  | leaves result check hthread =>
    rcases hthread with hthread | hthread <;> cases check <;>
      exact clockRank_thread hthread rfl rfl (by decide)
  | proceeds result check hthread =>
    cases check <;> exact clockRank_thread hthread rfl rfl (by decide)
  | wakes result hthread => exact clockRank_thread hthread rfl rfl (by decide)
  | reads result hthread => exact clockRank_thread hthread rfl rfl (by decide)
  | calls result hthread => exact clockRank_thread hthread rfl rfl (show 3 < 4 by decide)
  | returns result callbackStart hthread =>
    obtain ⟨callbacks, underruns, callbackMaxInUs, returned, heq⟩ :=
      finishCallback_eq s period callbackStart result
    rw [heq]
    refine clockRank_thread hthread rfl rfl ?_
    show _ < 3
    split <;> decide

/-- **`stop` never waits in vain**: the thread can go on, if need be after its deadline, or it has
ended. -/
theorem clockStop_enabled (period : ℤ) (hstopping : s.stopping = true) :
    ∃ e : SimulatorEvent, e.isStopStep = true ∧ (simulatorSystem period).Enabled s e := by
  cases hthread : s.thread with
  | none =>
    refine ⟨⟨0, .join⟩, rfl, ?_⟩
    show ((s.later 0).join).isSome
    unfold AudioSimulator.join AudioSimulator.later
    rw [if_pos hstopping, hthread]
    rfl
  | some phase =>
    cases phase with
    | exited =>
      refine ⟨⟨0, .join⟩, rfl, ?_⟩
      show ((s.later 0).join).isSome
      unfold AudioSimulator.join AudioSimulator.later
      rw [if_pos hstopping, hthread]
      rfl
    | sleeping =>
      refine ⟨⟨(s.nextCallbackTime - s.now).toNat, .clock {}⟩, rfl, ?_⟩
      show ((s.later _).clock period _).isSome
      unfold AudioSimulator.clock AudioSimulator.later
      rw [hthread]
      dsimp only
      rw [if_pos (by omega)]
      rfl
    | _ =>
      refine ⟨⟨0, .clock {}⟩, rfl, ?_⟩
      show ((s.later 0).clock period _).isSome
      unfold AudioSimulator.clock AudioSimulator.later
      rw [hthread]
      rfl

/-- `stop` waits, or it has left nothing behind. -/
def StopWaitsOrDone (s : AudioSimulator) : Prop :=
  s.stopping = true ∨ s.stopping = false ∧ s.thread = none ∧ s.started = false

theorem stopWaitsOrDone_step {e : SimulatorEvent} (he : e.isStopStep = true)
    (h : StopWaitsOrDone s) (hstep : SimulatorStep period s e.action s') : StopWaitsOrDone s' := by
  obtain ⟨elapsed, action⟩ := e
  have hwaits : s'.stopping = s.stopping → s.thread ≠ none → StopWaitsOrDone s' := by
    intro hsame hthread
    obtain hstopping | ⟨-, hnone, -⟩ := h
    · exact .inl (hsame.trans hstopping)
    · exact absurd hnone hthread
  have hsome : ∀ {phase : ClockPhase}, s.thread = some phase → s.thread ≠ none :=
    fun hphase hnone => by cases hphase.symm.trans hnone
  cases hstep with
  | joins => exact .inr ⟨rfl, rfl, rfl⟩
  | begins result hthread => exact hwaits rfl (hsome hthread)
  | passes result check hthread => exact hwaits rfl (hsome hthread)
  | leaves result check hthread =>
    have hne : s.thread ≠ none := by
      rcases hthread with hthread | hthread <;> exact hsome hthread
    cases check <;> exact hwaits rfl hne
  | proceeds result check hthread => cases check <;> exact hwaits rfl (hsome hthread)
  | wakes result hthread => exact hwaits rfl (hsome hthread)
  | reads result hthread => exact hwaits rfl (hsome hthread)
  | calls result hthread => exact hwaits rfl (hsome hthread)
  | returns result callbackStart hthread =>
    obtain ⟨callbacks, underruns, callbackMaxInUs, returned, heq⟩ :=
      finishCallback_eq s period callbackStart result
    exact hwaits (by rw [heq]) (hsome hthread)
  | _ => cases he

/-- What holds of a simulator that is stopped, or being stopped. -/
structure StopsInTime (period : ℤ) (s : AudioSimulator) : Prop where
  /-- **At most one callback** begins after a stop was requested, by the owner or by the engine. -/
  late : s.history.begunLate ≤ 1
  /-- The thread does not outlive its session. -/
  ended : s.started = false → s.thread = none
  goes_on : s.stopping = true →
    ∃ e : SimulatorEvent, e.isStopStep = true ∧ (simulatorSystem period).Enabled s e
  /-- `stop` joins the thread after at most six steps of it. -/
  bounded : ∀ es s', (simulatorSystem period).run es s = some s' →
    (simulatorSystem period).Throughout (fun s => s.stopping = true) es s →
      es.countP SimulatorEvent.isStopStep ≤ 7
  returns : s.stopping = true → ∃ es s', (∀ e ∈ es, e.isStopStep = true) ∧
    (simulatorSystem period).run es s = some s' ∧ s'.stopping = false ∧ s'.thread = none ∧
      s'.started = false

/-- **Stopping the clock.** -/
theorem simulatorRun_stops (h : SimulatorReachable period s) : StopsInTime period s := by
  have hamortized : (simulatorSystem period).Amortized (ClockInv period)
      (fun s => s.stopping = true) (fun _ => SimulatorEvent.isStopStep) (fun _ => 0)
      AudioSimulator.stopRank := by
    intro s e s' hs hstopping hnext
    rw [Nat.zero_add]
    exact clockRank_step (s := s.later e.elapsed) (hs.later e.elapsed) hstopping
      (simulatorSystem_step hnext)
  constructor
  case late => exact h.inv.late_le
  case ended => exact h.inv.thread_none
  case goes_on => exact clockStop_enabled period
  case bounded =>
    intro es s' hrun hduring
    have hcount := hamortized.count_le clockInv_inductive h.inv hduring hrun
    rw [count_eq_countP _ hrun, show (es.map fun _ => 0).sum = 0 by simp] at hcount
    have hrank := s.stopRank_le
    omega
  case returns =>
    intro hstopping
    obtain ⟨es, s', hes, hrun, hdone⟩ := hamortized.reaches clockInv_inductive (fun _ _ _ => rfl)
      (fun s _ hstopping => clockStop_enabled period hstopping) h.inv
    have hleft : StopWaitsOrDone s' := by
      refine hes.keeps (fun q e q' he hq hnext => ?_) (.inl hstopping) hrun
      exact stopWaitsOrDone_step he (s := q.later e.elapsed) hq (simulatorSystem_step hnext)
    obtain hstopping' | hleft := hleft
    · exact absurd hstopping' hdone
    · exact ⟨es, s', hes.forall_mem hrun, hrun, hleft⟩

/-- A stop is requested right before a callback, which begins all the same. -/
def lateStopEvents : List SimulatorEvent :=
  ⟨0, .start true⟩ :: clockSteps 3 ++ ⟨25, .clock {}⟩ :: clockSteps 3 ++ [⟨0, .stop⟩] ++ clockSteps 1

theorem simulatorRun_stops_late :
    StopsInTime 10 (clockAfter lateStopEvents) ∧
      (clockAfter lateStopEvents).stopping = true ∧
      (clockAfter lateStopEvents).history.begunLate = 1 :=
  ⟨simulatorRun_stops (clockAfter_reachable (by decide +kernel)), by decide +kernel,
    by decide +kernel⟩

end Anasa
