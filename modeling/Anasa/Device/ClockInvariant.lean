import Mathlib.Tactic.Ring
import Mathlib.Tactic.Linarith
import Anasa.Model.AudioSimulator

/-!
# What the device clock keeps

`SimulatorStep` lists what each event may do. `ClockInv` is kept by all of them: deadlines are whole
periods after the first reading of the clock, a callback begins when its deadline has passed, the
thread sleeps only when it has caught up, and it looks for a stop before each callback.
-/

namespace Anasa

open Concurrency AudioSimulator

/-! ## Steps -/

/-- **What each event may do**, once the time it took has passed. -/
inductive SimulatorStep (period : ℤ) (s : AudioSimulator) :
    SimulatorAction → AudioSimulator → Prop where
  | startIgnored (made : Bool) (hstarted : s.started = true) : SimulatorStep period s (.start made) s
  | startFails (hstarted : s.started = false) :
    SimulatorStep period s (.start false) { s with stopRequested := false }
  | starts (hstarted : s.started = false) (hstopping : s.stopping = false) :
    SimulatorStep period s (.start true) { s with
      thread := some .starting
      wakeTime := none
      stopRequested := false
      started := true
      history.begun := []
      history.begunLate := 0 }
  | stopIgnored (hstarted : s.started = false) : SimulatorStep period s .stop s
  | stops (hstarted : s.started = true) :
    SimulatorStep period s .stop { s with stopRequested := true, stopping := true }
  | joins (hstopping : s.stopping = true) (hthread : s.thread = none ∨ s.thread = some .exited) :
    SimulatorStep period s .join { s with thread := none, started := false, stopping := false }
  | requests : SimulatorStep period s .requestEngineStop { s with engineStop := true }
  | clears (hstarted : s.started = false) :
    SimulatorStep period s .clearEngineStop { s with engineStop := false }
  | begins (result : AudioProcessResult) (hthread : s.thread = some .starting) :
    SimulatorStep period s (.clock result) { s.goOn (.checkingStop .loop) with
      nextCallbackTime := s.now + period
      history.startTime := s.now }
  | passes (result : AudioProcessResult) (check : StopCheck)
    (hthread : s.thread = some (.checkingStop check)) (hgoing : s.stopRequested = false) :
    SimulatorStep period s (.clock result) (s.goOn (.checkingEngine check))
  | leaves (result : AudioProcessResult) (check : StopCheck)
    (hthread : s.thread = some (.checkingStop check) ∨ s.thread = some (.checkingEngine check))
    (hstop : s.stopFlag = true) : SimulatorStep period s (.clock result) (s.leave check)
  | proceeds (result : AudioProcessResult) (check : StopCheck)
    (hthread : s.thread = some (.checkingEngine check)) (hgoing : s.engineStop = false) :
    SimulatorStep period s (.clock result) (s.proceed check)
  | wakes (result : AudioProcessResult) (hthread : s.thread = some .sleeping)
    (hdue : s.nextCallbackTime ≤ s.now) :
    SimulatorStep period s (.clock result) (s.goOn (.checkingStop .woken))
  | reads (result : AudioProcessResult) (hthread : s.thread = some .reading) :
    SimulatorStep period s (.clock result) { s.goOn .calling with wakeTime := some s.now }
  | calls (result : AudioProcessResult) (hthread : s.thread = some .calling) :
    SimulatorStep period s (.clock result) { s.goOn (.processing s.now) with
      history.begun := s.now :: s.history.begun
      history.begunLate := s.history.begunLate + if s.stopFlag then 1 else 0 }
  | returns (result : AudioProcessResult) (callbackStart : ℤ)
    (hthread : s.thread = some (.processing callbackStart)) :
    SimulatorStep period s (.clock result) (s.finishCallback period callbackStart result)

variable {period : ℤ} {s s' : AudioSimulator}

theorem clock_step {result : AudioProcessResult} (h : s.clock period result = some s') :
    SimulatorStep period s (.clock result) s' := by
  unfold AudioSimulator.clock at h
  split at h
  · cases h
  · rename_i hthread
    cases h
    exact .begins result hthread
  · rename_i check hthread
    split at h
    · rename_i hstop
      cases h
      exact .leaves result check (.inl hthread) (by simp [stopFlag, hstop])
    · rename_i hgoing
      cases h
      exact .passes result check hthread (Bool.eq_false_iff.mpr hgoing)
  · rename_i check hthread
    split at h
    · rename_i hstop
      cases h
      exact .leaves result check (.inr hthread) (by simp [stopFlag, hstop])
    · rename_i hgoing
      cases h
      exact .proceeds result check hthread (Bool.eq_false_iff.mpr hgoing)
  · rename_i hthread
    split at h
    · cases h
      exact .wakes result hthread ‹_›
    · cases h
  · rename_i hthread
    cases h
    exact .reads result hthread
  · rename_i hthread
    cases h
    exact .calls result hthread
  · rename_i callbackStart hthread
    cases h
    exact .returns result callbackStart hthread
  · cases h

theorem act_step {action : SimulatorAction} (h : s.act period action = some s') :
    SimulatorStep period s action s' := by
  cases action with
  | start made =>
    change s.start made = some s' at h
    unfold AudioSimulator.start at h
    split at h
    · cases h
    · rename_i hstopping
      split at h
      · rename_i hstarted
        cases h
        exact .startIgnored made hstarted
      · rename_i hstarted
        dsimp only at h
        split at h
        · rename_i hmade
          cases h
          subst hmade
          exact .starts (Bool.eq_false_iff.mpr hstarted) (Bool.eq_false_iff.mpr hstopping)
        · rename_i hmade
          cases h
          obtain rfl := Bool.eq_false_iff.mpr hmade
          exact .startFails (Bool.eq_false_iff.mpr hstarted)
  | stop =>
    change s.stop = some s' at h
    unfold AudioSimulator.stop at h
    split at h
    · cases h
    · split at h
      · rename_i hstarted
        cases h
        exact .stopIgnored (by simpa using hstarted)
      · rename_i hstarted
        cases h
        exact .stops (by simpa using hstarted)
  | join =>
    change s.join = some s' at h
    unfold AudioSimulator.join at h
    split at h
    · rename_i hstopping
      split at h
      · rename_i hthread
        cases h
        have hjoins : SimulatorStep period s .join
            { s with thread := none, started := false, stopping := false } :=
          .joins hstopping (.inl hthread)
        rwa [← hthread] at hjoins
      · rename_i hthread
        cases h
        exact .joins hstopping (.inr hthread)
      · cases h
    · cases h
  | requestEngineStop =>
    cases h
    exact .requests
  | clearEngineStop =>
    change (if s.started then none else some { s with engineStop := false }) = some s' at h
    split at h
    · cases h
    · rename_i hstarted
      cases h
      exact .clears (Bool.eq_false_iff.mpr hstarted)
  | clock result => exact clock_step h

/-- The list is complete. -/
theorem simulatorSystem_step {e : SimulatorEvent} (h : (simulatorSystem period).next s e = some s') :
    SimulatorStep period (s.later e.elapsed) e.action s' := act_step h

/-! ## The end of a callback -/

/-- Counting a callback changes the two counters only. -/
theorem countCallback_eq (s : AudioSimulator) (result : AudioProcessResult) :
    ∃ callbacks underruns, s.countCallback result =
      { s with callbacks := callbacks, underruns := underruns } := by
  unfold AudioSimulator.countCallback
  split
  · exact ⟨s.callbacks, s.underruns, rfl⟩
  · dsimp only
    split
    · exact ⟨s.callbacks + 1, s.underruns + 1, rfl⟩
    · exact ⟨s.callbacks + 1, s.underruns, rfl⟩

/-- **The end of a callback**: the next deadline is one period later, and the thread catches up if it
had passed when the thread last woke. -/
theorem finishCallback_eq (s : AudioSimulator) (period callbackStart : ℤ)
    (result : AudioProcessResult) :
    ∃ callbacks underruns callbackMaxInUs returned,
      s.finishCallback period callbackStart result = { s with
        thread := some (.checkingStop
          (if ∃ t ∈ s.wakeTime, s.nextCallbackTime + period ≤ t then .catchUp else .loop))
        nextCallbackTime := s.nextCallbackTime + period
        callbacks := callbacks
        underruns := underruns
        callbackMaxInUs := callbackMaxInUs
        history.returned := returned } := by
  obtain ⟨callbacks, underruns, hcount⟩ := countCallback_eq s result
  unfold AudioSimulator.finishCallback
  rw [hcount]
  dsimp only
  split
  · exact ⟨callbacks, underruns, _, _, rfl⟩
  · exact ⟨callbacks, underruns, _, _, rfl⟩

/-- The request of the engine to stop is taken back by `clearEngineStop` only. -/
theorem SimulatorStep.engineStop {action : SimulatorAction} (h : SimulatorStep period s action s')
    (hclear : action ≠ .clearEngineStop) (hstop : s.engineStop = true) : s'.engineStop = true := by
  cases h with
  | requests => rfl
  | clears => exact absurd rfl hclear
  | leaves result check => cases check <;> exact hstop
  | proceeds result check => cases check <;> exact hstop
  | returns result callbackStart =>
    obtain ⟨callbacks, underruns, callbackMaxInUs, returned, heq⟩ :=
      finishCallback_eq s period callbackStart result
    rw [heq]
    exact hstop
  | _ => exact hstop

/-! ## The invariant -/

/-- A callback has begun whose period is still to be counted. -/
def ClockPhase.inCallback : ClockPhase → ℤ
  | .processing _ => 1
  | _ => 0

/-- The thread goes on when a deadline has passed. -/
def ClockPhase.due : ClockPhase → Bool
  | .checkingStop check => check ≠ .loop
  | .checkingEngine check => check ≠ .loop
  | .reading => true
  | .calling => true
  | _ => false

/-- The deadline had passed when the thread last woke. -/
def ClockPhase.catchesUp : ClockPhase → Bool
  | .checkingStop check => check = .catchUp
  | .checkingEngine check => check = .catchUp
  | .calling => true
  | _ => false

/-- The thread has made the callbacks that were due when it last woke. -/
def ClockPhase.caughtUp : ClockPhase → Bool
  | .checkingStop check => check ≠ .catchUp
  | .checkingEngine check => check ≠ .catchUp
  | .sleeping => true
  | .reading => true
  | _ => false

/-- The thread has looked for a stop and found none, or it has just begun. -/
def ClockPhase.passed : ClockPhase → Bool
  | .starting => true
  | .sleeping => true
  | .reading => true
  | .calling => true
  | _ => false

/-- What holds when the thread is in a phase. -/
structure PhaseInv (period : ℤ) (s : AudioSimulator) (phase : ClockPhase) : Prop where
  starting : phase = .starting → s.wakeTime = none
  began : phase ≠ .starting → s.history.startTime ≤ s.now
  /-- Deadlines are whole periods after the first reading of the clock. -/
  deadline : phase ≠ .starting → s.nextCallbackTime =
    s.history.startTime + (s.history.begun.length + 1 - phase.inCallback) * period
  due : phase.due = true → s.nextCallbackTime ≤ s.now
  catchesUp : phase.catchesUp = true → ∃ t ∈ s.wakeTime, s.nextCallbackTime ≤ t
  caughtUp : phase.caughtUp = true → s.stopFlag = false → ∀ t ∈ s.wakeTime, t < s.nextCallbackTime
  late_flag : s.history.begunLate ≠ 0 → s.stopFlag = true
  late_engine : ∀ check, phase = .checkingEngine check → s.history.begunLate ≠ 0 →
    s.engineStop = true
  late_passed : phase.passed = true → s.history.begunLate = 0
  exited : phase = .exited → s.stopFlag = true

/-- What the metrics say of the callbacks of all sessions. -/
structure MetricsInv (callbacks underruns callbackMaxInUs : ℤ) (returned : List CallbackRecord) :
    Prop where
  callbacks : callbacks = returned.countP fun c => c.result.playing
  underruns : underruns = returned.countP fun c => c.result.playing && c.result.underrun
  callbackMaxInUs :
    callbackMaxInUs = (returned.map CallbackRecord.durationInUsecs).foldr max 0

structure ClockInv (period : ℤ) (s : AudioSimulator) : Prop where
  started : s.started = s.thread.isSome
  stopping : s.stopping = true → s.stopRequested = true ∧ s.started = true
  fresh : s.wakeTime = none → s.history.begun = []
  /-- The callback with `n` others before it begins after `n + 1` periods. -/
  paced : ∀ (i : ℕ) (t : ℤ), s.history.begun[i]? = some t →
    s.history.startTime + (s.history.begun.length - i) * period ≤ t ∧ t ≤ s.now
  /-- The callbacks that have begun were due when the thread last woke. -/
  counted : ∀ t ∈ s.wakeTime, s.history.startTime + s.history.begun.length * period ≤ t ∧ t ≤ s.now
  late_le : s.history.begunLate ≤ 1
  phase : ∀ phase, s.thread = some phase → PhaseInv period s phase
  metrics : MetricsInv s.callbacks s.underruns s.callbackMaxInUs s.history.returned

/-- The end of a callback is counted. -/
theorem MetricsInv.returns
    (h : MetricsInv s.callbacks s.underruns s.callbackMaxInUs s.history.returned)
    (period callbackStart : ℤ) (result : AudioProcessResult) :
    MetricsInv (s.finishCallback period callbackStart result).callbacks
      (s.finishCallback period callbackStart result).underruns
      (s.finishCallback period callbackStart result).callbackMaxInUs
      (s.finishCallback period callbackStart result).history.returned := by
  obtain ⟨playing, underrun⟩ := result
  set duration := (s.now - callbackStart) / 1000
  have hcounted : MetricsInv (s.countCallback ⟨playing, underrun⟩).callbacks
      (s.countCallback ⟨playing, underrun⟩).underruns (max duration s.callbackMaxInUs)
      (⟨⟨playing, underrun⟩, duration⟩ :: s.history.returned) := by
    refine ⟨?_, ?_, ?_⟩
    · rw [List.countP_cons, Nat.cast_add, ← h.callbacks]
      cases playing <;> cases underrun <;> simp [AudioSimulator.countCallback]
    · rw [List.countP_cons, Nat.cast_add, ← h.underruns]
      cases playing <;> cases underrun <;> simp [AudioSimulator.countCallback]
    · rw [List.map_cons, List.foldr_cons, ← h.callbackMaxInUs]
  have hmax : (if s.callbackMaxInUs > duration then s.callbackMaxInUs else duration) =
      max duration s.callbackMaxInUs := by
    split <;> omega
  rw [← hmax] at hcounted
  obtain ⟨callbacks, underruns, hcount⟩ := countCallback_eq s ⟨playing, underrun⟩
  unfold AudioSimulator.finishCallback
  rw [hcount] at hcounted ⊢
  dsimp only
  split <;> exact hcounted

/-! ### Phases -/

namespace PhaseInv

variable {phase : ClockPhase} {check : StopCheck}

theorem later (h : PhaseInv period s phase) (elapsed : ℕ) :
    PhaseInv period (s.later elapsed) phase :=
  have hle : s.now ≤ (s.later elapsed).now := Int.le_add_of_nonneg_right (Int.natCast_nonneg _)
  { h with
    began := fun hphase => (h.began hphase).trans hle
    due := fun hdue => (h.due hdue).trans hle }

/-- The first flag is not set. -/
theorem passes (h : PhaseInv period s (.checkingStop check)) (hgoing : s.stopRequested = false) :
    PhaseInv period s (.checkingEngine check) where
  starting := nofun
  began _ := h.began nofun
  deadline _ := h.deadline nofun
  due := h.due
  catchesUp := h.catchesUp
  caughtUp := h.caughtUp
  late_flag := h.late_flag
  late_engine _ _ hlate := by
    have hflag := h.late_flag hlate
    rwa [stopFlag, hgoing, Bool.false_or] at hflag
  late_passed := nofun
  exited := nofun

/-- A check has found a stop, and the thread looks for it in the outer loop, or it ends. -/
theorem leaves {phase' : ClockPhase} (hbegan : s.history.startTime ≤ s.now)
    (hdeadline : s.nextCallbackTime =
      s.history.startTime + (s.history.begun.length + 1) * period)
    (hstop : s.stopFlag = true) (h : phase' = .exited ∨ phase' = .checkingStop .loop) :
    PhaseInv period s phase' where
  starting := by rcases h with rfl | rfl <;> nofun
  began _ := hbegan
  deadline _ := by rcases h with rfl | rfl <;> simpa [ClockPhase.inCallback] using hdeadline
  due := by rcases h with rfl | rfl <;> simp [ClockPhase.due]
  catchesUp := by rcases h with rfl | rfl <;> simp [ClockPhase.catchesUp]
  caughtUp _ hgoing := absurd hstop (Bool.eq_false_iff.mp hgoing)
  late_flag _ := hstop
  late_engine := by rcases h with rfl | rfl <;> nofun
  late_passed := by rcases h with rfl | rfl <;> simp [ClockPhase.passed]
  exited _ := hstop

/-- A check has found no stop. -/
theorem proceeds (h : PhaseInv period s (.checkingEngine check)) (hgoing : s.engineStop = false) :
    ∃ phase, s.proceed check = s.goOn phase ∧ PhaseInv period s phase := by
  have hlate : s.history.begunLate = 0 := by
    by_contra hno
    exact Bool.eq_false_iff.mp hgoing (h.late_engine check rfl hno)
  cases check with
  | loop =>
    exact ⟨.sleeping, rfl, nofun, fun _ => h.began nofun, fun _ => h.deadline nofun, nofun, nofun,
      h.caughtUp, h.late_flag, nofun, fun _ => hlate, nofun⟩
  | woken =>
    exact ⟨.reading, rfl, nofun, fun _ => h.began nofun, fun _ => h.deadline nofun, h.due, nofun,
      h.caughtUp, h.late_flag, nofun, fun _ => hlate, nofun⟩
  | catchUp =>
    exact ⟨.calling, rfl, nofun, fun _ => h.began nofun, fun _ => h.deadline nofun, h.due,
      h.catchesUp, nofun, h.late_flag, nofun, fun _ => hlate, nofun⟩

theorem wakes (h : PhaseInv period s .sleeping) (hdue : s.nextCallbackTime ≤ s.now) :
    PhaseInv period s (.checkingStop .woken) :=
  ⟨nofun, fun _ => h.began nofun, fun _ => h.deadline nofun, fun _ => hdue, nofun, h.caughtUp,
    h.late_flag, nofun, nofun, nofun⟩

end PhaseInv

/-! ### Steps -/

namespace ClockInv

theorem init (now : ℤ) : ClockInv period { now } where
  started := rfl
  stopping := nofun
  fresh _ := rfl
  paced i t ht := by cases ht
  counted := nofun
  late_le := Nat.zero_le _
  phase := nofun
  metrics := ⟨rfl, rfl, rfl⟩

theorem later (h : ClockInv period s) (elapsed : ℕ) : ClockInv period (s.later elapsed) := by
  have hle : s.now ≤ (s.later elapsed).now := Int.le_add_of_nonneg_right (Int.natCast_nonneg _)
  exact { h with
    paced := fun i t ht => ⟨(h.paced i t ht).1, (h.paced i t ht).2.trans hle⟩
    counted := fun t ht => ⟨(h.counted t ht).1, (h.counted t ht).2.trans hle⟩
    phase := fun phase hphase => (h.phase phase hphase).later elapsed }

theorem has_thread (h : ClockInv period s) {phase : ClockPhase} (hthread : s.thread = some phase) :
    s.started = true := by
  rw [h.started, hthread]
  rfl

/-- The thread goes on. -/
theorem goOn (h : ClockInv period s) {phase phase' : ClockPhase} (hthread : s.thread = some phase)
    (hphase : PhaseInv period s phase') : ClockInv period (s.goOn phase') := by
  exact { h with
    started := h.has_thread hthread
    phase := fun phase hp => by
      obtain rfl := Option.some.inj hp
      exact { hphase with } }

/-- Without a thread nothing is known of a phase. -/
theorem thread_none (h : ClockInv period s) (hstarted : s.started = false) : s.thread = none := by
  have hsome := h.started
  rw [hstarted] at hsome
  exact Option.isNone_iff_eq_none.mp (Option.isSome_eq_false_iff.mp hsome.symm)

/-- The owner makes the thread. -/
theorem starts (h : ClockInv period s) (hstopping : s.stopping = false) :
    ClockInv period { s with
      thread := some .starting
      wakeTime := none
      stopRequested := false
      started := true
      history.begun := []
      history.begunLate := 0 } where
  started := rfl
  stopping hs := absurd hs (Bool.eq_false_iff.mp hstopping)
  fresh _ := rfl
  paced i t ht := by cases ht
  counted := nofun
  late_le := Nat.zero_le _
  phase phase hp := by
    obtain rfl := Option.some.inj hp
    exact ⟨fun _ => rfl, fun hne => absurd rfl hne, fun hne => absurd rfl hne, nofun, nofun, nofun,
      fun hne => absurd rfl hne, nofun, fun _ => rfl, nofun⟩
  metrics := h.metrics

/-- The thread reads the clock first. -/
theorem begins (h : ClockInv period s) (hthread : s.thread = some .starting) :
    ClockInv period { s.goOn (.checkingStop .loop) with
      nextCallbackTime := s.now + period
      history.startTime := s.now } := by
  have hphase := h.phase _ hthread
  have hwake := hphase.starting rfl
  have hbegun := h.fresh hwake
  have hlate := hphase.late_passed rfl
  constructor
  case started => exact h.has_thread hthread
  case stopping => exact h.stopping
  case fresh => exact h.fresh
  case paced =>
    intro i t ht
    have hnone : s.history.begun[i]? = some t := ht
    rw [hbegun] at hnone
    cases hnone
  case counted =>
    intro t ht
    cases hwake.symm.trans ht
  case late_le => exact h.late_le
  case metrics => exact h.metrics
  case phase =>
    intro phase hp
    obtain rfl := Option.some.inj hp
    constructor
    case starting => nofun
    case began => exact fun _ => le_rfl
    case deadline =>
      intro _
      show s.now + period = s.now + (s.history.begun.length + 1 - 0) * period
      rw [hbegun]
      simp
    case due => nofun
    case catchesUp => nofun
    case caughtUp =>
      intro _ _ t ht
      cases hwake.symm.trans ht
    case late_flag => exact fun hne => absurd hlate hne
    case late_engine => nofun
    case late_passed => nofun
    case exited => nofun

/-- The thread reads the clock after it has slept. -/
theorem reads (h : ClockInv period s) (hthread : s.thread = some .reading) :
    ClockInv period { s.goOn .calling with wakeTime := some s.now } := by
  have hphase := h.phase _ hthread
  constructor
  case started => exact h.has_thread hthread
  case stopping => exact h.stopping
  case fresh => nofun
  case paced => exact h.paced
  case late_le => exact h.late_le
  case metrics => exact h.metrics
  case counted =>
    intro t ht
    obtain rfl := Option.some.inj ht
    refine ⟨?_, le_rfl⟩
    -- What was counted when the thread woke before is still due.
    show s.history.startTime + s.history.begun.length * period ≤ s.now
    cases hwake : s.wakeTime with
    | none =>
      rw [h.fresh hwake]
      simpa using hphase.began nofun
    | some t =>
      have hcounted := h.counted t hwake
      exact hcounted.1.trans hcounted.2
  case phase =>
    intro phase hp
    obtain rfl := Option.some.inj hp
    constructor
    case starting => nofun
    case began => exact fun _ => hphase.began nofun
    case deadline => exact fun _ => hphase.deadline nofun
    case due => exact fun _ => hphase.due rfl
    case catchesUp => exact fun _ => ⟨s.now, rfl, hphase.due rfl⟩
    case caughtUp => nofun
    case late_flag => exact hphase.late_flag
    case late_engine => nofun
    case late_passed => exact hphase.late_passed
    case exited => nofun

/-- A callback begins. -/
theorem calls (h : ClockInv period s) (hthread : s.thread = some .calling) :
    ClockInv period { s.goOn (.processing s.now) with
      history.begun := s.now :: s.history.begun
      history.begunLate := s.history.begunLate + if s.stopFlag then 1 else 0 } := by
  have hphase := h.phase _ hthread
  have hdue := hphase.due rfl
  have hlate : s.history.begunLate = 0 := hphase.late_passed rfl
  have hdeadline : s.nextCallbackTime =
      s.history.startTime + (s.history.begun.length + 1) * period := by
    simpa [ClockPhase.inCallback] using hphase.deadline nofun
  obtain ⟨woken, hwoken, hle⟩ := hphase.catchesUp rfl
  constructor
  case started => exact h.has_thread hthread
  case stopping => exact h.stopping
  case metrics => exact h.metrics
  case fresh =>
    intro hnone
    cases hwoken.symm.trans hnone
  case paced =>
    intro i t ht
    cases i with
    | zero =>
      obtain rfl : s.now = t := Option.some.inj ht
      refine ⟨?_, le_rfl⟩
      show s.history.startTime + (((s.now :: s.history.begun).length : ℤ) - 0) * period ≤ s.now
      rw [hdeadline] at hdue
      simpa using hdue
    | succ i =>
      have hpaced := h.paced i t ht
      refine ⟨?_, hpaced.2⟩
      have hlength : ((s.now :: s.history.begun).length : ℤ) - ((i + 1 : ℕ) : ℤ) =
          s.history.begun.length - i := by
        rw [List.length_cons]
        push_cast
        ring
      show s.history.startTime + _ * period ≤ t
      rw [hlength]
      exact hpaced.1
  case counted =>
    intro t ht
    obtain rfl : woken = t := Option.some.inj (hwoken.symm.trans ht)
    refine ⟨?_, (h.counted _ hwoken).2⟩
    show s.history.startTime + ((s.now :: s.history.begun).length : ℤ) * period ≤ woken
    rw [hdeadline] at hle
    simpa using hle
  case late_le =>
    show s.history.begunLate + _ ≤ 1
    rw [hlate]
    split <;> omega
  case phase =>
    intro phase hp
    obtain rfl := Option.some.inj hp
    constructor
    case starting => nofun
    case began => exact fun _ => hphase.began nofun
    case deadline =>
      intro _
      show s.nextCallbackTime =
        s.history.startTime + (((s.now :: s.history.begun).length : ℤ) + 1 - 1) * period
      rw [hdeadline, List.length_cons]
      push_cast
      ring
    case due => nofun
    case catchesUp => nofun
    case caughtUp => nofun
    case late_engine => nofun
    case late_passed => nofun
    case exited => nofun
    case late_flag =>
      intro hne
      show s.stopFlag = true
      have hne : s.history.begunLate + (if s.stopFlag then 1 else 0) ≠ 0 := hne
      by_contra hgoing
      rw [hlate, if_neg hgoing] at hne
      exact hne rfl

/-- A callback returns. -/
theorem returns (h : ClockInv period s) {result : AudioProcessResult} {callbackStart : ℤ}
    (hthread : s.thread = some (.processing callbackStart)) :
    ClockInv period (s.finishCallback period callbackStart result) := by
  have hphase := h.phase _ hthread
  have hdeadline : s.nextCallbackTime + period =
      s.history.startTime + (s.history.begun.length + 1) * period := by
    rw [hphase.deadline nofun]
    simp only [ClockPhase.inCallback]
    ring
  have hmetrics := h.metrics.returns period callbackStart result
  obtain ⟨callbacks, underruns, callbackMaxInUs, returned, heq⟩ :=
    finishCallback_eq s period callbackStart result
  rw [heq] at hmetrics ⊢
  constructor
  case started => exact h.has_thread hthread
  case stopping => exact h.stopping
  case fresh => exact h.fresh
  case paced => exact h.paced
  case counted => exact h.counted
  case late_le => exact h.late_le
  case metrics => exact hmetrics
  case phase =>
    intro phase hp
    obtain rfl := Option.some.inj hp
    split
    · rename_i hcatch
      obtain ⟨woken, hwoken, hle⟩ := hcatch
      constructor
      case starting => nofun
      case began => exact fun _ => hphase.began nofun
      case deadline =>
        intro _
        simpa [ClockPhase.inCallback] using hdeadline
      case due => exact fun _ => hle.trans (h.counted woken hwoken).2
      case catchesUp => exact fun _ => ⟨woken, hwoken, hle⟩
      case caughtUp => nofun
      case late_flag => exact hphase.late_flag
      case late_engine => nofun
      case late_passed => nofun
      case exited => nofun
    · rename_i hcaught
      constructor
      case starting => nofun
      case began => exact fun _ => hphase.began nofun
      case deadline =>
        intro _
        simpa [ClockPhase.inCallback] using hdeadline
      case due => nofun
      case catchesUp => nofun
      case caughtUp =>
        intro _ _ t ht
        by_contra hle
        exact hcaught ⟨t, ht, not_lt.mp hle⟩
      case late_flag => exact hphase.late_flag
      case late_engine => nofun
      case late_passed => nofun
      case exited => nofun

/-- **Every event keeps the invariant.** -/
theorem step {action : SimulatorAction} (h : ClockInv period s)
    (hstep : SimulatorStep period s action s') : ClockInv period s' := by
  cases hstep with
  | startIgnored made hstarted => exact h
  | startFails hstarted =>
    have hthread := h.thread_none hstarted
    exact { h with
      stopping := fun hstopping => absurd (h.stopping hstopping).2 (Bool.eq_false_iff.mp hstarted)
      phase := fun phase hp => by
        rw [show s.thread = some phase from hp] at hthread
        cases hthread }
  | starts hstarted hstopping => exact h.starts hstopping
  | stopIgnored hstarted => exact h
  | stops hstarted =>
    exact { h with
      stopping := fun _ => ⟨rfl, hstarted⟩
      phase := fun phase hp =>
        { h.phase phase hp with
          caughtUp := nofun
          late_flag := fun _ => rfl
          exited := fun _ => rfl } }
  | joins hstopping hthread =>
    exact { h with
      started := rfl
      stopping := nofun
      phase := nofun
      metrics := h.metrics }
  | requests =>
    have hstop : ({ s with engineStop := true } : AudioSimulator).stopFlag = true := Bool.or_true _
    exact { h with
      phase := fun phase hp =>
        { h.phase phase hp with
          caughtUp := fun _ hgoing => absurd hstop (Bool.eq_false_iff.mp hgoing)
          late_flag := fun _ => hstop
          late_engine := fun _ _ _ => rfl
          exited := fun _ => hstop } }
  | clears hstarted =>
    have hthread := h.thread_none hstarted
    exact { h with
      phase := fun phase hp => by
        rw [show s.thread = some phase from hp] at hthread
        cases hthread }
  | begins result hthread => exact h.begins hthread
  | passes result check hthread hgoing =>
    exact h.goOn hthread ((h.phase _ hthread).passes hgoing)
  | leaves result check hthread hstop =>
    obtain ⟨phase, hphase, hne, hcount⟩ : ∃ phase, s.thread = some phase ∧ phase ≠ .starting ∧
        phase.inCallback = 0 := by
      rcases hthread with hthread | hthread <;> exact ⟨_, hthread, nofun, rfl⟩
    have hinv := h.phase phase hphase
    have hdeadline := hinv.deadline hne
    rw [hcount, sub_zero] at hdeadline
    cases check with
    | loop => exact h.goOn hphase (.leaves (hinv.began hne) hdeadline hstop (.inl rfl))
    | woken => exact h.goOn hphase (.leaves (hinv.began hne) hdeadline hstop (.inl rfl))
    | catchUp => exact h.goOn hphase (.leaves (hinv.began hne) hdeadline hstop (.inr rfl))
  | proceeds result check hthread hgoing =>
    obtain ⟨phase, heq, hphase⟩ := (h.phase _ hthread).proceeds hgoing
    rw [heq]
    exact h.goOn hthread hphase
  | wakes result hthread hdue => exact h.goOn hthread ((h.phase _ hthread).wakes hdue)
  | reads result hthread => exact h.reads hthread
  | calls result hthread => exact h.calls hthread
  | returns result callbackStart hthread => exact h.returns hthread

end ClockInv

end Anasa
