import Anasa.Device.ClockGuarantees
import Anasa.Lifecycle.LiveInvariant

/-!
# The lifecycle of an engine

What holds of an engine and its threads in every state that they can reach, whichever threads cannot
be made and whenever a stop is requested.

1. **All or nothing.** Between the calls of its owner all components of an engine run, or none does.
2. **Order.** The scheduler runs only over an executor that accepts its tasks, and an executor stops
   only when nobody submits to it any more.
-/

namespace Anasa

open Concurrency EventSystem LiveEngine

variable {S : Type} {period : ℤ}

/-! ## Reachable states -/

theorem LiveInv.step {cfg : Config} {e e' : LiveEngine S} {event : LiveEvent}
    (hworkers : 0 < cfg.executor.workerCount) (h : LiveInv cfg period e)
    (hstep : LiveStep cfg period e event e') : LiveInv cfg period e' := by
  cases event with
  | start => exact h.ownerCalls (.inl rfl) hstep
  | stop => exact h.ownerCalls (.inr rfl) hstep
  | owner made => exact h.ownerStep hworkers hstep
  | _ => exact h.threadStep hworkers hstep ⟨nofun, nofun, nofun⟩

theorem liveInv_inductive {cfg : Config} (hworkers : 0 < cfg.executor.workerCount) :
    (liveSystem cfg period).Inductive (LiveInv (S := S) cfg period) :=
  fun _ _ _ h hnext => h.step hworkers (liveSystem_step hnext)

theorem LiveReachable.inv {cfg : AcceptedConfig} {e : LiveEngine S}
    (h : LiveReachable cfg.toConfig period e) : LiveInv cfg.toConfig period e := by
  obtain ⟨r, now, hr, es, hrun⟩ := h
  exact (liveInv_inductive cfg.executor_pos.1).run (.init hr now) hrun

section

variable {cfg : Config} {e : LiveEngine S}

namespace LiveInv

/-- **A scheduler that runs is served**: its executor is started and does not stop. -/
theorem served (h : LiveInv cfg period e) (hscheduler : e.scheduler.started = true) :
    e.executor.owner = .idle ∧ e.executor.render.executor.started = true ∧
      e.executor.render.executor.stopRequested = false := by
  have hstarted : e.executor.owner = .idle ∧ e.executor.render.executor.started = true := by
    have hphase := h.phase
    cases hat : e.phase with
    | idle =>
      rw [hat] at hphase
      obtain ⟨hexecutor, hs, -⟩ := running_eq.mp hphase.2
      exact ⟨hphase.1.1, hexecutor.trans (hs.symm.trans hscheduler)⟩
    | executorStart =>
      rw [hat] at hphase
      cases (running_eq.mp hphase.2.1).2.1.symm.trans hscheduler
    | inExecutorStart =>
      rw [hat] at hphase
      cases hphase.2.1.symm.trans hscheduler
    | schedulerStart =>
      rw [hat] at hphase
      cases (running_eq.mp hphase.2.1).2.1.symm.trans hscheduler
    | simulatorStart =>
      rw [hat] at hphase
      exact ⟨hphase.1.1, (running_eq.mp hphase.2.1).1⟩
    | failed =>
      rw [hat] at hphase
      exact ⟨hphase.1.1, hphase.2.1 hscheduler⟩
    | schedulerStop caller =>
      rw [hat] at hphase
      exact ⟨hphase.1.1, hphase.2.1 hscheduler⟩
    | schedulerJoin caller =>
      rw [hat] at hphase
      exact ⟨hphase.1.1, hphase.2.1 hscheduler⟩
    | simulatorStop caller =>
      rw [hat] at hphase
      cases hphase.2.1.symm.trans hscheduler
    | simulatorJoin caller =>
      rw [hat] at hphase
      cases hphase.2.2.1.symm.trans hscheduler
    | executorStop caller =>
      rw [hat] at hphase
      cases hphase.2.1.symm.trans hscheduler
    | inExecutorStop caller =>
      rw [hat] at hphase
      cases hphase.2.2.1.symm.trans hscheduler
  have howned := h.executor.1.owner
  rw [hstarted.1] at howned
  obtain ⟨-, hgoing, -⟩ | ⟨hstopped, -⟩ := howned
  · exact ⟨hstarted.1, hstarted.2, hgoing⟩
  · cases hstopped.symm.trans hstarted.2

/-- The executor is busy only when the engine starts or stops it. -/
theorem inExecutor (h : LiveInv cfg period e) (hbusy : e.executor.owner ≠ .idle) :
    e.phase.inExecutor = true := by
  have hphase := h.phase
  cases hat : e.phase with
  | inExecutorStart => rfl
  | inExecutorStop caller => rfl
  | simulatorJoin caller =>
    rw [hat] at hphase
    exact absurd hphase.1 hbusy
  | _ =>
    rw [hat] at hphase
    exact absurd hphase.1.1 hbusy

/-- Then the other threads have ended, or they are still to be made. -/
theorem alone (h : LiveInv cfg period e) (hat : e.phase.inExecutor = true) :
    e.scheduler.started = false ∧ e.simulator.started = false := by
  have hphase := h.phase
  cases hphase' : e.phase with
  | inExecutorStart =>
    rw [hphase'] at hphase
    exact ⟨hphase.2.1, hphase.2.2.1⟩
  | inExecutorStop caller =>
    rw [hphase'] at hphase
    exact ⟨hphase.2.2.1, hphase.2.2.2.1⟩
  | _ =>
    rw [hphase'] at hat
    cases hat

/-- **An executor stops last**, when the other threads have ended. -/
theorem closing (h : LiveInv cfg period e) (hstopping : e.executor.owner.stopping = true) :
    e.scheduler.thread = none ∧ e.simulator.thread = none := by
  have hbusy : e.executor.owner ≠ .idle := fun hidle => by
    rw [hidle] at hstopping
    cases hstopping
  obtain ⟨hscheduler, hsimulator⟩ := h.alone (h.inExecutor hbusy)
  exact ⟨h.scheduler_thread hscheduler, h.simulator.thread_none hsimulator⟩

end LiveInv

/-! ## All or nothing -/

/-- Every component runs: no thread has ended, unless a stop was requested of the engine. -/
structure EngineRuns (cfg : Config) (e : LiveEngine S) : Prop where
  workers : (e.executor.workers.length : ℤ) = cfg.executor.workerCount ∧
    WorkerPhase.exited ∉ e.executor.workers
  scheduler : ∃ phase, e.scheduler.thread = some phase ∧ (phase.left = true → e.StopRequested)
  simulator : ∃ phase, e.simulator.thread = some phase ∧
    (phase = .exited → e.simulator.stopFlag = true)
  metrics : e.metrics = none

/-- No thread is left, nothing is queued, and the engine answers as a stopped one. -/
structure EngineStopped (e : LiveEngine S) : Prop where
  workers : e.executor.workers = []
  scheduler : e.scheduler.thread = none
  simulator : e.simulator.thread = none
  playing : e.playing = false
  commands : e.scheduler.commandQueue.contents = []
  /-- Each task that the executor accepted was processed, or its job is cancelled. -/
  tasks : ∀ t ∈ e.executor.history.accepted, t ∈ e.executor.history.processed ∨
    (e.executor.render.jobs.job t.job).cancelled = true
  post : ∀ command, e.post command = some e
  metrics : e.metrics = some {
    callbacks := e.simulator.history.returned.countP fun c => c.result.playing
    underruns :=
      e.simulator.history.returned.countP fun c => c.result.playing && c.result.underrun
    callbackMaxInUs :=
      (e.simulator.history.returned.map CallbackRecord.durationInUsecs).foldr max 0 }

namespace LiveInv

/-- An engine that is started, between the calls of its owner. -/
theorem runs (h : LiveInv cfg period e) (hidle : e.phase = .idle) (hstarted : e.started = true) :
    EngineRuns cfg e := by
  have hphase := h.phase
  rw [hidle] at hphase
  obtain ⟨-, hrunning⟩ := hphase
  rw [hstarted] at hrunning
  obtain ⟨-, hscheduler, hsimulator⟩ := running_eq.mp hrunning
  obtain ⟨howner, hexecutor, hgoing⟩ := h.served hscheduler
  have howned := h.executor.1.owner
  rw [howner] at howned
  constructor
  case workers =>
    constructor
    · obtain ⟨-, -, hlength⟩ | ⟨hstopped, -⟩ := howned
      · exact hlength
      · cases hstopped.symm.trans hexecutor
    · intro hexited
      cases hgoing.symm.trans (h.executor.1.exited hexited)
  case scheduler =>
    rw [h.scheduler] at hscheduler
    obtain ⟨phase, hphase⟩ := Option.isSome_iff_exists.mp hscheduler
    exact ⟨phase, hphase, h.left phase hphase⟩
  case simulator =>
    rw [h.simulator.started] at hsimulator
    obtain ⟨phase, hphase⟩ := Option.isSome_iff_exists.mp hsimulator
    exact ⟨phase, hphase, (h.simulator.phase phase hphase).exited⟩
  case metrics =>
    unfold LiveEngine.metrics
    rw [if_pos hstarted]

/-- Nothing is left of the tasks of an executor that is stopped. -/
theorem tasks_settled {p : WorkerPool S} (h : PoolKept cfg p)
    (hstopped : p.render.executor.started = false) {t : RenderTask}
    (ht : t ∈ p.history.accepted) :
    t ∈ p.history.processed ∨ (p.render.jobs.job t.job).cancelled = true := by
  obtain ⟨hpool, htasks⟩ := h
  have htaken := htasks.taken
  rw [htasks.accepted, hpool.closed (.inl hstopped), List.append_nil] at ht
  rcases List.mem_append.mp ht with ht | ht
  · have hrunning : p.running = [] := by
      unfold WorkerPool.running
      rw [hpool.no_workers hstopped]
      rfl
    rw [hrunning, List.append_nil] at htaken
    exact .inl (htaken.mem_iff.mp ht)
  · exact .inr (htasks.cancelled t ht)

/-- An engine that is not started, between the calls of its owner. -/
theorem stopped (h : LiveInv cfg period e) (hidle : e.phase = .idle) (hstopped : e.started = false) :
    EngineStopped e := by
  have hphase := h.phase
  rw [hidle] at hphase
  obtain ⟨-, hrunning⟩ := hphase
  rw [hstopped] at hrunning
  obtain ⟨hexecutor, hscheduler, hsimulator⟩ := running_eq.mp hrunning
  have hthread := h.scheduler_thread hscheduler
  constructor
  case workers => exact h.executor.1.no_workers hexecutor
  case scheduler => exact hthread
  case simulator => exact h.simulator.thread_none hsimulator
  case playing => exact h.playing (.inl hthread)
  case commands => exact h.drained hthread
  case tasks => exact fun t ht => tasks_settled h.executor hexecutor ht
  case post =>
    intro command
    have hrefuses : ¬e.accepts = true := by
      unfold LiveEngine.accepts
      rw [hscheduler]
      exact Bool.false_ne_true
    unfold LiveEngine.post
    rw [if_pos hidle, if_neg hrefuses]
  case metrics =>
    unfold LiveEngine.metrics
    rw [if_neg (Bool.eq_false_iff.mp hstopped), h.simulator.metrics.callbacks,
      h.simulator.metrics.underruns, h.simulator.metrics.callbackMaxInUs]

end LiveInv

end

/-- What holds of an engine between the calls of its owner and within them. -/
structure LifecycleSound (cfg : Config) (period : ℤ) (e : LiveEngine S) : Prop where
  runs : e.phase = .idle → e.started = true → EngineRuns cfg e
  /-- **Nothing is left** after `stop`, and nothing by a `start` that failed. -/
  stopped : e.phase = .idle → e.started = false → EngineStopped e
  /-- A task that the scheduler submits is refused only if the queue is full. -/
  served : e.Working → ∀ task : RenderTask, 0 ≤ task.tileIndex → task.tileIndex < tilesPerChunk →
    (e.executor.render.executor.renderTasks.length : ℤ) < cfg.executor.renderTasksQueueCapacity →
    ∃ e', (liveSystem cfg period).next e (.submit task) = some e' ∧
      e'.executor.history.accepted = e.executor.history.accepted ++ [task]
  closing : e.executor.owner.stopping = true →
    e.scheduler.thread = none ∧ e.simulator.thread = none
  /-- Each command that was accepted is handled or dropped, in order, or it is still queued. -/
  posted : e.history.posted =
    e.history.settled.map Prod.fst ++ e.scheduler.commandQueue.contents

variable {cfg : AcceptedConfig} {e : LiveEngine S}

/-- **The lifecycle of an engine.** -/
theorem liveRun_lifecycle (h : LiveReachable cfg.toConfig period e) :
    LifecycleSound cfg.toConfig period e := by
  have hinv := h.inv
  constructor
  case runs => exact hinv.runs
  case stopped => exact hinv.stopped
  case served =>
    intro hworking task hfirst hlast hroom
    have hstarted : e.scheduler.started = true := by
      rw [hinv.scheduler, hworking.1]
      rfl
    obtain ⟨-, hexecutor, hgoing⟩ := hinv.served hstarted
    refine ⟨_, if_pos hworking, ?_⟩
    show (e.executor.submit cfg.toConfig task).history.accepted = _
    unfold WorkerPool.submit Executor.submit
    rw [if_neg (not_or.mpr ⟨not_lt.mpr hfirst, not_le.mpr hlast⟩), hexecutor, hgoing]
    simp only [Bool.not_true, Bool.or_self, Bool.false_eq_true, if_false]
    rw [if_neg (not_le.mpr hroom)]
  case closing => exact hinv.closing
  case posted => exact hinv.posted

/-! ## Components -/

/-- An event of the engine is one event of its executor at most. -/
theorem executor_projects {cfg : Config} : (liveSystem (S := S) cfg period).Projects (poolSystem cfg)
    (LiveInv cfg period) LiveEngine.executor := by
  intro e event e' _ hnext
  have hstep := liveSystem_step hnext
  cases hstep with
  | callsExecutorStart made p _ hstep => exact .inr ⟨_, hstep⟩
  | inExecutor made p _ _ hstep => exact .inr ⟨_, hstep⟩
  | callsExecutorStop made caller p _ hstep => exact .inr ⟨_, hstep⟩
  | worker event p _ hstep => exact .inr ⟨_, hstep⟩
  | submits task p _ hstep => exact .inr ⟨_, hstep⟩
  | pops p _ hstep => exact .inr ⟨_, hstep⟩
  | finishes made caller => cases caller <;> exact .inl rfl
  | handlesCommand rebuffer command =>
    refine .inl ?_
    unfold LiveEngine.handleCommand
    dsimp only
    split <;> rfl
  | _ => exact .inl rfl

/-- The simulator without the time that an event takes. -/
theorem simulator_event {s s' : AudioSimulator} {action : SimulatorAction}
    (h : s.act period action = some s') : (simulatorSystem period).next s ⟨0, action⟩ = some s' := by
  have hlater : s.later 0 = s := by simp [AudioSimulator.later]
  show (s.later 0).act period action = some s'
  rw [hlater]
  exact h

/-- An event of the engine is one event of its simulator at most; to set or clear
`_sharedState.stop` is an event of the simulator, which looks at it. -/
theorem simulator_projects {cfg : Config} : (liveSystem (S := S) cfg period).Projects
    (simulatorSystem period) (LiveInv cfg period) LiveEngine.simulator := by
  intro e event e' hinv hnext
  have hphase := hinv.phase
  have hrequests : ∀ s : AudioSimulator, (simulatorSystem period).next s ⟨0, .requestEngineStop⟩ =
      some { s with engineStop := true } := fun s => simulator_event rfl
  have hstep := liveSystem_step hnext
  cases hstep with
  | starts hidle hstopped =>
    rw [hidle] at hphase
    obtain ⟨-, hrunning⟩ := hphase
    rw [hstopped] at hrunning
    refine .inr ⟨⟨0, .clearEngineStop⟩, simulator_event ?_⟩
    exact if_neg (Bool.eq_false_iff.mp (running_eq.mp hrunning).2.2)
  | stops => exact .inr ⟨_, hrequests e.simulator⟩
  | handlesFailure => exact .inr ⟨_, hrequests e.simulator⟩
  | simulatorStarts made s _ hstep => exact .inr ⟨_, simulator_event hstep⟩
  | simulatorFails made s _ hstep => exact .inr ⟨_, simulator_event hstep⟩
  | stopsSimulator made caller s _ hstep => exact .inr ⟨_, simulator_event hstep⟩
  | joinsSimulator made caller s _ hstep => exact .inr ⟨_, simulator_event hstep⟩
  | clock elapsed result s hstep => exact .inr ⟨_, hstep⟩
  | finishes made caller => cases caller <;> exact .inl rfl
  | handlesCommand rebuffer command =>
    by_cases hstop : command.type = .stop
    · refine .inr ⟨⟨0, .requestEngineStop⟩, ?_⟩
      rw [hrequests]
      unfold LiveEngine.handleCommand
      dsimp only
      rw [if_pos hstop]
      rfl
    · refine .inl ?_
      unfold LiveEngine.handleCommand
      dsimp only
      rw [if_neg hstop]
      rfl
  | _ => exact .inl rfl

/-- **The components of an engine** reach no state that they do not reach with any owner and any
neighbours. -/
theorem liveRun_refinesComponents (h : LiveReachable cfg.toConfig period e) :
    (∃ r, PoolReachable cfg.toConfig r e.executor) ∧ SimulatorReachable period e.simulator := by
  obtain ⟨r, now, hr, es, hrun⟩ := h
  have hworkers := cfg.executor_pos.1
  have hinit : LiveInv cfg.toConfig period (.init cfg.toConfig r now) := .init hr now
  exact ⟨⟨r, hr, executor_projects.reaches (liveInv_inductive hworkers) hinit hrun⟩,
    now, simulator_projects.reaches (liveInv_inductive hworkers) hinit hrun⟩

/-- An engine with one worker and a period of ten, after some events. -/
def liveAfter (es : List LiveEvent) : LiveEngine ℤ :=
  ((liveSystem oneWorkerConfig.toConfig 10).run es
    (.init oneWorkerConfig.toConfig (.init oneWorkerConfig.toConfig) 100)).getD
      (.init oneWorkerConfig.toConfig (.init oneWorkerConfig.toConfig) 100)

theorem liveAfter_reachable {es : List LiveEvent}
    (h : ((liveSystem (S := ℤ) oneWorkerConfig.toConfig 10).run es
      (.init oneWorkerConfig.toConfig (.init oneWorkerConfig.toConfig) 100)).isSome = true) :
    LiveReachable oneWorkerConfig.toConfig 10 (liveAfter es) := by
  refine ⟨.init oneWorkerConfig.toConfig, 100, rfl, es, ?_⟩
  obtain ⟨e, he⟩ := Option.isSome_iff_exists.mp h
  unfold liveAfter
  rw [he]
  rfl

/-- The thread of the simulator cannot be made, and the other threads are stopped again. -/
def failedStartEvents : List LiveEvent :=
  .start :: List.replicate 6 (.owner true) ++ List.replicate 3 (.owner false) ++
    List.replicate 2 (.scheduler false) ++ List.replicate 4 (.owner true) ++
    .worker (.check 0) :: List.replicate 4 (.owner true)

theorem liveRun_lifecycle_failed :
    LifecycleSound oneWorkerConfig.toConfig 10 (liveAfter failedStartEvents) ∧
      (liveAfter failedStartEvents).phase = .idle ∧
      (liveAfter failedStartEvents).result = .startFailed :=
  ⟨liveRun_lifecycle (liveAfter_reachable (by decide +kernel)), by decide +kernel,
    by decide +kernel⟩

/-- A command stops the scheduler, and the simulator finds the stop. -/
def commandStopEvents : List LiveEvent :=
  .start :: List.replicate 7 (.owner true) ++ .post { type := .stop } ::
    List.replicate 3 (.scheduler false) ++ List.replicate 3 (.clock 0 {})

theorem liveRun_refinesComponents_stopped :
    ((∃ r, PoolReachable oneWorkerConfig.toConfig r (liveAfter commandStopEvents).executor) ∧
      SimulatorReachable 10 (liveAfter commandStopEvents).simulator) ∧
      (liveAfter commandStopEvents).started = true ∧
      (liveAfter commandStopEvents).simulator.thread = some .exited :=
  ⟨liveRun_refinesComponents (liveAfter_reachable (by decide +kernel)), by decide +kernel,
    by decide +kernel⟩

end Anasa
