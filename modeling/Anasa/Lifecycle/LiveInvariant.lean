import Anasa.Execution.PoolProgress
import Anasa.Lifecycle.LiveSteps

/-!
# The invariant of an engine and its threads

1. `LivePhase`: what is started in each phase of `start` and `stop`. The scheduler never runs over an
   executor that is not started, or that stops.
2. `LiveInv`: the invariants of the components hold, only a working scheduler has a notification
   pending, playback ends with the thread of the scheduler, and no command is lost.
-/

namespace Anasa

open Concurrency LiveEngine

variable {S : Type} {cfg : Config} {period : ℤ}

/-! ## The executor -/

/-- What only its owner changes in an executor. -/
structure SameOwner (p p' : WorkerPool S) : Prop where
  owner : p'.owner = p.owner
  result : p'.result = p.result
  started : p'.render.executor.started = p.render.executor.started
  stopRequested : p'.render.executor.stopRequested = p.render.executor.stopRequested

/-- The event is none of the owner. -/
def PoolEvent.notOwner : PoolEvent → Bool
  | .start => false
  | .stop => false
  | .owner _ => false
  | _ => true

section

variable {p p' : WorkerPool S} {event : PoolEvent}

theorem PoolStep.sameOwner (h : PoolStep cfg p event p') (hevent : event.notOwner = true) :
    SameOwner p p' := by
  cases h with
  | processes worker task rendered hworker =>
    have hexecutor : (processed worker rendered task p.render).2.executor.started =
          p.render.executor.started ∧
        (processed worker rendered task p.render).2.executor.stopRequested =
          p.render.executor.stopRequested := by
      unfold processed RenderTaskProcessor.finishTile
      cases rendered <;> exact ⟨rfl, rfl⟩
    exact ⟨rfl, rfl, hexecutor.1, hexecutor.2⟩
  | refused => exact ⟨rfl, rfl, rfl, rfl⟩
  | accepted => exact ⟨rfl, rfl, rfl, rfl⟩
  | notifiesNobody => exact ⟨rfl, rfl, rfl, rfl⟩
  | notifies => exact ⟨rfl, rfl, rfl, rfl⟩
  | popsNothing => exact ⟨rfl, rfl, rfl, rfl⟩
  | pops => exact ⟨rfl, rfl, rfl, rfl⟩
  | exits => exact ⟨rfl, rfl, rfl, rfl⟩
  | waits => exact ⟨rfl, rfl, rfl, rfl⟩
  | takes => exact ⟨rfl, rfl, rfl, rfl⟩
  | wakes => exact ⟨rfl, rfl, rfl, rfl⟩
  | publishes => exact ⟨rfl, rfl, rfl, rfl⟩
  | _ => cases hevent

/-- Tasks alone bring notifications. -/
theorem PoolStep.notifications_le (h : PoolStep cfg p event p')
    (hevent : ∀ task, event ≠ .submit task) : p'.notifications ≤ p.notifications := by
  cases h with
  | refused task => exact absurd rfl (hevent task)
  | accepted task => exact absurd rfl (hevent task)
  | notifiesNobody => exact Nat.sub_le _ _
  | notifies => exact Nat.sub_le _ _
  | _ => exact Nat.le_refl _

/-- A task brings one at most. -/
theorem PoolStep.notifications_le_succ (h : PoolStep cfg p event p') :
    p'.notifications ≤ p.notifications + 1 := by
  cases h with
  | accepted => exact Nat.le_refl _
  | notifiesNobody => exact (Nat.sub_le _ _).trans (Nat.le_succ _)
  | notifies => exact (Nat.sub_le _ _).trans (Nat.le_succ _)
  | _ => exact Nat.le_succ _

theorem PoolStep.length_le (h : PoolStep cfg p event p') (hworkers : 0 ≤ cfg.executor.workerCount)
    (hlength : (p.workers.length : Int) ≤ cfg.executor.workerCount) :
    (p'.workers.length : Int) ≤ cfg.executor.workerCount := by
  cases h with
  | makes howner hfewer =>
    show ((p.workers ++ [WorkerPhase.checking]).length : Int) ≤ _
    rw [List.length_append, List.length_singleton]
    push_cast
    omega
  | notifiesAll =>
    show ((p.workers.map WorkerPool.notified).length : Int) ≤ _
    rwa [List.length_map]
  | clears => exact hworkers
  | notifies => simpa using hlength
  | exits => simpa using hlength
  | waits => simpa using hlength
  | takes => simpa using hlength
  | wakes => simpa using hlength
  | processes => simpa using hlength
  | publishes => simpa using hlength
  | _ => exact hlength

/-- The owner goes on in `stop`, or returns and has stopped the executor. -/
theorem PoolStep.stop_goes_on {made : Bool} (h : PoolInv cfg p) (hstopping : p.owner.stopping = true)
    (hstep : PoolStep cfg p (.owner made) p') :
    p'.owner.stopping = true ∨ p'.owner = .idle ∧ p'.render.executor.started = false := by
  by_cases hgoes : p'.owner.stopping = true
  · exact .inl hgoes
  · obtain ⟨howner, hstopped, -⟩ := stop_leaves h hstopping hstep (Bool.eq_false_iff.mpr hgoes)
    exact .inr ⟨howner, hstopped⟩

/-- The result of the latest call says whether the executor is started. -/
def ResultAgrees (p : WorkerPool S) : Prop :=
  p.owner = .idle → p.render.executor.started = decide (p.result = .started)

theorem ResultAgrees.step (h : ResultAgrees p) (hpool : PoolInv cfg p)
    (hstep : PoolStep cfg p event p') : ResultAgrees p' := by
  by_cases hevent : event.notOwner = true
  · have hsame := hstep.sameOwner hevent
    intro howner
    rw [hsame.started, hsame.result]
    exact h (hsame.owner.symm.trans howner)
  · have howned := hpool.owner
    cases hstep with
    | startsAgain howner hstarted => exact fun _ => hstarted
    | starts => nofun
    | stopsAgain howner hstopped => exact fun _ => hstopped
    | stops => nofun
    | discards => nofun
    | makes howner =>
      intro hidle
      cases howner.symm.trans hidle
    | fails => nofun
    | hasStarted made howner =>
      rw [howner] at howned
      exact fun _ => howned.1
    | stopsFailed => nofun
    | notifiesAll => nofun
    | joins => nofun
    | clears => nofun
    | finishes made caller =>
      intro _
      cases caller <;> rfl
    | _ => exact absurd rfl hevent

end

/-! ## Phases -/

namespace LiveEngine

/-- What is started: the executor, the scheduler and the simulator. -/
def running (e : LiveEngine S) : Bool × Bool × Bool :=
  (e.executor.render.executor.started, e.scheduler.started, e.simulator.started)

theorem running_eq {e : LiveEngine S} {executor scheduler simulator : Bool} :
    e.running = (executor, scheduler, simulator) ↔ e.executor.render.executor.started = executor ∧
      e.scheduler.started = scheduler ∧ e.simulator.started = simulator := by
  unfold running
  rw [Prod.mk.injEq, Prod.mk.injEq]

/-- The owner is in no call of the executor or of the simulator. -/
def InNoCall (e : LiveEngine S) : Prop :=
  e.executor.owner = .idle ∧ e.simulator.stopping = false

/-- The thread of the scheduler has been asked to end. -/
def StopRequested (e : LiveEngine S) : Prop :=
  e.scheduler.stopRequested = true ∨ e.simulator.engineStop = true

/-- A scheduler runs over an executor that is started. -/
def Served (e : LiveEngine S) : Prop :=
  e.scheduler.started = true → e.executor.render.executor.started = true

end LiveEngine

/-- A `start` that fails has started nothing. -/
def NotStartedBy (caller : StopCaller) (started : Bool) : Prop := caller = .start → started = false

/-- What the engine is like where the owner is in `start` or `stop`. -/
def LivePhase (e : LiveEngine S) : EnginePhase → Prop
  | .idle => e.InNoCall ∧ e.running = (e.started, e.started, e.started)
  | .executorStart => e.InNoCall ∧ e.running = (false, false, false) ∧ e.started = false
  | .inExecutorStart => e.simulator.stopping = false ∧ e.scheduler.started = false ∧
      e.simulator.started = false ∧ e.started = false
  | .schedulerStart => e.InNoCall ∧ e.running = (true, false, false) ∧ e.started = false
  | .simulatorStart => e.InNoCall ∧ e.running = (true, true, false) ∧ e.started = false
  | .failed => e.InNoCall ∧ e.Served ∧ e.started = false
  | .schedulerStop caller => e.InNoCall ∧ e.Served ∧ e.simulator.engineStop = true ∧
      NotStartedBy caller e.started
  | .schedulerJoin caller => e.InNoCall ∧ e.Served ∧ e.simulator.engineStop = true ∧
      e.scheduler.stopRequested = true ∧ NotStartedBy caller e.started
  | .simulatorStop caller => e.InNoCall ∧ e.scheduler.started = false ∧
      NotStartedBy caller e.started
  | .simulatorJoin caller => e.executor.owner = .idle ∧ e.simulator.stopping = true ∧
      e.scheduler.started = false ∧ NotStartedBy caller e.started
  | .executorStop caller => e.InNoCall ∧ e.scheduler.started = false ∧
      e.simulator.started = false ∧ NotStartedBy caller e.started
  | .inExecutorStop caller => (e.executor.owner.stopping = true ∨ e.executor.owner = .idle ∧
      e.executor.render.executor.started = false) ∧ e.simulator.stopping = false ∧
      e.scheduler.started = false ∧ e.simulator.started = false ∧ NotStartedBy caller e.started

namespace LivePhase

variable {e : LiveEngine S} {phase : EnginePhase}

/-- A step of a worker, or of the scheduler in the executor. -/
theorem executor (h : LivePhase e phase) {p : WorkerPool S} (hsame : SameOwner e.executor p) :
    LivePhase { e with executor := p } phase := by
  cases phase <;>
    simpa only [LivePhase, InNoCall, running, Served, hsame.owner, hsame.started] using h

/-- A step of the thread of the simulator. -/
theorem simulator (h : LivePhase e phase) {s : AudioSimulator}
    (hstarted : s.started = e.simulator.started) (hstopping : s.stopping = e.simulator.stopping)
    (hstop : s.engineStop = e.simulator.engineStop) : LivePhase { e with simulator := s } phase := by
  cases phase <;>
    simpa only [LivePhase, InNoCall, running, Served, hstarted, hstopping, hstop] using h

/-- A command to stop. -/
theorem requested (h : LivePhase e phase) : LivePhase
    { e with simulator.engineStop := true, scheduler.stopRequested := true } phase := by
  cases phase with
  | schedulerStop caller => exact ⟨h.1, h.2.1, rfl, h.2.2.2⟩
  | schedulerJoin caller => exact ⟨h.1, h.2.1, rfl, rfl, h.2.2.2.2⟩
  | _ => exact h

end LivePhase

/-! ## The invariant -/

/-- The thread of the scheduler has left its loop. -/
def SchedulerPhase.left : SchedulerPhase → Bool
  | .pausing => true
  | .returned => true
  | _ => false

structure LiveInv (cfg : Config) (period : ℤ) (e : LiveEngine S) : Prop where
  executor : PoolKept cfg e.executor
  result : ResultAgrees e.executor
  simulator : ClockInv period e.simulator
  phase : LivePhase e e.phase
  scheduler : e.scheduler.started = e.scheduler.thread.isSome
  playing : e.scheduler.thread = none ∨ e.scheduler.thread = some .returned → e.playing = false
  notified : e.executor.notifications = 0 ∨
    e.executor.notifications = 1 ∧ e.scheduler.thread = some .working
  workers : (e.executor.workers.length : Int) ≤ cfg.executor.workerCount
  /-- Commands leave the queue in the order in which they were posted. -/
  posted : e.history.posted =
    e.history.settled.map Prod.fst ++ e.scheduler.commandQueue.contents
  drained : e.scheduler.thread = none → e.scheduler.commandQueue.contents = []
  /-- The scheduler leaves its loop for a stop only. -/
  left : ∀ phase, e.scheduler.thread = some phase → phase.left = true → e.StopRequested

namespace LiveInv

variable {e : LiveEngine S}

theorem init {cfg : AcceptedConfig} {r : RenderState S} (hr : r.executor = {}) (now : ℤ) :
    LiveInv cfg.toConfig period (.init cfg.toConfig r now) where
  executor := .init hr
  result _ := by
    show r.executor.started = false
    rw [hr]
  simulator := .init now
  phase := by
    refine ⟨⟨rfl, rfl⟩, ?_⟩
    show (r.executor.started, false, false) = (false, false, false)
    rw [hr]
  scheduler := rfl
  playing _ := rfl
  notified := .inl rfl
  workers := cfg.executor_pos.1.le
  posted := rfl
  drained _ := rfl
  left := nofun

theorem scheduler_thread (h : LiveInv cfg period e) (hstopped : e.scheduler.started = false) :
    e.scheduler.thread = none := by
  rw [h.scheduler] at hstopped
  exact Option.isNone_iff_eq_none.mp (Option.isSome_eq_false_iff.mp hstopped)

/-! ### Calls of the components -/

/-- A step of the executor. -/
theorem executorStep (hworkers : 0 < cfg.executor.workerCount) (h : LiveInv cfg period e)
    {event : PoolEvent} {p : WorkerPool S} {phase : EnginePhase}
    (hstep : PoolStep cfg e.executor event p)
    (hphase : LivePhase { e with executor := p, phase } phase)
    (hnotified : p.notifications ≤ e.executor.notifications ∨
      p.notifications ≤ 1 ∧ e.scheduler.thread = some .working) :
    LiveInv cfg period { e with executor := p, phase } :=
  { h with
    executor := h.executor.step hworkers hstep
    result := h.result.step h.executor.1 hstep
    phase := hphase
    notified := by
      have hnotified : p.notifications ≤ 0 ∨
          p.notifications ≤ 1 ∧ e.scheduler.thread = some .working := by
        rcases hnotified with hle | hworking
        · rcases h.notified with hnone | ⟨hone, hworking⟩
          · exact .inl (hnone ▸ hle)
          · exact .inr ⟨hone ▸ hle, hworking⟩
        · exact .inr hworking
      show p.notifications = 0 ∨ p.notifications = 1 ∧ e.scheduler.thread = some .working
      rcases hnotified with hnone | ⟨hone, hworking⟩
      · exact .inl (Nat.le_zero.mp hnone)
      · rcases Nat.le_one_iff_eq_zero_or_eq_one.mp hone with hnone | hone
        · exact .inl hnone
        · exact .inr ⟨hone, hworking⟩
    workers := hstep.length_le hworkers.le h.workers }

/-- A step of the simulator. -/
theorem simulatorStep (h : LiveInv cfg period e) {s : AudioSimulator} {started : Bool}
    {phase : EnginePhase} {result : OwnerResult} (hs : ClockInv period s)
    (hphase : LivePhase { e with simulator := s, started, phase, result } phase)
    (hstop : e.simulator.engineStop = true → s.engineStop = true) :
    LiveInv cfg period { e with simulator := s, started, phase, result } :=
  { h with
    simulator := hs
    phase := hphase
    left := fun at' hthread hleft => (h.left at' hthread hleft).imp_right hstop }

/-- The thread of the scheduler goes on. -/
theorem schedulerStep (h : LiveInv cfg period e) {before after : SchedulerPhase}
    (hthread : e.scheduler.thread = some before)
    (hplaying : after = .returned → e.playing = false)
    (hleft : after.left = true → e.StopRequested) (hnotified : e.executor.notifications = 0) :
    LiveInv cfg period (e.setScheduler after) :=
  { h with
    phase := h.phase
    scheduler := by
      rw [show (e.setScheduler after).scheduler.started = e.scheduler.started from rfl,
        h.scheduler, hthread]
      rfl
    playing := fun hends => hplaying (by
      rcases hends with hnone | hreturned
      · cases hnone
      · exact Option.some.inj hreturned)
    notified := .inl hnotified
    drained := nofun
    left := fun phase hphase => Option.some.inj hphase ▸ hleft }

/-! ### Steps -/

theorem not_working (h : LiveInv cfg period e) {phase : SchedulerPhase}
    (hthread : e.scheduler.thread = some phase) (hphase : phase ≠ .working) :
    e.executor.notifications = 0 :=
  h.notified.resolve_right fun hworking =>
    hphase (Option.some.inj (hthread.symm.trans hworking.2))

/-- The owner calls `start` or `stop`. -/
theorem ownerCalls (h : LiveInv cfg period e) {event : LiveEvent} {e' : LiveEngine S}
    (hevent : event = .start ∨ event = .stop) (hstep : LiveStep cfg period e event e') :
    LiveInv cfg period e' := by
  have hphase := h.phase
  cases hstep with
  | startsAgain hidle hstarted =>
    rw [hidle] at hphase
    exact { h with phase := hphase }
  | starts hidle hstopped =>
    rw [hidle] at hphase
    obtain ⟨hcall, hrunning⟩ := hphase
    rw [hstopped] at hrunning
    obtain ⟨-, hscheduler, hsimulator⟩ := running_eq.mp hrunning
    exact { h with
      simulator := h.simulator.step (.clears hsimulator)
      phase := ⟨hcall, hrunning, hstopped⟩
      playing := fun _ => rfl
      left := fun phase hthread => by cases (h.scheduler_thread hscheduler).symm.trans hthread }
  | stopsAgain hidle hstopped =>
    rw [hidle] at hphase
    exact { h with phase := hphase }
  | stops hidle hstarted =>
    rw [hidle] at hphase
    obtain ⟨hcall, hrunning⟩ := hphase
    have hserved : e.executor.render.executor.started = true := by
      rw [hstarted] at hrunning
      exact (running_eq.mp hrunning).1
    exact { h with
      simulator := h.simulator.step .requests
      phase := ⟨hcall, fun _ => hserved, rfl, nofun⟩
      playing := fun _ => rfl
      left := fun _ _ _ => .inr rfl }
  | _ => rcases hevent with hevent | hevent <;> cases hevent

/-- **The owner goes on** in `start` or `stop`. -/
theorem ownerStep (hworkers : 0 < cfg.executor.workerCount) (h : LiveInv cfg period e) {made : Bool}
    {e' : LiveEngine S} (hstep : LiveStep cfg period e (.owner made) e') : LiveInv cfg period e' := by
  have hphase := h.phase
  cases hstep with
  | callsExecutorStart made p hat hstep =>
    have hstep := poolSystem_step hstep
    rw [hat] at hphase
    obtain ⟨hcall, hrunning, hstarted⟩ := hphase
    obtain ⟨-, hscheduler, hsimulator⟩ := running_eq.mp hrunning
    exact h.executorStep hworkers hstep ⟨hcall.2, hscheduler, hsimulator, hstarted⟩
      (.inl (hstep.notifications_le nofun))
  | inExecutor made p hat howner hstep =>
    have hstep := poolSystem_step hstep
    refine h.executorStep hworkers hstep ?_ (.inl (hstep.notifications_le nofun))
    cases hat' : e.phase with
    | inExecutorStart =>
      rw [hat'] at hphase
      exact hphase
    | inExecutorStop caller =>
      rw [hat'] at hphase
      obtain ⟨hstopping, hrest⟩ := hphase
      have hstopping := hstopping.resolve_right fun hidle => howner hidle.1
      exact ⟨hstep.stop_goes_on h.executor.1 hstopping, hrest⟩
    | _ =>
      rw [hat'] at hat
      cases hat
  | executorStarted made hat howner hresult =>
    rw [hat] at hphase
    obtain ⟨hstopping, hscheduler, hsimulator, hstarted⟩ := hphase
    have hexecutor := h.result howner
    rw [hresult, decide_eq_true rfl] at hexecutor
    exact { h with
      phase := ⟨⟨howner, hstopping⟩, running_eq.mpr ⟨hexecutor, hscheduler, hsimulator⟩, hstarted⟩ }
  | executorFailed made hat howner hresult =>
    rw [hat] at hphase
    obtain ⟨hstopping, hscheduler, hsimulator, hstarted⟩ := hphase
    exact { h with
      phase := ⟨⟨howner, hstopping⟩,
        fun hs => absurd hs (Bool.eq_false_iff.mp hscheduler), hstarted⟩ }
  | schedulerStarted made hat hs =>
    rw [hat] at hphase
    exact absurd hs (Bool.eq_false_iff.mp (running_eq.mp hphase.2.1).2.1)
  | schedulerStarts hat hstopped =>
    rw [hat] at hphase
    obtain ⟨hcall, hrunning, hstarted⟩ := hphase
    obtain ⟨hexecutor, -, hsimulator⟩ := running_eq.mp hrunning
    have hnone := h.scheduler_thread hstopped
    exact { h with
      phase := ⟨hcall, running_eq.mpr ⟨hexecutor, rfl, hsimulator⟩, hstarted⟩
      scheduler := rfl
      playing := fun _ => h.playing (.inl hnone)
      notified := .inl (h.notified.resolve_right fun hworking => by
        cases hnone.symm.trans hworking.2)
      drained := nofun
      left := fun phase hthread hleft => by
        obtain rfl := Option.some.inj hthread
        cases hleft }
  | schedulerFails hat hstopped =>
    rw [hat] at hphase
    obtain ⟨hcall, hrunning, hstarted⟩ := hphase
    exact { h with
      phase := ⟨hcall, fun hs => absurd hs (Bool.eq_false_iff.mp hstopped), hstarted⟩
      left := fun _ _ _ => .inl rfl }
  | simulatorStarts made s hat hstep hs =>
    have hstep := act_step hstep
    rw [hat] at hphase
    obtain ⟨hcall, hrunning, hstarted⟩ := hphase
    obtain ⟨hexecutor, hscheduler, hsimulator⟩ := running_eq.mp hrunning
    have hstopping : s.stopping = false := by
      cases hstep with
      | startIgnored => exact hcall.2
      | startFails => exact hcall.2
      | starts => exact hcall.2
    exact h.simulatorStep (h.simulator.step hstep)
      ⟨⟨hcall.1, hstopping⟩, running_eq.mpr ⟨hexecutor, hscheduler, hs⟩⟩ (hstep.engineStop nofun)
  | simulatorFails made s hat hstep hs =>
    have hstep := act_step hstep
    rw [hat] at hphase
    obtain ⟨hcall, hrunning, hstarted⟩ := hphase
    obtain ⟨hexecutor, hscheduler, hsimulator⟩ := running_eq.mp hrunning
    have hstopping : s.stopping = false := by
      cases hstep with
      | startIgnored => exact hcall.2
      | startFails => exact hcall.2
      | starts => exact hcall.2
    exact h.simulatorStep (h.simulator.step hstep)
      ⟨⟨hcall.1, hstopping⟩, fun _ => hexecutor, hstarted⟩ (hstep.engineStop nofun)
  | handlesFailure made hat =>
    rw [hat] at hphase
    obtain ⟨hcall, hserved, hstarted⟩ := hphase
    exact { h with
      simulator := h.simulator.step .requests
      phase := ⟨hcall, hserved, rfl, fun _ => hstarted⟩
      playing := fun _ => rfl
      left := fun _ _ _ => .inr rfl }
  | stopsScheduler made caller hat hs =>
    rw [hat] at hphase
    obtain ⟨hcall, hserved, hstop, hcaller⟩ := hphase
    exact { h with
      phase := ⟨hcall, hserved, hstop, rfl, hcaller⟩
      left := fun _ _ _ => .inl rfl }
  | skipsScheduler made caller hat hs =>
    rw [hat] at hphase
    obtain ⟨hcall, -, -, hcaller⟩ := hphase
    exact { h with phase := ⟨hcall, hs, hcaller⟩ }
  | joinsScheduler made caller hat hthread =>
    rw [hat] at hphase
    obtain ⟨hcall, -, -, -, hcaller⟩ := hphase
    have hdrained : (Nat.iterate BoundedFifo.pop e.scheduler.commandQueue.contents.length
        e.scheduler.commandQueue).contents = [] := by
      rw [BoundedFifo.contents_iterate_pop, List.drop_length]
    exact { h with
      phase := ⟨hcall, rfl, hcaller⟩
      scheduler := rfl
      playing := fun _ => h.playing hthread
      notified := .inl (h.notified.resolve_right fun hworking => by
        rcases hthread with hnone | hreturned
        · cases hnone.symm.trans hworking.2
        · cases hreturned.symm.trans hworking.2)
      posted := by
        show e.history.posted = (e.history.settled ++ _).map Prod.fst ++ _
        rw [hdrained, h.posted, List.map_append, List.map_map, List.append_nil]
        exact congrArg _ (List.map_id _).symm
      drained := fun _ => hdrained
      left := nofun }
  | stopsSimulator made caller s hat hstep =>
    have hstep := act_step hstep
    rw [hat] at hphase
    obtain ⟨hcall, hscheduler, hcaller⟩ := hphase
    refine h.simulatorStep (h.simulator.step hstep) ?_ (hstep.engineStop nofun)
    cases hstep with
    | stopIgnored hstopped =>
      rw [hcall.2]
      exact ⟨hcall, hscheduler, hstopped, hcaller⟩
    | stops hs => exact ⟨hcall.1, rfl, hscheduler, hcaller⟩
  | joinsSimulator made caller s hat hstep =>
    have hstep := act_step hstep
    rw [hat] at hphase
    obtain ⟨howner, -, hscheduler, hcaller⟩ := hphase
    refine h.simulatorStep (h.simulator.step hstep) ?_ (hstep.engineStop nofun)
    cases hstep with
    | joins => exact ⟨⟨howner, rfl⟩, hscheduler, rfl, hcaller⟩
  | callsExecutorStop made caller p hat hstep =>
    have hstep := poolSystem_step hstep
    rw [hat] at hphase
    obtain ⟨hcall, hscheduler, hsimulator, hcaller⟩ := hphase
    refine h.executorStep hworkers hstep ⟨?_, hcall.2, hscheduler, hsimulator, hcaller⟩
      (.inl (hstep.notifications_le nofun))
    cases hstep with
    | stopsAgain howner hstopped => exact .inr ⟨rfl, hstopped⟩
    | stops howner hs => exact .inl rfl
  | finishes made caller hat howner =>
    rw [hat] at hphase
    obtain ⟨hstopped, hstopping, hscheduler, hsimulator, hcaller⟩ := hphase
    have hexecutor : e.executor.render.executor.started = false := by
      rcases hstopped with hs | hs
      · rw [howner] at hs
        cases hs
      · exact hs.2
    cases caller with
    | owner =>
      exact { h with
        phase := ⟨⟨howner, hstopping⟩, running_eq.mpr ⟨hexecutor, hscheduler, hsimulator⟩⟩ }
    | start =>
      have hstarted := hcaller rfl
      refine { h with phase := ⟨⟨howner, hstopping⟩, ?_⟩ }
      show e.running = (e.started, e.started, e.started)
      rw [hstarted]
      exact running_eq.mpr ⟨hexecutor, hscheduler, hsimulator⟩

/-- The thread of the simulator changes neither what its owner nor what the engine requests. -/
theorem clock_same {s s' : AudioSimulator} {result : AudioProcessResult}
    (h : SimulatorStep period s (.clock result) s') : s'.started = s.started ∧
      s'.stopping = s.stopping ∧ s'.engineStop = s.engineStop := by
  cases h with
  | leaves result check => cases check <;> exact ⟨rfl, rfl, rfl⟩
  | proceeds result check => cases check <;> exact ⟨rfl, rfl, rfl⟩
  | returns result callbackStart =>
    obtain ⟨callbacks, underruns, callbackMaxInUs, returned, heq⟩ :=
      finishCallback_eq s period callbackStart result
    rw [heq]
    exact ⟨rfl, rfl, rfl⟩
  | _ => exact ⟨rfl, rfl, rfl⟩

/-- The thread of the scheduler handles a command. -/
theorem handlesCommand (h : LiveInv cfg period e) {command : Command} {rest : List Command}
    (hthread : e.scheduler.thread = some .reading)
    (hcommands : e.scheduler.commandQueue.contents = command :: rest) (rebuffer : Bool) :
    LiveInv cfg period
      ((e.handleCommand command rebuffer).setScheduler (.checkingStop .command)) := by
  have hhandled : LiveInv cfg period { e with
      scheduler.commandQueue := e.scheduler.commandQueue.pop
      playing := e.playing && !command.type.suspends rebuffer
      history.settled := e.history.settled ++ [(command, true)] } := by
    have hrest : e.scheduler.commandQueue.pop.contents = rest := by
      rw [BoundedFifo.contents_pop, hcommands, List.tail_cons]
    refine { h with
      phase := h.phase
      playing := fun hends => ?_
      posted := ?_
      drained := fun hnone => ?_ }
    · show (e.playing && _) = false
      rw [h.playing hends, Bool.false_and]
    · show e.history.posted = (e.history.settled ++ [(command, true)]).map Prod.fst ++ _
      rw [hrest, h.posted, hcommands, List.map_append, List.append_assoc]
      rfl
    · cases hthread.symm.trans hnone
  have hnotified := h.not_working hthread nofun
  unfold LiveEngine.handleCommand
  dsimp only
  split
  · have hstops : LiveInv cfg period { e with
        scheduler.commandQueue := e.scheduler.commandQueue.pop
        playing := e.playing && !command.type.suspends rebuffer
        history.settled := e.history.settled ++ [(command, true)]
        simulator.engineStop := true
        scheduler.stopRequested := true } :=
      { hhandled with
        simulator := h.simulator.step .requests
        phase := hhandled.phase.requested
        left := fun _ _ _ => .inl rfl }
    exact hstops.schedulerStep hthread nofun nofun hnotified
  · exact hhandled.schedulerStep hthread nofun nofun hnotified

/-- **A thread goes on**, or the owner posts a command. -/
theorem threadStep (hworkers : 0 < cfg.executor.workerCount) (h : LiveInv cfg period e)
    {event : LiveEvent} {e' : LiveEngine S} (hstep : LiveStep cfg period e event e')
    (hevent : event ≠ .start ∧ event ≠ .stop ∧ ∀ made, event ≠ .owner made) :
    LiveInv cfg period e' := by
  have hphase := h.phase
  cases hstep with
  | refusesPost command hidle => exact h
  | posts command slot rest hidle haccepts hfree =>
    refine { h with phase := hphase, posted := ?_, drained := fun hnone => ?_ }
    · show e.history.posted ++ [command] = _ ++ (e.scheduler.commandQueue.contents ++ [command])
      rw [h.posted, List.append_assoc]
    · have hstarted : e.scheduler.started = true := by
        unfold LiveEngine.accepts at haccepts
        simp only [Bool.and_eq_true] at haccepts
        exact haccepts.1.1
      rw [h.scheduler, show e.scheduler.thread = none from hnone] at hstarted
      cases hstarted
  | worker event p hthread hstep =>
    have hstep := poolSystem_step hstep
    have hsame := hstep.sameOwner (by cases event <;> first | rfl | cases hthread)
    refine h.executorStep hworkers hstep (hphase.executor hsame)
      (.inl (hstep.notifications_le ?_))
    rintro task rfl
    cases hthread
  | findsStop rebuffer check hthread hstop =>
    obtain ⟨before, hbefore, hne⟩ :
        ∃ before, e.scheduler.thread = some before ∧ before ≠ .working := by
      rcases hthread with hthread | hthread <;> exact ⟨_, hthread, nofun⟩
    refine h.schedulerStep hbefore ?_ (fun _ => hstop) (h.not_working hbefore hne)
    cases check <;> nofun
  | checksEngine rebuffer check hthread hgoing =>
    exact h.schedulerStep hthread nofun nofun (h.not_working hthread nofun)
  | goesOn rebuffer check hthread hgoing =>
    refine h.schedulerStep hthread ?_ ?_ (h.not_working hthread nofun)
    · cases check <;> nofun
    · cases check <;> nofun
  | readsNothing rebuffer hthread hnone =>
    exact h.schedulerStep hthread nofun nofun (h.not_working hthread nofun)
  | handlesCommand rebuffer command rest hthread hcommands =>
    exact h.handlesCommand hthread hcommands rebuffer
  | endsPass rebuffer hthread hnotified => exact h.schedulerStep hthread nofun nofun hnotified
  | pauses rebuffer hthread =>
    have hpaused : LiveInv cfg period { e with playing := false } :=
      { h with phase := hphase, playing := fun _ => rfl }
    exact hpaused.schedulerStep hthread (fun _ => rfl) (fun _ => h.left _ hthread rfl)
      (h.not_working hthread nofun)
  | submits task p hworking hstep =>
    have hstep := poolSystem_step hstep
    have hle := hstep.notifications_le_succ
    rw [hworking.2] at hle
    exact h.executorStep hworkers hstep (hphase.executor (hstep.sameOwner rfl))
      (.inr ⟨hle, hworking.1⟩)
  | pops p hworking hstep =>
    have hstep := poolSystem_step hstep
    exact h.executorStep hworkers hstep (hphase.executor (hstep.sameOwner rfl))
      (.inl (hstep.notifications_le nofun))
  | plays playing hworking =>
    refine { h with phase := hphase, playing := fun hends => ?_ }
    rcases hends with hnone | hreturned
    · cases hworking.1.symm.trans hnone
    · cases hworking.1.symm.trans hreturned
  | clock elapsed result s hstep =>
    have hstep := simulatorSystem_step hstep
    obtain ⟨hstarted, hstopping, hstop⟩ := clock_same hstep
    exact h.simulatorStep ((h.simulator.later elapsed).step hstep)
      (hphase.simulator hstarted hstopping hstop) (hstep.engineStop nofun)
  | startsAgain => exact absurd rfl hevent.1
  | starts => exact absurd rfl hevent.1
  | stopsAgain => exact absurd rfl hevent.2.1
  | stops => exact absurd rfl hevent.2.1
  | _ => exact absurd rfl (hevent.2.2 _)

end LiveInv

end Anasa
