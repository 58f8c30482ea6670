import Anasa.Lifecycle.LiveGuarantees

/-!
# The progress of an engine

`start` and `stop` return, whichever threads can be made: while the owner is in one of them, it or a
thread that it waits for can go on, and each of their steps lowers `returnRank`. Of the other
threads, which go on as they please, only a submit adds to it.
-/

namespace Anasa

open Concurrency EventSystem LiveEngine

variable {S : Type} {cfg : Config} {period : ℤ}

/-! ## Ranks -/

/-- Steps of the thread until it returns, once a stop is requested. -/
def SchedulerPhase.toEnd : SchedulerPhase → ℕ
  | .checkingStop .command => 3
  | .checkingStop _ => 2
  | .checkingEngine .command => 3
  | .checkingEngine _ => 2
  | .reading => 4
  | .working => 3
  | .pausing => 1
  | .returned => 0

/-- Steps until the executor has stopped. -/
def WorkerPool.stopRest (p : WorkerPool S) : ℕ :=
  if p.owner.stopping then p.stopRank else 0

/-- Steps until `start` of an executor with so many workers returns. -/
def WorkerPool.startRest (workers : ℕ) (p : WorkerPool S) : ℕ :=
  match p.owner with
  | .idle => 0
  | .discarding => 5 * workers + 6
  | .spawning => workers - p.workers.length + 4 * workers + 5
  | .failing => 4 * workers + 4
  | _ => p.stopRest

/-- Steps until `start` or `stop` returns: of an executor with so many workers, with the notifications
to come and with what is left to each component. -/
def EnginePhase.rank (workers notifications start stop scheduler simulator : ℕ) : EnginePhase → ℕ
  | .idle => 0
  | .executorStart => 9 * workers + 30 + notifications
  | .inExecutorStart => start + 4 * workers + 23 + notifications
  | .schedulerStart => 4 * workers + 22 + notifications
  | .simulatorStart => 4 * workers + 21 + notifications
  | .failed => 4 * workers + 20 + notifications
  | .schedulerStop _ => 4 * workers + 19 + notifications
  | .schedulerJoin _ => scheduler + 4 * workers + 14 + notifications
  | .simulatorStop _ => 4 * workers + 13
  | .simulatorJoin _ => simulator + 4 * workers + 5
  | .executorStop _ => 4 * workers + 5
  | .inExecutorStop _ => stop + 1

/-- Steps until `start` or `stop` returns. -/
def LiveEngine.returnRank (cfg : Config) (e : LiveEngine S) : ℕ :=
  e.phase.rank cfg.executor.workerCount.toNat e.executor.notifications
    (e.executor.startRest cfg.executor.workerCount.toNat) e.executor.stopRest
    (e.scheduler.thread.elim 0 SchedulerPhase.toEnd) e.simulator.stopRank

/-- The rank is monotone in all but the phase. -/
theorem EnginePhase.rank_le {workers n n' start start' stop stop' scheduler scheduler' simulator
    simulator' : ℕ} (hn : n' ≤ n) (hstart : start' ≤ start) (hstop : stop' ≤ stop)
    (hscheduler : scheduler' ≤ scheduler) (hsimulator : simulator' ≤ simulator)
    (phase : EnginePhase) : phase.rank workers n' start' stop' scheduler' simulator' ≤
      phase.rank workers n start stop scheduler simulator := by
  cases phase <;> simp only [EnginePhase.rank] <;> omega

theorem SchedulerPhase.toEnd_le (phase : SchedulerPhase) : phase.toEnd ≤ 4 := by
  cases phase with
  | checkingStop check => cases check <;> decide
  | checkingEngine check => cases check <;> decide
  | _ => decide

/-! ## Events -/

/-- The owner waits for the thread of the scheduler. -/
def EnginePhase.joinsScheduler : EnginePhase → Bool
  | .schedulerJoin _ => true
  | _ => false

/-- The owner waits for the thread of the simulator. -/
def EnginePhase.joinsSimulator : EnginePhase → Bool
  | .simulatorJoin _ => true
  | _ => false

namespace LiveEngine

/-- A step of the owner, or of a thread that it waits for. -/
def awaits (e : LiveEngine S) : LiveEvent → Bool
  | .owner _ => true
  | .scheduler _ => e.phase.joinsScheduler
  | .worker (.notifyOne _) => e.executor.owner.stopping || e.phase.joinsScheduler
  | .worker _ => e.executor.owner.stopping
  | .clock _ _ => e.phase.joinsSimulator
  | _ => false

end LiveEngine

/-- What an event may add to the rank. -/
def LiveEvent.submissions : LiveEvent → ℕ
  | .submit _ => 1
  | _ => 0

/-! ## Steps of the executor -/

section

variable {p p' : WorkerPool S} {event : PoolEvent} {workers : ℕ}

/-- An executor whose owner waits for nobody has as much to do as before. -/
theorem startRest_of_sameOwner (hsame : SameOwner p p') (hlength : p'.workers.length = p.workers.length)
    (hgoing : p.owner.stopping = false) : p'.startRest workers = p.startRest workers := by
  have howner := hsame.owner
  unfold WorkerPool.startRest WorkerPool.stopRest
  rw [howner, hlength, hgoing]
  cases hp : p.owner with
  | notifying caller =>
    rw [hp] at hgoing
    cases hgoing
  | joining caller joined =>
    rw [hp] at hgoing
    cases hgoing
  | finishing caller =>
    rw [hp] at hgoing
    cases hgoing
  | _ => rfl

theorem PoolStep.length_eq (h : PoolStep cfg p event p') (hevent : event.notOwner = true) :
    p'.workers.length = p.workers.length := by
  cases h with
  | notifies => simp
  | exits => simp
  | waits => simp
  | takes => simp
  | wakes => simp
  | processes => simp
  | publishes => simp
  | refused => rfl
  | accepted => rfl
  | notifiesNobody => rfl
  | popsNothing => rfl
  | pops => rfl
  | _ => cases hevent

/-- What is left of a stop is left of a failed start. -/
theorem startRest_of_stopping (hstopping : p.owner.stopping = true) :
    p.startRest workers = p.stopRank := by
  have hrest : p.stopRest = p.stopRank := if_pos hstopping
  unfold WorkerPool.startRest
  cases hp : p.owner with
  | notifying caller => exact hrest
  | joining caller joined => exact hrest
  | finishing caller => exact hrest
  | _ =>
    rw [hp] at hstopping
    cases hstopping

/-- The owner goes on in `start` of an executor. -/
theorem startRest_step {made : Bool} (h : PoolInv cfg p) (hnotified : p.notifications = 0)
    (hlength : p.workers.length ≤ workers) (hworkers : cfg.executor.workerCount = workers)
    (hstep : PoolStep cfg p (.owner made) p') : 1 + p'.startRest workers ≤ p.startRest workers := by
  by_cases hstopping : p.owner.stopping = true
  · have hrank : 1 + p'.stopRank ≤ p.stopRank := stopRank_step h hstopping hstep
    rw [startRest_of_stopping hstopping]
    rcases hstep.stop_goes_on h hstopping with hgoes | ⟨hidle, -⟩
    · rwa [startRest_of_stopping hgoes]
    · unfold WorkerPool.startRest
      rw [hidle]
      dsimp only
      omega
  · have hrest : ∀ q : WorkerPool S, q.startRest workers = match q.owner with
        | .idle => 0
        | .discarding => 5 * workers + 6
        | .spawning => workers - q.workers.length + 4 * workers + 5
        | .failing => 4 * workers + 4
        | _ => q.stopRest := fun _ => rfl
    cases hstep with
    | discards made hat =>
      rw [hrest, hrest, hat]
      dsimp only
      omega
    | makes hat hfewer =>
      rw [hrest, hrest, hat]
      simp only [List.length_append, List.length_singleton]
      omega
    | fails hat hfewer =>
      rw [hrest, hrest, hat]
      dsimp only
      omega
    | hasStarted made hat hall =>
      rw [hrest, hrest, hat]
      simp only [WorkerPool.endOwner]
      omega
    | stopsFailed made hat =>
      have hle := (p.requestStop .start).stopRank_le
      rw [show (p.requestStop .start).workers = p.workers from rfl,
        show (p.requestStop .start).notifications = p.notifications from rfl] at hle
      rw [startRest_of_stopping (show (p.requestStop .start).owner.stopping = true from rfl),
        hrest, hat]
      dsimp only
      omega
    | notifiesAll made caller hat =>
      rw [hat] at hstopping
      exact absurd rfl hstopping
    | joins made caller joined hat =>
      rw [hat] at hstopping
      exact absurd rfl hstopping
    | clears made caller joined hat =>
      rw [hat] at hstopping
      exact absurd rfl hstopping
    | finishes made caller hat =>
      rw [hat] at hstopping
      exact absurd rfl hstopping

end

/-! ## Steps of the engine -/

/-- The thread of the scheduler matters only to an owner that joins it. -/
theorem EnginePhase.rank_scheduler {phase : EnginePhase} (h : phase.joinsScheduler = false)
    (workers n start stop scheduler scheduler' simulator : ℕ) :
    phase.rank workers n start stop scheduler' simulator =
      phase.rank workers n start stop scheduler simulator := by
  cases phase <;> first | rfl | cases h

theorem EnginePhase.rank_simulator {phase : EnginePhase} (h : phase.joinsSimulator = false)
    (workers n start stop scheduler simulator simulator' : ℕ) :
    phase.rank workers n start stop scheduler simulator' =
      phase.rank workers n start stop scheduler simulator := by
  cases phase <;> first | rfl | cases h

/-- A notification counts for one step at most. -/
theorem EnginePhase.rank_succ (phase : EnginePhase) (workers n start stop scheduler simulator : ℕ) :
    phase.rank workers (n + 1) start stop scheduler simulator ≤
      phase.rank workers n start stop scheduler simulator + 1 := by
  cases phase <;> simp only [EnginePhase.rank] <;> omega

section

variable {e e' : LiveEngine S}

namespace LiveInv

/-- Without a thread of the scheduler no notification is to come. -/
theorem no_notification (h : LiveInv cfg period e) (hstopped : e.scheduler.started = false) :
    e.executor.notifications = 0 :=
  h.notified.resolve_right fun hworking => by
    cases (h.scheduler_thread hstopped).symm.trans hworking.2

theorem length_le (h : LiveInv cfg period e) :
    e.executor.workers.length ≤ cfg.executor.workerCount.toNat := by
  have hlength := h.workers
  omega

/-- A thread of the executor goes on. -/
theorem worker_rank (h : LiveInv cfg period e) {event : PoolEvent} {p : WorkerPool S}
    (hthread : event.ofThread = true) (hstep : PoolStep cfg e.executor event p) :
    (if e.awaits (.worker event) then 1 else 0) + LiveEngine.returnRank cfg { e with executor := p } ≤
      e.returnRank cfg := by
  have hsame := hstep.sameOwner (by cases event <;> first | rfl | cases hthread)
  have hn : p.notifications ≤ e.executor.notifications := hstep.notifications_le (by
    rintro task rfl
    cases hthread)
  unfold LiveEngine.returnRank
  by_cases hstopping : e.executor.owner.stopping = true
  · have hstopping' : p.owner.stopping = true := hsame.owner ▸ hstopping
    have hcounted : event.isStopStep = true := by cases event <;> first | rfl | cases hthread
    have hrank := stopRank_step h.executor.1 hstopping hstep
    rw [if_pos hcounted] at hrank
    have hat := h.inExecutor fun hidle => by
      rw [hidle] at hstopping
      cases hstopping
    have hle : (if e.awaits (.worker event) then 1 else 0) ≤ 1 := by split <;> omega
    rw [startRest_of_stopping hstopping, startRest_of_stopping hstopping',
      show e.executor.stopRest = _ from if_pos hstopping, show p.stopRest = _ from if_pos hstopping']
    cases hphase : e.phase with
    | inExecutorStart =>
      simp only [EnginePhase.rank]
      omega
    | inExecutorStop caller =>
      simp only [EnginePhase.rank]
      omega
    | _ =>
      rw [hphase] at hat
      cases hat
  · have hgoing := Bool.eq_false_iff.mpr hstopping
    have hlength := hstep.length_eq (by cases event <;> first | rfl | cases hthread)
    have hgoing' : p.owner.stopping = false := hsame.owner ▸ hgoing
    rw [startRest_of_sameOwner hsame hlength hgoing,
      show e.executor.stopRest = 0 from if_neg hstopping,
      show p.stopRest = 0 from if_neg (Bool.eq_false_iff.mp hgoing')]
    by_cases hcounted : e.awaits (.worker event) = true
    · -- The scheduler makes its notification, and the owner waits for it.
      rw [if_pos hcounted]
      have hnotifies : ∃ woken, event = .notifyOne woken ∧ e.phase.joinsScheduler = true := by
        unfold LiveEngine.awaits at hcounted
        cases event <;> simp only [hgoing, Bool.false_or, Bool.false_eq_true] at hcounted
        exact ⟨_, rfl, hcounted⟩
      obtain ⟨woken, rfl, hjoins⟩ := hnotifies
      have hless : p.notifications < e.executor.notifications := by
        cases hstep with
        | notifiesNobody hpending => exact Nat.sub_lt hpending Nat.one_pos
        | notifies worker hpending => exact Nat.sub_lt hpending Nat.one_pos
      cases hphase : e.phase with
      | schedulerJoin caller =>
        simp only [EnginePhase.rank]
        omega
      | _ =>
        rw [hphase] at hjoins
        cases hjoins
    · rw [if_neg hcounted, Nat.zero_add]
      exact EnginePhase.rank_le hn le_rfl le_rfl le_rfl le_rfl e.phase

/-- The thread of the scheduler goes on. -/
theorem scheduler_rank {before after : SchedulerPhase} {rebuffer : Bool}
    (hthread : e.scheduler.thread = some before) (hthread' : e'.scheduler.thread = some after)
    (hphase : e'.phase = e.phase) (hexecutor : e'.executor = e.executor)
    (hsimulator : e'.simulator.stopRank = e.simulator.stopRank)
    (hless : e.phase.joinsScheduler = true → after.toEnd < before.toEnd) :
    (if e.awaits (.scheduler rebuffer) then 1 else 0) + e'.returnRank cfg ≤ e.returnRank cfg := by
  unfold LiveEngine.returnRank
  rw [hphase, hexecutor, hsimulator, hthread, hthread']
  by_cases hjoins : e.phase.joinsScheduler = true
  · rw [show e.awaits (.scheduler rebuffer) = true from hjoins, if_pos rfl]
    have hless := hless hjoins
    cases hat : e.phase with
    | schedulerJoin caller =>
      simp only [EnginePhase.rank, Option.elim]
      omega
    | _ =>
      rw [hat] at hjoins
      cases hjoins
  · have hgoing := Bool.eq_false_iff.mpr hjoins
    rw [show e.awaits (.scheduler rebuffer) = false from hgoing, if_neg Bool.false_ne_true,
      Nat.zero_add]
    exact (EnginePhase.rank_scheduler hgoing _ _ _ _ _ _ _).le

/-- While the owner waits for the thread of the scheduler, every check finds a stop. -/
theorem stops_found (h : LiveInv cfg period e) (hjoins : e.phase.joinsScheduler = true) :
    e.scheduler.stopRequested = true ∧ e.simulator.engineStop = true := by
  have hphase := h.phase
  cases hat : e.phase with
  | schedulerJoin caller =>
    rw [hat] at hphase
    exact ⟨hphase.2.2.2.1, hphase.2.2.1⟩
  | _ =>
    rw [hat] at hjoins
    cases hjoins

/-- The thread of the simulator goes on. -/
theorem clock_rank (h : LiveInv cfg period e) {elapsed : ℕ} {result : AudioProcessResult}
    {s : AudioSimulator}
    (hstep : SimulatorStep period (e.simulator.later elapsed) (.clock result) s) :
    (if e.awaits (.clock elapsed result) then 1 else 0) +
      LiveEngine.returnRank cfg { e with simulator := s } ≤ e.returnRank cfg := by
  unfold LiveEngine.returnRank
  by_cases hjoins : e.phase.joinsSimulator = true
  · rw [show e.awaits (.clock elapsed result) = true from hjoins, if_pos rfl]
    have hphase := h.phase
    cases hat : e.phase with
    | simulatorJoin caller =>
      rw [hat] at hphase
      have hrank := clockRank_step (e := ⟨elapsed, .clock result⟩)
        (s := e.simulator.later elapsed) (h.simulator.later elapsed) hphase.2.1 hstep
      rw [show SimulatorEvent.isStopStep ⟨elapsed, .clock result⟩ = true from rfl, if_pos rfl,
        show (e.simulator.later elapsed).stopRank = e.simulator.stopRank from rfl] at hrank
      simp only [EnginePhase.rank]
      omega
    | _ =>
      rw [hat] at hjoins
      cases hjoins
  · have hgoing := Bool.eq_false_iff.mpr hjoins
    rw [show e.awaits (.clock elapsed result) = false from hgoing, if_neg Bool.false_ne_true,
      Nat.zero_add]
    exact (EnginePhase.rank_simulator hgoing _ _ _ _ _ _ _).le

/-- The scheduler calls the executor, and may have a notification to make. -/
theorem call_rank (h : LiveInv cfg period e) {event : PoolEvent} {p : WorkerPool S}
    (hworking : e.Working) (hevent : event.notOwner = true)
    (hstep : PoolStep cfg e.executor event p) :
    LiveEngine.returnRank cfg { e with executor := p } ≤ p.notifications + e.returnRank cfg := by
  have hscheduler : e.scheduler.started = true := by
    rw [h.scheduler, hworking.1]
    rfl
  obtain ⟨hidle, -⟩ := h.served hscheduler
  have hgoing : e.executor.owner.stopping = false := by
    rw [hidle]
    rfl
  have hsame := hstep.sameOwner hevent
  have hrest : p.stopRest = e.executor.stopRest := by
    unfold WorkerPool.stopRest
    rw [hsame.owner, hgoing]
    rfl
  have hle := hstep.notifications_le_succ
  rw [hworking.2] at hle
  unfold LiveEngine.returnRank
  rw [startRest_of_sameOwner hsame (hstep.length_eq hevent) hgoing, hrest, hworking.2]
  rcases Nat.le_one_iff_eq_zero_or_eq_one.mp hle with hnone | hone
  · rw [hnone, Nat.zero_add]
  · rw [hone, Nat.add_comm]
    exact EnginePhase.rank_succ e.phase _ _ _ _ _ _

/-- **The owner goes on** in `start` or `stop`. -/
theorem owner_rank (hworkers : 0 < cfg.executor.workerCount) (h : LiveInv cfg period e) {made : Bool}
    (hstep : LiveStep cfg period e (.owner made) e') :
    1 + e'.returnRank cfg ≤ e.returnRank cfg := by
  have hphase := h.phase
  have hcount : cfg.executor.workerCount = (cfg.executor.workerCount.toNat : ℤ) := by omega
  unfold LiveEngine.returnRank
  cases hstep with
  | callsExecutorStart made p hat hstep =>
    have hstep := poolSystem_step hstep
    rw [hat]
    simp only [EnginePhase.rank]
    have hn := hstep.notifications_le nofun
    have hrest : p.startRest cfg.executor.workerCount.toNat ≤
        5 * cfg.executor.workerCount.toNat + 6 := by
      cases hstep with
      | startsAgain => exact Nat.zero_le _
      | starts => exact Nat.le_refl _
    omega
  | inExecutor made p hat howner hstep =>
    have hstep := poolSystem_step hstep
    have hnone := h.no_notification (h.alone hat).1
    have hrest := startRest_step h.executor.1 hnone h.length_le hcount hstep
    have hn := hstep.notifications_le nofun
    cases hat' : e.phase with
    | inExecutorStart =>
      simp only [EnginePhase.rank]
      omega
    | inExecutorStop caller =>
      rw [hat'] at hphase
      have hstopping := hphase.1.resolve_right fun hidle => howner hidle.1
      have hrank : 1 + p.stopRank ≤ e.executor.stopRank :=
        stopRank_step h.executor.1 hstopping hstep
      have hle : p.stopRest ≤ p.stopRank := by
        unfold WorkerPool.stopRest
        split
        · exact le_rfl
        · exact Nat.zero_le _
      simp only [EnginePhase.rank, show e.executor.stopRest = _ from if_pos hstopping]
      omega
    | _ =>
      rw [hat'] at hat
      cases hat
  | executorStarted made hat howner hresult =>
    rw [hat]
    simp only [LiveEngine.enter, EnginePhase.rank]
    omega
  | executorFailed made hat howner hresult =>
    rw [hat]
    simp only [LiveEngine.enter, EnginePhase.rank]
    omega
  | schedulerStarted made hat hs =>
    rw [hat]
    simp only [LiveEngine.enter, EnginePhase.rank]
    omega
  | schedulerStarts hat hstopped =>
    rw [hat]
    simp only [EnginePhase.rank]
    omega
  | schedulerFails hat hstopped =>
    rw [hat]
    simp only [EnginePhase.rank]
    omega
  | simulatorStarts made s hat hstep hs =>
    have hstep := act_step hstep
    rw [hat]
    simp only [EnginePhase.rank]
    omega
  | simulatorFails made s hat hstep hs =>
    have hstep := act_step hstep
    rw [hat]
    simp only [EnginePhase.rank]
    omega
  | handlesFailure made hat =>
    rw [hat]
    simp only [LiveEngine.requestStop, LiveEngine.enter, EnginePhase.rank]
    omega
  | stopsScheduler made caller hat hs =>
    rw [hat]
    have hend : e.scheduler.thread.elim 0 SchedulerPhase.toEnd ≤ 4 := by
      cases e.scheduler.thread with
      | none => exact Nat.zero_le _
      | some phase => exact phase.toEnd_le
    simp only [EnginePhase.rank]
    omega
  | skipsScheduler made caller hat hs =>
    rw [hat]
    simp only [LiveEngine.enter, EnginePhase.rank]
    omega
  | joinsScheduler made caller hat hthread =>
    rw [hat]
    simp only [EnginePhase.rank]
    omega
  | stopsSimulator made caller s hat hstep =>
    have hstep := act_step hstep
    rw [hat]
    have hrank := s.stopRank_le
    dsimp only
    by_cases hjoins : s.stopping = true
    · rw [if_pos hjoins]
      simp only [EnginePhase.rank]
      omega
    · rw [if_neg hjoins]
      simp only [EnginePhase.rank]
      omega
  | joinsSimulator made caller s hat hstep =>
    have hstep := act_step hstep
    rw [hat] at hphase ⊢
    have hrank := clockRank_step (e := ⟨0, .join⟩) h.simulator hphase.2.1 hstep
    rw [show SimulatorEvent.isStopStep ⟨0, .join⟩ = true from rfl, if_pos rfl] at hrank
    simp only [EnginePhase.rank]
    omega
  | callsExecutorStop made caller p hat hstep =>
    have hstep := poolSystem_step hstep
    rw [hat] at hphase ⊢
    have hnone := h.no_notification hphase.2.1
    have hlength := h.length_le
    have hrest : p.stopRest ≤ 4 * cfg.executor.workerCount.toNat + 3 := by
      cases hstep with
      | stopsAgain => exact Nat.zero_le _
      | stops howner hs =>
        have hle := (e.executor.requestStop .owner).stopRank_le
        rw [show (e.executor.requestStop .owner).workers = e.executor.workers from rfl,
          show (e.executor.requestStop .owner).notifications = e.executor.notifications from rfl]
          at hle
        show (e.executor.requestStop .owner).stopRank ≤ _
        omega
    simp only [EnginePhase.rank]
    omega
  | finishes made caller hat howner =>
    rw [hat]
    cases caller <;> simp only [LiveEngine.finish, LiveEngine.endOwner, EnginePhase.rank] <;> omega

/-- **While the owner is in `start` or `stop`** each step that it awaits lowers the rank. -/
theorem rank_step (hworkers : 0 < cfg.executor.workerCount) (h : LiveInv cfg period e)
    {event : LiveEvent} (hbusy : e.phase ≠ .idle) (hstep : LiveStep cfg period e event e') :
    (if e.awaits event then 1 else 0) + e'.returnRank cfg ≤
      event.submissions + e.returnRank cfg := by
  cases event with
  | start =>
    cases hstep with
    | startsAgain hidle => exact absurd hidle hbusy
    | starts hidle => exact absurd hidle hbusy
  | stop =>
    cases hstep with
    | stopsAgain hidle => exact absurd hidle hbusy
    | stops hidle => exact absurd hidle hbusy
  | post command =>
    cases hstep with
    | refusesPost _ hidle => exact absurd hidle hbusy
    | posts _ slot rest hidle => exact absurd hidle hbusy
  | owner made =>
    rw [show e.awaits (.owner made) = true from rfl, if_pos rfl]
    exact (h.owner_rank hworkers hstep).trans (Nat.le_add_left _ _)
  | worker event =>
    cases hstep with
    | worker _ p hthread hstep =>
      exact (h.worker_rank hthread (poolSystem_step hstep)).trans (Nat.le_add_left _ _)
  | scheduler rebuffer =>
    refine le_trans ?_ (Nat.le_add_left _ _)
    cases hstep with
    | findsStop _ check hthread hstop =>
      rcases hthread with hthread | hthread <;>
        exact scheduler_rank hthread rfl rfl rfl rfl fun _ => by cases check <;> decide
    | checksEngine _ check hthread hgoing =>
      refine scheduler_rank hthread rfl rfl rfl rfl fun hjoins => ?_
      cases (h.stops_found hjoins).1.symm.trans hgoing
    | goesOn _ check hthread hgoing =>
      refine scheduler_rank hthread rfl rfl rfl rfl fun hjoins => ?_
      cases (h.stops_found hjoins).2.symm.trans hgoing
    | readsNothing _ hthread => exact scheduler_rank hthread rfl rfl rfl rfl fun _ => by decide
    | handlesCommand _ command rest hthread =>
      have hsame : ∀ e : LiveEngine S, (e.handleCommand command rebuffer).phase = e.phase ∧
          (e.handleCommand command rebuffer).executor = e.executor ∧
          (e.handleCommand command rebuffer).simulator.stopRank = e.simulator.stopRank := by
        intro e
        unfold LiveEngine.handleCommand
        dsimp only
        split <;> exact ⟨rfl, rfl, rfl⟩
      obtain ⟨hphase, hexecutor, hsimulator⟩ := hsame e
      exact scheduler_rank hthread rfl hphase hexecutor hsimulator fun _ => by decide
    | endsPass _ hthread => exact scheduler_rank hthread rfl rfl rfl rfl fun _ => by decide
    | pauses _ hthread => exact scheduler_rank hthread rfl rfl rfl rfl fun _ => by decide
  | submit task =>
    cases hstep with
    | submits _ p hworking hstep =>
      have hstep := poolSystem_step hstep
      have hle := hstep.notifications_le_succ
      rw [hworking.2] at hle
      have hrank := h.call_rank hworking rfl hstep
      show 0 + _ ≤ 1 + _
      omega
  | popCompleted =>
    cases hstep with
    | pops p hworking hstep =>
      have hstep := poolSystem_step hstep
      have hle := hstep.notifications_le nofun
      rw [hworking.2] at hle
      have hrank := h.call_rank hworking rfl hstep
      show 0 + _ ≤ 0 + _
      omega
  | play playing =>
    cases hstep with
    | plays => exact le_rfl
  | clock elapsed result =>
    cases hstep with
    | clock _ _ s hstep => exact (h.clock_rank (simulatorSystem_step hstep)).trans (Nat.le_add_left _ _)

/-! ### Nothing is stuck -/

theorem enabled_owner (made : Bool) (h : (e.ownerStep cfg made).isSome = true) :
    ∃ event, e.awaits event = true ∧ (liveSystem cfg period).Enabled e event :=
  ⟨.owner made, rfl, h⟩

/-- A call of the executor goes on. -/
theorem executor_enabled (h : LiveInv cfg period e) (hat : e.phase.inExecutor = true)
    (howner : e.executor.owner ≠ .idle) :
    ∃ event, e.awaits event = true ∧ (liveSystem cfg period).Enabled e event := by
  have hgoes : ∀ made, (e.executor.ownerStep cfg made).isSome = true →
      (e.ownerStep cfg made).isSome = true := by
    intro made hsome
    unfold LiveEngine.ownerStep
    cases hat' : e.phase with
    | inExecutorStart =>
      dsimp only
      rw [if_neg howner, Option.isSome_map]
      exact hsome
    | inExecutorStop caller =>
      dsimp only
      rw [if_neg howner, Option.isSome_map]
      exact hsome
    | _ =>
      rw [hat'] at hat
      cases hat
  by_cases hstopping : e.executor.owner.stopping = true
  · obtain ⟨event, hcounted, henabled⟩ := stop_enabled h.executor.1 hstopping
    have hthread : ∀ event : PoolEvent, event.ofThread = true →
        (poolSystem cfg).Enabled e.executor event → e.awaits (.worker event) = true →
          ∃ event, e.awaits event = true ∧ (liveSystem cfg period).Enabled e event := by
      intro event hthread henabled hawaits
      refine ⟨.worker event, hawaits, ?_⟩
      show (if event.ofThread = true then _ else none).isSome = true
      rw [if_pos hthread, Option.isSome_map]
      exact henabled
    cases event with
    | submit task => cases hcounted
    | popCompleted => cases hcounted
    | start =>
      have henabled : e.executor.start.isSome = true := henabled
      unfold WorkerPool.start at henabled
      rw [if_neg howner] at henabled
      cases henabled
    | stop =>
      have henabled : e.executor.stop.isSome = true := henabled
      unfold WorkerPool.stop at henabled
      rw [if_neg howner] at henabled
      cases henabled
    | owner made => exact enabled_owner made (hgoes made henabled)
    | notifyOne woken =>
      refine hthread _ rfl henabled ?_
      show (e.executor.owner.stopping || _) = true
      rw [hstopping, Bool.true_or]
    | check worker => exact hthread _ rfl henabled hstopping
    | wake worker => exact hthread _ rfl henabled hstopping
    | process worker rendered => exact hthread _ rfl henabled hstopping
    | publish worker => exact hthread _ rfl henabled hstopping
  · refine enabled_owner true (hgoes true ?_)
    unfold WorkerPool.ownerStep
    cases hexecutor : e.executor.owner with
    | idle => exact absurd hexecutor howner
    | discarding => rfl
    | spawning =>
      dsimp only
      split <;> rfl
    | failing => rfl
    | _ =>
      rw [hexecutor] at hstopping
      exact absurd rfl hstopping

/-- The join of the scheduler goes on. -/
theorem join_enabled {caller : StopCaller} (hat : e.phase = .schedulerJoin caller) :
    ∃ event, e.awaits event = true ∧ (liveSystem cfg period).Enabled e event := by
  have hawaits : e.phase.joinsScheduler = true := by
    rw [hat]
    rfl
  have hjoin : e.scheduler.thread = none ∨ e.scheduler.thread = some .returned →
      ∃ event, e.awaits event = true ∧ (liveSystem cfg period).Enabled e event := by
    intro hthread
    refine enabled_owner true ?_
    unfold LiveEngine.ownerStep LiveEngine.joinScheduler
    rw [hat]
    dsimp only
    rw [if_pos hthread]
    rfl
  have hstep : (e.schedulerStep true).isSome = true →
      ∃ event, e.awaits event = true ∧ (liveSystem cfg period).Enabled e event :=
    fun hsome => ⟨.scheduler true, hawaits, hsome⟩
  cases hthread : e.scheduler.thread with
  | none => exact hjoin (.inl hthread)
  | some phase =>
    cases phase with
    | returned => exact hjoin (.inr hthread)
    | working =>
      by_cases hnone : e.executor.notifications = 0
      · refine hstep ?_
        unfold LiveEngine.schedulerStep
        rw [hthread]
        dsimp only
        rw [if_pos hnone]
        rfl
      · have hpending := Nat.pos_of_ne_zero hnone
        have hnotify : ∀ woken, (e.executor.notifyOne woken).isSome = true →
            ∃ event, e.awaits event = true ∧ (liveSystem cfg period).Enabled e event := by
          intro woken hsome
          refine ⟨.worker (.notifyOne woken), ?_, ?_⟩
          · show (_ || e.phase.joinsScheduler) = true
            rw [hawaits, Bool.or_true]
          · show (Option.map _ (e.executor.notifyOne woken)).isSome = true
            rw [Option.isSome_map]
            exact hsome
        by_cases hwaiting : WorkerPhase.waiting ∈ e.executor.workers
        · obtain ⟨i, hi⟩ := List.mem_iff_getElem?.mp hwaiting
          refine hnotify (some i) ?_
          unfold WorkerPool.notifyOne
          dsimp only
          rw [if_pos ⟨hpending, hi⟩]
          rfl
        · refine hnotify none ?_
          unfold WorkerPool.notifyOne
          dsimp only
          rw [if_pos ⟨hpending, hwaiting⟩]
          rfl
    | reading =>
      refine hstep ?_
      unfold LiveEngine.schedulerStep
      rw [hthread]
      dsimp only
      split <;> rfl
    | _ =>
      refine hstep ?_
      unfold LiveEngine.schedulerStep
      rw [hthread]
      rfl

/-- **Nothing is stuck**: the owner can go on, or a thread that it waits for. -/
theorem awaited_enabled (h : LiveInv cfg period e) (hbusy : e.phase ≠ .idle) :
    ∃ event, e.awaits event = true ∧ (liveSystem cfg period).Enabled e event := by
  have hphase := h.phase
  cases hat : e.phase with
  | idle => exact absurd hat hbusy
  | executorStart =>
    rw [hat] at hphase
    refine enabled_owner true ?_
    unfold LiveEngine.ownerStep WorkerPool.start
    rw [hat]
    dsimp only
    rw [Option.isSome_map, if_pos hphase.1.1]
    split <;> rfl
  | inExecutorStart =>
    by_cases howner : e.executor.owner = .idle
    · refine enabled_owner true ?_
      unfold LiveEngine.ownerStep
      rw [hat]
      dsimp only
      rw [if_pos howner]
      rfl
    · exact h.executor_enabled (by rw [hat]; rfl) howner
  | simulatorStart =>
    rw [hat] at hphase
    refine enabled_owner true ?_
    unfold LiveEngine.ownerStep LiveEngine.startSimulator AudioSimulator.start
    rw [hat]
    dsimp only
    rw [Option.isSome_map, if_neg (Bool.eq_false_iff.mp hphase.1.2)]
    split <;> rfl
  | schedulerJoin caller => exact join_enabled hat
  | simulatorStop caller =>
    rw [hat] at hphase
    refine enabled_owner true ?_
    unfold LiveEngine.ownerStep LiveEngine.stopSimulator AudioSimulator.stop
    rw [hat]
    dsimp only
    rw [Option.isSome_map, if_neg (Bool.eq_false_iff.mp hphase.1.2)]
    split <;> rfl
  | simulatorJoin caller =>
    rw [hat] at hphase
    obtain ⟨⟨elapsed, action⟩, hcounted, henabled⟩ := clockStop_enabled period hphase.2.1
    cases action with
    | join =>
      refine enabled_owner true ?_
      unfold LiveEngine.ownerStep
      rw [hat]
      dsimp only
      rw [Option.isSome_map]
      have hlater : ((e.simulator.later elapsed).join).isSome = e.simulator.join.isSome := by
        unfold AudioSimulator.join AudioSimulator.later
        dsimp only
        split
        · split <;> rfl
        · rfl
      exact hlater.symm.trans henabled
    | clock result =>
      refine ⟨.clock elapsed result, ?_, ?_⟩
      · show e.phase.joinsSimulator = true
        rw [hat]
        rfl
      · show (Option.map _ _).isSome = true
        rw [Option.isSome_map]
        exact henabled
    | _ => cases hcounted
  | executorStop caller =>
    rw [hat] at hphase
    refine enabled_owner true ?_
    unfold LiveEngine.ownerStep WorkerPool.stop
    rw [hat]
    dsimp only
    rw [Option.isSome_map, if_pos hphase.1.1]
    split <;> rfl
  | inExecutorStop caller =>
    by_cases howner : e.executor.owner = .idle
    · refine enabled_owner true ?_
      unfold LiveEngine.ownerStep
      rw [hat]
      dsimp only
      rw [if_pos howner]
      rfl
    · exact h.executor_enabled (by rw [hat]; rfl) howner
  | _ =>
    refine enabled_owner true ?_
    unfold LiveEngine.ownerStep
    rw [hat]
    rfl

/-! ### The end of a call -/

theorem startRest_le {p : WorkerPool S} {workers : ℕ} (hlength : p.workers.length ≤ workers) :
    p.startRest workers ≤ 5 * workers + 6 + p.notifications := by
  by_cases hstopping : p.owner.stopping = true
  · have hrank := p.stopRank_le
    rw [startRest_of_stopping hstopping]
    omega
  · unfold WorkerPool.startRest
    cases hp : p.owner with
    | idle => exact Nat.zero_le _
    | discarding => exact Nat.le_add_right _ _
    | spawning =>
      dsimp only
      omega
    | failing =>
      dsimp only
      omega
    | _ =>
      rw [hp] at hstopping
      exact absurd rfl hstopping

theorem returnRank_le (h : LiveInv cfg period e) :
    e.returnRank cfg ≤ 9 * cfg.executor.workerCount.toNat + 31 := by
  have hn : e.executor.notifications ≤ 1 := by
    rcases h.notified with hnone | ⟨hone, -⟩ <;> omega
  have hlength := h.length_le
  have hstart := startRest_le hlength
  have hstop : e.executor.stopRest ≤ 4 * cfg.executor.workerCount.toNat + 4 := by
    have hrank := e.executor.stopRank_le
    unfold WorkerPool.stopRest
    split <;> omega
  have hend : e.scheduler.thread.elim 0 SchedulerPhase.toEnd ≤ 4 := by
    cases e.scheduler.thread with
    | none => exact Nat.zero_le _
    | some phase => exact phase.toEnd_le
  have hsimulator := e.simulator.stopRank_le
  have hbusy : e.phase = .inExecutorStart → e.executor.notifications = 0 := fun hat =>
    h.no_notification (h.alone (by rw [hat]; rfl)).1
  unfold LiveEngine.returnRank
  cases hat : e.phase with
  | inExecutorStart =>
    have hnone := hbusy hat
    simp only [EnginePhase.rank]
    omega
  | _ =>
    simp only [EnginePhase.rank]
    omega

end LiveInv

end

/-- How a call of `start` or `stop` ends. -/
structure CallEnds (e e' : LiveEngine S) (last : EnginePhase) (result : OwnerResult)
    (started : Bool) : Prop where
  last : e.phase = last
  result : e'.result = result
  started : e'.started = started

/-- What holds of an engine whose owner is in `start` or `stop`. -/
structure OwnerReturns (cfg : Config) (period : ℤ) (e : LiveEngine S) : Prop where
  /-- Nobody waits in vain. -/
  goes_on : ∃ event, e.awaits event = true ∧ (liveSystem cfg period).Enabled e event
  /-- The owner and the threads that it waits for take a bounded number of steps. -/
  bounded : ∀ es e', (liveSystem cfg period).run es e = some e' →
    (liveSystem cfg period).Throughout (fun e : LiveEngine S => e.phase ≠ .idle) es e →
      (liveSystem cfg period).count LiveEngine.awaits es e ≤
        (es.map LiveEvent.submissions).sum + (9 * cfg.executor.workerCount.toNat + 31)
  returns : ∃ es e', (liveSystem cfg period).Steps (fun e event => e.awaits event = true) es e ∧
    (liveSystem cfg period).run es e = some e' ∧ e'.phase = .idle
  ends : ∀ event e', (liveSystem cfg period).next e event = some e' → e'.phase = .idle →
    CallEnds e e' .simulatorStart .started true ∨
      CallEnds e e' (.inExecutorStop .owner) .stopped false ∨
      CallEnds e e' (.inExecutorStop .start) .startFailed false

/-- The last step of a call. -/
theorem call_ends {cfg : Config} {e e' : LiveEngine S} {event : LiveEvent}
    (h : LiveInv cfg period e) (hbusy : e.phase ≠ .idle) (hstep : LiveStep cfg period e event e')
    (hidle : e'.phase = .idle) : CallEnds e e' .simulatorStart .started true ∨
      CallEnds e e' (.inExecutorStop .owner) .stopped false ∨
      CallEnds e e' (.inExecutorStop .start) .startFailed false := by
  cases hstep with
  | startsAgain hat => exact absurd hat hbusy
  | starts hat => exact absurd hat hbusy
  | stopsAgain hat => exact absurd hat hbusy
  | stops hat => exact absurd hat hbusy
  | callsExecutorStart => cases hidle
  | inExecutor => exact absurd hidle hbusy
  | executorStarted => cases hidle
  | executorFailed => cases hidle
  | schedulerStarted => cases hidle
  | schedulerStarts => cases hidle
  | schedulerFails => cases hidle
  | simulatorStarts made s hat => exact .inl ⟨hat, rfl, rfl⟩
  | simulatorFails => cases hidle
  | handlesFailure => cases hidle
  | stopsScheduler => cases hidle
  | skipsScheduler => cases hidle
  | joinsScheduler => cases hidle
  | stopsSimulator made caller s hat =>
    dsimp only at hidle
    split at hidle <;> cases hidle
  | joinsSimulator => cases hidle
  | callsExecutorStop => cases hidle
  | finishes made caller hat howner =>
    have hphase := h.phase
    rw [hat] at hphase
    cases caller with
    | owner => exact .inr (.inl ⟨hat, rfl, rfl⟩)
    | start => exact .inr (.inr ⟨hat, rfl, hphase.2.2.2.2 rfl⟩)
  | refusesPost _ hat => exact absurd hat hbusy
  | posts _ _ _ hat => exact absurd hat hbusy
  | handlesCommand rebuffer command =>
    have hsame : ((e.handleCommand command rebuffer).setScheduler (.checkingStop .command)).phase =
        e.phase := by
      unfold LiveEngine.handleCommand
      dsimp only
      split <;> rfl
    exact absurd (hsame.symm.trans hidle) hbusy
  | _ => exact absurd hidle hbusy

variable {cfg : AcceptedConfig} {e : LiveEngine S}

/-- **`start` and `stop` return.** -/
theorem liveRun_returns (h : LiveReachable cfg.toConfig period e) (hbusy : e.phase ≠ .idle) :
    OwnerReturns cfg.toConfig period e := by
  have hworkers := cfg.executor_pos.1
  have hinv := h.inv
  have hinductive : (liveSystem cfg.toConfig period).Inductive (LiveInv (S := S) _ period) :=
    liveInv_inductive hworkers
  have hamortized : (liveSystem cfg.toConfig period).Amortized (LiveInv (S := S) cfg.toConfig period)
      (fun e => e.phase ≠ .idle) LiveEngine.awaits LiveEvent.submissions
      (LiveEngine.returnRank cfg.toConfig) :=
    fun e event e' hinv hbusy hnext => hinv.rank_step hworkers hbusy (liveSystem_step hnext)
  refine ⟨hinv.awaited_enabled hbusy, fun es e' hrun hduring => ?_, ?_, fun event e' hnext =>
    call_ends hinv hbusy (liveSystem_step hnext)⟩
  · have hcount := hamortized.count_le hinductive hinv hduring hrun
    have hrank := hinv.returnRank_le
    omega
  · obtain ⟨es, e', hsteps, hrun, hdone⟩ := hamortized.reaches hinductive
      (fun e event hawaits => by
        cases event with
        | submit task => cases hawaits
        | _ => rfl)
      (fun e hinv hbusy => hinv.awaited_enabled hbusy) hinv
    exact ⟨es, e', hsteps, hrun, not_not.mp hdone⟩

/-- The owner waits for a scheduler that has a task to notify a worker of. -/
def submittingEvents : List LiveEvent :=
  .start :: List.replicate 7 (.owner true) ++ .post { type := .play } ::
    List.replicate 8 (.scheduler false) ++ [.submit ⟨0, 0⟩, .stop, .owner true]

theorem liveRun_returns_submitting :
    OwnerReturns oneWorkerConfig.toConfig 10 (liveAfter submittingEvents) ∧
      (liveAfter submittingEvents).phase = .schedulerJoin .owner ∧
      (liveAfter submittingEvents).scheduler.thread = some .working ∧
      (liveAfter submittingEvents).executor.notifications = 1 :=
  ⟨liveRun_returns (liveAfter_reachable (by decide +kernel)) (by decide +kernel),
    by decide +kernel, by decide +kernel, by decide +kernel⟩

end Anasa
