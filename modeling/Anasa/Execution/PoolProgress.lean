import Mathlib.Algebra.Order.BigOperators.Group.List
import Mathlib.Algebra.Order.Ring.Nat
import Mathlib.Algebra.Group.Action.Defs
import Anasa.Execution.PoolTasks

/-!
# The progress of a worker pool

What holds in every state that a worker pool can reach, and where it gets to from there.

1. **Work conservation.** No wakeup is lost: the workers cannot all sleep while a task is queued.
   They do not spin either: a pass of a worker is paid by a task or by a wakeup.
2. **Stopping.** From its request on, `stop` takes a bounded number of steps and never waits for a
   worker that will not come.
3. **Tasks.** Each accepted task is taken once, in order, or dropped with its job cancelled.
-/

namespace Anasa

open Concurrency EventSystem

variable {S : Type} {cfg : Config}

/-! ## Reachable states -/

/-- What every event keeps. -/
def PoolKept (cfg : Config) (p : WorkerPool S) : Prop := PoolInv cfg p ∧ TasksInv p

theorem PoolKept.init {cfg : AcceptedConfig} {r : RenderState S} (hr : r.executor = {}) :
    PoolKept cfg.toConfig { render := r } := by
  refine ⟨.init cfg.executor_pos.2 hr, ?_, fun _ _ => rfl, List.Perm.refl _, nofun⟩
  show [] = [] ++ [] ++ r.executor.renderTasks
  rw [hr]
  rfl

theorem PoolKept.step {p p' : WorkerPool S} {e : PoolEvent}
    (hworkers : 0 < cfg.executor.workerCount) (h : PoolKept cfg p) (hstep : PoolStep cfg p e p') :
    PoolKept cfg p' := ⟨h.1.step hworkers hstep, h.2.step h.1 hstep⟩

theorem poolKept_inductive (hworkers : 0 < cfg.executor.workerCount) :
    (poolSystem cfg).Inductive (PoolKept (S := S) cfg) :=
  fun _ _ _ h hnext => h.step hworkers (poolSystem_step hnext)

theorem PoolReachable.kept {cfg : AcceptedConfig} {r : RenderState S} {p : WorkerPool S}
    (h : PoolReachable cfg.toConfig r p) : PoolKept cfg.toConfig p := by
  obtain ⟨hr, es, hrun⟩ := h
  exact (poolKept_inductive cfg.executor_pos.1).run (.init hr) hrun

/-! ## Weights -/

theorem sum_setWorker (f : WorkerPhase → ℕ) {l : List WorkerPhase} {i : ℕ} {a : WorkerPhase}
    (h : l[i]? = some a) (b : WorkerPhase) :
    ((l.set i b).map f).sum + f a = (l.map f).sum + f b := by
  induction l generalizing i with
  | nil => cases h
  | cons x l ih =>
    cases i with
    | zero =>
      obtain rfl : x = a := Option.some.inj h
      simp only [List.set_cons_zero, List.map_cons, List.sum_cons]
      omega
    | succ i =>
      have hrest := ih h
      simp only [List.set_cons_succ, List.map_cons, List.sum_cons]
      omega

/-- Steps of a worker until it exits, once a stop is requested. -/
def WorkerPhase.toExit : WorkerPhase → ℕ
  | .checking => 1
  | .waiting => 2
  | .processing _ => 3
  | .publishing _ => 2
  | .exited => 0

/-- Steps of a worker until it sleeps, if there is nothing more to take. -/
def WorkerPhase.toSleep : WorkerPhase → ℕ
  | .checking => 1
  | .waiting => 0
  | .processing _ => 3
  | .publishing _ => 2
  | .exited => 0

/-- Steps of the owner until `stop` returns. -/
def OwnerPhase.toReturn (workers : ℕ) : OwnerPhase → ℕ
  | .notifying _ => workers + 3
  | .joining _ joined => workers - joined + 2
  | .finishing _ => 1
  | _ => 0

namespace WorkerPool

/-- Steps until `stop` returns. -/
def stopRank (p : WorkerPool S) : ℕ :=
  (p.workers.map WorkerPhase.toExit).sum + p.notifications + p.owner.toReturn p.workers.length

/-- Steps until the workers sleep. -/
def sleepRank (p : WorkerPool S) : ℕ :=
  3 * p.render.executor.renderTasks.length + 2 * p.notifications +
    (p.workers.map WorkerPhase.toSleep).sum

/-- The executor is started, and its owner is in neither `start` nor `stop`. -/
def Open (p : WorkerPool S) : Prop :=
  p.owner = .idle ∧ p.render.executor.started = true

/-- Nothing is queued or rendered, every worker sleeps and no notification is to come. -/
structure AtRest (p : WorkerPool S) : Prop where
  tasks : p.render.executor.renderTasks = []
  workers : ∀ phase ∈ p.workers, phase = .waiting
  notifications : p.notifications = 0

end WorkerPool

/-! ## Events -/

namespace PoolEvent

/-- A step of a worker that is not asleep, or the notification of one. -/
def isWork : PoolEvent → Bool
  | .notifyOne _ => true
  | .check _ => true
  | .process _ _ => true
  | .publish _ => true
  | _ => false

/-- A step of `stop`, of a worker or of a notification. -/
def isStopStep : PoolEvent → Bool
  | .submit _ => false
  | .popCompleted => false
  | _ => true

/-- What an event may add to the work of an open pool. -/
def work : PoolEvent → ℕ
  | .submit _ => 5
  | .wake _ => 1
  | _ => 0

end PoolEvent

/-! ## Stopping -/

theorem sum_toExit_le (l : List WorkerPhase) : (l.map WorkerPhase.toExit).sum ≤ 3 * l.length := by
  have hle : ∀ x ∈ l.map WorkerPhase.toExit, x ≤ 3 := by
    intro x hx
    obtain ⟨phase, -, rfl⟩ := List.mem_map.mp hx
    cases phase <;> simp [WorkerPhase.toExit]
  have hsum := List.sum_le_card_nsmul _ 3 hle
  rw [List.length_map, smul_eq_mul] at hsum
  omega

section

variable {p p' : WorkerPool S}

/-- A worker that goes on while `stop` runs. -/
theorem stopRank_setWorker {i : ℕ} {a : WorkerPhase} (ha : p.workers[i]? = some a) (b : WorkerPhase)
    (hworkers : p'.workers = p.workers.set i b) (howner : p'.owner = p.owner) :
    p'.stopRank + a.toExit + p.notifications = p.stopRank + b.toExit + p'.notifications := by
  have hsum := sum_setWorker WorkerPhase.toExit ha b
  unfold WorkerPool.stopRank
  rw [hworkers, howner, List.length_set]
  omega

theorem sum_notified_le (l : List WorkerPhase) :
    ((l.map WorkerPool.notified).map WorkerPhase.toExit).sum ≤ (l.map WorkerPhase.toExit).sum := by
  rw [List.map_map]
  apply List.sum_le_sum
  intro phase _
  cases phase <;> simp [WorkerPool.notified, WorkerPhase.toExit]

/-- **While `stop` runs** each step of it, of a worker or of a notification lowers its rank. -/
theorem stopRank_step {e : PoolEvent} (h : PoolInv cfg p) (hstopping : p.owner.stopping = true)
    (hstep : PoolStep cfg p e p') : (if e.isStopStep then 1 else 0) + p'.stopRank ≤ p.stopRank := by
  have hrequested : p.render.executor.stopRequested = true := by
    have howned := h.owner
    revert hstopping howned
    cases p.owner with
    | notifying caller => exact fun _ howned => howned.2
    | joining caller joined => exact fun _ howned => howned.2.1
    | finishing caller => exact fun _ howned => howned.2.1
    | _ => nofun
  have hidle : p.owner ≠ .idle := by
    intro howner
    rw [howner] at hstopping
    cases hstopping
  have hrank : ∀ {i : ℕ} {a : WorkerPhase}, p.workers[i]? = some a → ∀ b,
      p'.workers = p.workers.set i b → p'.owner = p.owner →
        p'.stopRank + a.toExit + p.notifications = p.stopRank + b.toExit + p'.notifications :=
    fun ha b => stopRank_setWorker ha b
  cases hstep with
  | refused task => simp [PoolEvent.isStopStep]
  | accepted task hstarted hgoing hroom =>
    exact absurd (hgoing.symm.trans hrequested) Bool.false_ne_true
  | notifiesNobody hpending hnobody =>
    simp only [PoolEvent.isStopStep, if_true, WorkerPool.stopRank]
    omega
  | notifies i hpending ha =>
    have := hrank ha .checking rfl rfl
    simp only [WorkerPhase.toExit, PoolEvent.isStopStep, if_true] at this ⊢
    omega
  | popsNothing => simp [PoolEvent.isStopStep]
  | pops job rest hjobs => simp [PoolEvent.isStopStep, WorkerPool.stopRank]
  | exits i ha hstop =>
    have := hrank ha .exited rfl rfl
    simp only [WorkerPhase.toExit, PoolEvent.isStopStep, if_true,
      WorkerPool.setWorker_notifications] at this ⊢
    omega
  | waits i ha hgoing hempty => exact absurd (hgoing.symm.trans hrequested) Bool.false_ne_true
  | takes i task rest ha hgoing htasks =>
    exact absurd (hgoing.symm.trans hrequested) Bool.false_ne_true
  | wakes i ha =>
    have := hrank ha .checking rfl rfl
    simp only [WorkerPhase.toExit, PoolEvent.isStopStep, if_true,
      WorkerPool.setWorker_notifications] at this ⊢
    omega
  | processes i task rendered ha =>
    have := hrank ha (if (processed i rendered task p.render).1 then .publishing task.job
      else .checking) rfl rfl
    have hless : (if (processed i rendered task p.render).1 then WorkerPhase.publishing task.job
        else .checking).toExit ≤ 2 := by
      split <;> simp [WorkerPhase.toExit]
    simp only [PoolEvent.isStopStep, if_true, WorkerPool.setWorker_notifications,
      show (WorkerPhase.processing task).toExit = 3 from rfl] at this ⊢
    omega
  | publishes i job ha =>
    have := hrank ha .checking rfl rfl
    simp only [WorkerPhase.toExit, PoolEvent.isStopStep, if_true,
      WorkerPool.setWorker_notifications] at this ⊢
    omega
  | startsAgain howner hstarted => exact absurd howner hidle
  | starts howner hstopped => exact absurd howner hidle
  | stopsAgain howner hstopped => exact absurd howner hidle
  | stops howner hstarted => exact absurd howner hidle
  | discards made howner =>
    rw [howner] at hstopping
    cases hstopping
  | makes howner hfewer =>
    rw [howner] at hstopping
    cases hstopping
  | fails howner hfewer =>
    rw [howner] at hstopping
    cases hstopping
  | hasStarted made howner hall =>
    rw [howner] at hstopping
    cases hstopping
  | stopsFailed made howner =>
    rw [howner] at hstopping
    cases hstopping
  | notifiesAll made caller howner =>
    have := sum_notified_le p.workers
    simp only [PoolEvent.isStopStep, if_true, WorkerPool.stopRank, howner, OwnerPhase.toReturn,
      List.length_map]
    omega
  | joins made caller joined howner hworker =>
    have hlt := length_pos_of_getElem? hworker
    simp only [PoolEvent.isStopStep, if_true, WorkerPool.stopRank, howner, OwnerPhase.toReturn]
    omega
  | clears made caller joined howner hall =>
    simp only [PoolEvent.isStopStep, if_true, WorkerPool.stopRank, howner, OwnerPhase.toReturn,
      List.map_nil, List.sum_nil]
    omega
  | finishes made caller howner =>
    simp only [PoolEvent.isStopStep, if_true, WorkerPool.stopRank, howner, OwnerPhase.toReturn]
    omega

/-- **`stop` is never stuck**: the worker that it waits for can go on. -/
theorem stop_enabled (h : PoolInv cfg p) (hstopping : p.owner.stopping = true) :
    ∃ e : PoolEvent, e.isStopStep = true ∧ (poolSystem cfg).Enabled p e := by
  have howned := h.owner
  rcases howner : p.owner with - | - | - | - | caller | ⟨caller, joined⟩ | caller
  iterate 4
    · rw [howner] at hstopping
      cases hstopping
  · refine ⟨.owner true, rfl, ?_⟩
    show (p.ownerStep cfg true).isSome
    unfold WorkerPool.ownerStep
    rw [howner]
    rfl
  · rw [howner] at howned
    rcases hworker : p.workers[joined]? with - | phase
    · refine ⟨.owner true, rfl, ?_⟩
      show (p.ownerStep cfg true).isSome
      unfold WorkerPool.ownerStep
      rw [howner]
      dsimp only
      rw [hworker]
      rfl
    · cases phase with
      | checking =>
        refine ⟨.check joined, rfl, ?_⟩
        show (p.check joined).isSome
        unfold WorkerPool.check
        rw [if_pos hworker, if_pos howned.2.1]
        rfl
      | waiting => exact absurd (List.mem_of_getElem? hworker) howned.2.2.1
      | processing task =>
        refine ⟨.process joined true, rfl, ?_⟩
        show (p.process joined true).isSome
        unfold WorkerPool.process
        rw [hworker]
        rfl
      | publishing job =>
        refine ⟨.publish joined, rfl, ?_⟩
        show (p.publish joined).isSome
        unfold WorkerPool.publish
        rw [hworker]
        rfl
      | exited =>
        refine ⟨.owner true, rfl, ?_⟩
        show (p.ownerStep cfg true).isSome
        unfold WorkerPool.ownerStep
        rw [howner]
        dsimp only
        rw [hworker]
        rfl
  · refine ⟨.owner true, rfl, ?_⟩
    show (p.ownerStep cfg true).isSome
    unfold WorkerPool.ownerStep
    rw [howner]
    rfl

/-! ## Working -/

/-- A worker that goes on in an open pool. -/
theorem sleepRank_setWorker {i : ℕ} {a : WorkerPhase} (ha : p.workers[i]? = some a)
    (b : WorkerPhase) (hworkers : p'.workers = p.workers.set i b) :
    p'.sleepRank + a.toSleep + 2 * p.notifications +
        3 * p.render.executor.renderTasks.length =
      p.sleepRank + b.toSleep + 2 * p'.notifications +
        3 * p'.render.executor.renderTasks.length := by
  have hsum := sum_setWorker WorkerPhase.toSleep ha b
  unfold WorkerPool.sleepRank
  rw [hworkers]
  omega

theorem requestStop_sleepRank (caller : StopCaller) :
    (p.requestStop caller).sleepRank ≤ p.sleepRank := by
  have hexecutor : (p.requestStop caller).render.executor =
      { p.render.executor with stopRequested := true, renderTasks := [] } :=
    WorkerPool.dropTasks_executor _
  have htasks : (p.requestStop caller).render.executor.renderTasks.length = 0 := by
    rw [hexecutor]
    rfl
  unfold WorkerPool.sleepRank
  rw [htasks]
  show _ + 2 * p.notifications + (p.workers.map WorkerPhase.toSleep).sum ≤ _
  omega

/-- **In an open pool** each step of a worker or of a notification lowers the rank; a task adds five
steps to it, and a wakeup without a notification adds one. -/
theorem sleepRank_step {e : PoolEvent} (hopen : p.Open) (h : PoolInv cfg p)
    (hstep : PoolStep cfg p e p') :
    (if e.isWork then 1 else 0) + p'.sleepRank ≤ e.work + p.sleepRank := by
  have howned := h.owner
  rw [hopen.1] at howned
  have hgoing : p.render.executor.stopRequested = false := by
    obtain ⟨-, hgoing, -⟩ | ⟨hstopped, -⟩ := howned
    · exact hgoing
    · exact absurd (hstopped.symm.trans hopen.2) Bool.false_ne_true
  have hidle : ∀ {phase : OwnerPhase}, p.owner = phase → phase = .idle :=
    fun howner => howner.symm.trans hopen.1
  have hrank : ∀ {i : ℕ} {a : WorkerPhase}, p.workers[i]? = some a → ∀ b,
      p'.workers = p.workers.set i b → p'.sleepRank + a.toSleep + 2 * p.notifications +
        3 * p.render.executor.renderTasks.length = p.sleepRank + b.toSleep + 2 * p'.notifications +
          3 * p'.render.executor.renderTasks.length :=
    fun ha b => sleepRank_setWorker ha b
  cases hstep with
  | refused task => simp [PoolEvent.isWork, PoolEvent.work]
  | accepted task hstarted hgoing hroom =>
    simp only [PoolEvent.isWork, PoolEvent.work, WorkerPool.sleepRank, List.length_append,
      List.length_singleton, Bool.false_eq_true, if_false]
    omega
  | notifiesNobody hpending hnobody =>
    simp only [PoolEvent.isWork, PoolEvent.work, if_true, WorkerPool.sleepRank]
    omega
  | notifies i hpending ha =>
    have := hrank ha .checking rfl
    simp only [WorkerPhase.toSleep, PoolEvent.isWork, PoolEvent.work, if_true,
      WorkerPool.setWorker_render] at this ⊢
    omega
  | popsNothing => simp [PoolEvent.isWork, PoolEvent.work]
  | pops job rest hjobs => simp [PoolEvent.isWork, PoolEvent.work, WorkerPool.sleepRank]
  | exits i ha hstop => exact absurd (hgoing.symm.trans hstop) Bool.false_ne_true
  | waits i ha hgoing hempty =>
    have := hrank ha .waiting rfl
    simp only [WorkerPhase.toSleep, PoolEvent.isWork, PoolEvent.work, if_true,
      WorkerPool.setWorker_render, WorkerPool.setWorker_notifications] at this ⊢
    omega
  | takes i task rest ha hgoing htasks =>
    have := hrank ha (.processing task) rfl
    rw [htasks] at this
    simp only [WorkerPhase.toSleep, PoolEvent.isWork, PoolEvent.work, if_true, List.length_cons,
      WorkerPool.setWorker_notifications] at this ⊢
    omega
  | wakes i ha =>
    have := hrank ha .checking rfl
    simp only [WorkerPhase.toSleep, PoolEvent.isWork, PoolEvent.work, Bool.false_eq_true, if_false,
      WorkerPool.setWorker_render, WorkerPool.setWorker_notifications] at this ⊢
    omega
  | processes i task rendered ha =>
    have := hrank ha (if (processed i rendered task p.render).1 then .publishing task.job
      else .checking) rfl
    have hless : (if (processed i rendered task p.render).1 then WorkerPhase.publishing task.job
        else .checking).toSleep ≤ 2 := by
      split <;> simp [WorkerPhase.toSleep]
    have htasks : (processed i rendered task p.render).2.executor.renderTasks =
        p.render.executor.renderTasks := by
      unfold processed RenderTaskProcessor.finishTile
      cases rendered <;> rfl
    rw [htasks] at this
    simp only [PoolEvent.isWork, PoolEvent.work, if_true, WorkerPool.setWorker_notifications,
      show (WorkerPhase.processing task).toSleep = 3 from rfl] at this ⊢
    omega
  | publishes i job ha =>
    have := hrank ha .checking rfl
    have htasks : (Executor.pushCompleted i job p.render).executor.renderTasks =
      p.render.executor.renderTasks := rfl
    rw [htasks] at this
    simp only [WorkerPhase.toSleep, PoolEvent.isWork, PoolEvent.work, if_true,
      WorkerPool.setWorker_notifications] at this ⊢
    omega
  | startsAgain howner hstarted => simp [PoolEvent.isWork, PoolEvent.work, WorkerPool.sleepRank,
      WorkerPool.endOwner]
  | starts howner hstopped => exact absurd (hstopped.symm.trans hopen.2) Bool.false_ne_true
  | stopsAgain howner hstopped => exact absurd (hstopped.symm.trans hopen.2) Bool.false_ne_true
  | stops howner hstarted =>
    have := requestStop_sleepRank (p := p) .owner
    simp only [PoolEvent.isWork, PoolEvent.work, Bool.false_eq_true, if_false]
    omega
  | discards made howner => cases hidle howner
  | makes howner hfewer => cases hidle howner
  | fails howner hfewer => cases hidle howner
  | hasStarted made howner hall => cases hidle howner
  | stopsFailed made howner => cases hidle howner
  | notifiesAll made caller howner => cases hidle howner
  | joins made caller joined howner hworker => cases hidle howner
  | clears made caller joined howner hall => cases hidle howner
  | finishes made caller howner => cases hidle howner

/-- **Unless an open pool is at rest**, a worker or a notification can go on. -/
theorem work_enabled (hworkers : 0 < cfg.executor.workerCount) (h : PoolInv cfg p) (hopen : p.Open)
    (hrest : ¬p.AtRest) : ∃ e : PoolEvent, e.isWork = true ∧ (poolSystem cfg).Enabled p e := by
  have howned := h.owner
  rw [hopen.1] at howned
  obtain ⟨hgoing, hlength⟩ : p.render.executor.stopRequested = false ∧
      (p.workers.length : Int) = cfg.executor.workerCount := by
    obtain ⟨-, hgoing, hlength⟩ | ⟨hstopped, -⟩ := howned
    · exact ⟨hgoing, hlength⟩
    · exact absurd (hstopped.symm.trans hopen.2) Bool.false_ne_true
  by_cases hpending : 0 < p.notifications
  · by_cases hwaiting : WorkerPhase.waiting ∈ p.workers
    · obtain ⟨i, hi⟩ := List.mem_iff_getElem?.mp hwaiting
      refine ⟨.notifyOne (some i), rfl, ?_⟩
      show Option.isSome (if 0 < p.notifications ∧ p.workers[i]? = some WorkerPhase.waiting then _
        else none)
      rw [if_pos ⟨hpending, hi⟩]
      rfl
    · refine ⟨.notifyOne none, rfl, ?_⟩
      show Option.isSome (if 0 < p.notifications ∧ WorkerPhase.waiting ∉ p.workers then _ else none)
      rw [if_pos ⟨hpending, hwaiting⟩]
      rfl
  · have hnone : p.notifications = 0 := by omega
    by_cases hasleep : ∀ phase ∈ p.workers, phase = .waiting
    · -- All workers sleep, so `Awake` leaves no task in the queue.
      refine absurd ⟨?_, hasleep, hnone⟩ hrest
      obtain ⟨phase, hphase⟩ := List.exists_mem_of_length_pos (l := p.workers) (by omega)
      have hawake := h.awake (hasleep phase hphase ▸ hphase)
      have hcount : p.workers.count .checking = 0 := by
        apply List.count_eq_zero.mpr
        intro hmem
        cases hasleep _ hmem
      exact List.length_eq_zero_iff.mp (by omega)
    · push Not at hasleep
      obtain ⟨phase, hmem, hne⟩ := hasleep
      obtain ⟨i, hi⟩ := List.mem_iff_getElem?.mp hmem
      cases phase with
      | checking =>
        refine ⟨.check i, rfl, ?_⟩
        show (p.check i).isSome
        unfold WorkerPool.check
        rw [if_pos hi, hgoing]
        simp only [Bool.false_eq_true, if_false]
        split <;> rfl
      | waiting => exact absurd rfl hne
      | processing task =>
        refine ⟨.process i true, rfl, ?_⟩
        show (p.process i true).isSome
        unfold WorkerPool.process
        rw [hi]
        rfl
      | publishing job =>
        refine ⟨.publish i, rfl, ?_⟩
        show (p.publish i).isSome
        unfold WorkerPool.publish
        rw [hi]
        rfl
      | exited =>
        have hstop := h.exited hmem
        rw [hgoing] at hstop
        cases hstop

/-- Work does not close the pool, and accepts no task. -/
theorem work_keeps {e : PoolEvent} (hwork : e.isWork = true) (h : PoolStep cfg p e p') :
    p'.owner = p.owner ∧ p'.render.executor.started = p.render.executor.started ∧
      p'.history.accepted = p.history.accepted := by
  cases h with
  | processes i task rendered ha =>
    refine ⟨rfl, ?_, rfl⟩
    unfold processed RenderTaskProcessor.finishTile
    cases rendered <;> rfl
  | notifiesNobody => exact ⟨rfl, rfl, rfl⟩
  | notifies => exact ⟨rfl, rfl, rfl⟩
  | exits => exact ⟨rfl, rfl, rfl⟩
  | waits => exact ⟨rfl, rfl, rfl⟩
  | takes => exact ⟨rfl, rfl, rfl⟩
  | publishes => exact ⟨rfl, rfl, rfl⟩
  | _ => cases hwork

theorem work_eq_zero {e : PoolEvent} (h : e.isWork = true) : e.work = 0 := by
  cases e with
  | submit task => cases h
  | wake worker => cases h
  | _ => rfl

/-- At rest every accepted task has been processed. -/
theorem processed_perm (h : PoolKept cfg p) (hopen : p.Open) (hrest : p.AtRest) :
    p.history.processed.Perm p.history.accepted := by
  obtain ⟨hpool, htasks⟩ := h
  have howned := hpool.owner
  rw [hopen.1] at howned
  have hgoing : p.render.executor.stopRequested = false := by
    obtain ⟨-, hgoing, -⟩ | ⟨hstopped, -⟩ := howned
    · exact hgoing
    · exact absurd (hstopped.symm.trans hopen.2) Bool.false_ne_true
  have haccepted := htasks.accepted
  rw [htasks.dropped hopen.2 hgoing, hrest.tasks, List.append_nil, List.append_nil] at haccepted
  have hrunning : p.running = [] := by
    apply List.filterMap_eq_nil_iff.mpr
    intro phase hmem
    rw [hrest.workers phase hmem]
    rfl
  have htaken := htasks.taken
  rw [hrunning, List.append_nil] at htaken
  rw [haccepted]
  exact htaken.symm

theorem WorkerPool.stopRank_le (p : WorkerPool S) :
    p.stopRank ≤ 4 * p.workers.length + p.notifications + 3 := by
  have hsum := sum_toExit_le p.workers
  have howner : p.owner.toReturn p.workers.length ≤ p.workers.length + 3 := by
    cases p.owner with
    | notifying caller => exact le_rfl
    | joining caller joined =>
      show p.workers.length - joined + 2 ≤ _
      omega
    | finishing caller =>
      show 1 ≤ _
      omega
    | _ => exact Nat.zero_le _
  unfold WorkerPool.stopRank
  omega

/-- What `stop` leaves when it returns. -/
theorem stop_leaves {e : PoolEvent} (h : PoolInv cfg p) (hstopping : p.owner.stopping = true)
    (hstep : PoolStep cfg p e p') (hdone : p'.owner.stopping = false) :
    p'.owner = .idle ∧ p'.render.executor.started = false ∧ p'.workers = [] ∧
      p'.render.executor.renderTasks = [] ∧ (p'.result = .stopped ∨ p'.result = .startFailed) := by
  have hsame : p'.owner = p.owner → False := fun howner => by
    rw [howner, hstopping] at hdone
    cases hdone
  have hidle : ∀ {phase : OwnerPhase}, p.owner = phase → phase.stopping = true :=
    fun howner => howner ▸ hstopping
  cases hstep with
  | finishes made caller howner =>
    have howned := h.owner
    rw [howner] at howned
    refine ⟨rfl, rfl, howned.2.2, h.closed (.inr howned.2.1), ?_⟩
    cases caller
    · exact .inl rfl
    · exact .inr rfl
  | startsAgain howner => cases hidle howner
  | starts howner => cases hidle howner
  | stopsAgain howner => cases hidle howner
  | stops howner => cases hidle howner
  | discards made howner => cases hidle howner
  | fails howner => cases hidle howner
  | hasStarted made howner => cases hidle howner
  | stopsFailed made howner => cases hidle howner
  | notifiesAll => cases hdone
  | joins => cases hdone
  | clears => cases hdone
  | _ => exact (hsame rfl).elim

theorem PoolInv.no_workers (h : PoolInv cfg p) (hstopped : p.render.executor.started = false) :
    p.workers = [] := by
  have howned := h.owner
  rw [hstopped] at howned
  cases howner : p.owner with
  | idle =>
    rw [howner] at howned
    obtain ⟨hstarted, -⟩ | ⟨-, hnone⟩ := howned
    · cases hstarted
    · exact hnone
  | _ =>
    rw [howner] at howned
    cases howned.1

theorem submit_of_stopped (hstopped : p.render.executor.started = false) (task : RenderTask) :
    p.submit cfg task = p := by
  unfold WorkerPool.submit Executor.submit
  rw [hstopped]
  by_cases htile : task.tileIndex < 0 ∨ task.tileIndex ≥ tilesPerChunk
  · rw [if_pos htile]
  · rw [if_neg htile]
    rfl

end

/-! ## Every run -/

/-- What becomes of the work of a pool. -/
structure WorkConserving (cfg : Config) (p : WorkerPool S) : Prop where
  /-- **No wakeup is lost.** -/
  awake : WorkerPhase.waiting ∈ p.workers →
    p.render.executor.renderTasks.length ≤ p.notifications + p.workers.count .checking
  /-- When no worker and no notification can go on, nothing is left to do. -/
  rest : p.Open → (∀ e : PoolEvent, e.isWork = true → ¬(poolSystem cfg).Enabled p e) → p.AtRest
  /-- The workers get there, with every accepted task processed or dropped. -/
  drains : p.Open → ∃ es p', (∀ e ∈ es, e.isWork = true) ∧ (poolSystem cfg).run es p = some p' ∧
    p'.AtRest ∧ p'.history.accepted = p.history.accepted ∧
      p'.history.processed.Perm p.history.accepted
  /-- **Nobody spins.** -/
  bounded : ∀ es p', (poolSystem cfg).run es p = some p' →
    (poolSystem cfg).Throughout WorkerPool.Open es p →
      es.countP PoolEvent.isWork ≤ (es.map PoolEvent.work).sum + p.sleepRank

/-- What holds of a pool whose executor stops. -/
structure StopReturns (cfg : Config) (p : WorkerPool S) : Prop where
  goes_on : ∃ e : PoolEvent, e.isStopStep = true ∧ (poolSystem cfg).Enabled p e
  bounded : ∀ es p', (poolSystem cfg).run es p = some p' →
    (poolSystem cfg).Throughout (fun p => p.owner.stopping = true) es p →
      es.countP PoolEvent.isStopStep ≤ 4 * p.workers.length + p.notifications + 3
  /-- Nothing is left when `stop` returns. -/
  leaves : ∀ e p', (poolSystem cfg).next p e = some p' → p'.owner.stopping = false →
    p'.owner = .idle ∧ p'.render.executor.started = false ∧ p'.workers = [] ∧
      p'.render.executor.renderTasks = [] ∧ (p'.result = .stopped ∨ p'.result = .startFailed)

/-- What has become of each task accepted since the latest start. -/
structure TasksOnce (cfg : Config) (p : WorkerPool S) : Prop where
  /-- Tasks are taken in order, and what is dropped comes after them. -/
  accepted : p.history.accepted =
    p.history.taken ++ p.history.dropped ++ p.render.executor.renderTasks
  length_le : (p.render.executor.renderTasks.length : Int) ≤ cfg.executor.renderTasksQueueCapacity
  /-- One worker renders or has rendered each task that was taken. -/
  taken : p.history.taken.Perm (p.history.processed ++ p.running)
  cancelled : ∀ t ∈ p.history.dropped, (p.render.jobs.job t.job).cancelled = true
  /-- Once the executor is stopped no task is left, and it accepts none. -/
  stopped : p.render.executor.started = false →
    p.history.accepted = p.history.taken ++ p.history.dropped ∧
      p.history.processed.Perm p.history.taken ∧ ∀ t, p.submit cfg t = p

variable {cfg : AcceptedConfig} {r : RenderState S} {p : WorkerPool S}

/-- **Work conservation.** -/
theorem poolRun_workConserving (h : PoolReachable cfg.toConfig r p) :
    WorkConserving cfg.toConfig p := by
  obtain ⟨hworkers, -⟩ := cfg.executor_pos
  have hkept := h.kept
  have hinv := poolKept_inductive (S := S) hworkers
  have hamortized : (poolSystem cfg.toConfig).Amortized (PoolKept (S := S) cfg.toConfig)
      WorkerPool.Open (fun _ => PoolEvent.isWork) PoolEvent.work WorkerPool.sleepRank :=
    fun p e p' hp hopen hnext => sleepRank_step hopen hp.1 (poolSystem_step hnext)
  refine ⟨hkept.1.awake, fun hopen hstuck => ?_, fun hopen => ?_, fun es p' hrun hopen => ?_⟩
  · by_contra hrest
    obtain ⟨e, hwork, henabled⟩ := work_enabled hworkers hkept.1 hopen hrest
    exact hstuck e hwork henabled
  · have hbusy : (poolSystem cfg.toConfig).Amortized (PoolKept (S := S) cfg.toConfig)
        (fun p => p.Open ∧ ¬p.AtRest) (fun _ => PoolEvent.isWork) PoolEvent.work
        WorkerPool.sleepRank := fun p e p' hp hduring => hamortized p e p' hp hduring.1
    obtain ⟨es, p', hes, hrun, hdone⟩ := hbusy.reaches hinv (fun _ _ => work_eq_zero)
      (fun p hp hduring => work_enabled hworkers hp.1 hduring.1 hduring.2) hkept
    have hkeeps : p'.Open ∧ p'.history.accepted = p.history.accepted := by
      refine hes.keeps (P := fun q => q.Open ∧ q.history.accepted = p.history.accepted) ?_
        ⟨hopen, rfl⟩ hrun
      intro q e q' hwork hq hnext
      obtain ⟨howner, hstarted, haccepted⟩ := work_keeps hwork (poolSystem_step hnext)
      exact ⟨⟨howner.trans hq.1.1, hstarted.trans hq.1.2⟩, haccepted.trans hq.2⟩
    have hrest : p'.AtRest := by
      by_contra hno
      exact hdone ⟨hkeeps.1, hno⟩
    refine ⟨es, p', hes.forall_mem hrun, hrun, hrest, hkeeps.2, ?_⟩
    rw [← hkeeps.2]
    exact processed_perm (hinv.run hkept hrun) hkeeps.1 hrest
  · have hcount := hamortized.count_le hinv hkept hopen hrun
    rw [count_eq_countP _ hrun] at hcount
    omega

/-- One chunk, and one worker. -/
def oneWorkerConfig : AcceptedConfig where
  totalFrames := 2048
  audio := { audioBlockFrames := 1024, channelCount := 1 }
  executor := { workerCount := 1 }
  scheduler := { prebufferBlocks := 0, lowWaterBlocks := 0, highWaterBlocks := 0, urgentChunks := 1 }
  int32 := by decide
  accepted := by decide

/-- A pool after some events; the pool before them if one is disabled. -/
def poolAfter (es : List PoolEvent) : WorkerPool ℤ :=
  ((poolSystem oneWorkerConfig.toConfig).run es
    { render := .init oneWorkerConfig.toConfig }).getD
      { render := .init oneWorkerConfig.toConfig }

theorem poolAfter_reachable {es : List PoolEvent}
    (h : ((poolSystem oneWorkerConfig.toConfig).run es
      { render := .init oneWorkerConfig.toConfig : WorkerPool ℤ }).isSome = true) :
    PoolReachable oneWorkerConfig.toConfig (.init oneWorkerConfig.toConfig) (poolAfter es) := by
  refine ⟨rfl, es, ?_⟩
  obtain ⟨p, hp⟩ := Option.isSome_iff_exists.mp h
  unfold poolAfter
  rw [hp]
  rfl

/-- The worker sleeps, two tasks are queued, and their notifications are still to come. -/
def sleepingEvents : List PoolEvent :=
  [.start, .owner true, .owner true, .owner true, .check 0, .submit ⟨0, 0⟩, .submit ⟨0, 1⟩]

theorem poolRun_workConserving_asleep :
    WorkConserving oneWorkerConfig.toConfig (poolAfter sleepingEvents) ∧
      (poolAfter sleepingEvents).workers = [.waiting] ∧
      (poolAfter sleepingEvents).render.executor.renderTasks = [⟨0, 0⟩, ⟨0, 1⟩] ∧
      (poolAfter sleepingEvents).notifications = 2 :=
  ⟨poolRun_workConserving (poolAfter_reachable (by decide +kernel)), by decide +kernel,
    by decide +kernel, by decide +kernel⟩

/-- **Stopping.** -/
theorem poolRun_stopReturns (h : PoolReachable cfg.toConfig r p)
    (hstopping : p.owner.stopping = true) : StopReturns cfg.toConfig p := by
  obtain ⟨hworkers, -⟩ := cfg.executor_pos
  have hkept := h.kept
  have hamortized : (poolSystem cfg.toConfig).Amortized (PoolKept (S := S) cfg.toConfig)
      (fun p => p.owner.stopping = true) (fun _ => PoolEvent.isStopStep) (fun _ => 0)
      WorkerPool.stopRank := fun p e p' hp hstopping hnext => by
    rw [Nat.zero_add]
    exact stopRank_step hp.1 hstopping (poolSystem_step hnext)
  refine ⟨stop_enabled hkept.1 hstopping, fun es p' hrun hduring => ?_, fun e p' hnext hdone => ?_⟩
  · have hcount := hamortized.count_le (poolKept_inductive hworkers) hkept hduring hrun
    rw [count_eq_countP _ hrun, show (es.map fun _ => 0).sum = 0 by simp] at hcount
    have hrank := p.stopRank_le
    omega
  · exact stop_leaves hkept.1 hstopping (poolSystem_step hnext) hdone

/-- The owner waits for a worker that renders one of two tasks. -/
def stoppingEvents : List PoolEvent :=
  sleepingEvents ++ [.notifyOne (some 0), .check 0, .stop, .owner true]

theorem poolRun_stopReturns_rendering :
    StopReturns oneWorkerConfig.toConfig (poolAfter stoppingEvents) ∧
      (poolAfter stoppingEvents).workers = [.processing ⟨0, 0⟩] ∧
      (poolAfter stoppingEvents).history.dropped = [⟨0, 1⟩] :=
  ⟨poolRun_stopReturns (poolAfter_reachable (by decide +kernel)) (by decide +kernel),
    by decide +kernel, by decide +kernel⟩

/-- **Tasks.** -/
theorem poolRun_tasksOnce (h : PoolReachable cfg.toConfig r p) : TasksOnce cfg.toConfig p := by
  obtain ⟨hpool, htasks⟩ := h.kept
  refine ⟨htasks.accepted, hpool.length_le, htasks.taken, htasks.cancelled, fun hstopped => ?_⟩
  have hnil := hpool.closed (.inl hstopped)
  have hnone := hpool.no_workers hstopped
  have haccepted := htasks.accepted
  have htaken := htasks.taken
  rw [hnil, List.append_nil] at haccepted
  unfold WorkerPool.running at htaken
  rw [hnone, List.filterMap_nil, List.append_nil] at htaken
  exact ⟨haccepted, htaken.symm, fun t => submit_of_stopped hstopped t⟩

theorem poolRun_tasksOnce_rendering :
    TasksOnce oneWorkerConfig.toConfig (poolAfter stoppingEvents) ∧
      (poolAfter stoppingEvents).history.taken = [⟨0, 0⟩] :=
  ⟨poolRun_tasksOnce (poolAfter_reachable (by decide +kernel)), by decide +kernel⟩

end Anasa
