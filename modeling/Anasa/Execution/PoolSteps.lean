import Mathlib.Data.List.Lemmas
import Anasa.Model.WorkerPool

/-!
# What the events of a worker pool do

`PoolStep` lists what each event may do, with what it depends on, and `poolSystem_step` says that
the list is complete. The invariants of the pool are derived from it.
-/

namespace Anasa

open Concurrency

variable {S : Type} {cfg : Config}

namespace Executor

/-! ## Dropping tasks -/

/-- What dropping tasks leaves alone. -/
structure TasksDropped (r r' : RenderState S) : Prop where
  executor : r'.executor = { r.executor with renderTasks := r'.executor.renderTasks }
  made : r'.jobs.made = r.jobs.made
  remaining : ∀ j, (r'.jobs.job j).tilesRemaining = (r.jobs.job j).tilesRemaining
  cancelled : ∀ j, (r.jobs.job j).cancelled = true → (r'.jobs.job j).cancelled = true

theorem TasksDropped.refl (r : RenderState S) : TasksDropped r r :=
  ⟨rfl, rfl, fun _ => rfl, fun _ h => h⟩

theorem dropTask_cons {r : RenderState S} {task : RenderTask} {rest : List RenderTask}
    (h : r.executor.renderTasks = task :: rest) :
    dropTask r = { r with jobs := r.jobs.cancel task.job, executor.renderTasks := rest } := by
  unfold dropTask
  rw [h]

/-- The loop of `stop` empties the queue and cancels the job of every task in it. -/
theorem dropTasks_spec (n : ℕ) (r : RenderState S) (hn : r.executor.renderTasks.length = n) :
    TasksDropped r (Nat.iterate dropTask n r) ∧
      (Nat.iterate dropTask n r).executor.renderTasks = [] ∧
      ∀ t ∈ r.executor.renderTasks,
        ((Nat.iterate dropTask n r).jobs.job t.job).cancelled = true := by
  induction n generalizing r with
  | zero =>
    have hnil := List.length_eq_zero_iff.mp hn
    exact ⟨.refl r, hnil, fun t ht => absurd ht (hnil ▸ List.not_mem_nil)⟩
  | succ n ih =>
    obtain ⟨task, rest, htasks⟩ := List.exists_cons_of_length_eq_add_one hn
    rw [Function.iterate_succ_apply, dropTask_cons htasks]
    have hrest : rest.length = n := by
      rw [htasks, List.length_cons] at hn
      omega
    obtain ⟨hdropped, hempty, hcancelled⟩ := ih
      { r with jobs := r.jobs.cancel task.job, executor.renderTasks := rest } hrest
    refine ⟨⟨hdropped.executor, hdropped.made, fun j => ?_, fun j hj => ?_⟩, hempty, ?_⟩
    · rw [hdropped.remaining, JobTable.cancel_job]
    · refine hdropped.cancelled j ?_
      simp [JobTable.cancel_job, hj]
    · intro t ht
      rw [htasks] at ht
      rcases List.mem_cons.mp ht with rfl | ht
      · refine hdropped.cancelled t.job ?_
        simp [JobTable.cancel_job]
      · exact hcancelled t ht

end Executor

namespace WorkerPool

theorem dropTasks_dropped (r : RenderState S) : Executor.TasksDropped r (dropTasks r) :=
  (Executor.dropTasks_spec _ r rfl).1

theorem dropTasks_executor (r : RenderState S) :
    (dropTasks r).executor = { r.executor with renderTasks := [] } := by
  rw [(dropTasks_dropped r).executor]
  exact congrArg (fun tasks => { r.executor with renderTasks := tasks })
    (Executor.dropTasks_spec _ r rfl).2.1

theorem dropTasks_cancelled (r : RenderState S) {t : RenderTask}
    (ht : t ∈ r.executor.renderTasks) : ((dropTasks r).jobs.job t.job).cancelled = true :=
  (Executor.dropTasks_spec _ r rfl).2.2 t ht

end WorkerPool

/-! ## Steps -/

/-- What a worker does with the tile it has rendered, or failed to render. -/
def processed (worker : ℕ) (rendered : Bool) (task : RenderTask) (r : RenderState S) :
    Bool × RenderState S :=
  RenderTaskProcessor.finishTile worker task rendered
    (if rendered then r else { r with jobs := r.jobs.cancel task.job })

/-- **What each event may do.** -/
inductive PoolStep (cfg : Config) (p : WorkerPool S) : PoolEvent → WorkerPool S → Prop where
  | refused (task : RenderTask) : PoolStep cfg p (.submit task) p
  | accepted (task : RenderTask) (hstarted : p.render.executor.started = true)
    (hgoing : p.render.executor.stopRequested = false)
    (hroom : (p.render.executor.renderTasks.length : Int) < cfg.executor.renderTasksQueueCapacity) :
    PoolStep cfg p (.submit task) { p with
      render.executor.renderTasks := p.render.executor.renderTasks ++ [task]
      notifications := p.notifications + 1
      history.accepted := p.history.accepted ++ [task] }
  | notifiesNobody (hpending : 0 < p.notifications) (hnobody : WorkerPhase.waiting ∉ p.workers) :
    PoolStep cfg p (.notifyOne none) { p with notifications := p.notifications - 1 }
  | notifies (worker : ℕ) (hpending : 0 < p.notifications)
    (hworker : p.workers[worker]? = some .waiting) :
    PoolStep cfg p (.notifyOne (some worker))
      { p.setWorker worker .checking with notifications := p.notifications - 1 }
  | popsNothing : PoolStep cfg p .popCompleted p
  | pops (job : JobId) (rest : List JobId) (hjobs : p.render.executor.completedJobs = job :: rest) :
    PoolStep cfg p .popCompleted { p with render.executor.completedJobs := rest }
  | exits (worker : ℕ) (hworker : p.workers[worker]? = some .checking)
    (hstop : p.render.executor.stopRequested = true) :
    PoolStep cfg p (.check worker) (p.setWorker worker .exited)
  | waits (worker : ℕ) (hworker : p.workers[worker]? = some .checking)
    (hgoing : p.render.executor.stopRequested = false)
    (hempty : p.render.executor.renderTasks = []) :
    PoolStep cfg p (.check worker) (p.setWorker worker .waiting)
  | takes (worker : ℕ) (task : RenderTask) (rest : List RenderTask)
    (hworker : p.workers[worker]? = some .checking)
    (hgoing : p.render.executor.stopRequested = false)
    (htasks : p.render.executor.renderTasks = task :: rest) :
    PoolStep cfg p (.check worker) { p.setWorker worker (.processing task) with
      render.executor.renderTasks := rest
      render.executor.rendering := (worker, task) :: p.render.executor.rendering
      history.taken := p.history.taken ++ [task] }
  | wakes (worker : ℕ) (hworker : p.workers[worker]? = some .waiting) :
    PoolStep cfg p (.wake worker) (p.setWorker worker .checking)
  | processes (worker : ℕ) (task : RenderTask) (rendered : Bool)
    (hworker : p.workers[worker]? = some (.processing task)) :
    PoolStep cfg p (.process worker rendered)
      { p.setWorker worker (if (processed worker rendered task p.render).1 then
          .publishing task.job else .checking) with
        render := (processed worker rendered task p.render).2
        history.processed := task :: p.history.processed }
  | publishes (worker : ℕ) (job : JobId) (hworker : p.workers[worker]? = some (.publishing job)) :
    PoolStep cfg p (.publish worker) { p.setWorker worker .checking with
      render := Executor.pushCompleted worker job p.render }
  | startsAgain (howner : p.owner = .idle) (hstarted : p.render.executor.started = true) :
    PoolStep cfg p .start (p.endOwner .started)
  | starts (howner : p.owner = .idle) (hstopped : p.render.executor.started = false) :
    PoolStep cfg p .start { p with
      render.executor.stopRequested := false
      render.executor.started := true
      owner := .discarding
      history := {} }
  | stopsAgain (howner : p.owner = .idle) (hstopped : p.render.executor.started = false) :
    PoolStep cfg p .stop (p.endOwner .stopped)
  | stops (howner : p.owner = .idle) (hstarted : p.render.executor.started = true) :
    PoolStep cfg p .stop (p.requestStop .owner)
  | discards (made : Bool) (howner : p.owner = .discarding) :
    PoolStep cfg p (.owner made)
      { p with render.executor.completedJobs := [], owner := .spawning }
  | makes (howner : p.owner = .spawning)
    (hfewer : (p.workers.length : Int) < cfg.executor.workerCount) :
    PoolStep cfg p (.owner true) { p with workers := p.workers ++ [.checking] }
  | fails (howner : p.owner = .spawning)
    (hfewer : (p.workers.length : Int) < cfg.executor.workerCount) :
    PoolStep cfg p (.owner false) { p with owner := .failing }
  | hasStarted (made : Bool) (howner : p.owner = .spawning)
    (hall : cfg.executor.workerCount ≤ p.workers.length) :
    PoolStep cfg p (.owner made) (p.endOwner .started)
  | stopsFailed (made : Bool) (howner : p.owner = .failing) :
    PoolStep cfg p (.owner made) (p.requestStop .start)
  | notifiesAll (made : Bool) (caller : StopCaller) (howner : p.owner = .notifying caller) :
    PoolStep cfg p (.owner made)
      { p with workers := p.workers.map WorkerPool.notified, owner := .joining caller 0 }
  | joins (made : Bool) (caller : StopCaller) (joined : ℕ) (howner : p.owner = .joining caller joined)
    (hworker : p.workers[joined]? = some .exited) :
    PoolStep cfg p (.owner made) { p with owner := .joining caller (joined + 1) }
  | clears (made : Bool) (caller : StopCaller) (joined : ℕ)
    (howner : p.owner = .joining caller joined) (hall : p.workers[joined]? = none) :
    PoolStep cfg p (.owner made) { p with workers := [], owner := .finishing caller }
  | finishes (made : Bool) (caller : StopCaller) (howner : p.owner = .finishing caller) :
    PoolStep cfg p (.owner made) { p with
      render.executor.started := false
      owner := .idle
      result := if caller = .owner then .stopped else .startFailed }

theorem submit_step (p : WorkerPool S) (task : RenderTask) :
    PoolStep cfg p (.submit task) (p.submit cfg task) := by
  unfold WorkerPool.submit Executor.submit
  by_cases htile : task.tileIndex < 0 ∨ task.tileIndex ≥ tilesPerChunk
  · rw [if_pos htile]
    exact .refused task
  rw [if_neg htile]
  by_cases hclosed : (!p.render.executor.started || p.render.executor.stopRequested) = true
  · rw [if_pos hclosed]
    exact .refused task
  rw [if_neg hclosed]
  by_cases hfull :
      (p.render.executor.renderTasks.length : Int) ≥ cfg.executor.renderTasksQueueCapacity
  · rw [if_pos hfull]
    exact .refused task
  rw [if_neg hfull]
  simp only [Bool.or_eq_true, Bool.not_eq_true', not_or, Bool.not_eq_false, Bool.not_eq_true]
    at hclosed
  exact .accepted task hclosed.1 hclosed.2 (not_le.mp hfull)

theorem check_step {p p' : WorkerPool S} {worker : ℕ} (h : p.check worker = some p') :
    PoolStep cfg p (.check worker) p' := by
  unfold WorkerPool.check Executor.takeTask at h
  split at h
  · rename_i hworker
    split at h
    · rename_i hstop
      cases h
      exact .exits worker hworker hstop
    · rename_i hrunning
      have hgoing := Bool.eq_false_of_not_eq_true hrunning
      rcases htasks : p.render.executor.renderTasks with - | ⟨task, rest⟩ <;> rw [htasks] at h
      · cases h
        exact .waits worker hworker hgoing htasks
      · cases h
        exact .takes worker task rest hworker hgoing htasks
  · cases h

theorem ownerStep_step {p p' : WorkerPool S} {made : Bool} (h : p.ownerStep cfg made = some p') :
    PoolStep cfg p (.owner made) p' := by
  unfold WorkerPool.ownerStep at h
  cases howner : p.owner with
  | idle =>
    rw [howner] at h
    cases h
  | discarding =>
    rw [howner] at h
    cases h
    exact .discards made howner
  | spawning =>
    rw [howner] at h
    dsimp only at h
    split at h
    · rename_i hfewer
      cases made with
      | true =>
        cases h
        have hstep : PoolStep cfg p (.owner true) _ := .makes howner hfewer
        rwa [howner] at hstep
      | false =>
        cases h
        exact .fails howner hfewer
    · rename_i hall
      cases h
      exact .hasStarted made howner (not_lt.mp hall)
  | failing =>
    rw [howner] at h
    cases h
    exact .stopsFailed made howner
  | notifying caller =>
    rw [howner] at h
    cases h
    exact .notifiesAll made caller howner
  | joining caller joined =>
    rw [howner] at h
    dsimp only at h
    split at h
    · rename_i hall
      cases h
      exact .clears made caller joined howner hall
    · rename_i hworker
      cases h
      exact .joins made caller joined howner hworker
    · cases h
  | finishing caller =>
    rw [howner] at h
    cases h
    exact .finishes made caller howner

/-- The list is complete. -/
theorem poolSystem_step {p p' : WorkerPool S} {e : PoolEvent}
    (h : (poolSystem cfg).next p e = some p') : PoolStep cfg p e p' := by
  cases e with
  | submit task =>
    cases h
    exact submit_step p task
  | notifyOne woken =>
    cases woken with
    | none =>
      change (if _ then _ else _) = some p' at h
      split at h
      · rename_i hboth
        cases h
        exact .notifiesNobody hboth.1 hboth.2
      · cases h
    | some worker =>
      change (if _ then _ else _) = some p' at h
      split at h
      · rename_i hboth
        cases h
        exact .notifies worker hboth.1 hboth.2
      · cases h
  | popCompleted =>
    cases h
    unfold WorkerPool.popCompleted Executor.popCompleted
    rcases hjobs : p.render.executor.completedJobs with - | ⟨job, rest⟩
    · exact .popsNothing
    · exact .pops job rest hjobs
  | check worker => exact check_step h
  | wake worker =>
    change WorkerPool.wake p worker = some p' at h
    unfold WorkerPool.wake at h
    split at h
    · rename_i hworker
      cases h
      exact .wakes worker hworker
    · cases h
  | process worker rendered =>
    change WorkerPool.process p worker rendered = some p' at h
    unfold WorkerPool.process at h
    split at h
    · rename_i task hworker
      cases h
      exact .processes worker task rendered hworker
    · cases h
  | publish worker =>
    change WorkerPool.publish p worker = some p' at h
    unfold WorkerPool.publish at h
    split at h
    · rename_i job hworker
      cases h
      exact .publishes worker job hworker
    · cases h
  | start =>
    change WorkerPool.start p = some p' at h
    unfold WorkerPool.start at h
    split at h
    · rename_i howner
      split at h
      · rename_i hstarted
        cases h
        exact .startsAgain howner hstarted
      · rename_i hstopped
        cases h
        exact .starts howner (Bool.eq_false_of_not_eq_true hstopped)
    · cases h
  | stop =>
    change WorkerPool.stop p = some p' at h
    unfold WorkerPool.stop at h
    split at h
    · rename_i howner
      split at h
      · rename_i hstarted
        cases h
        exact .stops howner hstarted
      · rename_i hstopped
        cases h
        exact .stopsAgain howner (Bool.eq_false_of_not_eq_true hstopped)
    · cases h
  | owner made => exact ownerStep_step h

end Anasa
