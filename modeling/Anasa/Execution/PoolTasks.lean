import Anasa.Execution.PoolInvariant

/-!
# The tasks of a worker pool

Tasks are taken in the order in which they are accepted, each of them by one worker, which
processes it once; those that `stop` finds in the queue are dropped, and their jobs are cancelled.
-/

namespace Anasa

open Concurrency
open scoped List

variable {S : Type} {cfg : Config}

/-- The task that a worker renders. -/
def WorkerPhase.task : WorkerPhase → Option RenderTask
  | .processing task => some task
  | _ => none

namespace WorkerPool

/-- The tasks that workers render. -/
def running (p : WorkerPool S) : List RenderTask := p.workers.filterMap WorkerPhase.task

end WorkerPool

/-- What has become of the tasks accepted since the latest start. -/
structure TasksInv (p : WorkerPool S) : Prop where
  accepted : p.history.accepted =
    p.history.taken ++ p.history.dropped ++ p.render.executor.renderTasks
  /-- Tasks are dropped by `stop` only. -/
  dropped : p.render.executor.started = true → p.render.executor.stopRequested = false →
    p.history.dropped = []
  taken : p.history.taken.Perm (p.history.processed ++ p.running)
  cancelled : ∀ t ∈ p.history.dropped, (p.render.jobs.job t.job).cancelled = true

/-! ## Workers -/

theorem filterMap_set {l : List WorkerPhase} {i : ℕ} {a : WorkerPhase} (h : l[i]? = some a)
    (b : WorkerPhase) : (a.task.toList ++ (l.set i b).filterMap WorkerPhase.task).Perm
      (b.task.toList ++ l.filterMap WorkerPhase.task) := by
  induction l generalizing i with
  | nil => cases h
  | cons x l ih =>
    have hcons : ∀ (y : WorkerPhase) (m : List WorkerPhase),
        (y :: m).filterMap WorkerPhase.task = y.task.toList ++ m.filterMap WorkerPhase.task := by
      intro y m
      rw [List.filterMap_cons]
      cases y.task <;> rfl
    cases i with
    | zero =>
      obtain rfl : x = a := Option.some.inj h
      rw [List.set_cons_zero, hcons, hcons]
      exact List.perm_append_comm_assoc ..
    | succ i =>
      rw [List.set_cons_succ, hcons, hcons]
      refine (List.perm_append_comm_assoc ..).trans ?_
      exact ((ih h).append_left _).trans (List.perm_append_comm_assoc ..)

namespace TasksInv

variable {p p' : WorkerPool S}

/-- The tasks that workers render, after one of them has gone on. -/
theorem running_setWorker {i : ℕ} {a : WorkerPhase} (ha : p.workers[i]? = some a)
    (b : WorkerPhase) :
    (a.task.toList ++ (p.setWorker i b).running).Perm (b.task.toList ++ p.running) :=
  filterMap_set ha b

/-- A worker goes on without taking a task or finishing one. -/
theorem worker (h : TasksInv p) {i : ℕ} {a b : WorkerPhase} (ha : p.workers[i]? = some a)
    (htask : a.task = none) (htask' : b.task = none) (hworkers : p'.workers = p.workers.set i b)
    (hhistory : p'.history = p.history)
    (htasks : p'.render.executor.renderTasks = p.render.executor.renderTasks)
    (hstarted : p'.render.executor.started = p.render.executor.started)
    (hstop : p'.render.executor.stopRequested = p.render.executor.stopRequested)
    (hjobs : ∀ j, (p.render.jobs.job j).cancelled = true →
      (p'.render.jobs.job j).cancelled = true) : TasksInv p' := by
  have hrunning : p'.running.Perm p.running := by
    have hperm := running_setWorker ha b
    rw [htask, htask'] at hperm
    unfold WorkerPool.running
    rw [hworkers]
    exact hperm
  constructor
  · rw [hhistory, htasks]
    exact h.accepted
  · rw [hhistory, hstarted, hstop]
    exact h.dropped
  · rw [hhistory]
    exact h.taken.trans (hrunning.symm.append_left _)
  · rw [hhistory]
    exact fun t ht => hjobs _ (h.cancelled t ht)

/-- The request of `stop`. -/
theorem requestStop (h : TasksInv p) (caller : StopCaller) : TasksInv (p.requestStop caller) := by
  have hexecutor : (p.requestStop caller).render.executor =
      { p.render.executor with stopRequested := true, renderTasks := [] } :=
    WorkerPool.dropTasks_executor _
  have hdropped := WorkerPool.dropTasks_dropped
    { p.render with executor.stopRequested := true }
  constructor
  · show p.history.accepted =
      p.history.taken ++ (p.history.dropped ++ p.render.executor.renderTasks) ++ _
    rw [hexecutor, h.accepted]
    simp
  · intro _ hgoing
    rw [hexecutor] at hgoing
    cases hgoing
  · exact h.taken
  · intro t ht
    rcases List.mem_append.mp ht with ht | ht
    · exact hdropped.cancelled t.job (h.cancelled t ht)
    · exact WorkerPool.dropTasks_cancelled { p.render with executor.stopRequested := true } ht

/-- Discarding workers that render nothing. -/
theorem running_eq_nil (h : ∀ phase ∈ p.workers, phase = .exited) : p.running = [] := by
  apply List.filterMap_eq_nil_iff.mpr
  intro phase hmem
  rw [h phase hmem]
  rfl

/-- **A step** keeps the tasks. -/
theorem step (h : TasksInv p) (hpool : PoolInv cfg p) {e : PoolEvent}
    (hstep : PoolStep cfg p e p') : TasksInv p' := by
  have hsame : ∀ j, (p.render.jobs.job j).cancelled = true →
      (p.render.jobs.job j).cancelled = true := fun _ => id
  cases hstep with
  | refused task => exact h
  | accepted task hstarted hgoing hroom =>
    refine ⟨?_, h.dropped, h.taken, h.cancelled⟩
    show p.history.accepted ++ [task] = _
    rw [h.accepted, List.append_assoc]
  | notifiesNobody hpending hnobody => exact ⟨h.accepted, h.dropped, h.taken, h.cancelled⟩
  | notifies i hpending ha => exact h.worker ha rfl rfl rfl rfl rfl rfl rfl hsame
  | popsNothing => exact h
  | pops job rest hjobs => exact ⟨h.accepted, h.dropped, h.taken, h.cancelled⟩
  | exits i ha hstop => exact h.worker ha rfl rfl rfl rfl rfl rfl rfl hsame
  | waits i ha hgoing hempty => exact h.worker ha rfl rfl rfl rfl rfl rfl rfl hsame
  | takes i task rest ha hgoing htasks =>
    have hstarted : p.render.executor.started = true := by
      by_contra hno
      have hnil := hpool.closed (.inl (Bool.eq_false_of_not_eq_true hno))
      rw [hnil] at htasks
      cases htasks
    have hdropped := h.dropped hstarted hgoing
    refine ⟨?_, h.dropped, ?_, h.cancelled⟩
    · show p.history.accepted = p.history.taken ++ [task] ++ p.history.dropped ++ rest
      rw [h.accepted, hdropped, htasks]
      simp
    · have hperm := running_setWorker ha (.processing task)
      calc p.history.taken ++ [task]
        _ ~ p.history.processed ++ p.running ++ [task] := h.taken.append_right _
        _ ~ p.history.processed ++ (task :: p.running) := by
          rw [List.append_assoc]
          exact (List.perm_append_singleton ..).append_left _
        _ ~ p.history.processed ++ (p.setWorker i (.processing task)).running :=
          hperm.symm.append_left _
  | wakes i ha => exact h.worker ha rfl rfl rfl rfl rfl rfl rfl hsame
  | processes i task rendered ha =>
    have hexecutor : (processed i rendered task p.render).2.executor =
        { p.render.executor with
          rendering := (processed i rendered task p.render).2.executor.rendering
          publishing := (processed i rendered task p.render).2.executor.publishing } := by
      unfold processed RenderTaskProcessor.finishTile
      cases rendered <;> rfl
    refine ⟨?_, ?_, ?_, fun t ht => ?_⟩
    · rw [hexecutor]
      exact h.accepted
    · rw [hexecutor]
      exact h.dropped
    · set b : WorkerPhase := if (processed i rendered task p.render).1 then
        .publishing task.job else .checking with hb
      have hnone : b.task = none := by
        rw [hb]
        split <;> rfl
      have hperm := running_setWorker ha b
      rw [hnone] at hperm
      calc p.history.taken
        _ ~ p.history.processed ++ p.running := h.taken
        _ ~ p.history.processed ++ (task :: (p.setWorker i b).running) :=
          hperm.symm.append_left _
        _ ~ task :: p.history.processed ++ (p.setWorker i b).running := List.perm_middle
    · have hcancelled := h.cancelled t ht
      unfold processed RenderTaskProcessor.finishTile
      cases rendered <;> simp [JobTable.countDown_job, JobTable.cancel_job, hcancelled]
  | publishes i job ha => exact h.worker ha rfl rfl rfl rfl rfl rfl rfl hsame
  | startsAgain howner hstarted => exact ⟨h.accepted, h.dropped, h.taken, h.cancelled⟩
  | starts howner hstopped =>
    have hidle := hpool.owner
    rw [howner] at hidle
    obtain ⟨hstarted, -⟩ | ⟨-, hnone⟩ := hidle
    · exact absurd (hstopped.symm.trans hstarted) Bool.false_ne_true
    refine ⟨?_, fun _ _ => rfl, ?_, nofun⟩
    · show [] = [] ++ [] ++ p.render.executor.renderTasks
      rw [hpool.closed (.inl hstopped)]
      rfl
    · show List.Perm [] ([] ++ p.running)
      unfold WorkerPool.running
      rw [hnone]
      rfl
  | stopsAgain howner hstopped => exact ⟨h.accepted, h.dropped, h.taken, h.cancelled⟩
  | stops howner hstarted => exact h.requestStop .owner
  | discards made howner => exact ⟨h.accepted, h.dropped, h.taken, h.cancelled⟩
  | makes howner hfewer =>
    refine ⟨h.accepted, h.dropped, ?_, h.cancelled⟩
    have hnone : [WorkerPhase.checking].filterMap WorkerPhase.task = [] := rfl
    unfold WorkerPool.running
    rw [List.filterMap_append, hnone, List.append_nil]
    exact h.taken
  | fails howner hfewer => exact ⟨h.accepted, h.dropped, h.taken, h.cancelled⟩
  | hasStarted made howner hall => exact ⟨h.accepted, h.dropped, h.taken, h.cancelled⟩
  | stopsFailed made howner => exact h.requestStop .start
  | notifiesAll made caller howner =>
    refine ⟨h.accepted, h.dropped, ?_, h.cancelled⟩
    have hsame : (p.workers.map WorkerPool.notified).filterMap WorkerPhase.task = p.running := by
      rw [List.filterMap_map]
      apply List.filterMap_congr
      intro phase _
      cases phase <;> rfl
    unfold WorkerPool.running
    rw [hsame]
    exact h.taken
  | joins made caller joined howner hworker => exact ⟨h.accepted, h.dropped, h.taken, h.cancelled⟩
  | clears made caller joined howner hall =>
    refine ⟨h.accepted, h.dropped, ?_, h.cancelled⟩
    have howned := hpool.owner
    rw [howner] at howned
    have hexited : ∀ phase ∈ p.workers, phase = .exited := by
      intro phase hmem
      obtain ⟨i, hi⟩ := List.mem_iff_getElem?.mp hmem
      have hlt : i < joined :=
        (length_pos_of_getElem? hi).trans_le (List.getElem?_eq_none_iff.mp hall)
      exact Option.some.inj (hi.symm.trans (howned.2.2.2 i hlt))
    have htaken := h.taken
    rw [running_eq_nil hexited] at htaken
    exact htaken
  | finishes made caller howner => exact ⟨h.accepted, nofun, h.taken, h.cancelled⟩

end TasksInv

end Anasa
