import Anasa.Model.Scheduler

/-!
# What the operations on the rendering state leave alone

For each operation an equation with the fields it may change, and what it does to the table of
registered jobs.
-/

namespace Anasa

variable {S : Type} {cfg : Config}

/-! ## Registered jobs and the cache -/

theorem ActiveRenderJobs.cancel_eq (cfg : Config) (chunk : Int) (r : RenderState S) :
    ActiveRenderJobs.cancel cfg chunk r =
      { r with jobs := (ActiveRenderJobs.cancel cfg chunk r).jobs } := by
  unfold ActiveRenderJobs.cancel
  split
  · rfl
  · split <;> rfl

theorem ActiveRenderJobs.cancel_origins (cfg : Config) (chunk : Int) (r : RenderState S) :
    (ActiveRenderJobs.cancel cfg chunk r).jobs.origins = r.jobs.origins := by
  unfold ActiveRenderJobs.cancel
  split
  · rfl
  · split
    · rfl
    · exact JobTable.cancel_origins _ _

theorem ActiveRenderJobs.cancelAndReset_origins (chunk : Int) (r : RenderState S) :
    (ActiveRenderJobs.cancelAndReset chunk r).jobs.origins = r.jobs.origins := by
  unfold ActiveRenderJobs.cancelAndReset
  split
  · rfl
  · exact JobTable.cancel_origins _ _

theorem ActiveRenderJobs.cancelAndReset_eq (chunk : Int) (r : RenderState S) :
    ActiveRenderJobs.cancelAndReset chunk r =
      { r with
        jobs := (ActiveRenderJobs.cancelAndReset chunk r).jobs
        activeJobs := (ActiveRenderJobs.cancelAndReset chunk r).activeJobs } := by
  unfold ActiveRenderJobs.cancelAndReset
  split <;> rfl

theorem ActiveRenderJobs.cancelAndReset_activeJobs (chunk : Int) (r : RenderState S) :
    (ActiveRenderJobs.cancelAndReset chunk r).activeJobs =
      Function.update r.activeJobs chunk none := by
  unfold ActiveRenderJobs.cancelAndReset
  split
  · rename_i hnone
    rw [← hnone, Function.update_eq_self]
  · rfl

theorem ActiveRenderJobs.cancelAndReset_made (chunk : Int) (r : RenderState S) :
    (ActiveRenderJobs.cancelAndReset chunk r).jobs.made = r.jobs.made := by
  unfold ActiveRenderJobs.cancelAndReset
  split <;> rfl

/-- `finish` touches the registrations only. -/
theorem ActiveRenderJobs.finish_eq (cfg : Config) (j : JobId) (r : RenderState S) :
    (ActiveRenderJobs.finish cfg j r).2 =
      { r with activeJobs := (ActiveRenderJobs.finish cfg j r).2.activeJobs } := by
  unfold ActiveRenderJobs.finish
  dsimp only
  split
  · rfl
  · split <;> rfl

/-- A usable job was registered and not cancelled. -/
theorem ActiveRenderJobs.finish_usable {j : JobId} (h : (ActiveRenderJobs.finish cfg j r).1 = true) :
    r.activeJobs (r.jobs.job j).chunk = some j ∧ (r.jobs.job j).cancelled = false := by
  unfold ActiveRenderJobs.finish at h
  dsimp only at h
  split at h
  · cases h
  · split at h
    · cases h
    · rename_i heq
      exact ⟨not_not.mp heq, by simpa using h⟩

theorem ActiveRenderJobs.finish_activeJobs_sub (cfg : Config) (j : JobId) {r : RenderState S}
    {c : Int} {k : JobId} (h : (ActiveRenderJobs.finish cfg j r).2.activeJobs c = some k) :
    r.activeJobs c = some k := by
  unfold ActiveRenderJobs.finish at h
  dsimp only at h
  split at h
  · exact h
  · split at h
    · exact h
    · dsimp only at h
      rw [Function.update_apply] at h
      split at h
      · cases h
      · exact h

theorem RenderCache.store_activeJobs (cfg : Config) (chunk version : Int)
    (samples : AudioBuffer S) (r : RenderState S) :
    (RenderCache.store cfg chunk version samples r).2.activeJobs = r.activeJobs := by
  unfold RenderCache.store
  split
  · rfl
  · split <;> rfl

/-! ## Completions -/

theorem Scheduler.collectOne_eq (cfg : Config) (r : RenderState S) :
    (Scheduler.collectOne cfg r).2 =
      { r with
        activeJobs := (Scheduler.collectOne cfg r).2.activeJobs
        cacheEntries := (Scheduler.collectOne cfg r).2.cacheEntries
        executor := (Scheduler.collectOne cfg r).2.executor
        history := (Scheduler.collectOne cfg r).2.history } := by
  unfold Scheduler.collectOne Executor.popCompleted
  split
  · rfl
  · rename_i heq
    split at heq
    · cases heq
    · cases heq
      dsimp only
      rw [ActiveRenderJobs.finish_eq]
      split
      · unfold RenderCache.store
        split
        · rfl
        · split <;> rfl
      · rfl

theorem Scheduler.collectOne_activeJobs {r : RenderState S} {c : Int} {k : JobId}
    (h : (Scheduler.collectOne cfg r).2.activeJobs c = some k) : r.activeJobs c = some k := by
  unfold Scheduler.collectOne Executor.popCompleted at h
  rcases hcompleted : r.executor.completedJobs with - | ⟨j, rest⟩ <;> rw [hcompleted] at h
  · exact h
  · have hfinish := ActiveRenderJobs.finish_activeJobs_sub cfg j
      (r := { r with executor.completedJobs := rest }) (c := c) (k := k)
    dsimp only at h
    split at h
    · rw [RenderCache.store_activeJobs] at h
      exact hfinish h
    · exact hfinish h

/-! ## Tiles -/

theorem Scheduler.submitTile_eq (cfg : Config) (refused : Bool) (tile : PendingRenderTile)
    (r : RenderState S) : (Scheduler.submitTile cfg refused tile r).2 =
      { r with
        pendingTiles := (Scheduler.submitTile cfg refused tile r).2.pendingTiles
        executor := (Scheduler.submitTile cfg refused tile r).2.executor } := by
  unfold Scheduler.submitTile Executor.submit
  split
  · rfl
  · split
    · rename_i heq
      split at heq
      · cases heq
      · split at heq
        · cases heq
        · split at heq
          · cases heq
          · cases heq
            rfl
    · rfl

theorem Scheduler.retireTile_eq (cfg : Config) (tile : PendingRenderTile) (r : RenderState S) :
    Scheduler.retireTile cfg tile r =
      { r with
        jobs := r.jobs.countDown tile.job
        reclassificationBuffer := r.reclassificationBuffer.tail
        activeJobs := (Scheduler.retireTile cfg tile r).activeJobs
        history := (Scheduler.retireTile cfg tile r).history } := by
  unfold Scheduler.retireTile
  dsimp only
  split
  · rw [ActiveRenderJobs.finish_eq]
  · rfl

theorem Scheduler.retireTile_activeJobs {tile : PendingRenderTile} {r : RenderState S} {c : Int}
    {k : JobId} (h : (Scheduler.retireTile cfg tile r).activeJobs c = some k) :
    r.activeJobs c = some k := by
  unfold Scheduler.retireTile at h
  dsimp only at h
  split at h
  · exact ActiveRenderJobs.finish_activeJobs_sub cfg tile.job
      (r := { r with
        jobs := r.jobs.countDown tile.job
        reclassificationBuffer := r.reclassificationBuffer.tail }) h
  · exact h

theorem Executor.dropTask_eq (r : RenderState S) :
    Executor.dropTask r = { r with
      jobs := (Executor.dropTask r).jobs
      executor := (Executor.dropTask r).executor } := by
  unfold Executor.dropTask
  split <;> rfl

theorem Executor.dropTask_origins (r : RenderState S) :
    (Executor.dropTask r).jobs.origins = r.jobs.origins := by
  unfold Executor.dropTask
  split
  · rfl
  · exact JobTable.cancel_origins _ _

theorem Executor.dropTask_made (r : RenderState S) :
    (Executor.dropTask r).jobs.made = r.jobs.made := by
  unfold Executor.dropTask
  split <;> rfl

theorem Scheduler.dropPendingTile_eq (r : RenderState S) :
    Scheduler.dropPendingTile r = { r with
      jobs := (Scheduler.dropPendingTile r).jobs
      pendingTiles := r.pendingTiles.tail } := by
  rcases h : r.pendingTiles with - | ⟨tile, rest⟩ <;> simp only [Scheduler.dropPendingTile, h]
  · rw [List.tail_nil, ← h]
  · rfl

theorem Scheduler.dropPendingTile_origins (r : RenderState S) :
    (Scheduler.dropPendingTile r).jobs.origins = r.jobs.origins := by
  unfold Scheduler.dropPendingTile
  split
  · rfl
  · exact JobTable.cancel_origins _ _

theorem Scheduler.dropPendingTile_made (r : RenderState S) :
    (Scheduler.dropPendingTile r).jobs.made = r.jobs.made := by
  unfold Scheduler.dropPendingTile
  split <;> rfl

end Anasa
