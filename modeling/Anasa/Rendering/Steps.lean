import Anasa.Rendering.Invariant

/-!
# What the threads rely on

1. `JobsKept`: what nobody changes of a job that exists.
2. `SchedulerKept`: what only the scheduler changes.
3. `WorkerKept`: what only a worker changes while it holds a tile.

An operation of the scheduler is a `SchedulerStep`, one of a worker a `WorkerStep`.
-/

namespace Anasa

variable {S : Type}

structure JobsKept (t t' : JobTable S) : Prop where
  made_le : t.made ≤ t'.made
  chunk : ∀ j < t.made, (t'.job j).chunk = (t.job j).chunk
  version : ∀ j < t.made, (t'.job j).version = (t.job j).version
  cancelled : ∀ j < t.made, (t.job j).cancelled = true → (t'.job j).cancelled = true

structure SchedulerKept (r r' : RenderState S) : Prop where
  versions : r'.versions = r.versions
  pendingTiles : r'.pendingTiles = r.pendingTiles
  buffer : r'.reclassificationBuffer = r.reclassificationBuffer
  cacheEntries : r'.cacheEntries = r.cacheEntries
  activeJobs : r'.activeJobs = r.activeJobs
  made : r'.jobs.made = r.jobs.made
  sessionFirst : r'.history.sessionFirstJob = r.history.sessionFirstJob

structure WorkerKept (w : ℕ) (r r' : RenderState S) : Prop where
  rendering : ∀ task, (w, task) ∈ r.executor.rendering → (w, task) ∈ r'.executor.rendering
  publishing : ∀ j, (w, j) ∈ r.executor.publishing → (w, j) ∈ r'.executor.publishing
  samples : ∀ task, (w, task) ∈ r.executor.rendering → ∀ c f, task.tileIndex * tileFrames ≤ f →
    f < task.tileIndex * tileFrames + tileFrames →
    (r'.jobs.job task.job).samples.sample c f = (r.jobs.job task.job).samples.sample c f

/-! ## Orders -/

theorem JobsKept.refl (t : JobTable S) : JobsKept t t :=
  ⟨le_rfl, fun _ _ => rfl, fun _ _ => rfl, fun _ _ h => h⟩

theorem JobsKept.trans {t₁ t₂ t₃ : JobTable S} (h : JobsKept t₁ t₂) (h' : JobsKept t₂ t₃) :
    JobsKept t₁ t₃ where
  made_le := h.made_le.trans h'.made_le
  chunk j hj := (h'.chunk j (hj.trans_le h.made_le)).trans (h.chunk j hj)
  version j hj := (h'.version j (hj.trans_le h.made_le)).trans (h.version j hj)
  cancelled j hj hc := h'.cancelled j (hj.trans_le h.made_le) (h.cancelled j hj hc)

theorem SchedulerKept.refl (r : RenderState S) : SchedulerKept r r :=
  ⟨rfl, rfl, rfl, rfl, rfl, rfl, rfl⟩

theorem SchedulerKept.trans {r₁ r₂ r₃ : RenderState S} (h : SchedulerKept r₁ r₂)
    (h' : SchedulerKept r₂ r₃) : SchedulerKept r₁ r₃ where
  versions := h'.versions.trans h.versions
  pendingTiles := h'.pendingTiles.trans h.pendingTiles
  buffer := h'.buffer.trans h.buffer
  cacheEntries := h'.cacheEntries.trans h.cacheEntries
  activeJobs := h'.activeJobs.trans h.activeJobs
  made := h'.made.trans h.made
  sessionFirst := h'.sessionFirst.trans h.sessionFirst

theorem WorkerKept.refl (w : ℕ) (r : RenderState S) : WorkerKept w r r :=
  ⟨fun _ h => h, fun _ h => h, fun _ _ _ _ _ _ => rfl⟩

theorem WorkerKept.trans {w : ℕ} {r₁ r₂ r₃ : RenderState S} (h : WorkerKept w r₁ r₂)
    (h' : WorkerKept w r₂ r₃) : WorkerKept w r₁ r₃ where
  rendering task ht := h'.rendering task (h.rendering task ht)
  publishing j hj := h'.publishing j (h.publishing j hj)
  samples task ht c f h₀ h₁ :=
    (h'.samples task (h.rendering task ht) c f h₀ h₁).trans (h.samples task ht c f h₀ h₁)

/-! ## Jobs -/

theorem JobsKept.cancel (t : JobTable S) (k : JobId) : JobsKept t (t.cancel k) := by
  refine ⟨le_rfl, ?_, ?_, ?_⟩ <;> intro j hj <;> rw [JobTable.cancel_job]
  intro hc
  rw [hc, Bool.true_or]

theorem JobsKept.countDown (t : JobTable S) (k : JobId) : JobsKept t (t.countDown k) := by
  refine ⟨le_rfl, ?_, ?_, ?_⟩ <;> intro j hj <;> rw [JobTable.countDown_job]
  exact fun hc => hc

theorem JobsKept.setSample (t : JobTable S) (k : JobId) (c f : Int) (value : S) :
    JobsKept t (t.setSample k c f value) := by
  refine ⟨le_rfl, ?_, ?_, ?_⟩ <;> intro j hj <;> rw [JobTable.setSample_job]
  exact fun hc => hc

theorem JobsKept.add (t : JobTable S) (job : RenderJob S) : JobsKept t (t.add job) := by
  refine ⟨Nat.le_succ _, ?_, ?_, ?_⟩ <;> intro j hj <;> rw [JobTable.add_job_of_ne _ _ hj.ne]
  exact fun hc => hc

/-! ## Operations of the scheduler -/

structure SchedulerStep (r r' : RenderState S) : Prop where
  jobs : JobsKept r.jobs r'.jobs
  rendering : r'.executor.rendering = r.executor.rendering
  publishing : r'.executor.publishing = r.executor.publishing
  samples : ∀ j < r.jobs.made, (r'.jobs.job j).samples = (r.jobs.job j).samples

namespace SchedulerStep

variable {cfg : Config} {kernel : RenderKernel S} {r r' : RenderState S}

/-- Workers keep their tiles in a step of the scheduler. -/
theorem workerKept (h : SchedulerStep r r') (hi : RenderInv cfg kernel r) (w : ℕ) :
    WorkerKept w r r' where
  rendering task ht := h.rendering ▸ ht
  publishing j hj := h.publishing ▸ hj
  samples task ht c f _ _ := by
    rw [h.samples _ (hi.tiles.job_lt _ (RenderInv.mem_outstanding_of_rendering ht))]

/-- A step that changes no job. -/
theorem of_jobs_eq (hjobs : r'.jobs = r.jobs)
    (hrendering : r'.executor.rendering = r.executor.rendering)
    (hpublishing : r'.executor.publishing = r.executor.publishing) : SchedulerStep r r' :=
  ⟨hjobs ▸ JobsKept.refl r.jobs, hrendering, hpublishing, fun _ _ => by rw [hjobs]⟩

/-- A step that cancels a job. -/
theorem of_cancel {k : JobId} (hjobs : r'.jobs = r.jobs.cancel k)
    (hrendering : r'.executor.rendering = r.executor.rendering)
    (hpublishing : r'.executor.publishing = r.executor.publishing) : SchedulerStep r r' :=
  ⟨hjobs ▸ JobsKept.cancel r.jobs k, hrendering, hpublishing,
    fun j _ => by rw [hjobs, JobTable.cancel_job]⟩

theorem activeCancel (cfg : Config) (chunk : Int) (r : RenderState S) :
    SchedulerStep r (ActiveRenderJobs.cancel cfg chunk r) := by
  unfold ActiveRenderJobs.cancel
  split
  · exact of_jobs_eq rfl rfl rfl
  · split
    · exact of_jobs_eq rfl rfl rfl
    · exact of_cancel rfl rfl rfl

theorem cancelAndReset (chunk : Int) (r : RenderState S) :
    SchedulerStep r (ActiveRenderJobs.cancelAndReset chunk r) := by
  unfold ActiveRenderJobs.cancelAndReset
  split
  · exact of_jobs_eq rfl rfl rfl
  · exact of_cancel rfl rfl rfl

theorem submitTile (cfg : Config) (refused : Bool) (tile : PendingRenderTile)
    (r : RenderState S) : SchedulerStep r (Scheduler.submitTile cfg refused tile r).2 := by
  unfold Scheduler.submitTile Executor.submit
  split
  · exact of_jobs_eq rfl rfl rfl
  · split
    · rename_i heq
      split at heq
      · cases heq
      · split at heq
        · cases heq
        · split at heq
          · cases heq
          · cases heq
            exact of_jobs_eq rfl rfl rfl
    · exact of_jobs_eq rfl rfl rfl

theorem dropPendingTile (r : RenderState S) :
    SchedulerStep r (Scheduler.dropPendingTile r) := by
  unfold Scheduler.dropPendingTile
  split
  · exact of_jobs_eq rfl rfl rfl
  · exact of_cancel rfl rfl rfl

theorem dropTask (r : RenderState S) : SchedulerStep r (Executor.dropTask r) := by
  unfold Executor.dropTask
  split
  · exact of_jobs_eq rfl rfl rfl
  · exact of_cancel rfl rfl rfl

theorem retireTile (cfg : Config) (tile : PendingRenderTile) (r : RenderState S) :
    SchedulerStep r (Scheduler.retireTile cfg tile r) := by
  have hjobs : JobsKept r.jobs (r.jobs.countDown tile.job) := JobsKept.countDown _ _
  unfold Scheduler.retireTile
  dsimp only
  split
  · rw [ActiveRenderJobs.finish_eq]
    exact ⟨hjobs, rfl, rfl, fun j _ => by rw [JobTable.countDown_job]⟩
  · exact ⟨hjobs, rfl, rfl, fun j _ => by rw [JobTable.countDown_job]⟩

theorem collectOne (cfg : Config) (r : RenderState S) :
    SchedulerStep r (Scheduler.collectOne cfg r).2 := by
  unfold Scheduler.collectOne Executor.popCompleted
  split
  · exact of_jobs_eq rfl rfl rfl
  · rename_i j r₁ heq
    split at heq
    · cases heq
    · cases heq
      dsimp only
      rw [ActiveRenderJobs.finish_eq]
      split
      · unfold RenderCache.store
        split
        · exact of_jobs_eq rfl rfl rfl
        · split <;> exact of_jobs_eq rfl rfl rfl
      · exact of_jobs_eq rfl rfl rfl

theorem admitChunk [Zero S] (cfg : Config) (chunk version : Int)
    (classification : RenderClassification) (r : RenderState S) :
    SchedulerStep r (Scheduler.admitChunk cfg chunk version classification r) := by
  unfold Scheduler.admitChunk ActiveRenderJobs.create
  split
  · exact of_jobs_eq rfl rfl rfl
  · rename_i heq
    split at heq
    · cases heq
    · cases heq
      have hcancel := activeCancel cfg chunk r
      exact ⟨hcancel.jobs.trans (JobsKept.add _ _), hcancel.rendering, hcancel.publishing,
        fun j hj => by
          rw [JobTable.add_job_of_ne _ _ (hj.trans_le hcancel.jobs.made_le).ne]
          exact hcancel.samples j hj⟩

end SchedulerStep

/-! ## Operations of a worker -/

structure WorkerStep (w : ℕ) (r r' : RenderState S) : Prop where
  jobs : JobsKept r.jobs r'.jobs
  scheduler : SchedulerKept r r'
  others : ∀ w', w' ≠ w → WorkerKept w' r r'

namespace WorkerStep

variable {cfg : Config} {kernel : RenderKernel S} {r : RenderState S} {w : ℕ}

theorem cancelJob (w : ℕ) (j : JobId) (r : RenderState S) :
    WorkerStep w r { r with jobs := r.jobs.cancel j } :=
  ⟨JobsKept.cancel _ _, ⟨rfl, rfl, rfl, rfl, rfl, rfl, rfl⟩, fun _ _ =>
    ⟨fun _ ht => ht, fun _ hj => hj, fun _ _ _ _ _ _ => by rw [JobTable.cancel_job]⟩⟩

theorem takeTask (w : ℕ) (r : RenderState S) :
    WorkerStep w r (Executor.takeTask w r).2 := by
  have hrefl : WorkerStep w r r :=
    ⟨JobsKept.refl _, SchedulerKept.refl _, fun _ _ => WorkerKept.refl _ _⟩
  unfold Executor.takeTask
  split
  · exact hrefl
  · split
    · exact hrefl
    · exact ⟨JobsKept.refl _, ⟨rfl, rfl, rfl, rfl, rfl, rfl, rfl⟩, fun _ _ =>
        ⟨fun _ ht => List.mem_cons_of_mem _ ht, fun _ hj => hj, fun _ _ _ _ _ _ => rfl⟩⟩

/-- Two workers do not hold the same tile. -/
theorem task_ne {w' : ℕ} {task task' : RenderTask} (h : RenderInv cfg kernel r)
    (hw : (w, task) ∈ r.executor.rendering) (hw' : (w', task') ∈ r.executor.rendering)
    (hne : w' ≠ w) : task' ≠ task := by
  rintro rfl
  have hnodup : (r.executor.rendering.map Prod.snd).Nodup :=
    (List.nodup_append.mp h.tiles.nodup).2.1
  exact hne (congrArg Prod.fst (List.inj_on_of_nodup_map hnodup hw' hw rfl))

/-- A sample in the tile a worker holds. -/
theorem setSample {j : JobId} {t c f : Int} (h : RenderInv cfg kernel r)
    (hw : (w, (⟨j, t⟩ : RenderTask)) ∈ r.executor.rendering) (h₀ : t * tileFrames ≤ f)
    (h₁ : f < t * tileFrames + tileFrames) (value : S) :
    WorkerStep w r { r with jobs := r.jobs.setSample j c f value } := by
  refine ⟨JobsKept.setSample _ _ _ _ _, ⟨rfl, rfl, rfl, rfl, rfl, rfl, rfl⟩, fun w' hne =>
    ⟨fun _ ht => ht, fun _ hj => hj, fun task ht c' f' h₀' h₁' => ?_⟩⟩
  rw [JobTable.setSample_job]
  dsimp only
  split
  · rename_i hj
    have htile : task.tileIndex ≠ t := fun he =>
      task_ne h hw ht hne (by obtain ⟨j', t'⟩ := task; subst hj he; rfl)
    refine AudioBuffer.set_sample_of_ne _ _ (.inl ?_)
    rintro rfl
    simp only [tileFrames] at h₀ h₁ h₀' h₁'
    omega
  · rfl

theorem finishTile (w : ℕ) (task : RenderTask) (rendered : Bool) (r : RenderState S) :
    WorkerStep w r (RenderTaskProcessor.finishTile w task rendered r).2 := by
  refine ⟨JobsKept.countDown _ _, ⟨rfl, rfl, rfl, rfl, rfl, rfl, rfl⟩, fun w' hne =>
    ⟨fun task' ht => ?_, fun j hj => ?_, fun _ _ _ _ _ _ => ?_⟩⟩
  · exact (List.mem_erase_of_ne fun he => hne (congrArg Prod.fst he)).mpr ht
  · dsimp only [RenderTaskProcessor.finishTile]
    split
    · exact List.mem_cons_of_mem _ hj
    · exact hj
  · dsimp only [RenderTaskProcessor.finishTile]
    rw [JobTable.countDown_job]

theorem pushCompleted (w : ℕ) (j : JobId) (r : RenderState S) :
    WorkerStep w r (Executor.pushCompleted w j r) :=
  ⟨JobsKept.refl _, ⟨rfl, rfl, rfl, rfl, rfl, rfl, rfl⟩, fun _ hne =>
    ⟨fun _ ht => ht,
      fun _ hk => (List.mem_erase_of_ne fun he => hne (congrArg Prod.fst he)).mpr hk,
      fun _ _ _ _ _ _ => rfl⟩⟩

end WorkerStep

end Anasa
