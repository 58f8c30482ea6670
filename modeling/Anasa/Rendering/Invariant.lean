import Anasa.Rendering.Operations
import Anasa.Rendering.Registration

/-!
# The invariant of the rendering state

`RenderInv` collects the invariants of the rendering side. Each section takes one operation of
the scheduler or of a worker and shows that the operation keeps it.
-/

namespace Anasa

open Concurrency

variable {S : Type}

structure RenderInv (cfg : Config) (kernel : RenderKernel S) (r : RenderState S) : Prop where
  jobs : JobsInv cfg r.jobs r.versions
  tiles : TilesInv r.outstanding r.jobs r.history.sessionFirstJob
  content : ContentInv kernel r.outstanding r.jobs r.history.rendered
  completion : CompletionInv r.executor.publishing r.executor.completedJobs r.history r.jobs
  registration : RegistrationInv r.activeJobs r.jobs r.executor.publishing
    r.executor.completedJobs r.cacheEntries r.history.sessionFirstJob r.history.sessionOpen
  cache : CacheInv cfg kernel r.cacheEntries r.versions r.history.stored

/-- Two lists with the same counts. -/
theorem perm_of_count {l l' : List RenderTask} (h : ∀ t, l.count t = l'.count t) : l.Perm l' :=
  List.perm_iff_count.mpr h

namespace RenderInv

variable {cfg : Config} {kernel : RenderKernel S} {r : RenderState S}

theorem init [Zero S] (cfg : Config) (kernel : RenderKernel S) :
    RenderInv cfg kernel (RenderState.init cfg) where
  jobs := by constructor <;> intro j hj <;> cases hj
  tiles := by
    constructor
    · intro t ht; cases ht
    · intro t ht; cases ht
    · exact List.nodup_nil
    · intro j hj; cases hj
    · intro j hj; cases hj
    · exact le_rfl
  content := by intro j hj; cases hj
  completion := by
    constructor
    · exact List.nodup_nil
    · intro j
      constructor
      · intro hj; cases hj
      · rintro ⟨hj, -⟩; cases hj
    · exact List.nodup_nil
    · intro j hj; cases hj
    · intro j hj; cases hj
    · intro j hj; cases hj
  registration := by
    constructor
    · intro c j hj; cases hj
    · intro j hj; cases hj
    · intro c j hj; cases hj
    · intro c j hj; cases hj
    · intro h; cases h
  cache := by
    constructor
    · intro c; rfl
    · intro c; rfl
    · intro c; exact zero_le_one
    · intro c; exact zero_lt_one
    · intro c h; exact absurd rfl h
    · intro c v h; cases h
    · exact List.nodup_nil

/-! ## Cancellation and edits -/

theorem cancelJob (h : RenderInv cfg kernel r) (j : JobId) :
    RenderInv cfg kernel { r with jobs := r.jobs.cancel j } where
  jobs := h.jobs.cancel j
  tiles := h.tiles.cancel j
  content := h.content.cancel j
  completion := h.completion.cancel j
  registration := h.registration.cancel j
  cache := h.cache

theorem activeCancel (h : RenderInv cfg kernel r) (chunk : Int) :
    RenderInv cfg kernel (ActiveRenderJobs.cancel cfg chunk r) := by
  unfold ActiveRenderJobs.cancel
  split
  · exact h
  · split
    · exact h
    · exact h.cancelJob _

theorem bumpVersion (h : RenderInv cfg kernel r) (chunk : Int) :
    RenderInv cfg kernel (Scheduler.bumpVersion chunk r) :=
  { h with
    jobs := { h.jobs with
      version_le := fun j hj => by
        have := h.jobs.version_le j hj
        dsimp only [Scheduler.bumpVersion]
        rw [Function.update_apply]
        split
        · rename_i hc
          rw [← hc]
          omega
        · exact this }
    cache := h.cache.bump chunk }

theorem cancelAndReset (h : RenderInv cfg kernel r) (chunk : Int) :
    RenderInv cfg kernel (ActiveRenderJobs.cancelAndReset chunk r) := by
  unfold ActiveRenderJobs.cancelAndReset
  split
  · exact h
  · rename_i j hj
    exact {
      jobs := h.jobs.cancel j
      tiles := h.tiles.cancel j
      content := h.content.cancel j
      completion := h.completion.cancel j
      registration := h.registration.cancelAndReset hj
      cache := h.cache }

/-! ## Moving tiles -/

/-- The tiles move; nothing else changes. -/
theorem moved {pending buffer : List PendingRenderTile} {renderTasks : List RenderTask}
    {rendering : List (ℕ × RenderTask)} {sequence : Int} (h : RenderInv cfg kernel r)
    (hp : r.outstanding.Perm (pending.map (·.task) ++ buffer.map (·.task) ++ renderTasks ++
      rendering.map Prod.snd)) :
    RenderInv cfg kernel { r with
      pendingTiles := pending
      reclassificationBuffer := buffer
      nextTileSequence := sequence
      executor.renderTasks := renderTasks
      executor.rendering := rendering } :=
  { h with
    tiles := h.tiles.perm hp
    content := h.content.perm hp }

theorem setAside (h : RenderInv cfg kernel r) (hb : r.reclassificationBuffer = []) :
    RenderInv cfg kernel { r with
      reclassificationBuffer := r.pendingTiles
      pendingTiles := [] } := by
  refine h.moved (List.Perm.of_eq ?_)
  simp [RenderState.outstanding, hb]

theorem keepTile {tile : PendingRenderTile} {rest : List PendingRenderTile}
    (h : RenderInv cfg kernel r) (hb : r.reclassificationBuffer = tile :: rest) :
    RenderInv cfg kernel (Scheduler.keepTile cfg tile r) := by
  refine h.moved ((List.Perm.append_right _ (List.Perm.append_right _ ?_)))
  rw [hb, List.tail_cons]
  have hpush := (PriorityQueue.push_perm (createSchedulingPolicy cfg.scheduler.policyType) tile
    r.pendingTiles).map PendingRenderTile.task
  refine List.Perm.trans ?_ (hpush.symm.append_right _)
  exact List.perm_middle

theorem refresh {f : PendingRenderTile → PendingRenderTile} (h : RenderInv cfg kernel r)
    (hf : ∀ tile, (f tile).task = tile.task) (hb : r.reclassificationBuffer = []) :
    RenderInv cfg kernel { r with
      pendingTiles := pushAllPending cfg (r.pendingTiles.map f) []
      reclassificationBuffer := [] } := by
  refine h.moved (List.Perm.append_right _ (List.Perm.append_right _ ?_))
  rw [hb]
  refine List.Perm.append_right _ ?_
  have hpush := (PriorityQueue.pushAll_perm (createSchedulingPolicy cfg.scheduler.policyType)
    (r.pendingTiles.map f) []).map PendingRenderTile.task
  refine List.Perm.trans (List.Perm.of_eq ?_) hpush.symm
  simp [Function.comp_def, hf]

theorem submitTile {tile : PendingRenderTile} {refused : Bool} (h : RenderInv cfg kernel r)
    (hhead : r.pendingTiles.head? = some tile) :
    RenderInv cfg kernel (Scheduler.submitTile cfg refused tile r).2 := by
  obtain ⟨rest, hpending⟩ := List.head?_eq_some_iff.mp hhead
  unfold Scheduler.submitTile Executor.submit
  split
  · exact h
  · split
    · rename_i heq
      split at heq
      · cases heq
      · split at heq
        · cases heq
        · split at heq
          · cases heq
          · cases heq
            refine h.moved (perm_of_count fun t => ?_)
            simp only [RenderState.outstanding, hpending, List.map_cons, List.tail_cons,
              List.count_append, List.count_cons, List.count_nil, PendingRenderTile.task]
            omega
    · exact h

theorem takeTask (h : RenderInv cfg kernel r) (w : ℕ) :
    RenderInv cfg kernel (Executor.takeTask w r).2 := by
  unfold Executor.takeTask
  split
  · exact h
  · split
    · exact h
    · rename_i task rest heq
      refine h.moved (perm_of_count fun t => ?_)
      simp only [RenderState.outstanding, heq, List.map_cons, List.count_append, List.count_cons]
      omega

/-! ## Dropping tiles when a session has ended -/

theorem dropPendingTile (h : RenderInv cfg kernel r)
    (hsession : r.history.sessionFirstJob = r.jobs.made) :
    RenderInv cfg kernel (Scheduler.dropPendingTile r) := by
  unfold Scheduler.dropPendingTile
  split
  · exact h
  · rename_i tile rest heq
    have hp : r.outstanding.Perm (tile.task :: (rest.map (·.task) ++
        r.reclassificationBuffer.map (·.task) ++ r.executor.renderTasks ++
        r.executor.rendering.map Prod.snd)) := by
      rw [RenderState.outstanding, heq]
      rfl
    have hmem : tile.task ∈ r.outstanding := hp.mem_iff.mpr List.mem_cons_self
    exact {
      jobs := h.jobs.cancel _
      tiles := h.tiles.drop hp (hsession.symm ▸ h.tiles.job_lt _ hmem)
      content := (h.content.cancel _).remove hp
        (by simp [JobTable.cancel_job, PendingRenderTile.task])
      completion := h.completion.cancel _
      registration := h.registration.cancel _
      cache := h.cache }

theorem dropTask (h : RenderInv cfg kernel r)
    (hsession : r.history.sessionFirstJob = r.jobs.made) :
    RenderInv cfg kernel (Executor.dropTask r) := by
  unfold Executor.dropTask
  split
  · exact h
  · rename_i task rest heq
    have hp : r.outstanding.Perm (task :: (r.pendingTiles.map (·.task) ++
        r.reclassificationBuffer.map (·.task) ++ rest ++ r.executor.rendering.map Prod.snd)) := by
      rw [RenderState.outstanding, heq]
      refine (List.Perm.append_right _ List.perm_middle).trans ?_
      rfl
    have hmem : task ∈ r.outstanding := hp.mem_iff.mpr List.mem_cons_self
    exact {
      jobs := h.jobs.cancel _
      tiles := h.tiles.drop hp (hsession.symm ▸ h.tiles.job_lt _ hmem)
      content := (h.content.cancel _).remove hp (by simp [JobTable.cancel_job])
      completion := h.completion.cancel _
      registration := h.registration.cancel _
      cache := h.cache }

/-! ## Sessions -/

theorem endSession (h : RenderInv cfg kernel r) :
    RenderInv cfg kernel { r with history := r.history.endSession r.jobs.made } :=
  { h with
    tiles := h.tiles.newSession
    completion := h.completion.session _ _
    registration := h.registration.endSession }

theorem beginSession (h : RenderInv cfg kernel r) (hnone : ∀ c, r.activeJobs c = none) :
    RenderInv cfg kernel { r with history := r.history.beginSession r.jobs.made } :=
  { h with
    tiles := h.tiles.newSession
    completion := h.completion.session _ _
    registration := h.registration.beginSession hnone }

theorem clearCompleted (h : RenderInv cfg kernel r)
    (hsession : r.history.sessionFirstJob = r.jobs.made) :
    RenderInv cfg kernel { r with executor.completedJobs := [] } :=
  { h with
    completion := h.completion.collect (List.nil_sublist _) r.history.stored
    registration := by
      have hreg := h.registration
      rw [hsession] at hreg
      dsimp only
      rw [hsession]
      exact hreg.clearCompleted }

/-! ## Workers -/

theorem setSample {j : JobId} {t : Int} (h : RenderInv cfg kernel r)
    (ht : (⟨j, t⟩ : RenderTask) ∈ r.outstanding) {f : Int} (h₀ : t * tileFrames ≤ f)
    (h₁ : f < t * tileFrames + tileFrames) (c : Int) (value : S) :
    RenderInv cfg kernel { r with jobs := r.jobs.setSample j c f value } where
  jobs := h.jobs.setSample j c f value
  tiles := h.tiles.setSample j c f value
  content := h.content.setSample ht h₀ h₁ c value
  completion := h.completion.setSample j c f value
  registration := h.registration.setSample j c f value
  cache := h.cache

theorem mem_outstanding_of_rendering {w : ℕ} {task : RenderTask}
    (hw : (w, task) ∈ r.executor.rendering) : task ∈ r.outstanding :=
  List.mem_append_right _ (List.mem_map_of_mem (f := Prod.snd) hw)

/-- Counting a tile: `rendered` may be true only of a tile with its content. -/
theorem finishTile {w : ℕ} {task : RenderTask} {rendered : Bool} (h : RenderInv cfg kernel r)
    (hw : (w, task) ∈ r.executor.rendering)
    (hdone : rendered = true ∧ TileContent kernel (r.jobs.job task.job) task.tileIndex ∨
      (r.jobs.job task.job).cancelled = true) :
    RenderInv cfg kernel (RenderTaskProcessor.finishTile w task rendered r).2 := by
  have hmem := mem_outstanding_of_rendering hw
  have hpos := h.tiles.remaining_pos hmem
  have hp : r.outstanding.Perm (task :: (r.pendingTiles.map (·.task) ++
      r.reclassificationBuffer.map (·.task) ++ r.executor.renderTasks ++
      (r.executor.rendering.erase (w, task)).map Prod.snd)) :=
    (List.Perm.append_left _ ((List.perm_cons_erase hw).map Prod.snd)).trans List.perm_middle
  have hmono : ∀ j t, r.history.rendered j t = true →
      ((rendered && decide (j = task.job ∧ t = task.tileIndex)) ||
        r.history.rendered j t) = true := fun j t ht => by rw [ht, Bool.or_true]
  refine {
    jobs := h.jobs.countDown task.job
    tiles := h.tiles.countDown hp
    content := ?_
    completion := ?_
    registration := ?_
    cache := h.cache }
  · rcases hdone with ⟨rfl, hcontent⟩ | hc
    · exact (h.content.finish hp hmono hcontent (by simp)).countDown task.job
    · intro j hj hcj t h₀ h₁ ht
      obtain ⟨hcontent, hmark⟩ := ((h.content.remove hp hc).countDown task.job) j hj hcj t h₀ h₁ ht
      exact ⟨hcontent, hmono j t hmark⟩
  · dsimp only [RenderTaskProcessor.finishTile]
    split
    · rename_i hlast
      exact (h.completion.publish w (h.tiles.job_lt task hmem) (by simpa using hlast)).markRendered
        hmono
    · rename_i hlast
      exact (h.completion.countDown (by simpa using hlast) hpos).markRendered hmono
  · dsimp only [RenderTaskProcessor.finishTile]
    split
    · rename_i hlast
      exact h.registration.countDown (fun _ _ hj => hj) hpos.ne'
        (fun j hj => List.mem_cons_of_mem _ hj) (fun _ _ hj => hj)
        (fun j hj => List.mem_cons.mp hj) fun _ => .inl List.mem_cons_self
    · rename_i hlast
      exact h.registration.countDown (fun _ _ hj => hj) hpos.ne' (fun j hj => hj)
        (fun _ _ hj => hj) (fun j hj => .inr hj) fun h₁ => absurd (by simpa using h₁) hlast

theorem pushCompleted {w : ℕ} {j : JobId} (h : RenderInv cfg kernel r)
    (hw : (w, j) ∈ r.executor.publishing) :
    RenderInv cfg kernel (Executor.pushCompleted w j r) := by
  have hfin : j ∈ finishedJobs r.executor.publishing r.history :=
    List.mem_append_left _ (List.mem_append_left _ (List.mem_map_of_mem (f := Prod.snd) hw))
  obtain ⟨hmade, hz⟩ := (h.completion.mem_iff j).mp hfin
  exact { h with
    completion := h.completion.pushCompleted hw fun hc t h₀ h₁ =>
      (h.content j hmade hc t h₀ h₁
        (notMem_of_held_eq_zero (h.tiles.held_zero hmade hc hz) t)).2
    registration := h.registration.pushCompleted hw }

/-! ## Retiring, collecting and admitting -/

/-- What `finish` leaves of the registrations. -/
theorem finish_activeJobs {j : JobId}
    (hmem : 0 ≤ (r.jobs.job j).chunk ∧ (r.jobs.job j).chunk < cfg.chunkCount)
    (hreg : ∀ c, r.activeJobs c = some j → (r.jobs.job j).chunk = c) (c : Int) (k : JobId) :
    (ActiveRenderJobs.finish cfg j r).2.activeJobs c = some k ↔
      r.activeJobs c = some k ∧ k ≠ j := by
  unfold ActiveRenderJobs.finish
  rw [if_neg (by omega)]
  split
  · rename_i hne
    refine ⟨fun hc => ⟨hc, ?_⟩, fun hc => hc.1⟩
    rintro rfl
    exact hne ((hreg c hc).symm ▸ hc)
  · rename_i heq
    rw [not_not] at heq
    dsimp only
    by_cases hc : c = (r.jobs.job j).chunk
    · subst hc
      rw [Function.update_self, heq]
      simp [eq_comm]
    · rw [Function.update_of_ne hc]
      refine ⟨fun hk => ⟨hk, ?_⟩, fun hk => hk.1⟩
      rintro rfl
      exact hc (hreg c hk).symm

theorem retireTile {tile : PendingRenderTile} {rest : List PendingRenderTile}
    (h : RenderInv cfg kernel r) (hb : r.reclassificationBuffer = tile :: rest)
    (hc : (r.jobs.job tile.job).cancelled = true) :
    RenderInv cfg kernel (Scheduler.retireTile cfg tile r) := by
  have hp : r.outstanding.Perm (tile.task :: (r.pendingTiles.map (·.task) ++ rest.map (·.task) ++
      r.executor.renderTasks ++ r.executor.rendering.map Prod.snd)) := by
    rw [RenderState.outstanding, hb]
    refine (List.Perm.append_right _ (List.Perm.append_right _ List.perm_middle)).trans ?_
    rfl
  have hmem : tile.task ∈ r.outstanding := hp.mem_iff.mpr List.mem_cons_self
  have hmade : tile.job < r.jobs.made := h.tiles.job_lt _ hmem
  have hpos : 0 < (r.jobs.job tile.job).tilesRemaining := h.tiles.remaining_pos hmem
  unfold Scheduler.retireTile
  rw [hb, List.tail_cons]
  dsimp only
  set r' : RenderState S := { r with
    jobs := r.jobs.countDown tile.job
    reclassificationBuffer := rest } with hr'
  have hjobs : JobsInv cfg r'.jobs r'.versions := h.jobs.countDown tile.job
  have htiles : TilesInv r'.outstanding r'.jobs r'.history.sessionFirstJob := h.tiles.countDown hp
  have hcontent : ContentInv kernel r'.outstanding r'.jobs r'.history.rendered :=
    (h.content.remove hp hc).countDown tile.job
  split
  · rename_i hlast
    rw [ActiveRenderJobs.finish_eq]
    have hactive : ∀ c k, (ActiveRenderJobs.finish cfg tile.job r').2.activeJobs c = some k ↔
        r.activeJobs c = some k ∧ k ≠ tile.job :=
      finish_activeJobs (r := r') (hjobs.chunk_mem _ hmade) fun c hk => by
        rw [hr', JobTable.countDown_job]
        exact (h.registration.registered c _ hk).2
    exact {
      jobs := hjobs
      tiles := htiles
      content := hcontent
      completion := h.completion.retire hmade hlast hc
      registration := h.registration.countDown (fun c k hk => ((hactive c k).mp hk).1) hpos.ne'
        (fun j hj => hj)
        (fun j hcj hj => (hactive _ j).mpr ⟨hj, fun he => by rw [he, hc] at hcj; cases hcj⟩)
        (fun j hj => .inr hj) fun _ => .inr fun c hk => ((hactive c _).mp hk).2 rfl
      cache := h.cache }
  · rename_i hlast
    exact {
      jobs := hjobs
      tiles := htiles
      content := hcontent
      completion := h.completion.countDown hlast hpos
      registration := h.registration.countDown (fun _ _ hj => hj) hpos.ne' (fun _ hj => hj)
        (fun _ _ hj => hj) (fun _ hj => .inr hj) fun h₁ => absurd h₁ hlast
      cache := h.cache }

theorem collectOne (h : RenderInv cfg kernel r) :
    RenderInv cfg kernel (Scheduler.collectOne cfg r).2 := by
  unfold Scheduler.collectOne Executor.popCompleted
  rcases hcompleted : r.executor.completedJobs with - | ⟨j, rest⟩
  · exact h
  have hcomp := h.completion
  have hreg := h.registration
  rw [hcompleted] at hcomp hreg
  obtain ⟨hmade, hz, hnotpub⟩ := hcomp.of_completed List.mem_cons_self
  have hgone : ¬Busy r.jobs r.executor.publishing rest j := by
    rintro (hb | hb | hb)
    · exact hb hz
    · exact hnotpub hb
    · exact (List.nodup_cons.mp hcomp.completed_nodup).1 hb
  dsimp only
  set r₁ : RenderState S := { r with executor.completedJobs := rest }
  have hactive : ∀ c k, (ActiveRenderJobs.finish cfg j r₁).2.activeJobs c = some k ↔
      r.activeJobs c = some k ∧ k ≠ j :=
    finish_activeJobs (r := r₁) (h.jobs.chunk_mem j hmade)
      fun c hk => (h.registration.registered c j hk).2
  have hcollect := hreg.collect hgone hactive
  have hcompletion := hcomp.collect (List.sublist_cons_self j rest)
  rw [ActiveRenderJobs.finish_eq]
  split
  · rename_i husable
    obtain ⟨hregistered, hc⟩ := ActiveRenderJobs.finish_usable husable
    have hsamples : ChunkContent cfg kernel (r.jobs.job j).chunk (r.jobs.job j).version
        (r.jobs.job j).samples :=
      chunkContent_of_tiles (h.jobs.channelCount j hmade) fun t h₀ h₁ =>
        (h.content j hmade hc t h₀ h₁
          (notMem_of_held_eq_zero (h.tiles.held_zero hmade hc hz) t)).1
    have hnone : (ActiveRenderJobs.finish cfg j r₁).2.activeJobs (r.jobs.job j).chunk = none := by
      rcases hk : (ActiveRenderJobs.finish cfg j r₁).2.activeJobs (r.jobs.job j).chunk with - | k
      · rfl
      · obtain ⟨hk, hne⟩ := (hactive _ k).mp hk
        exact absurd (Option.some.inj (hk.symm.trans hregistered)) hne
    dsimp only
    unfold RenderCache.store
    split
    · exact { h with completion := hcompletion _, registration := hcollect }
    · split
      · exact { h with completion := hcompletion _, registration := hcollect }
      · rename_i hdims
        exact { h with
          completion := hcompletion _
          registration := hcollect.store hnone
          cache := h.cache.store hsamples (h.registration.not_cached _ j hregistered hc)
            (h.jobs.version_le j hmade) }
  · exact { h with completion := hcompletion _, registration := hcollect }

theorem tasks_newTiles (job : JobId) (classification : RenderClassification) (first : Int) :
    (Scheduler.newTiles job classification first).map (·.task) =
      (intRange 0 tilesPerChunk).map fun t => ⟨job, t⟩ := by
  simp [Scheduler.newTiles, PendingRenderTile.task, Function.comp_def]

theorem admitChunk [Zero S] {chunk version : Int} {classification : RenderClassification}
    (h : RenderInv cfg kernel r) (h₀ : 0 ≤ chunk) (h₁ : chunk < cfg.chunkCount)
    (hversion : version = r.versions chunk)
    (hstale : (r.cacheEntries chunk).version ≠ r.versions chunk) :
    RenderInv cfg kernel (Scheduler.admitChunk cfg chunk version classification r) := by
  unfold Scheduler.admitChunk ActiveRenderJobs.create
  rw [if_neg (by omega)]
  dsimp only
  have hcancel := h.activeCancel chunk
  have hold : ∀ j, (ActiveRenderJobs.cancel cfg chunk r).activeJobs chunk = some j →
      ((ActiveRenderJobs.cancel cfg chunk r).jobs.job j).cancelled = true := fun j hj => by
    unfold ActiveRenderJobs.cancel at hj ⊢
    rw [if_neg (by omega)] at hj ⊢
    split at hj <;> rename_i heq
    · rw [heq] at hj; cases hj
    · rw [heq] at hj
      obtain rfl := Option.some.inj hj
      simp [JobTable.cancel_job]
  have hframe : (ActiveRenderJobs.cancel cfg chunk r).versions = r.versions ∧
      (ActiveRenderJobs.cancel cfg chunk r).cacheEntries = r.cacheEntries := by
    unfold ActiveRenderJobs.cancel
    split
    · exact ⟨rfl, rfl⟩
    · split <;> exact ⟨rfl, rfl⟩
  obtain ⟨hversions, hcache⟩ := hframe
  set r₁ := ActiveRenderJobs.cancel cfg chunk r
  have hlt : (r₁.cacheEntries chunk).version < version := by
    have := h.cache.version_le chunk
    rw [hcache]
    omega
  set news := Scheduler.newTiles r₁.jobs.made classification r₁.nextTileSequence
  have hp : (news.map (·.task) ++ r₁.outstanding).Perm
      ((pushAllPending cfg news r₁.pendingTiles).map (·.task) ++
        r₁.reclassificationBuffer.map (·.task) ++ r₁.executor.renderTasks ++
        r₁.executor.rendering.map Prod.snd) := by
    have hpush := (PriorityQueue.pushAll_perm (createSchedulingPolicy cfg.scheduler.policyType)
      news r₁.pendingTiles).map PendingRenderTile.task
    have happ := ((hpush.append_right (r₁.reclassificationBuffer.map (·.task))).append_right
      r₁.executor.renderTasks).append_right (r₁.executor.rendering.map Prod.snd)
    refine List.Perm.trans (List.Perm.of_eq ?_) happ.symm
    simp [RenderState.outstanding]
  have hcount : (RenderState.newJob cfg chunk version : RenderJob S).tilesRemaining ≠ 0 :=
    show tilesPerChunk ≠ 0 by decide
  have hnewTasks : news.map (·.task) = (intRange 0 tilesPerChunk).map fun t => ⟨r₁.jobs.made, t⟩ :=
    tasks_newTiles _ _ _
  have htiles := hcancel.tiles.add (RenderState.newJob cfg chunk version) (news.map (·.task))
    (fun task ht => by
      rw [hnewTasks] at ht
      obtain ⟨t, -, rfl⟩ := List.mem_map.mp ht
      rfl)
    (fun task ht => by
      rw [hnewTasks] at ht
      obtain ⟨t, hrange, rfl⟩ := List.mem_map.mp ht
      exact mem_intRange.mp hrange)
    (by
      rw [hnewTasks]
      exact (nodup_intRange _ _).map fun a b hab => (RenderTask.mk.inj hab).2)
    (by rw [hnewTasks, List.length_map, length_intRange]; rfl)
  have hcontent := hcancel.content.add (RenderState.newJob cfg chunk version) (news.map (·.task))
    (fun t h₀ h₁ => by
      rw [hnewTasks]
      exact List.mem_map_of_mem (f := fun t => (⟨r₁.jobs.made, t⟩ : RenderTask))
        (mem_intRange.mpr ⟨h₀, h₁⟩))
  exact {
    jobs := hcancel.jobs.add ⟨h₀, h₁⟩ rfl rfl (by rw [hversions]; exact hversion.le)
    tiles := htiles.perm hp
    content := hcontent.perm hp
    completion := hcancel.completion.add hcount
    registration := hcancel.registration.add hold hcount hlt hcancel.tiles.session_le
    cache := hcancel.cache }

end RenderInv

end Anasa
