import Anasa.Concurrency.ShortestPrefix
import Anasa.Scheduling.Queue

/-!
# Eviction

What one call of `makeRoomForUrgentChunk` does. The loop over the queue, from its end, cancels jobs
until the live tiles leave room for a chunk; then the tiles of cancelled jobs are counted down and
dropped, and the others queued again.
-/

namespace Anasa

open Concurrency PriorityQueue Scheduler

variable {S : Type} {cfg : Config}

/-! ## Jobs to cancel -/

/-- The flags of the jobs. -/
def JobTable.flags (jobs : JobTable S) (j : JobId) : Bool := (jobs.job j).cancelled

/-- Cancel several jobs. -/
def JobTable.cancelJobs (jobs : JobTable S) (evicted : List JobId) : JobTable S :=
  evicted.foldl JobTable.cancel jobs

theorem JobTable.cancelJobs_job (jobs : JobTable S) (evicted : List JobId) (j : JobId) :
    (jobs.cancelJobs evicted).job j =
      { jobs.job j with cancelled := jobs.flags j || decide (j ∈ evicted) } := by
  induction evicted generalizing jobs with
  | nil => simp [cancelJobs, flags]
  | cons k evicted ih =>
    show ((jobs.cancel k).cancelJobs evicted).job j = _
    rw [ih, flags, cancel_job]
    simp [flags, List.mem_cons, Bool.or_assoc]

theorem JobTable.cancelJobs_made (jobs : JobTable S) (evicted : List JobId) :
    (jobs.cancelJobs evicted).made = jobs.made := by
  induction evicted generalizing jobs with
  | nil => rfl
  | cons k evicted ih => exact ih (jobs.cancel k)

/-- A tile of a job that is not cancelled and not evicted. -/
def isLive (flags : JobId → Bool) (evicted : List JobId) (t : PendingRenderTile) : Bool :=
  !flags t.job && decide (t.job ∉ evicted)

/-- The number of live tiles. -/
def liveTiles (flags : JobId → Bool) (tiles : List PendingRenderTile) (evicted : List JobId) : ℕ :=
  tiles.countP (isLive flags evicted)

/-- The jobs of the live tiles that are not urgent, each where the walk meets it first. -/
def evictionOrder (flags : JobId → Bool) (walk : List PendingRenderTile) : List JobId :=
  ((walk.filter fun t => isLive flags [] t && decide (t.classification.priority ≠ .urgent)).map
    (·.job)).eraseDups

/-- One more chunk fits next to so many tiles. -/
def ChunkFits (cfg : Config) (tiles : ℕ) : Prop :=
  (tiles : Int) + tilesPerChunk ≤ cfg.scheduler.maxPendingTiles

section

variable {flags : JobId → Bool} {tile : PendingRenderTile} {walk tiles : List PendingRenderTile}

theorem evictionOrder_skip
    (h : flags tile.job = true ∨ tile.classification.priority = .urgent) :
    evictionOrder flags (tile :: walk) = evictionOrder flags walk := by
  unfold evictionOrder
  rw [List.filter_cons_of_neg]
  rcases h with h | h <;> simp [isLive, h]

theorem evictionOrder_take (h : flags tile.job = false)
    (hp : tile.classification.priority ≠ .urgent) :
    evictionOrder flags (tile :: walk) =
      tile.job :: evictionOrder (fun j => flags j || decide (j = tile.job)) walk := by
  unfold evictionOrder
  rw [List.filter_cons_of_pos (by simp [isLive, h, hp]), List.map_cons, List.eraseDups_cons,
    List.filter_map, List.filter_filter]
  congr 3
  refine List.filter_congr fun t _ => ?_
  by_cases hjob : t.job = tile.job <;> simp [isLive, hjob, h]

theorem liveTiles_cancel (flags : JobId → Bool) (tiles : List PendingRenderTile) (j : JobId)
    (evicted : List JobId) :
    liveTiles (fun k => flags k || decide (k = j)) tiles evicted =
      liveTiles flags tiles (j :: evicted) := by
  refine congrArg (List.countP · tiles) (funext fun t => ?_)
  by_cases hj : t.job = j <;> simp [isLive, hj]

/-- Cancelling a live job takes away its tiles. -/
theorem liveTiles_evict (h : flags tile.job = false) :
    (liveTiles flags tiles [tile.job] : Int) =
      liveTiles flags tiles [] - tiles.countP (·.job = tile.job) := by
  induction tiles with
  | nil => rfl
  | cons t tiles ih =>
    unfold liveTiles at ih ⊢
    rw [List.countP_cons, List.countP_cons, List.countP_cons]
    by_cases hj : t.job = tile.job
    · simp [isLive, hj, h] at ih ⊢
      omega
    · simp [isLive, hj] at ih ⊢
      omega

end

/-! ## The loops that read -/

theorem tileIsCancelled_run (tile : PendingRenderTile) (s : EngineState S) :
    (tileIsCancelled tile).run s = (s.render.jobs.flags tile.job, s) := rfl

theorem countRetained_run (tiles : List PendingRenderTile) (s : EngineState S) :
    (countRetained tiles).run s = ((liveTiles s.render.jobs.flags tiles [] : Int), s) := by
  induction tiles with
  | nil => rfl
  | cons tile tiles ih =>
    unfold countRetained
    rw [Prog.run_bind, tileIsCancelled_run, Prog.run_bind, ih, Prog.run_pure]
    unfold liveTiles
    rw [List.countP_cons]
    refine Prod.ext ?_ rfl
    cases hc : s.render.jobs.flags tile.job <;> simp [isLive, hc]

variable (cfg) in
/-- **The walk.** It cancels the jobs of an eviction order until a chunk fits. -/
theorem evictJobs_run (buffer walk : List PendingRenderTile) (s : EngineState S) :
    ∃ evicted, ShortestPrefix
        (fun l => ChunkFits cfg (liveTiles s.render.jobs.flags buffer l))
        (evictionOrder s.render.jobs.flags walk) evicted ∧
      (evictJobs cfg buffer (liveTiles s.render.jobs.flags buffer []) walk).run s =
        ((), { s with render.jobs := s.render.jobs.cancelJobs evicted }) := by
  induction walk generalizing s with
  | nil => exact ⟨[], .nil _, rfl⟩
  | cons tile walk ih =>
    by_cases hfits : ChunkFits cfg (liveTiles s.render.jobs.flags buffer [])
    · refine ⟨[], .of_enough hfits _, ?_⟩
      unfold evictJobs
      rw [if_neg (not_lt.mpr hfits)]
      rfl
    · unfold evictJobs
      rw [if_pos (not_le.mp hfits)]
      by_cases hurgent : tile.classification.priority = .urgent
      · rw [if_pos hurgent, evictionOrder_skip (.inr hurgent)]
        exact ih s
      · rw [if_neg hurgent]
        rw [Prog.run_bind, tileIsCancelled_run]
        cases hc : s.render.jobs.flags tile.job with
        | true =>
          rw [evictionOrder_skip (.inl hc)]
          exact ih s
        | false =>
          have hflags : (s.render.jobs.cancel tile.job).flags =
              fun j => s.render.jobs.flags j || decide (j = tile.job) := by
            funext j
            rw [JobTable.flags, JobTable.cancel_job]
            rfl
          obtain ⟨evicted, hprefix, hrun⟩ :=
            ih { s with render.jobs := s.render.jobs.cancel tile.job }
          dsimp only at hprefix hrun
          rw [hflags] at hprefix hrun
          simp only [liveTiles_cancel] at hprefix hrun
          refine ⟨tile.job :: evicted, ?_, ?_⟩
          · rw [evictionOrder_take hc hurgent]
            exact hprefix.cons hfits
          · rw [liveTiles_evict hc] at hrun
            exact hrun

/-! ## Reclaiming -/

/-- The number of tiles of a job, if it is cancelled. -/
def reclaimed (flags : JobId → Bool) (tiles : List PendingRenderTile) (j : JobId) : ℕ :=
  tiles.countP fun t => decide (t.job = j) && flags t.job

theorem reclaimed_cons (flags : JobId → Bool) (tile : PendingRenderTile)
    (tiles : List PendingRenderTile) (j : JobId) :
    reclaimed flags (tile :: tiles) j =
      reclaimed flags tiles j + if j = tile.job ∧ flags tile.job = true then 1 else 0 := by
  unfold reclaimed
  rw [List.countP_cons]
  simp only [Bool.and_eq_true, decide_eq_true_eq, eq_comm (a := j)]

theorem reclaimed_le (flags : JobId → Bool) (tiles : List PendingRenderTile) (j : JobId) :
    reclaimed flags tiles j ≤ tiles.countP (·.job = j) :=
  List.countP_mono_left fun _ _ h => (Bool.and_eq_true _ _ ▸ h).1

/-- What the loop over the tiles that were set aside does. -/
structure Reclaims (cfg : Config) (tiles : List PendingRenderTile) (r r' : RenderState S) :
    Prop where
  pendingTiles : r'.pendingTiles =
    pushAllPending cfg (tiles.filter fun t => !r.jobs.flags t.job) r.pendingTiles
  made : r'.jobs.made = r.jobs.made
  job : ∀ j, r'.jobs.job j = { r.jobs.job j with
    tilesRemaining := (r.jobs.job j).tilesRemaining - reclaimed r.jobs.flags tiles j }
  activeJobs : ∀ c j, r'.activeJobs c = some j ↔ r.activeJobs c = some j ∧
    ¬(0 < reclaimed r.jobs.flags tiles j ∧
      (r.jobs.job j).tilesRemaining = reclaimed r.jobs.flags tiles j)
  rest : r' = { r with
    pendingTiles := r'.pendingTiles
    reclassificationBuffer := []
    jobs := r'.jobs
    activeJobs := r'.activeJobs
    history := r'.history }

/-- What the loop needs: the jobs are registered for their chunks, and count at least the tiles that
wait. -/
structure Reclaimable (cfg : Config) (tiles : List PendingRenderTile) (r : RenderState S) :
    Prop where
  buffer : r.reclassificationBuffer = tiles
  chunk_mem : ∀ t ∈ tiles, 0 ≤ (r.jobs.job t.job).chunk ∧ (r.jobs.job t.job).chunk < cfg.chunkCount
  registered : ∀ c j, r.activeJobs c = some j → (r.jobs.job j).chunk = c
  count_le : ∀ t ∈ tiles, (tiles.countP (·.job = t.job) : Int) ≤
    (r.jobs.job t.job).tilesRemaining

/-- Retiring the last tile of a job unregisters it, and no other one. -/
theorem retireTile_activeJobs_iff {tile : PendingRenderTile} {r : RenderState S}
    (hmem : 0 ≤ (r.jobs.job tile.job).chunk ∧ (r.jobs.job tile.job).chunk < cfg.chunkCount)
    (hregistered : ∀ c j, r.activeJobs c = some j → (r.jobs.job j).chunk = c) (c : Int)
    (j : JobId) : (retireTile cfg tile r).activeJobs c = some j ↔ r.activeJobs c = some j ∧
      ¬(j = tile.job ∧ (r.jobs.job tile.job).tilesRemaining = 1) := by
  have hchunk : ((r.jobs.countDown tile.job).job tile.job).chunk = (r.jobs.job tile.job).chunk := by
    rw [JobTable.countDown_job]
  unfold retireTile
  dsimp only
  split
  · rename_i hlast
    unfold ActiveRenderJobs.finish
    dsimp only
    rw [hchunk, if_neg (by omega)]
    split
    · rename_i hother
      refine ⟨fun hj => ⟨hj, ?_⟩, And.left⟩
      rintro ⟨rfl, -⟩
      exact hother (hregistered c _ hj ▸ hj)
    · rename_i hsame
      have hsame := not_not.mp hsame
      dsimp only
      rw [Function.update_apply]
      split
      · rename_i heq
        subst heq
        rw [hsame]
        constructor
        · intro hj
          cases hj
        · intro hj
          exact absurd ⟨(Option.some.inj hj.1).symm, hlast⟩ hj.2
      · rename_i hne
        refine ⟨fun hj => ⟨hj, ?_⟩, And.left⟩
        rintro ⟨rfl, -⟩
        exact hne (hregistered c _ hj).symm
  · rename_i hmore
    exact ⟨fun hj => ⟨hj, fun h => hmore h.2⟩, And.left⟩

theorem retireOrKeep_run (tile : PendingRenderTile) (s : EngineState S) :
    (retireOrKeep cfg tile).run s = ((), { s with
      render := if s.render.jobs.flags tile.job then retireTile cfg tile s.render
        else keepTile cfg tile s.render }) := by
  unfold retireOrKeep
  rw [Prog.run_bind, tileIsCancelled_run, Prog.run_ite]
  split <;> simp [*]

section

variable {tile : PendingRenderTile} {tiles : List PendingRenderTile} {r r' : RenderState S}

theorem countP_job_le (tile : PendingRenderTile) (tiles : List PendingRenderTile) (j : JobId) :
    tiles.countP (·.job = j) + (if j = tile.job then 1 else 0) =
      (tile :: tiles).countP (·.job = j) := by
  rw [List.countP_cons]
  simp only [decide_eq_true_eq, eq_comm (a := j)]

theorem Reclaimable.keep (h : Reclaimable cfg (tile :: tiles) r) :
    Reclaimable cfg tiles (keepTile cfg tile r) where
  buffer := congrArg List.tail h.buffer
  chunk_mem t ht := h.chunk_mem t (List.mem_cons_of_mem _ ht)
  registered := h.registered
  count_le t ht := by
    have hle := h.count_le t (List.mem_cons_of_mem _ ht)
    have hcount := countP_job_le tile tiles t.job
    dsimp only [keepTile]
    omega

/-- A tile of a job that is not cancelled is queued again. -/
theorem Reclaims.keep (hc : r.jobs.flags tile.job = false)
    (h : Reclaims cfg tiles (keepTile cfg tile r) r') : Reclaims cfg (tile :: tiles) r r' where
  pendingTiles := by
    rw [h.pendingTiles, List.filter_cons_of_pos (by simp [hc])]
    rfl
  made := h.made
  job j := by
    rw [h.job, reclaimed_cons, if_neg (by simp [hc])]
    rfl
  activeJobs c j := by
    rw [h.activeJobs, reclaimed_cons, if_neg (by simp [hc])]
    rfl
  rest := h.rest

theorem retireTile_flags (tile : PendingRenderTile) (r : RenderState S) :
    (retireTile cfg tile r).jobs.flags = r.jobs.flags := by
  funext j
  rw [retireTile_eq]
  simp only [JobTable.flags, JobTable.countDown_job]

theorem retireTile_job (tile : PendingRenderTile) (r : RenderState S) (j : JobId) :
    (retireTile cfg tile r).jobs.job j = { r.jobs.job j with
      tilesRemaining := (r.jobs.job j).tilesRemaining - if j = tile.job then 1 else 0 } := by
  rw [retireTile_eq, JobTable.countDown_job]

theorem Reclaimable.retire (h : Reclaimable cfg (tile :: tiles) r) :
    Reclaimable cfg tiles (retireTile cfg tile r) where
  buffer := by
    rw [retireTile_eq]
    exact congrArg List.tail h.buffer
  chunk_mem t ht := by
    rw [retireTile_job]
    exact h.chunk_mem t (List.mem_cons_of_mem _ ht)
  registered c j hj := by
    rw [retireTile_job]
    exact h.registered c j (retireTile_activeJobs hj)
  count_le t ht := by
    have hle := h.count_le t (List.mem_cons_of_mem _ ht)
    have hcount := countP_job_le tile tiles t.job
    rw [retireTile_job]
    dsimp only
    by_cases hjob : t.job = tile.job
    · rw [if_pos hjob] at hcount ⊢
      omega
    · rw [if_neg hjob] at hcount ⊢
      omega

/-- A tile of a cancelled job is counted down and dropped. -/
theorem Reclaims.retire (hr : Reclaimable cfg (tile :: tiles) r)
    (hc : r.jobs.flags tile.job = true) (h : Reclaims cfg tiles (retireTile cfg tile r) r') :
    Reclaims cfg (tile :: tiles) r r' where
  pendingTiles := by
    rw [h.pendingTiles, retireTile_flags, List.filter_cons_of_neg (by simp [hc])]
    rw [retireTile_eq]
  made := by
    rw [h.made, retireTile_eq]
    rfl
  job j := by
    rw [h.job, retireTile_flags, retireTile_job, reclaimed_cons]
    refine congrArg (fun n => { r.jobs.job j with tilesRemaining := n }) ?_
    by_cases hj : j = tile.job
    · simp only [hj, hc, and_self, if_true]
      omega
    · simp only [hj, false_and, if_false]
      omega
  activeJobs c j := by
    rw [h.activeJobs, retireTile_flags, retireTile_job, reclaimed_cons,
      retireTile_activeJobs_iff (hr.chunk_mem tile List.mem_cons_self) hr.registered, and_assoc]
    refine and_congr_right fun _ => ?_
    dsimp only
    by_cases hj : j = tile.job
    · subst hj
      have hle := hr.count_le tile List.mem_cons_self
      have hcount := countP_job_le tile tiles tile.job
      have hreclaimed := reclaimed_le r.jobs.flags tiles tile.job
      simp only [hc, and_self, if_true, true_and] at hcount ⊢
      omega
    · simp only [hj, false_and, if_false, not_false_eq_true, true_and]
      omega
  rest := by
    rw [h.rest, retireTile_eq]

end

/-- **Reclaiming.** The tiles of cancelled jobs are counted down and dropped, the others queued. -/
theorem reclaim_run (tiles : List PendingRenderTile) (s : EngineState S)
    (h : Reclaimable cfg tiles s.render) :
    ∃ r', Reclaims cfg tiles s.render r' ∧
      (Prog.forEach (retireOrKeep cfg) tiles).run s = ((), { s with render := r' }) := by
  induction tiles generalizing s with
  | nil =>
    refine ⟨s.render, ⟨rfl, rfl, fun j => ?_, fun c j => ?_, ?_⟩, rfl⟩
    · simp [reclaimed]
    · simp [reclaimed]
    · rw [← h.buffer]
  | cons tile tiles ih =>
    rw [Prog.run_forEach_cons, retireOrKeep_run]
    cases hc : s.render.jobs.flags tile.job with
    | false =>
      obtain ⟨r', hr', hrun⟩ := ih { s with render := keepTile cfg tile s.render } h.keep
      exact ⟨r', hr'.keep hc, hrun⟩
    | true =>
      obtain ⟨r', hr', hrun⟩ := ih { s with render := retireTile cfg tile s.render } h.retire
      exact ⟨r', hr'.retire h hc, hrun⟩

/-! ## The call -/

/-- What `makeRoomForUrgentChunk` does to the rendering state. -/
structure MakesRoom (cfg : Config) (r r' : RenderState S) : Prop where
  /-- Jobs are cancelled in eviction order, as few as needed. -/
  evicted : ∃ evicted, ShortestPrefix
      (fun l => ChunkFits cfg (liveTiles r.jobs.flags r.pendingTiles l))
      (evictionOrder r.jobs.flags r.pendingTiles.reverse) evicted ∧
    ∀ j, r'.jobs.flags j = (r.jobs.flags j || decide (j ∈ evicted))
  urgentKept : ∀ t ∈ r.pendingTiles, t.classification.priority = .urgent →
    r.jobs.flags t.job = false → r'.jobs.flags t.job = false
  pendingTiles : r'.pendingTiles.Perm (r.pendingTiles.filter fun t => !r'.jobs.flags t.job)
  sorted : Sorted (createSchedulingPolicy cfg.scheduler.policyType) r'.pendingTiles
  room : ChunkFits cfg r'.pendingTiles.length ∨
    ∀ t ∈ r'.pendingTiles, t.classification.priority = .urgent
  /-- A counter drops by the number of tiles removed. -/
  counters : ∀ j, (r'.jobs.job j).tilesRemaining + r.pendingTiles.countP (·.job = j) =
    (r.jobs.job j).tilesRemaining + r'.pendingTiles.countP (·.job = j)
  /-- The jobs whose counter reaches zero are unregistered. -/
  activeJobs : ∀ c j, r'.activeJobs c = some j ↔ r.activeJobs c = some j ∧
    ¬(r'.pendingTiles.countP (·.job = j) < r.pendingTiles.countP (·.job = j) ∧
      (r'.jobs.job j).tilesRemaining = 0)
  /-- Nothing else of a job changes. -/
  job : ∀ j, r'.jobs.job j = { r.jobs.job j with
    cancelled := r'.jobs.flags j
    tilesRemaining := (r'.jobs.job j).tilesRemaining }
  made : r'.jobs.made = r.jobs.made
  rest : r' = { r with
    pendingTiles := r'.pendingTiles
    reclassificationBuffer := []
    jobs := r'.jobs
    activeJobs := r'.activeJobs
    history := r'.history }

/-- What the call needs to know of the queue. -/
structure Evictable (cfg : Config) (r : RenderState S) : Prop where
  uniform : ∀ t ∈ r.pendingTiles, ∀ t' ∈ r.pendingTiles, t.job = t'.job →
    t.classification = t'.classification
  chunk_mem : ∀ t ∈ r.pendingTiles,
    0 ≤ (r.jobs.job t.job).chunk ∧ (r.jobs.job t.job).chunk < cfg.chunkCount
  registered : ∀ c j, r.activeJobs c = some j → (r.jobs.job j).chunk = c
  count_le : ∀ t ∈ r.pendingTiles, (r.pendingTiles.countP (·.job = t.job) : Int) ≤
    (r.jobs.job t.job).tilesRemaining

/-- The queue set aside, with the evicted jobs cancelled. -/
def setAside (r : RenderState S) (evicted : List JobId) : RenderState S :=
  { r with
    pendingTiles := []
    reclassificationBuffer := r.pendingTiles
    jobs := r.jobs.cancelJobs evicted }

theorem Evictable.reclaimable {r : RenderState S} (h : Evictable cfg r) (evicted : List JobId) :
    Reclaimable cfg r.pendingTiles (setAside r evicted) where
  buffer := rfl
  chunk_mem t ht := by
    show 0 ≤ ((r.jobs.cancelJobs evicted).job t.job).chunk ∧ _
    rw [setAside, JobTable.cancelJobs_job]
    exact h.chunk_mem t ht
  registered c j hj := by
    rw [setAside, JobTable.cancelJobs_job]
    exact h.registered c j hj
  count_le t ht := by
    rw [setAside, JobTable.cancelJobs_job]
    exact h.count_le t ht

/-- The tiles of a job are reclaimed or stay. -/
theorem reclaimed_add_countP (flags : JobId → Bool) (tiles : List PendingRenderTile) (j : JobId) :
    reclaimed flags tiles j + (tiles.filter fun t => !flags t.job).countP (·.job = j) =
      tiles.countP (·.job = j) := by
  unfold reclaimed
  induction tiles with
  | nil => rfl
  | cons t tiles ih =>
    rw [List.countP_cons, List.countP_cons]
    cases hc : flags t.job with
    | false =>
      rw [List.filter_cons_of_pos (by simp [hc]), List.countP_cons]
      simp only [Bool.and_false, Bool.false_eq_true, if_false]
      omega
    | true =>
      rw [List.filter_cons_of_neg (by simp [hc])]
      simp only [Bool.and_true]
      omega

/-- The flags after the walk. -/
theorem setAside_flags (r : RenderState S) (evicted : List JobId) (j : JobId) :
    (setAside r evicted).jobs.flags j = (r.jobs.flags j || decide (j ∈ evicted)) := by
  rw [setAside, JobTable.flags, JobTable.cancelJobs_job]

theorem mem_evictionOrder {flags : JobId → Bool} {walk : List PendingRenderTile} {j : JobId} :
    j ∈ evictionOrder flags walk ↔ ∃ t ∈ walk, t.job = j ∧ flags j = false ∧
      t.classification.priority ≠ .urgent := by
  unfold evictionOrder
  rw [List.mem_eraseDups, List.mem_map]
  constructor
  · rintro ⟨t, ht, rfl⟩
    rw [List.mem_filter] at ht
    simp only [isLive, Bool.and_eq_true, Bool.not_eq_true', decide_eq_true_eq] at ht
    exact ⟨t, ht.1, rfl, ht.2.1.1, ht.2.2⟩
  · rintro ⟨t, ht, rfl, hflag, hpriority⟩
    exact ⟨t, List.mem_filter.mpr ⟨ht, by simp [isLive, hflag, hpriority]⟩, rfl⟩

/-- The walk and the loop that reclaims make room. -/
theorem Evictable.makesRoom {r r' : RenderState S} {evicted : List JobId} (h : Evictable cfg r)
    (hevicted : ShortestPrefix (fun l => ChunkFits cfg (liveTiles r.jobs.flags r.pendingTiles l))
      (evictionOrder r.jobs.flags r.pendingTiles.reverse) evicted)
    (hreclaims : Reclaims cfg r.pendingTiles (setAside r evicted) r') : MakesRoom cfg r r' := by
  have hflags : ∀ j, r'.jobs.flags j = (r.jobs.flags j || decide (j ∈ evicted)) := fun j => by
    rw [JobTable.flags, hreclaims.job]
    exact setAside_flags r evicted j
  have hkept : ∀ t : PendingRenderTile, (!(setAside r evicted).jobs.flags t.job) =
      !r'.jobs.flags t.job := fun t => by rw [setAside_flags, hflags]
  have hperm : r'.pendingTiles.Perm (r.pendingTiles.filter fun t => !r'.jobs.flags t.job) := by
    have hpush := pushAllPending_perm cfg
      (r.pendingTiles.filter fun t => !(setAside r evicted).jobs.flags t.job) []
    rw [List.append_nil, List.filter_congr fun t _ => hkept t] at hpush
    rw [hreclaims.pendingTiles, List.filter_congr fun t _ => hkept t]
    exact hpush
  have hurgent : ∀ t ∈ r.pendingTiles, t.classification.priority = .urgent →
      r.jobs.flags t.job = false → t.job ∉ evicted := by
    intro t ht hpriority _ hmem
    obtain ⟨t', ht', hjob, -, hother⟩ := mem_evictionOrder.mp (hevicted.isPrefix.subset hmem)
    rw [h.uniform t' (List.mem_reverse.mp ht') t ht hjob] at hother
    exact hother hpriority
  have hlength : r'.pendingTiles.length = liveTiles r.jobs.flags r.pendingTiles evicted := by
    rw [hperm.length_eq, ← List.countP_eq_length_filter]
    refine List.countP_congr fun t _ => ?_
    rw [hflags]
    simp [isLive]
  have hcount : ∀ j, reclaimed (setAside r evicted).jobs.flags r.pendingTiles j +
      r'.pendingTiles.countP (·.job = j) = r.pendingTiles.countP (·.job = j) := by
    intro j
    rw [hperm.countP_eq, ← reclaimed_add_countP (setAside r evicted).jobs.flags r.pendingTiles j,
      List.filter_congr fun t _ => hkept t]
  have hremaining : ∀ j, (r'.jobs.job j).tilesRemaining = (r.jobs.job j).tilesRemaining -
      reclaimed (setAside r evicted).jobs.flags r.pendingTiles j := fun j => by
    rw [hreclaims.job, setAside, JobTable.cancelJobs_job]
  refine {
    evicted := ⟨evicted, hevicted, hflags⟩
    urgentKept := fun t ht hpriority hflag => ?_
    pendingTiles := hperm
    sorted := ?_
    room := ?_
    counters := fun j => ?_
    activeJobs := fun c j => ?_
    job := fun j => ?_
    made := hreclaims.made.trans (JobTable.cancelJobs_made _ _)
    rest := hreclaims.rest }
  · simp [hflags, hflag, hurgent t ht hpriority hflag]
  · rw [hreclaims.pendingTiles]
    exact sorted_nil.pushAll (createSchedulingPolicy_strictWeakOrder _) _
  · rw [hlength]
    refine hevicted.enough_or_all.imp id fun hall t ht => ?_
    obtain ⟨hmem, hlive⟩ := List.mem_filter.mp (hperm.subset ht)
    simp only [hflags, Bool.not_eq_true', Bool.or_eq_false_iff, decide_eq_false_iff_not] at hlive
    by_contra hother
    rw [hall] at hlive
    exact hlive.2 (mem_evictionOrder.mpr
      ⟨t, List.mem_reverse.mpr hmem, rfl, hlive.1, hother⟩)
  · have hj := hcount j
    rw [hremaining]
    omega
  · have hj := hcount j
    rw [hreclaims.activeJobs, hremaining]
    refine and_congr_right fun _ => not_congr ?_
    rw [setAside, JobTable.cancelJobs_job] at *
    dsimp only at *
    omega
  · have hj := hreclaims.job j
    rw [hj, JobTable.flags, hj, setAside, JobTable.cancelJobs_job]

variable (cfg) in
/-- **Making room.** What one call does, with nobody in between. -/
theorem makeRoomForUrgentChunk_run (s : EngineState S) (h : Evictable cfg s.render) :
    ∃ r', MakesRoom cfg s.render r' ∧
      (makeRoomForUrgentChunk cfg).run s = ((), { s with render := r' }) := by
  obtain ⟨evicted, hevicted, hwalk⟩ := evictJobs_run cfg s.render.pendingTiles
    s.render.pendingTiles.reverse
    { s with render := { s.render with
      reclassificationBuffer := s.render.pendingTiles
      pendingTiles := [] } }
  obtain ⟨r', hreclaims, hloop⟩ := reclaim_run s.render.pendingTiles
    { s with render := setAside s.render evicted } (h.reclaimable evicted)
  refine ⟨r', h.makesRoom hevicted hreclaims, ?_⟩
  unfold makeRoomForUrgentChunk
  rw [Prog.run_bind, Prog.run_atomically, Prog.run_bind, countRetained_run, Prog.run_bind]
  dsimp only at hwalk ⊢
  rw [hwalk]
  exact hloop

end Anasa
