import Anasa.Rendering.Discipline

/-!
# What the rendering side guarantees

1. *Cache validity*: a current chunk holds what the kernel gives for its version, and only a job
   with all its tiles rendered makes a chunk current.
2. *Tile accounting*: the counter of a job counts its outstanding tiles, and its end is seen once.
3. *Live jobs*: between two steps of the scheduler a chunk has at most one job that can still
   reach the cache, and it is the registered one.
-/

namespace Anasa

open Concurrency

variable {S : Type}

/-! ## Cache validity -/

/-- What the kernel gives is what a current chunk holds. -/
def CacheValid (cfg : Config) (kernel : RenderKernel S) (r : RenderState S) : Prop :=
  ∀ chunk samples, RenderCache.findCurrent cfg r chunk = some samples →
    ∀ channel frame, 0 ≤ channel → channel < cfg.audio.channelCount → 0 ≤ frame →
      frame < chunkFrames →
      samples.sample channel frame =
        kernel channel (chunk * chunkFrames + frame) (r.versions chunk)

/-- Collecting the completion of a job changes the cache only if the job is registered and not
cancelled, all its tiles were rendered, and it was made in the session that is open. -/
def OnlyCompleteJobsStored (cfg : Config) (r : RenderState S) : Prop :=
  ∀ j rest, r.executor.completedJobs = j :: rest →
    (Scheduler.collectOne cfg r).2.cacheEntries ≠ r.cacheEntries →
    r.activeJobs (r.jobs.job j).chunk = some j ∧ (r.jobs.job j).cancelled = false ∧
      (∀ t, 0 ≤ t → t < tilesPerChunk → r.history.rendered j t = true) ∧
      (r.history.sessionOpen = true → r.history.sessionFirstJob ≤ j)

theorem RenderInv.onlyCompleteJobsStored {cfg : Config} {kernel : RenderKernel S}
    {r : RenderState S} (h : RenderInv cfg kernel r) : OnlyCompleteJobsStored cfg r := by
  intro j rest hcompleted hchanged
  have husable : (ActiveRenderJobs.finish cfg j
      { r with executor.completedJobs := rest }).1 = true := by
    by_contra hno
    refine hchanged ?_
    unfold Scheduler.collectOne Executor.popCompleted
    rw [hcompleted]
    dsimp only
    rw [if_neg hno, ActiveRenderJobs.finish_eq]
  obtain ⟨hregistered, hcancelled⟩ := ActiveRenderJobs.finish_usable husable
  have hmem : j ∈ r.executor.completedJobs := hcompleted ▸ List.mem_cons_self
  obtain ⟨hmade, hzero, -⟩ := h.completion.of_completed hmem
  have hheld := h.tiles.held_zero hmade hcancelled hzero
  exact ⟨hregistered, hcancelled, fun t h₀ h₁ =>
    (h.content j hmade hcancelled t h₀ h₁ (notMem_of_held_eq_zero hheld t)).2,
    fun ho => h.registration.session ho _ j hregistered⟩

/-- **Cache validity.** In every state of every run a current chunk holds what the kernel gives
for its current version, and no job with a tile that was not rendered is ever stored. -/
theorem engineRun_cacheValid [Zero S] (cfg : Config) (kernel : RenderKernel S)
    (moves : List (EngineMove S)) :
    CacheValid cfg kernel (engineRun cfg kernel moves).state.render ∧
      OnlyCompleteJobsStored cfg (engineRun cfg kernel moves).state.render := by
  have h := engineRun_renderInv cfg kernel moves
  exact ⟨fun chunk samples hfind channel frame => h.cache.findCurrent hfind channel frame,
    h.onlyCompleteJobsStored⟩

/-! ## Tile accounting -/

/-- The places of a job's tiles, its end, and why a registered job never stalls. -/
structure TilesAccounted (cfg : Config) (r : RenderState S) : Prop where
  /-- The counter of a job of the session is the number of its tiles outstanding. -/
  count : ∀ j, r.history.sessionFirstJob ≤ j → j < r.jobs.made →
    (r.jobs.job j).tilesRemaining =
      r.pendingTiles.countP (·.job = j) + r.reclassificationBuffer.countP (·.job = j) +
        r.executor.renderTasks.countP (·.job = j) + r.executor.rendering.countP (·.2.job = j)
  /-- No tile is in two places, or twice in one. -/
  once : r.outstanding.Nodup
  /-- Every tile outstanding is one of the eight of its job. -/
  index : ∀ task ∈ r.outstanding, 0 ≤ task.tileIndex ∧ task.tileIndex < tilesPerChunk
  /-- A job enters the completion queue at most once, and only with its counter at zero. -/
  completedOnce : (r.history.published.map Prod.fst).Nodup
  completedAtZero : ∀ j ∈ r.history.published.map Prod.fst, (r.jobs.job j).tilesRemaining = 0
  /-- Exactly one party saw the counter reach zero. -/
  seenOnce : ∀ j < r.jobs.made, (finishedJobs r.executor.publishing r.history).count j =
    if (r.jobs.job j).tilesRemaining = 0 then 1 else 0
  retiredCancelled : ∀ j ∈ r.history.retired, (r.jobs.job j).cancelled = true
  /-- A job published uncancelled had all its tiles rendered. -/
  publishedRendered : ∀ j, (j, false) ∈ r.history.published → ∀ t, 0 ≤ t → t < tilesPerChunk →
    r.history.rendered j t = true
  /-- A registered job of a running session is on its way to be collected. -/
  registered : r.history.sessionOpen = true → ∀ chunk j, r.activeJobs chunk = some j →
    (∃ task ∈ r.outstanding, task.job = j) ∨ j ∈ r.executor.publishing.map Prod.snd ∨
      j ∈ r.executor.completedJobs
  /-- So a chunk is not held back by a job that nothing will finish. -/
  notBlocked : r.history.sessionOpen = true → ∀ chunk version,
    ActiveRenderJobs.hasCurrent cfg r chunk version = true →
    ∃ j, r.activeJobs chunk = some j ∧
      ((∃ task ∈ r.outstanding, task.job = j) ∨ j ∈ r.executor.publishing.map Prod.snd ∨
        j ∈ r.executor.completedJobs)

theorem held_outstanding (r : RenderState S) (j : JobId) :
    held r.outstanding j =
      r.pendingTiles.countP (·.job = j) + r.reclassificationBuffer.countP (·.job = j) +
        r.executor.renderTasks.countP (·.job = j) + r.executor.rendering.countP (·.2.job = j) := by
  simp only [held, RenderState.outstanding, List.countP_append, List.countP_map]
  rfl

theorem RenderInv.registered_progress {cfg : Config} {kernel : RenderKernel S} {r : RenderState S}
    (h : RenderInv cfg kernel r) (ho : r.history.sessionOpen = true) {chunk : Int} {j : JobId}
    (hj : r.activeJobs chunk = some j) :
    (∃ task ∈ r.outstanding, task.job = j) ∨ j ∈ r.executor.publishing.map Prod.snd ∨
      j ∈ r.executor.completedJobs := by
  have hsession := h.registration.session ho chunk j hj
  rcases h.registration.busy chunk j hj hsession with hb | hb
  · left
    by_contra hno
    have hheld : held r.outstanding j = 0 :=
      held_eq_zero.mpr fun task ht he => hno ⟨task, ht, he⟩
    have heq := h.tiles.held_eq j (h.registration.registered chunk j hj).1 (.inr hsession)
    omega
  · exact .inr hb

theorem RenderInv.tilesAccounted {cfg : Config} {kernel : RenderKernel S} {r : RenderState S}
    (h : RenderInv cfg kernel r) : TilesAccounted cfg r where
  count j hs hj := by
    rw [← h.tiles.held_eq j hj (.inr hs), held_outstanding]
    push_cast
    rfl
  once := h.tiles.nodup
  index := h.tiles.index_mem
  completedOnce := (List.nodup_append.mp (List.nodup_append.mp h.completion.nodup).1).2.1
  completedAtZero j hj :=
    ((h.completion.mem_iff j).mp (List.mem_append_left _ (List.mem_append_right _ hj))).2
  seenOnce j hj := by
    have hmem := h.completion.mem_iff j
    split
    · rename_i hz
      exact List.count_eq_one_of_mem h.completion.nodup (hmem.mpr ⟨hj, hz⟩)
    · rename_i hz
      exact List.count_eq_zero_of_not_mem fun hin => hz (hmem.mp hin).2
  retiredCancelled := h.completion.retired_cancelled
  publishedRendered := h.completion.published_rendered
  registered ho chunk j hj := h.registered_progress ho hj
  notBlocked ho chunk version hcurrent := by
    unfold ActiveRenderJobs.hasCurrent at hcurrent
    split at hcurrent
    · cases hcurrent
    · rcases hj : r.activeJobs chunk with - | j
      · rw [hj] at hcurrent
        cases hcurrent
      · exact ⟨j, rfl, h.registered_progress ho hj⟩

/-- Between two steps of the scheduler no tile is set aside. -/
def NothingSetAside (p : EnginePool S) : Prop :=
  p.thread .scheduler = none → p.state.render.reclassificationBuffer = []

/-- **Tile accounting.** In every state of every run the tiles are accounted for, and between two
steps of the scheduler they are pending, queued in the executor or held by workers. -/
theorem engineRun_tilesAccounted [Zero S] (cfg : Config) (kernel : RenderKernel S)
    (moves : List (EngineMove S)) :
    TilesAccounted cfg (engineRun cfg kernel moves).state.render ∧
      NothingSetAside (engineRun cfg kernel moves) :=
  ⟨(engineRun_renderInv cfg kernel moves).tilesAccounted,
    fun h => (engineRun_schedulerIdle h).buffer⟩

/-! ## Live jobs -/

/-- The job can still reach the cache: it is not cancelled, and it has tiles outstanding or waits
to be published or collected. -/
def LiveJob (r : RenderState S) (j : JobId) : Prop :=
  j < r.jobs.made ∧ (r.jobs.job j).cancelled = false ∧
    ((∃ task ∈ r.outstanding, task.job = j) ∨ j ∈ r.executor.publishing.map Prod.snd ∨
      j ∈ r.executor.completedJobs)

structure LiveJobsUnique (cfg : Config) (r : RenderState S) : Prop where
  unique : ∀ j k, LiveJob r j → LiveJob r k → (r.jobs.job j).chunk = (r.jobs.job k).chunk → j = k
  registered : ∀ j, LiveJob r j → r.activeJobs (r.jobs.job j).chunk = some j
  current : ∀ j, LiveJob r j → (r.jobs.job j).version = r.versions (r.jobs.job j).chunk
  notCached : ∀ j, LiveJob r j → RenderCache.findCurrent cfg r (r.jobs.job j).chunk = none
  /-- A chunk and version is written into the cache at most once. -/
  storedOnce : r.history.stored.Nodup
  /-- A completion of a job that was replaced is dropped. -/
  lateCompletion : ∀ j rest, r.executor.completedJobs = j :: rest →
    r.activeJobs (r.jobs.job j).chunk ≠ some j →
    (Scheduler.collectOne cfg r).2 = { r with executor.completedJobs := rest }

/-- A completion of a job that is not registered is dropped. -/
theorem Scheduler.collectOne_of_not_registered {cfg : Config} {r : RenderState S} {j : JobId}
    {rest : List JobId} (hcompleted : r.executor.completedJobs = j :: rest)
    (hne : r.activeJobs (r.jobs.job j).chunk ≠ some j) :
    (collectOne cfg r).2 = { r with executor.completedJobs := rest } := by
  unfold collectOne Executor.popCompleted ActiveRenderJobs.finish
  rw [hcompleted]
  dsimp only
  split
  · rfl
  · rfl

theorem RenderInv.liveJobsUnique {cfg : Config} {kernel : RenderKernel S} {r : RenderState S}
    (h : RenderInv cfg kernel r) (hcurrent : CurrentExcept (fun _ => False) r) :
    LiveJobsUnique cfg r := by
  have hregistered : ∀ j, LiveJob r j → r.activeJobs (r.jobs.job j).chunk = some j := by
    rintro j ⟨hmade, hc, hlive⟩
    refine h.registration.busy_registered j hmade hc (hlive.imp_left ?_)
    rintro ⟨task, ht, rfl⟩
    exact (h.tiles.remaining_pos ht).ne'
  have hversion : ∀ j, LiveJob r j → (r.jobs.job j).version = r.versions (r.jobs.job j).chunk :=
    fun j hj => hcurrent _ j not_false (hregistered j hj) hj.2.1
  exact {
    unique := fun j k hj hk heq => by
      have hreg := hregistered j hj
      rw [heq, hregistered k hk] at hreg
      exact (Option.some.inj hreg).symm
    registered := hregistered
    current := hversion
    notCached := fun j hj => by
      have hlt := h.registration.not_cached _ j (hregistered j hj) hj.2.1
      rw [hversion j hj] at hlt
      unfold RenderCache.findCurrent
      split
      · rfl
      · exact if_pos hlt.ne
    storedOnce := h.cache.stored_nodup
    lateCompletion := fun j rest => Scheduler.collectOne_of_not_registered }

/-- Between two steps of the scheduler the live jobs are unique. -/
def LiveJobsUniqueBetweenSteps (cfg : Config) (p : EnginePool S) : Prop :=
  p.thread .scheduler = none → LiveJobsUnique cfg p.state.render

/-- **Live jobs.** In every run, between two steps of the scheduler, a chunk has at most one live
job: the registered one, of its current version, with nothing current in the cache. -/
theorem engineRun_liveJobsUnique [Zero S] (cfg : Config) (kernel : RenderKernel S)
    (moves : List (EngineMove S)) :
    LiveJobsUniqueBetweenSteps cfg (engineRun cfg kernel moves) :=
  fun h => (engineRun_renderInv cfg kernel moves).liveJobsUnique (engineRun_schedulerIdle h).current

end Anasa
