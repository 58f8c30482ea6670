import Anasa.Scheduling.Eviction
import Anasa.Scheduling.PlanLifecycle

/-!
# What eviction guarantees

1. *Making room*: in every reachable state and for all flags, a call evicts the least important
   jobs, no more than needed, and keeps the books.
2. *Failed admission*: an urgent chunk may be refused after jobs were cancelled for it, and exactly
   when the live urgent tiles alone leave no room and there is something to cancel.
-/

namespace Anasa

open Concurrency PriorityQueue Scheduler

variable {S : Type} {cfg : Config} {kernel : RenderKernel S}

/-! ## Reachable queues -/

/-- The invariants give what eviction needs to know. -/
theorem Evictable.of_inv {s : EngineState S} (hr : RenderInv cfg kernel s.render)
    (hp : PlanInv cfg (planOf s)) : Evictable cfg s.render where
  uniform t ht t' ht' := hp.queue.uniform t (List.mem_append_left _ ht) t'
    (List.mem_append_left _ ht')
  chunk_mem t ht := hr.jobs.chunk_mem t.job (hr.waiting_lt (List.mem_append_left _ ht))
  registered c j hj := (hr.registration.registered c j hj).2
  count_le t ht := by
    have hle := hr.tiles.held_le t.job (hr.waiting_lt (List.mem_append_left _ ht))
    have hpending : s.render.pendingTiles.countP (·.job = t.job) =
        held (s.render.pendingTiles.map (·.task)) t.job := by
      rw [held, List.countP_map]
      rfl
    simp only [RenderState.outstanding, held_append] at hle
    omega

/-- The rendering state with other flags. -/
def RenderState.withFlags (r : RenderState S) (flags : JobId → Bool) : RenderState S :=
  { r with jobs := { r.jobs with
    job := fun j => { r.jobs.job j with cancelled := flags j } } }

theorem Evictable.withFlags {r : RenderState S} (h : Evictable cfg r) (flags : JobId → Bool) :
    Evictable cfg (r.withFlags flags) where
  uniform := h.uniform
  chunk_mem := h.chunk_mem
  registered := h.registered
  count_le := h.count_le

section

variable [Zero S] (cfg : AcceptedConfig) (kernel : RenderKernel S) (moves : List (SessionMove S))

theorem sessionRun_evictable :
    Evictable cfg.toConfig (sessionRun cfg.toConfig kernel moves).state.render :=
  .of_inv (planLayer_sound cfg kernel moves).inv.1 (planLayer_sound cfg kernel moves).inv.2

/-- **Making room.** For every reachable queue and all flags, `makeRoomForUrgentChunk` cancels the
jobs of the live tiles that are not urgent, from the least important tile on, one at a time and
only until a chunk fits; it drops the tiles of cancelled jobs and keeps the others as they are. -/
theorem sessionRun_makesRoom (flags : JobId → Bool) :
    MakesRoom cfg.toConfig
      ((sessionRun cfg.toConfig kernel moves).state.render.withFlags flags)
      ((makeRoomForUrgentChunk cfg.toConfig).run
        { (sessionRun cfg.toConfig kernel moves).state with
          render := (sessionRun cfg.toConfig kernel moves).state.render.withFlags flags }).2.render := by
  obtain ⟨r', hroom, hrun⟩ := makeRoomForUrgentChunk_run cfg.toConfig
    { (sessionRun cfg.toConfig kernel moves).state with
      render := (sessionRun cfg.toConfig kernel moves).state.render.withFlags flags }
    ((sessionRun_evictable cfg kernel moves).withFlags flags)
  rw [hrun]
  exact hroom

end

/-! ## Failed admission -/

/-- If the call does not admit the chunk, the jobs that are not cancelled and their pending tiles
are those of before. -/
def AdmissionHarmless [Zero S] (cfg : Config) (chunk playheadFrame : Int) (s : EngineState S) :
    Prop :=
  ((scheduleChunk cfg chunk playheadFrame).run s).2.render.jobs.made = s.render.jobs.made →
    (∀ j, s.render.jobs.flags j = false →
      ((scheduleChunk cfg chunk playheadFrame).run s).2.render.jobs.flags j = false) ∧
    (((scheduleChunk cfg chunk playheadFrame).run s).2.render.pendingTiles.filter fun t =>
      !((scheduleChunk cfg chunk playheadFrame).run s).2.render.jobs.flags t.job).Perm
      (s.render.pendingTiles.filter fun t => !s.render.jobs.flags t.job)

/-- The live urgent tiles. -/
def liveUrgentTiles (r : RenderState S) : ℕ :=
  r.pendingTiles.countP fun t =>
    !r.jobs.flags t.job && decide (t.classification.priority = .urgent)

/-- The chunk needs no job, or fits next to the live urgent tiles, or no live tile is less
important. -/
def NothingToLose (cfg : Config) (chunk : Int) (r : RenderState S) : Prop :=
  cacheIsCurrent cfg chunk r = true ∨
    ActiveRenderJobs.hasCurrent cfg r chunk (r.versions chunk) = true ∨
    ChunkFits cfg (liveUrgentTiles r) ∨
    ∀ t ∈ r.pendingTiles, r.jobs.flags t.job = false → t.classification.priority = .urgent

/-- Which jobs are left when all candidates are evicted. -/
theorem liveTiles_evictionOrder {r : RenderState S} (h : Evictable cfg r) :
    liveTiles r.jobs.flags r.pendingTiles
      (evictionOrder r.jobs.flags r.pendingTiles.reverse) = liveUrgentTiles r := by
  refine List.countP_congr fun t ht => ?_
  simp only [isLive, Bool.and_eq_true, Bool.not_eq_true', decide_eq_true_eq]
  refine and_congr_right fun hlive => ?_
  rw [mem_evictionOrder]
  constructor
  · intro hno
    by_contra hother
    exact hno ⟨t, List.mem_reverse.mpr ht, rfl, hlive, hother⟩
  · rintro hurgent ⟨t', ht', hjob, -, hother⟩
    rw [h.uniform t' (List.mem_reverse.mp ht') t ht hjob] at hother
    exact hother hurgent

/-- Every live urgent tile survives. -/
theorem MakesRoom.liveUrgentTiles_le {r r' : RenderState S} (h : MakesRoom cfg r r') :
    liveUrgentTiles r ≤ r'.pendingTiles.length := by
  rw [h.pendingTiles.length_eq, ← List.countP_eq_length_filter]
  refine List.countP_mono_left fun t ht hlive => ?_
  simp only [Bool.and_eq_true, Bool.not_eq_true', decide_eq_true_eq] at hlive ⊢
  exact h.urgentKept t ht hlive.2 hlive.1

/-- If a chunk does not fit afterwards, every live tile that is not urgent was evicted. -/
theorem MakesRoom.flags_of_full {r r' : RenderState S} (h : MakesRoom cfg r r')
    (hr : Evictable cfg r) (hfull : ¬ChunkFits cfg r'.pendingTiles.length) :
    ¬ChunkFits cfg (liveUrgentTiles r) ∧
      ∀ j, r'.jobs.flags j = (r.jobs.flags j || decide (j ∈
        evictionOrder r.jobs.flags r.pendingTiles.reverse)) := by
  obtain ⟨evicted, hevicted, hflags⟩ := h.evicted
  have hlength : r'.pendingTiles.length = liveTiles r.jobs.flags r.pendingTiles evicted := by
    rw [h.pendingTiles.length_eq, ← List.countP_eq_length_filter]
    refine List.countP_congr fun t _ => ?_
    rw [hflags]
    simp [isLive]
  rw [hlength] at hfull
  refine ⟨fun hfits => hfull (hevicted.enough_of_all ?_), ?_⟩
  · rwa [liveTiles_evictionOrder hr]
  · rw [← hevicted.enough_or_all.resolve_left hfull]
    exact hflags

/-- Making room without success is harmless if there was nothing to evict. -/
theorem MakesRoom.harmless_iff {r r' : RenderState S} {chunk : Int} (h : MakesRoom cfg r r')
    (hr : Evictable cfg r) (hfull : ¬ChunkFits cfg r'.pendingTiles.length)
    (hneeded : ¬(cacheIsCurrent cfg chunk r = true ∨
      ActiveRenderJobs.hasCurrent cfg r chunk (r.versions chunk) = true)) :
    (r'.jobs.made = r.jobs.made →
      (∀ j, r.jobs.flags j = false → r'.jobs.flags j = false) ∧
      (r'.pendingTiles.filter fun t => !r'.jobs.flags t.job).Perm
        (r.pendingTiles.filter fun t => !r.jobs.flags t.job)) ↔ NothingToLose cfg chunk r := by
  obtain ⟨hnofit, hflags⟩ := h.flags_of_full hr hfull
  constructor
  · intro hharmless
    refine .inr (.inr (.inr fun t ht hlive => ?_))
    by_contra hother
    have hkept := (hharmless h.made).1 t.job hlive
    rw [hflags, Bool.or_eq_false_iff, decide_eq_false_iff_not] at hkept
    exact hkept.2 (mem_evictionOrder.mpr ⟨t, List.mem_reverse.mpr ht, rfl, hlive, hother⟩)
  · intro hnothing _
    have hurgent : ∀ t ∈ r.pendingTiles, r.jobs.flags t.job = false →
        t.classification.priority = .urgent := by
      rcases hnothing with hcached | hjob | hfits | hall
      · exact absurd (.inl hcached) hneeded
      · exact absurd (.inr hjob) hneeded
      · exact absurd hfits hnofit
      · exact hall
    have hsame : ∀ j, r'.jobs.flags j = r.jobs.flags j := by
      intro j
      rw [hflags, Bool.or_eq_left_iff_imp, decide_eq_true_eq]
      intro hmem
      obtain ⟨t, ht, rfl, hlive, hother⟩ := mem_evictionOrder.mp hmem
      exact absurd (hurgent t (List.mem_reverse.mp ht) hlive) hother
    refine ⟨fun j hlive => (hsame j).trans hlive, ?_⟩
    have hperm := h.pendingTiles.filter fun t => !r'.jobs.flags t.job
    simp only [List.filter_filter, Bool.and_self, hsame] at hperm ⊢
    exact hperm

theorem queueIsFull_iff {r : RenderState S} :
    queueIsFull cfg.scheduler.maxPendingTiles r = true ↔ ¬ChunkFits cfg r.pendingTiles.length := by
  simp [queueIsFull, ChunkFits]

section

variable [Zero S]

theorem admitChunk_made {chunk version : Int} {classification : RenderClassification}
    (hchunk : 0 ≤ chunk ∧ chunk < cfg.chunkCount) (r : RenderState S) :
    (admitChunk cfg chunk version classification r).jobs.made = r.jobs.made + 1 := by
  unfold admitChunk ActiveRenderJobs.create
  rw [if_neg (by omega)]
  dsimp only
  rw [JobTable.add_made]
  exact congrArg (· + 1) (congrArg Prod.fst (ActiveRenderJobs.cancel_origins cfg chunk r))

/-- The state from which an urgent chunk is admitted, if there is room. -/
def afterMakingRoom (cfg : Config) (s : EngineState S) : EngineState S :=
  if queueIsFull cfg.scheduler.maxPendingTiles s.render then ((makeRoomForUrgentChunk cfg).run s).2
  else s

/-- A call for an urgent chunk that is missing and has no job. -/
theorem scheduleChunk_run_urgent {s : EngineState S} {chunk playheadFrame : Int}
    {classification : RenderClassification} (hpolicy : cfg.scheduler.policyType = .priority)
    (hclassify : classifyChunk cfg s.sched chunk playheadFrame = .ok classification)
    (hurgent : classification.priority = .urgent) (hcached : cacheIsCurrent cfg chunk s.render = false)
    (hjob : ActiveRenderJobs.hasCurrent cfg s.render chunk (s.render.versions chunk) = false) :
    (scheduleChunk cfg chunk playheadFrame).run s = ((),
      if queueIsFull cfg.scheduler.maxPendingTiles (afterMakingRoom cfg s).render then
        afterMakingRoom cfg s
      else { afterMakingRoom cfg s with
        render := admitChunk cfg chunk (s.render.versions chunk) classification
          (afterMakingRoom cfg s).render }) := by
  have hchunk := classifyChunk_mem hclassify
  have hroom : (makeRoomIfUrgent cfg classification.priority).run s = ((), afterMakingRoom cfg s) := by
    unfold makeRoomIfUrgent afterMakingRoom pendingTileLimit
    rw [if_pos ⟨hpolicy, hurgent⟩, if_pos hurgent, Prog.run_bind, Prog.run_read, Prog.run_ite]
    split <;> rfl
  unfold scheduleChunk
  rw [if_neg (by omega), Prog.run_bind, Prog.run_read, hcached]
  rw [if_neg (by simp), Prog.run_bind, Prog.run_read, Prog.run_bind, Prog.run_read, hjob]
  rw [if_neg (by simp), Prog.run_bind, Prog.run_read, hclassify]
  dsimp only
  rw [Prog.run_bind, hroom]
  dsimp only
  unfold admitIfRoom pendingTileLimit
  rw [if_pos hurgent, Prog.run_bind, Prog.run_read, Prog.run_ite]
  cases queueIsFull cfg.scheduler.maxPendingTiles (afterMakingRoom cfg s).render <;> rfl

/-- A call for a chunk that is cached or has a job does nothing. -/
theorem scheduleChunk_run_done {s : EngineState S} {chunk playheadFrame : Int}
    (h : cacheIsCurrent cfg chunk s.render = true ∨
      ActiveRenderJobs.hasCurrent cfg s.render chunk (s.render.versions chunk) = true) :
    (scheduleChunk cfg chunk playheadFrame).run s = ((), s) := by
  unfold scheduleChunk
  rw [Prog.run_ite]
  split
  · rfl
  · rw [Prog.run_bind, Prog.run_read, Prog.run_ite]
    split
    · rfl
    · rename_i hcached
      rw [Prog.run_bind, Prog.run_read, Prog.run_bind, Prog.run_read, Prog.run_ite,
        if_pos (h.resolve_left hcached)]
      rfl

/-- **Failed admission.** A call for an urgent chunk is harmless unless it may lose live work: it
evicts although the live urgent tiles alone leave no room. -/
theorem admissionHarmless_iff {s : EngineState S} (hr : Evictable cfg s.render)
    {chunk playheadFrame : Int} {classification : RenderClassification}
    (hpolicy : cfg.scheduler.policyType = .priority)
    (hclassify : classifyChunk cfg s.sched chunk playheadFrame = .ok classification)
    (hurgent : classification.priority = .urgent) :
    AdmissionHarmless cfg chunk playheadFrame s ↔ NothingToLose cfg chunk s.render := by
  by_cases hdone : cacheIsCurrent cfg chunk s.render = true ∨
      ActiveRenderJobs.hasCurrent cfg s.render chunk (s.render.versions chunk) = true
  · refine iff_of_true ?_ (hdone.imp_right .inl)
    unfold AdmissionHarmless
    rw [scheduleChunk_run_done hdone]
    exact fun _ => ⟨fun _ h => h, List.Perm.refl _⟩
  · obtain ⟨hcached, hjob⟩ := not_or.mp hdone
    have hrun := scheduleChunk_run_urgent hpolicy hclassify hurgent (by simpa using hcached)
      (by simpa using hjob)
    have hchunk := classifyChunk_mem hclassify
    unfold AdmissionHarmless
    rw [hrun]
    have hadmitted : ∀ r : RenderState S, r.jobs.made = s.render.jobs.made →
        (admitChunk cfg chunk (s.render.versions chunk) classification r).jobs.made ≠
          s.render.jobs.made := fun r hmade => by
      rw [admitChunk_made hchunk, hmade]
      exact Nat.succ_ne_self _
    by_cases hfull : queueIsFull cfg.scheduler.maxPendingTiles s.render = true
    · obtain ⟨r', hroom, hmake⟩ := makeRoomForUrgentChunk_run cfg s hr
      have hafter : afterMakingRoom cfg s = { s with render := r' } := by
        unfold afterMakingRoom
        rw [if_pos hfull, hmake]
      rw [hafter]
      dsimp only
      by_cases hstill : queueIsFull cfg.scheduler.maxPendingTiles r' = true
      · rw [if_pos hstill]
        exact hroom.harmless_iff hr (queueIsFull_iff.mp hstill) hdone
      · rw [if_neg hstill]
        refine iff_of_true (fun hmade => absurd hmade (hadmitted r' hroom.made)) ?_
        have hle := hroom.liveUrgentTiles_le
        rw [queueIsFull_iff, not_not] at hstill
        refine .inr (.inr (.inl ?_))
        unfold ChunkFits at hstill ⊢
        omega
    · have hafter : afterMakingRoom cfg s = s := if_neg hfull
      rw [hafter, if_neg hfull]
      refine iff_of_true (fun hmade => absurd hmade (hadmitted s.render rfl)) ?_
      have hle : liveUrgentTiles s.render ≤ s.render.pendingTiles.length := List.countP_le_length
      rw [queueIsFull_iff, not_not] at hfull
      refine .inr (.inr (.inl ?_))
      unfold ChunkFits at hfull ⊢
      omega

/-- A call for an urgent chunk that does not admit it cancels no job. -/
def FailedAdmissionHarmless (cfg : Config) (s : EngineState S) : Prop :=
  cfg.scheduler.policyType = .priority → ∀ chunk playheadFrame classification,
    classifyChunk cfg s.sched chunk playheadFrame = .ok classification →
    classification.priority = .urgent → AdmissionHarmless cfg chunk playheadFrame s

/-- Which calls for urgent chunks cancel no job unless they admit the chunk. -/
def FailedAdmissionDecided (cfg : Config) (s : EngineState S) : Prop :=
  cfg.scheduler.policyType = .priority → ∀ chunk playheadFrame classification,
    classifyChunk cfg s.sched chunk playheadFrame = .ok classification →
    classification.priority = .urgent →
      (AdmissionHarmless cfg chunk playheadFrame s ↔ NothingToLose cfg chunk s.render)

/-- **Failed admission.** In every reachable state under the priority policy, a call of
`scheduleChunk` for an urgent chunk, in which no worker cancels a job, keeps the live jobs unless it
admits the chunk, if and only if the chunk needs no job, or fits next to the live urgent tiles, or
there is no live tile to evict. -/
theorem sessionRun_failedAdmission_iff (cfg : AcceptedConfig) (kernel : RenderKernel S)
    (moves : List (SessionMove S)) :
    FailedAdmissionDecided cfg.toConfig (sessionRun cfg.toConfig kernel moves).state :=
  fun hpolicy _ _ _ hclassify hurgent =>
    admissionHarmless_iff (sessionRun_evictable cfg kernel moves) hpolicy hclassify hurgent

end

/-! ## Live work lost -/

/-- An engine with four chunks, a window of three, and room for 23 tiles. -/
def fourChunkConfig : AcceptedConfig where
  totalFrames := 8192
  audio := { audioBlockFrames := 2048, channelCount := 1 }
  scheduler :=
    { prebufferBlocks := 0, lowWaterBlocks := 0, highWaterBlocks := 0, urgentChunks := 3,
      maxPendingTiles := 23, urgentReservedTiles := 8 }
  int32 := by decide
  accepted := by decide

/-- Steps of the loop in which the executor takes one of eight tiles. -/
def oneTileSteps (n : ℕ) : List (SessionMove ℤ) :=
  List.replicate n (.whole (.schedulerLoop fun pass => pass ≠ 7))

/-- The last chunk is visible and one of its tiles submitted; after Play two urgent chunks are
admitted, and the call for the third one is next. -/
def thirdUrgentMoves : List (SessionMove ℤ) :=
  [.whole .engineStart,
   .whole (.post { type := .setViewport, firstFrame := 6144, lastFrame := 8192 })] ++
  oneTileSteps 9 ++ [.whole (.post { type := .play })] ++ oneTileSteps 7 ++
  .start (.schedulerLoop fun _ => false) :: List.replicate 23 (.access .scheduler)

/-- The job of the visible chunk is cancelled, and yet the third urgent chunk does not fit. -/
theorem sessionRun_failedAdmission_cancels :
    ¬FailedAdmissionHarmless fourChunkConfig.toConfig
      (sessionRun fourChunkConfig.toConfig (fun _ _ _ => 0) thirdUrgentMoves).state := by
  intro h
  have hharmless := h rfl 2 0
    { priority := .urgent, deadlineFrame := 4096, distanceInFrames := 4096 } (by decide +kernel) rfl
  have hlost := (hharmless (by decide +kernel)).1 0 (by decide +kernel)
  revert hlost
  decide +kernel

end Anasa
