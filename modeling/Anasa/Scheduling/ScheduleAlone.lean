import Anasa.Scheduling.Coverage

/-!
# Scheduling as if alone

While no other thread cancels a job, `scheduleRenderJobs` does to the view `coverageOf` what it does
with nobody around: every function it calls is isolated. `Ready` is what holds between two chunks of
such a run.
-/

namespace Anasa

open Concurrency Contract Prog Scheduler

variable {S : Type} {cfg : Config} {kernel : RenderKernel S} {s : EngineState S}

/-! ## Accesses -/

/-- An access whose effect on the view the view tells. -/
theorem isolated_coverage {f : EngineState S → EngineState S} (F : Coverage S → Coverage S)
    (h : ∀ s, coverageOf (f s) = F (coverageOf s)) : (Prog.modify f).Isolated coverageOf s :=
  isolated_modify fun s' hs => by rw [h, h, hs]

theorem coverageOf_made {s s' : EngineState S} (h : coverageOf s' = coverageOf s) :
    s'.render.jobs.made = s.render.jobs.made := congrArg (fun c => c.plan.made) h

/-- Whether a job that has been made is cancelled. -/
theorem coverageOf_cancelled {s s' : EngineState S} (h : coverageOf s' = coverageOf s) {j : JobId}
    (hj : j < s.render.jobs.made) :
    (s'.render.jobs.job j).cancelled = (s.render.jobs.job j).cancelled := by
  have hsame : s'.render.jobs.cancelledJob j = s.render.jobs.cancelledJob j :=
    congrFun (congrArg Coverage.cancelled h) j
  rwa [cancelledJob_of_lt hj, cancelledJob_of_lt (coverageOf_made h ▸ hj)] at hsame

/-! ## Making room -/

theorem tileIsCancelled_isolated {tile : PendingRenderTile} (h : tile.job < s.render.jobs.made) :
    (tileIsCancelled tile).Isolated coverageOf s :=
  isolated_read fun _ hs => coverageOf_cancelled hs h

theorem countRetained_isolated (tiles : List PendingRenderTile)
    (h : ∀ t ∈ tiles, t.job < s.render.jobs.made) :
    (countRetained tiles).Isolated coverageOf s := by
  induction tiles with
  | nil => exact isolated_pure _
  | cons tile tiles ih =>
    refine (tileIsCancelled_isolated (h tile List.mem_cons_self)).bind ?_
    exact (ih fun t ht => h t (List.mem_cons_of_mem _ ht)).bind (isolated_pure _)

theorem cancelJob_isolated {j : JobId} (h : j < s.render.jobs.made) :
    (cancelJob j : Prog (EngineState S) Unit).Isolated coverageOf s := by
  refine isolated_modify fun s' hs => ?_
  rw [coverageOf_cancelJob h, coverageOf_cancelJob (coverageOf_made hs ▸ h), hs]

theorem evictJobs_isolated (buffer : List PendingRenderTile) (retained : Int)
    (walk : List PendingRenderTile) (h : ∀ t ∈ walk, t.job < s.render.jobs.made) :
    (evictJobs cfg buffer retained walk).Isolated coverageOf s := by
  induction walk generalizing s retained with
  | nil => exact isolated_pure _
  | cons tile walk ih =>
    have hrest : ∀ t ∈ walk, t.job < s.render.jobs.made :=
      fun t ht => h t (List.mem_cons_of_mem _ ht)
    have htile := h tile List.mem_cons_self
    unfold evictJobs
    split
    · split
      · exact ih _ hrest
      · refine (tileIsCancelled_isolated htile).bind ?_
        rw [tileIsCancelled_run]
        split
        · exact ih _ hrest
        · exact (cancelJob_isolated htile).bind (ih _ hrest)
    · exact isolated_pure _

/-- Dropping a tile of a cancelled job. -/
theorem coverageOf_retireTile {tile : PendingRenderTile} (hlt : tile.job < s.render.jobs.made)
    (hcancelled : (s.render.jobs.job tile.job).cancelled = true) :
    coverageOf { s with render := retireTile cfg tile s.render } =
      { coverageOf s with plan.buffer := (coverageOf s).plan.buffer.tail } := by
  have hlive : liveJob (retireTile cfg tile s.render) = liveJob s.render :=
    funext fun chunk => liveJob_retireTile hlt hcancelled chunk
  have hplan : planOf { s with render := retireTile cfg tile s.render } = _ :=
    retireTile_planOf tile s
  have hflags : (retireTile cfg tile s.render).jobs.cancelledJob = s.render.jobs.cancelledJob := by
    funext j
    rw [JobTable.cancelledJob, retireTile_flags, retireTile_eq]
    rfl
  unfold coverageOf
  dsimp only
  rw [hplan, hlive, hflags, retireTile_eq]

theorem retireOrKeep_isolated {tile : PendingRenderTile} (h : tile.job < s.render.jobs.made) :
    (retireOrKeep cfg tile).Isolated coverageOf s := by
  refine (tileIsCancelled_isolated h).bind ?_
  rw [tileIsCancelled_run]
  dsimp only
  split
  · rename_i hcancelled
    refine isolated_modify fun s' hs => ?_
    rw [coverageOf_retireTile h hcancelled, coverageOf_retireTile (coverageOf_made hs ▸ h)
      ((coverageOf_cancelled hs h).trans hcancelled), hs]
  · exact isolated_coverage (fun c => { c with
      plan.pendingTiles := pushPending cfg tile c.plan.pendingTiles
      plan.buffer := c.plan.buffer.tail }) fun _ => rfl

theorem retireOrKeep_made (tile : PendingRenderTile) (s : EngineState S) :
    ((retireOrKeep cfg tile).run s).2.render.jobs.made = s.render.jobs.made := by
  rw [retireOrKeep_run]
  dsimp only
  split
  · rw [retireTile_eq]
    rfl
  · rfl

theorem makeRoomForUrgentChunk_isolated (h : JobsMade s.render) :
    (makeRoomForUrgentChunk cfg).Isolated coverageOf s := by
  have hpending : ∀ t ∈ s.render.pendingTiles, t.job < s.render.jobs.made := fun t ht =>
    h.waiting t (List.mem_append_left _ ht)
  refine Isolated.bind (isolated_atomically fun s' hs => ⟨?_, ?_⟩) ?_
  · exact congrArg (fun c => c.plan.pendingTiles) hs
  · exact congrArg (fun c : Coverage S => { c with
      plan.buffer := c.plan.pendingTiles
      plan.pendingTiles := [] }) hs
  rw [run_atomically]
  refine Isolated.bind (countRetained_isolated _ hpending) ?_
  rw [countRetained_run]
  refine Isolated.bind (evictJobs_isolated _ _ _ fun t ht => hpending t (List.mem_reverse.mp ht)) ?_
  obtain ⟨evicted, -, hwalk⟩ := evictJobs_run cfg s.render.pendingTiles
    s.render.pendingTiles.reverse
    { s with render := { s.render with
      reclassificationBuffer := s.render.pendingTiles
      pendingTiles := [] } }
  dsimp only at hwalk ⊢
  rw [hwalk]
  refine (isolated_forEach (J := fun s' => s'.render.jobs.made = s.render.jobs.made)
    (fun t ht s' hs' => ⟨retireOrKeep_isolated (hs' ▸ hpending t ht), ?_⟩) ?_).1
  · rw [retireOrKeep_made]
    exact hs'
  · exact JobTable.cancelJobs_made _ _

/-! ## One chunk -/

theorem makeRoomIfUrgent_isolated (h : JobsMade s.render) (priority : RenderPriority) :
    (makeRoomIfUrgent cfg priority).Isolated coverageOf s := by
  unfold makeRoomIfUrgent
  split
  · refine isolated_read_bind (fun s' hs => ?_) ?_
    · exact congrArg (fun c : Coverage S => decide ((c.plan.pendingTiles.length : Int) +
        tilesPerChunk > pendingTileLimit cfg priority)) hs
    · split
      · exact makeRoomForUrgentChunk_isolated h
      · exact isolated_pure _
  · exact isolated_pure _

variable [Zero S]

theorem admitIfRoom_isolated {chunk : Int} (hchunk : 0 ≤ chunk ∧ chunk < cfg.chunkCount)
    (version : Int) (classification : RenderClassification) :
    (admitIfRoom cfg chunk version classification).Isolated coverageOf s := by
  refine isolated_read_bind (fun s' hs => ?_) ?_
  · exact congrArg (fun c : Coverage S => decide ((c.plan.pendingTiles.length : Int) +
      tilesPerChunk > pendingTileLimit cfg classification.priority)) hs
  · split
    · exact isolated_coverage (·.admitChunk cfg chunk version classification)
        (coverageOf_admitChunk hchunk version classification)
    · exact isolated_pure _

/-- **One chunk.** -/
theorem scheduleChunk_isolated (h : JobsMade s.render) (chunk frame : Int) :
    (scheduleChunk cfg chunk frame).Isolated coverageOf s := by
  unfold scheduleChunk
  split
  · exact isolated_pure _
  rename_i hrange
  have hcache : ∀ s', coverageOf s' = coverageOf s →
      cacheIsCurrent cfg chunk s'.render = cacheIsCurrent cfg chunk s.render := fun s' hs => by
    have hversions : s'.render.versions = s.render.versions := congrArg Coverage.versions hs
    have hentries : s'.render.cacheEntries = s.render.cacheEntries :=
      congrArg Coverage.cacheEntries hs
    unfold cacheIsCurrent RenderCache.findCurrent
    rw [hversions, hentries]
  refine isolated_read_bind hcache ?_
  split
  · exact isolated_pure _
  refine isolated_read_bind (fun s' hs => congrFun (congrArg Coverage.versions hs) chunk) ?_
  refine isolated_read_bind (fun s' hs => ?_) ?_
  · have hlive : liveJob s'.render = liveJob s.render :=
      congrArg (fun c => c.plan.activeJobs) hs
    have horigins : s'.render.jobs.origins = s.render.jobs.origins :=
      congrArg (fun c => c.plan.origins) hs
    have hversion : ∀ j, (s'.render.jobs.job j).version = (s.render.jobs.job j).version :=
      fun j => congrArg (fun o => (o.2 j).2) horigins
    have hlt : ∀ j, liveJob s.render chunk = some j → j < s.render.jobs.made :=
      fun _ hj => h.live_lt hj
    rw [Bool.eq_iff_iff, hasCurrent_iff hlt, hasCurrent_iff (by
      rw [hlive, coverageOf_made hs]
      exact hlt), hlive]
    simp only [hversion]
  split
  · exact isolated_pure _
  refine isolated_read_bind (fun s' hs => ?_) ?_
  · exact congrArg (fun c : Coverage S => classifyChunk cfg c.plan.sched chunk frame) hs
  rcases hclassify : classifyChunk cfg s.sched chunk frame with e | classification
  · exact isolated_pure _
  · exact (makeRoomIfUrgent_isolated h _).bind
      (admitIfRoom_isolated (by omega) _ classification)

/-! ## The call -/

/-- The invariants between two chunks of a pass, with `P` for the plan. -/
structure Ready (cfg : Config) (kernel : RenderKernel S) (P : Plan → Prop)
    (s : EngineState S) : Prop where
  render : RenderInv cfg kernel s.render
  running : Running s
  plan : PlanInv cfg (planOf s)
  at_plan : P (planOf s)

omit [Zero S] in
/-- A function that keeps the invariants among others keeps them alone. -/
theorem Ready.run {P Q : Plan → Prop} {p : Prog (EngineState S) Unit} (h : Ready cfg kernel P s)
    (hrender : (renderContract cfg kernel .scheduler).Triple (Running (S := S)) p fun _ => Running)
    (hplan : (planContract cfg kernel).Triple (fun s => P (planOf s)) p fun _ s => Q (planOf s)) :
    Ready cfg kernel Q (p.run s).2 := by
  have hboth : (Contract.and (renderContract cfg kernel .scheduler) ⟨fun s => PlanInv cfg (planOf s),
      fun s s' => planOf s' = planOf s, fun s s' => PlanStep cfg (planOf s) (planOf s')⟩).Safe
      (fun _ s => Running s ∧ Q (planOf s)) p s :=
    (hrender s h.render h.running).and (hplan s h.plan h.at_plan)
  obtain ⟨hinv, hpost⟩ := hboth.run (fun s => by exact ⟨renderRely_refl .scheduler s, rfl⟩) ⟨h.render, h.plan⟩
  exact ⟨hinv.1, hpost.1, hinv.2, hpost.2⟩

theorem Ready.scheduleChunk (hcfg : cfg.Valid) {frame : Int}
    (h : Ready cfg kernel (Scheduled cfg frame) s) (chunk : Int) :
    Ready cfg kernel (Scheduled cfg frame) ((Scheduler.scheduleChunk cfg chunk frame).run s).2 :=
  h.run (scheduleChunk_triple chunk frame) (scheduleChunk_plan hcfg chunk frame)

theorem scheduleChunks_isolated (hcfg : cfg.Valid) {frame : Int}
    (h : Ready cfg kernel (Scheduled cfg frame) s) (chunks : List Int) :
    (Prog.forEach (fun chunk => scheduleChunk cfg chunk frame) chunks).Isolated coverageOf s ∧
      Ready cfg kernel (Scheduled cfg frame)
        ((Prog.forEach (fun chunk => scheduleChunk cfg chunk frame) chunks).run s).2 :=
  isolated_forEach (fun chunk _ _ h => ⟨scheduleChunk_isolated h.render.jobsMade chunk frame,
    h.scheduleChunk hcfg chunk⟩) h

/-- The cursor moves past a chunk. -/
def passChunk (cfg : Config) (s : EngineState S) : EngineState S :=
  { s with
    sched.timelineScanCursorInChunks := (s.sched.timelineScanCursorInChunks + 1) % cfg.chunkCount
    schedulingHistory := s.schedulingHistory.scan
      ⟨s.sched.timelineScanCursorInChunks, s.render.pendingTiles.length⟩ }

omit [Zero S] in
theorem Ready.passChunk {frame : Int} (h : Ready cfg kernel (Scheduled cfg frame) s) :
    Ready cfg kernel (Scheduled cfg frame) (Anasa.passChunk cfg s) where
  render := h.render
  running := ⟨h.running.current, h.running.buffer, h.running.started, trivial⟩
  plan :=
    have hpos : 0 < cfg.chunkCount := lt_of_le_of_lt h.plan.cursor.1 h.plan.cursor.2
    { h.plan with cursor := ⟨Int.emod_nonneg _ hpos.ne', Int.emod_lt_of_pos _ hpos⟩ }
  at_plan := { h.at_plan with
    fresh := fun hpolicy => (h.at_plan.fresh hpolicy).of_eq rfl rfl rfl rfl rfl rfl rfl
      fun _ ht => ht }

/-- A pass of the scan. -/
theorem scanTimeline_run_succ (frame : Int) (n : ℕ) (s : EngineState S) :
    (scanTimeline cfg frame (n + 1)).run s =
      if queueIsFull (pendingTileLimit cfg .background) s.render then ((), s)
      else (scanTimeline cfg frame n).run (passChunk cfg
        ((scheduleChunk cfg s.sched.timelineScanCursorInChunks frame).run s).2) := by
  rw [scanTimeline, run_bind, run_read]
  dsimp only
  rw [run_ite]
  split
  · rfl
  · rw [run_bind, run_bind, run_modify]
    rfl

theorem scanTimeline_isolated (hcfg : cfg.Valid) {frame : Int}
    (h : Ready cfg kernel (Scheduled cfg frame) s) (n : ℕ) :
    (scanTimeline cfg frame n).Isolated coverageOf s := by
  induction n generalizing s with
  | zero => exact isolated_pure _
  | succ n ih =>
    refine isolated_read_bind (fun s' hs => ?_) ?_
    · exact congrArg (fun c : Coverage S => (decide ((c.plan.pendingTiles.length : Int) +
        tilesPerChunk > pendingTileLimit cfg .background),
        c.plan.sched.timelineScanCursorInChunks)) hs
    · dsimp only
      split
      · exact isolated_pure _
      · refine (scheduleChunk_isolated h.render.jobsMade _ frame).bind ?_
        refine Isolated.bind (isolated_coverage (fun c => { c with
          plan := { c.plan with
            sched.timelineScanCursorInChunks :=
              (c.plan.sched.timelineScanCursorInChunks + 1) % cfg.chunkCount
            history := c.plan.history.scan
              ⟨c.plan.sched.timelineScanCursorInChunks, c.plan.pendingTiles.length⟩ } })
          fun _ => rfl) ?_
        exact ih (h.scheduleChunk hcfg _).passChunk

theorem scheduleLoops_isolated (hcfg : cfg.Valid) {frame : Int}
    (h : Ready cfg kernel (Scheduled cfg frame) s) :
    (scheduleLoops cfg frame).Isolated coverageOf s := by
  refine isolated_read_bind (fun s' hs => ?_) ?_
  · exact congrArg (fun c : Coverage S => urgentLoopChunks cfg c.plan.sched frame) hs
  obtain ⟨hurgent, h⟩ := scheduleChunks_isolated hcfg h (urgentLoopChunks cfg s.sched frame)
  refine hurgent.bind (isolated_read_bind (fun s' hs => ?_) ?_)
  · exact congrArg (fun c : Coverage S => viewportLoopChunks cfg c.plan.sched) hs
  obtain ⟨hviewport, h⟩ := scheduleChunks_isolated hcfg h _
  exact hviewport.bind (scanTimeline_isolated hcfg h _)

/-- A pending tile with the classification of its chunk, on the plan. -/
def Plan.reclassify (cfg : Config) (frame : Int) (p : Plan) (tile : PendingRenderTile) :
    PendingRenderTile :=
  match classifyChunk cfg p.sched (p.chunk tile.job) frame with
  | .error _ => tile
  | .ok classification => { tile with classification }

omit [Zero S] in
theorem updateClassifications_isolated (frame : Int) :
    (updateClassifications cfg frame : Prog (EngineState S) Unit).Isolated coverageOf s := by
  have hrecord : ∀ {s : EngineState S}, (Prog.modify fun s : EngineState S => { s with
      sched := { s.sched with
        pendingClassificationsDirty := false
        lastClassifiedPlayheadChunk := playheadChunk cfg frame
        lastClassifiedUrgentChunkEnd := urgentChunkEnd cfg frame }
      schedulingHistory.playheadFrame := frame }).Isolated coverageOf s :=
    isolated_coverage (fun c => { c with
      plan := { c.plan with
        sched := { c.plan.sched with
          pendingClassificationsDirty := false
          lastClassifiedPlayheadChunk := playheadChunk cfg frame
          lastClassifiedUrgentChunkEnd := urgentChunkEnd cfg frame }
        history.playheadFrame := frame } }) fun _ => rfl
  refine isolated_read_bind (fun s' hs => ?_) ?_
  · exact congrArg (fun c : Coverage S => decide (cfg.scheduler.policyType = .priority) &&
      classificationChanged cfg frame c.plan.sched) hs
  split
  · refine Isolated.bind (isolated_coverage (fun c => { c with
      plan.pendingTiles := pushAllPending cfg (c.plan.pendingTiles.map (c.plan.reclassify cfg frame)) []
      plan.buffer := [] }) fun _ => rfl) hrecord
  · exact hrecord

end Anasa
