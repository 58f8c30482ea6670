import Anasa.Arithmetic.PlaybackChecks

/-!
# The scheduler passes its checks

Commands, completions, publishing, admission and scheduling: each checked program of the scheduler
makes the accesses of the program and does not fail.
-/

namespace Anasa

open Concurrency Prog
open Checked (require_eq)

variable {S : Type} {cfg : AcceptedConfig}

/-! ## Operations on the rendering state -/

theorem FrameInv.cancel {s : EngineState S} (h : FrameInv cfg s) (chunk : Int) :
    FrameInv cfg { s with render := ActiveRenderJobs.cancel cfg chunk s.render } := by
  have horigins := ActiveRenderJobs.cancel_origins cfg chunk s.render
  refine h.of_view ?_
  rw [ActiveRenderJobs.cancel_eq] at horigins ⊢
  simp only [frameView, horigins]

/-- A job is made for a chunk of the timeline. -/
theorem FrameInv.admitted [Zero S] {s : EngineState S} {chunk : Int} (h : FrameInv cfg s)
    (hchunk : OnTimeline cfg chunk) (version : Int) (classification : RenderClassification) :
    FrameInv cfg
      { s with render := Scheduler.admitChunk cfg chunk version classification s.render } := by
  have hcancel := h.cancel chunk
  obtain ⟨h₀, h₁⟩ := hchunk
  unfold Scheduler.admitChunk ActiveRenderJobs.create
  rw [if_neg (by omega)]
  refine { hcancel with jobs := fun j => ?_ }
  dsimp only
  by_cases hj : j = (ActiveRenderJobs.cancel cfg chunk s.render).jobs.made
  · rw [hj, JobTable.add_job_made]
    exact ⟨h₀, h₁⟩
  · rw [JobTable.add_job_of_ne _ _ hj]
    exact hcancel.jobs j

theorem RenderCache.store_shape {chunk version : Int} {samples : AudioBuffer S}
    {r : RenderState S} (h : ∀ c, CacheShape cfg (r.cacheEntries c).samples) (c : Int) :
    CacheShape cfg ((RenderCache.store cfg chunk version samples r).2.cacheEntries c).samples := by
  unfold RenderCache.store
  split
  · exact h c
  · split
    · exact h c
    · dsimp only
      rw [Function.update_apply]
      split
      · exact h chunk
      · exact h c

theorem FrameInv.collect {s : EngineState S} (h : FrameInv cfg s) :
    FrameInv cfg { s with render := (Scheduler.collectOne cfg s.render).2 } := by
  have hcache : ∀ c,
      CacheShape cfg ((Scheduler.collectOne cfg s.render).2.cacheEntries c).samples := by
    unfold Scheduler.collectOne Executor.popCompleted
    rcases s.render.executor.completedJobs with - | ⟨job, rest⟩
    · exact h.cache
    · have hfinish : ∀ c, CacheShape cfg ((ActiveRenderJobs.finish cfg job
          { s.render with executor.completedJobs := rest }).2.cacheEntries c).samples := by
        rw [ActiveRenderJobs.finish_eq]
        exact h.cache
      dsimp only
      split
      · exact RenderCache.store_shape hfinish
      · exact hfinish
  have heq := Scheduler.collectOne_eq cfg s.render
  generalize (Scheduler.collectOne cfg s.render).2 = r at hcache heq ⊢
  have hjobs : r.jobs = s.render.jobs := by rw [heq]
  exact { h with
    jobs := fun j => show OnTimeline cfg (r.jobs.job j).chunk from hjobs ▸ h.jobs j
    cache := hcache }

theorem Checked.Scheduler.collectOne_eq {r : RenderState S}
    (h : ∀ j, OnTimeline cfg (r.jobs.job j).chunk) :
    Checked.Scheduler.collectOne cfg r = some (Anasa.Scheduler.collectOne cfg r) := by
  unfold Checked.Scheduler.collectOne
  split
  · rfl
  · rw [Checked.chunkIndex_eq (h _)]
    rfl

namespace Scheduler

/-! ## Commands -/

theorem beginAudioGeneration_agrees {target : Int} (h : BlockBoundary cfg target)
    (suspend : Bool) : Agrees (S := S) cfg (fun _ => True) (beginAudioGeneration target suspend)
      (Checked.Scheduler.beginAudioGeneration cfg target suspend) :=
  Agree.check (Checked.blockBoundary_offset h) <| Agree.check (require_eq (.inl rfl)) <|
    (PlaybackProtocol.beginGeneration_agrees h suspend).bind fun _ _ =>
      TimelineAudioPublisher.reset_agrees h

theorem invalidateVersions_agrees (firstFrame lastFrame : Int) :
    Agrees (S := S) cfg (fun _ => True) (invalidateVersions cfg firstFrame lastFrame)
      (Checked.Scheduler.invalidateVersions cfg firstFrame lastFrame) :=
  Agree.check (Checked.invalidatedChunks_eq firstFrame lastFrame) <| Agree.forEach fun chunk hmem =>
    Agree.check (Checked.chunkIndex_eq (Checked.invalidatedChunks_onTimeline hmem)) <|
      agrees_modify_bind (fun _ => rfl) fun _ => Agree.plain (keeps_modify fun _ hs =>
        hs.cancel chunk)

theorem readyLeadBlocks_agrees : Agrees (S := S) cfg (fun lead => 0 ≤ lead) (readyLeadBlocks cfg)
    (Checked.Scheduler.readyLeadBlocks cfg) :=
  PlaybackProtocol.currentFrame_agrees.bind fun _ hframe => Agree.read
    (fun _ hs => (Checked.readyLeadBlocks_eq hs.next hframe).1)
    fun _ hs => (Checked.readyLeadBlocks_eq hs.next hframe).2

theorem setClassificationsDirty_frames :
    (setClassificationsDirty : Prog (EngineState S) Unit).Preserves frameView :=
  preserves_modify fun _ => rfl

theorem pause_frames : (PlaybackController.pause : Prog (EngineState S) Bool).Preserves frameView :=
  preserves_atomically fun _ => rfl

theorem shutdownRequested_frames :
    (shutdownRequested : Prog (EngineState S) Bool).Preserves frameView :=
  preserves_read_bind fun _ => preserves_ite (preserves_pure _) (preserves_read _)

/-- **Commands** with any frames. -/
theorem handleCommand_agrees (command : Command) :
    Agrees (S := S) cfg (fun _ => True) (handleCommand cfg command)
      (Checked.Scheduler.handleCommand cfg command) := by
  have htotal₀ := cfg.valid.totalFrames_pos
  have htotal := cfg.totalFrames_lt
  obtain ⟨type, firstFrame, lastFrame⟩ := command
  cases type with
  | play =>
    exact agrees_frames ((preserves_atomically fun _ => rfl).bind fun _ =>
      preserves_ite setClassificationsDirty_frames (preserves_pure _))
  | pause =>
    exact agrees_frames (pause_frames.bind fun _ =>
      preserves_ite setClassificationsDirty_frames (preserves_pure _))
  | seek =>
    obtain ⟨h₀, h₁⟩ := clampTimelineFrame_mem firstFrame htotal₀
    have hblock := cfg.valid.blockFrames_pos
    have halign := alignFrameToAudioBlock_mem h₀ hblock
    have htarget : BlockBoundary cfg (alignFrameToAudioBlock
        (clampTimelineFrame firstFrame cfg.totalFrames) cfg.audio.audioBlockFrames) :=
      ⟨dvd_alignFrameToAudioBlock _ _, halign.1, by omega⟩
    exact Agree.check (Checked.clampTimelineFrame_eq firstFrame htotal₀ htotal) <|
      Agree.check (Checked.alignFrameToAudioBlock_eq h₀ (by omega) hblock) <|
        (beginAudioGeneration_agrees htarget true).bind fun _ _ =>
          agrees_frames setClassificationsDirty_frames
  | setViewport =>
    exact Agree.check (Checked.clampTimelineBoundary_eq htotal₀) <|
      Agree.check (Checked.clampTimelineBoundary_eq htotal₀) <|
        Agree.plain (keeps_modify fun s hs => { hs with
          viewportFirst := (clampTimelineBoundary_mem _ htotal₀.le).1
          viewportLast := (clampTimelineBoundary_mem _ htotal₀.le).2 })
  | edit =>
    exact agrees_modify_bind (fun _ => rfl) fun _ =>
      (invalidateVersions_agrees firstFrame lastFrame).bind fun _ _ =>
        PlaybackProtocol.currentFrame_agrees.bind fun target htarget =>
          (agrees_read _).bind fun suspend _ =>
            (beginAudioGeneration_agrees htarget suspend).bind fun _ _ => agrees_modify fun _ => rfl
  | stop =>
    exact agrees_frames (preserves_modify_bind (fun _ => rfl) fun _ => preserves_modify fun _ => rfl)

theorem readCommands_agrees (n : ℕ) :
    Agrees (S := S) cfg (fun _ => True) (readCommands cfg n)
      (Checked.Scheduler.readCommands cfg n) := by
  induction n with
  | zero => exact Agree.ret trivial
  | succ n ih =>
    refine (agrees_read _).bind fun front _ => ?_
    cases front with
    | none => exact Agree.ret trivial
    | some command =>
      exact agrees_modify_bind (fun _ => rfl) fun _ => (handleCommand_agrees command).bind
        fun _ _ => (agrees_frames shutdownRequested_frames).bind fun _ _ =>
          Agree.ite (fun _ => ih) fun _ => Agree.ret trivial

theorem readCommand_agrees (command : Command) :
    Agrees (S := S) cfg (fun _ => True) (readCommand cfg command)
      (Checked.Scheduler.readCommand cfg command) :=
  (agrees_read _).bind fun _ _ => Agree.ite
    (fun _ => agrees_modify_bind (fun _ => rfl) fun _ => handleCommand_agrees command)
    fun _ => Agree.ret trivial

/-! ## Completions, publishing and the background gate -/

theorem collectFinishedJobs_agrees (n : ℕ) :
    Agrees (S := S) cfg (fun _ => True) (collectFinishedJobs cfg n)
      (Checked.Scheduler.collectFinishedJobs cfg n) := by
  induction n with
  | zero => exact Agree.ret trivial
  | succ n ih =>
    refine (Agree.atomically (Q := fun _ => True) (fun s hs => ?_) (fun s hs => hs.collect)
      fun _ _ => trivial).bind fun _ _ => Agree.ite (fun _ => ih) fun _ => Agree.ret trivial
    rw [Checked.Scheduler.collectOne_eq hs.jobs]
    rfl

theorem feedAudioQueue_agrees : Agrees (S := S) cfg (fun _ => True) (feedAudioQueue cfg)
    (Checked.Scheduler.feedAudioQueue cfg) := by
  have hend : BlockBoundary cfg cfg.totalFrames :=
    ⟨cfg.valid.block_dvd_total, cfg.valid.totalFrames_pos.le, le_rfl⟩
  refine PlaybackProtocol.currentFrame_agrees.bind fun frame hframe =>
    Agree.ite (fun _ => ?_) fun _ => ?_
  · exact (TimelineAudioPublisher.reset_agrees hend).bind fun _ _ =>
      (agrees_frames pause_frames).bind fun _ _ => Agree.ite
        (fun _ => agrees_frames setClassificationsDirty_frames) fun _ => Agree.ret trivial
  · exact (agrees_read _).bind fun generation _ =>
      (TimelineAudioPublisher.publish_agrees hframe generation).bind fun _ _ =>
        readyLeadBlocks_agrees.bind fun lead hlead => (agrees_read _).bind fun entire _ =>
          PlaybackController.startIfReady_agrees hlead entire

theorem updateBackgroundAdmission_agrees :
    Agrees (S := S) cfg (fun _ => True) (updateBackgroundAdmission cfg)
      (Checked.Scheduler.updateBackgroundAdmission cfg) :=
  (agrees_read _).bind fun _ _ => Agree.ite (fun _ => agrees_modify fun _ => rfl) fun _ =>
    readyLeadBlocks_agrees.bind fun _ _ => agrees_modify fun _ => rfl

/-! ## Making room -/

theorem refreshPendingClassifications_agrees (playheadFrame : Int) :
    Agrees (S := S) cfg (fun _ => True) (refreshPendingClassifications cfg playheadFrame)
      (Checked.Scheduler.refreshPendingClassifications cfg playheadFrame) := by
  refine Agree.modify (fun s _ => ?_) fun s hs => { hs with }
  rw [Checked.mapM_reclassify_eq]
  rfl

theorem retireOrKeep_agrees (tile : PendingRenderTile) :
    Agrees (S := S) cfg (fun _ => True) (retireOrKeep cfg tile)
      (Checked.Scheduler.retireOrKeep cfg tile) := by
  refine (agrees_frames (preserves_read _)).bind fun _ _ => Agree.ite
    (fun _ => Agree.modify (fun s hs => ?_) fun s hs => ?_) fun _ => agrees_modify fun _ => rfl
  · rw [Checked.chunkIndex_eq (hs.jobs tile.job)]
    rfl
  · refine hs.of_view ?_
    rw [retireTile_eq]
    simp only [frameView, JobTable.countDown_origins]

theorem makeRoomForUrgentChunk_agrees :
    Agrees (S := S) cfg (fun _ => True) (makeRoomForUrgentChunk cfg)
      (Checked.Scheduler.makeRoomForUrgentChunk cfg) :=
  (agrees_frames (preserves_atomically fun _ => rfl)).bind fun buffer _ =>
    (agrees_frames (worker_frameView (countRetained_workerView buffer))).bind fun _ _ =>
      (agrees_frames (worker_frameView (evictJobs_workerView cfg buffer _ _))).bind fun _ _ =>
        Agree.forEach fun tile _ => retireOrKeep_agrees tile

theorem makeRoomIfUrgent_agrees (priority : RenderPriority) :
    Agrees (S := S) cfg (fun _ => True) (makeRoomIfUrgent cfg priority)
      (Checked.Scheduler.makeRoomIfUrgent cfg priority) :=
  Agree.ite (fun _ => (agrees_read _).bind fun _ _ =>
    Agree.ite (fun _ => makeRoomForUrgentChunk_agrees) fun _ => Agree.ret trivial)
    fun _ => Agree.ret trivial

/-! ## Scheduling -/

theorem classificationChanged_eq {frame : Int} (sched : SchedulerState) (h₀ : 0 ≤ frame)
    (h₁ : frame ≤ cfg.totalFrames) : Checked.Scheduler.classificationChanged cfg frame sched =
      some (classificationChanged cfg frame sched) := by
  unfold Checked.Scheduler.classificationChanged classificationChanged
  rw [Checked.playheadChunk_eq h₀, Checked.urgentChunkEnd_eq h₀ h₁]
  rfl

theorem updateClassifications_agrees {frame : Int} (h : BlockBoundary cfg frame) :
    Agrees (S := S) cfg (fun _ => True) (updateClassifications cfg frame)
      (Checked.Scheduler.updateClassifications cfg frame) := by
  refine Agree.check (Checked.playheadChunk_eq h.2.1) <|
    Agree.check (Checked.urgentChunkEnd_eq h.2.1 h.2.2) <|
      (Agree.read (Q := fun _ => True) (fun s _ => ?_) fun _ _ => trivial).bind fun _ _ =>
        Agree.ite (fun _ => ?_) fun _ => agrees_modify fun _ => rfl
  · rw [classificationChanged_eq s.sched h.2.1 h.2.2]
    rfl
  · exact (refreshPendingClassifications_agrees frame).bind fun _ _ => agrees_modify fun _ => rfl

section

variable [Zero S]

theorem admitIfRoom_keeps {chunk : Int} (h : OnTimeline cfg chunk) (version : Int)
    (classification : RenderClassification) :
    (admitIfRoom cfg chunk version classification : Prog (EngineState S) Unit).Keeps
      (FrameInv cfg) :=
  (keeps_read _).bind fun _ => keeps_ite (keeps_modify fun _ hs => hs.admitted h version _)
    (keeps_pure _)

theorem scheduleChunk_agrees {chunk : Int} (h : OnTimeline cfg chunk) (playheadFrame : Int) :
    Agrees (S := S) cfg (fun _ => True) (scheduleChunk cfg chunk playheadFrame)
      (Checked.Scheduler.scheduleChunk cfg chunk playheadFrame) := by
  refine Agree.ite (fun _ => Agree.ret trivial) fun _ => Agree.check (Checked.chunkIndex_eq h) <|
    (agrees_read _).bind fun _ _ => Agree.ite (fun _ => Agree.ret trivial) fun _ =>
      (agrees_read _).bind fun version _ => (agrees_read _).bind fun _ _ =>
        Agree.ite (fun _ => Agree.ret trivial) fun _ =>
          (Agree.read (Q := fun _ => True) (fun s _ => Checked.classifyChunk_eq s.sched chunk _)
            fun _ _ => trivial).bind fun result _ => ?_
  cases result with
  | error e => exact Agree.ret trivial
  | ok classification =>
    exact (makeRoomIfUrgent_agrees _).bind fun _ _ =>
      Agree.plain (admitIfRoom_keeps h version classification)

/-- The cursor of the scan stays on the timeline. -/
theorem scanTimeline_agrees (playheadFrame : Int) (n : ℕ) :
    Agrees (S := S) cfg (fun _ => True) (scanTimeline cfg playheadFrame n)
      (Checked.Scheduler.scanTimeline cfg playheadFrame n) := by
  induction n with
  | zero => exact Agree.ret trivial
  | succ n ih =>
    refine (Agree.plain_read (Q := fun pass => OnTimeline cfg pass.2) fun s hs => hs.scan).bind
      fun ⟨full, chunk⟩ hchunk => Agree.ite (fun _ => Agree.ret trivial) fun _ =>
        Agree.check (Checked.chunkIndex_eq hchunk) <|
          (scheduleChunk_agrees hchunk playheadFrame).bind fun _ _ =>
            (Agree.modify (fun s hs => ?_) fun s hs => ?_).bind fun _ _ => ih
    · rw [Checked.nextScanChunk_eq hs.scan]
      rfl
    · exact { hs with scan := Checked.nextScanChunk_onTimeline hs.scan }

/-- **The loops** visit chunks of the timeline. -/
theorem scheduleLoops_agrees {frame : Int} (h : BlockBoundary cfg frame) :
    Agrees (S := S) cfg (fun _ => True) (scheduleLoops cfg frame)
      (Checked.Scheduler.scheduleLoops cfg frame) := by
  have hloop : ∀ chunks : List Int, (∀ chunk ∈ chunks, OnTimeline cfg chunk) →
      Agrees (S := S) cfg (fun _ => True) (.forEach (fun chunk => scheduleChunk cfg chunk frame)
        chunks) (CheckedProg.forEach (fun chunk => do
          CheckedProg.check (Checked.chunkIndex cfg chunk)
          Checked.Scheduler.scheduleChunk cfg chunk frame) chunks) := fun chunks hchunks =>
    Agree.forEach fun chunk hmem => Agree.check (Checked.chunkIndex_eq (hchunks chunk hmem))
      (scheduleChunk_agrees (hchunks chunk hmem) frame)
  exact (Agree.read (fun s _ => Checked.urgentLoopChunks_eq s.sched h.2.1 h.2.2)
    fun s _ chunk hmem => Checked.urgentLoopChunks_onTimeline h.2.1 hmem).bind fun urgent hurgent =>
      (hloop urgent hurgent).bind fun _ _ =>
        (Agree.read (fun s hs => Checked.viewportLoopChunks_eq hs.viewportFirst hs.viewportLast)
          fun s hs chunk hmem => Checked.viewportLoopChunks_onTimeline hs.viewportFirst
            hs.viewportLast hmem).bind fun visible hvisible =>
              (hloop visible hvisible).bind fun _ _ => scanTimeline_agrees frame _

theorem scheduleRenderJobs_agrees : Agrees (S := S) cfg (fun _ => True) (scheduleRenderJobs cfg)
    (Checked.Scheduler.scheduleRenderJobs cfg) :=
  PlaybackProtocol.currentFrame_agrees.bind fun _ hframe =>
    (updateClassifications_agrees hframe).bind fun _ _ => scheduleLoops_agrees hframe

end

end Scheduler

end Anasa
