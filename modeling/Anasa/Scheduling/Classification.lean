import Anasa.Scheduling.Plan

/-!
# Classes and deadlines between two refreshes

The class and the deadline of a chunk depend on the playhead only through its chunk and the end of
the urgent window, which the scheduler watches; the distance depends on the playhead itself.
-/

namespace Anasa

open Concurrency PriorityQueue Scheduler

variable {cfg : Config} {sched : SchedulerState} {chunk frame playheadFrame : Int}

/-! ## The playhead -/

theorem frameToChunk_lt (hcfg : cfg.Valid) (h : frame < cfg.totalFrames) :
    frameToChunk frame < cfg.chunkCount := by
  rw [hcfg.chunkCount_eq, frameToChunk]
  simp only [chunkFrames]
  omega

theorem SamePlayhead.refl (h₀ : 0 ≤ frame) (h₁ : frame ≤ cfg.totalFrames) :
    SamePlayhead cfg frame frame := ⟨h₀, h₁, rfl, rfl⟩

theorem SamePlayhead.trans {f f' : Int} (h : SamePlayhead cfg f f') (hc : playheadChunk cfg f' =
    playheadChunk cfg playheadFrame) (he : urgentChunkEnd cfg f' =
    urgentChunkEnd cfg playheadFrame) : SamePlayhead cfg f playheadFrame :=
  ⟨h.nonneg, h.le_total, h.chunk.trans hc, h.urgentEnd.trans he⟩

/-- Both frames are in one chunk or both at the end of the timeline. -/
theorem SamePlayhead.cases (hcfg : cfg.Valid) (h : SamePlayhead cfg frame playheadFrame)
    (hle : playheadFrame ≤ cfg.totalFrames) :
    frame < cfg.totalFrames ∧ playheadFrame < cfg.totalFrames ∧
        frameToChunk frame = frameToChunk playheadFrame ∨
      frame = cfg.totalFrames ∧ playheadFrame = cfg.totalFrames := by
  have hchunk := h.chunk
  have hframe := h.le_total
  unfold playheadChunk at hchunk
  split at hchunk <;> split at hchunk
  · exact .inl ⟨‹_›, ‹_›, hchunk⟩
  · have := frameToChunk_lt hcfg ‹frame < _›
    omega
  · have := frameToChunk_lt hcfg ‹playheadFrame < _›
    omega
  · exact .inr ⟨by omega, by omega⟩

/-! ## Classification -/

theorem classifyChunk_mem {classification : RenderClassification}
    (h : classifyChunk cfg sched chunk frame = .ok classification) :
    0 ≤ chunk ∧ chunk < cfg.chunkCount := by
  unfold classifyChunk at h
  split at h
  · cases h
  · omega

/-- The class of a chunk at a frame of the timeline. -/
def classOf (cfg : Config) (sched : SchedulerState) (chunk frame : Int) : RenderPriority :=
  if sched.playRequested ∧ frame < cfg.totalFrames ∧ frameToChunk frame ≤ chunk ∧
      chunk < urgentChunkEnd cfg frame then .urgent
  else if chunkIntersectsViewport cfg sched chunk then .visible
  else .background

/-- What `classifyChunk` returns for a chunk and a frame of the timeline. -/
theorem classifyChunk_eq (hchunk : 0 ≤ chunk ∧ chunk < cfg.chunkCount) (h₀ : 0 ≤ frame)
    (h₁ : frame ≤ cfg.totalFrames) :
    classifyChunk cfg sched chunk frame = .ok {
      priority := classOf cfg sched chunk frame
      deadlineFrame :=
        if classOf cfg sched chunk frame = .urgent then firstFrameOfChunk chunk else -1
      distanceInFrames := |firstFrameOfChunk chunk - frame| } := by
  have hclamp : clampTimelineBoundary frame cfg.totalFrames = frame :=
    clampTimelineBoundary_of_mem h₀ h₁
  unfold classifyChunk classOf
  rw [if_neg (by omega)]
  dsimp only
  rw [hclamp]
  split
  · rfl
  · split <;> rfl

/-- The class is the same at frames that the scheduler does not tell apart. -/
theorem SamePlayhead.classOf_eq (hcfg : cfg.Valid) (h : SamePlayhead cfg frame playheadFrame)
    (hle : playheadFrame ≤ cfg.totalFrames) :
    classOf cfg sched chunk frame = classOf cfg sched chunk playheadFrame := by
  unfold classOf
  rw [h.urgentEnd]
  rcases h.cases hcfg hle with ⟨hlt, hlt', hchunk⟩ | ⟨heq, heq'⟩
  · simp only [hlt, hlt', hchunk]
  · simp only [heq, heq']

/-- What a label says of the classification at the playhead: all but the distance agrees, and
the distance is to a frame that the scheduler does not tell from the playhead. -/
theorem Labelled.classify {chunk : JobId → Int} {tile : PendingRenderTile} (hcfg : cfg.Valid)
    (h : Labelled cfg sched chunk playheadFrame tile) (h₀ : 0 ≤ playheadFrame)
    (h₁ : playheadFrame ≤ cfg.totalFrames) :
    ∃ classification frame, SamePlayhead cfg frame playheadFrame ∧
      classifyChunk cfg sched (chunk tile.job) playheadFrame = .ok classification ∧
      classification.priority = tile.classification.priority ∧
      classification.deadlineFrame = tile.classification.deadlineFrame ∧
      classification.distanceInFrames = |firstFrameOfChunk (chunk tile.job) - playheadFrame| ∧
      tile.classification.distanceInFrames = |firstFrameOfChunk (chunk tile.job) - frame| := by
  obtain ⟨frame, hsame, hlabel⟩ := h
  have hchunk := classifyChunk_mem hlabel
  rw [classifyChunk_eq hchunk hsame.nonneg hsame.le_total, Except.ok.injEq] at hlabel
  have hclass : classOf cfg sched (chunk tile.job) frame =
      classOf cfg sched (chunk tile.job) playheadFrame := hsame.classOf_eq hcfg h₁
  refine ⟨_, frame, hsame, classifyChunk_eq hchunk h₀ h₁, ?_, ?_, rfl, ?_⟩
  · rw [← hlabel, hclass]
  · rw [← hlabel, hclass]
  · rw [← hlabel]

/-! ## The chunks of the loops -/

/-- The loop over the urgent chunks visits the chunks that are classified as urgent. -/
theorem mem_urgentLoopChunks {sched : SchedulerState} {frame c : Int} :
    c ∈ urgentLoopChunks cfg sched frame ↔ classOf cfg sched c frame = .urgent := by
  unfold urgentLoopChunks classOf
  constructor
  · intro hc
    split at hc
    · rename_i hplaying
      rw [mem_intRange] at hc
      exact if_pos ⟨hplaying.1, hplaying.2, hc.1, hc.2⟩
    · cases hc
  · intro hclass
    split at hclass
    · rename_i h
      rw [if_pos ⟨h.1, h.2.1⟩, mem_intRange]
      exact h.2.2
    · split at hclass <;> cases hclass

/-- The loop over the viewport visits the chunks that intersect it. -/
theorem mem_viewportLoopChunks (hcfg : cfg.Valid) {sched : SchedulerState}
    (hfirst : 0 ≤ sched.viewportFirstFrame) (hlast : sched.viewportLastFrame ≤ cfg.totalFrames)
    {c : Int} : c ∈ viewportLoopChunks cfg sched ↔
      (0 ≤ c ∧ c < cfg.chunkCount) ∧ chunkIntersectsViewport cfg sched c = true := by
  have hcount := hcfg.chunkCount_eq
  unfold viewportLoopChunks chunkIntersectsViewport frameToChunk firstFrameOfChunk
  simp only [chunkFrames] at hcount ⊢
  split
  · rename_i hopen
    rw [if_neg (by omega), mem_intRange]
    simp only [Bool.and_eq_true, decide_eq_true_eq]
    omega
  · rename_i hempty
    rw [if_pos (by omega)]
    simp

theorem urgentChunkEnd_le (hcfg : cfg.Valid) (frame : Int) :
    urgentChunkEnd cfg frame ≤ cfg.chunkCount := by
  unfold urgentChunkEnd
  split
  · exact le_rfl
  · dsimp only
    have hconfigured : frameToChunk frame +
        min cfg.scheduler.urgentChunks (cfg.chunkCount - frameToChunk frame) ≤ cfg.chunkCount := by
      omega
    split
    · exact hconfigured
    · refine max_le hconfigured (Int.add_one_le_of_lt (frameToChunk_lt hcfg ?_))
      have hblocks : min cfg.scheduler.prebufferBlocks
          ((cfg.totalFrames - frame) / cfg.audio.audioBlockFrames) * cfg.audio.audioBlockFrames ≤
            (cfg.totalFrames - frame) / cfg.audio.audioBlockFrames * cfg.audio.audioBlockFrames :=
        Int.mul_le_mul_of_nonneg_right (min_le_right _ _) hcfg.blockFrames_pos.le
      have hframes := Int.ediv_mul_le (cfg.totalFrames - frame) hcfg.blockFrames_pos.ne'
      omega

/-- Urgent chunks are chunks of the timeline. -/
theorem classOf_urgent_mem (hcfg : cfg.Valid) {sched : SchedulerState} {frame c : Int}
    (h₀ : 0 ≤ frame) (hclass : classOf cfg sched c frame = .urgent) : 0 ≤ c ∧ c < cfg.chunkCount := by
  unfold classOf at hclass
  split at hclass
  · rename_i h
    have hfirst : 0 ≤ frameToChunk frame := Int.ediv_nonneg h₀ (by decide)
    exact ⟨hfirst.trans h.2.2.1, h.2.2.2.trans_le (urgentChunkEnd_le hcfg frame)⟩
  · split at hclass <;> cases hclass

end Anasa
