import Anasa.Model.CheckedFrames
import Anasa.Playback.Publishing
import Anasa.Rendering.Invalidation
import Anasa.Scheduling.Classification

/-!
# Frame arithmetic in range

Under a configuration that the constructors accept, every checked computation on frames and chunks
has the result of the plain one: nothing overflows, no assertion fails, and the chunks it computes
are those of the timeline.
-/

namespace Anasa

variable {S : Type}

/-- A chunk of the timeline. -/
def OnTimeline (cfg : Config) (chunk : Int) : Prop := 0 ≤ chunk ∧ chunk < cfg.chunkCount

/-- The samples of one chunk. -/
def CacheShape (cfg : Config) (samples : AudioBuffer S) : Prop :=
  samples.channelCount = cfg.audio.channelCount ∧ samples.frameCount = chunkFrames

namespace AcceptedConfig

variable (cfg : AcceptedConfig)

theorem totalFrames_lt : cfg.totalFrames < 2 ^ 31 := (cfg.int32 _ (by simp [Config.ints])).2

theorem contextFrames_lt : cfg.render.contextFrames < 2 ^ 31 :=
  (cfg.int32 _ (by simp [Config.ints])).2

/-- A block is no longer than the timeline. -/
theorem blockFrames_le : cfg.audio.audioBlockFrames ≤ cfg.totalFrames :=
  Int.le_of_dvd cfg.valid.totalFrames_pos cfg.valid.block_dvd_total

theorem chunkCount_le : cfg.chunkCount ≤ cfg.totalFrames := by
  have hcount := cfg.valid.chunkCount_eq
  have htotal := cfg.valid.totalFrames_pos
  simp only [chunkFrames] at hcount
  omega

end AcceptedConfig

namespace Checked

/-! ## Operations -/

section

variable {a b : Int} {p : Prop} [Decidable p]

theorem require_eq (h : p) : CheckedInt.require p = some () := CheckedInt.require_of h

theorem add_eq (h₀ : -2 ^ 31 ≤ a + b) (h₁ : a + b < 2 ^ 31) : add a b = some (a + b) :=
  CheckedInt.add_of ⟨h₀, h₁⟩

theorem sub_eq (h₀ : -2 ^ 31 ≤ a - b) (h₁ : a - b < 2 ^ 31) : sub a b = some (a - b) :=
  CheckedInt.sub_of ⟨h₀, h₁⟩

theorem mul_eq (h₀ : -2 ^ 31 ≤ a * b) (h₁ : a * b < 2 ^ 31) : mul a b = some (a * b) :=
  CheckedInt.mul_of ⟨h₀, h₁⟩

theorem abs_eq (h₀ : -2 ^ 31 < a) (h₁ : a < 2 ^ 31) : abs a = some |a| :=
  CheckedInt.abs_of ⟨by have := abs_nonneg a; omega, abs_lt.mpr ⟨h₀, h₁⟩⟩

theorem div_eq (h₀ : 0 ≤ a) (h₁ : a < 2 ^ 31) (hb : 0 < b) : div a b = some (a / b) :=
  CheckedInt.div_of ⟨by omega, h₁⟩ h₀ hb

theorem rem_eq (h₀ : 0 ≤ a) (h₁ : a < 2 ^ 31) (hb : 0 < b) : rem a b = some (a % b) :=
  CheckedInt.rem_of ⟨by omega, h₁⟩ h₀ hb

end

/-! ## Helpers -/

section

variable {frame totalFrames chunk : Int}

theorem frameToChunk_eq (h₀ : 0 ≤ frame) (h₁ : frame < 2 ^ 31) :
    frameToChunk frame = some (Anasa.frameToChunk frame) := by
  simp (disch := omega) only [frameToChunk, chunkFrames, require_eq, div_eq, Option.bind_eq_bind,
    Option.bind_some, Anasa.frameToChunk]

theorem clampTimelineFrame_eq (frame : Int) (h₀ : 0 < totalFrames) (h₁ : totalFrames < 2 ^ 31) :
    clampTimelineFrame frame totalFrames = some (Anasa.clampTimelineFrame frame totalFrames) := by
  simp (disch := omega) only [clampTimelineFrame, require_eq, sub_eq, Option.bind_eq_bind,
    Option.bind_some, Option.pure_def, Anasa.clampTimelineFrame]

theorem clampTimelineBoundary_eq (h₀ : 0 < totalFrames) :
    clampTimelineBoundary frame totalFrames =
      some (Anasa.clampTimelineBoundary frame totalFrames) := by
  simp (disch := omega) only [clampTimelineBoundary, require_eq, Option.bind_eq_bind,
    Option.bind_some, Option.pure_def, Anasa.clampTimelineBoundary]

theorem alignFrameToAudioBlock_eq {blockFrames : Int} (h₀ : 0 ≤ frame) (h₁ : frame < 2 ^ 31)
    (hB : 0 < blockFrames) : alignFrameToAudioBlock frame blockFrames =
      some (Anasa.alignFrameToAudioBlock frame blockFrames) := by
  have hmem := alignFrameToAudioBlock_mem h₀ hB
  unfold Anasa.alignFrameToAudioBlock at hmem
  simp (disch := omega) only [alignFrameToAudioBlock, require_eq, rem_eq, sub_eq,
    Option.bind_eq_bind, Option.bind_some, Anasa.alignFrameToAudioBlock]

end

variable {cfg : AcceptedConfig} {chunk frame : Int}

theorem firstFrameOfChunk_eq (h : OnTimeline cfg chunk) :
    firstFrameOfChunk chunk = some (Anasa.firstFrameOfChunk chunk) ∧
      0 ≤ Anasa.firstFrameOfChunk chunk ∧ Anasa.firstFrameOfChunk chunk < cfg.totalFrames := by
  obtain ⟨h₀, h₁⟩ := h
  have hcount := cfg.valid.chunkCount_eq
  have htotal := cfg.totalFrames_lt
  have hbounds : 0 ≤ chunk * 2048 ∧ chunk * 2048 < cfg.totalFrames := by
    simp only [chunkFrames] at hcount
    omega
  refine ⟨?_, hbounds⟩
  simp (disch := omega) only [firstFrameOfChunk, chunkFrames, require_eq, mul_eq,
    Option.bind_eq_bind, Option.bind_some, Anasa.firstFrameOfChunk]

theorem frameToChunk_onTimeline (h₀ : 0 ≤ frame) (h₁ : frame < cfg.totalFrames) :
    OnTimeline cfg (Anasa.frameToChunk frame) :=
  ⟨Int.ediv_nonneg h₀ (by decide), frameToChunk_lt cfg.valid h₁⟩

theorem chunkIndex_eq (h : OnTimeline cfg chunk) : chunkIndex cfg chunk = some () := require_eq h

/-! ## Scheduler -/

theorem invalidatedChunks_eq (firstFrame lastFrame : Int) :
    invalidatedChunks cfg firstFrame lastFrame =
      some (Scheduler.invalidatedChunks cfg firstFrame lastFrame) := by
  have htotal₀ := cfg.valid.totalFrames_pos
  have htotal := cfg.totalFrames_lt
  have hcontext₀ := cfg.valid.contextFrames_nonneg
  have hcontext := cfg.contextFrames_lt
  have hclamp (frame : Int) := clampTimelineFrame_eq frame htotal₀ htotal
  have hmem (frame : Int) := clampTimelineFrame_mem frame htotal₀
  have hfirst := hmem firstFrame
  have hlast := hmem (max (Anasa.clampTimelineFrame firstFrame cfg.totalFrames) lastFrame)
  simp only [invalidatedChunks, hclamp, Option.bind_eq_bind, Option.bind_some]
  simp (disch := omega) only [sub_eq, add_eq, frameToChunk_eq, Option.bind_some]
  simp (disch := (unfold Anasa.frameToChunk chunkFrames; omega)) only [add_eq, Option.bind_some,
    Option.pure_def, Scheduler.invalidatedChunks]

theorem invalidatedChunks_onTimeline {firstFrame lastFrame : Int}
    (h : chunk ∈ Scheduler.invalidatedChunks cfg firstFrame lastFrame) : OnTimeline cfg chunk :=
  ((mem_invalidatedChunks cfg.valid).mp h).chunk_mem cfg.valid

theorem chunkIntersectsViewport_eq (sched : SchedulerState) (h : OnTimeline cfg chunk) :
    chunkIntersectsViewport cfg sched chunk =
      some (Scheduler.chunkIntersectsViewport cfg sched chunk) := by
  obtain ⟨hfirst, h₀, h₁⟩ := firstFrameOfChunk_eq h
  have htotal := cfg.totalFrames_lt
  unfold chunkIntersectsViewport Scheduler.chunkIntersectsViewport
  split
  · rfl
  · simp only [hfirst, Option.bind_eq_bind, Option.bind_some]
    simp (disch := omega) only [sub_eq, add_eq, chunkFrames, Option.bind_some, Option.pure_def]

theorem urgentChunkEnd_eq (h₀ : 0 ≤ frame) (h₁ : frame ≤ cfg.totalFrames) :
    urgentChunkEnd cfg frame = some (Scheduler.urgentChunkEnd cfg frame) := by
  have htotal := cfg.totalFrames_lt
  have hcount := cfg.chunkCount_le
  have hblock := cfg.valid.blockFrames_pos
  have hprebuffer := cfg.valid.prebuffer_nonneg
  have hurgent := cfg.valid.urgentChunks_pos
  unfold urgentChunkEnd Scheduler.urgentChunkEnd
  rw [require_eq ⟨h₀, h₁⟩, Option.bind_eq_bind, Option.bind_some]
  by_cases hend : frame = cfg.totalFrames
  · rw [if_pos hend, if_pos hend]
    rfl
  · rw [if_neg hend, if_neg hend]
    obtain ⟨hchunk₀, hchunk₁⟩ := frameToChunk_onTimeline h₀ (show frame < cfg.totalFrames by omega)
    -- The prebuffer covers whole blocks of the rest of the timeline.
    have hremaining := Int.ediv_nonneg (show 0 ≤ cfg.totalFrames - frame by omega) hblock.le
    have hprebuffer₀ := Int.mul_nonneg (le_min hprebuffer hremaining) hblock.le
    have hprebuffer₁ := (Int.mul_le_mul_of_nonneg_right (min_le_right cfg.scheduler.prebufferBlocks
      _) hblock.le).trans (Int.ediv_mul_le (cfg.totalFrames - frame) hblock.ne')
    simp (disch := omega) only [frameToChunk_eq, sub_eq, add_eq, div_eq, mul_eq,
      Option.bind_eq_bind, Option.bind_some]
    split
    · rfl
    · have hlast : OnTimeline cfg (Anasa.frameToChunk (frame + min cfg.scheduler.prebufferBlocks
          ((cfg.totalFrames - frame) / cfg.audio.audioBlockFrames) * cfg.audio.audioBlockFrames -
            1)) := frameToChunk_onTimeline (by omega) (by omega)
      obtain ⟨hlast₀, hlast₁⟩ := hlast
      simp (disch := omega) only [add_eq, Option.bind_some, Option.pure_def]

theorem classifyChunk_eq (sched : SchedulerState) (chunk playheadFrame : Int) :
    classifyChunk cfg sched chunk playheadFrame =
      some (Scheduler.classifyChunk cfg sched chunk playheadFrame) := by
  have htotal₀ := cfg.valid.totalFrames_pos
  have htotal := cfg.totalFrames_lt
  obtain ⟨hplayhead₀, hplayhead₁⟩ := clampTimelineBoundary_mem playheadFrame htotal₀.le
  unfold classifyChunk Scheduler.classifyChunk
  split
  · rfl
  · have hchunk : OnTimeline cfg chunk := ⟨by omega, by omega⟩
    obtain ⟨hfirst, h₀, h₁⟩ := firstFrameOfChunk_eq hchunk
    have hviewport := chunkIntersectsViewport_eq sched hchunk
    have hend := urgentChunkEnd_eq hplayhead₀ hplayhead₁
    simp (disch := omega) only [clampTimelineBoundary_eq, frameToChunk_eq, sub_eq, abs_eq, hfirst,
      hviewport, hend, Option.bind_eq_bind, Option.bind_some, Option.pure_def]
    split
    · rename_i hplaying
      split
      · rename_i hwindow
        rw [if_pos ⟨hplaying.1, hplaying.2, hwindow⟩]
      · rename_i hwindow
        simp only [hplaying.1, hplaying.2, true_and, hwindow, if_false]
        split <;> rfl
    · rename_i hplaying
      simp only [← and_assoc, hplaying, false_and, if_false]
      split <;> rfl

theorem reclassify_eq (s : EngineState S) (playheadFrame : Int) (tile : PendingRenderTile) :
    reclassify cfg s playheadFrame tile =
      some (Scheduler.reclassify cfg s playheadFrame tile) := by
  unfold reclassify Scheduler.reclassify
  rw [classifyChunk_eq, Option.bind_eq_bind, Option.bind_some]
  cases Scheduler.classifyChunk cfg s.sched (s.render.jobs.job tile.job).chunk playheadFrame <;> rfl

theorem mapM_reclassify_eq (s : EngineState S) (playheadFrame : Int)
    (tiles : List PendingRenderTile) :
    tiles.mapM (reclassify cfg s playheadFrame) =
      some (tiles.map (Scheduler.reclassify cfg s playheadFrame)) := by
  induction tiles with
  | nil => rfl
  | cons tile tiles ih =>
    rw [List.mapM_cons, reclassify_eq, ih]
    rfl

theorem playheadChunk_eq (h₀ : 0 ≤ frame) :
    playheadChunk cfg frame = some (Scheduler.playheadChunk cfg frame) := by
  have htotal := cfg.totalFrames_lt
  unfold playheadChunk Scheduler.playheadChunk
  split
  · exact frameToChunk_eq h₀ (by omega)
  · rfl

theorem urgentLoopChunks_eq (sched : SchedulerState) (h₀ : 0 ≤ frame)
    (h₁ : frame ≤ cfg.totalFrames) :
    urgentLoopChunks cfg sched frame = some (Scheduler.urgentLoopChunks cfg sched frame) := by
  unfold urgentLoopChunks Scheduler.urgentLoopChunks
  simp only [playheadChunk_eq h₀, urgentChunkEnd_eq h₀ h₁, Option.bind_eq_bind, Option.bind_some,
    Scheduler.playheadChunk]
  split
  · rename_i hplaying
    rw [if_pos hplaying.2]
    rfl
  · rfl

theorem urgentLoopChunks_onTimeline {sched : SchedulerState} (h₀ : 0 ≤ frame)
    (h : chunk ∈ Scheduler.urgentLoopChunks cfg sched frame) : OnTimeline cfg chunk :=
  classOf_urgent_mem cfg.valid h₀ (mem_urgentLoopChunks.mp h)

theorem viewportLoopChunks_eq {sched : SchedulerState} (h₀ : 0 ≤ sched.viewportFirstFrame)
    (h₁ : sched.viewportLastFrame ≤ cfg.totalFrames) :
    viewportLoopChunks cfg sched = some (Scheduler.viewportLoopChunks cfg sched) := by
  have htotal := cfg.totalFrames_lt
  have hcount := cfg.chunkCount_le
  unfold viewportLoopChunks Scheduler.viewportLoopChunks
  split
  · have hlast : OnTimeline cfg (Anasa.frameToChunk (min (sched.viewportLastFrame - 1)
        (cfg.totalFrames - 1))) := frameToChunk_onTimeline (by omega) (by omega)
    obtain ⟨hlast₀, hlast₁⟩ := hlast
    simp (disch := omega) only [frameToChunk_eq, sub_eq, add_eq, Option.bind_eq_bind,
      Option.bind_some, Option.pure_def]
  · rfl

theorem viewportLoopChunks_onTimeline {sched : SchedulerState}
    (h₀ : 0 ≤ sched.viewportFirstFrame) (h₁ : sched.viewportLastFrame ≤ cfg.totalFrames)
    (h : chunk ∈ Scheduler.viewportLoopChunks cfg sched) : OnTimeline cfg chunk :=
  ((mem_viewportLoopChunks cfg.valid h₀ h₁).mp h).1

theorem nextScanChunk_eq (h : OnTimeline cfg chunk) :
    nextScanChunk cfg chunk = some ((chunk + 1) % cfg.chunkCount) := by
  obtain ⟨h₀, h₁⟩ := h
  have htotal := cfg.totalFrames_lt
  have hcount := cfg.chunkCount_le
  simp (disch := omega) only [nextScanChunk, add_eq, rem_eq, Option.bind_eq_bind, Option.bind_some]

theorem nextScanChunk_onTimeline (h : OnTimeline cfg chunk) :
    OnTimeline cfg ((chunk + 1) % cfg.chunkCount) := by
  obtain ⟨h₀, h₁⟩ := h
  exact ⟨Int.emod_nonneg _ (by omega), Int.emod_lt_of_pos _ (by omega)⟩

/-! ## Publishing -/

theorem blockBoundary_offset (h : BlockBoundary cfg frame) :
    rem frame cfg.audio.audioBlockFrames = some 0 := by
  have htotal := cfg.totalFrames_lt
  rw [rem_eq h.2.1 (by have := h.2.2; omega) cfg.valid.blockFrames_pos,
    Int.emod_eq_zero_of_dvd h.1]

theorem chunkCount_eq : chunkCount cfg.totalFrames = some cfg.chunkCount := by
  have htotal₀ := cfg.valid.totalFrames_pos
  have htotal := cfg.totalFrames_lt
  have hcount := cfg.valid.chunkCount_eq
  have hle := cfg.chunkCount_le
  simp only [chunkFrames] at hcount
  simp (disch := omega) only [chunkCount, chunkFrames, sub_eq, div_eq, add_eq,
    Option.bind_eq_bind, Option.bind_some, hcount]

theorem readyLeadBlocks_eq {next : Int} (hnext : BlockBoundary cfg next)
    (h : BlockBoundary cfg frame) : readyLeadBlocks cfg next frame =
      some (TimelineAudioPublisher.readyLeadBlocks cfg next frame) ∧
      0 ≤ TimelineAudioPublisher.readyLeadBlocks cfg next frame := by
  have htotal := cfg.totalFrames_lt
  have hblock := cfg.valid.blockFrames_pos
  obtain ⟨-, hnext₀, hnext₁⟩ := hnext
  obtain ⟨-, h₀, h₁⟩ := h
  refine ⟨?_, Int.ediv_nonneg (le_max_left _ _) hblock.le⟩
  simp (disch := omega) only [readyLeadBlocks, require_eq, sub_eq, div_eq, Option.bind_eq_bind,
    Option.bind_some, TimelineAudioPublisher.readyLeadBlocks]

theorem CacheShape.findCurrent {cfg : Config} {r : RenderState S} {chunk : Int}
    {samples : AudioBuffer S} (h : CacheShape cfg (r.cacheEntries chunk).samples)
    (hfind : RenderCache.findCurrent cfg r chunk = some samples) : CacheShape cfg samples := by
  unfold RenderCache.findCurrent at hfind
  split at hfind
  · cases hfind
  · split at hfind
    · cases hfind
    · exact Option.some.inj hfind ▸ h

/-- **A pass of the publishing loop.** The block that is published lies in one chunk. -/
theorem publishNext_eq (generation : Int) {s : EngineState S}
    (hnext : BlockBoundary cfg s.sched.nextFrameToPublish)
    (hcache : ∀ chunk, CacheShape cfg (s.render.cacheEntries chunk).samples)
    (hslots : s.readyQueue.All (SlotShape cfg)) :
    publishNext cfg generation s =
      some (TimelineAudioPublisher.publishNext cfg generation s) := by
  have htotal := cfg.totalFrames_lt
  have hblock := cfg.valid.blockFrames_pos
  have hle := cfg.blockFrames_le
  have h₀ := hnext.2.1
  unfold publishNext TimelineAudioPublisher.publishNext
  dsimp only
  rw [sub_eq (by omega) (by omega), Option.bind_eq_bind, Option.bind_some]
  by_cases hlast : s.sched.nextFrameToPublish ≤ cfg.totalFrames - cfg.audio.audioBlockFrames
  · rw [if_pos hlast, if_pos hlast]
    obtain ⟨hoffset₀, hoffset₁⟩ := block_in_chunk cfg.valid hnext
    have hchunk : OnTimeline cfg (Anasa.frameToChunk s.sched.nextFrameToPublish) :=
      frameToChunk_onTimeline h₀ (by omega)
    obtain ⟨hfirst, hfirst₀, hfirst₁⟩ := firstFrameOfChunk_eq hchunk
    rw [frameToChunk_eq h₀ (by omega), Option.bind_some, chunkIndex_eq hchunk, Option.bind_eq_bind,
      Option.bind_some]
    rcases hfind : RenderCache.findCurrent cfg s.render
      (Anasa.frameToChunk s.sched.nextFrameToPublish) with - | samples
    · rfl
    · obtain ⟨hchannels, hframes⟩ := CacheShape.findCurrent (hcache _) hfind
      have hslot : ∀ slot ∈ s.readyQueue.free.head?,
          slot.samples.channelCount = cfg.audio.channelCount ∧
            slot.samples.frameCount ≥ cfg.audio.audioBlockFrames := fun slot hmem =>
        have hshape := hslots.2 slot (List.mem_of_mem_head? hmem)
        ⟨hshape.1, hshape.2.ge⟩
      dsimp only
      simp only [chunkFrames] at hoffset₁
      rw [hfirst, Option.bind_some, sub_eq (by omega) (by omega), Option.bind_some,
        require_eq hchannels, Option.bind_some, add_eq (by omega) (by omega), Option.bind_some,
        require_eq (by rw [hframes]; exact hoffset₁), Option.bind_some, require_eq hslot,
        Option.bind_some, add_eq (b := cfg.audio.audioBlockFrames) (by omega) (by omega)]
      split <;> rfl
  · rw [if_neg hlast, if_neg hlast]
    rfl

/-! ## Construction -/

theorem initialViewport_eq [Zero S] : initialViewport cfg =
    some (EngineState.init cfg : EngineState S).sched.viewportLastFrame := by
  have htotal₀ := cfg.valid.totalFrames_pos
  have htotal := cfg.totalFrames_lt
  have hrate := cfg.sampleRate_pos
  unfold initialViewport EngineState.init
  rw [div_eq htotal₀.le htotal (by omega), Option.bind_eq_bind, Option.bind_some]
  dsimp only
  split
  · rfl
  · exact mul_eq (by omega) (by omega)

/-- An engine that constructs has computed its number of frames without overflow. -/
theorem calculateTotalFrames_eq {settings : EngineSettings} {c : Config}
    (h : settings.construct = .ok c) : calculateTotalFrames settings = some c.totalFrames := by
  have hchecks := runChecks_eq_ok.mp (EngineSettings.checks_of_construct h)
  simp only [EngineSettings.checks, List.mem_cons, List.not_mem_nil, or_false, forall_eq_or_imp,
    forall_eq, decide_eq_true_eq] at hchecks
  obtain ⟨htimeline, hrate, -, -, hlimit⟩ := hchecks
  have hframes : settings.timelineInSeconds * settings.audio.sampleRate ≤ 2 ^ 31 - 1 :=
    (Int.le_ediv_iff_mul_le hrate).mp hlimit
  have hframes₀ := Int.mul_pos htimeline hrate
  rw [(EngineSettings.construct_eq_ok h).1]
  unfold calculateTotalFrames EngineSettings.config
  rw [div_eq (by omega) (by omega) hrate, Option.bind_eq_bind, Option.bind_some,
    require_eq hlimit]
  exact mul_eq (by omega) (by omega)

end Checked

end Anasa
