import Anasa.Playback.ReadyQueue

/-!
# Publishing

What `feedAudioQueue` does when it runs from start to end: it publishes blocks from the position of
the consumer or from where it stopped, as far as the cache is current and the queue has room, and
then decides whether playback starts.
-/

namespace Anasa

open Concurrency

variable {S : Type} {cfg : Config} {kernel : RenderKernel S} {s : EngineState S}

/-! ## Blocks in chunks -/

/-- A block lies within one chunk. -/
theorem block_in_chunk (hcfg : cfg.Valid) {frame : Int} (h : BlockBoundary cfg frame) :
    0 ≤ frame - firstFrameOfChunk (frameToChunk frame) ∧
      frame - firstFrameOfChunk (frameToChunk frame) + cfg.audio.audioBlockFrames ≤
        chunkFrames := by
  have hdiv := Int.emod_add_ediv_mul frame chunkFrames
  have h₀ := Int.emod_nonneg frame (show chunkFrames ≠ 0 by decide)
  have h₁ := Int.emod_lt_of_pos frame (show 0 < chunkFrames by decide)
  have hdvd : cfg.audio.audioBlockFrames ∣
      chunkFrames - (frame - firstFrameOfChunk (frameToChunk frame)) :=
    Int.dvd_sub hcfg.block_dvd_chunk
      (Int.dvd_sub h.1 (Dvd.dvd.mul_left hcfg.block_dvd_chunk _))
  unfold firstFrameOfChunk frameToChunk at hdvd ⊢
  have := Int.le_of_dvd (by omega) hdvd
  omega

namespace TimelineAudioPublisher

/-- The block that is published from a cached chunk. -/
def nextBlock (cfg : Config) (samples : AudioBuffer S) (generation frame : Int) :
    AudioBlock S → AudioBlock S :=
  fillBlock cfg samples generation frame (frame - firstFrameOfChunk (frameToChunk frame))

/-- The state after a block is published. -/
def pushed (cfg : Config) (s : EngineState S) (block : AudioBlock S)
    (free : List (AudioBlock S)) : EngineState S :=
  { s with
    readyQueue := ⟨s.readyQueue.contents ++ [block], free⟩
    sched.nextFrameToPublish := s.sched.nextFrameToPublish + cfg.audio.audioBlockFrames }

variable (cfg) in
/-- A pass publishes a block or ends the loop. -/
theorem publishNext_cases (generation : Int) (s : EngineState S) :
    (∃ samples slot free,
      s.sched.nextFrameToPublish ≤ cfg.totalFrames - cfg.audio.audioBlockFrames ∧
      RenderCache.findCurrent cfg s.render (frameToChunk s.sched.nextFrameToPublish) =
        some samples ∧
      s.readyQueue.free = slot :: free ∧
      publishNext cfg generation s = (true, pushed cfg s
        (nextBlock cfg samples generation s.sched.nextFrameToPublish slot) free)) ∨
    publishNext cfg generation s = (false, s) ∧
      (cfg.totalFrames - cfg.audio.audioBlockFrames < s.sched.nextFrameToPublish ∨
        RenderCache.findCurrent cfg s.render (frameToChunk s.sched.nextFrameToPublish) = none ∨
        s.readyQueue.free = []) := by
  unfold publishNext
  dsimp only
  by_cases hle : s.sched.nextFrameToPublish ≤ cfg.totalFrames - cfg.audio.audioBlockFrames
  · rw [if_pos hle]
    rcases hfind : RenderCache.findCurrent cfg s.render
      (frameToChunk s.sched.nextFrameToPublish) with - | samples
    · exact .inr ⟨rfl, .inr (.inl rfl)⟩
    · rcases hfree : s.readyQueue.free with - | ⟨slot, free⟩
      · refine .inr ⟨?_, .inr (.inr rfl)⟩
        dsimp only
        rw [BoundedFifo.pushWith_of_full hfree]
        rfl
      · refine .inl ⟨samples, slot, free, hle, rfl, rfl, ?_⟩
        dsimp only
        rw [BoundedFifo.pushWith_of_free hfree]
        rfl
  · exact .inr ⟨if_neg hle, .inl (by omega)⟩

theorem publishLoop_run_succ (generation : Int) (n : ℕ) (s : EngineState S) :
    (publishLoop cfg generation (n + 1)).run s =
      (if (publishNext cfg generation s).1 then publishLoop cfg generation n else pure ()).run
        (publishNext cfg generation s).2 := rfl

variable (cfg) in
/-- The loop changes the queue and the cursor of the publisher only. -/
theorem publishLoop_run_eq (generation : Int) (n : ℕ) (s : EngineState S) :
    ∃ queue last, ((publishLoop cfg generation n).run s).2 =
      { s with readyQueue := queue, sched.nextFrameToPublish := last } := by
  induction n generalizing s with
  | zero => exact ⟨_, _, rfl⟩
  | succ n ih =>
    rw [publishLoop_run_succ, Prog.run_ite]
    rcases publishNext_cases cfg generation s with
      ⟨samples, slot, free, -, -, -, heq⟩ | ⟨heq, -⟩
    · obtain ⟨queue, last, hrest⟩ := ih (pushed cfg s
        (nextBlock cfg samples generation s.sched.nextFrameToPublish slot) free)
      rw [heq, if_pos rfl]
      exact ⟨queue, last, hrest.trans rfl⟩
    · rw [heq, if_neg (by simp)]
      exact ⟨_, _, rfl⟩

/-- Nothing more can be published: the timeline ends, the next chunk is not current or the queue is
full. -/
def Stops (cfg : Config) (s : EngineState S) : Prop :=
  cfg.totalFrames - cfg.audio.audioBlockFrames < s.sched.nextFrameToPublish ∨
    RenderCache.findCurrent cfg s.render (frameToChunk s.sched.nextFrameToPublish) = none ∨
    s.readyQueue.free = []

/-- With enough passes the loop ends because nothing more can be published. -/
theorem publishLoop_stops (hcfg : cfg.Valid) (generation : Int) {n : ℕ} {s : EngineState S}
    (h : cfg.totalFrames - s.sched.nextFrameToPublish < n * cfg.audio.audioBlockFrames) :
    Stops cfg ((publishLoop cfg generation n).run s).2 := by
  have hB := hcfg.blockFrames_pos
  induction n generalizing s with
  | zero =>
    refine .inl ?_
    show _ < s.sched.nextFrameToPublish
    omega
  | succ n ih =>
    rw [publishLoop_run_succ, Prog.run_ite]
    rcases publishNext_cases cfg generation s with
      ⟨samples, slot, free, -, -, -, heq⟩ | ⟨heq, hstops⟩
    · rw [heq, if_pos rfl]
      refine ih ?_
      show _ - (s.sched.nextFrameToPublish + cfg.audio.audioBlockFrames) < _
      rw [Nat.cast_succ, Int.add_mul] at h
      omega
    · rw [heq, if_neg (by simp)]
      exact hstops

/-- The publisher does not go back. -/
theorem le_publishLoop (hcfg : cfg.Valid) (generation : Int) (n : ℕ) (s : EngineState S) :
    s.sched.nextFrameToPublish ≤
      ((publishLoop cfg generation n).run s).2.sched.nextFrameToPublish := by
  have hB := hcfg.blockFrames_pos
  induction n generalizing s with
  | zero => exact le_rfl
  | succ n ih =>
    rw [publishLoop_run_succ, Prog.run_ite]
    rcases publishNext_cases cfg generation s with
      ⟨samples, slot, free, -, -, -, heq⟩ | ⟨heq, -⟩
    · rw [heq, if_pos rfl]
      refine le_trans ?_ (ih _)
      show _ ≤ s.sched.nextFrameToPublish + cfg.audio.audioBlockFrames
      omega
    · rw [heq, if_neg (by simp)]
      exact le_rfl

/-- What holds of the queued blocks and of the published ones holds of all blocks. -/
theorem publishLoop_all (hcfg : cfg.Valid) {generation : Int} {P : AudioBlock S → Prop} {n : ℕ}
    {s : EngineState S} (hqueue : ∀ b ∈ s.readyQueue.contents, P b)
    (hnext : ∀ samples frame slot, s.sched.nextFrameToPublish ≤ frame →
      P (nextBlock cfg samples generation frame slot)) :
    ∀ b ∈ ((publishLoop cfg generation n).run s).2.readyQueue.contents, P b := by
  have hB := hcfg.blockFrames_pos
  induction n generalizing s with
  | zero => exact hqueue
  | succ n ih =>
    rw [publishLoop_run_succ, Prog.run_ite]
    rcases publishNext_cases cfg generation s with
      ⟨samples, slot, free, -, -, -, heq⟩ | ⟨heq, -⟩
    · rw [heq, if_pos rfl]
      refine ih (fun b hb => ?_) fun samples frame slot hle => hnext samples frame slot ?_
      · rcases List.mem_append.mp hb with hb | hb
        · exact hqueue b hb
        · rw [List.mem_singleton.mp hb]
          exact hnext samples _ slot le_rfl
      · have hle' : s.sched.nextFrameToPublish + cfg.audio.audioBlockFrames ≤ frame := hle
        omega
    · rw [heq, if_neg (by simp)]
      exact hqueue

end TimelineAudioPublisher

/-! ## The queue while it is filled -/

theorem nextBlock_published (hcfg : cfg.Valid) {kernel : RenderKernel S}
    (hcache : CacheInv cfg kernel s.render.cacheEntries s.render.versions s.render.history.stored)
    {frame generation : Int} (hframe : BlockBoundary cfg frame) {samples : AudioBuffer S}
    (hfind : RenderCache.findCurrent cfg s.render (frameToChunk frame) = some samples)
    (slot : AudioBlock S) :
    Published cfg kernel s.render
      (TimelineAudioPublisher.nextBlock cfg samples generation frame slot) := by
  refine ⟨rfl, hframe, by rw [show (TimelineAudioPublisher.nextBlock cfg samples generation frame
    slot).firstFrame = frame from rfl, hfind]; rfl, fun channel offset hc₀ hc₁ hf₀ hf₁ => ?_⟩
  obtain ⟨h₀, h₁⟩ := block_in_chunk hcfg hframe
  have hcontent := hcache.findCurrent hfind channel
    (frame - firstFrameOfChunk (frameToChunk frame) + offset) hc₀ hc₁ (by omega) (by omega)
  simp only [TimelineAudioPublisher.nextBlock, TimelineAudioPublisher.fillBlock, hc₀, hc₁, hf₀,
    hf₁, and_self, if_true, hcontent]
  congr 1
  unfold firstFrameOfChunk
  omega

/-- A published block joins the queue. -/
theorem ReadyInv.pushed (hcfg : cfg.Valid) (h : ReadyInv cfg kernel s)
    (hcache : CacheInv cfg kernel s.render.cacheEntries s.render.versions s.render.history.stored)
    (hposition : BlockBoundary cfg (position s)) (hle : position s ≤ s.sched.nextFrameToPublish)
    {samples : AudioBuffer S} {slot : AudioBlock S} {free : List (AudioBlock S)}
    (hlast : s.sched.nextFrameToPublish ≤ cfg.totalFrames - cfg.audio.audioBlockFrames)
    (hfind : RenderCache.findCurrent cfg s.render (frameToChunk s.sched.nextFrameToPublish) =
      some samples) (hfree : s.readyQueue.free = slot :: free) :
    ReadyInv cfg kernel (TimelineAudioPublisher.pushed cfg s
      (TimelineAudioPublisher.nextBlock cfg samples s.shared.generation
        s.sched.nextFrameToPublish slot) free) := by
  have hB := hcfg.blockFrames_pos
  refine ⟨⟨?_, ?_, ?_, ?_, h.stopped⟩, ?_⟩
  · exact h.order.push hcfg hposition.1 h.last_boundary.1 hle rfl rfl
  · exact h.last_boundary.next hcfg (by omega)
  · have hslots : (s.readyQueue.pushWith (TimelineAudioPublisher.nextBlock cfg samples
        s.shared.generation s.sched.nextFrameToPublish)).2.All (SlotShape cfg) :=
      h.slots.pushWith fun x hx => hx
    rwa [BoundedFifo.pushWith_of_free hfree] at hslots
  · have hcapacity := BoundedFifo.capacity_pushWith (TimelineAudioPublisher.nextBlock cfg samples
      s.shared.generation s.sched.nextFrameToPublish) s.readyQueue
    rw [BoundedFifo.pushWith_of_free hfree] at hcapacity
    exact hcapacity.trans h.capacity
  · intro b hb hg
    rcases List.mem_append.mp hb with hb | hb
    · exact h.blocks b hb hg
    · rw [List.mem_singleton.mp hb]
      exact nextBlock_published hcfg hcache h.last_boundary hfind slot

theorem ReadyInv.publishLoop (hcfg : cfg.Valid) (h : ReadyInv cfg kernel s)
    (hcache : CacheInv cfg kernel s.render.cacheEntries s.render.versions s.render.history.stored)
    (hposition : BlockBoundary cfg (position s)) (hle : position s ≤ s.sched.nextFrameToPublish)
    (n : ℕ) :
    ReadyInv cfg kernel
      ((TimelineAudioPublisher.publishLoop cfg s.shared.generation n).run s).2 := by
  induction n generalizing s with
  | zero => exact h
  | succ n ih =>
    rw [TimelineAudioPublisher.publishLoop_run_succ, Prog.run_ite]
    rcases TimelineAudioPublisher.publishNext_cases cfg s.shared.generation s with
      ⟨samples, slot, free, hlast, hfind, hfree, heq⟩ | ⟨heq, -⟩
    · rw [heq, if_pos rfl]
      have hB := hcfg.blockFrames_pos
      have hnext := h.pushed hcfg hcache hposition hle hlast hfind hfree
      refine ih hnext hcache hposition ?_
      show position s ≤ s.sched.nextFrameToPublish + cfg.audio.audioBlockFrames
      omega
    · rw [heq, if_neg (by simp)]
      exact h

/-! ## Feeding the queue -/

theorem setPlaying_self {playing : Bool} (h : s.shared.playing = playing) :
    { s with shared.playing := playing } = s := by rw [← h]

/-- Requested playback starts when it is ready, and never stops here. -/
theorem PlaybackController.startIfReady_run (lead : Int) (entire : Bool) (s : EngineState S) :
    (startIfReady cfg lead entire).run s = ((), { s with
      shared.playing := s.shared.playing || (s.sched.playRequested &&
        decide (cfg.scheduler.prebufferBlocks ≤ lead ∨ entire = true)) }) := by
  rcases hp : s.shared.playing with - | -
  · rcases hr : s.sched.playRequested with - | -
    · simp [startIfReady, hr, setPlaying_self hp]
    · by_cases hready : cfg.scheduler.prebufferBlocks ≤ lead ∨ entire = true
      · simp [startIfReady, hr, hp, hready]
      · simp [startIfReady, hr, hp, hready, setPlaying_self hp]
  · simp [startIfReady, hp, setPlaying_self hp]

namespace Scheduler

/-- The state after `publish`, for a consumer within the timeline. -/
def fed (cfg : Config) (s : EngineState S) : EngineState S :=
  ((TimelineAudioPublisher.publish cfg (position s) s.shared.generation).run s).2

/-- The lead that `feedAudioQueue` computes. -/
def fedLead (cfg : Config) (s : EngineState S) : Int :=
  TimelineAudioPublisher.readyLeadBlocks cfg (fed cfg s).sched.nextFrameToPublish (position s)

/-- The condition under which requested playback starts. -/
def startsPlayback (cfg : Config) (s : EngineState S) : Bool :=
  s.sched.playRequested && decide (cfg.scheduler.prebufferBlocks ≤ fedLead cfg s ∨
    cfg.totalFrames ≤ (fed cfg s).sched.nextFrameToPublish)

theorem fed_eq (cfg : Config) (s : EngineState S) : ∃ queue last, fed cfg s =
    { s with readyQueue := queue, sched.nextFrameToPublish := last } := by
  obtain ⟨queue, last, heq⟩ := TimelineAudioPublisher.publishLoop_run_eq cfg
    s.shared.generation (TimelineAudioPublisher.publishPasses cfg)
    { s with sched.nextFrameToPublish := max s.sched.nextFrameToPublish (position s) }
  exact ⟨queue, last, heq.trans rfl⟩

theorem fed_position (cfg : Config) (s : EngineState S) : position (fed cfg s) = position s := by
  obtain ⟨queue, last, heq⟩ := fed_eq cfg s
  rw [heq]
  rfl

theorem fed_cursorView (cfg : Config) (s : EngineState S) :
    cursorView (fed cfg s) = cursorView s := by
  obtain ⟨queue, last, heq⟩ := fed_eq cfg s
  rw [heq]
  rfl

theorem position_le_fed (hcfg : cfg.Valid) (s : EngineState S) :
    position s ≤ (fed cfg s).sched.nextFrameToPublish :=
  (le_max_right s.sched.nextFrameToPublish (position s)).trans
    (TimelineAudioPublisher.le_publishLoop hcfg s.shared.generation
      (TimelineAudioPublisher.publishPasses cfg)
      { s with sched.nextFrameToPublish := max s.sched.nextFrameToPublish (position s) })

theorem fed_stops (hcfg : cfg.Valid) (hposition : 0 ≤ position s) :
    TimelineAudioPublisher.Stops cfg (fed cfg s) := by
  have hB := hcfg.blockFrames_pos
  have htotal := Int.ediv_nonneg hcfg.totalFrames_pos.le hB.le
  have hpasses := Int.lt_ediv_add_one_mul_self cfg.totalFrames hB
  refine TimelineAudioPublisher.publishLoop_stops hcfg s.shared.generation ?_
  rw [TimelineAudioPublisher.publishPasses, Nat.cast_succ, Int.toNat_of_nonneg htotal]
  have hle : position s ≤ max s.sched.nextFrameToPublish (position s) := le_max_right _ _
  dsimp only
  omega

/-- `feedAudioQueue` within the timeline. -/
theorem feedAudioQueue_run (hi : AckInv cfg (cursorView s)) (hrest : CursorRests s)
    (hlt : position s < cfg.totalFrames) :
    (feedAudioQueue cfg).run s = ((), { fed cfg s with
      shared.playing := s.shared.playing || startsPlayback cfg s }) := by
  have hlead : (readyLeadBlocks cfg).run (fed cfg s) = (fedLead cfg s, fed cfg s) := by
    rw [readyLeadBlocks, Prog.run_bind, PlaybackProtocol.currentFrame_run_rest
      (fed_cursorView cfg s ▸ hi) (by rw [fed_cursorView]; exact hrest), fed_position]
    rfl
  have hfed : (TimelineAudioPublisher.publish cfg (position s) s.shared.generation).run s =
      ((), fed cfg s) := rfl
  have hview : (fed cfg s).sched.playRequested = s.sched.playRequested ∧
      (fed cfg s).shared = s.shared := by
    obtain ⟨queue, last, heq⟩ := fed_eq cfg s
    rw [heq]
    exact ⟨rfl, rfl⟩
  rw [feedAudioQueue, Prog.run_bind, PlaybackProtocol.currentFrame_run_rest hi hrest, Prog.run_ite,
    if_neg (not_le.mpr hlt)]
  simp only [Prog.run_bind, Prog.run_read, hfed, hlead, PlaybackController.startIfReady_run,
    TimelineAudioPublisher.entireRemainderPublished, decide_eq_true_eq, ge_iff_le, hview.1,
    hview.2, startsPlayback]

/-- `feedAudioQueue` at the end of the timeline. -/
theorem feedAudioQueue_run_end (hi : AckInv cfg (cursorView s)) (hrest : CursorRests s)
    (hle : cfg.totalFrames ≤ position s) :
    (feedAudioQueue cfg).run s = ((), { s with
      shared.playing := false
      sched := { s.sched with
        nextFrameToPublish := cfg.totalFrames
        playRequested := false
        pendingClassificationsDirty :=
          s.sched.pendingClassificationsDirty || s.sched.playRequested } }) := by
  rw [feedAudioQueue, Prog.run_bind, PlaybackProtocol.currentFrame_run_rest hi hrest, Prog.run_ite,
    if_pos hle]
  rcases hplay : s.sched.playRequested <;>
    simp [TimelineAudioPublisher.reset, PlaybackController.pause, setClassificationsDirty, hplay]

theorem fed_ready (hcfg : cfg.Valid) (h : ReadyInv cfg kernel s)
    (hcache : CacheInv cfg kernel s.render.cacheEntries s.render.versions s.render.history.stored)
    (hposition : BlockBoundary cfg (position s)) : ReadyInv cfg kernel (fed cfg s) := by
  have hskip : ReadyInv cfg kernel
      { s with sched.nextFrameToPublish := max s.sched.nextFrameToPublish (position s) } := by
    refine ⟨⟨h.order.skip hcfg (le_max_left _ _) ?_, ?_, h.slots, h.capacity, h.stopped⟩, h.blocks⟩
    · rcases le_total s.sched.nextFrameToPublish (position s) with hle | hle
      · exact .inr (max_eq_right hle).le
      · exact .inl (max_eq_left hle)
    · rcases le_total s.sched.nextFrameToPublish (position s) with hle | hle
      · exact (max_eq_right hle).symm ▸ hposition
      · exact (max_eq_left hle).symm ▸ h.last_boundary
  exact hskip.publishLoop hcfg hcache hposition (le_max_right _ _) _

/-- **Feeding keeps the queue in order.** -/
theorem feedAudioQueue_ready (hcfg : cfg.Valid) (h : ReadyInv cfg kernel s)
    (hcache : CacheInv cfg kernel s.render.cacheEntries s.render.versions s.render.history.stored)
    (hi : AckInv cfg (cursorView s)) (hrest : CursorRests s) :
    ReadyInv cfg kernel ((feedAudioQueue cfg).run s).2 := by
  by_cases hlt : position s < cfg.totalFrames
  · rw [feedAudioQueue_run hi hrest hlt]
    exact (fed_ready hcfg h hcache hi.position_boundary).of_view rfl
  · rw [feedAudioQueue_run_end hi hrest (not_lt.mp hlt)]
    have hend : BlockBoundary cfg cfg.totalFrames :=
      ⟨hcfg.block_dvd_total, hcfg.totalFrames_pos.le, le_rfl⟩
    exact ⟨⟨h.order.skip hcfg h.last_boundary.2.2 (.inr (not_lt.mp hlt)), hend, h.slots,
      h.capacity, h.stopped⟩, h.blocks⟩

end Scheduler

end Anasa
