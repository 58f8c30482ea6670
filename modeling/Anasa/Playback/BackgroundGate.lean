import Anasa.Playback.AtomicRuns

/-!
# Reopening the background gate

While the background gate is closed, only urgent and visible chunks are dispatched. The gate opens
again when the lead reaches `highWaterBlocks`, and `feedAudioQueue` gets there exactly if the
cache holds every chunk of that demand. The urgent window is measured in chunks and widened for
the prebuffer only, so what a closed gate lets through need not cover the demand.
-/

namespace Anasa

open Concurrency

variable {S : Type}

/-! ## The demand -/

/-- The chunk is dispatched whether or not the gate is open. -/
def urgentOrVisible (cfg : Config) (sched : SchedulerState) (chunk playheadFrame : Int) : Bool :=
  match Scheduler.classifyChunk cfg sched chunk playheadFrame with
  | .ok classification => classification.priority != .background
  | .error _ => false

/-- The blocks that open the gate, from `frame` on. -/
def demandedFrames (cfg : Config) (frame : Int) : List Int :=
  blocksFrom cfg frame (frame + cfg.scheduler.highWaterBlocks * cfg.audio.audioBlockFrames)

/-- The gate is closed while playback is requested at `frame`, everything that it lets through is
rendered, and the queue holds nothing but blocks that are still to be played. -/
structure GateWaits (cfg : Config) (s : EngineState S) (frame : Int) : Prop where
  policy : cfg.scheduler.policyType = .priority
  requested : s.sched.playRequested = true
  closed : s.sched.backgroundAllowed = false
  before_end : frame < cfg.totalFrames
  remaining : frame + cfg.scheduler.highWaterBlocks * cfg.audio.audioBlockFrames ≤ cfg.totalFrames
  rendered : ∀ chunk ∈ intRange 0 cfg.chunkCount, urgentOrVisible cfg s.sched chunk frame = true →
    Scheduler.cacheIsCurrent cfg chunk s.render = true
  queue : ∀ b ∈ s.readyQueue.contents, b.generation = s.shared.generation ∧ frame ≤ b.firstFrame

/-- Every chunk of the demand is urgent, visible or in the cache anyway. -/
def DemandCovered (cfg : Config) (s : EngineState S) (frame : Int) : Prop :=
  ∀ f ∈ demandedFrames cfg frame, urgentOrVisible cfg s.sched (frameToChunk f) frame = true ∨
    Scheduler.cacheIsCurrent cfg (frameToChunk f) s.render = true

/-- The gate after the queue is fed. -/
def gateAfterFeed (cfg : Config) (s : EngineState S) : Bool :=
  ((Scheduler.updateBackgroundAdmission cfg).run
    ((Scheduler.feedAudioQueue cfg).run s).2).2.sched.backgroundAllowed

variable {cfg : Config} {kernel : RenderKernel S} {s : EngineState S}

instance (frame : Int) : Decidable (GateWaits cfg s frame) :=
  decidable_of_iff (cfg.scheduler.policyType = .priority ∧ s.sched.playRequested = true ∧
    s.sched.backgroundAllowed = false ∧ frame < cfg.totalFrames ∧
    frame + cfg.scheduler.highWaterBlocks * cfg.audio.audioBlockFrames ≤ cfg.totalFrames ∧
    (∀ chunk ∈ intRange 0 cfg.chunkCount, urgentOrVisible cfg s.sched chunk frame = true →
      Scheduler.cacheIsCurrent cfg chunk s.render = true) ∧
    ∀ b ∈ s.readyQueue.contents, b.generation = s.shared.generation ∧ frame ≤ b.firstFrame)
    ⟨fun ⟨h₁, h₂, h₃, h₄, h₅, h₆, h₇⟩ => ⟨h₁, h₂, h₃, h₄, h₅, h₆, h₇⟩,
      fun ⟨h₁, h₂, h₃, h₄, h₅, h₆, h₇⟩ => ⟨h₁, h₂, h₃, h₄, h₅, h₆, h₇⟩⟩

theorem frameToChunk_mem (hcfg : cfg.Valid) {frame : Int} (h₀ : 0 ≤ frame)
    (h₁ : frame < cfg.totalFrames) : frameToChunk frame ∈ intRange 0 cfg.chunkCount := by
  have hcount := hcfg.chunkCount_eq
  have hnonneg := Int.ediv_nonneg h₀ (show 0 ≤ chunkFrames by decide)
  have hle := Int.ediv_le_ediv (show 0 < chunkFrames by decide)
    (show frame ≤ cfg.totalFrames - 1 by omega)
  rw [mem_intRange, hcount, frameToChunk]
  omega

/-- What the gate lets through is in the cache, so the whole demand is if it is covered. -/
theorem GateWaits.demand_current (hcfg : cfg.Valid) {frame : Int} (h : GateWaits cfg s frame)
    (h₀ : 0 ≤ frame) : DemandCovered cfg s frame ↔
      ∀ f ∈ demandedFrames cfg frame, Scheduler.cacheIsCurrent cfg (frameToChunk f) s.render =
        true := by
  refine forall₂_congr fun f hf => ⟨fun hcovered => hcovered.elim (fun hlabel => ?_) id, .inr⟩
  have hmem := mem_blocksFrom hcfg hf
  have hremaining := h.remaining
  exact h.rendered _ (frameToChunk_mem hcfg (by omega) (by omega)) hlabel

/-! ## The lead -/

/-- While playback is requested the gate observes the lead. -/
theorem Scheduler.updateBackgroundAdmission_run (hi : AckInv cfg (cursorView s))
    (hrest : CursorRests s) (hgate : gateResets cfg s = false) :
    (updateBackgroundAdmission cfg).run s = ((), { s with
      sched.backgroundAllowed := BackgroundRenderGate.observe cfg
        (TimelineAudioPublisher.readyLeadBlocks cfg s.sched.nextFrameToPublish (position s))
        s.sched.backgroundAllowed
      schedulingHistory := s.schedulingHistory.observe
        (.lead (TimelineAudioPublisher.readyLeadBlocks cfg s.sched.nextFrameToPublish
          (position s))) }) := by
  rw [updateBackgroundAdmission, Prog.run_bind, Prog.run_read, Prog.run_ite, if_neg (by simp [hgate]),
    readyLeadBlocks, Prog.run_bind, Prog.run_bind,
    PlaybackProtocol.currentFrame_run_rest (s := s) hi hrest]
  rfl

/-- A closed gate opens at the high mark. -/
theorem BackgroundRenderGate.observe_closed (hcfg : cfg.Valid) (lead : Int) :
    observe cfg lead false = true ↔ cfg.scheduler.highWaterBlocks ≤ lead := by
  have hlow := hcfg.lowWater_le
  unfold observe
  split
  · simp only [Bool.false_eq_true, false_iff, not_le]
    omega
  · simp

/-- The gate compares the lead of the fed queue with the high mark. -/
theorem gateAfterFeed_eq (hcfg : cfg.Valid) (hi : AckInv cfg (cursorView s))
    (hrest : CursorRests s) (h : GateWaits cfg s (position s)) :
    gateAfterFeed cfg s = true ↔ cfg.scheduler.highWaterBlocks ≤ Scheduler.fedLead cfg s := by
  have hcursor := Scheduler.fed_cursorView cfg s
  obtain ⟨queue, last, heq⟩ := Scheduler.fed_eq cfg s
  rw [gateAfterFeed, Scheduler.feedAudioQueue_run hi hrest h.before_end,
    Scheduler.updateBackgroundAdmission_run, ← BackgroundRenderGate.observe_closed hcfg]
  · rw [Scheduler.fedLead, ← Scheduler.fed_position cfg s]
    show BackgroundRenderGate.observe cfg _ (Scheduler.fed cfg s).sched.backgroundAllowed = true ↔ _
    rw [show (Scheduler.fed cfg s).sched.backgroundAllowed = false by rw [heq]; exact h.closed]
    rfl
  · exact hcursor ▸ hi
  · exact (hcursor ▸ hrest : CursorAt false (cursorView (Scheduler.fed cfg s)))
  · have hrequested : (Scheduler.fed cfg s).sched.playRequested = true := by
      rw [heq]
      exact h.requested
    simp [Scheduler.gateResets, h.policy, hrequested]

/-- While the queue holds nothing but blocks to be played, so it does when it is fed. -/
theorem GateWaits.fed_fresh (hcfg : cfg.Valid) (h : GateWaits cfg s (position s)) :
    freshBlocks s.shared.generation (position s) (Scheduler.fed cfg s).readyQueue.contents =
      (Scheduler.fed cfg s).readyQueue.contents := by
  have hall : ∀ b ∈ (Scheduler.fed cfg s).readyQueue.contents,
      b.generation = s.shared.generation ∧ position s ≤ b.firstFrame :=
    TimelineAudioPublisher.publishLoop_all hcfg (s := { s with
      sched.nextFrameToPublish := max s.sched.nextFrameToPublish (position s) }) h.queue
      fun samples frame slot hle => ⟨rfl, (le_max_right _ _).trans hle⟩
  refine List.filter_eq_self.mpr fun b hb => ?_
  obtain ⟨hg, hframe⟩ := hall b hb
  rw [isStale_eq_false.mpr ⟨hg.ge, fun _ => hframe⟩]
  rfl

/-- The lead reaches the high mark exactly if the cache holds the demand. -/
theorem GateWaits.lead_iff (hcfg : cfg.Valid) (h : GateWaits cfg s (position s))
    (hready : ReadyInv cfg kernel s) (hposition : BlockBoundary cfg (position s))
    (hcache : CacheInv cfg kernel s.render.cacheEntries s.render.versions s.render.history.stored) :
    cfg.scheduler.highWaterBlocks ≤ Scheduler.fedLead cfg s ↔
      ∀ f ∈ demandedFrames cfg (position s),
        Scheduler.cacheIsCurrent cfg (frameToChunk f) s.render = true := by
  have hB := hcfg.blockFrames_pos
  have hfed := Scheduler.fed_ready hcfg hready hcache hposition
  have hle := Scheduler.position_le_fed hcfg s
  have horder := hfed.order.fresh
  rw [Scheduler.fed_position] at horder
  have hsame : (Scheduler.fed cfg s).render = s.render ∧
      (Scheduler.fed cfg s).shared = s.shared := by
    obtain ⟨queue, last, heq⟩ := Scheduler.fed_eq cfg s
    rw [heq]
    exact ⟨rfl, rfl⟩
  obtain ⟨k, hk⟩ := Int.eq_ofNat_of_zero_le (hcfg.lowWater_nonneg.trans hcfg.lowWater_le)
  have hlead : Scheduler.fedLead cfg s = ((Scheduler.fed cfg s).sched.nextFrameToPublish -
      position s) / cfg.audio.audioBlockFrames := by
    rw [Scheduler.fedLead, TimelineAudioPublisher.readyLeadBlocks, max_eq_right (by omega)]
  rw [demandedFrames, hk, hlead, Int.le_ediv_iff_mul_le hB]
  constructor
  · -- What is published is in the cache.
    intro hreached f hf
    rw [← take_blocksFrom hcfg hposition.1 hfed.last_boundary.1 (by omega), ← horder] at hf
    obtain ⟨b, hb, rfl⟩ := List.mem_map.mp (List.mem_of_mem_take hf)
    obtain ⟨hqueued, hg, -⟩ := (mem_freshBlocks hfed.order.generation_le).mp hb
    have hcurrent := (hfed.blocks b hqueued hg).current
    rwa [hsame.1] at hcurrent
  · intro hcurrent
    by_contra hless
    obtain ⟨j, hj⟩ := exists_blocks hcfg hposition.1 hfed.last_boundary.1 hle
    have hjk : j < k := by
      have hlt : (j : Int) * cfg.audio.audioBlockFrames < k * cfg.audio.audioBlockFrames := by
        omega
      exact_mod_cast lt_of_mul_lt_mul_right hlt hB.le
    rcases Scheduler.fed_stops hcfg hposition.2.1 with hend | hmissing | hfull
    · have hremaining := h.remaining
      have hdvd := Int.dvd_sub hcfg.block_dvd_total hfed.last_boundary.1
      rw [hk] at hremaining
      have := Int.le_of_dvd (by omega) hdvd
      omega
    · have hmem : (Scheduler.fed cfg s).sched.nextFrameToPublish ∈ blocksFrom cfg (position s)
          (position s + k * cfg.audio.audioBlockFrames) := by
        rw [blocksFrom_add hcfg, hj]
        exact List.mem_map.mpr ⟨j, List.mem_range.mpr hjk, rfl⟩
      have hchunk := hcurrent _ hmem
      rw [Scheduler.cacheIsCurrent, ← hsame.1, hmissing] at hchunk
      cases hchunk
    · have hlength := congrArg List.length (h.fed_fresh hcfg)
      have hcapacity := hfed.capacity
      have hhigh := hcfg.highWater_le
      rw [← List.length_map, ← hsame.2, horder, length_blocksFrom, hj,
        show position s + j * cfg.audio.audioBlockFrames - position s =
          j * cfg.audio.audioBlockFrames by omega, Int.mul_ediv_cancel _ hB.ne'] at hlength
      rw [BoundedFifo.capacity, hfull, List.length_nil] at hcapacity
      omega

theorem GateWaits.reopens_iff (hcfg : cfg.Valid) (h : GateWaits cfg s (position s))
    (hready : ReadyInv cfg kernel s) (hrest : AtRest cfg s)
    (hcache : CacheInv cfg kernel s.render.cacheEntries s.render.versions s.render.history.stored) :
    gateAfterFeed cfg s = true ↔ DemandCovered cfg s (position s) := by
  have hposition := hrest.inv.ack.position_boundary
  rw [gateAfterFeed_eq hcfg hrest.inv.ack hrest.scheduler h,
    h.lead_iff hcfg hready hposition hcache, h.demand_current hcfg hposition.2.1]

/-! ## The urgent window -/

/-- The urgent window reaches the demanded frames if the high mark is within the prebuffer or the
demand is within the configured number of chunks. -/
theorem demand_before_urgentChunkEnd (hcfg : cfg.Valid) {frame f : Int}
    (hlt : frame < cfg.totalFrames)
    (hremaining : frame + cfg.scheduler.highWaterBlocks * cfg.audio.audioBlockFrames ≤
      cfg.totalFrames)
    (hwindow : cfg.scheduler.highWaterBlocks ≤ cfg.scheduler.prebufferBlocks ∨
      frame % chunkFrames + cfg.scheduler.highWaterBlocks * cfg.audio.audioBlockFrames ≤
        cfg.scheduler.urgentChunks * chunkFrames)
    (hf : f ∈ demandedFrames cfg frame) (hcount : frameToChunk f < cfg.chunkCount) :
    frameToChunk f < Scheduler.urgentChunkEnd cfg frame := by
  obtain ⟨h₀, h₁⟩ := mem_blocksFrom hcfg hf
  have hB := hcfg.blockFrames_pos
  have hchunk : 0 < chunkFrames := by decide
  rw [Scheduler.urgentChunkEnd, if_neg hlt.ne]
  dsimp only
  rcases hwindow with hprebuffer | hconfigured
  · -- The prebuffer range holds the demand.
    have hblocks := (Int.le_ediv_iff_mul_le hB).mpr (show cfg.scheduler.highWaterBlocks *
      cfg.audio.audioBlockFrames ≤ cfg.totalFrames - frame by omega)
    have hframes := Int.mul_le_mul_of_nonneg_right (le_min hprebuffer hblocks) hB.le
    rw [if_neg (by omega)]
    refine lt_max_of_lt_right (Int.lt_add_one_iff.mpr (Int.ediv_le_ediv hchunk ?_))
    omega
  · have hdiv := Int.emod_add_ediv_mul frame chunkFrames
    have hlast : frameToChunk f < frameToChunk frame + cfg.scheduler.urgentChunks := by
      refine Int.ediv_lt_of_lt_mul hchunk ?_
      rw [Int.add_mul, frameToChunk]
      omega
    split
    · omega
    · exact lt_max_of_lt_left (by omega)

/-- Such a demand is urgent. -/
theorem demand_urgent (hcfg : cfg.Valid) {sched : SchedulerState} {frame : Int}
    (hrequested : sched.playRequested = true) (hframe : BlockBoundary cfg frame)
    (hlt : frame < cfg.totalFrames)
    (hremaining : frame + cfg.scheduler.highWaterBlocks * cfg.audio.audioBlockFrames ≤
      cfg.totalFrames)
    (hwindow : cfg.scheduler.highWaterBlocks ≤ cfg.scheduler.prebufferBlocks ∨
      frame % chunkFrames + cfg.scheduler.highWaterBlocks * cfg.audio.audioBlockFrames ≤
        cfg.scheduler.urgentChunks * chunkFrames) :
    ∀ f ∈ demandedFrames cfg frame,
      urgentOrVisible cfg sched (frameToChunk f) frame = true := by
  intro f hf
  obtain ⟨h₀, h₁⟩ := mem_blocksFrom hcfg hf
  have hcount := mem_intRange.mp (frameToChunk_mem hcfg (hframe.2.1.trans h₀) (by omega))
  have hclamp : clampTimelineBoundary frame cfg.totalFrames = frame :=
    clampTimelineBoundary_of_mem hframe.2.1 hframe.2.2
  have hfirst : frameToChunk frame ≤ frameToChunk f := Int.ediv_le_ediv (by decide) h₀
  have hlast := demand_before_urgentChunkEnd hcfg hlt hremaining hwindow hf hcount.2
  simp only [urgentOrVisible, Scheduler.classifyChunk, hclamp, if_neg (show ¬(frameToChunk f < 0 ∨
    frameToChunk f ≥ cfg.chunkCount) by omega), hrequested, hlt, hfirst, hlast, and_self, if_true]
  rfl

/-- A gate whose demand is within the window always reopens. -/
theorem GateWaits.reopens_of_window (hcfg : cfg.Valid) (h : GateWaits cfg s (position s))
    (hready : ReadyInv cfg kernel s) (hrest : AtRest cfg s)
    (hcache : CacheInv cfg kernel s.render.cacheEntries s.render.versions s.render.history.stored)
    (hwindow : cfg.scheduler.highWaterBlocks ≤ cfg.scheduler.prebufferBlocks ∨
      position s % chunkFrames + cfg.scheduler.highWaterBlocks * cfg.audio.audioBlockFrames ≤
        cfg.scheduler.urgentChunks * chunkFrames) : gateAfterFeed cfg s = true :=
  (h.reopens_iff hcfg hready hrest hcache).mpr fun f hf => .inl <| demand_urgent hcfg h.requested
    hrest.inv.ack.position_boundary h.before_end h.remaining hwindow f hf

/-! ## Runs -/

/-- **A closed gate reopens exactly if it lets the demand through.** In every run with atomic
steps, once everything that the closed gate lets through is rendered, feeding the queue opens the
gate if and only if each chunk of the demand is urgent, visible or in the cache anyway. -/
theorem atomicRun_gateReopens_iff [Zero S] (cfg : AcceptedConfig) (kernel : RenderKernel S)
    (steps : List (AtomicStep S))
    (h : GateWaits cfg.toConfig (atomicRun cfg.toConfig kernel steps).state
      ((PlaybackProtocol.currentFrame cfg.toConfig).run
        (atomicRun cfg.toConfig kernel steps).state).1) :
    gateAfterFeed cfg.toConfig (atomicRun cfg.toConfig kernel steps).state = true ↔
      DemandCovered cfg.toConfig (atomicRun cfg.toConfig kernel steps).state
        ((PlaybackProtocol.currentFrame cfg.toConfig).run
          (atomicRun cfg.toConfig kernel steps).state).1 := by
  have hrest := atomicRun_rest cfg kernel steps
  rw [PlaybackProtocol.currentFrame_run_rest hrest.inv.ack hrest.scheduler] at h ⊢
  exact h.reopens_iff cfg.valid (atomicRun_ready cfg kernel steps) hrest
    (engineRun_renderInv cfg.toConfig kernel _).cache

/-- An engine with two chunks, of which one is urgent and both are needed to open the gate. -/
def narrowWindowConfig : AcceptedConfig where
  totalFrames := 4096
  audio := { audioBlockFrames := 2048, channelCount := 1 }
  scheduler := { prebufferBlocks := 0, lowWaterBlocks := 1, highWaterBlocks := 2, urgentChunks := 1 }
  int32 := by decide
  accepted := by decide

/-- The engine has been asked to play with an empty viewport, the gate has closed, and all the work
that it lets through is done. -/
def urgentChunkRendered : List (AtomicStep ℤ) :=
  [.engineStart,
   .scheduler (.handleCommand { type := .setViewport }),
   .scheduler (.handleCommand { type := .play }),
   .scheduler .updateBackgroundAdmission,
   .scheduler .scheduleRenderJobs,
   .scheduler (.dispatchPendingTiles fun _ => false)] ++
  List.replicate 4 (.workerLoop 0 {}) ++
  [.scheduler (.dispatchPendingTiles fun _ => false)] ++
  List.replicate 4 (.workerLoop 0 {}) ++
  [.scheduler (.collectFinishedJobs 1)]

/-- The closed gate lets through a chunk of the two that the demand takes, and stays closed. -/
theorem atomicRun_gateStaysClosed :
    GateWaits narrowWindowConfig.toConfig
        (atomicRun narrowWindowConfig.toConfig (fun _ f _ => f) urgentChunkRendered).state
        ((PlaybackProtocol.currentFrame narrowWindowConfig.toConfig).run
          (atomicRun narrowWindowConfig.toConfig (fun _ f _ => f) urgentChunkRendered).state).1 ∧
      gateAfterFeed narrowWindowConfig.toConfig
        (atomicRun narrowWindowConfig.toConfig (fun _ f _ => f) urgentChunkRendered).state =
          false := by
  decide +kernel

theorem atomicRun_gateReopens_iff_narrowWindow :
    gateAfterFeed narrowWindowConfig.toConfig
        (atomicRun narrowWindowConfig.toConfig (fun _ f _ => f) urgentChunkRendered).state = true ↔
      DemandCovered narrowWindowConfig.toConfig
        (atomicRun narrowWindowConfig.toConfig (fun _ f _ => f) urgentChunkRendered).state
        ((PlaybackProtocol.currentFrame narrowWindowConfig.toConfig).run
          (atomicRun narrowWindowConfig.toConfig (fun _ f _ => f) urgentChunkRendered).state).1 :=
  atomicRun_gateReopens_iff narrowWindowConfig (fun _ f _ => f) urgentChunkRendered
    (by decide +kernel)

/-- **A wide window is enough.** The gate always reopens if the high mark is at most the prebuffer,
or if the blocks up to it end in the urgent chunks. -/
theorem atomicRun_gateReopens_of_window [Zero S] (cfg : AcceptedConfig) (kernel : RenderKernel S)
    (steps : List (AtomicStep S))
    (h : GateWaits cfg.toConfig (atomicRun cfg.toConfig kernel steps).state
      ((PlaybackProtocol.currentFrame cfg.toConfig).run
        (atomicRun cfg.toConfig kernel steps).state).1)
    (hwindow : cfg.scheduler.highWaterBlocks ≤ cfg.scheduler.prebufferBlocks ∨
      ((PlaybackProtocol.currentFrame cfg.toConfig).run
        (atomicRun cfg.toConfig kernel steps).state).1 % chunkFrames +
          cfg.scheduler.highWaterBlocks * cfg.audio.audioBlockFrames ≤
        cfg.scheduler.urgentChunks * chunkFrames) :
    gateAfterFeed cfg.toConfig (atomicRun cfg.toConfig kernel steps).state = true := by
  have hrest := atomicRun_rest cfg kernel steps
  rw [PlaybackProtocol.currentFrame_run_rest hrest.inv.ack hrest.scheduler] at h hwindow
  exact h.reopens_of_window cfg.valid (atomicRun_ready cfg kernel steps) hrest
    (engineRun_renderInv cfg.toConfig kernel _).cache hwindow

end Anasa
