import Anasa.Playback.PrebufferRuns

/-!
# What playback guarantees

1. *Never stale audio*: a callback that plays a block plays what the cache holds for its position
   at that moment.
2. *The lead is real*: the lead that the scheduler computes from two cursors is the number of
   blocks the callback can play next without a gap.
-/

namespace Anasa

open Concurrency AudioBlockProcessor

variable {S : Type}

/-! ## Never stale audio -/

/-- The frame that a callback expects once it follows the latest generation. -/
def adoptedFrame (cfg : Config) (s : EngineState S) : Int :=
  ((followGeneration cfg).run s).2.audio.expectedBlockStartFrame

/-- If the callback plays a block, it writes to every enabled channel what the cache holds for the
current version of the frames it expected. -/
def PlaysCachedAudio [Zero S] (cfg : Config) (s : EngineState S) (output : AudioOutputBuffer S) :
    Prop :=
  ∀ result played s', (processBlock cfg output).run s = ((result, played), s') →
    result = { playing := true, underrun := false } →
      ∃ samples,
        RenderCache.findCurrent cfg s'.render (frameToChunk (adoptedFrame cfg s)) = some samples ∧
        ∀ (channel : ℕ) enabled, output.channels[channel]? = some (some enabled) →
          ∃ destination, played.channels[channel]? = some (some destination) ∧
            ∀ frame, 0 ≤ frame → frame < cfg.audio.audioBlockFrames →
              destination frame = samples.sample channel (adoptedFrame cfg s % chunkFrames + frame)

section

variable {cfg : Config} {kernel : RenderKernel S} {s : EngineState S}

theorem adoptedFrame_eq (hrest : AtRest cfg s) : adoptedFrame cfg s = position s := by
  obtain ⟨history, -, hrun⟩ := followGeneration_run hrest
  rw [adoptedFrame, hrun]
  rfl

/-- An enabled channel stays enabled. -/
theorem fillSilence_channel [Zero S] {output : AudioOutputBuffer S} {channel : ℕ}
    {enabled : Int → S} (h : output.channels[channel]? = some (some enabled)) :
    ∃ silent, output.fillSilence.channels[channel]? = some (some silent) := by
  simp only [AudioOutputBuffer.fillSilence, List.getElem?_map, h, Option.map_some]
  exact ⟨_, rfl⟩

/-- What a block leaves in an enabled channel. -/
theorem copyBlock_channel {blockFrames : Int} {block : AudioBlock S} {output : AudioOutputBuffer S}
    {channel : ℕ} {enabled : Int → S} (h : output.channels[channel]? = some (some enabled)) :
    ∃ destination,
      (output.copyBlock blockFrames block).channels[channel]? = some (some destination) ∧
      ∀ frame, 0 ≤ frame → frame < blockFrames →
        destination frame = block.samples.sample channel frame := by
  simp only [AudioOutputBuffer.copyBlock, List.getElem?_mapIdx, h, Option.map_some]
  exact ⟨_, rfl, fun frame h₀ h₁ => if_pos ⟨h₀, h₁⟩⟩

/-- A published block holds what the cache holds. -/
theorem Published.cached {r : RenderState S} {b : AudioBlock S} (hcfg : cfg.Valid)
    (h : Published cfg kernel r b)
    (hcache : CacheInv cfg kernel r.cacheEntries r.versions r.history.stored) :
    ∃ samples, RenderCache.findCurrent cfg r (frameToChunk b.firstFrame) = some samples ∧
      ∀ channel frame, 0 ≤ channel → channel < cfg.audio.channelCount → 0 ≤ frame →
        frame < cfg.audio.audioBlockFrames →
        b.samples.sample channel frame =
          samples.sample channel (b.firstFrame % chunkFrames + frame) := by
  obtain ⟨samples, hfind⟩ := Option.isSome_iff_exists.mp h.current
  refine ⟨samples, hfind, fun channel frame hc₀ hc₁ hf₀ hf₁ => ?_⟩
  obtain ⟨h₀, h₁⟩ := block_in_chunk hcfg h.boundary
  have hdiv := Int.emod_add_ediv_mul b.firstFrame chunkFrames
  unfold firstFrameOfChunk frameToChunk at h₀ h₁
  rw [h.samples channel frame hc₀ hc₁ hf₀ hf₁, hcache.findCurrent hfind channel _ hc₀ hc₁
    (by omega) (by omega)]
  congr 1
  unfold frameToChunk
  omega

theorem ReadyInv.playsCachedAudio [Zero S] (hcfg : cfg.Valid) (h : ReadyInv cfg kernel s)
    (hrender : RenderInv cfg kernel s.render) (hrest : AtRest cfg s)
    (output : AudioOutputBuffer S) : PlaysCachedAudio cfg s output := by
  intro result played s' hrun hresult
  rw [adoptedFrame_eq hrest]
  rcases processBlock_cases hrest output with ⟨-, silence, heq⟩ | ⟨-, history, -, hcase⟩
  · rw [heq] at hrun
    cases hrun
    cases hresult
  · rcases hcase with ⟨-, heq⟩ | ⟨-, -, ⟨block, hfront, hexact, heq⟩ | ⟨-, heq⟩⟩
    · rw [heq] at hrun
      cases hrun
      cases hresult
    · rw [heq] at hrun
      cases hrun
      simp only [isExactBlock, Bool.and_eq_true, beq_iff_eq, decide_eq_true_eq] at hexact
      obtain ⟨⟨⟨⟨hg, hframe⟩, -⟩, -⟩, hchannels⟩ := hexact
      have hmem : block ∈ s.readyQueue.contents :=
        (List.dropWhile_sublist _).subset (List.mem_of_mem_head? hfront)
      obtain ⟨samples, hfind, hsamples⟩ := (h.blocks block hmem hg).cached hcfg hrender.cache
      rw [hframe] at hfind hsamples
      refine ⟨samples, hfind, fun channel enabled henabled => ?_⟩
      have hlt : channel < output.channels.length := (List.getElem?_eq_some_iff.mp henabled).1
      have hslot := (h.slots.1 block hmem).1
      obtain ⟨silent, hsilent⟩ := fillSilence_channel henabled
      obtain ⟨destination, hdestination, hcopied⟩ := copyBlock_channel hsilent
      refine ⟨destination, hdestination, fun frame h₀ h₁ => ?_⟩
      rw [hcopied frame h₀ h₁]
      exact hsamples channel frame (Int.natCast_nonneg _) (by omega) h₀ h₁
    · rw [heq] at hrun
      cases hrun
      cases hresult

end

/-- **Never stale or misplaced audio.** In every run with atomic steps, a callback that plays a
block plays the current content of the cache at the frame it expects. -/
theorem atomicRun_playsCachedAudio [Zero S] (cfg : AcceptedConfig) (kernel : RenderKernel S)
    (steps : List (AtomicStep S)) (output : AudioOutputBuffer S) :
    PlaysCachedAudio cfg.toConfig (atomicRun cfg.toConfig kernel steps).state output :=
  (atomicRun_ready cfg kernel steps).playsCachedAudio cfg.valid (engineRun_renderInv _ kernel _)
    (atomicRun_rest cfg kernel steps) output

/-! ### A rendered chunk -/

/-- An engine with one chunk that starts to play with two blocks. -/
def twoBlockConfig : AcceptedConfig where
  totalFrames := 2048
  audio := { channelCount := 1 }
  scheduler := { prebufferBlocks := 2 }
  int32 := by decide
  accepted := by decide

/-- The tiles that the executor takes at a time are rendered. -/
def renderRound : List (AtomicStep ℤ) :=
  .scheduler (.dispatchPendingTiles fun _ => false) :: List.replicate 4 (.workerLoop 0 {})

/-- The engine has been asked to play, and the chunk is in the cache. -/
def chunkRendered : List (AtomicStep ℤ) :=
  [.engineStart, .scheduler (.handleCommand { type := .play }), .scheduler .scheduleRenderJobs] ++
  renderRound ++ renderRound ++ [.scheduler (.collectFinishedJobs 1)]

/-- The scheduler feeds the queue. -/
def feedStep : AtomicStep S := ⟨.whole (.scheduler .feedAudioQueue), rfl⟩

/-- An output for the channel of the engine. -/
def oneChannel : AudioOutputBuffer ℤ := ⟨[some fun _ => 0], 128⟩

/-- The chunk is published, and its first block has been played. -/
def firstBlockPlayed : List (AtomicStep ℤ) :=
  chunkRendered ++ [feedStep, ⟨.whole (.processBlock oneChannel), rfl⟩]

/-- The second block is played into the channel. -/
theorem atomicRun_playsCachedAudio_secondBlock :
    PlaysCachedAudio twoBlockConfig.toConfig
      (atomicRun twoBlockConfig.toConfig (fun _ f _ => f) firstBlockPlayed).state oneChannel ∧
    adoptedFrame twoBlockConfig.toConfig
      (atomicRun twoBlockConfig.toConfig (fun _ f _ => f) firstBlockPlayed).state = 128 ∧
    ((processBlock twoBlockConfig.toConfig oneChannel).run
      (atomicRun twoBlockConfig.toConfig (fun _ f _ => f) firstBlockPlayed).state).1.1 =
        { playing := true, underrun := false } ∧
    ((processBlock twoBlockConfig.toConfig oneChannel).run
      (atomicRun twoBlockConfig.toConfig (fun _ f _ => f)
        firstBlockPlayed).state).1.2.channels.map (·.map (· 5)) = [some 133] :=
  ⟨atomicRun_playsCachedAudio twoBlockConfig _ firstBlockPlayed oneChannel, by decide +kernel,
    by decide +kernel, by decide +kernel⟩

/-! ## The lead -/

/-- The results of so many callbacks in a row. -/
def callbackResults [Zero S] (cfg : Config) (output : AudioOutputBuffer S) :
    ℕ → EngineState S → List AudioProcessResult
  | 0, _ => []
  | n + 1, s =>
    ((processBlock cfg output).run s).1.1 ::
      callbackResults cfg output n ((processBlock cfg output).run s).2

/-- The state in which the callback consumes. -/
def consuming (s : EngineState S) : EngineState S :=
  { s with shared := { s.shared with stop := false, playing := true } }

/-- What the queue holds for the consumer: the blocks of the latest generation from its position
on. -/
def queuedFrames (cfg : Config) (s : EngineState S) : List Int :=
  (s.readyQueue.contents.filter fun b => b.generation = s.shared.generation ∧
    ((PlaybackProtocol.currentFrame cfg).run s).1 ≤ b.firstFrame).map (·.firstFrame)

/-- The lead says what the queue holds. -/
structure LeadIsReal [Zero S] (cfg : Config) (s : EngineState S) : Prop where
  increasing : s.readyQueue.contents.Pairwise BlockBefore
  blocks : queuedFrames cfg s =
    blocksFrom cfg ((PlaybackProtocol.currentFrame cfg).run s).1 s.sched.nextFrameToPublish
  /-- The lead is the number of blocks that callbacks play before the first gap. -/
  lead : ∀ output, EngineOutput cfg output → ∀ n : ℕ,
    (((callbackResults cfg output n (consuming s)).takeWhile
        (· = { playing := true, underrun := false })).length : Int) =
      min (n : Int) ((Scheduler.readyLeadBlocks cfg).run s).1
  /-- If the rest of the timeline is published, all of it is in the queue. -/
  entireRemainder : ((PlaybackProtocol.currentFrame cfg).run s).1 < cfg.totalFrames →
    TimelineAudioPublisher.entireRemainderPublished cfg s.sched.nextFrameToPublish = true →
    queuedFrames cfg s =
      blocksFrom cfg ((PlaybackProtocol.currentFrame cfg).run s).1 cfg.totalFrames

section

variable {cfg : Config} {kernel : RenderKernel S} {s : EngineState S}

theorem readyLeadBlocks_of_le {frame last : Int} (h : last ≤ frame) :
    TimelineAudioPublisher.readyLeadBlocks cfg last frame = 0 := by
  rw [TimelineAudioPublisher.readyLeadBlocks, max_eq_left (by omega), Int.zero_ediv]

/-- The lead of a consumer that has passed one block. -/
theorem readyLeadBlocks_succ (hcfg : cfg.Valid) {frame last : Int}
    (hf : cfg.audio.audioBlockFrames ∣ frame) (hl : cfg.audio.audioBlockFrames ∣ last)
    (h : frame < last) :
    TimelineAudioPublisher.readyLeadBlocks cfg last frame =
      TimelineAudioPublisher.readyLeadBlocks cfg last (frame + cfg.audio.audioBlockFrames) + 1 := by
  have hB := hcfg.blockFrames_pos
  have hle : cfg.audio.audioBlockFrames ≤ last - frame :=
    Int.le_of_dvd (by omega) (Int.dvd_sub hl hf)
  unfold TimelineAudioPublisher.readyLeadBlocks
  rw [max_eq_right (by omega), max_eq_right (by omega),
    show last - frame = last - (frame + cfg.audio.audioBlockFrames) +
      1 * cfg.audio.audioBlockFrames by omega, Int.add_mul_ediv_right _ _ hB.ne']

theorem readyLeadBlocks_nonneg (hcfg : cfg.Valid) (frame last : Int) :
    0 ≤ TimelineAudioPublisher.readyLeadBlocks cfg last frame :=
  Int.ediv_nonneg (le_max_left _ _) hcfg.blockFrames_pos.le

theorem ReadyInv.queuedFrames_eq (h : ReadyInv cfg kernel s) (hrest : AtRest cfg s) :
    queuedFrames cfg s = blocksFrom cfg (position s) s.sched.nextFrameToPublish := by
  rw [queuedFrames, PlaybackProtocol.currentFrame_run_rest hrest.inv.ack hrest.scheduler,
    ← h.order.fresh]
  refine congrArg (List.map _) (List.filter_congr fun b hb => ?_)
  have hmem : b ∈ freshBlocks s.shared.generation (position s) s.readyQueue.contents ↔ _ :=
    mem_freshBlocks h.order.generation_le
  rw [freshBlocks, List.mem_filter] at hmem
  rw [Bool.eq_iff_iff, decide_eq_true_eq]
  exact ⟨fun hfresh => (hmem.mpr ⟨hb, hfresh⟩).2, fun hfresh => (hmem.mp ⟨hb, hfresh⟩).2⟩

variable [Zero S]

/-- Callbacks in a row play the published blocks one after the other. -/
theorem callbackResults_length (hcfg : cfg.Valid) (h : ReadyInv cfg kernel s)
    (hrest : AtRest cfg s) (hstop : s.shared.stop = false) (hplaying : s.shared.playing = true)
    {output : AudioOutputBuffer S} (houtput : EngineOutput cfg output) (n : ℕ) :
    (((callbackResults cfg output n s).takeWhile
        (· = { playing := true, underrun := false })).length : Int) =
      min (n : Int) (TimelineAudioPublisher.readyLeadBlocks cfg s.sched.nextFrameToPublish
        (position s)) := by
  induction n generalizing s with
  | zero =>
    have hlead := readyLeadBlocks_nonneg hcfg (position s) s.sched.nextFrameToPublish
    rw [callbackResults, List.takeWhile_nil, List.length_nil]
    omega
  | succ n ih =>
    rw [callbackResults]
    rcases lt_or_ge (position s) s.sched.nextFrameToPublish with hlt | hle
    · obtain ⟨played, history, queue, -, hrun⟩ :=
        processBlock_plays hcfg h hrest houtput hstop hplaying hlt
      have hnext := processBlock_ready hcfg h hrest output
      have hnextRest := hrest.processBlock hcfg output
      rw [hrun] at hnext hnextRest ⊢
      have hrec := ih hnext hnextRest hstop hplaying
      rw [advanced_position] at hrec
      have hlead := readyLeadBlocks_succ hcfg hrest.inv.ack.position_boundary.1
        h.last_boundary.1 hlt
      rw [List.takeWhile_cons_of_pos (by simp), List.length_cons]
      have hlast : (advanced cfg (cleaned s history) s.shared.generation (position s)
        queue).sched.nextFrameToPublish = s.sched.nextFrameToPublish := rfl
      rw [hlast] at hrec
      rw [Nat.cast_succ, hrec, hlead, Nat.cast_succ]
      omega
    · rw [List.takeWhile_cons_of_neg (by simpa using processBlock_not_plays hcfg h hrest output hle),
        readyLeadBlocks_of_le hle, List.length_nil]
      omega

theorem ReadyInv.leadIsReal (hcfg : cfg.Valid) (h : ReadyInv cfg kernel s)
    (hrest : AtRest cfg s) : LeadIsReal cfg s := by
  have hframe := PlaybackProtocol.currentFrame_run_rest hrest.inv.ack hrest.scheduler
  have hblocks := h.queuedFrames_eq hrest
  refine ⟨h.order.increasing, by rw [hblocks, hframe], fun output houtput n => ?_,
    fun hlt hentire => ?_⟩
  · have hconsuming : ReadyInv cfg kernel (consuming s) := h.of_view rfl
    rw [Scheduler.readyLeadBlocks, Prog.run_bind, hframe]
    exact callbackResults_length hcfg hconsuming ⟨hrest.inv, hrest.scheduler, hrest.audio⟩ rfl rfl
      houtput n
  · rw [TimelineAudioPublisher.entireRemainderPublished, decide_eq_true_eq] at hentire
    rw [hblocks, hframe, le_antisymm h.last_boundary.2.2 hentire]

end

/-- **The lead is real.** In every run with atomic steps the queue is strictly increasing, holds
the blocks from the position of the consumer up to the cursor of the publisher, and the lead is the
number of blocks that the callback can play next. -/
theorem atomicRun_leadIsReal [Zero S] (cfg : AcceptedConfig) (kernel : RenderKernel S)
    (steps : List (AtomicStep S)) :
    LeadIsReal cfg.toConfig (atomicRun cfg.toConfig kernel steps).state :=
  (atomicRun_ready cfg kernel steps).leadIsReal cfg.valid (atomicRun_rest cfg kernel steps)

/-! ## The prebuffer -/

/-- The callbacks after `before`, as far as they have come, play the prebuffer that starts at
`frame` in order. -/
def PlaysPrebuffer (cfg : Config) (frame : Int) (before : List (Int × AudioProcessResult))
    (s : EngineState S) : Prop :=
  ∃ results, s.history.callbacks = results ++ before ∧
    results.reverse.take (prebufferOf cfg frame) =
      playedBlocks cfg frame (min (prebufferOf cfg frame) results.length)

section

variable [Zero S]

/-- What the busy threads do leaves playback alone. -/
theorem atomicRun_busyPreserve (cfg : Config) (kernel : RenderKernel S)
    (steps : List (AtomicStep S)) : (atomicRun cfg kernel steps).BusyPreserve contentView := by
  refine (Pool.run_induction (v := contentView) (P := fun _ => True)
    (Pool.busyPreserve_idle _ _) trivial (fun _ _ _ _ => trivial) (fun call hcall => ?_)
    (fun _ _ _ _ _ => trivial) _ (fun m hm => ?_ : ∀ m ∈ _, atomicMove m = true)).1
  · cases call with
    | workerLoop worker faults => exact Executor.workerLoop_contentView cfg kernel faults worker
    | _ => cases hcall
  · obtain ⟨step, -, rfl⟩ := List.mem_map.mp hm
    exact step.2

theorem atomicRun_feedStep (cfg : Config) (kernel : RenderKernel S)
    (steps : List (AtomicStep S)) (h : (atomicRun cfg kernel steps).state.sched.started = true) :
    (atomicRun cfg kernel (steps ++ [feedStep])).state =
      ((Scheduler.feedAudioQueue cfg).run (atomicRun cfg kernel steps).state).2 := by
  have hidle := atomicRun_thread cfg kernel (steps.map Subtype.val) (fun m hm => by
    obtain ⟨step, -, rfl⟩ := List.mem_map.mp hm
    exact step.2) (i := .scheduler) (by simp)
  have hrun : atomicRun cfg kernel (steps ++ [feedStep]) =
      Pool.apply (engineMachine cfg kernel) (atomicRun cfg kernel steps) feedStep.1 := by
    rw [atomicRun, List.map_append, engineRun, Pool.run_append]
    rfl
  have hthread : ((atomicRun cfg kernel steps).thread .scheduler).isNone = true := by
    rw [atomicRun, hidle]
    rfl
  rw [hrun]
  simp only [feedStep, Pool.apply, engineMachine, Call.thread, hthread, if_true, Call.program,
    Prog.run_bind, Prog.run_read, h, SchedulerCall.program]

/-- **The prebuffer is played.** Once `feedAudioQueue` has started playback, in every run without
a command that moves or suspends it and without a stop of the engine, the next callbacks play the
blocks of the prebuffer in order and without an underrun, whatever else is published, collected or
scheduled in between. -/
theorem quietRun_playsPrebuffer (cfg : AcceptedConfig) (kernel : RenderKernel S)
    (steps : List (AtomicStep S))
    (hstarts : FeedStarts cfg.toConfig (atomicRun cfg.toConfig kernel steps).state)
    (later : List (Move ThreadId (QuietCall cfg.toConfig S))) :
    PlaysPrebuffer cfg.toConfig
      ((PlaybackProtocol.currentFrame cfg.toConfig).run
        (atomicRun cfg.toConfig kernel steps).state).1
      (atomicRun cfg.toConfig kernel (steps ++ [feedStep])).state.history.callbacks
      (Pool.run (quietMachine cfg.toConfig kernel) later
        (atomicRun cfg.toConfig kernel (steps ++ [feedStep]))).state := by
  have hrest := atomicRun_rest cfg kernel steps
  have hstep := atomicRun_feedStep cfg.toConfig kernel steps hstarts.started
  have hfed := atomicRun_ready cfg kernel (steps ++ [feedStep])
  have hfedRest := atomicRun_rest cfg kernel (steps ++ [feedStep])
  have hbusy := atomicRun_busyPreserve cfg.toConfig kernel (steps ++ [feedStep])
  rw [PlaybackProtocol.currentFrame_run_rest hrest.inv.ack hrest.scheduler]
  generalize hframe : position (atomicRun cfg.toConfig kernel steps).state = frame
  have hlast := prebufferOf_boundary cfg.valid (hframe ▸ hrest.inv.ack.position_boundary)
  have hinv : PrebufferInv cfg.toConfig
      (atomicRun cfg.toConfig kernel (steps ++ [feedStep])).state.history.callbacks frame
      (prebufferOf cfg.toConfig frame)
      (atomicRun cfg.toConfig kernel (steps ++ [feedStep])).state := by
    refine ⟨[], rfl, by simp [playedBlocks], fun hpos => ?_⟩
    rw [hstep] at hfed hfedRest ⊢
    subst hframe
    simpa using hstarts.prebuffered cfg.valid (atomicRun_ready cfg kernel steps) hrest hfed
      hfedRest hpos
  have hsound : (prebufferDiscipline cfg.valid kernel
      (atomicRun cfg.toConfig kernel (steps ++ [feedStep])).state.history.callbacks frame
      (prebufferOf cfg.toConfig frame) hlast).Sound
        (atomicRun cfg.toConfig kernel (steps ++ [feedStep])) := by
    refine ⟨hinv, fun i => ?_⟩
    rcases hthread : (atomicRun cfg.toConfig kernel (steps ++ [feedStep])).thread i with - | p
    · trivial
    · exact Quiet.of_content (hbusy i p hthread) _ hinv trivial
  obtain ⟨results, hcallbacks, hplayed, -⟩ := (hsound.run later).inv
  exact ⟨results, hcallbacks, hplayed⟩

/-- A callback for the channel of the engine. -/
def quietCallback : QuietCall twoBlockConfig.toConfig ℤ :=
  ⟨.processBlock ⟨[some fun _ => 0], 128⟩, rfl, rfl, rfl⟩

/-- Two callbacks with a feed in the middle of which the second one comes. -/
theorem quietRun_playsPrebuffer_twoBlocks :
    PlaysPrebuffer twoBlockConfig.toConfig
      ((PlaybackProtocol.currentFrame twoBlockConfig.toConfig).run
        (atomicRun twoBlockConfig.toConfig (fun _ f _ => f) chunkRendered).state).1
      (atomicRun twoBlockConfig.toConfig (fun _ f _ => f)
        (chunkRendered ++ [feedStep])).state.history.callbacks
      (Pool.run (quietMachine twoBlockConfig.toConfig fun _ f _ => f)
        [.whole quietCallback, .start ⟨.scheduler .feedAudioQueue, trivial⟩, .access .scheduler,
          .access .scheduler, .whole quietCallback]
        (atomicRun twoBlockConfig.toConfig (fun _ f _ => f)
          (chunkRendered ++ [feedStep]))).state := by
  have hstarts : (atomicRun twoBlockConfig.toConfig (fun _ f _ => f)
          chunkRendered).state.sched.started = true ∧
      (atomicRun twoBlockConfig.toConfig (fun _ f _ => f)
          chunkRendered).state.shared.stop = false ∧
      (atomicRun twoBlockConfig.toConfig (fun _ f _ => f)
          chunkRendered).state.shared.playing = false ∧
      ((Scheduler.feedAudioQueue twoBlockConfig.toConfig).run
        (atomicRun twoBlockConfig.toConfig (fun _ f _ => f)
          chunkRendered).state).2.shared.playing = true := by
    decide +kernel
  exact quietRun_playsPrebuffer twoBlockConfig (fun _ f _ => f) chunkRendered
    ⟨hstarts.1, hstarts.2.1, hstarts.2.2.1, hstarts.2.2.2⟩ _

end

end Anasa
