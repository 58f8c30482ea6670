import Anasa.Playback.StartWindow

/-!
# The supply of audio

What the publisher is ahead of the consumer while playback goes on. `feedAudioQueue` publishes the
prebuffer again if it finds the urgent window in the cache and no stale block in the queue
(`fed_supplied`), and a callback leaves no stale block behind (`processBlock_next`): so the
prebuffer is what may be played between two calls of `feedAudioQueue`.
-/

namespace Anasa

open Concurrency AudioBlockProcessor

variable {S : Type} {cfg : Config} {kernel : RenderKernel S} {s s' : EngineState S}

/-- The queue holds nothing but blocks to play. -/
def NoneStale (s : EngineState S) : Prop :=
  ∀ b ∈ s.readyQueue.contents, b.generation = s.shared.generation ∧ position s ≤ b.firstFrame

/-- So many blocks from the position of the consumer on are published, as far as there are. -/
def Supplied (cfg : Config) (blocks : Int) (s : EngineState S) : Prop :=
  cfg.totalFrames ≤ s.sched.nextFrameToPublish ∨
    position s + blocks * cfg.audio.audioBlockFrames ≤ s.sched.nextFrameToPublish

/-- The chunks of the urgent window of the position are in the cache. -/
def UrgentCached (cfg : Config) (frame : Int) (s : EngineState S) : Prop :=
  ∀ chunk, frameToChunk frame ≤ chunk → chunk < Scheduler.urgentChunkEnd cfg frame →
    Scheduler.cacheIsCurrent cfg chunk s.render = true

theorem Supplied.mono (hcfg : cfg.Valid) {blocks blocks' : Int} (h : Supplied cfg blocks s)
    (hle : blocks' ≤ blocks) : Supplied cfg blocks' s := by
  apply h.imp_right
  intro hnext
  have := Int.mul_le_mul_of_nonneg_right hle hcfg.blockFrames_pos.le
  omega

theorem Supplied.lt (hcfg : cfg.Valid) {blocks : Int} (h : Supplied cfg blocks s)
    (hpos : 0 < blocks) (hlt : position s < cfg.totalFrames) :
    position s < s.sched.nextFrameToPublish := by
  rcases h with hend | hnext
  · exact hlt.trans_le hend
  · have := Int.mul_pos hpos hcfg.blockFrames_pos
    omega

/-! ## Feeding -/

/-- The lead of a full queue without stale blocks. -/
theorem ReadyInv.full_lead (hcfg : cfg.Valid) (h : ReadyInv cfg kernel s) (hclean : NoneStale s)
    (hle : position s ≤ s.sched.nextFrameToPublish) (hfull : s.readyQueue.free = []) :
    cfg.readyQueueCapacity * cfg.audio.audioBlockFrames ≤
      s.sched.nextFrameToPublish - position s := by
  have hfresh : freshBlocks s.shared.generation (position s) s.readyQueue.contents =
      s.readyQueue.contents := by
    apply List.filter_eq_self.mpr
    intro b hb
    rw [Bool.not_eq_true', isStale_eq_false]
    exact ⟨(hclean b hb).1.ge, fun _ => (hclean b hb).2⟩
  have hcapacity : s.readyQueue.contents.length = cfg.readyQueueCapacity := by
    rw [← h.capacity, BoundedFifo.capacity, hfull, List.length_nil, Nat.add_zero]
  have hlength := congrArg List.length h.order.fresh
  rw [hfresh, List.length_map, length_blocksFrom, hcapacity] at hlength
  have hblocks := Int.ediv_nonneg (show 0 ≤ s.sched.nextFrameToPublish - position s by omega)
    hcfg.blockFrames_pos.le
  rw [hlength, Int.toNat_of_nonneg hblocks]
  exact Int.ediv_mul_le _ hcfg.blockFrames_pos.ne'

namespace Scheduler

theorem fed_shared (cfg : Config) (s : EngineState S) : (fed cfg s).shared = s.shared := by
  obtain ⟨queue, last, heq⟩ := fed_eq cfg s
  rw [heq]

theorem fed_render (cfg : Config) (s : EngineState S) : (fed cfg s).render = s.render := by
  obtain ⟨queue, last, heq⟩ := fed_eq cfg s
  rw [heq]

theorem next_le_fed (hcfg : cfg.Valid) (s : EngineState S) :
    s.sched.nextFrameToPublish ≤ (fed cfg s).sched.nextFrameToPublish :=
  (le_max_left s.sched.nextFrameToPublish (position s)).trans
    (TimelineAudioPublisher.le_publishLoop hcfg s.shared.generation
      (TimelineAudioPublisher.publishPasses cfg)
      { s with sched.nextFrameToPublish := max s.sched.nextFrameToPublish (position s) })

theorem fed_noneStale (hcfg : cfg.Valid) (h : NoneStale s) : NoneStale (fed cfg s) := by
  unfold NoneStale
  rw [fed_shared, fed_position]
  exact TimelineAudioPublisher.publishLoop_all hcfg h fun _ _ _ hlast =>
    ⟨rfl, (le_max_right _ _).trans hlast⟩

/-- **The prebuffer is published again**: publishing ends at the end of the timeline, behind the
urgent window, or with a full queue. -/
theorem fed_supplied (hcfg : cfg.Valid) (hfed : ReadyInv cfg kernel (fed cfg s))
    (hposition : BlockBoundary cfg (position s)) (hlt : position s < cfg.totalFrames)
    (hcached : UrgentCached cfg (position s) s)
    (hqueue : NoneStale s ∨ Supplied cfg cfg.scheduler.prebufferBlocks s) :
    Supplied cfg cfg.scheduler.prebufferBlocks (fed cfg s) := by
  have hB := hcfg.blockFrames_pos
  have hle := position_le_fed hcfg s
  unfold Supplied
  rw [fed_position]
  rcases hqueue with hclean | hsupplied
  · rcases fed_stops hcfg hposition.2.1 (s := s) with hend | hmissing | hfull
    · refine .inl (not_lt.mp fun hbefore => ?_)
      have := add_le_of_dvd_of_lt hfed.last_boundary.1 hcfg.block_dvd_total hbefore
      omega
    · rcases lt_or_ge (fed cfg s).sched.nextFrameToPublish cfg.totalFrames with hbefore | hend
      · refine .inr ?_
        have hbehind : urgentChunkEnd cfg (position s) ≤
            frameToChunk (fed cfg s).sched.nextFrameToPublish := by
          apply not_lt.mp
          intro hin
          have hcurrent := hcached (frameToChunk (fed cfg s).sched.nextFrameToPublish)
            (Int.ediv_le_ediv (by decide) hle) hin
          rw [cacheIsCurrent, ← fed_render cfg s, hmissing] at hcurrent
          cases hcurrent
        have := urgentChunkEnd_suffices hcfg hposition hlt hle hbefore hbehind
        omega
      · exact .inl hend
    · have hlead := hfed.full_lead hcfg (fed_noneStale hcfg hclean)
        (by rwa [fed_position]) hfull
      rw [fed_position] at hlead
      have := Int.mul_le_mul_of_nonneg_right hcfg.prebuffer_le hB.le
      exact .inr (by omega)
  · have hnext := next_le_fed hcfg s
    exact hsupplied.imp hnext.trans' hnext.trans'

/-- A `feedAudioQueue` that starts playback has published the prebuffer. -/
theorem startsPlayback_supplied (hcfg : cfg.Valid) (hstarts : startsPlayback cfg s = true) :
    Supplied cfg cfg.scheduler.prebufferBlocks (fed cfg s) := by
  have hle := position_le_fed hcfg s
  simp only [startsPlayback, Bool.and_eq_true, decide_eq_true_eq] at hstarts
  unfold Supplied
  rw [fed_position]
  rcases hstarts.2 with hlead | hend
  · have hframes := (Int.le_ediv_iff_mul_le hcfg.blockFrames_pos).mp hlead
    rw [max_eq_right (by omega)] at hframes
    exact .inr (by omega)
  · exact .inl hend

end Scheduler

/-! ## Callbacks -/

theorem NoneStale.cleaned (h : ReadyInv cfg kernel s) (history : PlaybackHistory) :
    NoneStale (AudioBlockProcessor.cleaned s history) := by
  intro b hb
  rw [cleaned_position]
  have hfresh : b ∈ freshBlocks s.shared.generation (position s) s.readyQueue.contents :=
    h.order.dropWhile_eq ▸ hb
  exact ((mem_freshBlocks h.order.generation_le).mp hfresh).2

/-- **A callback plays the block at the position of the consumer**, and the queue is left with the
blocks behind it. -/
theorem processBlock_next [Zero S] (hcfg : cfg.Valid) (h : ReadyInv cfg kernel s)
    (hrest : AtRest cfg s) {output : AudioOutputBuffer S} (houtput : EngineOutput cfg output)
    (hstop : s.shared.stop = false) (hplaying : s.shared.playing = true)
    (hlt : position s < s.sched.nextFrameToPublish) :
    ∃ played history, history.callbacks = s.history.callbacks ∧
      (processBlock cfg output).run s = (({ playing := true, underrun := false }, played),
        advanced cfg (cleaned s history) s.shared.generation (position s)
          (cleaned s history).readyQueue.pop) ∧
      NoneStale (advanced cfg (cleaned s history) s.shared.generation (position s)
        (cleaned s history).readyQueue.pop) := by
  have hposition := hrest.inv.ack.position_boundary
  rcases processBlock_cases hrest output with ⟨hno, -⟩ | ⟨-, history, hcallbacks, hcase⟩
  · exact absurd (houtput.heard hcfg hstop) hno
  obtain ⟨block, hfront, hexact⟩ := h.front_exact hcfg hposition houtput hlt history
  rcases hcase with ⟨hwaits, -⟩ | ⟨-, -, ⟨_, -, -, hrun⟩ | ⟨hno, -⟩⟩
  · rcases hwaits with hsuspended | hend
    · rw [hplaying] at hsuspended
      cases hsuspended
    · exact absurd (hlt.trans_le h.last_boundary.2.2) (not_lt.mpr hend)
  · refine ⟨_, history, hcallbacks, hrun, fun b hb => ?_⟩
    have hframes := h.cleaned_frames history
    rw [blocksFrom_cons hcfg hposition.1 h.last_boundary.1 hlt] at hframes
    obtain ⟨first, rest, hcontents, -, hrest⟩ := List.map_eq_cons_iff.mp hframes
    have hb' : b ∈ rest := by
      have hpop : b ∈ (cleaned s history).readyQueue.pop.contents := hb
      rwa [BoundedFifo.contents_pop, hcontents] at hpop
    have hclean := NoneStale.cleaned h history b (hcontents ▸ List.mem_cons_of_mem _ hb')
    rw [advanced_position]
    refine ⟨hclean.1, (mem_blocksFrom hcfg (hrest ▸ List.mem_map_of_mem hb')).1⟩
  · rw [hno block hfront] at hexact
    cases hexact

end Anasa
