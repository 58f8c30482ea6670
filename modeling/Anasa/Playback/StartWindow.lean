import Anasa.Playback.Guarantees
import Anasa.Playback.PlacedRuns

/-!
# The urgent window suffices to start playback

Once every chunk of the urgent window is in the cache, one `feedAudioQueue` starts requested
playback: the publisher stops at the end of the timeline, at a missing chunk or on a full queue,
and in each case one of the two conditions of `startIfReady` holds.
-/

namespace Anasa

open Concurrency

variable {S : Type} {cfg : Config} {s : EngineState S}

/-! ## Blocks between two boundaries -/

theorem add_le_of_dvd_of_lt {d x y : Int} (hx : d ∣ x) (hy : d ∣ y) (hlt : x < y) :
    x + d ≤ y := by
  have := Int.le_of_dvd (by omega) (Int.dvd_sub hy hx)
  omega

/-- Multiples of `d` in increasing order between two multiples of `d`. -/
theorem length_mul_le_of_increasing {d first last : Int} (hlast : d ∣ last)
    (hle : first ≤ last) {xs : List Int} (hinc : xs.Pairwise (· < ·))
    (hxs : ∀ x ∈ xs, d ∣ x ∧ first ≤ x ∧ x < last) : (xs.length : Int) * d ≤ last - first := by
  induction xs generalizing first with
  | nil =>
    rw [List.length_nil, Nat.cast_zero, zero_mul]
    omega
  | cons x xs ih =>
    obtain ⟨hx, hfirst, hlt⟩ := hxs x List.mem_cons_self
    obtain ⟨hhead, htail⟩ := List.pairwise_cons.mp hinc
    have hrest := @ih (x + d) (add_le_of_dvd_of_lt hx hlast hlt) htail fun y hy => by
      obtain ⟨hy', -, hylt⟩ := hxs y (List.mem_cons_of_mem _ hy)
      exact ⟨hy', add_le_of_dvd_of_lt hx hy' (hhead y hy), hylt⟩
    rw [List.length_cons, Nat.cast_succ, Int.add_mul]
    omega

namespace TimelineAudioPublisher

/-! ## Positions while publishing -/

theorem publishLoop_positions (hcfg : cfg.Valid) (n : ℕ) {s : EngineState S}
    (h : PositionInv cfg s) (ho : FeedOrder s) :
    PositionInv cfg ((publishLoop cfg s.shared.generation n).run s).2 ∧
      FeedOrder ((publishLoop cfg s.shared.generation n).run s).2 := by
  induction n generalizing s with
  | zero => exact ⟨h, ho⟩
  | succ n ih =>
    rw [publishLoop_run_succ, Prog.run_ite]
    rcases publishNext_cases cfg s.shared.generation s with
      ⟨samples, slot, free, hlast, -, hfree, heq⟩ | ⟨heq, -⟩
    · rw [heq, if_pos rfl]
      exact ih (h.pushed hcfg hlast hfree) (ho.pushed hcfg)
    · rw [heq, if_neg (by simp)]
      exact ⟨h, ho⟩

end TimelineAudioPublisher

namespace Scheduler

theorem fed_positions (hcfg : cfg.Valid) (h : PositionInv cfg s) (ho : FeedOrder s)
    (hposition : BlockBoundary cfg (position s)) :
    PositionInv cfg (fed cfg s) ∧ FeedOrder (fed cfg s) := by
  have hskip : PositionInv cfg
      { s with sched.nextFrameToPublish := max s.sched.nextFrameToPublish (position s) } := by
    refine ⟨?_, h.capacity, h.placed, h.generation_le⟩
    rcases le_total s.sched.nextFrameToPublish (position s) with hle | hle
    · exact (max_eq_right hle).symm ▸ hposition
    · exact (max_eq_left hle).symm ▸ h.next_boundary
  exact TimelineAudioPublisher.publishLoop_positions hcfg _ hskip (ho.skip (le_max_left _ _))

/-! ## The window -/

/-- Beyond the urgent window, the prebuffer or the rest of the timeline has been published. -/
theorem urgentChunkEnd_suffices (hcfg : cfg.Valid) {frame last : Int}
    (hframe : BlockBoundary cfg frame) (hlt : frame < cfg.totalFrames) (hle : frame ≤ last)
    (hlast : last < cfg.totalFrames) (hend : urgentChunkEnd cfg frame ≤ frameToChunk last) :
    cfg.scheduler.prebufferBlocks * cfg.audio.audioBlockFrames ≤ last - frame := by
  have hB := hcfg.blockFrames_pos
  have hp := hcfg.prebuffer_nonneg
  have hremaining : (cfg.totalFrames - frame) / cfg.audio.audioBlockFrames *
      cfg.audio.audioBlockFrames = cfg.totalFrames - frame :=
    Int.ediv_mul_cancel (Int.dvd_sub hcfg.block_dvd_total hframe.1)
  have hone : 0 < (cfg.totalFrames - frame) / cfg.audio.audioBlockFrames :=
    Int.ediv_pos_of_pos_of_dvd (by omega) hB.le
      (Int.dvd_sub hcfg.block_dvd_total hframe.1)
  simp only [urgentChunkEnd, if_neg hlt.ne] at hend
  by_cases hzero : min cfg.scheduler.prebufferBlocks
      ((cfg.totalFrames - frame) / cfg.audio.audioBlockFrames) * cfg.audio.audioBlockFrames = 0
  · have hmin := (Int.mul_eq_zero.mp hzero).resolve_right hB.ne'
    have hnone : cfg.scheduler.prebufferBlocks = 0 := by omega
    rw [hnone, Int.zero_mul]
    omega
  · rw [if_neg hzero] at hend
    have hchunk := (le_max_right _ _).trans hend
    unfold frameToChunk chunkFrames at hchunk
    rcases min_choice cfg.scheduler.prebufferBlocks
      ((cfg.totalFrames - frame) / cfg.audio.audioBlockFrames) with hmin | hmin
    · rw [hmin] at hchunk
      omega
    · rw [hmin, hremaining] at hchunk
      omega

end Scheduler

/-- Playback is requested and not yet started at `frame`, the chunks of the urgent window are in
the cache, and the queue holds blocks to play only. -/
structure WindowReady (cfg : Config) (frame : Int) (s : EngineState S) : Prop where
  cursor : ((PlaybackProtocol.currentFrame cfg).run s).1 = frame
  requested : s.sched.playRequested = true
  suspended : s.shared.playing = false
  unfinished : frame < cfg.totalFrames
  window : ∀ chunk, frameToChunk frame ≤ chunk → chunk < Scheduler.urgentChunkEnd cfg frame →
    Scheduler.cacheIsCurrent cfg chunk s.render = true
  queue : ∀ b ∈ s.readyQueue.contents,
    b.generation = s.shared.generation ∧ frame ≤ b.firstFrame

/-- A full queue holds the prebuffer. -/
theorem SchedulerPlaced.full_lead (h : PositionInv cfg s) (ho : FeedOrder s)
    {frame : Int} (hle : frame ≤ s.sched.nextFrameToPublish)
    (hqueue : ∀ b ∈ s.readyQueue.contents,
      b.generation = s.shared.generation ∧ frame ≤ b.firstFrame)
    (hfull : s.readyQueue.free = []) :
    cfg.readyQueueCapacity * cfg.audio.audioBlockFrames ≤ s.sched.nextFrameToPublish - frame := by
  have hlength : s.readyQueue.contents.length = cfg.readyQueueCapacity := by
    rw [← h.capacity, BoundedFifo.capacity, hfull, List.length_nil, Nat.add_zero]
  have hinc : (s.readyQueue.contents.map (·.firstFrame)).Pairwise (· < ·) := by
    refine List.pairwise_map.mpr (ho.increasing.imp_of_mem fun ha hb hlt => ?_)
    exact hlt (hqueue _ ha).1 (hqueue _ hb).1
  have hbound := length_mul_le_of_increasing h.next_boundary.1 hle hinc
    fun x hx => by
      obtain ⟨b, hb, rfl⟩ := List.mem_map.mp hx
      exact ⟨(h.placed b hb).boundary.1, (hqueue b hb).2, ho.lt_next b hb (hqueue b hb).1⟩
  rwa [List.length_map, hlength] at hbound

theorem WindowReady.starts (hcfg : cfg.Valid) (hs : SchedulerPlaced cfg s) {frame : Int}
    (h : WindowReady cfg frame s) :
    ((Scheduler.feedAudioQueue cfg).run s).2.shared.playing = true := by
  have hB := hcfg.blockFrames_pos
  have hboundary := hs.cursor.ack.position_boundary
  have hframe : position s = frame := by
    have hcursor := h.cursor
    rwa [PlaybackProtocol.currentFrame_run_rest hs.cursor.ack hs.rest] at hcursor
  subst hframe
  rw [Scheduler.feedAudioQueue_run hs.cursor.ack hs.rest h.unfinished]
  obtain ⟨hpositions, horder⟩ := Scheduler.fed_positions hcfg hs.positions hs.order hboundary
  have hle := Scheduler.position_le_fed hcfg s
  have hstops := Scheduler.fed_stops hcfg hboundary.2.1 (s := s)
  have hnext := hpositions.next_boundary
  have hqueue : ∀ b ∈ (Scheduler.fed cfg s).readyQueue.contents,
      b.generation = s.shared.generation ∧ position s ≤ b.firstFrame :=
    TimelineAudioPublisher.publishLoop_all hcfg h.queue fun _ _ _ hlast =>
      ⟨rfl, (le_max_right _ _).trans hlast⟩
  obtain ⟨queue, last, hfed⟩ := Scheduler.fed_eq cfg s
  have hlead : Scheduler.startsPlayback cfg s = true := by
    have hreach : cfg.scheduler.prebufferBlocks * cfg.audio.audioBlockFrames ≤
          (Scheduler.fed cfg s).sched.nextFrameToPublish - position s ∨
        cfg.totalFrames ≤ (Scheduler.fed cfg s).sched.nextFrameToPublish := by
      rcases hstops with hend | hmissing | hfull
      · -- The timeline ends.
        refine .inr (not_lt.mp fun hlt => ?_)
        have := add_le_of_dvd_of_lt hnext.1 hcfg.block_dvd_total hlt
        omega
      · -- A chunk is missing, so it lies behind the window.
        rcases lt_or_ge (Scheduler.fed cfg s).sched.nextFrameToPublish cfg.totalFrames with
          hlt | hge
        · refine .inl (Scheduler.urgentChunkEnd_suffices hcfg hboundary h.unfinished hle hlt
            (not_lt.mp fun hin => ?_))
          have hcached := h.window (frameToChunk (Scheduler.fed cfg s).sched.nextFrameToPublish)
            (Int.ediv_le_ediv (by decide) hle) hin
          rw [Scheduler.cacheIsCurrent, show s.render = (Scheduler.fed cfg s).render by rw [hfed],
            hmissing] at hcached
          cases hcached
        · exact .inr hge
      · -- The queue is full.
        have hfull' := SchedulerPlaced.full_lead hpositions horder hle
          (by rw [show (Scheduler.fed cfg s).shared = s.shared by rw [hfed]]; exact hqueue) hfull
        have := Int.mul_le_mul_of_nonneg_right hcfg.prebuffer_le hB.le
        exact .inl (this.trans hfull')
    simp only [Scheduler.startsPlayback, h.requested, Bool.true_and, decide_eq_true_eq]
    refine hreach.imp_left fun hreach => ?_
    rw [Scheduler.fedLead, TimelineAudioPublisher.readyLeadBlocks, max_eq_right (by omega)]
    exact (Int.le_ediv_iff_mul_le hB).mpr hreach
  rw [hlead, Bool.or_true]

/-- **The urgent window suffices.** In every run of an engine, between two calls of its scheduler,
one `feedAudioQueue` starts requested playback if the chunks of the urgent window are in the
cache. -/
theorem engineLevelRun_windowStartsPlayback [Zero S] (cfg : AcceptedConfig)
    (kernel : RenderKernel S) (moves : List (Move ThreadId (EngineCall S)))
    (hidle : (engineLevelRun cfg.toConfig kernel moves).thread .scheduler = none) {frame : Int}
    (h : WindowReady cfg.toConfig frame (engineLevelRun cfg.toConfig kernel moves).state) :
    ((Scheduler.feedAudioQueue cfg.toConfig).run
      (engineLevelRun cfg.toConfig kernel moves).state).2.shared.playing = true :=
  h.starts cfg.valid (engineLevelRun_placed cfg kernel moves hidle)

/-- An atomic step as a move of an engine. -/
def AtomicStep.engineMove : AtomicStep S → Move ThreadId (EngineCall S)
  | ⟨.start (.workerLoop worker faults), _⟩ => .start ⟨.workerLoop worker faults, rfl⟩
  | ⟨.access i, _⟩ => .access i
  | ⟨.whole call, h⟩ => .whole ⟨call, h⟩

/-- With the chunk of a small engine in the cache and playback requested, it starts. -/
theorem engineLevelRun_windowStartsPlayback_oneChunk :
    ((Scheduler.feedAudioQueue twoBlockConfig.toConfig).run
      (engineLevelRun twoBlockConfig.toConfig (fun _ f _ => f)
        (chunkRendered.map AtomicStep.engineMove)).state).2.shared.playing = true := by
  have hidle : (engineLevelRun twoBlockConfig.toConfig (fun _ f _ => f)
      (chunkRendered.map AtomicStep.engineMove)).thread .scheduler = none := by decide +kernel
  have hstate : ((PlaybackProtocol.currentFrame twoBlockConfig.toConfig).run
        (engineLevelRun twoBlockConfig.toConfig (fun _ f _ => f)
          (chunkRendered.map AtomicStep.engineMove)).state).1 = 0 ∧
      (engineLevelRun twoBlockConfig.toConfig (fun _ f _ => f)
        (chunkRendered.map AtomicStep.engineMove)).state.sched.playRequested = true ∧
      (engineLevelRun twoBlockConfig.toConfig (fun _ f _ => f)
        (chunkRendered.map AtomicStep.engineMove)).state.shared.playing = false ∧
      Scheduler.cacheIsCurrent twoBlockConfig.toConfig 0
        (engineLevelRun twoBlockConfig.toConfig (fun _ f _ => f)
          (chunkRendered.map AtomicStep.engineMove)).state.render = true ∧
      (engineLevelRun twoBlockConfig.toConfig (fun _ f _ => f)
        (chunkRendered.map AtomicStep.engineMove)).state.readyQueue.contents.length = 0 := by
    decide +kernel
  obtain ⟨hcursor, hrequested, hsuspended, hcached, hqueue⟩ := hstate
  refine engineLevelRun_windowStartsPlayback twoBlockConfig (fun _ f _ => f)
    (chunkRendered.map AtomicStep.engineMove) hidle
    ⟨hcursor, hrequested, hsuspended, by decide, fun chunk h₀ h₁ => ?_, ?_⟩
  · have hend : Scheduler.urgentChunkEnd twoBlockConfig.toConfig 0 = 1 := by decide
    have hfirst : frameToChunk 0 = 0 := by decide
    obtain rfl : chunk = 0 := by omega
    exact hcached
  · rw [List.eq_nil_of_length_eq_zero hqueue]
    exact nofun

end Anasa
