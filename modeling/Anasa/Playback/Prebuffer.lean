import Anasa.Playback.AtomicRuns

/-!
# The prebuffer

Once `feedAudioQueue` has started playback, the queue holds the prebuffer (`Prebuffered`), and
nothing but callbacks takes blocks out of it: as long as no command moves or suspends playback, the
callbacks play the prebuffer block by block, whatever else is published, collected or scheduled
between the accesses of each call (`PrebufferInv`).
-/

namespace Anasa

open Concurrency Contract AudioBlockProcessor

variable {S : Type} {cfg : Config} {s s' : EngineState S} {frame last : Int}

/-! ## A prebuffered queue -/

/-- A block of the latest generation as the engine publishes it. -/
structure ReadyBlock (cfg : Config) (generation : Int) (b : AudioBlock S) : Prop where
  generation_eq : b.generation = generation
  frameCount : b.frameCount = cfg.audio.audioBlockFrames
  slot : SlotShape cfg b

/-- Behind stale blocks, the queue starts with the blocks of `[frame, last)`. -/
def QueueStarts (cfg : Config) (generation frame last : Int) (blocks : List (AudioBlock S)) :
    Prop :=
  ∃ stale ready later, blocks = stale ++ ready ++ later ∧
    (∀ b ∈ stale, isStale generation frame b = true) ∧
    (∀ b ∈ ready, ReadyBlock cfg generation b) ∧
    ready.map (·.firstFrame) = blocksFrom cfg frame last

/-- The callback is about to play the blocks of `[frame, last)`. -/
structure Prebuffered (cfg : Config) (frame last : Int) (s : EngineState S) : Prop where
  rest : AtRest cfg s
  position_eq : position s = frame
  playing : s.shared.playing = true
  running : s.shared.stop = false
  started : s.engineStarted = true
  queue : QueueStarts cfg s.shared.generation frame last s.readyQueue.contents

theorem QueueStarts.append {generation : Int} {blocks : List (AudioBlock S)}
    (h : QueueStarts cfg generation frame last blocks) (more : List (AudioBlock S)) :
    QueueStarts cfg generation frame last (blocks ++ more) := by
  obtain ⟨stale, ready, later, rfl, hstale, hready, hframes⟩ := h
  exact ⟨stale, ready, later ++ more, by simp only [List.append_assoc], hstale, hready, hframes⟩

/-- The block at the front after the stale-block cleanup is the expected one, and behind it the
queue starts with the others. -/
theorem QueueStarts.dropWhile (hcfg : cfg.Valid) {generation : Int}
    {blocks : List (AudioBlock S)} (h : QueueStarts cfg generation frame last blocks)
    (hf : cfg.audio.audioBlockFrames ∣ frame) (hl : cfg.audio.audioBlockFrames ∣ last)
    (hlt : frame < last) :
    ∃ block rest, blocks.dropWhile (isStale generation frame) = block :: rest ∧
      ReadyBlock cfg generation block ∧ block.firstFrame = frame ∧
      QueueStarts cfg generation (frame + cfg.audio.audioBlockFrames) last rest := by
  obtain ⟨stale, ready, later, rfl, hstale, hready, hframes⟩ := h
  rw [blocksFrom_cons hcfg hf hl hlt] at hframes
  obtain ⟨block, others, rfl, hframe, hothers⟩ := List.map_eq_cons_iff.mp hframes
  have hblock := hready block List.mem_cons_self
  have hfresh : ¬isStale generation frame block = true := by
    rw [Bool.not_eq_true, isStale_eq_false]
    exact ⟨hblock.generation_eq.ge, fun _ => hframe.ge⟩
  refine ⟨block, others ++ later, ?_, hblock, hframe, [], others, later, rfl, nofun,
    fun b hb => hready b (List.mem_cons_of_mem _ hb), hothers⟩
  rw [List.append_assoc, List.dropWhile_append_of_pos hstale, List.cons_append,
    List.dropWhile_cons_of_neg hfresh]

/-- **A prebuffered block is played**, and the others stay. -/
theorem Prebuffered.processBlock [Zero S] (hcfg : cfg.Valid) (h : Prebuffered cfg frame last s)
    (hl : BlockBoundary cfg last) (hlt : frame < last) {output : AudioOutputBuffer S}
    (houtput : EngineOutput cfg output) :
    ∃ played s', (processBlock cfg output).run s =
        (({ playing := true, underrun := false }, played), s') ∧
      s'.history.callbacks = s.history.callbacks ∧
      s'.audio.expectedBlockStartFrame = frame + cfg.audio.audioBlockFrames ∧
      s'.shared.generation = s.shared.generation ∧
      s'.shared.targetFrame = s.shared.targetFrame ∧
      s'.shared.audioCursorGeneration = s'.shared.generation ∧
      Prebuffered cfg (frame + cfg.audio.audioBlockFrames) last s' := by
  have hposition := h.rest.inv.ack.position_boundary
  have hrest := h.rest.processBlock hcfg output
  obtain ⟨block, rest, hdrop, hblock, hframe, hqueue⟩ :=
    h.queue.dropWhile hcfg (h.position_eq ▸ hposition.1) hl.1 hlt
  rcases processBlock_cases h.rest output with ⟨hno, -⟩ | ⟨-, history, hcallbacks, hcase⟩
  · exact absurd (houtput.heard hcfg h.running) hno
  rw [h.position_eq] at hcase
  have hcontents : (cleaned s history).readyQueue.contents = block :: rest := by
    rw [← hdrop, ← h.position_eq]
    rfl
  have hfront : (cleaned s history).readyQueue.front = some block := by
    rw [BoundedFifo.front, hcontents]
    rfl
  have hexact : isExactBlock cfg s.shared.generation frame output.channels.length block = true := by
    simp only [isExactBlock, Bool.and_eq_true, beq_iff_eq, decide_eq_true_eq]
    exact ⟨⟨⟨⟨hblock.generation_eq, hframe⟩, hblock.frameCount⟩, hblock.slot.2.ge⟩,
      hblock.slot.1.trans houtput.channels.symm⟩
  rcases hcase with ⟨hwaits, -⟩ | ⟨-, -, ⟨front, -, -, hrun⟩ | ⟨hno, -⟩⟩
  · rcases hwaits with hwaits | hwaits
    · rw [h.playing] at hwaits
      cases hwaits
    · exact absurd (hlt.trans_le hl.2.2) (not_lt.mpr hwaits)
  · rw [hrun] at hrest
    refine ⟨_, _, hrun, hcallbacks, rfl, rfl, rfl, rfl, hrest, if_pos rfl, h.playing, h.running,
      h.started, ?_⟩
    show QueueStarts cfg s.shared.generation _ last (cleaned s history).readyQueue.pop.contents
    rw [BoundedFifo.contents_pop, hcontents]
    exact hqueue
  · rw [hno block hfront] at hexact
    cases hexact

/-! ## Starting -/

/-- The number of blocks that playback waits for. -/
def prebufferOf (cfg : Config) (frame : Int) : ℕ :=
  (min cfg.scheduler.prebufferBlocks
    ((cfg.totalFrames - frame) / cfg.audio.audioBlockFrames)).toNat

/-- `feedAudioQueue` of a running scheduler starts playback. -/
structure FeedStarts (cfg : Config) (s : EngineState S) : Prop where
  started : s.sched.started = true
  running : s.shared.stop = false
  suspended : s.shared.playing = false
  starts : ((Scheduler.feedAudioQueue cfg).run s).2.shared.playing = true

theorem prebufferOf_le (hcfg : cfg.Valid) (hle : frame ≤ cfg.totalFrames) :
    (prebufferOf cfg frame : Int) * cfg.audio.audioBlockFrames ≤ cfg.totalFrames - frame := by
  have hB := hcfg.blockFrames_pos
  have hp := hcfg.prebuffer_nonneg
  have hblocks := Int.ediv_nonneg (show 0 ≤ cfg.totalFrames - frame by omega) hB.le
  rw [prebufferOf, Int.toNat_of_nonneg (le_min hp hblocks)]
  exact (Int.mul_le_mul_of_nonneg_right (min_le_right _ _) hB.le).trans
    (Int.ediv_mul_le _ hB.ne')

theorem prebufferOf_boundary (hcfg : cfg.Valid) (h : BlockBoundary cfg frame) :
    BlockBoundary cfg (frame + prebufferOf cfg frame * cfg.audio.audioBlockFrames) := by
  have hle := prebufferOf_le hcfg h.2.2
  have h₀ := Int.mul_nonneg (Int.natCast_nonneg (prebufferOf cfg frame)) hcfg.blockFrames_pos.le
  have h₁ := h.2.1
  exact ⟨Int.dvd_add h.1 (Dvd.intro_left _ rfl), by omega, by omega⟩

/-- What starts playback is published. -/
theorem startsPlayback_published (hcfg : cfg.Valid) (hle : position s ≤ cfg.totalFrames)
    (hstarts : Scheduler.startsPlayback cfg s = true) (hpos : 0 < prebufferOf cfg (position s)) :
    position s + prebufferOf cfg (position s) * cfg.audio.audioBlockFrames ≤
      (Scheduler.fed cfg s).sched.nextFrameToPublish := by
  have hB := hcfg.blockFrames_pos
  have hremaining := prebufferOf_le hcfg hle
  simp only [Scheduler.startsPlayback, Bool.and_eq_true, decide_eq_true_eq] at hstarts
  rcases hstarts.2 with hlead | hentire
  · have hk : (prebufferOf cfg (position s) : Int) ≤ Scheduler.fedLead cfg s := by
      refine le_trans ?_ hlead
      unfold prebufferOf at hpos ⊢
      omega
    have hframes := (Int.le_ediv_iff_mul_le hB).mp hk
    have hkB := Int.mul_pos (show (0 : Int) < prebufferOf cfg (position s) by omega) hB
    omega
  · omega

/-- A queue that is in order starts with what is published. -/
theorem ReadyInv.queueStarts {kernel : RenderKernel S} (hcfg : cfg.Valid)
    (h : ReadyInv cfg kernel s) (hposition : position s = frame) (hframe : BlockBoundary cfg frame)
    {k : ℕ} (hk : frame + k * cfg.audio.audioBlockFrames ≤ s.sched.nextFrameToPublish) :
    QueueStarts cfg s.shared.generation frame (frame + k * cfg.audio.audioBlockFrames)
      s.readyQueue.contents := by
  subst hposition
  have hdrop := h.order.dropWhile_eq
  have hsplit := List.takeWhile_append_dropWhile (p := isStale s.shared.generation (position s))
    (l := s.readyQueue.contents)
  rw [hdrop] at hsplit
  refine ⟨s.readyQueue.contents.takeWhile (isStale s.shared.generation (position s)),
    (freshBlocks s.shared.generation (position s) s.readyQueue.contents).take k,
    (freshBlocks s.shared.generation (position s) s.readyQueue.contents).drop k, ?_,
    fun b hb => List.mem_takeWhile_imp hb, fun b hb => ?_, ?_⟩
  · rw [List.append_assoc, List.take_append_drop, hsplit]
  · obtain ⟨hqueued, hg, -⟩ := (mem_freshBlocks h.order.generation_le).mp (List.mem_of_mem_take hb)
    exact ⟨hg, (h.blocks b hqueued hg).frameCount, h.slots.1 b hqueued⟩
  · rw [List.map_take, h.order.fresh, take_blocksFrom hcfg hframe.1 h.last_boundary.1 hk]

/-- **Playback starts with its prebuffer.** -/
theorem FeedStarts.prebuffered {kernel : RenderKernel S} (hcfg : cfg.Valid)
    (hstarts : FeedStarts cfg s) (h : ReadyInv cfg kernel s) (hrest : AtRest cfg s)
    (hfed : ReadyInv cfg kernel ((Scheduler.feedAudioQueue cfg).run s).2)
    (hfedRest : AtRest cfg ((Scheduler.feedAudioQueue cfg).run s).2)
    (hpos : 0 < prebufferOf cfg (position s)) :
    Prebuffered cfg (position s)
      (position s + prebufferOf cfg (position s) * cfg.audio.audioBlockFrames)
      ((Scheduler.feedAudioQueue cfg).run s).2 := by
  have hboundary := hrest.inv.ack.position_boundary
  have hplaying := hstarts.starts
  rcases lt_or_ge (position s) cfg.totalFrames with hlt | hle
  · have hrun := Scheduler.feedAudioQueue_run hrest.inv.ack hrest.scheduler hlt
    rw [hrun] at hfed hfedRest hplaying ⊢
    have hfeeds : Scheduler.startsPlayback cfg s = true := by
      simpa [hstarts.suspended] using hplaying
    have hposition := Scheduler.fed_position cfg s
    have hlast := startsPlayback_published hcfg hboundary.2.2 hfeeds hpos
    obtain ⟨queue, last, heq⟩ := Scheduler.fed_eq cfg s
    have hsame : (Scheduler.fed cfg s).shared = s.shared ∧
        (Scheduler.fed cfg s).engineStarted = s.engineStarted := by
      rw [heq]
      exact ⟨rfl, rfl⟩
    refine ⟨hfedRest, hposition, hplaying, hsame.1 ▸ hstarts.running, hsame.2.trans ?_, ?_⟩
    · by_contra hno
      have := h.stopped (by simpa using hno)
      rw [hstarts.started] at this
      cases this
    · exact hfed.queueStarts hcfg hposition hboundary hlast
  · rw [Scheduler.feedAudioQueue_run_end hrest.inv.ack hrest.scheduler hle] at hplaying
    cases hplaying

/-! ## While it is played -/

/-- The records of callbacks that play `n` blocks from `frame` on, the first one first. -/
def playedBlocks (cfg : Config) (frame : Int) (n : ℕ) : List (Int × AudioProcessResult) :=
  (List.range n).map fun i : ℕ =>
    (frame + i * cfg.audio.audioBlockFrames, { playing := true, underrun := false })

/-- Since the callbacks `before`, the callback plays `k` blocks from `frame` on. -/
def PrebufferInv (cfg : Config) (before : List (Int × AudioProcessResult)) (frame : Int) (k : ℕ)
    (s : EngineState S) : Prop :=
  ∃ results, s.history.callbacks = results ++ before ∧
    results.reverse.take k = playedBlocks cfg frame (min k results.length) ∧
    (results.length < k → Prebuffered cfg (frame + results.length * cfg.audio.audioBlockFrames)
      (frame + k * cfg.audio.audioBlockFrames) s)

/-- `k` callbacks have come since. -/
def PrebufferPlayed (before : List (Int × AudioProcessResult)) (k : ℕ) (s : EngineState S) :
    Prop :=
  before.length + k ≤ s.history.callbacks.length

/-- What any thread does while playback goes on. -/
structure Onward (before : List (Int × AudioProcessResult)) (k : ℕ) (s s' : EngineState S) :
    Prop where
  callbacks : s.history.callbacks.length ≤ s'.history.callbacks.length
  generation : s'.shared.generation = s.shared.generation
  target : s'.shared.targetFrame = s.shared.targetFrame
  acknowledged : s.shared.audioCursorGeneration = s.shared.generation →
    s'.shared.audioCursorGeneration = s'.shared.generation ∨ PrebufferPlayed before k s'

/-- What a step leaves alone that takes nothing out of the queue. -/
structure Undisturbed (s s' : EngineState S) : Prop where
  cursor : cursorView s' = cursorView s
  callbacks : s'.history.callbacks = s.history.callbacks
  playing : s.shared.playing = true → s'.shared.playing = true
  stop : s'.shared.stop = s.shared.stop
  started : s'.engineStarted = s.engineStarted
  queue : ∃ more, s'.readyQueue.contents = s.readyQueue.contents ++ more

section

variable {before : List (Int × AudioProcessResult)} {k : ℕ}

theorem Onward.refl (s : EngineState S) : Onward before k s s := ⟨le_rfl, rfl, rfl, .inl⟩

theorem PrebufferPlayed.onward (h : PrebufferPlayed before k s) (ho : Onward before k s s') :
    PrebufferPlayed before k s' := Nat.le_trans h ho.callbacks

theorem Onward.trans {s'' : EngineState S} (h : Onward before k s s')
    (h' : Onward before k s' s'') : Onward before k s s'' := by
  refine ⟨h.callbacks.trans h'.callbacks, h'.generation.trans h.generation,
    h'.target.trans h.target, fun hs => ?_⟩
  rcases h.acknowledged hs with hs' | hplayed
  · exact h'.acknowledged hs'
  · exact .inr (hplayed.onward h')

theorem Undisturbed.onward (h : Undisturbed s s') : Onward before k s s' := by
  obtain ⟨hg, ht, -, hcg, -, -⟩ := CursorState.mk.inj h.cursor
  exact ⟨by rw [h.callbacks], hg, ht, fun hs => .inl (hcg.trans (hs.trans hg.symm))⟩

theorem Undisturbed.prebuffered (h : Undisturbed s s') (hp : Prebuffered cfg frame last s) :
    Prebuffered cfg frame last s' := by
  obtain ⟨more, hmore⟩ := h.queue
  have hg : s'.shared.generation = s.shared.generation := (CursorState.mk.inj h.cursor).1
  refine ⟨⟨h.cursor ▸ hp.rest.inv, h.cursor ▸ hp.rest.scheduler, h.cursor ▸ hp.rest.audio⟩, ?_,
    h.playing hp.playing, h.stop.trans hp.running, h.started.trans hp.started, ?_⟩
  · exact (congrArg CursorState.resolved h.cursor).trans hp.position_eq
  · rw [hmore, hg]
    exact hp.queue.append more

theorem Undisturbed.inv (h : Undisturbed s s') (hi : PrebufferInv cfg before frame k s) :
    PrebufferInv cfg before frame k s' := by
  obtain ⟨results, hcallbacks, hplayed, hready⟩ := hi
  exact ⟨results, h.callbacks.trans hcallbacks, hplayed, fun hlt => h.prebuffered (hready hlt)⟩

/-- Either the next block is ready or all have been played. -/
theorem PrebufferInv.cases (h : PrebufferInv cfg before frame k s) :
    (∃ i : ℕ, i < k ∧ Prebuffered cfg (frame + i * cfg.audio.audioBlockFrames)
      (frame + k * cfg.audio.audioBlockFrames) s) ∨ PrebufferPlayed before k s := by
  obtain ⟨results, hcallbacks, -, hready⟩ := h
  rcases lt_or_ge results.length k with hlt | hle
  · exact .inl ⟨results.length, hlt, hready hlt⟩
  · refine .inr ?_
    rw [PrebufferPlayed, hcallbacks, List.length_append]
    omega

/-- Once all have been played, only the record matters. -/
theorem PrebufferPlayed.inv (h : PrebufferPlayed before k s)
    (hi : PrebufferInv cfg before frame k s)
    (hcallbacks : s'.history.callbacks = s.history.callbacks) :
    PrebufferInv cfg before frame k s' := by
  obtain ⟨results, heq, hplayed, -⟩ := hi
  refine ⟨results, hcallbacks.trans heq, hplayed, fun hlt => ?_⟩
  rw [PrebufferPlayed, heq, List.length_append] at h
  omega

theorem PrebufferPlayed.to_onward (h : PrebufferPlayed before k s)
    (hcallbacks : s'.history.callbacks = s.history.callbacks)
    (hg : s'.shared.generation = s.shared.generation)
    (ht : s'.shared.targetFrame = s.shared.targetFrame) : Onward before k s s' := by
  refine ⟨by rw [hcallbacks], hg, ht, fun _ => .inr ?_⟩
  rw [PrebufferPlayed, hcallbacks]
  exact h

theorem Prebuffered.position_lt (hcfg : cfg.Valid)
    (hlast : frame + k * cfg.audio.audioBlockFrames ≤ cfg.totalFrames) {i : ℕ} (hi : i < k)
    (h : Prebuffered cfg (frame + i * cfg.audio.audioBlockFrames)
      (frame + k * cfg.audio.audioBlockFrames) s) : position s < cfg.totalFrames := by
  have hmul := Int.mul_lt_mul_of_pos_right (show (i : Int) < k by omega) hcfg.blockFrames_pos
  rw [h.position_eq]
  omega

end

end Anasa
