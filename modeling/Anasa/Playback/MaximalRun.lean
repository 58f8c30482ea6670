import Mathlib.Data.List.Forall2
import Anasa.Playback.Publishing

/-!
# The maximal run

One call of `publish` pushes the blocks from its position on, in order, as long as they end within
the timeline, their chunks are current and the queue has a slot. Several calls with pops in between
publish the blocks that one call with enough slots publishes.
-/

namespace Anasa

open Concurrency TimelineAudioPublisher

variable {S : Type} {cfg : Config}

/-! ## Runs of blocks -/

/-- The block at the frame ends within the timeline, and its chunk is current. -/
def Publishable (cfg : Config) (s : EngineState S) (frame : Int) : Prop :=
  frame + cfg.audio.audioBlockFrames ≤ cfg.totalFrames ∧
    (RenderCache.findCurrent cfg s.render (frameToChunk frame)).isSome = true

/-- The slot with the block at the frame: its first samples are those of the cached chunk, and the
rest of its storage is that of the slot. -/
def cachedBlock (cfg : Config) (generation : Int) (s : EngineState S) (frame : Int)
    (slot : AudioBlock S) : AudioBlock S where
  generation := generation
  firstFrame := frame
  frameCount := cfg.audio.audioBlockFrames
  samples := { slot.samples with
    sample := fun channel offset =>
      if 0 ≤ channel ∧ channel < cfg.audio.channelCount ∧
          0 ≤ offset ∧ offset < cfg.audio.audioBlockFrames then
        (s.render.cacheEntries (frameToChunk frame)).samples.sample channel
          (frame - firstFrameOfChunk (frameToChunk frame) + offset)
      else slot.samples.sample channel offset }

/-- The frame of the block that comes so many blocks after the given frame. -/
def blockFrame (cfg : Config) (frame : Int) (i : ℕ) : Int := frame + i * cfg.audio.audioBlockFrames

theorem blockFrame_succ (frame : Int) (i : ℕ) :
    blockFrame cfg frame (i + 1) = blockFrame cfg (frame + cfg.audio.audioBlockFrames) i := by
  unfold blockFrame
  rw [Nat.cast_succ, Int.add_mul]
  omega

/-- The state after so many blocks are published from a position. -/
def pushedRun (cfg : Config) (generation : Int) (s : EngineState S) (frame : Int) (m : ℕ) :
    EngineState S :=
  { s with
    readyQueue :=
      ⟨s.readyQueue.contents ++ (s.readyQueue.free.take m).mapIdx fun i =>
          cachedBlock cfg generation s (blockFrame cfg frame i),
        s.readyQueue.free.drop m⟩
    sched.nextFrameToPublish := blockFrame cfg frame m }

theorem pushedRun_zero (generation : Int) (s : EngineState S) :
    pushedRun cfg generation s s.sched.nextFrameToPublish 0 = s := by
  simp [pushedRun, blockFrame]

theorem pushedRun_succ {generation : Int} {s : EngineState S} {slot : AudioBlock S}
    {free : List (AudioBlock S)} (hfree : s.readyQueue.free = slot :: free) (m : ℕ) :
    pushedRun cfg generation (pushed cfg s (cachedBlock cfg generation s
        s.sched.nextFrameToPublish slot) free)
        (s.sched.nextFrameToPublish + cfg.audio.audioBlockFrames) m =
      pushedRun cfg generation s s.sched.nextFrameToPublish (m + 1) := by
  have hfirst : blockFrame cfg s.sched.nextFrameToPublish 0 = s.sched.nextFrameToPublish := by
    simp [blockFrame]
  simp only [pushedRun, pushed, hfree, List.take_succ_cons, List.mapIdx_cons, List.drop_succ_cons,
    blockFrame_succ, hfirst, List.append_assoc, List.singleton_append]
  rfl

theorem nextBlock_eq {generation : Int} {s : EngineState S} {frame : Int} {samples : AudioBuffer S}
    (hfind : RenderCache.findCurrent cfg s.render (frameToChunk frame) = some samples) :
    nextBlock cfg samples generation frame = cachedBlock cfg generation s frame := by
  have hsamples : samples = (s.render.cacheEntries (frameToChunk frame)).samples := by
    unfold RenderCache.findCurrent at hfind
    split at hfind
    · cases hfind
    · split at hfind
      · cases hfind
      · exact (Option.some.inj hfind).symm
  subst hsamples
  rfl

variable (cfg) in
/-- The loop publishes a run, and ends for one of three reasons. -/
theorem publishLoop_run (generation : Int) (n : ℕ) (s : EngineState S) :
    ∃ m ≤ n, m ≤ s.readyQueue.free.length ∧
      (∀ i < m, Publishable cfg s (blockFrame cfg s.sched.nextFrameToPublish i)) ∧
      (m = n ∨ m = s.readyQueue.free.length ∨
        ¬Publishable cfg s (blockFrame cfg s.sched.nextFrameToPublish m)) ∧
      ((publishLoop cfg generation n).run s).2 =
        pushedRun cfg generation s s.sched.nextFrameToPublish m := by
  induction n generalizing s with
  | zero =>
    exact ⟨0, le_rfl, Nat.zero_le _, fun i hi => absurd hi (Nat.not_lt_zero i), .inl rfl,
      (pushedRun_zero generation s).symm⟩
  | succ n ih =>
    rw [publishLoop_run_succ, Prog.run_ite]
    rcases publishNext_cases cfg generation s with
      ⟨samples, slot, free, hlast, hfind, hfree, heq⟩ | ⟨heq, hstops⟩
    · -- One block, and then the run from the next position.
      obtain ⟨m, hmn, hmfree, hpublishable, hends, hrun⟩ := ih (pushed cfg s
        (nextBlock cfg samples generation s.sched.nextFrameToPublish slot) free)
      have hlength : s.readyQueue.free.length = free.length + 1 := by rw [hfree, List.length_cons]
      have hnext : ∀ i, blockFrame cfg (pushed cfg s (nextBlock cfg samples generation
          s.sched.nextFrameToPublish slot) free).sched.nextFrameToPublish i =
          blockFrame cfg s.sched.nextFrameToPublish (i + 1) :=
        fun i => (blockFrame_succ _ i).symm
      refine ⟨m + 1, Nat.succ_le_succ hmn, ?_, fun i hi => ?_, ?_, ?_⟩
      · rw [hlength]
        exact Nat.succ_le_succ hmfree
      · cases i with
        | zero =>
          refine ⟨?_, ?_⟩
          · simp only [blockFrame, Nat.cast_zero, Int.zero_mul, Int.add_zero]
            omega
          · simp only [blockFrame, Nat.cast_zero, Int.zero_mul, Int.add_zero, hfind,
              Option.isSome_some]
        | succ i =>
          rw [← hnext i]
          exact hpublishable i (Nat.lt_of_succ_lt_succ hi)
      · rcases hends with h | h | h
        · exact .inl (congrArg _ h)
        · exact .inr (.inl (by rw [hlength]; exact congrArg _ h))
        · exact .inr (.inr (by rw [← hnext m]; exact h))
      · rw [heq, if_pos rfl, hrun, nextBlock_eq hfind]
        exact pushedRun_succ hfree m
    · rw [heq, if_neg (by simp)]
      refine ⟨0, Nat.zero_le _, Nat.zero_le _, fun i hi => absurd hi (Nat.not_lt_zero i), ?_,
        (pushedRun_zero generation s).symm⟩
      rcases hstops with hend | hnone | hfull
      · refine .inr (.inr fun h => ?_)
        have hle := h.1
        simp only [blockFrame, Nat.cast_zero, Int.zero_mul, Int.add_zero] at hle
        omega
      · refine .inr (.inr fun h => ?_)
        have hsome := h.2
        simp only [blockFrame, Nat.cast_zero, Int.zero_mul, Int.add_zero, hnone,
          Option.isSome_none, Bool.false_eq_true] at hsome
      · exact .inr (.inl (by rw [hfull, List.length_nil]))

/-! ## One call -/

/-- The position from which a call publishes. -/
def publishFrom (s : EngineState S) (cursor : Int) : Int := max s.sched.nextFrameToPublish cursor

/-- What one call does: it publishes the longest run that the queue has slots for. -/
structure PublishesRun (cfg : Config) (generation cursor : Int) (s s' : EngineState S) (m : ℕ) :
    Prop where
  slots : m ≤ s.readyQueue.free.length
  publishable : ∀ i < m, Publishable cfg s (blockFrame cfg (publishFrom s cursor) i)
  /-- No longer run has slots and can be published. -/
  maximal : ∀ k ≤ s.readyQueue.free.length,
    (∀ i < k, Publishable cfg s (blockFrame cfg (publishFrom s cursor) i)) → k ≤ m
  /-- Every block lies within one chunk. -/
  within : ∀ i < m, 0 ≤ blockFrame cfg (publishFrom s cursor) i -
      firstFrameOfChunk (frameToChunk (blockFrame cfg (publishFrom s cursor) i)) ∧
    blockFrame cfg (publishFrom s cursor) i -
      firstFrameOfChunk (frameToChunk (blockFrame cfg (publishFrom s cursor) i)) +
        cfg.audio.audioBlockFrames ≤ chunkFrames
  /-- The blocks are pushed in order, and nothing else changes but the position. -/
  state : s' = pushedRun cfg generation s (publishFrom s cursor) m

theorem BlockBoundary.blockFrame (hcfg : cfg.Valid) {frame : Int} (h : BlockBoundary cfg frame)
    {i : ℕ} (hi : blockFrame cfg frame i ≤ cfg.totalFrames) :
    BlockBoundary cfg (blockFrame cfg frame i) := by
  have hB := hcfg.blockFrames_pos
  have hnonneg : 0 ≤ (i : Int) * cfg.audio.audioBlockFrames :=
    Int.mul_nonneg (Int.natCast_nonneg i) hB.le
  refine ⟨Int.dvd_add h.1 (Int.dvd_mul_left _ _), ?_, hi⟩
  have h₀ := h.2.1
  unfold Anasa.blockFrame
  omega

theorem publishFrom_boundary {s : EngineState S} {cursor : Int}
    (hnext : BlockBoundary cfg s.sched.nextFrameToPublish) (hcursor : BlockBoundary cfg cursor) :
    BlockBoundary cfg (publishFrom s cursor) := by
  unfold publishFrom
  rcases le_total s.sched.nextFrameToPublish cursor with hle | hle
  · rwa [max_eq_right hle]
  · rwa [max_eq_left hle]

/-- **One call** publishes the longest run. -/
theorem publish_run (hcfg : cfg.Valid) (generation : Int) {cursor : Int} {s : EngineState S}
    (hfrom : BlockBoundary cfg (publishFrom s cursor)) :
    ∃ m, PublishesRun cfg generation cursor s ((publish cfg cursor generation).run s).2 m := by
  have hB := hcfg.blockFrames_pos
  obtain ⟨m, hmn, hslots, hpublishable, hends, hrun⟩ := publishLoop_run cfg
    generation (publishPasses cfg) { s with sched.nextFrameToPublish := publishFrom s cursor }
  -- The timeline ends before the loop runs out of passes.
  have hpasses : m ≠ publishPasses cfg := by
    intro hm
    have hlast := (hpublishable (m - 1) (by unfold publishPasses at hm; omega)).1
    have htotal := Int.ediv_nonneg hcfg.totalFrames_pos.le hB.le
    have hlt := Int.lt_ediv_add_one_mul_self cfg.totalFrames hB
    have hcount : ((m - 1 : ℕ) : Int) = cfg.totalFrames / cfg.audio.audioBlockFrames := by
      unfold publishPasses at hm
      omega
    unfold blockFrame at hlast
    rw [hcount] at hlast
    rw [Int.add_mul] at hlt
    have h₀ := hfrom.2.1
    dsimp only at hlast
    omega
  refine ⟨m, hslots, hpublishable, fun k hk hrun' => ?_, fun i hi => ?_, ?_⟩
  · by_contra hlt
    rcases hends with h | h | h
    · exact hpasses h
    · have hk' : k ≤ m := h ▸ hk
      exact hlt hk'
    · exact h (hrun' m (not_le.mp hlt))
  · have hle := (hpublishable i hi).1
    refine block_in_chunk hcfg (hfrom.blockFrame hcfg ?_)
    dsimp only at hle
    omega
  · exact hrun

/-! ## Several calls -/

/-- The blocks that a call pushes. -/
def newBlocks (s s' : EngineState S) : List (AudioBlock S) :=
  s'.readyQueue.contents.drop s.readyQueue.contents.length

/-- The blocks published once a first call has skipped what the cursor has passed: whole calls,
passes of a call and pops in any order, while the cursor does not pass the position. -/
inductive SplitRun (cfg : Config) (generation cursor : Int) (s : EngineState S) :
    List (AudioBlock S) → EngineState S → Prop where
  | first : SplitRun cfg generation cursor s []
      { s with sched.nextFrameToPublish := publishFrom s cursor }
  | publish {blocks : List (AudioBlock S)} {s' : EngineState S} (cursor' : Int)
      (h : SplitRun cfg generation cursor s blocks s')
      (hcursor : cursor' ≤ s'.sched.nextFrameToPublish) :
      SplitRun cfg generation cursor s
        (blocks ++ newBlocks s' ((publish cfg cursor' generation).run s').2)
        ((publish cfg cursor' generation).run s').2
  | pass {blocks : List (AudioBlock S)} {s' : EngineState S}
      (h : SplitRun cfg generation cursor s blocks s') :
      SplitRun cfg generation cursor s
        (blocks ++ newBlocks s' (publishNext cfg generation s').2)
        (publishNext cfg generation s').2
  | pop {blocks : List (AudioBlock S)} {s' : EngineState S}
      (h : SplitRun cfg generation cursor s blocks s') :
      SplitRun cfg generation cursor s blocks { s' with readyQueue := s'.readyQueue.pop }

/-- The block at the frame, in some slot. -/
structure HoldsBlock (cfg : Config) (generation : Int) (s : EngineState S) (frame : Int)
    (block : AudioBlock S) : Prop where
  generation : block.generation = generation
  firstFrame : block.firstFrame = frame
  frameCount : block.frameCount = cfg.audio.audioBlockFrames
  samples : ∀ channel offset, 0 ≤ channel → channel < cfg.audio.channelCount → 0 ≤ offset →
    offset < cfg.audio.audioBlockFrames → block.samples.sample channel offset =
      (s.render.cacheEntries (frameToChunk frame)).samples.sample channel
        (frame - firstFrameOfChunk (frameToChunk frame) + offset)

/-- Two blocks with the same audio, in slots that may differ. -/
structure SameAudio (cfg : Config) (block block' : AudioBlock S) : Prop where
  generation : block.generation = block'.generation
  firstFrame : block.firstFrame = block'.firstFrame
  frameCount : block.frameCount = block'.frameCount
  samples : ∀ channel offset, 0 ≤ channel → channel < cfg.audio.channelCount → 0 ≤ offset →
    offset < cfg.audio.audioBlockFrames →
      block.samples.sample channel offset = block'.samples.sample channel offset

theorem HoldsBlock.same {generation : Int} {s : EngineState S} {frame : Int}
    {block block' : AudioBlock S} (h : HoldsBlock cfg generation s frame block)
    (h' : HoldsBlock cfg generation s frame block') : SameAudio cfg block block' :=
  ⟨h.generation.trans h'.generation.symm, h.firstFrame.trans h'.firstFrame.symm,
    h.frameCount.trans h'.frameCount.symm, fun channel offset hc₀ hc₁ ho₀ ho₁ =>
      (h.samples channel offset hc₀ hc₁ ho₀ ho₁).trans
        (h'.samples channel offset hc₀ hc₁ ho₀ ho₁).symm⟩

theorem cachedBlock_holds (generation : Int) (s : EngineState S) (frame : Int)
    (slot : AudioBlock S) :
    HoldsBlock cfg generation s frame (cachedBlock cfg generation s frame slot) :=
  ⟨rfl, rfl, rfl, fun _ _ hc₀ hc₁ ho₀ ho₁ => if_pos ⟨hc₀, hc₁, ho₀, ho₁⟩⟩

/-- A run of blocks from a frame on. -/
structure IsRun (cfg : Config) (generation : Int) (s : EngineState S) (frame : Int)
    (blocks : List (AudioBlock S)) (s' : EngineState S) : Prop where
  position : s'.sched.nextFrameToPublish = blockFrame cfg frame blocks.length
  publishable : ∀ i < blocks.length, Publishable cfg s (blockFrame cfg frame i)
  blocks : ∀ i block, blocks[i]? = some block →
    HoldsBlock cfg generation s (blockFrame cfg frame i) block
  render : s'.render = s.render

theorem blockFrame_add (frame : Int) (n i : ℕ) :
    blockFrame cfg (blockFrame cfg frame n) i = blockFrame cfg frame (n + i) := by
  unfold blockFrame
  rw [Nat.cast_add, Int.add_mul]
  omega

/-- What one call pushes is a run. -/
theorem PublishesRun.isRun {generation cursor : Int} {s s' : EngineState S} {m : ℕ}
    (h : PublishesRun cfg generation cursor s s' m) :
    IsRun cfg generation s (publishFrom s cursor) (newBlocks s s') s' := by
  have hnew : newBlocks s s' = (s.readyQueue.free.take m).mapIdx fun i =>
      cachedBlock cfg generation s (blockFrame cfg (publishFrom s cursor) i) := by
    rw [newBlocks, h.state]
    exact List.drop_left
  have hlength : (newBlocks s s').length = m := by
    rw [hnew, List.length_mapIdx, List.length_take, min_eq_left h.slots]
  refine ⟨?_, fun i hi => h.publishable i (hlength ▸ hi), fun i block hblock => ?_, ?_⟩
  · rw [hlength, h.state]
    rfl
  · rw [hnew, List.getElem?_mapIdx, Option.map_eq_some_iff] at hblock
    obtain ⟨slot, -, rfl⟩ := hblock
    exact cachedBlock_holds generation s _ slot
  · rw [h.state]
    rfl

variable (cfg) in
/-- What one pass pushes is a run of one block or of none. -/
theorem publishNext_isRun (generation : Int) (s : EngineState S) :
    IsRun cfg generation s s.sched.nextFrameToPublish
      (newBlocks s (publishNext cfg generation s).2) (publishNext cfg generation s).2 := by
  have hfirst : blockFrame cfg s.sched.nextFrameToPublish 0 = s.sched.nextFrameToPublish := by
    simp [blockFrame]
  rcases publishNext_cases cfg generation s with
    ⟨samples, slot, free, hlast, hfind, -, heq⟩ | ⟨heq, -⟩
  · rw [heq, nextBlock_eq hfind]
    have hnew : newBlocks s (pushed cfg s (cachedBlock cfg generation s
        s.sched.nextFrameToPublish slot) free) =
        [cachedBlock cfg generation s s.sched.nextFrameToPublish slot] := List.drop_left
    rw [hnew]
    refine ⟨?_, fun i hi => ?_, fun i block hblock => ?_, rfl⟩
    · simp [pushed, blockFrame]
    · obtain rfl : i = 0 := by simpa using hi
      rw [hfirst]
      exact ⟨by omega, by rw [hfind]; rfl⟩
    · obtain ⟨rfl, rfl⟩ : i = 0 ∧ cachedBlock cfg generation s s.sched.nextFrameToPublish slot =
          block := by
        cases i with
        | zero => exact ⟨rfl, Option.some.inj hblock⟩
        | succ i => cases hblock
      rw [hfirst]
      exact cachedBlock_holds generation s _ slot
  · rw [heq, newBlocks, List.drop_length]
    exact ⟨hfirst.symm, fun i hi => absurd hi (Nat.not_lt_zero i),
      fun i block hblock => by simp at hblock, rfl⟩

/-- A run and one that goes on where it ends. -/
theorem IsRun.append {generation frame : Int} {s s' s'' : EngineState S}
    {blocks blocks' : List (AudioBlock S)} (h : IsRun cfg generation s frame blocks s')
    (h' : IsRun cfg generation s' s'.sched.nextFrameToPublish blocks' s'') :
    IsRun cfg generation s frame (blocks ++ blocks') s'' := by
  have hpublishable : ∀ frame, Publishable cfg s' frame ↔ Publishable cfg s frame := fun _ => by
    unfold Publishable
    rw [h.render]
  have hholds : ∀ {frame block}, HoldsBlock cfg generation s' frame block →
      HoldsBlock cfg generation s frame block := fun hb =>
    ⟨hb.generation, hb.firstFrame, hb.frameCount, fun channel offset hc₀ hc₁ ho₀ ho₁ => by
      rw [hb.samples channel offset hc₀ hc₁ ho₀ ho₁, h.render]⟩
  refine ⟨?_, fun i hi => ?_, fun i block hblock => ?_, h'.render.trans h.render⟩
  · rw [h'.position, h.position, blockFrame_add, List.length_append]
  · rcases lt_or_ge i blocks.length with hlt | hge
    · exact h.publishable i hlt
    · rw [List.length_append] at hi
      have hnext := h'.publishable (i - blocks.length) (by omega)
      rw [h.position, blockFrame_add, Nat.add_sub_cancel' hge, hpublishable] at hnext
      exact hnext
  · rcases lt_or_ge i blocks.length with hlt | hge
    · rw [List.getElem?_append_left hlt] at hblock
      exact h.blocks i block hblock
    · rw [List.getElem?_append_right hge] at hblock
      have hnext := h'.blocks (i - blocks.length) block hblock
      rw [h.position, blockFrame_add, Nat.add_sub_cancel' hge] at hnext
      exact hholds hnext

theorem IsRun.position_boundary (hcfg : cfg.Valid) {generation frame : Int}
    {s s' : EngineState S} {blocks : List (AudioBlock S)}
    (h : IsRun cfg generation s frame blocks s') (hframe : BlockBoundary cfg frame) :
    BlockBoundary cfg s'.sched.nextFrameToPublish := by
  rw [h.position]
  refine hframe.blockFrame hcfg ?_
  cases hn : blocks.length with
  | zero =>
    have hle := hframe.2.2
    simpa [blockFrame] using hle
  | succ n =>
    have hlast := (h.publishable n (by omega)).1
    unfold blockFrame at hlast ⊢
    rw [Nat.cast_succ, Int.add_mul]
    omega

/-- Whatever the calls and pops, the blocks published are a run. -/
theorem SplitRun.isRun (hcfg : cfg.Valid) {generation cursor : Int} {s s' : EngineState S}
    (hfrom : BlockBoundary cfg (publishFrom s cursor)) {blocks : List (AudioBlock S)}
    (h : SplitRun cfg generation cursor s blocks s') :
    IsRun cfg generation s (publishFrom s cursor) blocks s' := by
  induction h with
  | first =>
    refine ⟨?_, fun i hi => absurd hi (Nat.not_lt_zero i), fun i block hblock => ?_, rfl⟩
    · simp [blockFrame]
    · simp at hblock
  | @publish blocks s' cursor' h hcursor ih =>
    have hsame : publishFrom s' cursor' = s'.sched.nextFrameToPublish := max_eq_left hcursor
    obtain ⟨m, hrun⟩ := publish_run hcfg generation
      (hsame ▸ ih.position_boundary hcfg hfrom : BlockBoundary cfg (publishFrom s' cursor'))
    have hnext := hrun.isRun
    rw [hsame] at hnext
    exact ih.append hnext
  | pass h ih => exact ih.append (publishNext_isRun cfg generation _)
  | pop h ih => exact ⟨ih.position, ih.publishable, ih.blocks, ih.render⟩

/-- The blocks of a split are those of one call with enough slots, in the same order; all of them,
if none is left to publish. -/
structure SameAsOneCall (cfg : Config) (blocks one : List (AudioBlock S)) (s' : EngineState S) :
    Prop where
  published : List.Forall₂ (SameAudio cfg) blocks (one.take blocks.length)
  complete : ¬Publishable cfg s' s'.sched.nextFrameToPublish →
    List.Forall₂ (SameAudio cfg) blocks one

theorem SplitRun.same (hcfg : cfg.Valid) {generation cursor : Int} {s s' t' : EngineState S}
    (hfrom : BlockBoundary cfg (publishFrom s cursor)) {blocks one : List (AudioBlock S)}
    (h : SplitRun cfg generation cursor s blocks s')
    (hone : IsRun cfg generation s (publishFrom s cursor) one t')
    (henough : ¬Publishable cfg t' t'.sched.nextFrameToPublish) :
    SameAsOneCall cfg blocks one s' := by
  have hrun := h.isRun hcfg hfrom
  have hend : ∀ {n : ℕ} {r : EngineState S}, r.render = s.render →
      r.sched.nextFrameToPublish = blockFrame cfg (publishFrom s cursor) n →
      ¬Publishable cfg r r.sched.nextFrameToPublish →
      ¬Publishable cfg s (blockFrame cfg (publishFrom s cursor) n) := by
    intro n r hrender hposition hno
    unfold Publishable at hno ⊢
    rwa [hrender, hposition] at hno
  have hle : blocks.length ≤ one.length := by
    by_contra hlt
    exact hend hone.render hone.position henough (hrun.publishable _ (not_le.mp hlt))
  have hsame : ∀ i block block', blocks[i]? = some block → one[i]? = some block' →
      SameAudio cfg block block' := fun i block block' hb hb' =>
    (hrun.blocks i block hb).same (hone.blocks i block' hb')
  have hfirst : List.Forall₂ (SameAudio cfg) blocks (one.take blocks.length) := by
    refine List.forall₂_iff_get.mpr ⟨by rw [List.length_take, min_eq_left hle], fun i h₁ h₂ => ?_⟩
    refine hsame i _ _ (List.getElem?_eq_getElem h₁) ?_
    rw [List.get_eq_getElem, List.getElem_take]
    exact List.getElem?_eq_getElem _
  refine ⟨hfirst, fun hno => ?_⟩
  have hge : one.length ≤ blocks.length := by
    by_contra hlt
    exact hend hrun.render hrun.position hno (hone.publishable _ (not_le.mp hlt))
  rwa [List.take_of_length_le hge] at hfirst

/-- What calls of `publish` push: one call the longest run, several calls what one call pushes into
a queue with enough slots. -/
structure Publication (cfg : Config) (generation cursor : Int) (s : EngineState S) : Prop where
  one : ∃ m, PublishesRun cfg generation cursor s ((publish cfg cursor generation).run s).2 m
  split : ∀ blocks s', SplitRun cfg generation cursor s blocks s' → ∀ queue t',
    t' = ((publish cfg cursor generation).run { s with readyQueue := queue }).2 →
      ¬Publishable cfg t' t'.sched.nextFrameToPublish →
        SameAsOneCall cfg blocks (newBlocks { s with readyQueue := queue } t') s'

/-- **The maximal run.** From an aligned position and cursor, `publish` pushes the longest run of
blocks, and any split of its work over several calls publishes the same blocks. -/
theorem publish_maximalRun (cfg : AcceptedConfig) (generation : Int) {cursor : Int}
    {s : EngineState S} (hnext : BlockBoundary cfg.toConfig s.sched.nextFrameToPublish)
    (hcursor : BlockBoundary cfg.toConfig cursor) :
    Publication cfg.toConfig generation cursor s := by
  have hfrom := publishFrom_boundary hnext hcursor
  refine ⟨publish_run cfg.valid generation hfrom, fun blocks s' h queue t' ht' henough => ?_⟩
  obtain ⟨m, hone⟩ := publish_run cfg.valid generation (s := { s with readyQueue := queue }) hfrom
  rw [← ht'] at hone
  have hrun := hone.isRun
  refine h.same cfg.valid hfrom ⟨hrun.position, hrun.publishable, fun i block hblock => ?_,
    hrun.render⟩ henough
  exact { hrun.blocks i block hblock with }

/-- Two chunks of two blocks each. -/
def twoChunkConfig : AcceptedConfig where
  totalFrames := 4096
  audio := { audioBlockFrames := 1024, channelCount := 1 }
  executor := { workerCount := 1, renderTasksQueueCapacity := 8 }
  scheduler := {}
  int32 := by decide
  accepted := by decide

/-- A constructed engine with the first chunk in the cache. -/
def firstChunkCached : EngineState ℤ :=
  let s : EngineState ℤ := .init twoChunkConfig.toConfig
  { s with render.cacheEntries :=
      Function.update s.render.cacheEntries 0 { samples := .make 1 chunkFrames, version := 1 } }

theorem publish_maximalRun_firstChunk :
    Publication twoChunkConfig.toConfig 1 1024 firstChunkCached :=
  publish_maximalRun twoChunkConfig 1 (by unfold BlockBoundary; decide)
    (by unfold BlockBoundary; decide)

end Anasa
