import Anasa.Playback.Cursor

/-!
# The steps of the protocol keep its invariants

One lemma for each step: it keeps `CursorInv`, it is a step that the other side relies on, and it
takes its own side from one state of knowledge to the next.
-/

namespace Anasa

variable {cfg : Config} {c c' : CursorState} {generation frame : Int}

theorem BlockBoundary.align (h : BlockBoundary cfg frame) :
    alignFrameToAudioBlock frame cfg.audio.audioBlockFrames = frame :=
  alignFrameToAudioBlock_of_dvd h.1

theorem BlockBoundary.clamp (h : BlockBoundary cfg frame) :
    clampTimelineBoundary frame cfg.totalFrames = frame :=
  clampTimelineBoundary_of_mem h.2.1 h.2.2

/-- A boundary before the end of the timeline is followed by another one. -/
theorem BlockBoundary.next (hcfg : cfg.Valid) (h : BlockBoundary cfg frame)
    (hlt : frame < cfg.totalFrames) :
    BlockBoundary cfg (frame + cfg.audio.audioBlockFrames) := by
  obtain ⟨⟨a, rfl⟩, h₀, -⟩ := h
  obtain ⟨b, hb⟩ := hcfg.block_dvd_total
  have hB := hcfg.blockFrames_pos
  rw [hb] at hlt
  have hab : a < b := lt_of_mul_lt_mul_left hlt hB.le
  have hle := Int.mul_le_mul_of_nonneg_left (show a + 1 ≤ b by omega) hB.le
  rw [mul_add_one] at hle
  exact ⟨⟨a + 1, (mul_add_one _ _).symm⟩, by omega, by omega⟩

namespace CursorState

/-! ## Answers -/

/-- An answer is a whole number of blocks after the target. -/
theorem Answer.blocks (h : c.Answer cfg generation frame) :
    ∃ j : ℕ, frame =
      c.history.generationTarget generation + j * cfg.audio.audioBlockFrames := by
  rcases h with rfl | ⟨hj, -⟩
  · exact ⟨0, by simp⟩
  · exact hj

theorem Answer.target_le (hcfg : cfg.Valid) (h : c.Answer cfg generation frame) :
    c.history.generationTarget generation ≤ frame := by
  obtain ⟨j, rfl⟩ := h.blocks
  have := mul_nonneg (Int.natCast_nonneg j) hcfg.blockFrames_pos.le
  omega

/-- Later stores do not make an answer wrong. -/
theorem Answer.mono (h : c.Answer cfg generation frame)
    (htarget : c'.history.generationTarget generation = c.history.generationTarget generation)
    (hstores : c.history.cursorStores ⊆ c'.history.cursorStores) :
    c'.Answer cfg generation frame := by
  unfold Answer
  rw [htarget]
  exact h.imp_right fun ⟨hj, st, hst, hs⟩ => ⟨hj, st, hstores hst, hs⟩

end CursorState

/-! ## The scheduler -/

/-- The scheduler is at a place where no target is pending; `editing` if an Edit is handled. -/
structure CursorAt (editing : Bool) (c : CursorState) : Prop where
  targetPending : c.history.targetPending = false
  editing_eq : c.history.editing = editing
  noCursor : editing = false → c.history.editHasCursor = false

/-- The scheduler has begun a generation. -/
def CursorBegun (editing : Bool) (c : CursorState) : Prop :=
  CursorAt editing c ∧ c.history.editHasCursor = false

/-- `currentFrame` has loaded the latest generation. -/
def GenerationRead (editing : Bool) (generation : Int) (c : CursorState) : Prop :=
  CursorAt editing c ∧ c.generation = generation

/-- An Edit has settled on `frame`. -/
def EditAt (editing : Bool) (frame : Int) (c : CursorState) : Prop :=
  editing = true → c.history.editHasCursor = true ∧ c.EditPosition frame

/-- No result in the latest generation is beyond `frame`. -/
def ResultsUpTo (frame : Int) (c : CursorState) : Prop :=
  ∀ r ∈ c.history.currentFrames, r.1 = c.generation → r.2 ≤ frame

/-- `currentFrame` has loaded the generation of the cursor, which is the latest one or not. -/
def CursorGenerationRead (editing : Bool) (generation : Int) (latest : Bool) (c : CursorState) :
    Prop :=
  GenerationRead editing generation c ∧
    if latest then c.cursorGeneration = generation
    else EditAt editing c.target c ∧ ResultsUpTo c.target c

/-- `currentFrame` returns `frame`. -/
structure FrameKnown (cfg : Config) (editing : Bool) (generation frame : Int) (c : CursorState) :
    Prop where
  read : GenerationRead editing generation c
  boundary : BlockBoundary cfg frame
  le_resolved : frame ≤ c.resolved
  results : ResultsUpTo frame c
  answer : c.Answer cfg generation frame
  edit : EditAt editing frame c

namespace SchedulerRely

variable {editing : Bool}

theorem cursorAt (hr : SchedulerRely c c') (h : CursorAt editing c) : CursorAt editing c' :=
  ⟨hr.targetPending.trans h.targetPending, hr.editing.trans h.editing_eq,
    fun he => hr.editHasCursor.trans (h.noCursor he)⟩

theorem cursorBegun (hr : SchedulerRely c c') (h : CursorBegun editing c) :
    CursorBegun editing c' :=
  ⟨hr.cursorAt h.1, hr.editHasCursor.trans h.2⟩

theorem generationRead (hr : SchedulerRely c c') (h : GenerationRead editing generation c) :
    GenerationRead editing generation c' :=
  ⟨hr.cursorAt h.1, hr.generation.trans h.2⟩

theorem editAt (hr : SchedulerRely c c') (h : EditAt editing frame c) :
    EditAt editing frame c' := fun he =>
  ⟨hr.editHasCursor.trans (h he).1, hr.editPosition frame (h he).2⟩

theorem resultsUpTo (hr : SchedulerRely c c') (h : ResultsUpTo frame c) :
    ResultsUpTo frame c' := by
  unfold ResultsUpTo
  rw [hr.results, hr.generation]
  exact h

theorem cursorGenerationRead {latest : Bool} (hr : SchedulerRely c c') (hi : AckInv cfg c')
    (h : CursorGenerationRead editing generation latest c) :
    CursorGenerationRead editing generation latest c' := by
  refine ⟨hr.generationRead h.1, ?_⟩
  have h₂ := h.2
  cases latest with
  | true =>
    -- The cursor generation only grows, and never beyond the latest generation.
    have h₁ := hr.cursorGeneration
    have h₃ := hi.cursor_le
    have h₄ := hi.audio_le
    have h₅ := hi.generation_pos
    have h₆ := (hr.generationRead h.1).2
    rw [if_pos rfl] at h₂ ⊢
    omega
  | false =>
    simp only [Bool.false_eq_true, if_false] at h₂ ⊢
    rw [hr.target]
    exact ⟨hr.editAt h₂.1, hr.resultsUpTo h₂.2⟩

theorem frameKnown (hr : SchedulerRely c c') (h : FrameKnown cfg editing generation frame c) :
    FrameKnown cfg editing generation frame c' where
  read := hr.generationRead h.read
  boundary := h.boundary
  le_resolved := h.le_resolved.trans (hr.resolved h.read.1.targetPending)
  results := hr.resultsUpTo h.results
  answer := h.answer.mono (congrFun hr.generationTarget _) hr.stores
  edit := hr.editAt h.edit

end SchedulerRely

section

variable {editing : Bool}

theorem AckInv.target_le_cursor (hcfg : cfg.Valid) (h : AckInv cfg c)
    (hp : c.history.targetPending = false) (hg : c.cursorGeneration = c.generation) :
    c.target ≤ c.cursor := by
  rw [h.target_eq hp]
  exact (h.progress hp hg).target_le hcfg

/-- The target answers for its generation. -/
theorem CursorInv.target_known (hcfg : cfg.Valid) (h : CursorInv cfg c)
    (hk : CursorGenerationRead editing generation false c) :
    FrameKnown cfg editing generation (clampTimelineBoundary c.target cfg.totalFrames) c := by
  obtain ⟨hread, hedit, hresults⟩ := hk
  have hp := hread.1.targetPending
  rw [h.ack.target_boundary.clamp]
  refine ⟨hread, h.ack.target_boundary, ?_, hresults, .inl (hread.2 ▸ h.ack.target_eq hp), hedit⟩
  unfold CursorState.resolved
  split
  · exact h.ack.target_le_cursor hcfg hp ‹_›
  · exact le_rfl

/-- What an Edit takes when it settles on the target. -/
theorem CursorInv.target_position (h : CursorInv cfg c) (hp : c.history.targetPending = false)
    (hg : c.cursorGeneration ≠ c.generation) : c.EditPosition c.target := by
  intro _ hlate
  refine ⟨le_rfl, fun hs => ?_⟩
  by_cases ha : c.audio.generation = c.generation
  · exact (h.rewind.adopting (by rwa [ha, ne_comm]) ha hp).le
  · exact h.rewind.target_ge hlate (.inr ha) hs

/-- What an Edit takes when it settles on the cursor. -/
theorem CursorInv.cursor_position (hcfg : cfg.Valid) (h : CursorInv cfg c)
    (hp : c.history.targetPending = false) (hg : c.cursorGeneration = c.generation) :
    c.EditPosition c.cursor := by
  intro _ hlate
  have hle := h.ack.target_le_cursor hcfg hp hg
  refine ⟨hle, fun hs => ?_⟩
  by_cases ha : c.audio.generation = c.generation
  · exact h.rewind.expected_le hp hg ha
  · exact (h.rewind.target_ge hlate (.inr ha) hs).trans hle

/-- The flags of an Edit do not matter to the invariants. -/
theorem CursorInv.setFlags (h : CursorInv cfg c) (editing hasCursor : Bool) :
    CursorInv cfg { c with
      history := { c.history with editing := editing, editHasCursor := hasCursor } } :=
  ⟨{ h.ack with }, { h.rewind with }⟩

theorem AudioRely.setFlags (c : CursorState) (editing hasCursor : Bool) :
    AudioRely c { c with
      history := { c.history with editing := editing, editHasCursor := hasCursor } } :=
  ⟨rfl, rfl, rfl, le_rfl, fun _ h => ⟨h, rfl⟩, fun _ _ => rfl⟩

theorem CursorInv.readCursorGeneration (h : CursorInv cfg c)
    (hk : GenerationRead editing generation c) :
    CursorInv cfg (c.readCursorGeneration generation) ∧
      AudioRely c (c.readCursorGeneration generation) ∧
      CursorGenerationRead editing generation (c.cursorGeneration == generation)
        (c.readCursorGeneration generation) := by
  refine ⟨h.setFlags _ _, .setFlags c _ _, ⟨⟨hk.1.targetPending, hk.1.editing_eq, fun he => ?_⟩,
    hk.2⟩, ?_⟩
  · simp only [CursorState.readCursorGeneration, PlaybackHistory.cursorGenerationRead,
      hk.1.noCursor he, hk.1.editing_eq, he, ite_self]
  · by_cases hg : c.cursorGeneration = generation
    · simp only [hg, beq_self_eq_true, if_true]
      exact hg
    · have hg' : c.cursorGeneration ≠ c.generation := hk.2 ▸ hg
      have hbeq : (c.cursorGeneration == generation) = false := beq_eq_false_iff_ne.mpr hg
      simp only [hbeq, Bool.false_eq_true, if_false]
      refine ⟨fun he => ⟨?_, (h.setFlags _ _).target_position hk.1.targetPending hg'⟩,
        fun r hr hrg => ?_⟩
      · simp only [CursorState.readCursorGeneration, PlaybackHistory.cursorGenerationRead, hbeq,
          Bool.false_eq_true, if_false, hk.1.editing_eq, he]
      · exact (h.ack.results_le hk.1.targetPending r hr hrg).trans (if_neg hg').le

theorem CursorInv.readCursor (hcfg : cfg.Valid) (h : CursorInv cfg c)
    (hk : CursorGenerationRead editing generation true c) :
    CursorInv cfg c.readCursor ∧ AudioRely c c.readCursor ∧
      FrameKnown cfg editing generation (clampTimelineBoundary c.cursor cfg.totalFrames)
        c.readCursor := by
  obtain ⟨hread, hg⟩ := hk
  rw [if_pos rfl] at hg
  have hp := hread.1.targetPending
  have hg' : c.cursorGeneration = c.generation := hg.trans hread.2.symm
  have hi : CursorInv cfg c.readCursor := h.setFlags _ _
  rw [h.ack.cursor_boundary.clamp]
  refine ⟨hi, .setFlags c _ _, ⟨⟨hp, hread.1.editing_eq, fun he => ?_⟩, hread.2⟩,
    h.ack.cursor_boundary, ?_, fun r hr hrg => ?_, ?_,
    fun he => ⟨hread.1.editing_eq.trans he, ?_⟩⟩
  · exact hread.1.editing_eq.trans he
  · exact (if_pos hg').ge
  · exact (h.ack.results_le hp r hr hrg).trans (if_pos hg').le
  · exact (hread.2 ▸ h.ack.progress hp hg').mono rfl fun _ hst => hst
  · exact hi.cursor_position hcfg hp hg'

/-- A target is stored: where a Seek wants it, or where an Edit settled. -/
theorem CursorInv.storeTarget (h : CursorInv cfg c) (hk : CursorAt editing c)
    (hb : BlockBoundary cfg frame) (hedit : EditAt editing frame c) :
    CursorInv cfg (c.storeTarget frame) ∧ AudioRely c (c.storeTarget frame) := by
  have hseeks : (c.storeTarget frame).history.seeks =
      if editing then c.history.seeks else c.history.seeks + 1 := by
    rw [← hk.editing_eq]
    rfl
  have hle : c.history.audioSeeks ≤ (c.storeTarget frame).history.seeks := by
    have := h.rewind.audioSeeks_le
    rw [hseeks]
    split <;> omega
  refine ⟨⟨{ h.ack with
      target_boundary := hb
      target_eq := nofun
      progress := nofun
      results_le := nofun }, { h.rewind with
      audioSeeks_le := hle
      adopting := nofun
      expected_le := nofun
      target_ge := fun hlate _ hs => ?_ }⟩,
    ⟨rfl, rfl, rfl, le_rfl, fun _ => nofun, fun _ _ => rfl⟩⟩
  -- Only an Edit keeps the number of Seeks, and it has settled on the target.
  have hs' : c.history.audioSeeks = (c.storeTarget frame).history.seeks := hs
  rw [hseeks] at hs'
  have haudio := h.rewind.audioSeeks_le
  split at hs'
  · obtain ⟨hcursor, hposition⟩ := hedit ‹_›
    exact (hposition hcursor hlate).2 hs'
  · omega

/-- The generation of the stored target begins. -/
theorem CursorInv.beginGeneration (h : CursorInv cfg c)
    (hp : c.history.targetPending = true) (hediting : c.history.editing = editing)
    (ht : c.target = frame) :
    CursorInv cfg (c.beginGeneration frame) ∧ AudioRely c (c.beginGeneration frame) ∧
      CursorBegun editing (c.beginGeneration frame) := by
  have hold : ∀ g ≤ c.generation, (c.beginGeneration frame).history.generationTarget g =
      c.history.generationTarget g := fun g hg => Function.update_of_ne (by omega) ..
  have haudio := h.ack.audio_le
  have hcursor := h.ack.cursor_le
  have hpos := h.ack.generation_pos
  have hne : c.cursorGeneration ≠ c.generation + 1 := by omega
  have hne' : c.audio.generation ≠ c.generation + 1 := by omega
  refine ⟨⟨{ h.ack with
      generation_pos := by simp only [CursorState.beginGeneration]; omega
      audio_le := by simp only [CursorState.beginGeneration]; omega
      target_eq := fun _ => ?_
      progress := fun _ hg => absurd hg hne
      results := fun r hr => ?_
      results_le := fun _ r hr hg => ?_ }, { h.rewind with
      adopting := fun _ hg => absurd hg hne'
      expected_le := fun _ hg => absurd hg hne
      target_ge := fun hlate _ hs => h.rewind.target_ge hlate (.inl hp) hs }⟩,
    ⟨rfl, rfl, rfl, by simp only [CursorState.beginGeneration]; omega, fun hg => ?_, hold⟩,
    ⟨rfl, hediting, fun _ => rfl⟩, rfl⟩
  · exact ht.trans (Function.update_self (c.generation + 1) frame
      c.history.generationTarget).symm
  · obtain ⟨h₁, h₂, h₃⟩ := h.ack.results r hr
    exact ⟨by simp only [CursorState.beginGeneration]; omega, h₂,
      h₃.mono (hold _ h₁) fun _ hst => hst⟩
  · have h₁ := (h.ack.results r hr).1
    simp only [CursorState.beginGeneration] at hg
    omega
  · simp only [CursorState.beginGeneration] at hg
    omega

/-- A result of `currentFrame` is recorded. -/
theorem CursorInv.record (h : CursorInv cfg c)
    (hk : FrameKnown cfg editing generation frame c) :
    CursorInv cfg (c.record generation frame) ∧ AudioRely c (c.record generation frame) := by
  refine ⟨⟨{ h.ack with
      results := fun r hr => ?_
      results_le := fun hp r hr hg => ?_
      results_mono := ?_ }, { h.rewind with }⟩,
    ⟨rfl, rfl, rfl, le_rfl, fun _ h => ⟨h, rfl⟩, fun _ _ => rfl⟩⟩
  · rcases List.mem_cons.mp hr with rfl | hr
    · exact ⟨hk.read.2.ge, hk.boundary, hk.answer⟩
    · exact h.ack.results r hr
  · rcases List.mem_cons.mp hr with rfl | hr
    · exact hk.le_resolved
    · exact h.ack.results_le hp r hr hg
  · refine List.pairwise_cons.mpr ⟨fun r hr hg => ?_, h.ack.results_mono⟩
    exact hk.results r hr (hg.symm.trans hk.read.2.symm)

end

/-! ## The callback -/

/-- A callback loads the generation. -/
theorem AckInv.audioLoaded (h : AckInv cfg c) (hk : AudioSettled c) :
    AudioLoaded c.generation c :=
  ⟨hk, h.generation_pos, h.audio_le, le_rfl⟩

/-- The callback loads the target of a generation that is not its own. -/
theorem CursorInv.loadTarget (hcfg : cfg.Valid) (h : CursorInv cfg c) (hk : AudioLoaded generation c)
    (hne : c.audio.generation ≠ generation) :
    CursorInv cfg (c.loadTarget generation c.target) ∧
      SchedulerRely c (c.loadTarget generation c.target) ∧
      AudioTargetLoaded generation c.target (c.loadTarget generation c.target) := by
  obtain ⟨hsettled, hpos, hle, hlatest⟩ := hk
  have hlt : c.audio.generation < generation := by omega
  have hcursor := h.ack.cursor_le
  have hnonneg := h.ack.audio_nonneg
  have hbehind : c.audio.generation ≠ c.generation := by omega
  refine ⟨⟨{ h.ack with
      audio_nonneg := by simp only [CursorState.loadTarget]; omega
      audio_le := hlatest
      cursor_le := by simp only [CursorState.loadTarget]; omega
      expected_boundary := h.ack.target_boundary }, { h.rewind with
      stores_seeks := fun st hst => ?_
      audioSeeks_le := le_rfl
      adopting := fun _ _ _ => rfl
      expected_le := fun hp hg _ => ?_
      stores_le := fun hlate st hst hs => ?_
      target_ge := fun _ _ _ => le_rfl }⟩,
    ⟨rfl, rfl, rfl, rfl, rfl, rfl, rfl, le_rfl, List.Subset.refl _, fun _ => le_rfl, ?_⟩,
    ⟨⟨rfl, hpos, hlatest, fun _ _ => rfl⟩, fun hg => ?_⟩⟩
  · exact (h.rewind.stores_seeks st hst).trans h.rewind.audioSeeks_le
  · exact h.ack.target_le_cursor hcfg hp hg
  · -- Stores since the last Seek are not beyond the new target.
    have hs' : st.seeks = c.history.seeks := hs
    have h₁ := h.rewind.stores_seeks st hst
    have h₂ := h.rewind.audioSeeks_le
    exact (h.rewind.stores_le hlate st hst (by omega)).trans
      (h.rewind.target_ge hlate (.inr hbehind) (by omega))
  · exact fun frame hf hcursor hlate => ⟨(hf hcursor hlate).1, fun _ => (hf hcursor hlate).1⟩
  · -- The first generation is acknowledged from the start.
    rcases hsettled.2 with ⟨-, hone, hfirst⟩ | ⟨heq, -⟩
    · have hg' : c.cursorGeneration = generation := hg
      rw [← hg', hone]
      exact hfirst
    · exact absurd (heq.trans hg) hne

theorem AudioAdopting.cursor_le (hk : AudioAdopting generation frame c) (h : AckInv cfg c) :
    c.cursorGeneration ≤ generation := by
  have hle := h.cursor_le
  have haudio : c.audio.generation = generation := congrArg AudioState.generation hk.audio
  have h₁ := hk.generation_pos
  omega

/-- A callback that adopts an acknowledged generation adopts the first one. -/
theorem AudioTargetLoaded.cursor_eq (hk : AudioTargetLoaded generation frame c)
    (h : AckInv cfg c) (hp : c.history.targetPending = false)
    (hg : c.cursorGeneration = c.generation) :
    generation = c.generation ∧ c.cursor = frame := by
  have h₁ := hk.1.cursor_le h
  have h₂ := hk.1.generation_le
  have heq : generation = c.generation := by omega
  refine ⟨heq, ?_⟩
  rw [hk.2 (hg.trans heq.symm), hk.1.target heq hp, h.target_eq hp, heq]

/-- The callback stores the cursor of the generation it adopts. -/
theorem CursorInv.storeCursor (h : CursorInv cfg c)
    (hk : AudioTargetLoaded generation frame c) :
    CursorInv cfg (c.storeCursor generation frame) ∧
      SchedulerRely c (c.storeCursor generation frame) ∧
      AudioStored generation frame (c.storeCursor generation frame) := by
  have hexpected : c.audio.expectedBlockStartFrame = frame :=
    congrArg AudioState.expectedBlockStartFrame hk.1.audio
  have hsub : c.history.cursorStores ⊆ (c.storeCursor generation frame).history.cursorStores :=
    List.subset_cons_self _ _
  have hresolved : c.history.targetPending = false →
      (c.storeCursor generation frame).resolved = c.resolved := by
    intro hp
    by_cases hg : c.cursorGeneration = c.generation
    · exact (if_pos hg).trans ((if_pos hg).trans (hk.cursor_eq h.ack hp hg).2).symm
    · exact (if_neg hg).trans (if_neg hg).symm
  refine ⟨⟨{ h.ack with
      cursor_boundary := hexpected ▸ h.ack.expected_boundary
      progress := fun hp hg => .inl ?_
      results := fun r hr => ?_
      results_le := fun hp r hr hg => ?_ }, { h.rewind with
      stores_seeks := fun st hst => ?_
      expected_le := fun _ _ _ => hexpected.le
      noRewind := fun hlate => ?_
      stores_le := fun hlate st hst hs => ?_ }⟩,
    ⟨rfl, rfl, rfl, rfl, rfl, rfl, rfl, le_rfl, hsub, fun hp => (hresolved hp).ge,
      fun _ hf => hf⟩,
    ⟨⟨hk.1.audio, hk.1.generation_pos, hk.1.generation_le, hk.1.target⟩, rfl⟩⟩
  · have heq := (hk.cursor_eq h.ack hp hg).1
    exact (hk.1.target heq hp).trans (h.ack.target_eq hp)
  · obtain ⟨h₁, h₂, h₃⟩ := h.ack.results r hr
    exact ⟨h₁, h₂, h₃.mono rfl hsub⟩
  · exact (h.ack.results_le hp r hr hg).trans (hresolved hp).ge
  · rcases List.mem_cons.mp hst with rfl | hst
    · exact le_rfl
    · exact h.rewind.stores_seeks st hst
  · refine List.pairwise_cons.mpr ⟨fun st hst hs => ?_, h.rewind.noRewind hlate⟩
    exact hexpected ▸ h.rewind.stores_le hlate st hst hs.symm
  · rcases List.mem_cons.mp hst with rfl | hst
    · exact hexpected.ge
    · exact h.rewind.stores_le hlate st hst hs

/-- The callback acknowledges the generation it adopts. -/
theorem CursorInv.acknowledge (h : CursorInv cfg c) (hk : AudioStored generation frame c) :
    CursorInv cfg (c.acknowledge generation) ∧ SchedulerRely c (c.acknowledge generation) ∧
      AudioFollows generation frame (c.acknowledge generation) := by
  obtain ⟨hk, hcursor⟩ := hk
  have haudio : c.audio.generation = generation := congrArg AudioState.generation hk.audio
  have hexpected : c.audio.expectedBlockStartFrame = frame :=
    congrArg AudioState.expectedBlockStartFrame hk.audio
  have hpos := hk.generation_pos
  have hresolved : c.history.targetPending = false →
      (c.acknowledge generation).resolved = c.resolved := by
    intro hp
    by_cases hg : generation = c.generation
    · have hold : c.resolved = frame := by
        unfold CursorState.resolved
        split
        · exact hcursor
        · exact (hk.target hg hp).symm
      exact (if_pos hg).trans (hcursor.trans hold.symm)
    · have hg' : c.cursorGeneration ≠ c.generation := by
        have := hk.cursor_le h.ack
        have := hk.generation_le
        omega
      exact (if_neg hg).trans (if_neg hg').symm
  refine ⟨⟨{ h.ack with
      cursor_pos := hpos
      cursor_le := by simp only [CursorState.acknowledge]; omega
      progress := fun hp hg => .inl ?_
      results_le := fun hp r hr hg => ?_ }, { h.rewind with
      adopting := fun hne => absurd haudio hne
      expected_le := fun _ _ _ => (hexpected.trans hcursor.symm).le }⟩,
    ⟨rfl, rfl, rfl, rfl, rfl, rfl, rfl, hk.cursor_le h.ack, List.Subset.refl _,
      fun hp => (hresolved hp).ge, fun _ hf => hf⟩, ⟨hk.audio, rfl, hcursor⟩⟩
  · exact (hcursor.trans (hk.target hg hp)).trans (h.ack.target_eq hp)
  · exact (h.ack.results_le hp r hr hg).trans (hresolved hp).ge

/-- No advance is late: since the last Seek no Edit has settled, and the callback has loaded the
generation of the target that it follows. -/
theorem PlaybackHistory.not_late {history : PlaybackHistory} {current : Int}
    (h : (history.cursorAdvanced generation current frame).lateAdvances = 0) :
    history.lateAdvances = 0 ∧ (history.audioSeeks = history.seeks →
      history.editHasCursor = false ∧ history.targetPending = false ∧ generation = current) := by
  unfold PlaybackHistory.cursorAdvanced at h
  dsimp only at h
  split at h
  · exact absurd h (Nat.succ_ne_zero _)
  · rename_i hnot
    simp only [Bool.or_eq_true, Bool.and_eq_true, beq_iff_eq, bne_iff_ne, ne_eq, not_or,
      not_and, Bool.not_eq_true, not_not] at hnot
    exact ⟨h, fun hs => ⟨(hnot hs).1.1, (hnot hs).1.2, (hnot hs).2⟩⟩

/-- The callback advances by one block. -/
theorem CursorInv.advance (hcfg : cfg.Valid) (h : CursorInv cfg c)
    (hk : AudioFollows generation frame c) (hlt : frame < cfg.totalFrames) :
    CursorInv cfg (c.advance generation (frame + cfg.audio.audioBlockFrames)) ∧
      SchedulerRely c (c.advance generation (frame + cfg.audio.audioBlockFrames)) ∧
      AudioFollows generation (frame + cfg.audio.audioBlockFrames)
        (c.advance generation (frame + cfg.audio.audioBlockFrames)) := by
  have hB := hcfg.blockFrames_pos
  have haudio : c.audio.generation = generation := congrArg AudioState.generation hk.audio
  have hexpected : c.audio.expectedBlockStartFrame = frame :=
    congrArg AudioState.expectedBlockStartFrame hk.audio
  have hcursor := hk.cursor
  have hcg := hk.cursorGeneration
  have hnext := (hexpected ▸ h.ack.expected_boundary).next hcfg hlt
  have hsub : c.history.cursorStores ⊆
      (c.advance generation (frame + cfg.audio.audioBlockFrames)).history.cursorStores :=
    List.subset_cons_self _ _
  have hresolved :
      c.resolved ≤ (c.advance generation (frame + cfg.audio.audioBlockFrames)).resolved := by
    by_cases hg : c.cursorGeneration = c.generation
    · rw [CursorState.resolved, if_pos hg]
      refine le_trans ?_ (if_pos hg).ge
      simp only [CursorState.advance]
      omega
    · exact (if_neg hg).le.trans (if_neg hg).ge
  refine ⟨⟨{ h.ack with
      cursor_boundary := hnext
      expected_boundary := hnext
      progress := fun hp hg => .inr ⟨?_, _, List.mem_cons_self, hcg.symm.trans hg, rfl⟩
      results := fun r hr => ?_
      results_le := fun hp r hr hg => (h.ack.results_le hp r hr hg).trans hresolved },
    { h.rewind with
      stores_seeks := fun st hst => ?_
      adopting := fun hne => absurd (haudio.trans hcg.symm) hne
      expected_le := fun _ _ _ => le_rfl
      noRewind := fun hlate => ?_
      stores_le := fun hlate st hst hs => ?_
      target_ge := fun hlate hbehind hs => ?_ }⟩,
    ⟨rfl, rfl, rfl, rfl, rfl, rfl, rfl, le_rfl, hsub, fun _ => hresolved,
      fun position hposition hedit hlate => ?_⟩,
    ⟨by simp only [CursorState.advance, haudio], hcg, rfl⟩⟩
  · obtain ⟨j, hj⟩ := (h.ack.progress hp hg).blocks
    refine ⟨j + 1, ?_⟩
    have hj' : frame = c.history.generationTarget c.generation +
        j * cfg.audio.audioBlockFrames := hcursor.symm.trans hj
    show frame + cfg.audio.audioBlockFrames = c.history.generationTarget c.generation + _
    rw [hj', Int.natCast_succ, Int.add_mul, Int.one_mul, Int.add_assoc]
  · obtain ⟨h₁, h₂, h₃⟩ := h.ack.results r hr
    exact ⟨h₁, h₂, h₃.mono rfl hsub⟩
  · rcases List.mem_cons.mp hst with rfl | hst
    · exact le_rfl
    · exact h.rewind.stores_seeks st hst
  · have hlate' := (PlaybackHistory.not_late hlate).1
    refine List.pairwise_cons.mpr ⟨fun st hst hs => ?_, h.rewind.noRewind hlate'⟩
    have := h.rewind.stores_le hlate' st hst hs.symm
    simp only
    omega
  · have hlate' := (PlaybackHistory.not_late hlate).1
    rcases List.mem_cons.mp hst with rfl | hst
    · exact le_rfl
    · have := h.rewind.stores_le hlate' st hst hs
      simp only [CursorState.advance]
      omega
  · -- An advance behind the latest target is late.
    obtain ⟨-, hp, hg⟩ := (PlaybackHistory.not_late hlate).2 hs
    rcases hbehind with hb | hb
    · exact absurd (hp.symm.trans hb) Bool.false_ne_true
    · exact absurd (haudio.trans hg) hb
  · obtain ⟨hlate', hnot⟩ := PlaybackHistory.not_late hlate
    refine ⟨(hposition hedit hlate').1, fun hs => ?_⟩
    exact absurd ((hnot hs).1.symm.trans hedit) Bool.false_ne_true

end Anasa
