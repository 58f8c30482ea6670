import Anasa.Model.State

/-!
# The protocol of generations and cursors

What the scheduler and the audio callback exchange, on its own: the generation, its target, and
the cursor that the callback acknowledges the generation with (`CursorState`).

1. The *scheduler* stores a target, then begins its generation. To know where playback is it
   loads the cursor, but only if the cursor is of the latest generation.
2. The *callback* loads a generation that is new to it and then the target, stores the cursor,
   acknowledges the generation, and from then on advances the cursor block by block.

Each access of either side is a step of its own here. `AckInv` is the invariant behind the
results of `currentFrame`, `RewindInv` the one behind the order of the consumer's positions.
-/

namespace Anasa

/-- A multiple of the block size within the timeline, its end included. -/
def BlockBoundary (cfg : Config) (frame : Int) : Prop :=
  cfg.audio.audioBlockFrames ∣ frame ∧ 0 ≤ frame ∧ frame ≤ cfg.totalFrames

/-- The state of the protocol. -/
structure CursorState where
  generation : Int
  target : Int
  cursor : Int
  cursorGeneration : Int
  audio : AudioState
  history : PlaybackHistory

namespace CursorState

variable (c : CursorState)

/-! ## Steps of the scheduler -/

def storeTarget (target : Int) : CursorState :=
  { c with target, history := c.history.targetStored }

def beginGeneration (target : Int) : CursorState :=
  { c with
    generation := c.generation + 1
    history := c.history.generationBegun (c.generation + 1) target }

def readCursorGeneration (generation : Int) : CursorState :=
  { c with history := c.history.cursorGenerationRead (c.cursorGeneration == generation) }

def readCursor : CursorState := { c with history := c.history.cursorRead }

/-- A result of `currentFrame`. -/
def record (generation frame : Int) : CursorState :=
  { c with history.currentFrames := (generation, frame) :: c.history.currentFrames }

/-! ## Steps of the callback -/

def loadTarget (generation frame : Int) : CursorState :=
  { c with audio := ⟨generation, frame⟩, history := c.history.targetLoaded }

def storeCursor (generation frame : Int) : CursorState :=
  { c with cursor := frame, history := c.history.cursorStored generation frame }

def acknowledge (generation : Int) : CursorState := { c with cursorGeneration := generation }

def advance (generation frame : Int) : CursorState :=
  { c with
    audio := { c.audio with expectedBlockStartFrame := frame }
    cursor := frame
    history := c.history.cursorAdvanced generation c.generation frame }

/-! ## Positions -/

/-- What `currentFrame` returns when nothing happens meanwhile. -/
def resolved : Int := if c.cursorGeneration = c.generation then c.cursor else c.target

/-- A position that is right for a generation: its target, or one at a whole number of blocks
after it which a callback that had loaded the generation stored. -/
def Answer (cfg : Config) (generation frame : Int) : Prop :=
  frame = c.history.generationTarget generation ∨
    (∃ j : ℕ, frame = c.history.generationTarget generation + j * cfg.audio.audioBlockFrames) ∧
      ∃ st ∈ c.history.cursorStores, st.generation = generation ∧ st.frame = frame

/-- An Edit that has settled on `frame` loses nothing: the consumer has not gone beyond it, and
neither does it by following the target. -/
def EditPosition (frame : Int) : Prop :=
  c.history.editHasCursor = true → c.history.lateAdvances = 0 →
    c.target ≤ frame ∧
      (c.history.audioSeeks = c.history.seeks → c.audio.expectedBlockStartFrame ≤ frame)

end CursorState

/-- Between two Seeks the stored positions, the latest first, do not decrease in time. -/
def NoRewind (stores : List CursorStore) : Prop :=
  stores.Pairwise fun later earlier => later.seeks = earlier.seeks → earlier.frame ≤ later.frame

/-! ## Invariants -/

/-- The cursor of the latest generation is progress of that generation. -/
structure AckInv (cfg : Config) (c : CursorState) : Prop where
  generation_pos : 1 ≤ c.generation
  audio_nonneg : 0 ≤ c.audio.generation
  audio_le : c.audio.generation ≤ c.generation
  cursor_pos : 1 ≤ c.cursorGeneration
  cursor_le : c.cursorGeneration ≤ max 1 c.audio.generation
  target_boundary : BlockBoundary cfg c.target
  cursor_boundary : BlockBoundary cfg c.cursor
  expected_boundary : BlockBoundary cfg c.audio.expectedBlockStartFrame
  target_eq : c.history.targetPending = false →
    c.target = c.history.generationTarget c.generation
  progress : c.history.targetPending = false → c.cursorGeneration = c.generation →
    c.Answer cfg c.generation c.cursor
  results : ∀ r ∈ c.history.currentFrames,
    r.1 ≤ c.generation ∧ BlockBoundary cfg r.2 ∧ c.Answer cfg r.1 r.2
  results_le : c.history.targetPending = false → ∀ r ∈ c.history.currentFrames,
    r.1 = c.generation → r.2 ≤ c.resolved
  results_mono : c.history.currentFrames.Pairwise fun later earlier =>
    later.1 = earlier.1 → earlier.2 ≤ later.2

/-- Without late advances the positions between two Seeks do not decrease. -/
structure RewindInv (c : CursorState) : Prop where
  stores_seeks : ∀ st ∈ c.history.cursorStores, st.seeks ≤ c.history.audioSeeks
  audioSeeks_le : c.history.audioSeeks ≤ c.history.seeks
  /-- A callback that has loaded the target and not acknowledged it expects the target. -/
  adopting : c.audio.generation ≠ c.cursorGeneration → c.audio.generation = c.generation →
    c.history.targetPending = false → c.audio.expectedBlockStartFrame = c.target
  expected_le : c.history.targetPending = false → c.cursorGeneration = c.generation →
    c.audio.generation = c.generation → c.audio.expectedBlockStartFrame ≤ c.cursor
  noRewind : c.history.lateAdvances = 0 → NoRewind c.history.cursorStores
  stores_le : c.history.lateAdvances = 0 → ∀ st ∈ c.history.cursorStores,
    st.seeks = c.history.audioSeeks → st.frame ≤ c.audio.expectedBlockStartFrame
  /-- A target that the callback does not follow yet is not behind it, if no Seek chose it. -/
  target_ge : c.history.lateAdvances = 0 →
    c.history.targetPending = true ∨ c.audio.generation ≠ c.generation →
    c.history.audioSeeks = c.history.seeks → c.audio.expectedBlockStartFrame ≤ c.target

structure CursorInv (cfg : Config) (c : CursorState) : Prop where
  ack : AckInv cfg c
  rewind : RewindInv c

/-! ## What the two sides rely on -/

/-- What the callback relies on: the steps of the scheduler. -/
structure AudioRely (c c' : CursorState) : Prop where
  audio : c'.audio = c.audio
  cursor : c'.cursor = c.cursor
  cursorGeneration : c'.cursorGeneration = c.cursorGeneration
  generation : c.generation ≤ c'.generation
  target : c'.generation = c.generation → c'.history.targetPending = false →
    c.history.targetPending = false ∧ c'.target = c.target
  generationTarget : ∀ g ≤ c.generation,
    c'.history.generationTarget g = c.history.generationTarget g

/-- What the scheduler relies on: the steps of the callback. -/
structure SchedulerRely (c c' : CursorState) : Prop where
  generation : c'.generation = c.generation
  target : c'.target = c.target
  generationTarget : c'.history.generationTarget = c.history.generationTarget
  targetPending : c'.history.targetPending = c.history.targetPending
  editing : c'.history.editing = c.history.editing
  editHasCursor : c'.history.editHasCursor = c.history.editHasCursor
  results : c'.history.currentFrames = c.history.currentFrames
  cursorGeneration : c.cursorGeneration ≤ c'.cursorGeneration
  stores : c.history.cursorStores ⊆ c'.history.cursorStores
  resolved : c.history.targetPending = false → c.resolved ≤ c'.resolved
  editPosition : ∀ frame, c.EditPosition frame → c'.EditPosition frame

theorem AudioRely.refl (c : CursorState) : AudioRely c c :=
  ⟨rfl, rfl, rfl, le_rfl, fun _ h => ⟨h, rfl⟩, fun _ _ => rfl⟩

theorem AudioRely.trans {c c' c'' : CursorState} (h : AudioRely c c') (h' : AudioRely c' c'') :
    AudioRely c c'' where
  audio := h'.audio.trans h.audio
  cursor := h'.cursor.trans h.cursor
  cursorGeneration := h'.cursorGeneration.trans h.cursorGeneration
  generation := h.generation.trans h'.generation
  target hg hp := by
    have h₁ := h.generation
    have h₂ := h'.generation
    obtain ⟨hp', ht'⟩ := h'.target (by omega) hp
    obtain ⟨hp'', ht⟩ := h.target (by omega) hp'
    exact ⟨hp'', ht'.trans ht⟩
  generationTarget g hg :=
    (h'.generationTarget g (hg.trans h.generation)).trans (h.generationTarget g hg)

theorem SchedulerRely.refl (c : CursorState) : SchedulerRely c c :=
  ⟨rfl, rfl, rfl, rfl, rfl, rfl, rfl, le_rfl, List.Subset.refl _, fun _ => le_rfl, fun _ h => h⟩

theorem SchedulerRely.trans {c c' c'' : CursorState} (h : SchedulerRely c c')
    (h' : SchedulerRely c' c'') : SchedulerRely c c'' where
  generation := h'.generation.trans h.generation
  target := h'.target.trans h.target
  generationTarget := h'.generationTarget.trans h.generationTarget
  targetPending := h'.targetPending.trans h.targetPending
  editing := h'.editing.trans h.editing
  editHasCursor := h'.editHasCursor.trans h.editHasCursor
  results := h'.results.trans h.results
  cursorGeneration := h.cursorGeneration.trans h'.cursorGeneration
  stores := List.Subset.trans h.stores h'.stores
  resolved hp := (h.resolved hp).trans (h'.resolved (h.targetPending.trans hp))
  editPosition frame hf := h'.editPosition frame (h.editPosition frame hf)

/-! ## What each side knows -/

/-- The callback between two blocks: it follows no generation yet, or the acknowledged one. -/
def AudioSettled (c : CursorState) : Prop :=
  1 ≤ c.generation ∧
    ((c.audio.generation = 0 ∧ c.cursorGeneration = 1 ∧
        c.cursor = c.history.generationTarget 1) ∨
      (c.audio.generation = c.cursorGeneration ∧ c.cursor = c.audio.expectedBlockStartFrame))

/-- The callback has loaded a generation. -/
def AudioLoaded (generation : Int) (c : CursorState) : Prop :=
  AudioSettled c ∧ 1 ≤ generation ∧ c.audio.generation ≤ generation ∧ generation ≤ c.generation

/-- The callback adopts a generation: it has loaded it and a target. -/
structure AudioAdopting (generation frame : Int) (c : CursorState) : Prop where
  audio : c.audio = ⟨generation, frame⟩
  generation_pos : 1 ≤ generation
  generation_le : generation ≤ c.generation
  target : generation = c.generation → c.history.targetPending = false → frame = c.target

/-- The callback has loaded a target. The first generation is acknowledged from the start. -/
def AudioTargetLoaded (generation frame : Int) (c : CursorState) : Prop :=
  AudioAdopting generation frame c ∧
    (c.cursorGeneration = generation → c.cursor = c.history.generationTarget generation)

/-- The callback has loaded a target and stored the cursor. -/
def AudioStored (generation frame : Int) (c : CursorState) : Prop :=
  AudioAdopting generation frame c ∧ c.cursor = frame

/-- The callback follows a generation and expects the block at `frame`. -/
structure AudioFollows (generation frame : Int) (c : CursorState) : Prop where
  audio : c.audio = ⟨generation, frame⟩
  cursorGeneration : c.cursorGeneration = generation
  cursor : c.cursor = frame

section

variable {c c' : CursorState} {generation frame : Int}

theorem AudioFollows.settled (h : AudioFollows generation frame c) (hpos : 1 ≤ c.generation) :
    AudioSettled c :=
  ⟨hpos, .inr ⟨by rw [h.audio, h.cursorGeneration], by rw [h.cursor, h.audio]⟩⟩

theorem AudioLoaded.follows (h : AudioLoaded generation c)
    (hg : c.audio.generation = generation) :
    AudioFollows generation c.audio.expectedBlockStartFrame c := by
  obtain ⟨hs, hpos, -, -⟩ := h
  rcases hs.2 with ⟨hz, -⟩ | ⟨hcg, hcursor⟩
  · omega
  · exact ⟨by rw [← hg], hcg.symm.trans hg, hcursor⟩

theorem AudioRely.settled (hr : AudioRely c c') (h : AudioSettled c) : AudioSettled c' := by
  unfold AudioSettled
  rw [hr.audio, hr.cursor, hr.cursorGeneration, hr.generationTarget 1 h.1]
  exact ⟨h.1.trans hr.generation, h.2⟩

theorem AudioRely.loaded (hr : AudioRely c c') (h : AudioLoaded generation c) :
    AudioLoaded generation c' := by
  obtain ⟨hs, h₁, h₂, h₃⟩ := h
  exact ⟨hr.settled hs, h₁, hr.audio ▸ h₂, h₃.trans hr.generation⟩

theorem AudioRely.adopting (hr : AudioRely c c') (h : AudioAdopting generation frame c) :
    AudioAdopting generation frame c' where
  audio := hr.audio.trans h.audio
  generation_pos := h.generation_pos
  generation_le := h.generation_le.trans hr.generation
  target hg hp := by
    have h₁ := h.generation_le
    have h₂ := hr.generation
    obtain ⟨hp', ht⟩ := hr.target (by omega) hp
    rw [ht]
    exact h.target (by omega) hp'

theorem AudioRely.targetLoaded (hr : AudioRely c c') (h : AudioTargetLoaded generation frame c) :
    AudioTargetLoaded generation frame c' := by
  refine ⟨hr.adopting h.1, ?_⟩
  rw [hr.cursor, hr.cursorGeneration, hr.generationTarget _ h.1.generation_le]
  exact h.2

theorem AudioRely.stored (hr : AudioRely c c') (h : AudioStored generation frame c) :
    AudioStored generation frame c' :=
  ⟨hr.adopting h.1, hr.cursor.trans h.2⟩

theorem AudioRely.follows (hr : AudioRely c c') (h : AudioFollows generation frame c) :
    AudioFollows generation frame c' :=
  ⟨hr.audio.trans h.audio, hr.cursorGeneration.trans h.cursorGeneration, hr.cursor.trans h.cursor⟩

end

end Anasa
