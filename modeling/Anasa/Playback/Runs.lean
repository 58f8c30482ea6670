import Anasa.Playback.Edits
import Anasa.Playback.ReadyOrder

/-!
# Calls without interruption

What `currentFrame`, the start of a generation and a callback do when they run from start to end,
from a state in which neither side of the protocol is in the middle of a call.
-/

namespace Anasa

open Concurrency AudioBlockProcessor

variable {S : Type} {cfg : Config}

/-- The position of the consumer: what `currentFrame` returns. -/
def position (s : EngineState S) : Int := (cursorView s).resolved

/-- Neither the scheduler nor the callback is in the middle of a call. -/
structure AtRest (cfg : Config) (s : EngineState S) : Prop where
  inv : CursorInv cfg (cursorView s)
  scheduler : CursorAt false (cursorView s)
  audio : AudioSettled (cursorView s)

theorem AckInv.position_boundary {s : EngineState S} (h : AckInv cfg (cursorView s)) :
    BlockBoundary cfg (position s) := by
  unfold position CursorState.resolved
  split
  · exact h.cursor_boundary
  · exact h.target_boundary

/-! ## The scheduler -/

namespace PlaybackProtocol

/-- `currentFrame` returns the position and changes nothing but the history. -/
theorem currentFrame_run {s : EngineState S} (h : AckInv cfg (cursorView s)) :
    (currentFrame cfg).run s =
      (position s, { s with history.editHasCursor := s.history.editing }) := by
  have hclamp := h.position_boundary.clamp
  unfold position CursorState.resolved at hclamp ⊢
  by_cases hg : s.shared.audioCursorGeneration = s.shared.generation
  · have hg' : (cursorView s).cursorGeneration = (cursorView s).generation := hg
    rw [if_pos hg'] at hclamp ⊢
    simp only [currentFrame, Prog.run_bind, Prog.run_read, Prog.run_atomically, hg, ne_eq,
      not_true_eq_false, if_false, Prog.run_pure, PlaybackHistory.cursorRead]
    exact congrArg₂ Prod.mk hclamp rfl
  · have hg' : (cursorView s).cursorGeneration ≠ (cursorView s).generation := hg
    rw [if_neg hg'] at hclamp ⊢
    simp only [currentFrame, Prog.run_bind, Prog.run_read, Prog.run_atomically, hg, ne_eq,
      not_false_eq_true, if_true, Prog.run_pure, PlaybackHistory.cursorGenerationRead,
      beq_eq_false_iff_ne.mpr hg, Bool.false_eq_true, if_false]
    exact congrArg₂ Prod.mk hclamp rfl

/-- Outside an Edit `currentFrame` changes nothing. -/
theorem currentFrame_run_rest {s : EngineState S} (h : AckInv cfg (cursorView s))
    (hrest : CursorAt false (cursorView s)) : (currentFrame cfg).run s = (position s, s) := by
  have hflags : s.history.editing = s.history.editHasCursor :=
    hrest.editing_eq.trans (hrest.noCursor rfl).symm
  rw [currentFrame_run h, hflags]

end PlaybackProtocol

/-- The state after a generation has begun. -/
theorem Scheduler.beginAudioGeneration_run (target : Int) (suspend : Bool) (s : EngineState S) :
    (beginAudioGeneration target suspend).run s = ((), { s with
      shared := { s.shared with
        playing := s.shared.playing && !suspend
        targetFrame := target
        generation := s.shared.generation + 1 }
      sched.nextFrameToPublish := target
      history := s.history.targetStored.generationBegun (s.shared.generation + 1) target }) := by
  cases suspend <;> simp [beginAudioGeneration, PlaybackProtocol.beginGeneration, TimelineAudioPublisher.reset]

/-! ## The callback -/

namespace AudioBlockProcessor

/-- The state after a callback has followed the latest generation. -/
def followed (s : EngineState S) (history : PlaybackHistory) : EngineState S :=
  { s with
    shared := { s.shared with
      nextUnconsumedFrame := position s
      audioCursorGeneration := s.shared.generation }
    audio := ⟨s.shared.generation, position s⟩
    history }

theorem followed_self {s : EngineState S} (hg : s.audio.generation = s.shared.generation)
    (hcg : s.shared.audioCursorGeneration = s.shared.generation)
    (hcursor : s.shared.nextUnconsumedFrame = s.audio.expectedBlockStartFrame) :
    followed s s.history = s := by
  have hposition : position s = s.shared.nextUnconsumedFrame := if_pos hcg
  unfold followed
  rw [hposition, ← hcg]
  rcases s with ⟨⟨stop, playing, generation, target, cursor, cursorGeneration⟩, ⟨own, expected⟩⟩
  simp only at hg hcg hcursor ⊢
  rw [hg, hcg, hcursor]

/-- A callback that does not follow the latest generation finds the consumer at its target. -/
theorem position_eq_target {s : EngineState S} (h : AtRest cfg s)
    (hg : s.audio.generation ≠ s.shared.generation) : position s = s.shared.targetFrame := by
  obtain ⟨-, hsettled⟩ := h.audio
  by_cases hcg : s.shared.audioCursorGeneration = s.shared.generation
  · rcases hsettled with ⟨-, hone, hfirst⟩ | ⟨hown, -⟩
    · have hcg' : (cursorView s).cursorGeneration = (cursorView s).generation := hcg
      have htarget := h.inv.ack.target_eq h.scheduler.targetPending
      rw [← hcg', hone] at htarget
      exact (if_pos hcg).trans (hfirst.trans htarget.symm)
    · exact absurd (hown.trans hcg) hg
  · exact if_neg hcg

theorem followGeneration_run {s : EngineState S} (h : AtRest cfg s) :
    ∃ history, history.callbacks = s.history.callbacks ∧
      (followGeneration cfg).run s = (s.shared.generation, followed s history) := by
  by_cases hg : s.audio.generation = s.shared.generation
  · refine ⟨s.history, rfl, ?_⟩
    obtain ⟨hpos, ⟨hzero, -⟩ | ⟨hcg, hcursor⟩⟩ := h.audio
    · have hzero' : s.shared.generation = 0 := hg.symm.trans hzero
      have hpos' : 1 ≤ s.shared.generation := hpos
      omega
    · rw [followed_self hg (hcg.symm.trans hg) hcursor]
      simp [followGeneration, hg]
  · have halign : alignFrameToAudioBlock s.shared.targetFrame cfg.audio.audioBlockFrames =
        s.shared.targetFrame := h.inv.ack.target_boundary.align
    refine ⟨s.history.targetLoaded.cursorStored s.shared.generation s.shared.targetFrame, rfl, ?_⟩
    simp only [followGeneration, adoptGeneration, Prog.run_bind, Prog.run_read, ne_eq, hg,
      not_false_eq_true, if_true, Prog.run_atomically, Prog.run_modify, Prog.run_pure, halign,
      followed, position_eq_target h hg]

/-- The stale-block cleanup, if it may make a pass for every block. -/
theorem discardStaleBlocks_run (generation frame : Int) {n : ℕ} {s : EngineState S}
    (h : s.readyQueue.contents.length ≤ n) :
    (discardStaleBlocks generation frame n).run s =
      ((s.readyQueue.popWhile (isStale generation frame)).front,
        { s with readyQueue := s.readyQueue.popWhile (isStale generation frame) }) := by
  induction n generalizing s with
  | zero =>
    have hnil := List.length_eq_zero_iff.mp (Nat.le_zero.mp h)
    rw [BoundedFifo.popWhile_of_neg (by simp [hnil])]
    simp [discardStaleBlocks, BoundedFifo.front, hnil]
  | succ n ih =>
    rcases hc : s.readyQueue.contents with - | ⟨head, rest⟩
    · rw [BoundedFifo.popWhile_of_neg (by simp [hc])]
      simp [discardStaleBlocks, BoundedFifo.front, hc]
    · rcases hstale : isStale generation frame head with - | -
      · rw [BoundedFifo.popWhile_of_neg (by simp [hc, hstale])]
        simp [discardStaleBlocks, BoundedFifo.front, hc, hstale]
      · rw [BoundedFifo.popWhile_of_pos hc hstale]
        have hlength : s.readyQueue.pop.contents.length ≤ n := by
          rw [BoundedFifo.contents_pop, hc, List.tail_cons]
          rw [hc, List.length_cons] at h
          omega
        simp only [discardStaleBlocks, Prog.run_bind, Prog.run_read, BoundedFifo.front, hc,
          List.head?_cons, hstale, if_true, Prog.run_modify]
        exact ih (s := { s with readyQueue := s.readyQueue.pop }) hlength

/-- The callback has something to do. -/
def Heard (cfg : Config) (output : AudioOutputBuffer S) (s : EngineState S) : Prop :=
  0 < output.frameCount ∧ output.hasOutput = true ∧
    output.frameCount = cfg.audio.audioBlockFrames ∧ s.shared.stop = false

/-- A callback that has nothing to do changes nothing. -/
theorem processBlock_run_unheard [Zero S] {output : AudioOutputBuffer S} {s : EngineState S}
    (h : ¬Heard cfg output s) : ∃ silence, (processBlock cfg output).run s = (({}, silence), s) := by
  unfold processBlock
  split
  · exact ⟨_, rfl⟩
  · split
    · exact ⟨_, rfl⟩
    · rename_i hcount hshape
      simp only [Bool.or_eq_true, Bool.not_eq_true', decide_eq_true_eq, not_or, Bool.not_eq_false,
        not_not] at hshape
      have hstop : s.shared.stop = true := by
        by_contra hno
        exact h ⟨by omega, hshape.1, hshape.2, by simpa using hno⟩
      simp only [Prog.run_bind, Prog.run_read, hstop, if_true, Prog.run_pure]
      exact ⟨_, rfl⟩

/-- The state after a callback has discarded the stale blocks. -/
def cleaned (s : EngineState S) (history : PlaybackHistory) : EngineState S :=
  { followed s history with
    readyQueue := s.readyQueue.popWhile (isStale s.shared.generation (position s)) }

/-- A callback that has something to do follows the generation, discards the stale blocks and
consumes a block. -/
theorem processBlock_run [Zero S] {output : AudioOutputBuffer S} {s : EngineState S}
    (hrest : AtRest cfg s) (h : Heard cfg output s) :
    ∃ history, history.callbacks = s.history.callbacks ∧
      (processBlock cfg output).run s =
        (consumeBlock cfg s.shared.generation (position s) output.fillSilence
          (cleaned s history).readyQueue.front).run (cleaned s history) := by
  obtain ⟨history, hcallbacks, hfollow⟩ := followGeneration_run hrest
  obtain ⟨hcount, houtput, hframes, hstop⟩ := h
  refine ⟨history, hcallbacks, ?_⟩
  have hdiscard := discardStaleBlocks_run s.shared.generation (position s)
    (s := followed s history) (s.readyQueue.length_contents_le)
  have hshape : ¬((!output.hasOutput || output.frameCount ≠ cfg.audio.audioBlockFrames) = true) := by
    simp [houtput, hframes]
  rw [processBlock, if_neg (by omega), if_neg hshape]
  simp only [Prog.run_bind, Prog.run_read, hstop, Bool.false_eq_true, if_false, hfollow]
  rw [show (followed s history).readyQueue = s.readyQueue from rfl,
    show (followed s history).audio.expectedBlockStartFrame = position s from rfl, hdiscard]
  rfl

/-! ### Consuming a block -/

section

variable {generation frame : Int} {output : AudioOutputBuffer S} {head : Option (AudioBlock S)}
  {s : EngineState S}

/-- The callback does not advance. -/
theorem consumeBlock_run_waits (h : s.shared.playing = false ∨ cfg.totalFrames ≤ frame) :
    (consumeBlock cfg generation frame output head).run s = (({}, output), s) := by
  rcases hp : s.shared.playing with - | -
  · simp [consumeBlock, hp]
  · have hle : cfg.totalFrames ≤ frame := h.resolve_left (by simp [hp])
    simp [consumeBlock, hp, hle]

/-- The state after an advance. -/
def advanced (cfg : Config) (s : EngineState S) (generation frame : Int)
    (queue : BoundedFifo (AudioBlock S)) : EngineState S :=
  { s with
    readyQueue := queue
    audio.expectedBlockStartFrame := frame + cfg.audio.audioBlockFrames
    shared.nextUnconsumedFrame := frame + cfg.audio.audioBlockFrames
    history := s.history.cursorAdvanced generation s.shared.generation
      (frame + cfg.audio.audioBlockFrames) }

/-- The callback plays the block at the front. -/
theorem consumeBlock_run_plays (hplaying : s.shared.playing = true) (hlt : frame < cfg.totalFrames)
    {block : AudioBlock S}
    (hexact : isExactBlock cfg generation frame output.channels.length block = true) :
    (consumeBlock cfg generation frame output (some block)).run s =
      (({ playing := true, underrun := false }, output.copyBlock cfg.audio.audioBlockFrames block),
        advanced cfg s generation frame s.readyQueue.pop) := by
  simp [consumeBlock, playBlock, hplaying, not_le.mpr hlt, hexact, advanced]

/-- The callback has no block to play. -/
theorem consumeBlock_run_underrun (hplaying : s.shared.playing = true)
    (hlt : frame < cfg.totalFrames)
    (hno : ∀ block ∈ head,
      isExactBlock cfg generation frame output.channels.length block = false) :
    (consumeBlock cfg generation frame output head).run s =
      (({ playing := true, underrun := true }, output),
        advanced cfg s generation frame s.readyQueue) := by
  rcases head with - | block
  · simp [consumeBlock, playBlock, hplaying, not_le.mpr hlt, advanced]
  · simp [consumeBlock, playBlock, hplaying, not_le.mpr hlt, hno block rfl, advanced]

end

end AudioBlockProcessor

end Anasa
