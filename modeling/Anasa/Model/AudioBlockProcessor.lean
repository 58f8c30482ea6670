import Anasa.Concurrency.Program
import Anasa.Model.State

/-!
# The audio callback

`AudioBlockProcessor`. Its `_audioState` belongs to the audio thread and is read and written
together with the shared access next to it.
-/

namespace Anasa

open Concurrency

variable {S : Type}

namespace AudioOutputBuffer

/-- Fill every enabled channel with silence. -/
def fillSilence [Zero S] (output : AudioOutputBuffer S) : AudioOutputBuffer S :=
  { output with channels := output.channels.map (Option.map fun destination frame =>
      if 0 ≤ frame ∧ frame < output.frameCount then 0 else destination frame) }

/-- A channel is enabled. -/
def hasOutput (output : AudioOutputBuffer S) : Bool := output.channels.any Option.isSome

/-- Copy the frames of a block to every enabled channel. -/
def copyBlock (blockFrames : Int) (block : AudioBlock S) (output : AudioOutputBuffer S) :
    AudioOutputBuffer S :=
  { output with channels := output.channels.mapIdx fun channel => Option.map fun destination =>
      fun frame =>
        if 0 ≤ frame ∧ frame < blockFrames then block.samples.sample channel frame
        else destination frame }

end AudioOutputBuffer

namespace AudioBlockProcessor

/-- Follow a generation that is not the callback's own. -/
def adoptGeneration (cfg : Config) (globalGeneration : Int) : Prog (EngineState S) Unit := do
  let expectedBlockStartFrame ← .atomically fun s =>
    let frame := alignFrameToAudioBlock s.shared.targetFrame cfg.audio.audioBlockFrames
    (frame, { s with
      audio := ⟨globalGeneration, frame⟩
      history := s.history.targetLoaded })
  .modify fun s => { s with
    shared.nextUnconsumedFrame := expectedBlockStartFrame
    history := s.history.cursorStored globalGeneration expectedBlockStartFrame }
  .modify fun s => { s with shared.audioCursorGeneration := globalGeneration }

/-- Load the generation and follow it; the generation. -/
def followGeneration (cfg : Config) : Prog (EngineState S) Int := do
  let globalGeneration ← .read (·.shared.generation)
  if (← .read (·.audio.generation)) ≠ globalGeneration then
    adoptGeneration cfg globalGeneration
    return globalGeneration
  else return globalGeneration

/-- The block at the front is of an older generation or of an earlier frame. -/
def isStale (globalGeneration expectedBlockStartFrame : Int) (head : AudioBlock S) : Bool :=
  head.generation < globalGeneration ||
    (head.generation == globalGeneration && head.firstFrame < expectedBlockStartFrame)

/-- At most so many passes of the stale-block cleanup: the front block it ends with. -/
def discardStaleBlocks (globalGeneration expectedBlockStartFrame : Int) :
    ℕ → Prog (EngineState S) (Option (AudioBlock S))
  | 0 => return none
  | n + 1 => do
    match ← .read (·.readyQueue.front) with
    | none => return none
    | some head =>
      if isStale globalGeneration expectedBlockStartFrame head then
        .modify fun s => { s with readyQueue := s.readyQueue.pop }
        discardStaleBlocks globalGeneration expectedBlockStartFrame n
      else return some head

/-- The front block is the one the callback expects. -/
def isExactBlock (cfg : Config) (globalGeneration expectedBlockStartFrame : Int)
    (channelCount : ℕ) (head : AudioBlock S) : Bool :=
  head.generation == globalGeneration &&
    head.firstFrame == expectedBlockStartFrame &&
    head.frameCount == cfg.audio.audioBlockFrames &&
    head.samples.frameCount ≥ cfg.audio.audioBlockFrames &&
    head.samples.channelCount == channelCount

/-- Copy the front block if it is the expected one; whether it was. -/
def playBlock (cfg : Config) (globalGeneration expectedBlockStartFrame : Int)
    (output : AudioOutputBuffer S) :
    Option (AudioBlock S) → Prog (EngineState S) (Bool × AudioOutputBuffer S)
  | none => return (false, output)
  | some head =>
    if isExactBlock cfg globalGeneration expectedBlockStartFrame output.channels.length head then do
      -- Copy before the slot goes back to the producer.
      .modify fun s => { s with readyQueue := s.readyQueue.pop }
      return (true, output.copyBlock cfg.audio.audioBlockFrames head)
    else return (false, output)

/-- Play the front block or count an underrun, and advance. -/
def consumeBlock (cfg : Config) (globalGeneration expectedBlockStartFrame : Int)
    (output : AudioOutputBuffer S) (head : Option (AudioBlock S)) :
    Prog (EngineState S) (AudioProcessResult × AudioOutputBuffer S) := do
  if !(← .read (·.shared.playing)) then
    return ({}, output)
  else if expectedBlockStartFrame ≥ cfg.totalFrames then
    return ({}, output)
  else
    let played ← playBlock cfg globalGeneration expectedBlockStartFrame output head
    let nextFrame := expectedBlockStartFrame + cfg.audio.audioBlockFrames
    .modify fun s => { s with
      audio := { s.audio with expectedBlockStartFrame := nextFrame }
      shared.nextUnconsumedFrame := nextFrame
      history := s.history.cursorAdvanced globalGeneration s.shared.generation nextFrame }
    return ({ playing := true, underrun := !played.1 }, played.2)

/-- One audio callback: its result and the output it leaves. -/
def processBlock [Zero S] (cfg : Config) (output : AudioOutputBuffer S) :
    Prog (EngineState S) (AudioProcessResult × AudioOutputBuffer S) :=
  if output.frameCount ≤ 0 then return ({}, output)
  else if !output.hasOutput || output.frameCount ≠ cfg.audio.audioBlockFrames then
    return ({}, output.fillSilence)
  else do
    if ← .read (·.shared.stop) then
      return ({}, output.fillSilence)
    else
      let globalGeneration ← followGeneration cfg
      let expectedBlockStartFrame ← .read (·.audio.expectedBlockStartFrame)
      let capacity ← .read (·.readyQueue.capacity)
      let head ← discardStaleBlocks globalGeneration expectedBlockStartFrame capacity
      consumeBlock cfg globalGeneration expectedBlockStartFrame output.fillSilence head

end AudioBlockProcessor

end Anasa
