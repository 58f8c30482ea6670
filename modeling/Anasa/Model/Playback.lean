import Anasa.Concurrency.Program
import Anasa.Model.State

/-!
# Playback control

`PlaybackProtocol`, `PlaybackController` and `BackgroundRenderGate`. Each load, store and
`fetch_add` of an atomic is an access of its own; members that belong to the scheduler thread are
read and written together with the access next to them.
-/

namespace Anasa

open Concurrency

variable {S : Type}

namespace PlaybackProtocol

def beginGeneration (targetFrame : Int) (suspendPlayback : Bool) : Prog (EngineState S) Unit := do
  if suspendPlayback then
    .modify fun s => { s with shared.playing := false }
  -- Publish the target before its generation.
  .modify fun s =>
    { s with shared.targetFrame := targetFrame, history := s.history.targetStored }
  .modify fun s =>
    { s with
      shared.generation := s.shared.generation + 1
      history := s.history.generationBegun (s.shared.generation + 1) targetFrame }

def currentFrame (cfg : Config) : Prog (EngineState S) Int := do
  let generation ← .read (·.shared.generation)
  let cursorGeneration ← .atomically fun s =>
    (s.shared.audioCursorGeneration, { s with
      history := s.history.cursorGenerationRead (s.shared.audioCursorGeneration == generation) })
  -- Progress from a previous generation must not override the reset target.
  if cursorGeneration ≠ generation then
    let frame ← .read (·.shared.targetFrame)
    return clampTimelineBoundary frame cfg.totalFrames
  else
    let frame ← .atomically fun s =>
      (s.shared.nextUnconsumedFrame, { s with history := s.history.cursorRead })
    return clampTimelineBoundary frame cfg.totalFrames

end PlaybackProtocol

namespace PlaybackController

/-- Whether the play request changed. -/
def requestPlay : Prog (EngineState S) Bool :=
  .atomically fun s => (!s.sched.playRequested, { s with sched.playRequested := true })

/-- Whether the play request changed. -/
def pause : Prog (EngineState S) Bool :=
  .atomically fun s =>
    (s.sched.playRequested, { s with sched.playRequested := false, shared.playing := false })

def resetPlayRequest : Prog (EngineState S) Unit :=
  .modify fun s => { s with sched.playRequested := false }

def shouldRebufferOnEdit (cfg : Config) (s : EngineState S) : Bool :=
  s.sched.playRequested && cfg.scheduler.rebufferOnEdit

/-- Start requested playback when ready; never suspend ongoing playback. -/
def startIfReady (cfg : Config) (readyLeadBlocks : Int) (entireRemainderPublished : Bool) :
    Prog (EngineState S) Unit := do
  let waiting ← .read fun s => s.sched.playRequested && !s.shared.playing
  if waiting then
    if readyLeadBlocks ≥ cfg.scheduler.prebufferBlocks ∨ entireRemainderPublished then
      .modify fun s => { s with shared.playing := true }

end PlaybackController

namespace BackgroundRenderGate

/-- The permission after observing a lead. -/
def observe (cfg : Config) (readyLeadBlocks : Int) (allowed : Bool) : Bool :=
  if readyLeadBlocks < cfg.scheduler.lowWaterBlocks then false
  else if readyLeadBlocks ≥ cfg.scheduler.highWaterBlocks then true
  else allowed

end BackgroundRenderGate

end Anasa
