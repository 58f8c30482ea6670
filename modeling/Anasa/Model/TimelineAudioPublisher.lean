import Anasa.Model.RenderJobs
import Anasa.Concurrency.Program

/-!
# Publishing cached audio

`TimelineAudioPublisher`. Its cursor `_nextFrameToPublish` and the cache belong to the scheduler
thread; the shared access of a pass of the loop is the push into the ready-audio queue.
-/

namespace Anasa

open Concurrency

variable {S : Type}

namespace TimelineAudioPublisher

def reset (targetFrame : Int) : Prog (EngineState S) Unit :=
  .modify fun s => { s with sched.nextFrameToPublish := targetFrame }

/-- Write the frames of a cached chunk into a slot of the queue. -/
def fillBlock (cfg : Config) (chunkSamples : AudioBuffer S)
    (generation blockFirstFrame chunkOffset : Int) (block : AudioBlock S) : AudioBlock S where
  generation := generation
  firstFrame := blockFirstFrame
  frameCount := cfg.audio.audioBlockFrames
  samples := { block.samples with
    sample := fun channel frame =>
      if 0 ≤ channel ∧ channel < cfg.audio.channelCount ∧
          0 ≤ frame ∧ frame < cfg.audio.audioBlockFrames then
        chunkSamples.sample channel (chunkOffset + frame)
      else block.samples.sample channel frame }

/-- One pass of the publishing loop; `false` if the loop ends here. -/
def publishNext (cfg : Config) (generation : Int) (s : EngineState S) : Bool × EngineState S :=
  let blockFirstFrame := s.sched.nextFrameToPublish
  if blockFirstFrame ≤ cfg.totalFrames - cfg.audio.audioBlockFrames then
    let chunk := frameToChunk blockFirstFrame
    match RenderCache.findCurrent cfg s.render chunk with
    -- Never skip missing or outdated content to publish a later chunk.
    | none => (false, s)
    | some chunkSamples =>
      let chunkOffset := blockFirstFrame - firstFrameOfChunk chunk
      let (pushed, queue) := s.readyQueue.pushWith
        (fillBlock cfg chunkSamples generation blockFirstFrame chunkOffset)
      if pushed then
        (true, { s with
          readyQueue := queue
          sched.nextFrameToPublish := blockFirstFrame + cfg.audio.audioBlockFrames })
      else (false, s)
  else (false, s)

/-- At most so many passes of the publishing loop. -/
def publishLoop (cfg : Config) (generation : Int) : ℕ → Prog (EngineState S) Unit
  | 0 => return
  | n + 1 => do
    if ← .atomically (publishNext cfg generation) then
      publishLoop cfg generation n

/-- A number of passes that takes any cursor of the timeline to its end. -/
def publishPasses (cfg : Config) : ℕ := (cfg.totalFrames / cfg.audio.audioBlockFrames).toNat + 1

def publish (cfg : Config) (nextUnconsumedFrame generation : Int) :
    Prog (EngineState S) Unit := do
  -- Audio already passed by the consumer must not be published late.
  .modify fun s =>
    { s with sched.nextFrameToPublish := max s.sched.nextFrameToPublish nextUnconsumedFrame }
  publishLoop cfg generation (publishPasses cfg)

def readyLeadBlocks (cfg : Config) (nextFrameToPublish nextUnconsumedFrame : Int) : Int :=
  max 0 (nextFrameToPublish - nextUnconsumedFrame) / cfg.audio.audioBlockFrames

def entireRemainderPublished (cfg : Config) (nextFrameToPublish : Int) : Bool :=
  nextFrameToPublish ≥ cfg.totalFrames

end TimelineAudioPublisher

end Anasa
