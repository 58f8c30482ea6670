import Anasa.Arithmetic.CheckedInt
import Anasa.Model.Scheduler

/-!
# Frame arithmetic with checks

The computations on frames and chunks of the source, expression by expression, in the arithmetic
of its 32-bit `int`: each fails where the code would overflow or divide by zero, where an assertion
of the code fails, and where a chunk index is none of the timeline.
-/

namespace Anasa.Checked

open CheckedInt (require)

abbrev add (a b : Int) : Option Int := CheckedInt.add 32 a b

abbrev sub (a b : Int) : Option Int := CheckedInt.sub 32 a b

abbrev mul (a b : Int) : Option Int := CheckedInt.mul 32 a b

abbrev div (a b : Int) : Option Int := CheckedInt.div 32 a b

abbrev rem (a b : Int) : Option Int := CheckedInt.rem 32 a b

abbrev abs (a : Int) : Option Int := CheckedInt.abs 32 a

/-- The chunk is one of the timeline. -/
def chunkIndex (cfg : Config) (chunk : Int) : Option Unit :=
  require (0 ≤ chunk ∧ chunk < cfg.chunkCount)

/-! ## Construction -/

/-- The product in `Engine::calculateTotalFrames`, after its checks. -/
def calculateTotalFrames (s : EngineSettings) : Option Int := do
  let limit ← div (2 ^ 31 - 1) s.audio.sampleRate
  require (s.timelineInSeconds ≤ limit)
  mul s.timelineInSeconds s.audio.sampleRate

def chunkCount (totalFrames : Int) : Option Int := do
  add 1 (← div (← sub totalFrames 1) chunkFrames)

/-- `_viewportLastFrame` after construction. -/
def initialViewport (cfg : Config) : Option Int := do
  let half ← div cfg.totalFrames 2
  if cfg.audio.sampleRate > half then return cfg.totalFrames
  else mul 2 cfg.audio.sampleRate

/-! ## Helpers -/

def frameToChunk (frame : Int) : Option Int := do
  require (0 ≤ frame)
  div frame chunkFrames

def firstFrameOfChunk (chunk : Int) : Option Int := do
  require (0 ≤ chunk)
  mul chunk chunkFrames

def clampTimelineFrame (frame totalFrames : Int) : Option Int := do
  require (0 < totalFrames)
  let last ← sub totalFrames 1
  return max 0 (min frame last)

def clampTimelineBoundary (frame totalFrames : Int) : Option Int := do
  require (0 < totalFrames)
  return max 0 (min frame totalFrames)

def alignFrameToAudioBlock (frame audioBlockFrames : Int) : Option Int := do
  require (0 ≤ frame)
  require (0 < audioBlockFrames)
  sub frame (← rem frame audioBlockFrames)

/-! ## Scheduler -/

/-- The chunks of the loop in `invalidateVersions`; its counter goes one beyond the last. -/
def invalidatedChunks (cfg : Config) (firstFrame lastFrame : Int) : Option (List Int) := do
  let firstFrame ← clampTimelineFrame firstFrame cfg.totalFrames
  let lastFrame ← clampTimelineFrame (max firstFrame lastFrame) cfg.totalFrames
  let before ← sub firstFrame cfg.render.contextFrames
  let haloFirstFrame := max 0 before
  let after ← sub (← sub cfg.totalFrames 1) lastFrame
  let haloLastFrame ← add lastFrame (min cfg.render.contextFrames after)
  let firstChunk ← frameToChunk haloFirstFrame
  let lastChunk ← frameToChunk haloLastFrame
  let endChunk ← add lastChunk 1
  return intRange firstChunk endChunk

def chunkIntersectsViewport (cfg : Config) (sched : SchedulerState) (chunk : Int) :
    Option Bool :=
  if sched.viewportFirstFrame ≥ sched.viewportLastFrame then return false
  else do
    let chunkFirstFrame ← firstFrameOfChunk chunk
    let remaining ← sub cfg.totalFrames chunkFirstFrame
    let chunkLastFrame ← add chunkFirstFrame (min chunkFrames remaining)
    return chunkFirstFrame < sched.viewportLastFrame && chunkLastFrame > sched.viewportFirstFrame

def urgentChunkEnd (cfg : Config) (playheadFrame : Int) : Option Int := do
  require (0 ≤ playheadFrame ∧ playheadFrame ≤ cfg.totalFrames)
  if playheadFrame = cfg.totalFrames then return cfg.chunkCount
  else
    let firstChunk ← frameToChunk playheadFrame
    let remainingChunks ← sub cfg.chunkCount firstChunk
    let configuredEnd ← add firstChunk (min cfg.scheduler.urgentChunks remainingChunks)
    let remainingBlocks ← div (← sub cfg.totalFrames playheadFrame) cfg.audio.audioBlockFrames
    let prebufferFrames ←
      mul (min cfg.scheduler.prebufferBlocks remainingBlocks) cfg.audio.audioBlockFrames
    if prebufferFrames = 0 then return configuredEnd
    else
      let prebufferLast ← sub (← add playheadFrame prebufferFrames) 1
      let prebufferEnd ← add (← frameToChunk prebufferLast) 1
      return max configuredEnd prebufferEnd

/-- The classification of a chunk, or the exception. -/
def classifyChunk (cfg : Config) (sched : SchedulerState) (chunk playheadFrame : Int) :
    Option (Except String RenderClassification) :=
  if chunk < 0 ∨ chunk ≥ cfg.chunkCount then
    return .error "chunk index is outside the timeline"
  else do
    let boundedPlayhead ← clampTimelineBoundary playheadFrame cfg.totalFrames
    let chunkFirstFrame ← firstFrameOfChunk chunk
    let distanceInFrames ← abs (← sub chunkFirstFrame boundedPlayhead)
    if sched.playRequested ∧ boundedPlayhead < cfg.totalFrames then
      let firstUrgentChunk ← frameToChunk boundedPlayhead
      let lastUrgentChunk ← urgentChunkEnd cfg boundedPlayhead
      if firstUrgentChunk ≤ chunk ∧ chunk < lastUrgentChunk then
        return .ok { priority := .urgent, deadlineFrame := chunkFirstFrame, distanceInFrames }
      else if ← chunkIntersectsViewport cfg sched chunk then
        return .ok { priority := .visible, distanceInFrames }
      else return .ok { priority := .background, distanceInFrames }
    else if ← chunkIntersectsViewport cfg sched chunk then
      return .ok { priority := .visible, distanceInFrames }
    else return .ok { priority := .background, distanceInFrames }

/-- A pending tile with the classification of its chunk. -/
def reclassify {S : Type} (cfg : Config) (s : EngineState S) (playheadFrame : Int)
    (tile : PendingRenderTile) : Option PendingRenderTile := do
  match ← classifyChunk cfg s.sched (s.render.jobs.job tile.job).chunk playheadFrame with
  | .error _ => return tile
  | .ok classification => return { tile with classification }

def playheadChunk (cfg : Config) (playheadFrame : Int) : Option Int :=
  if playheadFrame < cfg.totalFrames then frameToChunk playheadFrame else return cfg.chunkCount

/-- The chunks of the urgent loop. -/
def urgentLoopChunks (cfg : Config) (sched : SchedulerState) (playheadFrame : Int) :
    Option (List Int) := do
  let playheadChunk ← playheadChunk cfg playheadFrame
  let urgentEndChunk ← urgentChunkEnd cfg playheadFrame
  if sched.playRequested ∧ playheadFrame < cfg.totalFrames then
    return intRange playheadChunk urgentEndChunk
  else return []

/-- The chunks of the viewport loop. -/
def viewportLoopChunks (cfg : Config) (sched : SchedulerState) : Option (List Int) :=
  if sched.viewportLastFrame > sched.viewportFirstFrame then do
    let firstChunk ← frameToChunk sched.viewportFirstFrame
    let beforeEnd ← sub sched.viewportLastFrame 1
    let lastFrame ← sub cfg.totalFrames 1
    let lastVisibleFrame := min beforeEnd lastFrame
    let nextChunk ← add (← frameToChunk lastVisibleFrame) 1
    return intRange firstChunk (min nextChunk cfg.chunkCount)
  else return []

/-- The next position of the background scan. -/
def nextScanChunk (cfg : Config) (cursor : Int) : Option Int := do
  rem (← add cursor 1) cfg.chunkCount

/-! ## Publishing -/

/-- One pass of the publishing loop. -/
def publishNext {S : Type} (cfg : Config) (generation : Int) (s : EngineState S) :
    Option (Bool × EngineState S) := do
  let blockFirstFrame := s.sched.nextFrameToPublish
  let lastBlock ← sub cfg.totalFrames cfg.audio.audioBlockFrames
  if blockFirstFrame ≤ lastBlock then
    let chunk ← frameToChunk blockFirstFrame
    chunkIndex cfg chunk
    match RenderCache.findCurrent cfg s.render chunk with
    | none => return (false, s)
    | some chunkSamples =>
      let chunkOffset ← sub blockFirstFrame (← firstFrameOfChunk chunk)
      require (chunkSamples.channelCount = cfg.audio.channelCount)
      let chunkEnd ← add chunkOffset cfg.audio.audioBlockFrames
      require (chunkEnd ≤ chunkSamples.frameCount)
      -- The assertions about the slot that is filled.
      require (∀ slot ∈ s.readyQueue.free.head?, slot.samples.channelCount = cfg.audio.channelCount ∧
        slot.samples.frameCount ≥ cfg.audio.audioBlockFrames)
      let (pushed, queue) := s.readyQueue.pushWith
        (TimelineAudioPublisher.fillBlock cfg chunkSamples generation blockFirstFrame chunkOffset)
      if pushed then
        let nextFrame ← add blockFirstFrame cfg.audio.audioBlockFrames
        return (true, { s with
          readyQueue := queue
          sched.nextFrameToPublish := nextFrame })
      else return (false, s)
  else return (false, s)

def readyLeadBlocks (cfg : Config) (nextFrameToPublish nextUnconsumedFrame : Int) :
    Option Int := do
  require (0 ≤ nextUnconsumedFrame ∧ nextUnconsumedFrame ≤ cfg.totalFrames)
  let lead ← sub nextFrameToPublish nextUnconsumedFrame
  div (max 0 lead) cfg.audio.audioBlockFrames

end Anasa.Checked
