import Anasa.Concurrency.CheckedProgram
import Anasa.Model.CheckedFrames
import Anasa.Model.Engine

/-!
# The engine with checks

The programs of the engine that compute with frames or pass a chunk index, access by access, with
the computations of `CheckedFrames` and the assertions of the code. The others are the programs
themselves. `checkedMachine` records whether a check has failed.
-/

namespace Anasa.Checked

open Concurrency
open CheckedInt (require)
open CheckedProg (check plain)

variable {S : Type}

/-! ## Playback -/

namespace PlaybackProtocol

def beginGeneration (cfg : Config) (targetFrame : Int) (suspendPlayback : Bool) :
    CheckedProg (EngineState S) Unit := do
  check (require (0 ≤ targetFrame ∧ targetFrame ≤ cfg.totalFrames))
  plain (Anasa.PlaybackProtocol.beginGeneration targetFrame suspendPlayback)

def currentFrame (cfg : Config) : CheckedProg (EngineState S) Int := do
  let generation ← plain (Prog.read (·.shared.generation))
  let cursorGeneration ← plain <| Prog.atomically fun s =>
    (s.shared.audioCursorGeneration, { s with
      history := s.history.cursorGenerationRead (s.shared.audioCursorGeneration == generation) })
  if cursorGeneration ≠ generation then
    let frame ← plain (Prog.read (·.shared.targetFrame))
    check (clampTimelineBoundary frame cfg.totalFrames)
  else
    let frame ← plain <| Prog.atomically fun s =>
      (s.shared.nextUnconsumedFrame, { s with history := s.history.cursorRead })
    check (clampTimelineBoundary frame cfg.totalFrames)

end PlaybackProtocol

def PlaybackController.startIfReady (cfg : Config) (readyLeadBlocks : Int)
    (entireRemainderPublished : Bool) : CheckedProg (EngineState S) Unit := do
  check (require (0 ≤ readyLeadBlocks))
  plain (Anasa.PlaybackController.startIfReady cfg readyLeadBlocks entireRemainderPublished)

namespace TimelineAudioPublisher

def reset (cfg : Config) (targetFrame : Int) : CheckedProg (EngineState S) Unit := do
  check (require (0 ≤ targetFrame ∧ targetFrame ≤ cfg.totalFrames))
  let offset ← check (rem targetFrame cfg.audio.audioBlockFrames)
  check (require (offset = 0))
  plain (Anasa.TimelineAudioPublisher.reset targetFrame)

/-- At most so many passes of the publishing loop. -/
def publishLoop (cfg : Config) (generation : Int) : ℕ → CheckedProg (EngineState S) Unit
  | 0 => return
  | n + 1 => do
    if ← CheckedProg.atomically (publishNext cfg generation) then
      publishLoop cfg generation n

def publish (cfg : Config) (nextUnconsumedFrame generation : Int) :
    CheckedProg (EngineState S) Unit := do
  check (require (0 ≤ nextUnconsumedFrame ∧ nextUnconsumedFrame ≤ cfg.totalFrames))
  let offset ← check (rem nextUnconsumedFrame cfg.audio.audioBlockFrames)
  check (require (offset = 0))
  let count ← check (chunkCount cfg.totalFrames)
  check (require (cfg.chunkCount = count))
  plain <| Prog.modify fun s =>
    { s with sched.nextFrameToPublish := max s.sched.nextFrameToPublish nextUnconsumedFrame }
  publishLoop cfg generation (Anasa.TimelineAudioPublisher.publishPasses cfg)

end TimelineAudioPublisher

/-! ## Scheduler -/

namespace Scheduler

def beginAudioGeneration (cfg : Config) (targetFrame : Int) (suspendPlayback : Bool) :
    CheckedProg (EngineState S) Unit := do
  let offset ← check (rem targetFrame cfg.audio.audioBlockFrames)
  check (require (offset = 0 ∨ targetFrame = cfg.totalFrames))
  PlaybackProtocol.beginGeneration cfg targetFrame suspendPlayback
  TimelineAudioPublisher.reset cfg targetFrame

def invalidateVersions (cfg : Config) (firstFrame lastFrame : Int) :
    CheckedProg (EngineState S) Unit := do
  let chunks ← check (invalidatedChunks cfg firstFrame lastFrame)
  CheckedProg.forEach (fun chunk => do
    check (chunkIndex cfg chunk)
    plain <| Prog.modify fun s => { s with render := Anasa.Scheduler.bumpVersion chunk s.render }
    plain <| Prog.modify fun s =>
      { s with render := ActiveRenderJobs.cancel cfg chunk s.render }) chunks

def readyLeadBlocks (cfg : Config) : CheckedProg (EngineState S) Int := do
  let nextUnconsumedFrame ← PlaybackProtocol.currentFrame cfg
  CheckedProg.read fun s =>
    Checked.readyLeadBlocks cfg s.sched.nextFrameToPublish nextUnconsumedFrame

def handleCommand (cfg : Config) (command : Command) : CheckedProg (EngineState S) Unit :=
  match command.type with
  | .seek => do
    let frame ← check (clampTimelineFrame command.firstFrame cfg.totalFrames)
    let target ← check (alignFrameToAudioBlock frame cfg.audio.audioBlockFrames)
    beginAudioGeneration cfg target true
    plain Anasa.Scheduler.setClassificationsDirty
  | .setViewport => do
    let firstFrame ← check (clampTimelineBoundary command.firstFrame cfg.totalFrames)
    let lastFrame ←
      check (clampTimelineBoundary (max command.firstFrame command.lastFrame) cfg.totalFrames)
    plain <| Prog.modify fun s => { s with
      sched.viewportFirstFrame := firstFrame
      sched.viewportLastFrame := lastFrame
      sched.pendingClassificationsDirty := true }
  | .edit => do
    plain <| Prog.modify fun s => { s with history.editing := true }
    invalidateVersions cfg command.firstFrame command.lastFrame
    let targetFrame ← PlaybackProtocol.currentFrame cfg
    let suspendPlayback ← plain (Prog.read (Anasa.PlaybackController.shouldRebufferOnEdit cfg))
    beginAudioGeneration cfg targetFrame suspendPlayback
    plain <| Prog.modify fun s => { s with history.editing := false }
  | _ => plain (Anasa.Scheduler.handleCommand cfg command)

/-- At most so many passes of the loop that reads commands. -/
def readCommands (cfg : Config) : ℕ → CheckedProg (EngineState S) Unit
  | 0 => return
  | n + 1 => do
    match ← plain (Prog.read (·.commandQueue.front)) with
    | none => return
    | some command =>
      plain <| Prog.modify fun s => { s with commandQueue := s.commandQueue.pop }
      handleCommand cfg command
      if !(← plain Anasa.Scheduler.shutdownRequested) then
        readCommands cfg n

/-- Pop one completion; the chunk of its job indexes the job table, the cache and the version
table. -/
def collectOne (cfg : Config) (r : RenderState S) : Option (Bool × RenderState S) := do
  match r.executor.completedJobs with
  | [] => return Anasa.Scheduler.collectOne cfg r
  | job :: _ =>
    chunkIndex cfg (r.jobs.job job).chunk
    return Anasa.Scheduler.collectOne cfg r

/-- At most so many passes of the loop that collects completions. -/
def collectFinishedJobs (cfg : Config) : ℕ → CheckedProg (EngineState S) Unit
  | 0 => return
  | n + 1 => do
    let popped ← CheckedProg.atomically fun s => do
      let collected ← collectOne cfg s.render
      return (collected.1, { s with render := collected.2 })
    if popped then
      collectFinishedJobs cfg n

def feedAudioQueue (cfg : Config) : CheckedProg (EngineState S) Unit := do
  let nextUnconsumedFrame ← PlaybackProtocol.currentFrame cfg
  if nextUnconsumedFrame ≥ cfg.totalFrames then
    TimelineAudioPublisher.reset cfg cfg.totalFrames
    if ← plain Anasa.PlaybackController.pause then
      plain Anasa.Scheduler.setClassificationsDirty
  else
    let generation ← plain (Prog.read (·.shared.generation))
    TimelineAudioPublisher.publish cfg nextUnconsumedFrame generation
    let lead ← readyLeadBlocks cfg
    let entireRemainder ← plain <| Prog.read fun s =>
      Anasa.TimelineAudioPublisher.entireRemainderPublished cfg s.sched.nextFrameToPublish
    PlaybackController.startIfReady cfg lead entireRemainder

def updateBackgroundAdmission (cfg : Config) : CheckedProg (EngineState S) Unit := do
  if ← plain (Prog.read (Anasa.Scheduler.gateResets cfg)) then
    plain <| Prog.modify fun s => { s with
      sched.backgroundAllowed := true
      schedulingHistory := s.schedulingHistory.observe .reset }
  else
    let lead ← readyLeadBlocks cfg
    plain <| Prog.modify fun s => { s with
      sched.backgroundAllowed := BackgroundRenderGate.observe cfg lead s.sched.backgroundAllowed
      schedulingHistory := s.schedulingHistory.observe (.lead lead) }

def refreshPendingClassifications (cfg : Config) (playheadFrame : Int) :
    CheckedProg (EngineState S) Unit :=
  CheckedProg.modify fun s => do
    let tiles ← s.render.pendingTiles.mapM (reclassify cfg s playheadFrame)
    return { s with render := { s.render with
      pendingTiles := pushAllPending cfg tiles []
      reclassificationBuffer := [] } }

def retireOrKeep (cfg : Config) (tile : PendingRenderTile) : CheckedProg (EngineState S) Unit := do
  if ← plain (Anasa.Scheduler.tileIsCancelled tile) then
    CheckedProg.modify fun s => do
      chunkIndex cfg (s.render.jobs.job tile.job).chunk
      return { s with render := Anasa.Scheduler.retireTile cfg tile s.render }
  else
    plain <| Prog.modify fun s => { s with render := Anasa.Scheduler.keepTile cfg tile s.render }

def makeRoomForUrgentChunk (cfg : Config) : CheckedProg (EngineState S) Unit := do
  let buffer ← plain <| Prog.atomically fun s =>
    (s.render.pendingTiles, { s with render := { s.render with
      reclassificationBuffer := s.render.pendingTiles
      pendingTiles := [] } })
  let retainedTiles ← plain (Anasa.Scheduler.countRetained buffer)
  plain (Anasa.Scheduler.evictJobs cfg buffer retainedTiles buffer.reverse)
  CheckedProg.forEach (retireOrKeep cfg) buffer

/-- Make room for an urgent chunk that the full queue cannot take. -/
def makeRoomIfUrgent (cfg : Config) (priority : RenderPriority) :
    CheckedProg (EngineState S) Unit :=
  if cfg.scheduler.policyType = .priority ∧ priority = .urgent then do
    if ← plain (Prog.read fun s =>
        Anasa.Scheduler.queueIsFull (Anasa.Scheduler.pendingTileLimit cfg priority) s.render) then
      makeRoomForUrgentChunk cfg
  else return

def scheduleChunk [Zero S] (cfg : Config) (chunk playheadFrame : Int) :
    CheckedProg (EngineState S) Unit := do
  if chunk < 0 ∨ chunk ≥ cfg.chunkCount then return
  else
    check (chunkIndex cfg chunk)
    if ← plain (Prog.read fun s => Anasa.Scheduler.cacheIsCurrent cfg chunk s.render) then return
    else
      let version ← plain (Prog.read (·.render.versions chunk))
      if ← plain (Prog.read fun s => ActiveRenderJobs.hasCurrent cfg s.render chunk version) then
        return
      else
        match ← CheckedProg.read fun s => classifyChunk cfg s.sched chunk playheadFrame with
        | .error _ => return
        | .ok classification =>
          makeRoomIfUrgent cfg classification.priority
          plain (Anasa.Scheduler.admitIfRoom cfg chunk version classification)

/-- The background scan, with the passes it still may make. -/
def scanTimeline [Zero S] (cfg : Config) (playheadFrame : Int) :
    ℕ → CheckedProg (EngineState S) Unit
  | 0 => return
  | n + 1 => do
    let pass ← plain <| Prog.read fun s =>
      (Anasa.Scheduler.queueIsFull (Anasa.Scheduler.pendingTileLimit cfg .background) s.render,
        s.sched.timelineScanCursorInChunks)
    if pass.1 then return
    else
      check (chunkIndex cfg pass.2)
      scheduleChunk cfg pass.2 playheadFrame
      CheckedProg.modify fun s => do
        let next ← nextScanChunk cfg s.sched.timelineScanCursorInChunks
        return { s with
          sched.timelineScanCursorInChunks := next
          schedulingHistory := s.schedulingHistory.scan
            ⟨s.sched.timelineScanCursorInChunks, s.render.pendingTiles.length⟩ }
      scanTimeline cfg playheadFrame n

/-- Priorities may have materially changed since the pending tiles were classified. -/
def classificationChanged (cfg : Config) (playheadFrame : Int) (sched : SchedulerState) :
    Option Bool := do
  let chunk ← playheadChunk cfg playheadFrame
  let urgentEnd ← urgentChunkEnd cfg playheadFrame
  return sched.pendingClassificationsDirty || chunk != sched.lastClassifiedPlayheadChunk ||
    urgentEnd != sched.lastClassifiedUrgentChunkEnd

/-- Refresh the classifications if they may have changed, and record what they are for. -/
def updateClassifications (cfg : Config) (playheadFrame : Int) :
    CheckedProg (EngineState S) Unit := do
  let chunk ← check (playheadChunk cfg playheadFrame)
  let urgentEnd ← check (urgentChunkEnd cfg playheadFrame)
  let changed ← CheckedProg.read fun s => do
    let changed ← classificationChanged cfg playheadFrame s.sched
    return cfg.scheduler.policyType = .priority && changed
  if changed then
    refreshPendingClassifications cfg playheadFrame
    plain <| Prog.modify fun s => { s with
      sched := { s.sched with
        pendingClassificationsDirty := false
        lastClassifiedPlayheadChunk := chunk
        lastClassifiedUrgentChunkEnd := urgentEnd }
      schedulingHistory.playheadFrame := playheadFrame }
  else
    plain <| Prog.modify fun s => { s with
      sched := { s.sched with
        pendingClassificationsDirty := false
        lastClassifiedPlayheadChunk := chunk
        lastClassifiedUrgentChunkEnd := urgentEnd }
      schedulingHistory.playheadFrame := playheadFrame }

/-- Chunks near the playhead, then those in the viewport, then the timeline round-robin. -/
def scheduleLoops [Zero S] (cfg : Config) (playheadFrame : Int) :
    CheckedProg (EngineState S) Unit := do
  let urgentChunks ← CheckedProg.read fun s => urgentLoopChunks cfg s.sched playheadFrame
  CheckedProg.forEach (fun chunk => do
    check (chunkIndex cfg chunk)
    scheduleChunk cfg chunk playheadFrame) urgentChunks
  let viewportChunks ← CheckedProg.read fun s => viewportLoopChunks cfg s.sched
  CheckedProg.forEach (fun chunk => do
    check (chunkIndex cfg chunk)
    scheduleChunk cfg chunk playheadFrame) viewportChunks
  scanTimeline cfg playheadFrame
    (min cfg.chunkCount (cfg.scheduler.maxPendingTiles / tilesPerChunk)).toNat

def scheduleRenderJobs [Zero S] (cfg : Config) : CheckedProg (EngineState S) Unit := do
  let playheadFrame ← PlaybackProtocol.currentFrame cfg
  updateClassifications cfg playheadFrame
  scheduleLoops cfg playheadFrame

def start (cfg : Config) : CheckedProg (EngineState S) Unit := do
  if !(← plain (Prog.read (·.sched.started))) then
    plain <| Prog.modify fun s => { s with sched := { s.sched with stopRequested := false } }
    plain Anasa.PlaybackController.resetPlayRequest
    plain <| Prog.modify fun s => { s with
      sched := { s.sched with
        backgroundAllowed := true
        pendingClassificationsDirty := true
        lastClassifiedPlayheadChunk := -1
        lastClassifiedUrgentChunkEnd := -1 }
      schedulingHistory := s.schedulingHistory.observe .reset }
    let frame ← PlaybackProtocol.currentFrame cfg
    TimelineAudioPublisher.reset cfg frame
    plain <| Prog.modify fun s => { s with
      sched.started := true
      render.history := s.render.history.beginSession s.render.jobs.made
      schedulingHistory := s.schedulingHistory.beginSession s.render.jobs.made }

/-- Pass the next command to `handleCommand`, if it is the given one. -/
def readCommand (cfg : Config) (command : Command) : CheckedProg (EngineState S) Unit := do
  if ← plain (Prog.read (·.commandQueue.front == some command)) then
    plain <| Prog.modify fun s => { s with commandQueue := s.commandQueue.pop }
    handleCommand cfg command

end Scheduler

/-- `AudioSimulator::start` only adds the audio thread. -/
def Engine.start (cfg : Config) : CheckedProg (EngineState S) Unit := do
  if !(← plain (Prog.read (·.engineStarted))) then
    plain <| Prog.modify fun s => { s with readyQueue := s.readyQueue.reset }
    plain <| Prog.modify fun s => { s with shared.stop := false }
    plain <| Prog.modify fun s => { s with shared.playing := false }
    plain Executor.start
    Scheduler.start cfg
    plain <| Prog.modify fun s => { s with engineStarted := true }

/-! ## The audio callback -/

namespace AudioBlockProcessor

/-- Follow a generation that is not the callback's own. -/
def adoptGeneration (cfg : Config) (globalGeneration : Int) :
    CheckedProg (EngineState S) Unit := do
  let expectedBlockStartFrame ← CheckedProg.atomically fun s => do
    let frame ← alignFrameToAudioBlock s.shared.targetFrame cfg.audio.audioBlockFrames
    return (frame, { s with
      audio := ⟨globalGeneration, frame⟩
      history := s.history.targetLoaded })
  plain <| Prog.modify fun s => { s with
    shared.nextUnconsumedFrame := expectedBlockStartFrame
    history := s.history.cursorStored globalGeneration expectedBlockStartFrame }
  plain <| Prog.modify fun s => { s with shared.audioCursorGeneration := globalGeneration }

/-- Load the generation and follow it; the generation. -/
def followGeneration (cfg : Config) : CheckedProg (EngineState S) Int := do
  let globalGeneration ← plain (Prog.read (·.shared.generation))
  if (← plain (Prog.read (·.audio.generation))) ≠ globalGeneration then
    adoptGeneration cfg globalGeneration
    return globalGeneration
  else return globalGeneration

/-- Play the front block or count an underrun, and advance. -/
def consumeBlock (cfg : Config) (globalGeneration expectedBlockStartFrame : Int)
    (output : AudioOutputBuffer S) (head : Option (AudioBlock S)) :
    CheckedProg (EngineState S) (AudioProcessResult × AudioOutputBuffer S) := do
  if !(← plain (Prog.read (·.shared.playing))) then
    return ({}, output)
  else if expectedBlockStartFrame ≥ cfg.totalFrames then
    return ({}, output)
  else
    let played ← plain (Anasa.AudioBlockProcessor.playBlock cfg globalGeneration
      expectedBlockStartFrame output head)
    let nextFrame ← check (add expectedBlockStartFrame cfg.audio.audioBlockFrames)
    plain <| Prog.modify fun s => { s with
      audio := { s.audio with expectedBlockStartFrame := nextFrame }
      shared.nextUnconsumedFrame := nextFrame
      history := s.history.cursorAdvanced globalGeneration s.shared.generation nextFrame }
    return ({ playing := true, underrun := !played.1 }, played.2)

/-- One audio callback: its result and the output it leaves. -/
def processBlock [Zero S] (cfg : Config) (output : AudioOutputBuffer S) :
    CheckedProg (EngineState S) (AudioProcessResult × AudioOutputBuffer S) :=
  if output.frameCount ≤ 0 then return ({}, output)
  else if !output.hasOutput || output.frameCount ≠ cfg.audio.audioBlockFrames then
    return ({}, output.fillSilence)
  else do
    if ← plain (Prog.read (·.shared.stop)) then
      return ({}, output.fillSilence)
    else
      let globalGeneration ← followGeneration cfg
      let expectedBlockStartFrame ← plain (Prog.read (·.audio.expectedBlockStartFrame))
      let capacity ← plain (Prog.read (·.readyQueue.capacity))
      let head ← plain (Anasa.AudioBlockProcessor.discardStaleBlocks globalGeneration
        expectedBlockStartFrame capacity)
      consumeBlock cfg globalGeneration expectedBlockStartFrame output.fillSilence head

end AudioBlockProcessor

/-- A callback, and a record of its result with the frame it asked for. -/
def recordedCallback [Zero S] (cfg : Config) (output : AudioOutputBuffer S) :
    CheckedProg (EngineState S) Unit := do
  let result ← AudioBlockProcessor.processBlock cfg output
  plain <| Prog.modify fun s => { s with
    history.callbacks :=
      (s.audio.expectedBlockStartFrame -
        (if result.1.playing then cfg.audio.audioBlockFrames else 0), result.1) ::
          s.history.callbacks }

/-! ## Workers -/

def RenderCancellation.shouldCancel (cfg : Config) (job : JobId) :
    CheckedProg (EngineState S) Bool := do
  if ← plain (Prog.read (·.render.executor.stopRequested)) then
    return true
  else if ← plain (Prog.read fun s => (s.render.jobs.job job).cancelled) then
    return true
  else
    CheckedProg.read fun s => do
      chunkIndex cfg (s.render.jobs.job job).chunk
      return s.render.versions (s.render.jobs.job job).chunk ≠ (s.render.jobs.job job).version

namespace Renderer

/-- `job.samples[channel][frame] = _kernel.renderSample(...)`. -/
def renderSample (kernel : RenderKernel S) (job : JobId) (channel frame : Int) :
    CheckedProg (EngineState S) Unit :=
  CheckedProg.modify fun s => do
    let j := s.render.jobs.job job
    let chunkFirstFrame ← mul j.chunk chunkFrames
    let globalFrame ← add chunkFirstFrame frame
    require (0 ≤ frame ∧ frame < chunkFrames)
    let sample := kernel channel globalFrame j.version
    return { s with render.jobs := s.render.jobs.setSample job channel frame sample }

/-- The channels of one frame. -/
def renderChannels (kernel : RenderKernel S) (faults : RenderFaults) (job : JobId) (frame : Int) :
    List Int → CheckedProg (EngineState S) (Except String Unit)
  | [] => return .ok ()
  | channel :: rest =>
    if faults.throws channel frame then
      return .error "the kernel failed"
    else do
      renderSample kernel job channel frame
      renderChannels kernel faults job frame rest

/-- The cancellation check that is due at every so many frames of a tile. -/
def periodicCheck (cfg : Config) (job : JobId) (frameInsideTile : Int) :
    CheckedProg (EngineState S) Bool := do
  let offset ← check (rem frameInsideTile cancellationCheckFrames)
  if offset = 0 then RenderCancellation.shouldCancel cfg job
  else return false

/-- The frames of one tile, with the periodic cancellation checks. -/
def renderFrames (cfg : Config) (channelCount : Int) (kernel : RenderKernel S)
    (faults : RenderFaults) (job : JobId) (tileFirstFrame : Int) :
    List Int → CheckedProg (EngineState S) (Except String Bool)
  | [] => return .ok true
  | frame :: rest => do
    let frameInsideTile ← check (sub frame tileFirstFrame)
    if ← periodicCheck cfg job frameInsideTile then
      plain (cancelJob job)
      return .ok false
    else
      match ← renderChannels kernel faults job frame (intRange 0 channelCount) with
      | .error e => return .error e
      | .ok () => renderFrames cfg channelCount kernel faults job tileFirstFrame rest

/-- Validate and render one tile; `false` if it was cancelled. -/
def renderTile (cfg : Config) (kernel : RenderKernel S) (faults : RenderFaults) (job : JobId)
    (tileIndex : Int) : CheckedProg (EngineState S) (Except String Bool) := do
  if tileIndex < 0 ∨ tileIndex ≥ tilesPerChunk then
    return .error "tileIndex is outside the chunk"
  else
    let j ← plain (Prog.read (·.render.jobs.job job))
    if j.chunk < 0 ∨ j.chunk ≥ cfg.chunkCount then
      return .error "chunk index is outside the timeline"
    else if j.samples.channelCount ≤ 0 ∨ j.samples.frameCount ≠ chunkFrames then
      return .error "RenderJob storage must contain complete channels of one chunk"
    else if ← RenderCancellation.shouldCancel cfg job then
      plain (cancelJob job)
      return .ok false
    else
      let tileFirstFrame ← check (mul tileIndex tileFrames)
      let tileEnd ← check (add tileFirstFrame tileFrames)
      let tileLastFrame := min tileEnd chunkFrames
      match ← renderFrames cfg j.samples.channelCount kernel faults job tileFirstFrame
          (intRange tileFirstFrame tileLastFrame) with
      | .error e => return .error e
      | .ok false => return .ok false
      | .ok true =>
        if ← RenderCancellation.shouldCancel cfg job then
          plain (cancelJob job)
          return .ok false
        else return .ok true

end Renderer

/-- `ITileRenderer::renderTile`: a renderer that may refuse, else `Renderer`. -/
def renderTile (cfg : Config) (kernel : RenderKernel S) (faults : RenderFaults) (job : JobId)
    (tileIndex : Int) : CheckedProg (EngineState S) (Except String Bool) :=
  if faults.refuses then return .ok false
  else Renderer.renderTile cfg kernel faults job tileIndex

/-- Render one tile and account for it; whether it was the last tile of its job. -/
def RenderTaskProcessor.process (cfg : Config) (kernel : RenderKernel S) (faults : RenderFaults)
    (worker : ℕ) (task : RenderTask) : CheckedProg (EngineState S) Bool := do
  match ← renderTile cfg kernel faults task.job task.tileIndex with
  | .ok true =>
    plain <| Prog.atomically fun s =>
      let (last, r) := Anasa.RenderTaskProcessor.finishTile worker task true s.render
      (last, { s with render := r })
  | _ =>
    plain (cancelJob task.job)
    plain <| Prog.atomically fun s =>
      let (last, r) := Anasa.RenderTaskProcessor.finishTile worker task false s.render
      (last, { s with render := r })

/-- One pass of the loop of a worker; with no task to take, the worker waits. -/
def Executor.workerLoop (cfg : Config) (kernel : RenderKernel S) (faults : RenderFaults)
    (worker : ℕ) : CheckedProg (EngineState S) Unit := do
  let task ← plain <| Prog.atomically fun s =>
    let (task, r) := Anasa.Executor.takeTask worker s.render
    (task, { s with render := r })
  match task with
  | none => return
  | some task =>
    if ← RenderTaskProcessor.process cfg kernel faults worker task then
      plain <| Prog.modify fun s =>
        { s with render := Anasa.Executor.pushCompleted worker task.job s.render }

/-! ## Calls -/

def schedulerProgram [Zero S] (cfg : Config) : SchedulerCall → CheckedProg (EngineState S) Unit
  | .handleCommand command => Scheduler.handleCommand cfg command
  | .readCommand command => Scheduler.readCommand cfg command
  | .readCommands passes => Scheduler.readCommands cfg passes
  | .collectFinishedJobs passes => Scheduler.collectFinishedJobs cfg passes
  | .feedAudioQueue => Scheduler.feedAudioQueue cfg
  | .updateBackgroundAdmission => Scheduler.updateBackgroundAdmission cfg
  | .scheduleRenderJobs => Scheduler.scheduleRenderJobs cfg
  | call => plain (call.program cfg)

def lifecycleProgram (cfg : Config) : LifecycleCall → CheckedProg (EngineState S) Unit
  | .schedulerStart => Scheduler.start cfg
  | .engineStart => Engine.start cfg
  | call => plain (call.program cfg)

def callProgram [Zero S] (cfg : Config) (kernel : RenderKernel S) :
    Call S → CheckedProg (EngineState S) Unit
  | .scheduler call => do
    if ← plain (Prog.read (·.sched.started)) then
      schedulerProgram cfg call
  | .lifecycle call => lifecycleProgram cfg call
  | .processBlock output => recordedCallback cfg output
  | .workerLoop worker faults => Executor.workerLoop cfg kernel faults worker
  | call => plain (call.program cfg kernel)

/-- The threads of an engine, whose calls check themselves. -/
def engineMachine [Zero S] (cfg : Config) (kernel : RenderKernel S) :
    CheckedMachine ThreadId (Call S) (EngineState S) :=
  ⟨Call.thread, callProgram cfg kernel⟩

/-- The pool reached from a constructed engine, and whether a check has failed: every interleaving
of accesses. -/
def engineRun [Zero S] (cfg : Config) (kernel : RenderKernel S) (moves : List (EngineMove S)) :
    Pool ThreadId (Monitored (EngineState S)) :=
  Pool.run (engineMachine cfg kernel).monitored moves (Pool.idle ⟨.init cfg, false⟩)

end Anasa.Checked
