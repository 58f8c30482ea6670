import Anasa.Model.Executor
import Anasa.Model.Playback
import Anasa.Model.SchedulingPolicy
import Anasa.Model.TimelineAudioPublisher

/-!
# The scheduler

The functions of `Scheduler` that its thread runs, in the order of the source: commands,
completions, publishing, admission, scheduling and dispatch. Members that belong to the scheduler
thread are read and written together with the shared access next to them; each load and store of
an atomic of a job, of the version table and of the playback state is an access of its own.
-/

namespace Anasa

open Concurrency

variable {S : Type}

namespace Scheduler

/-! ## Helpers -/

def shutdownRequested : Prog (EngineState S) Bool := do
  if ← .read (·.sched.stopRequested) then return true
  else .read (·.shared.stop)

def beginAudioGeneration (targetFrame : Int) (suspendPlayback : Bool) :
    Prog (EngineState S) Unit := do
  PlaybackProtocol.beginGeneration targetFrame suspendPlayback
  TimelineAudioPublisher.reset targetFrame

/-- `_versionTable.bump(chunk)`. Fewer than `2 ^ 31` edits touch a chunk, so it does not wrap. -/
def bumpVersion (chunk : Int) (r : RenderState S) : RenderState S :=
  { r with versions := Function.update r.versions chunk (r.versions chunk + 1) }

/-- The chunks that an edit of the frames makes obsolete, the context of the kernel included. -/
def invalidatedChunks (cfg : Config) (firstFrame lastFrame : Int) : List Int :=
  let firstFrame := clampTimelineFrame firstFrame cfg.totalFrames
  let lastFrame := clampTimelineFrame (max firstFrame lastFrame) cfg.totalFrames
  let haloFirstFrame := max 0 (firstFrame - cfg.render.contextFrames)
  let haloLastFrame := lastFrame + min cfg.render.contextFrames (cfg.totalFrames - 1 - lastFrame)
  intRange (frameToChunk haloFirstFrame) (frameToChunk haloLastFrame + 1)

def invalidateVersions (cfg : Config) (firstFrame lastFrame : Int) : Prog (EngineState S) Unit :=
  .forEach (fun chunk => do
    .modify fun s => { s with render := bumpVersion chunk s.render }
    .modify fun s => { s with render := ActiveRenderJobs.cancel cfg chunk s.render })
  (invalidatedChunks cfg firstFrame lastFrame)

def cacheIsCurrent (cfg : Config) (chunk : Int) (r : RenderState S) : Bool :=
  (RenderCache.findCurrent cfg r chunk).isSome

def readyLeadBlocks (cfg : Config) : Prog (EngineState S) Int := do
  let nextUnconsumedFrame ← PlaybackProtocol.currentFrame cfg
  .read fun s =>
    TimelineAudioPublisher.readyLeadBlocks cfg s.sched.nextFrameToPublish nextUnconsumedFrame

/-- Both ranges are half-open. -/
def chunkIntersectsViewport (cfg : Config) (sched : SchedulerState) (chunk : Int) : Bool :=
  if sched.viewportFirstFrame ≥ sched.viewportLastFrame then false
  else
    let chunkFirstFrame := firstFrameOfChunk chunk
    let chunkLastFrame := chunkFirstFrame + min chunkFrames (cfg.totalFrames - chunkFirstFrame)
    chunkFirstFrame < sched.viewportLastFrame && chunkLastFrame > sched.viewportFirstFrame

def pendingTileLimit (cfg : Config) (priority : RenderPriority) : Int :=
  if priority = .urgent then cfg.scheduler.maxPendingTiles
  else cfg.scheduler.maxPendingTiles - cfg.scheduler.urgentReservedTiles

def urgentChunkEnd (cfg : Config) (playheadFrame : Int) : Int :=
  if playheadFrame = cfg.totalFrames then cfg.chunkCount
  else
    let firstChunk := frameToChunk playheadFrame
    let configuredEnd := firstChunk + min cfg.scheduler.urgentChunks (cfg.chunkCount - firstChunk)
    let remainingBlocks := (cfg.totalFrames - playheadFrame) / cfg.audio.audioBlockFrames
    let prebufferFrames :=
      min cfg.scheduler.prebufferBlocks remainingBlocks * cfg.audio.audioBlockFrames
    if prebufferFrames = 0 then configuredEnd
    else
      -- The exclusive end must include every chunk touched by the prebuffer range.
      max configuredEnd (frameToChunk (playheadFrame + prebufferFrames - 1) + 1)

/-! ## Commands -/

/-- `_pendingClassificationsDirty = true`. -/
def setClassificationsDirty : Prog (EngineState S) Unit :=
  .modify fun s => { s with sched.pendingClassificationsDirty := true }

def handleCommand (cfg : Config) (command : Command) : Prog (EngineState S) Unit :=
  match command.type with
  | .play => do
    if ← PlaybackController.requestPlay then
      setClassificationsDirty
  | .pause => do
    if ← PlaybackController.pause then
      setClassificationsDirty
  | .seek => do
    let target := alignFrameToAudioBlock
      (clampTimelineFrame command.firstFrame cfg.totalFrames) cfg.audio.audioBlockFrames
    beginAudioGeneration target true
    setClassificationsDirty
  | .setViewport =>
    .modify fun s => { s with
      sched.viewportFirstFrame := clampTimelineBoundary command.firstFrame cfg.totalFrames
      sched.viewportLastFrame :=
        clampTimelineBoundary (max command.firstFrame command.lastFrame) cfg.totalFrames
      sched.pendingClassificationsDirty := true }
  | .edit => do
    .modify fun s => { s with history.editing := true }
    invalidateVersions cfg command.firstFrame command.lastFrame
    let targetFrame ← PlaybackProtocol.currentFrame cfg
    let suspendPlayback ← .read (PlaybackController.shouldRebufferOnEdit cfg)
    beginAudioGeneration targetFrame suspendPlayback
    .modify fun s => { s with history.editing := false }
  | .stop => do
    .modify fun s => { s with shared.stop := true }
    .modify fun s => { s with sched.stopRequested := true }

/-- At most so many passes of the loop that reads commands. -/
def readCommands (cfg : Config) : ℕ → Prog (EngineState S) Unit
  | 0 => return
  | n + 1 => do
    match ← .read (·.commandQueue.front) with
    | none => return
    | some command =>
      .modify fun s => { s with commandQueue := s.commandQueue.pop }
      handleCommand cfg command
      if !(← shutdownRequested) then
        readCommands cfg n

/-! ## Completions -/

/-- Pop one completion and store it if its job is the registered one; `false` if there is none. -/
def collectOne (cfg : Config) (r : RenderState S) : Bool × RenderState S :=
  match Executor.popCompleted r with
  | none => (false, r)
  | some (job, r) =>
    let (usable, r) := ActiveRenderJobs.finish cfg job r
    if usable then
      let j := r.jobs.job job
      (true, (RenderCache.store cfg j.chunk j.version j.samples r).2)
    else (true, r)

/-- At most so many passes of the loop that collects completions. -/
def collectFinishedJobs (cfg : Config) : ℕ → Prog (EngineState S) Unit
  | 0 => return
  | n + 1 => do
    let popped ← .atomically fun s =>
      let (popped, r) := collectOne cfg s.render
      (popped, { s with render := r })
    if popped then
      collectFinishedJobs cfg n

/-! ## Publishing and background admission -/

def feedAudioQueue (cfg : Config) : Prog (EngineState S) Unit := do
  let nextUnconsumedFrame ← PlaybackProtocol.currentFrame cfg
  if nextUnconsumedFrame ≥ cfg.totalFrames then
    TimelineAudioPublisher.reset cfg.totalFrames
    if ← PlaybackController.pause then
      setClassificationsDirty
  else
    let generation ← .read (·.shared.generation)
    TimelineAudioPublisher.publish cfg nextUnconsumedFrame generation
    let lead ← readyLeadBlocks cfg
    let entireRemainder ← .read fun s =>
      TimelineAudioPublisher.entireRemainderPublished cfg s.sched.nextFrameToPublish
    PlaybackController.startIfReady cfg lead entireRemainder

/-- The background gate observes nothing while it is reset. -/
def gateResets (cfg : Config) (s : EngineState S) : Bool :=
  cfg.scheduler.policyType = .fifo || !s.sched.playRequested

def updateBackgroundAdmission (cfg : Config) : Prog (EngineState S) Unit := do
  if ← .read (gateResets cfg) then
    .modify fun s => { s with
      sched.backgroundAllowed := true
      schedulingHistory := s.schedulingHistory.observe .reset }
  else
    let lead ← readyLeadBlocks cfg
    .modify fun s => { s with
      sched.backgroundAllowed := BackgroundRenderGate.observe cfg lead s.sched.backgroundAllowed
      schedulingHistory := s.schedulingHistory.observe (.lead lead) }

/-! ## Classification -/

def classifyChunk (cfg : Config) (sched : SchedulerState) (chunk playheadFrame : Int) :
    Except String RenderClassification :=
  if chunk < 0 ∨ chunk ≥ cfg.chunkCount then .error "chunk index is outside the timeline"
  else
    let boundedPlayhead := clampTimelineBoundary playheadFrame cfg.totalFrames
    let chunkFirstFrame := firstFrameOfChunk chunk
    let distanceInFrames := |chunkFirstFrame - boundedPlayhead|
    -- Play intent drives urgent preparation before audio consumption is enabled.
    if sched.playRequested ∧ boundedPlayhead < cfg.totalFrames ∧
        frameToChunk boundedPlayhead ≤ chunk ∧ chunk < urgentChunkEnd cfg boundedPlayhead then
      .ok { priority := .urgent, deadlineFrame := chunkFirstFrame, distanceInFrames }
    else if chunkIntersectsViewport cfg sched chunk then
      .ok { priority := .visible, distanceInFrames }
    else .ok { priority := .background, distanceInFrames }

/-- A pending tile with the classification of its chunk. -/
def reclassify (cfg : Config) (s : EngineState S) (playheadFrame : Int)
    (tile : PendingRenderTile) : PendingRenderTile :=
  match classifyChunk cfg s.sched (s.render.jobs.job tile.job).chunk playheadFrame with
  -- A job is created for a chunk of the timeline.
  | .error _ => tile
  | .ok classification => { tile with classification }

def refreshPendingClassifications (cfg : Config) (playheadFrame : Int) :
    Prog (EngineState S) Unit :=
  .modify fun s => { s with render := { s.render with
    pendingTiles :=
      pushAllPending cfg (s.render.pendingTiles.map (reclassify cfg s playheadFrame)) []
    reclassificationBuffer := [] } }

/-! ## Making room for an urgent chunk -/

/-- The flag of the job of a tile. -/
def tileIsCancelled (tile : PendingRenderTile) : Prog (EngineState S) Bool :=
  .read fun s => (s.render.jobs.job tile.job).cancelled

/-- The number of tiles whose job is not cancelled. -/
def countRetained : List PendingRenderTile → Prog (EngineState S) Int
  | [] => return 0
  | tile :: rest => do
    let cancelled ← tileIsCancelled tile
    let retained ← countRetained rest
    return if cancelled then retained else retained + 1

/-- Cancel jobs of less important tiles until an urgent chunk fits. -/
def evictJobs (cfg : Config) (buffer : List PendingRenderTile) (retainedTiles : Int) :
    List PendingRenderTile → Prog (EngineState S) Unit
  | [] => return
  | tile :: rest => do
    if retainedTiles + tilesPerChunk > cfg.scheduler.maxPendingTiles then
      if tile.classification.priority = .urgent then
        evictJobs cfg buffer retainedTiles rest
      else if ← tileIsCancelled tile then
        evictJobs cfg buffer retainedTiles rest
      else
        -- Cancel the whole job: some of its tiles alone cannot produce a valid chunk.
        cancelJob tile.job
        evictJobs cfg buffer (retainedTiles - buffer.countP (·.job = tile.job)) rest

/-- Take the first tile out of the buffer and account for it as discarded. -/
def retireTile (cfg : Config) (tile : PendingRenderTile) (r : RenderState S) : RenderState S :=
  let previousTilesRemaining := (r.jobs.job tile.job).tilesRemaining
  let r := { r with
    jobs := r.jobs.countDown tile.job
    reclassificationBuffer := r.reclassificationBuffer.tail }
  if previousTilesRemaining = 1 then
    let r := (ActiveRenderJobs.finish cfg tile.job r).2
    { r with history.retired := tile.job :: r.history.retired }
  else r

/-- Move the first tile of the buffer back to the queue. -/
def keepTile (cfg : Config) (tile : PendingRenderTile) (r : RenderState S) : RenderState S :=
  { r with
    pendingTiles := pushPending cfg tile r.pendingTiles
    reclassificationBuffer := r.reclassificationBuffer.tail }

def retireOrKeep (cfg : Config) (tile : PendingRenderTile) : Prog (EngineState S) Unit := do
  if ← tileIsCancelled tile then
    -- Workers still account for the tiles they accepted.
    .modify fun s => { s with render := retireTile cfg tile s.render }
  else
    .modify fun s => { s with render := keepTile cfg tile s.render }

def makeRoomForUrgentChunk (cfg : Config) : Prog (EngineState S) Unit := do
  let buffer ← .atomically fun s =>
    (s.render.pendingTiles, { s with render := { s.render with
      reclassificationBuffer := s.render.pendingTiles
      pendingTiles := [] } })
  let retainedTiles ← countRetained buffer
  evictJobs cfg buffer retainedTiles buffer.reverse
  .forEach (retireOrKeep cfg) buffer

/-! ## Scheduling -/

/-- The queue cannot take the tiles of one more chunk within the limit. -/
def queueIsFull (limit : Int) (r : RenderState S) : Bool :=
  (r.pendingTiles.length : Int) + tilesPerChunk > limit

/-- The tiles of a new job, with their sequence numbers. -/
def newTiles (job : JobId) (classification : RenderClassification) (firstSequence : Int) :
    List PendingRenderTile :=
  (intRange 0 tilesPerChunk).map fun tileIndex =>
    { job, tileIndex, classification, sequence := firstSequence + tileIndex }

/-- Create the job of a chunk and queue its tiles. -/
def admitChunk [Zero S] (cfg : Config) (chunk version : Int)
    (classification : RenderClassification) (r : RenderState S) : RenderState S :=
  match ActiveRenderJobs.create cfg chunk version r with
  -- The chunk is one of the timeline.
  | .error _ => r
  | .ok (job, r) => { r with
      pendingTiles :=
        pushAllPending cfg (newTiles job classification r.nextTileSequence) r.pendingTiles
      nextTileSequence := r.nextTileSequence + tilesPerChunk }

/-- Make room for an urgent chunk that the full queue cannot take. -/
def makeRoomIfUrgent (cfg : Config) (priority : RenderPriority) : Prog (EngineState S) Unit :=
  if cfg.scheduler.policyType = .priority ∧ priority = .urgent then do
    if ← .read fun s => queueIsFull (pendingTileLimit cfg priority) s.render then
      makeRoomForUrgentChunk cfg
  else return

/-- Admit a chunk if the queue can take its tiles. -/
def admitIfRoom [Zero S] (cfg : Config) (chunk version : Int)
    (classification : RenderClassification) : Prog (EngineState S) Unit := do
  if !(← .read fun s => queueIsFull (pendingTileLimit cfg classification.priority) s.render) then
    .modify fun s => { s with render := admitChunk cfg chunk version classification s.render }

def scheduleChunk [Zero S] (cfg : Config) (chunk playheadFrame : Int) :
    Prog (EngineState S) Unit := do
  if chunk < 0 ∨ chunk ≥ cfg.chunkCount then return
  else if ← .read fun s => cacheIsCurrent cfg chunk s.render then return
  else
    let version ← .read (·.render.versions chunk)
    if ← .read fun s => ActiveRenderJobs.hasCurrent cfg s.render chunk version then return
    else
      match ← .read fun s => classifyChunk cfg s.sched chunk playheadFrame with
      | .error _ => return
      | .ok classification =>
        makeRoomIfUrgent cfg classification.priority
        admitIfRoom cfg chunk version classification

/-- The chunks of the urgent loop. -/
def urgentLoopChunks (cfg : Config) (sched : SchedulerState) (playheadFrame : Int) : List Int :=
  if sched.playRequested ∧ playheadFrame < cfg.totalFrames then
    intRange (frameToChunk playheadFrame) (urgentChunkEnd cfg playheadFrame)
  else []

/-- The chunks of the viewport loop. -/
def viewportLoopChunks (cfg : Config) (sched : SchedulerState) : List Int :=
  if sched.viewportLastFrame > sched.viewportFirstFrame then
    let lastVisibleFrame := min (sched.viewportLastFrame - 1) (cfg.totalFrames - 1)
    intRange (frameToChunk sched.viewportFirstFrame)
      (min (frameToChunk lastVisibleFrame + 1) cfg.chunkCount)
  else []

/-- The background scan, with the passes it still may make. -/
def scanTimeline [Zero S] (cfg : Config) (playheadFrame : Int) : ℕ → Prog (EngineState S) Unit
  | 0 => return
  | n + 1 => do
    let (full, chunk) ← .read fun s =>
      (queueIsFull (pendingTileLimit cfg .background) s.render, s.sched.timelineScanCursorInChunks)
    if full then return
    else
      scheduleChunk cfg chunk playheadFrame
      .modify fun s => { s with
        sched.timelineScanCursorInChunks :=
          (s.sched.timelineScanCursorInChunks + 1) % cfg.chunkCount
        schedulingHistory := s.schedulingHistory.scan
          ⟨s.sched.timelineScanCursorInChunks, s.render.pendingTiles.length⟩ }
      scanTimeline cfg playheadFrame n

def playheadChunk (cfg : Config) (playheadFrame : Int) : Int :=
  if playheadFrame < cfg.totalFrames then frameToChunk playheadFrame else cfg.chunkCount

/-- Priorities may have materially changed since the pending tiles were classified. -/
def classificationChanged (cfg : Config) (playheadFrame : Int) (sched : SchedulerState) : Bool :=
  sched.pendingClassificationsDirty ||
    playheadChunk cfg playheadFrame != sched.lastClassifiedPlayheadChunk ||
    urgentChunkEnd cfg playheadFrame != sched.lastClassifiedUrgentChunkEnd

/-- Refresh the classifications if they may have changed, and record what they are for. -/
def updateClassifications (cfg : Config) (playheadFrame : Int) : Prog (EngineState S) Unit := do
  if ← .read fun s =>
      cfg.scheduler.policyType = .priority && classificationChanged cfg playheadFrame s.sched then
    refreshPendingClassifications cfg playheadFrame
  .modify fun s => { s with
    sched := { s.sched with
      pendingClassificationsDirty := false
      lastClassifiedPlayheadChunk := playheadChunk cfg playheadFrame
      lastClassifiedUrgentChunkEnd := urgentChunkEnd cfg playheadFrame }
    schedulingHistory.playheadFrame := playheadFrame }

/-- Chunks near the playhead, then those in the viewport, then the timeline round-robin. -/
def scheduleLoops [Zero S] (cfg : Config) (playheadFrame : Int) : Prog (EngineState S) Unit := do
  let urgentChunks ← .read fun s => urgentLoopChunks cfg s.sched playheadFrame
  .forEach (fun chunk => scheduleChunk cfg chunk playheadFrame) urgentChunks
  let viewportChunks ← .read fun s => viewportLoopChunks cfg s.sched
  .forEach (fun chunk => scheduleChunk cfg chunk playheadFrame) viewportChunks
  scanTimeline cfg playheadFrame
    (min cfg.chunkCount (cfg.scheduler.maxPendingTiles / tilesPerChunk)).toNat

def scheduleRenderJobs [Zero S] (cfg : Config) : Prog (EngineState S) Unit := do
  let playheadFrame ← PlaybackProtocol.currentFrame cfg
  updateClassifications cfg playheadFrame
  scheduleLoops cfg playheadFrame

/-! ## Dispatch -/

/-- Submit a tile and, if it is accepted, remove it from the queue. The two are one access, since
nobody but the thread of the scheduler sees the queue. That `submit` throws is not told from a
refusal: every pending tile is one of the eight of its job (`TilesAccounted.index`). -/
def submitTile (cfg : Config) (refused : Bool) (tile : PendingRenderTile) (r : RenderState S) :
    Bool × RenderState S :=
  if refused then (false, r)
  else
    match Executor.submit cfg ⟨tile.job, tile.tileIndex⟩ r with
    | .ok (true, r) => (true, { r with pendingTiles := r.pendingTiles.tail })
    | _ => (false, r)

/-- The record of a tile that is submitted. -/
def submission (tile : PendingRenderTile) (pending : List PendingRenderTile)
    (s : EngineState S) : Submission where
  tile := tile
  pending := pending
  sched := s.sched
  chunk j := (s.render.jobs.job j).chunk
  playheadFrame := s.schedulingHistory.playheadFrame
  observations := s.schedulingHistory.observations

/-- The state after the executor has been asked to take a tile. -/
def afterSubmit (tile : PendingRenderTile) (submitted : Bool) (r : RenderState S)
    (s : EngineState S) : EngineState S :=
  { s with
    render := r
    schedulingHistory :=
      if submitted then s.schedulingHistory.submit (submission tile r.pendingTiles s)
      else s.schedulingHistory }

/-- `dispatchPendingTiles` returns. -/
def endDispatch (reason : DispatchEnd) : Prog (EngineState S) Unit :=
  .modify fun s => { s with schedulingHistory.dispatchEnd := reason }

/-- At most so many passes of the dispatch loop; `refuses` says in which of them the executor
refuses the task. -/
def dispatchLoop (cfg : Config) (refuses : ℕ → Bool) : ℕ → Prog (EngineState S) Unit
  | 0 => endDispatch .drained
  | n + 1 => do
    let (top, queued) ← .read fun s =>
      (s.render.pendingTiles.head?, Executor.queuedTaskCount s.render)
    match top with
    | none => endDispatch .drained
    | some tile =>
      if queued < Executor.workerCount cfg then
        if ← .read fun s =>
            !s.sched.backgroundAllowed && tile.classification.priority = .background then
          endDispatch .heldBack
        else
          let submitted ← .atomically fun s =>
            let (submitted, r) := submitTile cfg (refuses n) tile s.render
            (submitted, afterSubmit tile submitted r s)
          if submitted then
            dispatchLoop cfg refuses n
          else
            endDispatch .refused
      else
        endDispatch (.executorFull queued)

/-- Every pass but the last removes a pending tile. -/
def dispatchPendingTiles (cfg : Config) (refuses : ℕ → Bool) : Prog (EngineState S) Unit := do
  dispatchLoop cfg refuses (← .read (·.render.pendingTiles.length))

/-! ## Lifecycle -/

def start (cfg : Config) : Prog (EngineState S) Unit := do
  if !(← .read (·.sched.started)) then
    .modify fun s => { s with sched := { s.sched with stopRequested := false } }
    PlaybackController.resetPlayRequest
    .modify fun s => { s with
      sched := { s.sched with
        backgroundAllowed := true
        pendingClassificationsDirty := true
        lastClassifiedPlayheadChunk := -1
        lastClassifiedUrgentChunkEnd := -1 }
      schedulingHistory := s.schedulingHistory.observe .reset }
    let frame ← PlaybackProtocol.currentFrame cfg
    TimelineAudioPublisher.reset frame
    .modify fun s => { s with
      sched.started := true
      render.history := s.render.history.beginSession s.render.jobs.made
      schedulingHistory := s.schedulingHistory.beginSession s.render.jobs.made }

/-- Cancel and remove one pending tile. -/
def dropPendingTile (r : RenderState S) : RenderState S :=
  match r.pendingTiles with
  | [] => r
  | tile :: rest => { r with jobs := r.jobs.cancel tile.job, pendingTiles := rest }

def dropPendingTiles : ℕ → Prog (EngineState S) Unit
  | 0 => return
  | n + 1 => do
    .modify fun s => { s with render := dropPendingTile s.render }
    dropPendingTiles n

/-- Remove so many commands. -/
def dropCommands : ℕ → Prog (EngineState S) Unit
  | 0 => return
  | n + 1 => do
    .modify fun s => { s with commandQueue := s.commandQueue.pop }
    dropCommands n

/-- `ActiveRenderJobs::cancelAll`. -/
def cancelAll (cfg : Config) : Prog (EngineState S) Unit :=
  .forEach (fun chunk => .modify fun s =>
    { s with render := ActiveRenderJobs.cancelAndReset chunk s.render })
  (intRange 0 cfg.chunkCount)

/-- What `stop` does once the thread of the scheduler has ended. -/
def stop (cfg : Config) : Prog (EngineState S) Unit := do
  if ← .read (·.sched.started) then
    .modify fun s => { s with
      sched.stopRequested := true
      render.history := s.render.history.endSession s.render.jobs.made }
    dropPendingTiles (← .read (·.render.pendingTiles.length))
    dropCommands (← .read (·.commandQueue.contents.length))
    cancelAll cfg
    PlaybackController.resetPlayRequest
    .modify fun s => { s with
      sched := { s.sched with
        backgroundAllowed := true
        timelineScanCursorInChunks := 0
        started := false
        pendingClassificationsDirty := true
        lastClassifiedPlayheadChunk := -1 }
      render.nextTileSequence := 0
      schedulingHistory := (s.schedulingHistory.observe .reset).resetScan }

/-- Post a command; whether it was queued. -/
def post (command : Command) : Prog (EngineState S) Bool := do
  if !(← .read (·.sched.started)) then return false
  else if ← .read (·.sched.stopRequested) then return false
  else if ← .read (·.shared.stop) then return false
  else
    .atomically fun s =>
      let (pushed, queue) := s.commandQueue.pushWith fun _ => command
      (pushed, { s with
        commandQueue := queue
        schedulingHistory :=
          if pushed then s.schedulingHistory.accept command else s.schedulingHistory })

end Scheduler

end Anasa
