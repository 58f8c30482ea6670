import Mathlib.Logic.Function.Basic
import Anasa.Concurrency.BoundedFifo
import Anasa.Model.Settings

/-!
# The state of an engine

The data types of the source, and `EngineState`: everything the threads of an engine share or
own. A `std::shared_ptr<RenderJob>` is a `JobId`, the number of the job in the order of creation,
so identity of jobs is identity of pointers. Samples have an arbitrary type `S`; the code copies
them and compares none.

The history structures record events for the statements about runs. The model writes them at the
accesses they describe and never reads them to decide anything.
-/

namespace Anasa

open Concurrency

variable {S : Type}

/-! ## Audio -/

/-- Planar samples: `sample channel frame`. -/
structure AudioBuffer (S : Type) where
  channelCount : Int
  frameCount : Int
  sample : Int → Int → S

namespace AudioBuffer

/-- A buffer of silence. -/
def make [Zero S] (channelCount frameCount : Int) : AudioBuffer S :=
  ⟨channelCount, frameCount, fun _ _ => 0⟩

/-- Write one sample. -/
def set (b : AudioBuffer S) (channel frame : Int) (value : S) : AudioBuffer S :=
  { b with sample := fun c f => if c = channel ∧ f = frame then value else b.sample c f }

@[simp] theorem set_channelCount (b : AudioBuffer S) (channel frame : Int) (value : S) :
    (b.set channel frame value).channelCount = b.channelCount := rfl

@[simp] theorem set_frameCount (b : AudioBuffer S) (channel frame : Int) (value : S) :
    (b.set channel frame value).frameCount = b.frameCount := rfl

@[simp] theorem set_sample_self (b : AudioBuffer S) (channel frame : Int) (value : S) :
    (b.set channel frame value).sample channel frame = value := if_pos ⟨rfl, rfl⟩

theorem set_sample_of_ne (b : AudioBuffer S) {channel frame c f : Int} (value : S)
    (h : f ≠ frame ∨ c ≠ channel) : (b.set channel frame value).sample c f = b.sample c f :=
  if_neg (by tauto)

end AudioBuffer

/-- One block of the ready-audio queue. -/
structure AudioBlock (S : Type) where
  generation : Int := 0
  firstFrame : Int := 0
  frameCount : Int := 0
  samples : AudioBuffer S

/-- What the audio callback keeps between two blocks. -/
structure AudioState where
  generation : Int := 0
  expectedBlockStartFrame : Int := 0
  deriving DecidableEq, Repr

/-- The result of one callback. -/
structure AudioProcessResult where
  playing : Bool := false
  underrun : Bool := false
  deriving DecidableEq, Repr

/-- The output of one callback: the frames in each enabled channel, `none` for a disabled one. -/
structure AudioOutputBuffer (S : Type) where
  channels : List (Option (Int → S))
  frameCount : Int

/-! ## Playback -/

/-- The atomics shared by the scheduler and the audio callback. Fewer than `2 ^ 31` generations
are begun in the life of an engine, so the generation does not wrap. -/
structure SharedState where
  stop : Bool := false
  playing : Bool := false
  generation : Int := 1
  targetFrame : Int := 0
  nextUnconsumedFrame : Int := 0
  audioCursorGeneration : Int := 1
  deriving DecidableEq, Repr

inductive CommandType where
  | play
  | pause
  | seek
  | setViewport
  | edit
  | stop
  deriving DecidableEq, Repr

structure Command where
  type : CommandType := .pause
  firstFrame : Int := 0
  lastFrame : Int := 0
  deriving DecidableEq, Repr

/-- A store to the consumer cursor: the generation the callback had loaded, the number of Seeks
whose target it follows, and the frame stored. -/
structure CursorStore where
  generation : Int
  seeks : ℕ
  frame : Int
  deriving DecidableEq, Repr

/-- History of the playback protocol. -/
structure PlaybackHistory where
  /-- The target of every generation begun so far. -/
  generationTarget : Int → Int := fun _ => 0
  /-- Stores to the consumer cursor, the latest first. -/
  cursorStores : List CursorStore := []
  /-- Results of `currentFrame` with the generation they were asked in, the latest first. -/
  currentFrames : List (Int × Int) := []
  /-- Callbacks that asked for a block: the frame they expected and their result, the latest
  first. -/
  callbacks : List (Int × AudioProcessResult) := []
  /-- Targets stored that do not come from an Edit. -/
  seeks : ℕ := 0
  /-- The value of `seeks` when the callback last loaded the target. -/
  audioSeeks : ℕ := 0
  /-- A target is stored whose generation has not begun. -/
  targetPending : Bool := false
  /-- An Edit is being handled. -/
  editing : Bool := false
  /-- An Edit has settled on a position and not yet begun its generation. -/
  editHasCursor : Bool := false
  /-- Advances of the cursor, made since the last Seek, that the next target does not take into
  account: after an Edit had settled on a position, or by a callback that follows the latest
  target but loaded the generation before it began. -/
  lateAdvances : ℕ := 0

namespace PlaybackHistory

variable (h : PlaybackHistory)

/-- `currentFrame` has loaded the cursor that it will return. -/
def cursorRead : PlaybackHistory := { h with editHasCursor := h.editing }

/-- `currentFrame` has loaded the generation of the cursor. Unless it is the latest one,
`currentFrame` will return the target, whatever the cursor does from now on. -/
def cursorGenerationRead (latest : Bool) : PlaybackHistory :=
  { h with editHasCursor := if latest then h.editHasCursor else h.editing }

/-- The target is stored. -/
def targetStored : PlaybackHistory :=
  { h with seeks := if h.editing then h.seeks else h.seeks + 1, targetPending := true }

/-- The generation of a stored target is begun. -/
def generationBegun (generation target : Int) : PlaybackHistory :=
  { h with
    generationTarget := Function.update h.generationTarget generation target
    targetPending := false
    editHasCursor := false }

/-- The callback has loaded the target. -/
def targetLoaded : PlaybackHistory := { h with audioSeeks := h.seeks }

/-- The callback, having loaded `generation`, stores the cursor. -/
def cursorStored (generation frame : Int) : PlaybackHistory :=
  { h with cursorStores := ⟨generation, h.audioSeeks, frame⟩ :: h.cursorStores }

/-- A store that advances the cursor while `current` is the latest generation. -/
def cursorAdvanced (generation current frame : Int) : PlaybackHistory :=
  let late := h.audioSeeks == h.seeks &&
    (h.editHasCursor || h.targetPending || generation != current)
  { h.cursorStored generation frame with
    lateAdvances := if late then h.lateAdvances + 1 else h.lateAdvances }

end PlaybackHistory

/-! ## Rendering -/

/-- The identity of a `RenderJob`. -/
abbrev JobId := ℕ

structure RenderJob (S : Type) where
  chunk : Int := 0
  version : Int := 0
  tilesRemaining : Int := tilesPerChunk
  cancelled : Bool := false
  samples : AudioBuffer S

structure CacheEntry (S : Type) where
  version : Int := 0
  samples : AudioBuffer S

inductive RenderPriority where
  | urgent
  | visible
  | background
  deriving DecidableEq, Repr

/-- `static_cast<int>` of the enumeration. -/
def RenderPriority.toInt : RenderPriority → Int
  | .urgent => 0
  | .visible => 1
  | .background => 2

structure RenderClassification where
  priority : RenderPriority := .background
  deadlineFrame : Int := -1
  distanceInFrames : Int := 0
  deriving DecidableEq, Repr

structure PendingRenderTile where
  job : JobId
  tileIndex : Int := 0
  classification : RenderClassification
  sequence : Int := 0
  deriving DecidableEq, Repr

structure RenderTask where
  job : JobId
  tileIndex : Int := 0
  deriving DecidableEq, Repr

/-- The jobs created so far: job `j` exists when `j < made`. -/
structure JobTable (S : Type) where
  made : ℕ
  job : JobId → RenderJob S

/-- `Executor`, with the local `task` of each worker while it renders, and the job of each
worker that has finished the last tile of a job and not yet queued its completion. -/
structure ExecutorState where
  renderTasks : List RenderTask := []
  completedJobs : List JobId := []
  stopRequested : Bool := false
  started : Bool := false
  rendering : List (ℕ × RenderTask) := []
  publishing : List (ℕ × JobId) := []
  deriving DecidableEq, Repr

/-- History of the rendering pipeline. -/
structure RenderHistory where
  /-- The number of jobs made before the running session. -/
  sessionFirstJob : ℕ := 0
  /-- The scheduler has started, and neither it nor the executor has stopped since. -/
  sessionOpen : Bool := false
  /-- `renderTile` returned true for the tile of the job. -/
  rendered : JobId → Int → Bool := fun _ _ => false
  /-- Completions queued by workers, with the cancelled flag of the job at that moment. -/
  published : List (JobId × Bool) := []
  /-- Jobs whose last tile the scheduler discarded. -/
  retired : List JobId := []
  /-- Chunks and versions written into the cache. -/
  stored : List (Int × Int) := []

namespace RenderHistory

variable (h : RenderHistory)

/-- The scheduler has started. -/
def beginSession (jobsMade : ℕ) : RenderHistory :=
  { h with sessionFirstJob := jobsMade, sessionOpen := true }

/-- The scheduler stops, or the executor starts or stops. -/
def endSession (jobsMade : ℕ) : RenderHistory :=
  { h with sessionFirstJob := jobsMade, sessionOpen := false }

end RenderHistory

/-- The rendering side of an engine: version table, jobs, the tile queue of the scheduler, cache,
job table and executor. -/
structure RenderState (S : Type) where
  versions : Int → Int
  jobs : JobTable S
  pendingTiles : List PendingRenderTile
  reclassificationBuffer : List PendingRenderTile
  nextTileSequence : Int
  cacheEntries : Int → CacheEntry S
  activeJobs : Int → Option JobId
  executor : ExecutorState
  history : RenderHistory

/-- The remaining members of `Scheduler` and of the components it owns. -/
structure SchedulerState where
  playRequested : Bool := false
  backgroundAllowed : Bool := true
  nextFrameToPublish : Int := 0
  stopRequested : Bool := false
  started : Bool := false
  pendingClassificationsDirty : Bool := true
  viewportFirstFrame : Int := 0
  viewportLastFrame : Int := 0
  lastClassifiedPlayheadChunk : Int := -1
  lastClassifiedUrgentChunkEnd : Int := -1
  timelineScanCursorInChunks : Int := 0
  deriving DecidableEq, Repr

/-- Where the thread of the scheduler is in `schedulerLoop`. -/
inductive LoopPhase where
  /-- There is no thread. -/
  | stopped
  /-- The condition of the loop. -/
  | condition
  | readCommands
  /-- The check after `readCommands`. -/
  | breakCheck
  | collectFinishedJobs
  | feedAudioQueue
  | updateBackgroundAdmission
  | scheduleRenderJobs
  | dispatchPendingTiles
  /-- The loop has ended. -/
  | pause
  /-- The thread has returned and can be joined. -/
  | returned
  deriving DecidableEq, Repr

/-- What the owner is stopping, while it waits for the thread of the scheduler. -/
inductive StopScope where
  | scheduler
  | engine
  deriving DecidableEq, Repr

structure LoopState where
  phase : LoopPhase := .stopped
  stopping : Option StopScope := none
  deriving DecidableEq, Repr

/-- What `updateBackgroundAdmission` saw: the gate was reset, or it observed a lead. -/
inductive GateObservation where
  | reset
  | lead (blocks : Int)
  deriving DecidableEq, Repr

/-- Why `dispatchPendingTiles` returned. -/
inductive DispatchEnd where
  /-- No tile is pending. -/
  | drained
  /-- The executor has so many tasks queued. -/
  | executorFull (queued : Int)
  /-- The gate holds the next tile back. -/
  | heldBack
  | refused
  deriving DecidableEq, Repr

/-- A tile that was submitted, the tiles that stayed pending, and what classification depended on:
the scheduler, the chunk of each job and the playhead of the pass; and what the gate had seen. -/
structure Submission where
  tile : PendingRenderTile
  pending : List PendingRenderTile
  sched : SchedulerState
  chunk : JobId → Int
  playheadFrame : Int
  observations : List GateObservation

/-- One step of the background scan: the chunk that the cursor moved past, and the number of pending
tiles by then. -/
structure ScanStep where
  chunk : Int
  pending : ℕ
  deriving DecidableEq, Repr

/-- History of the scheduler. -/
structure SchedulingHistory where
  /-- The playhead of the latest pass of `scheduleRenderJobs`. -/
  playheadFrame : Int := 0
  /-- Number of jobs made before the latest start. -/
  firstJob : ℕ := 0
  /-- Commands queued since the latest start, in order. -/
  accepted : List Command := []
  /-- Commands passed to `handleCommand` since the latest start, in order. -/
  handled : List Command := []
  /-- What the gate has seen, the latest first. -/
  observations : List GateObservation := []
  /-- Tiles submitted, the latest first. -/
  submissions : List Submission := []
  dispatchEnd : DispatchEnd := .drained
  /-- Steps of the background scan since its cursor was last reset, the latest first. -/
  scanSteps : List ScanStep := []

namespace SchedulingHistory

variable (h : SchedulingHistory)

/-- The scheduler has started. -/
def beginSession (jobsMade : ℕ) : SchedulingHistory :=
  { h with firstJob := jobsMade, accepted := [], handled := [] }

def accept (command : Command) : SchedulingHistory :=
  { h with accepted := h.accepted ++ [command] }

def handle (command : Command) : SchedulingHistory :=
  { h with handled := h.handled ++ [command] }

def observe (observation : GateObservation) : SchedulingHistory :=
  { h with observations := observation :: h.observations }

def submit (submission : Submission) : SchedulingHistory :=
  { h with submissions := submission :: h.submissions }

def scan (step : ScanStep) : SchedulingHistory :=
  { h with scanSteps := step :: h.scanSteps }

def resetScan : SchedulingHistory := { h with scanSteps := [] }

end SchedulingHistory

structure EngineState (S : Type) where
  shared : SharedState
  audio : AudioState
  readyQueue : BoundedFifo (AudioBlock S)
  sched : SchedulerState
  commandQueue : BoundedFifo Command
  render : RenderState S
  engineStarted : Bool
  loop : LoopState
  history : PlaybackHistory
  schedulingHistory : SchedulingHistory

/-! ## The state after construction -/

variable [Zero S]

namespace RenderState

/-- `RenderJob(channelCount)`. -/
def newJob (cfg : Config) (chunk version : Int) : RenderJob S :=
  { chunk, version, samples := .make cfg.audio.channelCount chunkFrames }

def init (cfg : Config) : RenderState S where
  versions := fun _ => 1
  jobs := ⟨0, fun _ => newJob cfg 0 0⟩
  pendingTiles := []
  reclassificationBuffer := []
  nextTileSequence := 0
  cacheEntries := fun _ => { samples := .make cfg.audio.channelCount chunkFrames }
  activeJobs := fun _ => none
  executor := {}
  history := {}

end RenderState

def EngineState.init (cfg : Config) : EngineState S where
  shared := {}
  audio := {}
  readyQueue := .make cfg.readyQueueCapacity
    { samples := .make cfg.audio.channelCount cfg.audio.audioBlockFrames }
  sched :=
    { viewportLastFrame :=
        if cfg.audio.sampleRate > cfg.totalFrames / 2 then cfg.totalFrames
        else 2 * cfg.audio.sampleRate }
  commandQueue := .make cfg.scheduler.commandQueueSlots.toNat {}
  render := .init cfg
  engineStarted := false
  loop := {}
  history := {}
  schedulingHistory := {}

end Anasa
