import Anasa.Concurrency.Program
import Anasa.Model.RenderJobs

/-!
# Rendering a tile

`RenderCancellation`, `Renderer` and `RenderTaskProcessor`. The kernel is an arbitrary function of
channel, frame and version. What a kernel or a renderer may do besides returning, `RenderFaults`
decides: throw at a sample, or refuse the tile.
-/

namespace Anasa

open Concurrency

variable {S : Type}

/-- `IRenderKernel::renderSample`: channel, absolute frame and version. -/
abbrev RenderKernel (S : Type) := Int → Int → Int → S

/-- What goes wrong in one call of `renderTile`. -/
structure RenderFaults where
  /-- The renderer refuses the tile. -/
  refuses : Bool := false
  /-- The kernel throws for the channel and the frame of the chunk. -/
  throws : Int → Int → Bool := fun _ _ => false

/-- `job.cancelled.store(true)`. -/
def cancelJob (job : JobId) : Prog (EngineState S) Unit :=
  .modify fun s => { s with render.jobs := s.render.jobs.cancel job }

namespace RenderCancellation

def shouldCancel (job : JobId) : Prog (EngineState S) Bool := do
  if ← .read (·.render.executor.stopRequested) then
    return true
  else if ← .read (fun s => (s.render.jobs.job job).cancelled) then
    return true
  else
    .read fun s =>
      s.render.versions (s.render.jobs.job job).chunk ≠ (s.render.jobs.job job).version

end RenderCancellation

namespace Renderer

/-- `job.samples[channel][frame] = _kernel.renderSample(...)`. -/
def renderSample (kernel : RenderKernel S) (job : JobId) (channel frame : Int) :
    Prog (EngineState S) Unit :=
  .modify fun s =>
    let j := s.render.jobs.job job
    let sample := kernel channel (j.chunk * chunkFrames + frame) j.version
    { s with render.jobs := s.render.jobs.setSample job channel frame sample }

/-- The channels of one frame. -/
def renderChannels (kernel : RenderKernel S) (faults : RenderFaults) (job : JobId) (frame : Int) :
    List Int → Prog (EngineState S) (Except String Unit)
  | [] => return .ok ()
  | channel :: rest =>
    if faults.throws channel frame then
      return .error "the kernel failed"
    else do
      renderSample kernel job channel frame
      renderChannels kernel faults job frame rest

/-- The cancellation check that is due at every so many frames of a tile. -/
def periodicCheck (job : JobId) (frameInsideTile : Int) : Prog (EngineState S) Bool :=
  if frameInsideTile % cancellationCheckFrames = 0 then RenderCancellation.shouldCancel job
  else return false

/-- The frames of one tile, with the periodic cancellation checks. -/
def renderFrames (channelCount : Int) (kernel : RenderKernel S) (faults : RenderFaults)
    (job : JobId) (tileFirstFrame : Int) : List Int → Prog (EngineState S) (Except String Bool)
  | [] => return .ok true
  | frame :: rest => do
    if ← periodicCheck job (frame - tileFirstFrame) then
      cancelJob job
      return .ok false
    else
      match ← renderChannels kernel faults job frame (intRange 0 channelCount) with
      | .error e => return .error e
      | .ok () => renderFrames channelCount kernel faults job tileFirstFrame rest

/-- Validate and render one tile; `false` if it was cancelled. -/
def renderTile (cfg : Config) (kernel : RenderKernel S) (faults : RenderFaults) (job : JobId)
    (tileIndex : Int) : Prog (EngineState S) (Except String Bool) := do
  if tileIndex < 0 ∨ tileIndex ≥ tilesPerChunk then
    return .error "tileIndex is outside the chunk"
  else
    let j ← .read (·.render.jobs.job job)
    if j.chunk < 0 ∨ j.chunk ≥ cfg.chunkCount then
      return .error "chunk index is outside the timeline"
    else if j.samples.channelCount ≤ 0 ∨ j.samples.frameCount ≠ chunkFrames then
      return .error "RenderJob storage must contain complete channels of one chunk"
    else if ← RenderCancellation.shouldCancel job then
      cancelJob job
      return .ok false
    else
      let tileFirstFrame := tileIndex * tileFrames
      let tileLastFrame := min (tileFirstFrame + tileFrames) chunkFrames
      match ← renderFrames j.samples.channelCount kernel faults job tileFirstFrame
          (intRange tileFirstFrame tileLastFrame) with
      | .error e => return .error e
      | .ok false => return .ok false
      | .ok true =>
        -- Content may change after the last periodic check.
        if ← RenderCancellation.shouldCancel job then
          cancelJob job
          return .ok false
        else return .ok true

end Renderer

/-- `ITileRenderer::renderTile`: a renderer that may refuse, else `Renderer`. -/
def renderTile (cfg : Config) (kernel : RenderKernel S) (faults : RenderFaults) (job : JobId)
    (tileIndex : Int) : Prog (EngineState S) (Except String Bool) :=
  if faults.refuses then return .ok false
  else Renderer.renderTile cfg kernel faults job tileIndex

namespace RenderTaskProcessor

/-- `tilesRemaining.fetch_sub(1)`, with what the worker does next: it forgets the task, and it
has a job to publish if it counted the last tile. -/
def finishTile (worker : ℕ) (task : RenderTask) (rendered : Bool) (r : RenderState S) :
    Bool × RenderState S :=
  let previousTilesRemaining := (r.jobs.job task.job).tilesRemaining
  let last := previousTilesRemaining == 1
  (last, { r with
    jobs := r.jobs.countDown task.job
    executor := { r.executor with
      rendering := r.executor.rendering.erase (worker, task)
      publishing :=
        if last then (worker, task.job) :: r.executor.publishing else r.executor.publishing }
    history.rendered := fun j t =>
      (rendered && decide (j = task.job ∧ t = task.tileIndex)) || r.history.rendered j t })

/-- Render one tile and account for it; whether it was the last tile of its job. -/
def process (cfg : Config) (kernel : RenderKernel S) (faults : RenderFaults) (worker : ℕ)
    (task : RenderTask) : Prog (EngineState S) Bool := do
  match ← renderTile cfg kernel faults task.job task.tileIndex with
  | .ok true =>
    .atomically fun s =>
      let (last, r) := finishTile worker task true s.render
      (last, { s with render := r })
  | _ =>
    -- A refused or failed tile cancels the job, but it is still accounted for.
    cancelJob task.job
    .atomically fun s =>
      let (last, r) := finishTile worker task false s.render
      (last, { s with render := r })

end RenderTaskProcessor

end Anasa
