import Anasa.Arithmetic.SchedulerChecks
import Anasa.Arithmetic.WorkerChecks

/-!
# Frame arithmetic is safe

Starting and stopping pass their checks as well, so every call does, and `Pool.run_monitored`
carries this over every interleaving.
-/

namespace Anasa

open Concurrency Prog

variable {S : Type} {cfg : AcceptedConfig}

/-! ## Starting and stopping -/

namespace Scheduler

theorem start_agrees : Agrees (S := S) cfg (fun _ => True) (start cfg)
    (Checked.Scheduler.start cfg) :=
  (agrees_read _).bind fun _ _ => Agree.ite
    (fun _ => agrees_modify_bind (fun _ => rfl) fun _ => agrees_modify_bind (fun _ => rfl) fun _ =>
      agrees_modify_bind (fun _ => rfl) fun _ => PlaybackProtocol.currentFrame_agrees.bind
        fun _ hframe => (TimelineAudioPublisher.reset_agrees hframe).bind fun _ _ =>
          agrees_modify fun _ => rfl)
    fun _ => Agree.ret trivial

theorem dropCommands_frames (n : ℕ) :
    (dropCommands n : Prog (EngineState S) Unit).Preserves frameView := by
  induction n with
  | zero => exact preserves_pure _
  | succ n ih => exact preserves_modify_bind (fun _ => rfl) fun _ => ih

theorem stop_keeps : (stop cfg : Prog (EngineState S) Unit).Keeps (FrameInv cfg) := by
  have hstop := (keeps_modify (I := FrameInv (S := S) cfg) (f := fun s => { s with
      sched := { s.sched with
        backgroundAllowed := true
        timelineScanCursorInChunks := 0
        started := false
        pendingClassificationsDirty := true
        lastClassifiedPlayheadChunk := -1 }
      render.nextTileSequence := 0
      schedulingHistory := (s.schedulingHistory.observe .reset).resetScan })
    fun _ hs => { hs with scan := onTimeline_zero })
  have hreset : (PlaybackController.resetPlayRequest : Prog (EngineState S) Unit).Preserves
      frameView := preserves_modify fun _ => rfl
  exact (keeps_read _).bind fun _ => keeps_ite
    ((keeps_modify fun _ hs => { hs with }).bind fun _ => (keeps_read _).bind fun _ =>
      (keeps_frames (pending_frameView (dropPendingTiles_pendingView _))).bind fun _ =>
        (keeps_read _).bind fun _ => (keeps_frames (dropCommands_frames _)).bind fun _ =>
          (keeps_frames (pending_frameView (cancelAll_pendingView cfg))).bind fun _ =>
            (keeps_frames hreset).bind fun _ => hstop)
    (keeps_pure _)

theorem post_frames (command : Command) :
    (post command : Prog (EngineState S) Bool).Preserves frameView :=
  preserves_read_bind fun _ => preserves_ite (preserves_pure _) <| preserves_read_bind fun _ =>
    preserves_ite (preserves_pure _) <| preserves_read_bind fun _ =>
      preserves_ite (preserves_pure _) <| preserves_atomically fun _ => rfl

end Scheduler

namespace Engine

theorem start_agrees : Agrees (S := S) cfg (fun _ => True) (start cfg) (Checked.Engine.start cfg) :=
  (agrees_read _).bind fun _ _ => Agree.ite
    (fun _ => (Agree.plain (keeps_modify fun _ hs => { hs with
        slots := hs.slots.reset
        placed := nofun })).bind fun _ _ =>
      agrees_modify_bind (fun _ => rfl) fun _ => agrees_modify_bind (fun _ => rfl) fun _ =>
        (agrees_worker Executor.start_workerView).bind fun _ _ =>
          Scheduler.start_agrees.bind fun _ _ => agrees_modify fun _ => rfl)
    fun _ => Agree.ret trivial

theorem requestStop_frames : (requestStop : Prog (EngineState S) Unit).Preserves frameView :=
  preserves_read_bind fun _ => preserves_ite
    (preserves_modify_bind (fun _ => rfl) fun _ => preserves_modify_bind (fun _ => rfl) fun _ =>
      preserves_modify fun _ => rfl) (preserves_pure _)

theorem stop_keeps : (stop cfg : Prog (EngineState S) Unit).Keeps (FrameInv cfg) :=
  (keeps_read _).bind fun _ => keeps_ite
    ((keeps_modify fun _ hs => { hs with }).bind fun _ =>
      (keeps_modify fun _ hs => { hs with }).bind fun _ => Scheduler.stop_keeps.bind fun _ =>
        (keeps_frames (worker_frameView Executor.stop_workerView)).bind fun _ =>
          keeps_modify fun _ hs => { hs with })
    (keeps_pure _)

end Engine

/-! ## Calls -/

theorem schedulerProgram_agrees [Zero S] (call : SchedulerCall) :
    Agrees (S := S) cfg (fun _ => True) (call.program cfg)
      (Checked.schedulerProgram cfg call) := by
  cases call with
  | handleCommand command => exact Scheduler.handleCommand_agrees command
  | readCommand command => exact Scheduler.readCommand_agrees command
  | readCommands passes => exact Scheduler.readCommands_agrees passes
  | collectFinishedJobs passes => exact Scheduler.collectFinishedJobs_agrees passes
  | feedAudioQueue => exact Scheduler.feedAudioQueue_agrees
  | updateBackgroundAdmission => exact Scheduler.updateBackgroundAdmission_agrees
  | scheduleRenderJobs => exact Scheduler.scheduleRenderJobs_agrees
  | dispatchPendingTiles refuses =>
    exact agrees_frames (dispatch_frameView (Scheduler.dispatchPendingTiles_dispatchView cfg refuses))
  | pause => exact agrees_frames (Scheduler.pause_frames.bind fun _ => preserves_pure _)

theorem lifecycleProgram_agrees (call : LifecycleCall) :
    Agrees (S := S) cfg (fun _ => True) (call.program cfg)
      (Checked.lifecycleProgram cfg call) := by
  cases call with
  | schedulerStart => exact Scheduler.start_agrees
  | schedulerStop => exact Agree.plain Scheduler.stop_keeps
  | executorStart => exact agrees_worker Executor.start_workerView
  | executorStop => exact agrees_worker Executor.stop_workerView
  | engineStart => exact Engine.start_agrees
  | engineStop => exact Agree.plain Engine.stop_keeps

theorem callProgram_agrees [Zero S] (kernel : RenderKernel S) (call : Call S) :
    Agrees cfg (fun _ => True) (call.program cfg kernel)
      (Checked.callProgram cfg kernel call) := by
  cases call with
  | scheduler call =>
    exact (agrees_read _).bind fun _ _ => Agree.ite (fun _ => schedulerProgram_agrees call)
      fun _ => Agree.ret trivial
  | lifecycle call => exact lifecycleProgram_agrees call
  | post command => exact agrees_frames ((Scheduler.post_frames command).bind fun _ => preserves_pure _)
  | requestStop => exact agrees_frames Engine.requestStop_frames
  | processBlock output => exact recordedCallback_agrees output
  | workerLoop worker faults => exact Executor.workerLoop_agrees kernel faults worker

/-! ## Runs -/

/-- What is computed when an engine is constructed fits. -/
structure ConstructionFits (S : Type) [Zero S] (cfg : Config) : Prop where
  totalFrames : ∀ settings : EngineSettings, settings.construct = .ok cfg →
    Checked.calculateTotalFrames settings = some cfg.totalFrames
  chunkCount : Checked.chunkCount cfg.totalFrames = some cfg.chunkCount
  viewport : Checked.initialViewport cfg =
    some (EngineState.init cfg : EngineState S).sched.viewportLastFrame

/-- The block lies inside one chunk of the timeline. -/
structure InOneChunk (cfg : Config) (b : AudioBlock S) : Prop where
  chunk : OnTimeline cfg (frameToChunk b.firstFrame)
  first_le : firstFrameOfChunk (frameToChunk b.firstFrame) ≤ b.firstFrame
  last_le : b.firstFrame + cfg.audio.audioBlockFrames ≤
    firstFrameOfChunk (frameToChunk b.firstFrame) + chunkFrames

/-- The positions of playback are multiples of the block length, and chunks are of the timeline. -/
structure FramesAligned (cfg : Config) (s : EngineState S) : Prop where
  target : BlockBoundary cfg s.shared.targetFrame
  cursor : BlockBoundary cfg s.shared.nextUnconsumedFrame
  next : BlockBoundary cfg s.sched.nextFrameToPublish
  block : ∀ b ∈ s.readyQueue.contents, BlockPlaced cfg b ∧ InOneChunk cfg b
  job : ∀ j, OnTimeline cfg (s.render.jobs.job j).chunk
  scan : OnTimeline cfg s.sched.timelineScanCursorInChunks

theorem FrameInv.aligned {s : EngineState S} (h : FrameInv cfg s) : FramesAligned cfg s where
  target := h.target
  cursor := h.cursor
  next := h.next
  block b hb := by
    have hplaced := h.placed b hb
    have hblock := cfg.valid.blockFrames_pos
    have hlast := hplaced.last_le
    obtain ⟨hoffset₀, hoffset₁⟩ := block_in_chunk cfg.valid hplaced.boundary
    exact ⟨hplaced, Checked.frameToChunk_onTimeline hplaced.boundary.2.1 (by omega), by omega,
      by omega⟩
  job := h.jobs
  scan := h.scan

/-- **Frame arithmetic is safe.** In every run of an accepted configuration, over commands with any
frames, no check fails: no `int` overflows, every chunk index is one of the timeline, and no
assertion fails. The positions stay block boundaries, and every published block lies inside one
chunk. -/
theorem engineRun_frameArithmetic [Zero S] (cfg : AcceptedConfig) (kernel : RenderKernel S)
    (moves : List (EngineMove S)) :
    ConstructionFits S cfg ∧
      (Checked.engineRun cfg kernel moves).state = ⟨(engineRun cfg kernel moves).state, false⟩ ∧
      FramesAligned cfg (engineRun cfg kernel moves).state := by
  obtain ⟨hstate, hinv⟩ := Pool.run_monitored (M := engineMachine cfg kernel)
    (N := Checked.engineMachine cfg kernel) rfl (callProgram_agrees kernel) FrameInv.init moves
  exact ⟨⟨fun _ => Checked.calculateTotalFrames_eq, Checked.chunkCount_eq,
    Checked.initialViewport_eq⟩, hstate, hinv.aligned⟩

end Anasa
