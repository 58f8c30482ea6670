import Anasa.Model.Engine
import Anasa.Rendering.Operations

/-!
# Programs that leave playback alone

Scheduling, dispatch and the workers change neither the playback state nor the ready-audio queue
(`audioView`), and of the cache and the versions they change nothing either (`contentView`).
-/

namespace Anasa

open Concurrency Prog

variable {S : Type}

/-- The playback state, the ready-audio queue, the cursor of the publisher, and what is
started. -/
def audioView (s : EngineState S) :=
  (s.shared, s.audio, s.readyQueue, s.history, s.sched.playRequested, s.sched.nextFrameToPublish,
    s.sched.started, s.engineStarted)

/-- The same with the content that is published. -/
def contentView (s : EngineState S) := (audioView s, s.render.versions, s.render.cacheEntries)

theorem preserves_audioView {α : Type} {p : Prog (EngineState S) α} (hp : p.Preserves contentView) :
    p.Preserves audioView := hp.mono fun _ _ h => (Prod.mk.inj h).1

/-- What the loop of the scheduler shares with its owner. -/
structure Control where
  commands : BoundedFifo Command
  loop : LoopState
  started : Bool
  stopRequested : Bool
  accepted : List Command
  handled : List Command

def controlOf (s : EngineState S) : Control where
  commands := s.commandQueue
  loop := s.loop
  started := s.sched.started
  stopRequested := s.sched.stopRequested
  accepted := s.schedulingHistory.accepted
  handled := s.schedulingHistory.handled

/-- What scheduling and dispatch leave alone. -/
def schedulingView (s : EngineState S) := (contentView s, controlOf s)

theorem scheduling_contentView {α : Type} {p : Prog (EngineState S) α}
    (hp : p.Preserves schedulingView) : p.Preserves contentView :=
  hp.mono fun _ _ h => (Prod.mk.inj h).1

theorem scheduling_controlOf {α : Type} {p : Prog (EngineState S) α}
    (hp : p.Preserves schedulingView) : p.Preserves controlOf :=
  hp.mono fun _ _ h => (Prod.mk.inj h).2

/-! ## Workers -/

/-- What workers and the executor leave alone: all but the jobs, their tasks and completions. -/
def workerView (s : EngineState S) :=
  (contentView s, s.sched, s.commandQueue, s.loop, s.schedulingHistory, s.render.pendingTiles,
    s.render.reclassificationBuffer, s.render.nextTileSequence, s.render.activeJobs,
    s.render.jobs.origins)

theorem preserves_contentView {α : Type} {p : Prog (EngineState S) α}
    (hp : p.Preserves workerView) : p.Preserves contentView :=
  hp.mono fun _ _ h => (Prod.mk.inj h).1

/-- An access that changes what workers and the executor may change. -/
theorem workerView_eq (s : EngineState S) (jobs : JobTable S) (executor : ExecutorState)
    (history : RenderHistory) (h : jobs.origins = s.render.jobs.origins) :
    workerView { s with render := { s.render with
      jobs := jobs, executor := executor, history := history } } = workerView s := by
  simp only [workerView, contentView, audioView, h]

theorem cancelJob_workerView (job : JobId) :
    (cancelJob job : Prog (EngineState S) Unit).Preserves workerView :=
  preserves_modify fun s => workerView_eq s _ _ _ (JobTable.cancel_origins _ _)

/-! ## Tiles -/

/-- What moving and discarding tiles leaves alone. -/
def pendingView (s : EngineState S) :=
  (schedulingView s, s.sched, s.schedulingHistory, s.render.jobs.origins)

theorem pending_schedulingView {α : Type} {p : Prog (EngineState S) α} (hp : p.Preserves pendingView) :
    p.Preserves schedulingView := hp.mono fun _ _ h => (Prod.mk.inj h).1

theorem worker_pendingView {α : Type} {p : Prog (EngineState S) α} (hp : p.Preserves workerView) :
    p.Preserves pendingView :=
  hp.mono fun s s' h => by
    simp only [workerView, Prod.mk.injEq] at h
    simp only [pendingView, schedulingView, controlOf, h]

/-- An access that moves or discards tiles. -/
theorem pendingView_eq (s : EngineState S) (jobs : JobTable S)
    (pendingTiles reclassificationBuffer : List PendingRenderTile)
    (activeJobs : Int → Option JobId) (history : RenderHistory)
    (h : jobs.origins = s.render.jobs.origins) :
    pendingView { s with render := { s.render with
      jobs, pendingTiles, reclassificationBuffer, activeJobs, history } } = pendingView s := by
  simp only [pendingView, schedulingView, contentView, audioView, controlOf, h]

namespace Scheduler

theorem countRetained_workerView (tiles : List PendingRenderTile) :
    (countRetained tiles : Prog (EngineState S) Int).Preserves workerView := by
  induction tiles with
  | nil => exact preserves_pure _
  | cons tile tiles ih =>
    exact preserves_read_bind fun _ => ih.bind fun _ => preserves_pure _

/-- Cancelling jobs moves no tile. -/
theorem evictJobs_workerView (cfg : Config) (buffer : List PendingRenderTile) (retained : Int)
    (tiles : List PendingRenderTile) :
    (evictJobs cfg buffer retained tiles : Prog (EngineState S) Unit).Preserves workerView := by
  induction tiles generalizing retained with
  | nil => exact preserves_pure _
  | cons tile tiles ih =>
    exact preserves_ite (preserves_ite (ih _) <| preserves_read_bind fun _ => preserves_ite (ih _) <|
      (cancelJob_workerView tile.job).bind fun _ => ih _) (preserves_pure _)

theorem retireOrKeep_pendingView (cfg : Config) (tile : PendingRenderTile) :
    (retireOrKeep cfg tile : Prog (EngineState S) Unit).Preserves pendingView := by
  refine preserves_read_bind fun _ => preserves_ite (preserves_modify fun s => ?_)
    (preserves_modify fun _ => rfl)
  rw [retireTile_eq]
  exact pendingView_eq s _ _ _ _ _ (JobTable.countDown_origins _ _)

theorem makeRoomForUrgentChunk_pendingView (cfg : Config) :
    (makeRoomForUrgentChunk cfg : Prog (EngineState S) Unit).Preserves pendingView :=
  preserves_atomically_bind (fun _ => rfl) fun _ =>
    (worker_pendingView (countRetained_workerView _)).bind fun _ =>
      (worker_pendingView (evictJobs_workerView cfg _ _ _)).bind fun _ =>
        preserves_forEach fun tile _ => retireOrKeep_pendingView cfg tile

theorem makeRoomIfUrgent_pendingView (cfg : Config) (priority : RenderPriority) :
    (makeRoomIfUrgent cfg priority : Prog (EngineState S) Unit).Preserves pendingView :=
  preserves_ite (preserves_read_bind fun _ =>
    preserves_ite (makeRoomForUrgentChunk_pendingView cfg) (preserves_pure _)) (preserves_pure _)

theorem updateClassifications_schedulingView (cfg : Config) (playheadFrame : Int) :
    (updateClassifications cfg playheadFrame : Prog (EngineState S) Unit).Preserves schedulingView :=
  preserves_read_bind fun _ => preserves_ite
    (preserves_modify_bind (fun _ => rfl) fun _ => preserves_modify fun _ => rfl)
    (preserves_modify fun _ => rfl)

theorem updateClassifications_contentView (cfg : Config) (playheadFrame : Int) :
    (updateClassifications cfg playheadFrame : Prog (EngineState S) Unit).Preserves contentView :=
  scheduling_contentView (updateClassifications_schedulingView cfg playheadFrame)

/-- What dispatching leaves alone: all but the pending tiles, the tasks and the record of what is
submitted. -/
def dispatchView (s : EngineState S) :=
  (schedulingView s, s.sched, s.schedulingHistory.scanSteps, s.render.jobs, s.render.activeJobs)

theorem dispatch_schedulingView {α : Type} {p : Prog (EngineState S) α}
    (hp : p.Preserves dispatchView) : p.Preserves schedulingView :=
  hp.mono fun _ _ h => (Prod.mk.inj h).1

theorem endDispatch_dispatchView (reason : DispatchEnd) :
    (endDispatch reason : Prog (EngineState S) Unit).Preserves dispatchView :=
  preserves_modify fun _ => rfl

theorem dispatchLoop_dispatchView (cfg : Config) (refuses : ℕ → Bool) (n : ℕ) :
    (dispatchLoop cfg refuses n : Prog (EngineState S) Unit).Preserves dispatchView := by
  induction n with
  | zero => exact endDispatch_dispatchView _
  | succ n ih =>
    refine preserves_read_bind fun ⟨top, queued⟩ => ?_
    cases top with
    | none => exact endDispatch_dispatchView _
    | some tile =>
      refine preserves_ite (preserves_read_bind fun _ => preserves_ite (endDispatch_dispatchView _) <|
        preserves_atomically_bind (fun s => ?_) fun _ =>
          preserves_ite ih (endDispatch_dispatchView _)) (endDispatch_dispatchView _)
      have heq := submitTile_eq cfg (refuses n) tile s.render
      show dispatchView (afterSubmit tile (submitTile cfg (refuses n) tile s.render).1
        (submitTile cfg (refuses n) tile s.render).2 s) = _
      unfold afterSubmit
      rw [heq]
      split <;> rfl

theorem dispatchPendingTiles_dispatchView (cfg : Config) (refuses : ℕ → Bool) :
    (dispatchPendingTiles cfg refuses : Prog (EngineState S) Unit).Preserves dispatchView :=
  preserves_read_bind fun _ => dispatchLoop_dispatchView cfg refuses _

theorem dispatchPendingTiles_contentView (cfg : Config) (refuses : ℕ → Bool) :
    (dispatchPendingTiles cfg refuses : Prog (EngineState S) Unit).Preserves contentView :=
  scheduling_contentView (dispatch_schedulingView (dispatchPendingTiles_dispatchView cfg refuses))

theorem dropPendingTiles_pendingView (n : ℕ) :
    (dropPendingTiles n : Prog (EngineState S) Unit).Preserves pendingView := by
  induction n with
  | zero => exact preserves_pure _
  | succ n ih =>
    refine preserves_modify_bind (fun s => ?_) fun _ => ih
    have horigins := dropPendingTile_origins s.render
    rw [dropPendingTile_eq] at horigins ⊢
    exact pendingView_eq s _ _ _ _ _ horigins

theorem dropPendingTiles_contentView (n : ℕ) :
    (dropPendingTiles n : Prog (EngineState S) Unit).Preserves contentView :=
  scheduling_contentView (pending_schedulingView (dropPendingTiles_pendingView n))

theorem dropCommands_contentView (n : ℕ) :
    (dropCommands n : Prog (EngineState S) Unit).Preserves contentView := by
  induction n with
  | zero => exact preserves_pure _
  | succ n ih => exact preserves_modify_bind (fun _ => rfl) fun _ => ih

theorem cancelAll_pendingView (cfg : Config) :
    (cancelAll cfg : Prog (EngineState S) Unit).Preserves pendingView := by
  refine preserves_forEach fun chunk _ => preserves_modify fun s => ?_
  have horigins := ActiveRenderJobs.cancelAndReset_origins chunk s.render
  rw [ActiveRenderJobs.cancelAndReset_eq] at horigins ⊢
  exact pendingView_eq s _ _ _ _ _ horigins

theorem cancelAll_contentView (cfg : Config) :
    (cancelAll cfg : Prog (EngineState S) Unit).Preserves contentView :=
  scheduling_contentView (pending_schedulingView (cancelAll_pendingView cfg))

theorem invalidateVersions_audioView (cfg : Config) (firstFrame lastFrame : Int) :
    (invalidateVersions cfg firstFrame lastFrame : Prog (EngineState S) Unit).Preserves
      audioView :=
  preserves_forEach fun _ _ => preserves_modify_bind (fun _ => rfl) fun _ =>
    preserves_modify fun _ => rfl

theorem collectFinishedJobs_audioView (cfg : Config) (passes : ℕ) :
    (collectFinishedJobs cfg passes : Prog (EngineState S) Unit).Preserves audioView := by
  induction passes with
  | zero => exact preserves_pure _
  | succ n ih =>
    exact preserves_atomically_bind (fun _ => rfl) fun _ => preserves_ite ih (preserves_pure _)

theorem post_contentView (command : Command) :
    (post command : Prog (EngineState S) Bool).Preserves contentView :=
  preserves_read_bind fun _ => preserves_ite (preserves_pure _) <| preserves_read_bind fun _ =>
    preserves_ite (preserves_pure _) <| preserves_read_bind fun _ =>
      preserves_ite (preserves_pure _) <| preserves_atomically fun _ => rfl

variable [Zero S]

theorem admitIfRoom_schedulingView (cfg : Config) (chunk version : Int)
    (classification : RenderClassification) :
    (admitIfRoom cfg chunk version classification : Prog (EngineState S) Unit).Preserves
      schedulingView := by
  refine preserves_read_bind fun _ => preserves_ite (preserves_modify fun s => ?_)
    (preserves_pure _)
  unfold admitChunk ActiveRenderJobs.create
  split
  · rfl
  · rename_i heq
    split at heq
    · cases heq
    · cases heq
      rw [ActiveRenderJobs.cancel_eq]
      rfl

theorem scheduleChunk_schedulingView (cfg : Config) (chunk playheadFrame : Int) :
    (scheduleChunk cfg chunk playheadFrame : Prog (EngineState S) Unit).Preserves schedulingView := by
  refine preserves_ite (preserves_pure _) <| preserves_read_bind fun _ =>
    preserves_ite (preserves_pure _) <| preserves_read_bind fun _ => preserves_read_bind fun _ =>
      preserves_ite (preserves_pure _) <| preserves_read_bind fun result => ?_
  cases result with
  | error e => exact preserves_pure _
  | ok classification =>
    exact (pending_schedulingView (makeRoomIfUrgent_pendingView cfg _)).bind fun _ =>
      admitIfRoom_schedulingView cfg chunk _ classification

theorem scanTimeline_schedulingView (cfg : Config) (playheadFrame : Int) (n : ℕ) :
    (scanTimeline cfg playheadFrame n : Prog (EngineState S) Unit).Preserves schedulingView := by
  induction n with
  | zero => exact preserves_pure _
  | succ n ih =>
    exact preserves_read_bind fun ⟨_, _⟩ => preserves_ite (preserves_pure _) <|
      (scheduleChunk_schedulingView cfg _ _).bind fun _ => preserves_modify_bind (fun _ => rfl)
        fun _ => ih

theorem scheduleLoops_schedulingView (cfg : Config) (playheadFrame : Int) :
    (scheduleLoops cfg playheadFrame : Prog (EngineState S) Unit).Preserves schedulingView :=
  preserves_read_bind fun _ =>
    (preserves_forEach fun chunk _ => scheduleChunk_schedulingView cfg chunk _).bind fun _ =>
      preserves_read_bind fun _ =>
        (preserves_forEach fun chunk _ => scheduleChunk_schedulingView cfg chunk _).bind fun _ =>
          scanTimeline_schedulingView cfg _ _

theorem scheduleLoops_contentView (cfg : Config) (playheadFrame : Int) :
    (scheduleLoops cfg playheadFrame : Prog (EngineState S) Unit).Preserves contentView :=
  scheduling_contentView (scheduleLoops_schedulingView cfg playheadFrame)

end Scheduler

/-! ## Rendering a tile and the executor -/

namespace Renderer

theorem shouldCancel_workerView (job : JobId) :
    (RenderCancellation.shouldCancel job : Prog (EngineState S) Bool).Preserves workerView :=
  preserves_read_bind fun _ => preserves_ite (preserves_pure _) <| preserves_read_bind fun _ =>
    preserves_ite (preserves_pure _) (preserves_read _)

theorem renderChannels_workerView (kernel : RenderKernel S) (faults : RenderFaults) (job : JobId)
    (frame : Int) (channels : List Int) :
    (renderChannels kernel faults job frame channels).Preserves workerView := by
  induction channels with
  | nil => exact preserves_pure _
  | cons channel rest ih =>
    exact preserves_ite (preserves_pure _) (preserves_modify_bind
      (fun s => workerView_eq s _ _ _ (JobTable.setSample_origins _ _ _ _ _)) fun _ => ih)

theorem renderFrames_workerView (channelCount : Int) (kernel : RenderKernel S) (faults : RenderFaults)
    (job : JobId) (first : Int) (frames : List Int) :
    (renderFrames channelCount kernel faults job first frames).Preserves workerView := by
  induction frames with
  | nil => exact preserves_pure _
  | cons frame rest ih =>
    have hcheck : (periodicCheck job (frame - first) : Prog (EngineState S) Bool).Preserves
        workerView := preserves_ite (shouldCancel_workerView job) (preserves_pure _)
    refine hcheck.bind fun _ => preserves_ite
      ((cancelJob_workerView job).bind fun _ => preserves_pure _) ?_
    refine (renderChannels_workerView kernel faults job frame _).bind fun result => ?_
    cases result with
    | error e => exact preserves_pure _
    | ok u => exact ih

theorem renderTile_workerView (cfg : Config) (kernel : RenderKernel S) (faults : RenderFaults)
    (job : JobId) (tileIndex : Int) :
    (renderTile cfg kernel faults job tileIndex).Preserves workerView := by
  have hcancel : ∀ result : Except String Bool, (do
      cancelJob job
      return result : Prog (EngineState S) (Except String Bool)).Preserves workerView :=
    fun result => (cancelJob_workerView job).bind fun _ => preserves_pure _
  refine preserves_ite (preserves_pure _) <| preserves_read_bind fun _ =>
    preserves_ite (preserves_pure _) <| preserves_ite (preserves_pure _) <|
      (shouldCancel_workerView job).bind fun _ => preserves_ite (hcancel _) <|
        (renderFrames_workerView _ kernel faults job _ _).bind fun result => ?_
  match result with
  | .error e => exact preserves_pure _
  | .ok false => exact preserves_pure _
  | .ok true =>
    exact (shouldCancel_workerView job).bind fun _ => preserves_ite (hcancel _) (preserves_pure _)

end Renderer

namespace RenderTaskProcessor

theorem finishTile_workerView (worker : ℕ) (task : RenderTask) (rendered : Bool) :
    (Prog.atomically fun s : EngineState S => ((finishTile worker task rendered s.render).1,
      { s with render := (finishTile worker task rendered s.render).2 })).Preserves workerView :=
  preserves_atomically fun s => workerView_eq s _ _ _ (JobTable.countDown_origins _ _)

theorem process_workerView (cfg : Config) (kernel : RenderKernel S) (faults : RenderFaults)
    (worker : ℕ) (task : RenderTask) :
    (process cfg kernel faults worker task).Preserves workerView := by
  have hrender : (Anasa.renderTile cfg kernel faults task.job task.tileIndex).Preserves
      workerView := preserves_ite (preserves_pure _)
    (Renderer.renderTile_workerView cfg kernel faults task.job task.tileIndex)
  refine hrender.bind fun result => ?_
  have hfailed := (cancelJob_workerView (S := S) task.job).bind fun _ =>
    finishTile_workerView worker task false
  match result with
  | .error e => exact hfailed
  | .ok false => exact hfailed
  | .ok true => exact finishTile_workerView worker task true

end RenderTaskProcessor

namespace Executor

theorem takeTask_workerView (worker : ℕ) (s : EngineState S) :
    workerView { s with render := (takeTask worker s.render).2 } = workerView s := by
  unfold takeTask
  split
  · rfl
  · split <;> rfl

theorem workerLoop_workerView (cfg : Config) (kernel : RenderKernel S) (faults : RenderFaults)
    (worker : ℕ) : (workerLoop cfg kernel faults worker).Preserves workerView := by
  refine preserves_atomically_bind (takeTask_workerView worker) fun task => ?_
  cases task with
  | none => exact preserves_pure _
  | some task =>
    exact (RenderTaskProcessor.process_workerView cfg kernel faults worker task).bind fun _ =>
      preserves_ite (preserves_modify fun _ => rfl) (preserves_pure _)

theorem start_workerView : (start : Prog (EngineState S) Unit).Preserves workerView := by
  refine preserves_atomically_bind (fun s => ?_) fun _ =>
    preserves_ite (preserves_modify fun _ => rfl) (preserves_pure _)
  dsimp only
  split <;> rfl

theorem dropTasks_workerView (n : ℕ) :
    (dropTasks n : Prog (EngineState S) Unit).Preserves workerView := by
  induction n with
  | zero => exact preserves_pure _
  | succ n ih =>
    refine preserves_modify_bind (fun s => ?_) fun _ => ih
    rw [dropTask_eq]
    exact workerView_eq s _ _ _ (dropTask_origins s.render)

theorem stop_workerView : (stop : Prog (EngineState S) Unit).Preserves workerView := by
  refine preserves_atomically_bind (fun s => ?_) fun ⟨_, queued⟩ =>
    preserves_ite ((dropTasks_workerView queued).bind fun _ => preserves_modify fun _ => rfl)
      (preserves_pure _)
  dsimp only
  split <;> rfl

theorem workerLoop_contentView (cfg : Config) (kernel : RenderKernel S) (faults : RenderFaults)
    (worker : ℕ) : (workerLoop cfg kernel faults worker).Preserves contentView :=
  preserves_contentView (workerLoop_workerView cfg kernel faults worker)

theorem start_contentView : (start : Prog (EngineState S) Unit).Preserves contentView :=
  preserves_contentView start_workerView

theorem stop_contentView : (stop : Prog (EngineState S) Unit).Preserves contentView :=
  preserves_contentView stop_workerView

end Executor

end Anasa
