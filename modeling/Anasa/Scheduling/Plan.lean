import Mathlib.Data.List.Perm.Subperm
import Anasa.Concurrency.Ownership
import Anasa.Model.Session
import Anasa.Playback.Frames
import Anasa.Rendering.Frames
import Anasa.Scheduling.Policies

/-!
# The plan of the scheduler

`planOf` is what the scheduler alone changes and its planning depends on: the queue of pending
tiles, the jobs that have been made, its own members and its history. The invariant of the plan:

1. the queue is sorted by the policy and bounded, all tiles of a job have one classification, and
   no two tiles one sequence number (`PendingInv`);
2. the gate holds back as the observations say (`heldBack`);
3. every tile was submitted as the policy and the gate ask (`Submission.Ok`).
-/

namespace Anasa

open Concurrency PriorityQueue

variable {S : Type}

/-- What the scheduler alone changes. -/
structure Plan where
  sched : SchedulerState
  phase : LoopPhase
  history : SchedulingHistory
  pendingTiles : List PendingRenderTile
  buffer : List PendingRenderTile
  nextTileSequence : Int
  activeJobs : Int → Option JobId
  /-- The number of jobs, and the chunk and the version of each. -/
  origins : ℕ × (JobId → Int × Int)

namespace Plan

variable (p : Plan)

/-- The number of jobs made. -/
def made : ℕ := p.origins.1

/-- The chunk of a job. -/
def chunk (j : JobId) : Int := (p.origins.2 j).1

/-- The tiles that wait, in the queue and in the buffer of the scheduler. -/
def waiting : List PendingRenderTile := p.pendingTiles ++ p.buffer

end Plan

/-- The owner posts and requests the stop while the scheduler plans; and publishing moves its
cursor, which plays no part. -/
def planOf (s : EngineState S) : Plan where
  sched := { s.sched with stopRequested := false, nextFrameToPublish := 0 }
  phase := s.loop.phase
  history := { s.schedulingHistory with accepted := [], handled := [] }
  pendingTiles := s.render.pendingTiles
  buffer := s.render.reclassificationBuffer
  nextTileSequence := s.render.nextTileSequence
  activeJobs := s.render.activeJobs
  origins := s.render.jobs.origins

/-! ## Programs that leave the plan alone -/

theorem publishing_planOf {α : Type} {p : Prog (EngineState S) α}
    (hp : p.Preserves publishingView) : p.Preserves planOf :=
  hp.mono fun s s' h => by
    simp only [publishingView, Prod.mk.injEq, SchedulerState.mk.injEq] at h
    simp only [planOf, h]

theorem callback_planOf {α : Type} {p : Prog (EngineState S) α} (hp : p.Preserves callbackView) :
    p.Preserves planOf :=
  hp.mono fun s s' h => by
    simp only [callbackView, Prod.mk.injEq] at h
    simp only [planOf, h]

theorem worker_planOf {α : Type} {p : Prog (EngineState S) α} (hp : p.Preserves workerView) :
    p.Preserves planOf :=
  hp.mono fun s s' h => by
    simp only [workerView, Prod.mk.injEq] at h
    simp only [planOf, h]

/-! ## Classification -/

/-- The frame is one of the timeline at which the same chunks are urgent as at the playhead. -/
structure SamePlayhead (cfg : Config) (frame playheadFrame : Int) : Prop where
  nonneg : 0 ≤ frame
  le_total : frame ≤ cfg.totalFrames
  chunk : Scheduler.playheadChunk cfg frame = Scheduler.playheadChunk cfg playheadFrame
  urgentEnd : Scheduler.urgentChunkEnd cfg frame = Scheduler.urgentChunkEnd cfg playheadFrame

/-- The tile has the classification of its chunk at such a frame. -/
def Labelled (cfg : Config) (sched : SchedulerState) (chunk : JobId → Int) (playheadFrame : Int)
    (tile : PendingRenderTile) : Prop :=
  ∃ frame, SamePlayhead cfg frame playheadFrame ∧
    Scheduler.classifyChunk cfg sched (chunk tile.job) frame = .ok tile.classification

/-- The scheduler holds back background tiles: since it was reset, the gate has seen a lead below
the low mark, and none that reaches the high mark after that. -/
def heldBack (cfg : Config) : List GateObservation → Bool
  | [] => false
  | .reset :: _ => false
  | .lead blocks :: earlier =>
    blocks < cfg.scheduler.lowWaterBlocks ||
      (blocks < cfg.scheduler.highWaterBlocks && heldBack cfg earlier)

/-- A tile was submitted as the policy and the gate ask. -/
structure Submission.Ok (cfg : Config) (sub : Submission) : Prop where
  sorted : Sorted (createSchedulingPolicy cfg.scheduler.policyType) (sub.tile :: sub.pending)
  uniform : ∀ t ∈ sub.tile :: sub.pending, ∀ t' ∈ sub.tile :: sub.pending, t.job = t'.job →
    t.classification = t'.classification
  playhead : cfg.scheduler.policyType = .priority →
    0 ≤ sub.playheadFrame ∧ sub.playheadFrame ≤ cfg.totalFrames
  labelled : cfg.scheduler.policyType = .priority → ∀ t ∈ sub.tile :: sub.pending,
    Labelled cfg sub.sched sub.chunk sub.playheadFrame t
  admitted : heldBack cfg sub.observations = true →
    sub.tile.classification.priority ≠ .background

/-! ## The invariant -/

/-- The queue of pending tiles, while some may be in the buffer. -/
structure PendingInv (cfg : Config) (pending buffer : List PendingRenderTile)
    (nextSequence : Int) : Prop where
  sorted : Sorted (createSchedulingPolicy cfg.scheduler.policyType) pending
  uniform : ∀ t ∈ pending ++ buffer, ∀ t' ∈ pending ++ buffer, t.job = t'.job →
    t.classification = t'.classification
  length_le : (pending.length : Int) + buffer.length ≤ cfg.scheduler.maxPendingTiles
  sequence_lt : ∀ t ∈ pending ++ buffer, t.sequence < nextSequence
  sequence_nodup : ((pending ++ buffer).map (·.sequence)).Nodup

structure PlanInv (cfg : Config) (p : Plan) : Prop where
  queue : PendingInv cfg p.pendingTiles p.buffer p.nextTileSequence
  viewport : 0 ≤ p.sched.viewportFirstFrame ∧
    p.sched.viewportFirstFrame ≤ p.sched.viewportLastFrame ∧
    p.sched.viewportLastFrame ≤ cfg.totalFrames
  cursor : 0 ≤ p.sched.timelineScanCursorInChunks ∧
    p.sched.timelineScanCursorInChunks < cfg.chunkCount
  gate : p.sched.backgroundAllowed = !heldBack cfg p.history.observations
  fifo : cfg.scheduler.policyType = .fifo → p.sched.backgroundAllowed = true
  submissions : ∀ sub ∈ p.history.submissions, sub.Ok cfg
  registered : ∀ c j, p.activeJobs c = some j → p.history.firstJob ≤ j
  firstJob_le : p.history.firstJob ≤ p.made

/-- A tile without its classification. -/
def PendingRenderTile.key (t : PendingRenderTile) : JobId × Int × Int :=
  (t.job, t.tileIndex, t.sequence)

/-- **Admission.** A step of the scheduler queues nothing, or the eight tiles of one new job that
the limit of its class leaves room for. -/
def PlanStep (cfg : Config) (p p' : Plan) : Prop :=
  (p'.waiting.map (·.key)).Subperm (p.waiting.map (·.key)) ∧ p'.made = p.made ∨
  ∃ classification, p'.made = p.made + 1 ∧ p.buffer = [] ∧ p'.buffer = [] ∧
    p'.pendingTiles.Perm
      (Scheduler.newTiles p.made classification p.nextTileSequence ++ p.pendingTiles) ∧
    (p.pendingTiles.length : Int) + tilesPerChunk ≤
      Scheduler.pendingTileLimit cfg classification.priority

/-! ## Between two calls -/

/-- The labels of the pending tiles are those of the playhead that the scheduler last planned for,
and that is what it has recorded. -/
structure FreshLabels (cfg : Config) (p : Plan) : Prop where
  nonneg : 0 ≤ p.history.playheadFrame
  le_total : p.history.playheadFrame ≤ cfg.totalFrames
  chunk : p.sched.lastClassifiedPlayheadChunk =
    Scheduler.playheadChunk cfg p.history.playheadFrame
  urgentEnd : p.sched.lastClassifiedUrgentChunkEnd =
    Scheduler.urgentChunkEnd cfg p.history.playheadFrame
  labelled : ∀ t ∈ p.waiting, Labelled cfg p.sched p.chunk p.history.playheadFrame t

/-- A dispatch that leaves a tile pending which the gate does not hold back had to: the executor
was full or refused. -/
def DispatchEnded (cfg : Config) (p : Plan) : Prop :=
  ∀ t ∈ p.pendingTiles, (cfg.scheduler.policyType = .fifo ∨
      t.classification.priority ≠ .background) →
    p.history.dispatchEnd = .refused ∨
      ∃ queued, Executor.workerCount cfg ≤ queued ∧ p.history.dispatchEnd = .executorFull queued

/-- What the scheduler knows between two calls. -/
structure PlanIdle (cfg : Config) (p : Plan) : Prop where
  buffer : p.buffer = []
  started : p.sched.started = true ↔ p.phase ≠ .stopped
  /-- The loop pauses playback when it ends, without the flag: nothing is dispatched after it. -/
  fresh : cfg.scheduler.policyType = .priority → p.phase ≠ .returned → p.phase ≠ .stopped →
    p.sched.pendingClassificationsDirty = true ∨ FreshLabels cfg p
  scheduled : cfg.scheduler.policyType = .priority → p.phase = .dispatchPendingTiles →
    FreshLabels cfg p
  dispatched : p.phase = .condition → DispatchEnded cfg p

end Anasa
