import Anasa.Scheduling.PlanLifecycle

/-!
# Numbers of tiles

A session numbers its tiles in the order of admission: the tiles of the `k`-th job of the session
have the numbers from `8 * k` on, in the order of their indices. Under the Fifo policy the tiles
submitted and those that wait are all the tiles of the session, in this order.
-/

namespace Anasa

open Concurrency Contract PriorityQueue Scheduler

variable {S : Type} {cfg : Config}

/-- What admission and dispatch change. -/
structure Admissions where
  pending : List PendingRenderTile
  buffer : List PendingRenderTile
  nextTileSequence : Int
  made : ℕ
  firstJob : ℕ
  /-- The tiles submitted, the latest first. -/
  submitted : List PendingRenderTile
  started : Bool
  phase : LoopPhase

/-- The part of the plan that admission and dispatch change. -/
def Plan.admissions (p : Plan) : Admissions where
  pending := p.pendingTiles
  buffer := p.buffer
  nextTileSequence := p.nextTileSequence
  made := p.made
  firstJob := p.history.firstJob
  submitted := p.history.submissions.map (·.tile)
  started := p.sched.started
  phase := p.phase

abbrev admissionsOf (s : EngineState S) : Admissions := (planOf s).admissions

/-- The number of the tile is that of its index in its job. -/
structure Numbered (firstJob made : ℕ) (t : PendingRenderTile) : Prop where
  job_ge : firstJob ≤ t.job
  job_lt : t.job < made
  index : 0 ≤ t.tileIndex ∧ t.tileIndex < tilesPerChunk
  sequence : t.sequence = tilesPerChunk * (t.job - firstJob : Int) + t.tileIndex

namespace Admissions

variable (a : Admissions)

/-- The number of tiles that the session has admitted. -/
def admitted : Int := tilesPerChunk * (a.made - a.firstJob : Int)

/-- The tiles that the session has submitted, the earliest first. -/
def sessionSubmitted : List PendingRenderTile :=
  (a.submitted.filter fun t => a.firstJob ≤ t.job).reverse

/-- The loop of the scheduler has not returned. -/
def Looping : Prop := a.phase ≠ .returned ∧ a.phase ≠ .stopped

/-- The loop has returned, or there is no thread. -/
def Ended : Prop := ¬ a.Looping

/-- The tiles submitted and those that wait are all the tiles of the session, in order. -/
def InOrder : Prop :=
  (a.sessionSubmitted ++ a.pending).map (·.sequence) = intRange 0 a.admitted

end Admissions

structure AdmissionInv (cfg : Config) (a : Admissions) : Prop where
  waiting : ∀ t ∈ a.pending ++ a.buffer, Numbered a.firstJob a.made t
  submitted : ∀ t ∈ a.submitted, t.job < a.made ∧
    (a.firstJob ≤ t.job → Numbered a.firstJob a.made t)
  firstJob_le : a.firstJob ≤ a.made
  next : a.nextTileSequence = if a.started then a.admitted else 0
  prefix_of_admitted : cfg.scheduler.policyType = .fifo →
    a.sessionSubmitted.map (·.sequence) = intRange 0 a.sessionSubmitted.length
  inOrder : cfg.scheduler.policyType = .fifo → a.Looping → a.InOrder

/-! ## Programs that leave the admissions alone -/

theorem plan_admissions {α : Type} {p : Prog (EngineState S) α} (hp : p.Preserves planOf) :
    p.Preserves admissionsOf := hp.mono fun _ _ h => congrArg Plan.admissions h

theorem publishing_admissions {α : Type} {p : Prog (EngineState S) α}
    (hp : p.Preserves publishingView) : p.Preserves admissionsOf :=
  plan_admissions (publishing_planOf hp)

theorem handleCommand_admissions (cfg : Config) (command : Command) :
    (handleCommand cfg command : Prog (EngineState S) Unit).Preserves admissionsOf := by
  have hdirty : (setClassificationsDirty : Prog (EngineState S) Unit).Preserves admissionsOf :=
    Prog.preserves_modify fun _ => rfl
  rcases command with ⟨type, firstFrame, lastFrame⟩
  cases type with
  | play =>
    exact (Prog.preserves_atomically fun _ => rfl).bind fun _ =>
      Prog.preserves_ite hdirty (Prog.preserves_pure _)
  | pause =>
    exact (Prog.preserves_atomically fun _ => rfl).bind fun _ =>
      Prog.preserves_ite hdirty (Prog.preserves_pure _)
  | seek =>
    exact (publishing_admissions (beginAudioGeneration_publishingView _ _)).bind fun _ => hdirty
  | setViewport => exact Prog.preserves_modify fun _ => rfl
  | edit =>
    refine Prog.preserves_modify_bind (fun _ => rfl) fun _ =>
      (plan_admissions (invalidateVersions_planOf cfg _ _)).bind fun _ =>
        publishing_admissions ?_
    exact (PlaybackProtocol.currentFrame_publishingView cfg).bind fun _ =>
      Prog.preserves_read_bind fun _ => (beginAudioGeneration_publishingView _ _).bind fun _ =>
        Prog.preserves_modify fun _ => rfl
  | stop =>
    exact Prog.preserves_modify_bind (fun _ => rfl) fun _ => Prog.preserves_modify fun _ => rfl

theorem feedAudioQueue_admissions (cfg : Config) :
    (feedAudioQueue cfg : Prog (EngineState S) Unit).Preserves admissionsOf := by
  refine (publishing_admissions (PlaybackProtocol.currentFrame_publishingView cfg)).bind
    fun frame => Prog.preserves_ite ?_ ?_
  · exact (publishing_admissions (TimelineAudioPublisher.reset_publishingView _)).bind fun _ =>
      (Prog.preserves_atomically fun _ => rfl).bind fun _ =>
        Prog.preserves_ite (Prog.preserves_modify fun _ => rfl) (Prog.preserves_pure _)
  · exact publishing_admissions <| Prog.preserves_read_bind fun _ =>
      (TimelineAudioPublisher.publish_publishingView cfg _ _).bind fun _ =>
        (readyLeadBlocks_publishingView cfg).bind fun _ => Prog.preserves_read_bind
          fun _ => PlaybackController.startIfReady_publishingView cfg _ _

theorem updateBackgroundAdmission_admissions (cfg : Config) :
    (updateBackgroundAdmission cfg : Prog (EngineState S) Unit).Preserves admissionsOf :=
  Prog.preserves_read_bind fun _ => Prog.preserves_ite (Prog.preserves_modify fun _ => rfl)
    ((publishing_admissions (readyLeadBlocks_publishingView cfg)).bind fun _ =>
      Prog.preserves_modify fun _ => rfl)

theorem collectOne_admissionsOf (cfg : Config) (s : EngineState S) :
    admissionsOf { s with render := (collectOne cfg s.render).2 } = admissionsOf s :=
  (congrArg Plan.admissions (collectOne_planOf cfg s)).trans rfl

end Anasa
