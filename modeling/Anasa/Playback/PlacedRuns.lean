import Anasa.Playback.Positions
import Anasa.Playback.Runs

/-!
# Positions in every reachable state

Every call of an engine that starts and stops its components itself obeys the layer of block
positions. Such an engine empties the ready-audio queue before it starts its scheduler: in every
interleaving of accesses, the blocks of the latest generation are in order before the position of
the publisher.
-/

namespace Anasa

open Concurrency Contract Prog

variable {S : Type} {cfg : Config}

/-! ## The callback -/

/-- What the callback does to the queue is to take blocks from its front. -/
theorem queueRely_pop (s : EngineState S) :
    QueueRely s { s with readyQueue := s.readyQueue.pop } := by
  refine ⟨rfl, rfl, ?_⟩
  rw [BoundedFifo.contents_pop]
  exact List.tail_suffix _

theorem PositionInv.pop {s : EngineState S} (h : PositionInv cfg s) :
    PositionInv cfg { s with readyQueue := s.readyQueue.pop } := by
  have hsub := (queueRely_pop s).contents.subset
  exact ⟨h.next_boundary, (BoundedFifo.capacity_pop s.readyQueue).trans h.capacity,
    fun b hb => h.placed b (hsub hb), fun b hb => h.generation_le b (hsub hb)⟩

section

variable {α β : Type}

/-- A program of the callback keeps the layer. -/
abbrev AudioPlaced (cfg : Config) (p : Prog (EngineState S) α) : Prop :=
  (placedContract cfg .audio).Triple (fun _ => True) p fun _ _ => True

theorem audioPlaced_view {p : Prog (EngineState S) α} (hp : p.Preserves positionView) :
    AudioPlaced cfg p := triple_positionView hp kept_true fun _ _ _ _ => trivial

theorem AudioPlaced.bind {p : Prog (EngineState S) α} {g : α → Prog (EngineState S) β}
    (hp : AudioPlaced cfg p) (hg : ∀ a, AudioPlaced cfg (g a)) : AudioPlaced cfg (p >>= g) :=
  Triple.bind (placedContract_stable cfg .audio) hp hg

theorem audioPlaced_pop : AudioPlaced cfg
    (.modify fun s : EngineState S => { s with readyQueue := s.readyQueue.pop }) :=
  triple_modify kept_true kept_true fun s hi _ =>
    ⟨fun _ => queueRely_pop s, PositionInv.pop hi, trivial⟩

end

namespace AudioBlockProcessor

theorem discardStaleBlocks_placed (generation frame : Int) (n : ℕ) :
    AudioPlaced cfg (discardStaleBlocks (S := S) generation frame n) := by
  induction n with
  | zero => exact audioPlaced_view (preserves_pure _)
  | succ n ih =>
    refine (audioPlaced_view (preserves_read _)).bind fun head => ?_
    cases head with
    | none => exact audioPlaced_view (preserves_pure _)
    | some head =>
      exact triple_ite (fun _ => audioPlaced_pop.bind fun _ => ih)
        fun _ => audioPlaced_view (preserves_pure _)

theorem playBlock_placed (generation frame : Int) (output : AudioOutputBuffer S)
    (head : Option (AudioBlock S)) :
    AudioPlaced cfg (playBlock cfg generation frame output head) := by
  cases head with
  | none => exact audioPlaced_view (preserves_pure _)
  | some head =>
    exact triple_ite (fun _ => audioPlaced_pop.bind fun _ => audioPlaced_view (preserves_pure _))
      fun _ => audioPlaced_view (preserves_pure _)

theorem processBlock_placed [Zero S] (output : AudioOutputBuffer S) :
    AudioPlaced cfg (processBlock cfg output) := by
  refine triple_ite (fun _ => audioPlaced_view (preserves_pure _)) fun _ =>
    triple_ite (fun _ => audioPlaced_view (preserves_pure _)) fun _ =>
      (audioPlaced_view (preserves_read _)).bind fun _ =>
        triple_ite (fun _ => audioPlaced_view (preserves_pure _)) fun _ => ?_
  have hfollow : (followGeneration cfg : Prog (EngineState S) Int).Preserves positionView :=
    preserves_read_bind fun _ => preserves_read_bind fun _ => preserves_ite
      (preserves_atomically_bind (fun _ => rfl) fun _ => preserves_modify_bind (fun _ => rfl)
        fun _ => preserves_modify_bind (fun _ => rfl) fun _ => preserves_pure _)
      (preserves_pure _)
  refine (audioPlaced_view hfollow).bind fun generation =>
    (audioPlaced_view (preserves_read _)).bind fun frame =>
      (audioPlaced_view (preserves_read _)).bind fun capacity =>
        AudioPlaced.bind (discardStaleBlocks_placed _ _ _) fun head => ?_
  refine (audioPlaced_view (preserves_read _)).bind fun _ =>
    triple_ite (fun _ => audioPlaced_view (preserves_pure _)) fun _ =>
      triple_ite (fun _ => audioPlaced_view (preserves_pure _)) fun _ =>
        AudioPlaced.bind (playBlock_placed _ _ _ _) fun _ =>
          audioPlaced_view (preserves_modify_bind (fun _ => rfl) fun _ => preserves_pure _)

end AudioBlockProcessor

/-! ## The calls -/

namespace Scheduler

theorem stop_positionView (cfg : Config) :
    (stop cfg : Prog (EngineState S) Unit).Preserves positionView := by
  have hpos {α : Type} {p : Prog (EngineState S) α} (hp : p.Preserves contentView) :
      p.Preserves positionView := preserves_positionView (preserves_audioView hp)
  exact preserves_read_bind fun _ => preserves_ite (preserves_modify_bind (fun _ => rfl) fun _ =>
    preserves_read_bind fun _ => (hpos (dropPendingTiles_contentView _)).bind fun _ =>
      preserves_read_bind fun _ => (hpos (dropCommands_contentView _)).bind fun _ =>
        (hpos (cancelAll_contentView cfg)).bind fun _ => preserves_modify_bind (fun _ => rfl)
          fun _ => preserves_modify fun _ => rfl) (preserves_pure _)

theorem updateBackgroundAdmission_placed :
    (placedContract cfg .scheduler).Triple (FeedOrder (S := S)) (updateBackgroundAdmission cfg)
      fun _ => FeedOrder :=
  triple_fed_bind (preserves_read _) fun _ => triple_ite
    (fun _ => triple_fed (preserves_modify fun _ => rfl)) fun _ =>
      readyLeadBlocks_placed.bind (placedContract_stable cfg .scheduler) fun _ =>
        triple_fed (preserves_modify fun _ => rfl)

theorem scheduleRenderJobs_placed [Zero S] :
    (placedContract cfg .scheduler).Triple (FeedOrder (S := S)) (scheduleRenderJobs cfg)
      fun _ => FeedOrder :=
  triple_currentFrame_placed fun frame _ => triple_fed_bind (preserves_positionView
    (preserves_audioView (updateClassifications_contentView cfg frame))) fun _ =>
      triple_fed (preserves_positionView (preserves_audioView (scheduleLoops_contentView cfg _)))

end Scheduler

theorem schedulerCall_placed [Zero S] (hcfg : cfg.Valid) (call : SchedulerCall) :
    (placedContract cfg .scheduler).Triple (FeedOrder (S := S)) (call.program cfg)
      fun _ => FeedOrder := by
  cases call with
  | handleCommand command => exact Scheduler.handleCommand_placed hcfg command
  | readCommand command =>
    exact triple_fed_bind (preserves_read _) fun _ => triple_ite (fun _ =>
      triple_fed_bind (preserves_modify fun _ => rfl) fun _ =>
        Scheduler.handleCommand_placed hcfg command) fun _ => triple_fed_pure _
  | readCommands passes => exact Scheduler.readCommands_placed hcfg passes
  | collectFinishedJobs passes =>
    exact triple_fed (preserves_positionView (Scheduler.collectFinishedJobs_audioView cfg passes))
  | feedAudioQueue => exact Scheduler.feedAudioQueue_placed hcfg
  | updateBackgroundAdmission => exact Scheduler.updateBackgroundAdmission_placed
  | scheduleRenderJobs => exact Scheduler.scheduleRenderJobs_placed
  | dispatchPendingTiles refuses =>
    exact triple_fed (preserves_positionView
      (preserves_audioView (Scheduler.dispatchPendingTiles_contentView cfg refuses)))
  | pause =>
    exact triple_fed (preserves_atomically_bind (fun _ => rfl) fun _ => preserves_pure _)

theorem lifecycleCall_placed (call : LifecycleCall)
    (hengine : (Call.lifecycle call : Call S).engineLevel = true) :
    (placedContract cfg .scheduler).Triple (FeedOrder (S := S)) (call.program cfg)
      fun _ => FeedOrder := by
  cases call with
  | schedulerStart => cases hengine
  | schedulerStop => exact triple_fed (Scheduler.stop_positionView cfg)
  | executorStart =>
    exact triple_fed (preserves_positionView (preserves_audioView Executor.start_contentView))
  | executorStop =>
    exact triple_fed (preserves_positionView (preserves_audioView Executor.stop_contentView))
  | engineStart => exact Engine.start_placed
  | engineStop =>
    refine triple_fed (preserves_read_bind fun _ => preserves_ite (preserves_modify_bind
      (fun _ => rfl) fun _ => preserves_modify_bind (fun _ => rfl) fun _ =>
        (Scheduler.stop_positionView cfg).bind fun _ => Preserves.bind ?_ fun _ =>
          preserves_modify fun _ => rfl) (preserves_pure _))
    exact preserves_positionView (preserves_audioView Executor.stop_contentView)

/-- What a thread knows of positions between two calls. -/
def placedIdle : ThreadId → EngineState S → Prop
  | .scheduler => FeedOrder
  | _ => fun _ => True

theorem kept_placedIdle (i : ThreadId) :
    (placedContract cfg i).Kept (placedIdle (S := S) i) := by
  cases i with
  | scheduler => exact kept_fed
  | audio => exact kept_true
  | client => exact kept_true
  | worker n => exact kept_true

theorem outsidePosition_triple {i : ThreadId} {p : Prog (EngineState S) Unit}
    (hp : p.Preserves contentView) :
    (placedContract cfg i).Triple (placedIdle i) p fun _ => placedIdle i := by
  refine triple_positionView (preserves_positionView (preserves_audioView hp))
    (kept_placedIdle i) fun s s' hv h => ?_
  cases i with
  | scheduler => exact h.of_view hv
  | audio => trivial
  | client => trivial
  | worker n => trivial

theorem call_placed [Zero S] (hcfg : cfg.Valid) (kernel : RenderKernel S) (call : Call S)
    (hengine : call.engineLevel = true) :
    (placedContract cfg call.thread).Triple (placedIdle call.thread)
      (call.program cfg kernel) fun _ => placedIdle call.thread := by
  cases call with
  | scheduler call =>
    exact triple_fed_bind (preserves_read _) fun _ => triple_ite
      (fun _ => schedulerCall_placed hcfg call) fun _ => triple_fed_pure _
  | lifecycle call => exact lifecycleCall_placed call hengine
  | post command =>
    exact outsidePosition_triple
      ((Scheduler.post_contentView command).bind fun _ => preserves_pure _)
  | requestStop =>
    refine triple_positionView ?_ kept_true fun _ _ _ _ => trivial
    exact preserves_read_bind fun _ => preserves_ite (preserves_modify_bind (fun _ => rfl)
      fun _ => preserves_modify_bind (fun _ => rfl) fun _ => preserves_modify fun _ => rfl)
      (preserves_pure _)
  | processBlock output =>
    exact (AudioBlockProcessor.processBlock_placed output).bind fun _ =>
      audioPlaced_view (preserves_modify fun _ => rfl)
  | workerLoop worker faults =>
    exact outsidePosition_triple (Executor.workerLoop_contentView cfg kernel faults worker)

/-! ## Runs -/

section

variable [Zero S]

/-- The layer of positions over the protocol of a machine. -/
def placedLayer {κ : Type} (cfg : Config) (M : Machine ThreadId κ (EngineState S))
    (h : ∀ c, (cursorContract cfg (M.thread c)).Triple (cursorIdle (M.thread c)) (M.program c)
      fun _ => cursorIdle (M.thread c))
    (hplaced : ∀ c, (placedContract cfg (M.thread c)).Triple (placedIdle (M.thread c))
      (M.program c) fun _ => placedIdle (M.thread c)) :
    Layer (cursorDiscipline cfg M h) where
  inv := PositionInv cfg
  rely := positionRely
  guar i s s' := i ≠ .scheduler → QueueRely s s'
  idle := placedIdle
  rely_refl := positionRely_refl
  rely_trans := positionRely_trans
  compatible {i j s s'} hij _ _ hg := by
    cases j with
    | scheduler => exact hg hij
    | _ => trivial
  idle_stable {i s s'} h hr hi := by
    cases i with
    | scheduler => exact h.rely hr
    | _ => trivial
  call_safe c s _ _ hi hidle := hplaced c s hi hidle

theorem positionInv_init (cfg : AcceptedConfig) :
    PositionInv cfg.toConfig (EngineState.init cfg.toConfig : EngineState S) :=
  ⟨⟨Int.dvd_zero _, le_rfl, cfg.valid.totalFrames_pos.le⟩, BoundedFifo.capacity_make _ _, nofun,
    nofun⟩

theorem placedIdle_init (cfg : Config) (i : ThreadId) :
    placedIdle i (EngineState.init cfg : EngineState S) := by
  cases i with
  | scheduler => exact ⟨nofun, List.Pairwise.nil⟩
  | _ => trivial

/-- What holds in an engine when its scheduler is not in the middle of a call. -/
structure SchedulerPlaced (cfg : Config) (s : EngineState S) : Prop where
  cursor : CursorInv cfg (cursorView s)
  rest : CursorAt false (cursorView s)
  positions : PositionInv cfg s
  order : FeedOrder s

/-- **Blocks in order**, in every run of an engine that starts and stops its components itself. -/
theorem engineLevelRun_placed (cfg : AcceptedConfig) (kernel : RenderKernel S)
    (moves : List (Move ThreadId (EngineCall S)))
    (hidle : (engineLevelRun cfg.toConfig kernel moves).thread .scheduler = none) :
    SchedulerPlaced cfg.toConfig (engineLevelRun cfg.toConfig kernel moves).state := by
  have hsound := Discipline.Sound.run (Discipline.sound_idle
    (D := (placedLayer cfg.toConfig
      ((engineMachine cfg.toConfig kernel).restrict fun c : EngineCall S => c.1)
      (fun c => call_cursorTriple cfg.valid kernel c.1)
      fun c => call_placed cfg.valid kernel c.1 c.2).discipline)
    ⟨CursorInv.init cfg.valid, positionInv_init cfg⟩
    fun i => ⟨cursorIdle_init i, placedIdle_init _ i⟩) moves
  have hscheduler := hsound.thread .scheduler
  rw [show (Pool.run ((engineMachine cfg.toConfig kernel).restrict fun c : EngineCall S => c.1)
    moves (Pool.idle (EngineState.init cfg.toConfig))).thread .scheduler = none from hidle]
    at hscheduler
  exact ⟨hsound.inv.1, hscheduler.1, hsound.inv.2, hscheduler.2⟩

end

end Anasa
