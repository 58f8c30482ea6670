import Anasa.Playback.Frames
import Anasa.Playback.Protocol

/-!
# Edits and the position of the consumer

Every call of an engine obeys the protocol. So in a run in which no advance of the cursor is late,
the positions of the consumer between two Seeks never decrease. An advance that comes after an
Edit has settled on its position is late, and then the consumer goes back over what it played.
-/

namespace Anasa

open Concurrency Contract Prog

variable {S : Type} {cfg : Config}

/-! ## Programs outside the protocol -/

theorem cursorView_of_audioView {s s' : EngineState S} (h : audioView s = audioView s') :
    cursorView s = cursorView s' := by
  simp only [audioView, Prod.mk.injEq] at h
  obtain ⟨hshared, haudio, -, hhistory, -⟩ := h
  simp only [cursorView, hshared, haudio, hhistory]

theorem preserves_cursorView {α : Type} {p : Prog (EngineState S) α} (hp : p.Preserves audioView) :
    p.Preserves cursorView := hp.mono fun _ _ => cursorView_of_audioView

theorem PlaybackController.startIfReady_cursorView (lead : Int) (entire : Bool) :
    (startIfReady cfg lead entire : Prog (EngineState S) Unit).Preserves cursorView :=
  preserves_read_bind fun _ => preserves_ite (preserves_ite (preserves_modify fun _ => rfl)
    (preserves_pure _)) (preserves_pure _)

theorem Scheduler.shutdownRequested_cursorView :
    (shutdownRequested : Prog (EngineState S) Bool).Preserves cursorView :=
  preserves_read_bind fun _ => preserves_ite (preserves_pure _) (preserves_read _)

namespace TimelineAudioPublisher

/-- A pass of the publishing loop changes the queue and the cursor of the publisher only. -/
theorem publishNext_eq (generation : Int) (s : EngineState S) :
    (publishNext cfg generation s).2 = { s with
      readyQueue := (publishNext cfg generation s).2.readyQueue
      sched.nextFrameToPublish := (publishNext cfg generation s).2.sched.nextFrameToPublish } := by
  unfold publishNext
  dsimp only
  split
  · split
    · rfl
    · split <;> rfl
  · rfl

theorem publishLoop_cursorView (generation : Int) (n : ℕ) :
    (publishLoop cfg generation n : Prog (EngineState S) Unit).Preserves cursorView := by
  induction n with
  | zero => exact preserves_pure _
  | succ n ih =>
    refine preserves_atomically_bind (fun s => ?_) fun _ => preserves_ite ih (preserves_pure _)
    rw [publishNext_eq]
    rfl

theorem publish_cursorView (frame generation : Int) :
    (publish cfg frame generation : Prog (EngineState S) Unit).Preserves cursorView :=
  preserves_modify_bind (fun _ => rfl) fun _ => publishLoop_cursorView generation _

end TimelineAudioPublisher

/-! ## The calls of the scheduler -/

/-- The scheduler between two operations of a call. -/
abbrev CursorRests (s : EngineState S) : Prop := CursorAt false (cursorView s)

theorem triple_rest {α : Type} {p : Prog (EngineState S) α} (hp : p.Preserves cursorView) :
    (cursorContract cfg .scheduler).Triple CursorRests p fun _ => CursorRests :=
  triple_outsideCursor hp kept_cursorAt

theorem triple_rest_bind {α β : Type} {p : Prog (EngineState S) α} {g : α → Prog (EngineState S) β}
    {Q : β → EngineState S → Prop} (hp : p.Preserves cursorView)
    (hg : ∀ a, (cursorContract cfg .scheduler).Triple CursorRests (g a) Q) :
    (cursorContract cfg .scheduler).Triple CursorRests (p >>= g) Q :=
  (triple_rest hp).bind (cursorContract_stable cfg .scheduler) hg

theorem triple_rest_pure {α : Type} (a : α) : (cursorContract cfg .scheduler).Triple
    (CursorRests (S := S)) (Pure.pure a) fun _ => CursorRests := triple_rest (preserves_pure a)

/-- `currentFrame` outside an Edit, and what follows. -/
theorem triple_currentFrame_bind (hcfg : cfg.Valid) {β : Type} {g : Int → Prog (EngineState S) β}
    {Q : β → EngineState S → Prop}
    (hg : ∀ frame, (cursorContract cfg .scheduler).Triple CursorRests (g frame) Q) :
    (cursorContract cfg .scheduler).Triple CursorRests (PlaybackProtocol.currentFrame cfg >>= g)
      Q := by
  refine (PlaybackProtocol.currentFrame_triple hcfg).bind (cursorContract_stable cfg .scheduler)
    fun frame => (hg frame).conseq (fun s _ hs => ?_) fun _ _ _ h => h
  obtain ⟨generation, hk⟩ := hs
  exact hk.read.1

namespace Scheduler

theorem readyLeadBlocks_triple (hcfg : cfg.Valid) :
    (cursorContract cfg .scheduler).Triple (CursorRests (S := S)) (readyLeadBlocks cfg)
      fun _ => CursorRests :=
  triple_currentFrame_bind hcfg fun _ => triple_rest (preserves_read _)

theorem beginAudioGeneration_triple (editing : Bool) {target : Int}
    (hb : BlockBoundary cfg target) (suspend : Bool) :
    (cursorContract cfg .scheduler).Triple
      (fun s : EngineState S =>
        CursorAt editing (cursorView s) ∧ EditAt editing target (cursorView s))
      (beginAudioGeneration target suspend)
      fun _ s => CursorBegun editing (cursorView s) :=
  (PlaybackProtocol.beginGeneration_triple hb suspend).bind (cursorContract_stable cfg .scheduler)
    fun _ => triple_outsideCursor (preserves_modify fun _ => rfl) kept_cursorBegun

theorem edit_triple (hcfg : cfg.Valid) (command : Command) (h : command.type = .edit) :
    (cursorContract cfg .scheduler).Triple (CursorRests (S := S)) (handleCommand cfg command)
      fun _ => CursorRests := by
  have hstable := cursorContract_stable (S := S) cfg .scheduler
  unfold handleCommand
  rw [h]
  have hediting : (cursorContract cfg .scheduler).Kept
      fun s : EngineState S => CursorAt true (cursorView s) := kept_cursorAt
  refine Triple.bind hstable (triple_cursorModify (Q := fun s => CursorAt true (cursorView s))
    kept_cursorAt kept_cursorAt fun s hi hs =>
      ⟨hi.setFlags _ _, .setFlags _ _ _, hs.targetPending, rfl, nofun⟩) fun _ => ?_
  refine Triple.bind hstable (triple_outsideCursor
    (preserves_cursorView (invalidateVersions_audioView cfg _ _)) kept_cursorAt) fun _ => ?_
  refine (PlaybackProtocol.currentFrame_triple hcfg).bind hstable fun frame => ?_
  refine Triple.bind hstable (triple_read (Q := fun _ => FrameFound cfg true frame)
    (fun s => cursorGuar_of_view rfl) kept_frameFound (fun _ => kept_frameFound)
    fun _ _ hs => hs) fun suspend => ?_
  intro s hi hs
  obtain ⟨generation, hk⟩ := hs
  refine Triple.bind hstable ((beginAudioGeneration_triple true hk.boundary
    suspend)) (fun _ => ?_) s hi ⟨hk.read.1, hk.edit⟩
  refine triple_cursorModify kept_cursorBegun kept_cursorAt fun s hi hs =>
    ⟨hi.setFlags _ _, .setFlags _ _ _, hs.1.targetPending, rfl, fun _ => hs.2⟩

theorem seek_boundary (hcfg : cfg.Valid) (frame : Int) :
    BlockBoundary cfg (alignFrameToAudioBlock (clampTimelineFrame frame cfg.totalFrames)
      cfg.audio.audioBlockFrames) := by
  have hclamp := clampTimelineFrame_mem frame hcfg.totalFrames_pos
  have halign := alignFrameToAudioBlock_mem hclamp.1 hcfg.blockFrames_pos
  exact ⟨dvd_alignFrameToAudioBlock _ _, halign.1, by omega⟩

theorem handleCommand_cursorTriple (hcfg : cfg.Valid) (command : Command) :
    (cursorContract cfg .scheduler).Triple (CursorRests (S := S)) (handleCommand cfg command)
      fun _ => CursorRests := by
  have hstable := cursorContract_stable (S := S) cfg .scheduler
  have hdirty : (setClassificationsDirty : Prog (EngineState S) Unit).Preserves cursorView :=
    preserves_modify fun _ => rfl
  rcases command with ⟨type, firstFrame, lastFrame⟩
  cases type with
  | play =>
    exact triple_rest (preserves_atomically_bind (fun _ => rfl) fun _ =>
      preserves_ite hdirty (preserves_pure _))
  | pause =>
    exact triple_rest (preserves_atomically_bind (fun _ => rfl) fun _ =>
      preserves_ite hdirty (preserves_pure _))
  | seek =>
    refine Triple.bind hstable ((beginAudioGeneration_triple false
      (seek_boundary hcfg firstFrame) true).conseq (fun _ _ hs => ⟨hs, nofun⟩)
      fun _ _ _ hs => hs.1) fun _ => triple_rest hdirty
  | setViewport => exact triple_rest (preserves_modify fun _ => rfl)
  | edit => exact edit_triple hcfg _ rfl
  | stop =>
    exact triple_rest (preserves_modify_bind (fun _ => rfl) fun _ =>
      preserves_modify fun _ => rfl)

theorem readCommands_cursorTriple (hcfg : cfg.Valid) (passes : ℕ) :
    (cursorContract cfg .scheduler).Triple (CursorRests (S := S)) (readCommands cfg passes)
      fun _ => CursorRests := by
  have hstable := cursorContract_stable (S := S) cfg .scheduler
  induction passes with
  | zero => exact triple_rest_pure _
  | succ n ih =>
    refine triple_rest_bind (preserves_read _) fun front => ?_
    cases front with
    | none => exact triple_rest_pure _
    | some command =>
      refine triple_rest_bind (preserves_modify fun _ => rfl) fun _ =>
        (handleCommand_cursorTriple hcfg command).bind hstable fun _ =>
          triple_rest_bind shutdownRequested_cursorView fun _ => triple_ite (fun _ => ih)
            fun _ => triple_rest_pure _

theorem feedAudioQueue_cursorTriple (hcfg : cfg.Valid) :
    (cursorContract cfg .scheduler).Triple (CursorRests (S := S)) (feedAudioQueue cfg)
      fun _ => CursorRests := by
  have hstable := cursorContract_stable (S := S) cfg .scheduler
  refine triple_currentFrame_bind hcfg fun frame => triple_ite (fun _ => ?_) fun _ => ?_
  · exact triple_rest (preserves_modify_bind (fun _ => rfl) fun _ =>
      preserves_atomically_bind (fun _ => rfl) fun _ =>
        preserves_ite (preserves_modify fun _ => rfl) (preserves_pure _))
  · refine triple_rest_bind (preserves_read _) fun generation => triple_rest_bind
      (TimelineAudioPublisher.publish_cursorView frame generation) fun _ =>
        (readyLeadBlocks_triple hcfg).bind hstable fun lead =>
          triple_rest_bind (preserves_read _) fun entire =>
            triple_rest (PlaybackController.startIfReady_cursorView lead entire)

theorem updateBackgroundAdmission_cursorTriple (hcfg : cfg.Valid) :
    (cursorContract cfg .scheduler).Triple (CursorRests (S := S)) (updateBackgroundAdmission cfg)
      fun _ => CursorRests :=
  triple_rest_bind (preserves_read _) fun _ => triple_ite
    (fun _ => triple_rest (preserves_modify fun _ => rfl)) fun _ =>
      (readyLeadBlocks_triple hcfg).bind (cursorContract_stable cfg .scheduler) fun _ =>
        triple_rest (preserves_modify fun _ => rfl)

theorem scheduleRenderJobs_cursorTriple [Zero S] (hcfg : cfg.Valid) :
    (cursorContract cfg .scheduler).Triple (CursorRests (S := S)) (scheduleRenderJobs cfg)
      fun _ => CursorRests :=
  triple_currentFrame_bind hcfg fun frame => triple_rest <| preserves_cursorView <|
    preserves_audioView <| (updateClassifications_contentView cfg frame).bind fun _ =>
      scheduleLoops_contentView cfg frame

theorem start_cursorTriple (hcfg : cfg.Valid) :
    (cursorContract cfg .scheduler).Triple (CursorRests (S := S)) (start cfg)
      fun _ => CursorRests := by
  refine triple_rest_bind (preserves_read _) fun _ => triple_ite (fun _ => ?_) fun _ =>
    triple_rest_pure _
  refine triple_rest_bind (preserves_modify fun _ => rfl) fun _ =>
    triple_rest_bind (preserves_modify fun _ => rfl) fun _ =>
      triple_rest_bind (preserves_modify fun _ => rfl) fun _ =>
        triple_currentFrame_bind hcfg fun frame => triple_rest ?_
  exact preserves_modify_bind (fun _ => rfl) fun _ => preserves_modify fun _ => rfl

theorem stop_cursorView :
    (stop cfg : Prog (EngineState S) Unit).Preserves cursorView :=
  preserves_read_bind fun _ => preserves_ite (preserves_modify_bind (fun _ => rfl) fun _ =>
    preserves_read_bind fun tiles =>
      (preserves_cursorView (preserves_audioView (dropPendingTiles_contentView tiles))).bind
        fun _ => preserves_read_bind fun commands =>
          (preserves_cursorView (preserves_audioView (dropCommands_contentView commands))).bind
            fun _ => (preserves_cursorView (preserves_audioView (cancelAll_contentView cfg))).bind
              fun _ => preserves_modify_bind (fun _ => rfl) fun _ => preserves_modify fun _ => rfl)
    (preserves_pure _)

end Scheduler

theorem Executor.start_cursorView : (start : Prog (EngineState S) Unit).Preserves cursorView :=
  preserves_cursorView (preserves_audioView start_contentView)

theorem Executor.stop_cursorView : (stop : Prog (EngineState S) Unit).Preserves cursorView :=
  preserves_cursorView (preserves_audioView stop_contentView)

theorem Engine.start_cursorTriple (hcfg : cfg.Valid) :
    (cursorContract cfg .scheduler).Triple (CursorRests (S := S)) (start cfg)
      fun _ => CursorRests := by
  refine triple_rest_bind (preserves_read _) fun _ => triple_ite (fun _ => ?_) fun _ =>
    triple_rest_pure _
  refine triple_rest_bind (preserves_modify fun _ => rfl) fun _ =>
    triple_rest_bind (preserves_modify fun _ => rfl) fun _ =>
      triple_rest_bind (preserves_modify fun _ => rfl) fun _ =>
        triple_rest_bind Executor.start_cursorView fun _ => ?_
  exact (Scheduler.start_cursorTriple hcfg).bind (cursorContract_stable cfg .scheduler) fun _ =>
    triple_rest (preserves_modify fun _ => rfl)

theorem Engine.requestStop_cursorView :
    (requestStop : Prog (EngineState S) Unit).Preserves cursorView :=
  preserves_read_bind fun _ => preserves_ite (preserves_modify_bind (fun _ => rfl) fun _ =>
    preserves_modify_bind (fun _ => rfl) fun _ => preserves_modify fun _ => rfl) (preserves_pure _)

theorem Engine.stop_cursorView : (stop cfg : Prog (EngineState S) Unit).Preserves cursorView :=
  preserves_read_bind fun _ => preserves_ite (preserves_modify_bind (fun _ => rfl) fun _ =>
    preserves_modify_bind (fun _ => rfl) fun _ => Scheduler.stop_cursorView.bind fun _ =>
      Executor.stop_cursorView.bind fun _ => preserves_modify fun _ => rfl) (preserves_pure _)

/-! ## The calls of an engine -/

theorem lifecycleCall_cursorTriple (hcfg : cfg.Valid) (call : LifecycleCall) :
    (cursorContract cfg .scheduler).Triple (CursorRests (S := S)) (call.program cfg)
      fun _ => CursorRests := by
  cases call with
  | schedulerStart => exact Scheduler.start_cursorTriple hcfg
  | schedulerStop => exact triple_rest Scheduler.stop_cursorView
  | executorStart => exact triple_rest Executor.start_cursorView
  | executorStop => exact triple_rest Executor.stop_cursorView
  | engineStart => exact Engine.start_cursorTriple hcfg
  | engineStop => exact triple_rest Engine.stop_cursorView

section

variable [Zero S]

theorem schedulerCall_cursorTriple (hcfg : cfg.Valid) (call : SchedulerCall) :
    (cursorContract cfg .scheduler).Triple (CursorRests (S := S)) (call.program cfg)
      fun _ => CursorRests := by
  cases call with
  | handleCommand command => exact Scheduler.handleCommand_cursorTriple hcfg command
  | readCommand command =>
    exact triple_rest_bind (preserves_read _) fun _ => triple_ite (fun _ =>
      triple_rest_bind (preserves_modify fun _ => rfl) fun _ =>
        Scheduler.handleCommand_cursorTriple hcfg command) fun _ => triple_rest_pure _
  | readCommands passes => exact Scheduler.readCommands_cursorTriple hcfg passes
  | collectFinishedJobs passes =>
    exact triple_rest (preserves_cursorView (Scheduler.collectFinishedJobs_audioView cfg passes))
  | feedAudioQueue => exact Scheduler.feedAudioQueue_cursorTriple hcfg
  | updateBackgroundAdmission => exact Scheduler.updateBackgroundAdmission_cursorTriple hcfg
  | scheduleRenderJobs => exact Scheduler.scheduleRenderJobs_cursorTriple hcfg
  | dispatchPendingTiles refuses =>
    exact triple_rest (preserves_cursorView (preserves_audioView
      (Scheduler.dispatchPendingTiles_contentView cfg refuses)))
  | pause => exact triple_rest (preserves_atomically_bind (fun _ => rfl) fun _ => preserves_pure _)

/-- **Every call of an engine obeys the protocol.** -/
theorem call_cursorTriple (hcfg : cfg.Valid) (kernel : RenderKernel S) (call : Call S) :
    (cursorContract cfg call.thread).Triple (cursorIdle call.thread) (call.program cfg kernel)
      fun _ => cursorIdle call.thread := by
  cases call with
  | scheduler call =>
    exact triple_rest_bind (preserves_read _) fun _ => triple_ite
      (fun _ => schedulerCall_cursorTriple hcfg call) fun _ => triple_rest_pure _
  | lifecycle call => exact lifecycleCall_cursorTriple hcfg call
  | post command =>
    exact outsideCursor_triple ((preserves_cursorView (preserves_audioView
      (Scheduler.post_contentView command))).bind fun _ => preserves_pure _)
  | requestStop => exact outsideCursor_triple Engine.requestStop_cursorView
  | processBlock output => exact recordedCallback_triple hcfg output
  | workerLoop worker faults =>
    exact outsideCursor_triple (preserves_cursorView (preserves_audioView
      (Executor.workerLoop_contentView cfg kernel faults worker)))

/-- The discipline of the playback protocol holds in every run of an engine. -/
theorem cursorDiscipline_sound (cfg : AcceptedConfig) (kernel : RenderKernel S)
    (moves : List (EngineMove S)) :
    (cursorDiscipline cfg (engineMachine cfg.toConfig kernel)
      (call_cursorTriple cfg.valid kernel)).Sound (engineRun cfg.toConfig kernel moves) :=
  Discipline.Sound.run (Discipline.sound_idle (CursorInv.init cfg.valid) cursorIdle_init) moves

instance : DecidablePred NoRewind := fun stores =>
  inferInstanceAs (Decidable (stores.Pairwise _))

end

end Anasa
