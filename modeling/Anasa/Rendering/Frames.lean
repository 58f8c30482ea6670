import Anasa.Model.Engine

/-!
# Programs that leave the rendering state alone

Playback, publishing and the audio callback change neither the rendering state nor whether the
scheduler is started.
-/

namespace Anasa

open Concurrency Prog

variable {S : Type}

/-- What the rendering discipline speaks about. -/
def renderView (s : EngineState S) : RenderState S × Bool := (s.render, s.sched.started)

/-- What publishing leaves alone. -/
def publishingView (s : EngineState S) :=
  (s.render, { s.sched with nextFrameToPublish := 0 }, s.commandQueue, s.engineStarted, s.loop,
    s.schedulingHistory)

/-- What a callback leaves alone. -/
def callbackView (s : EngineState S) :=
  (s.render, s.sched, s.commandQueue, s.engineStarted, s.loop, s.schedulingHistory,
    s.shared.playing, s.shared.stop)

theorem preserves_renderView {α : Type} {p : Prog (EngineState S) α}
    (hp : p.Preserves publishingView) : p.Preserves renderView :=
  hp.mono fun s s' h => by
    simp only [publishingView, Prod.mk.injEq, SchedulerState.mk.injEq] at h
    simp only [renderView, h]

theorem callbackView_renderView {α : Type} {p : Prog (EngineState S) α}
    (hp : p.Preserves callbackView) : p.Preserves renderView :=
  hp.mono fun s s' h => by
    simp only [callbackView, Prod.mk.injEq] at h
    simp only [renderView, h]

/-! ## Playback -/

theorem PlaybackProtocol.beginGeneration_publishingView (targetFrame : Int) (suspend : Bool) :
    (beginGeneration targetFrame suspend : Prog (EngineState S) Unit).Preserves publishingView := by
  unfold beginGeneration
  have hrest := (preserves_modify (σ := EngineState S) (v := publishingView)
    (f := fun s => { s with
      shared.targetFrame := targetFrame, history := s.history.targetStored }) fun _ => rfl).bind
    fun _ => preserves_modify (f := fun s => { s with
      shared.generation := s.shared.generation + 1
      history := s.history.generationBegun (s.shared.generation + 1) targetFrame }) fun _ => rfl
  exact preserves_ite (preserves_modify_bind (fun _ => rfl) fun _ => hrest) hrest

theorem PlaybackProtocol.currentFrame_publishingView (cfg : Config) :
    (currentFrame cfg : Prog (EngineState S) Int).Preserves publishingView := by
  refine preserves_read_bind fun _ => preserves_atomically_bind (fun _ => rfl) fun _ =>
    preserves_ite ?_ ?_
  · exact preserves_read_bind fun _ => preserves_pure _
  · exact preserves_atomically_bind (fun _ => rfl) fun _ => preserves_pure _

theorem PlaybackController.requestPlay_renderView :
    (requestPlay : Prog (EngineState S) Bool).Preserves renderView :=
  preserves_atomically fun _ => rfl

theorem PlaybackController.pause_renderView :
    (pause : Prog (EngineState S) Bool).Preserves renderView :=
  preserves_atomically fun _ => rfl

theorem PlaybackController.resetPlayRequest_renderView :
    (resetPlayRequest : Prog (EngineState S) Unit).Preserves renderView :=
  preserves_modify fun _ => rfl

theorem PlaybackController.startIfReady_publishingView (cfg : Config) (lead : Int) (entire : Bool) :
    (startIfReady cfg lead entire : Prog (EngineState S) Unit).Preserves publishingView :=
  preserves_read_bind fun _ => preserves_ite
    (preserves_ite (preserves_modify fun _ => rfl) (preserves_pure _)) (preserves_pure _)

theorem TimelineAudioPublisher.reset_publishingView (targetFrame : Int) :
    (reset targetFrame : Prog (EngineState S) Unit).Preserves publishingView :=
  preserves_modify fun _ => rfl

theorem TimelineAudioPublisher.publishNext_publishingView (cfg : Config) (generation : Int)
    (s : EngineState S) : publishingView (publishNext cfg generation s).2 = publishingView s := by
  unfold publishNext
  dsimp only
  split
  · split
    · rfl
    · split <;> rfl
  · rfl

theorem TimelineAudioPublisher.publishLoop_publishingView (cfg : Config) (generation : Int) (n : ℕ) :
    (publishLoop cfg generation n : Prog (EngineState S) Unit).Preserves publishingView := by
  induction n with
  | zero => exact preserves_pure _
  | succ n ih =>
    exact (preserves_atomically (publishNext_publishingView cfg generation)).bind fun _ =>
      preserves_ite ih (preserves_pure _)

theorem TimelineAudioPublisher.publish_publishingView (cfg : Config) (frame generation : Int) :
    (publish cfg frame generation : Prog (EngineState S) Unit).Preserves publishingView :=
  preserves_modify_bind (fun _ => rfl) fun _ => publishLoop_publishingView cfg generation _

/-! ## Scheduler -/

namespace Scheduler

theorem shutdownRequested_publishingView :
    (shutdownRequested : Prog (EngineState S) Bool).Preserves publishingView :=
  preserves_read_bind fun _ => preserves_ite (preserves_pure _) (preserves_read _)

theorem beginAudioGeneration_publishingView (targetFrame : Int) (suspend : Bool) :
    (beginAudioGeneration targetFrame suspend : Prog (EngineState S) Unit).Preserves
      publishingView :=
  (PlaybackProtocol.beginGeneration_publishingView targetFrame suspend).bind fun _ =>
    TimelineAudioPublisher.reset_publishingView targetFrame

theorem readyLeadBlocks_publishingView (cfg : Config) :
    (readyLeadBlocks cfg : Prog (EngineState S) Int).Preserves publishingView :=
  (PlaybackProtocol.currentFrame_publishingView cfg).bind fun _ => preserves_read _

theorem setClassificationsDirty_renderView :
    (setClassificationsDirty : Prog (EngineState S) Unit).Preserves renderView :=
  preserves_modify fun _ => rfl

theorem feedAudioQueue_renderView (cfg : Config) :
    (feedAudioQueue cfg : Prog (EngineState S) Unit).Preserves renderView := by
  refine (preserves_renderView (PlaybackProtocol.currentFrame_publishingView cfg)).bind fun _ =>
    preserves_ite ?_ ?_
  · exact (preserves_renderView (TimelineAudioPublisher.reset_publishingView _)).bind fun _ =>
      PlaybackController.pause_renderView.bind fun _ =>
        preserves_ite setClassificationsDirty_renderView (preserves_pure _)
  · exact preserves_renderView <| preserves_read_bind fun _ =>
      (TimelineAudioPublisher.publish_publishingView cfg _ _).bind fun _ =>
        (readyLeadBlocks_publishingView cfg).bind fun _ => preserves_read_bind fun _ =>
          PlaybackController.startIfReady_publishingView cfg _ _

theorem updateBackgroundAdmission_renderView (cfg : Config) :
    (updateBackgroundAdmission cfg : Prog (EngineState S) Unit).Preserves renderView :=
  preserves_read_bind fun _ => preserves_ite (preserves_modify fun _ => rfl)
    ((preserves_renderView (readyLeadBlocks_publishingView cfg)).bind fun _ =>
      preserves_modify fun _ => rfl)

theorem dropCommands_renderView (n : ℕ) :
    (dropCommands n : Prog (EngineState S) Unit).Preserves renderView := by
  induction n with
  | zero => exact preserves_pure _
  | succ n ih => exact preserves_modify_bind (fun _ => rfl) fun _ => ih

theorem post_renderView (command : Command) :
    (post command : Prog (EngineState S) Bool).Preserves renderView :=
  preserves_read_bind fun _ => preserves_ite (preserves_pure _) <|
    preserves_read_bind fun _ => preserves_ite (preserves_pure _) <|
      preserves_read_bind fun _ => preserves_ite (preserves_pure _) <|
        preserves_atomically fun _ => rfl

end Scheduler

theorem Engine.requestStop_renderView :
    (requestStop : Prog (EngineState S) Unit).Preserves renderView :=
  preserves_read_bind fun _ => preserves_ite
    (preserves_modify_bind (fun _ => rfl) fun _ => preserves_modify_bind (fun _ => rfl) fun _ =>
      preserves_modify fun _ => rfl)
    (preserves_pure _)

/-! ## The audio callback -/

namespace AudioBlockProcessor

theorem followGeneration_callbackView (cfg : Config) :
    (followGeneration cfg : Prog (EngineState S) Int).Preserves callbackView :=
  preserves_read_bind fun _ => preserves_read_bind fun _ => preserves_ite
    ((preserves_atomically_bind (fun _ => rfl) fun _ => preserves_modify_bind (fun _ => rfl)
      fun _ => preserves_modify fun _ => rfl).bind fun _ => preserves_pure _)
    (preserves_pure _)

theorem discardStaleBlocks_callbackView (generation expected : Int) (n : ℕ) :
    (discardStaleBlocks generation expected n :
      Prog (EngineState S) (Option (AudioBlock S))).Preserves callbackView := by
  induction n with
  | zero => exact preserves_pure _
  | succ n ih =>
    refine (preserves_read _).bind fun head => ?_
    cases head with
    | none => exact preserves_pure _
    | some head =>
      exact preserves_ite (preserves_modify_bind (fun _ => rfl) fun _ => ih) (preserves_pure _)

theorem playBlock_callbackView (cfg : Config) (generation expected : Int)
    (output : AudioOutputBuffer S) (head : Option (AudioBlock S)) :
    (playBlock cfg generation expected output head).Preserves callbackView := by
  cases head with
  | none => exact preserves_pure _
  | some head =>
    exact preserves_ite (preserves_modify_bind (fun _ => rfl) fun _ => preserves_pure _)
      (preserves_pure _)

theorem consumeBlock_callbackView (cfg : Config) (generation expected : Int)
    (output : AudioOutputBuffer S) (head : Option (AudioBlock S)) :
    (consumeBlock cfg generation expected output head).Preserves callbackView :=
  preserves_read_bind fun _ => preserves_ite (preserves_pure _) <|
    preserves_ite (preserves_pure _) <|
      (playBlock_callbackView cfg generation expected output head).bind fun _ =>
        preserves_modify_bind (fun _ => rfl) fun _ => preserves_pure _

theorem processBlock_callbackView [Zero S] (cfg : Config) (output : AudioOutputBuffer S) :
    (processBlock cfg output).Preserves callbackView :=
  preserves_ite (preserves_pure _) <| preserves_ite (preserves_pure _) <|
    preserves_read_bind fun _ => preserves_ite (preserves_pure _) <|
      (followGeneration_callbackView cfg).bind fun _ => preserves_read_bind fun _ =>
        preserves_read_bind fun _ => (discardStaleBlocks_callbackView _ _ _).bind fun _ =>
          consumeBlock_callbackView cfg _ _ _ _

end AudioBlockProcessor

theorem recordedCallback_callbackView [Zero S] (cfg : Config) (output : AudioOutputBuffer S) :
    (recordedCallback cfg output).Preserves callbackView :=
  (AudioBlockProcessor.processBlock_callbackView cfg output).bind fun _ =>
    preserves_modify fun _ => rfl

end Anasa
