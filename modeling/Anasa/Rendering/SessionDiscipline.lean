import Anasa.Model.Session
import Anasa.Rendering.Discipline

/-!
# The rendering discipline of sessions

The steps of `schedulerLoop` and the calls of the owner obey the rendering contract too.
-/

namespace Anasa

open Concurrency Contract

variable {S : Type} {cfg : Config} {kernel : RenderKernel S}

/-! ## The loop -/

namespace SchedulerLoop

theorem enter_renderView (phase : LoopPhase) :
    (enter phase : Prog (EngineState S) Unit).Preserves renderView :=
  Prog.preserves_modify fun _ => rfl

theorem enterUnlessShutdown_renderView (phase : LoopPhase) :
    (enterUnlessShutdown phase : Prog (EngineState S) Unit).Preserves renderView :=
  (preserves_renderView Scheduler.shutdownRequested_publishingView).bind fun _ =>
    Prog.preserves_ite (enter_renderView _) (enter_renderView _)

/-- A function of the scheduler and the phase after it. -/
theorem enter_triple {p : Prog (EngineState S) Unit} (phase : LoopPhase)
    (hp : (renderContract cfg kernel .scheduler).Triple (Running (S := S)) p fun _ => Running) :
    (renderContract cfg kernel .scheduler).Triple (Running (S := S))
      (p >>= fun _ => enter phase) fun _ => Running :=
  hp.bind (renderContract_stable cfg kernel .scheduler) fun _ =>
    triple_frame framed_schedulerAt (enter_renderView phase)

theorem readCommands_triple :
    (renderContract cfg kernel .scheduler).Triple (Running (S := S)) (readCommands cfg)
      fun _ => Running := by
  have hstable := renderContract_stable cfg kernel (S := S) .scheduler
  refine (triple_schedulerRead _).bind hstable fun front => ?_
  cases front with
  | none => exact triple_frame framed_schedulerAt (enter_renderView _)
  | some command =>
    refine triple_frame_bind framed_schedulerAt (fun _ => rfl) ?_
    refine (handleCommand_triple command).bind hstable fun _ => ?_
    exact triple_frame framed_schedulerAt <| (preserves_renderView
      Scheduler.shutdownRequested_publishingView).bind fun _ =>
      Prog.preserves_ite (enter_renderView _) (Prog.preserves_pure _)

variable [Zero S]

theorem step_triple (refuses : ℕ → Bool) (phase : LoopPhase) :
    (renderContract cfg kernel .scheduler).Triple (Running (S := S)) (step cfg refuses phase)
      fun _ => Running := by
  have hstable := renderContract_stable cfg kernel (S := S) .scheduler
  cases phase with
  | stopped => exact triple_schedulerPure _
  | condition => exact triple_frame framed_schedulerAt (enterUnlessShutdown_renderView _)
  | readCommands => exact readCommands_triple
  | breakCheck => exact triple_frame framed_schedulerAt (enterUnlessShutdown_renderView _)
  | collectFinishedJobs =>
    exact collectOne_triple.bind hstable fun _ => triple_ite
      (fun _ => triple_frame framed_schedulerAt (enter_renderView _)) fun _ => triple_schedulerPure _
  | feedAudioQueue =>
    exact enter_triple _ (triple_frame framed_schedulerAt (Scheduler.feedAudioQueue_renderView cfg))
  | updateBackgroundAdmission =>
    exact enter_triple _
      (triple_frame framed_schedulerAt (Scheduler.updateBackgroundAdmission_renderView cfg))
  | scheduleRenderJobs => exact enter_triple _ scheduleRenderJobs_triple
  | dispatchPendingTiles => exact enter_triple _ (dispatchPendingTiles_triple refuses)
  | pause =>
    exact triple_frame framed_schedulerAt (PlaybackController.pause_renderView.bind fun _ =>
      enter_renderView _)
  | returned => exact triple_schedulerPure _

theorem run_triple (refuses : ℕ → Bool) :
    (renderContract cfg kernel .scheduler).Triple (SchedulerIdle (S := S)) (run cfg refuses)
      fun _ => SchedulerIdle := by
  have hstable := renderContract_stable cfg kernel (S := S) .scheduler
  refine readStarted_triple.bind hstable fun started => triple_ite (fun hs => ?_) fun _ =>
    triple_pure kept_idle fun _ _ h => h.1
  exact ((triple_schedulerRead _).bind hstable fun phase => step_triple refuses phase).conseq
    (fun s _ h => h.1.running (h.2.trans hs)) fun _ s _ h => h.idle

end SchedulerLoop

/-! ## The owner -/

namespace Owner

theorem startLoop_triple {start : Prog (EngineState S) Unit}
    (hstart : (renderContract cfg kernel .scheduler).Triple (SchedulerIdle (S := S)) start
      fun _ => SchedulerIdle) :
    (renderContract cfg kernel .scheduler).Triple (SchedulerIdle (S := S)) (startLoop start)
      fun _ => SchedulerIdle := by
  have hstable := renderContract_stable cfg kernel (S := S) .scheduler
  refine (triple_frame framed_idle (Prog.preserves_read _)).bind hstable fun _ =>
    triple_ite (fun _ => ?_) fun _ => triple_pure kept_idle fun _ _ h => h
  exact hstart.bind hstable fun _ => triple_frame framed_idle <|
    Prog.preserves_read_bind fun _ => Prog.preserves_ite (SchedulerLoop.enter_renderView _)
      (Prog.preserves_pure _)

theorem requestStop_renderView (scope : StopScope) :
    (requestStop scope : Prog (EngineState S) Unit).Preserves renderView := by
  refine Prog.preserves_read_bind fun _ => Prog.preserves_ite ?_ (Prog.preserves_pure _)
  cases scope with
  | scheduler =>
    exact Prog.preserves_read_bind fun _ =>
      Prog.preserves_ite (Prog.preserves_modify fun _ => rfl) (Prog.preserves_pure _)
  | engine =>
    exact Prog.preserves_read_bind fun _ => Prog.preserves_ite
      (Prog.preserves_modify_bind (fun _ => rfl) fun _ => Prog.preserves_modify_bind
        (fun _ => rfl) fun _ => Prog.preserves_modify fun _ => rfl) (Prog.preserves_pure _)

theorem post_renderView (command : Command) :
    (post command : Prog (EngineState S) Unit).Preserves renderView :=
  Prog.preserves_read_bind fun _ => Prog.preserves_ite
    ((Scheduler.post_renderView command).bind fun _ => Prog.preserves_pure _)
    (Prog.preserves_pure _)

theorem cleanUp_triple (scope : StopScope) :
    (renderContract cfg kernel .scheduler).Triple (SchedulerIdle (S := S)) (cleanUp cfg scope)
      fun _ => SchedulerIdle := by
  have hstable := renderContract_stable cfg kernel (S := S) .scheduler
  cases scope with
  | scheduler => exact schedulerStop_triple
  | engine =>
    exact schedulerStop_triple.bind hstable fun _ => executorStop_triple.bind hstable
      fun _ => triple_frame framed_idle (Prog.preserves_modify fun _ => rfl)

theorem finishStop_triple :
    (renderContract cfg kernel .scheduler).Triple (SchedulerIdle (S := S)) (finishStop cfg)
      fun _ => SchedulerIdle := by
  have hstable := renderContract_stable cfg kernel (S := S) .scheduler
  refine (triple_frame framed_idle (Prog.preserves_read _)).bind hstable fun loop =>
    triple_ite (fun _ => ?_) fun _ => triple_pure kept_idle fun _ _ h => h
  rcases loop.stopping with - | scope
  · exact triple_pure kept_idle fun _ _ h => h
  · exact (cleanUp_triple scope).bind hstable fun _ =>
      triple_frame framed_idle (Prog.preserves_modify fun _ => rfl)

end Owner

/-! ## The discipline -/

variable [Zero S]

theorem sessionCall_triple (call : SessionCall S) :
    (renderContract cfg kernel call.thread).Triple (renderIdle call.thread)
      (call.program cfg kernel) fun _ => renderIdle call.thread := by
  cases call with
  | schedulerLoop refuses => exact SchedulerLoop.run_triple refuses
  | schedulerStart => exact Owner.startLoop_triple schedulerStart_triple
  | engineStart => exact Owner.startLoop_triple engineStart_triple
  | executorStart => exact executorStart_triple
  | executorStop => exact executorStop_triple
  | requestStop scope => exact outsideCall_triple (Owner.requestStop_renderView scope)
  | finishStop => exact Owner.finishStop_triple
  | post command => exact outsideCall_triple (Owner.post_renderView command)
  | processBlock output =>
    exact outsideCall_triple
      (callbackView_renderView (recordedCallback_callbackView cfg output))
  | workerLoop worker faults => exact workerLoop_triple faults

/-- The rendering discipline of sessions. -/
def sessionDiscipline (cfg : Config) (kernel : RenderKernel S) :
    Discipline (sessionMachine cfg kernel) where
  inv s := RenderInv cfg kernel s.render
  rely := renderRely
  guar i s s' := ∀ j, j ≠ i → renderRely j s s'
  idle := renderIdle
  rely_refl := renderRely_refl
  rely_trans := renderRely_trans
  compatible := (renderDiscipline cfg kernel).compatible
  idle_stable := (renderDiscipline cfg kernel).idle_stable
  call_safe call s hi h := sessionCall_triple call s hi h

end Anasa
