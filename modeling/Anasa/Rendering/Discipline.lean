import Anasa.Rendering.LifecycleSafety
import Anasa.Rendering.WorkerSafety

/-!
# The rendering discipline

Every call of an engine obeys the rendering contract of its thread, so `RenderInv` holds in every
state of every run, and `SchedulerIdle` whenever the scheduler is between two calls.
-/

namespace Anasa

open Concurrency Contract

variable {S : Type}

/-- What a thread knows between two calls. -/
def renderIdle : ThreadId → EngineState S → Prop
  | .scheduler => SchedulerIdle
  | .audio => fun _ => True
  | .client => fun _ => True
  | .worker _ => fun _ => True

section

variable {cfg : Config} {kernel : RenderKernel S}

theorem lifecycleCall_triple (call : LifecycleCall) :
    (renderContract cfg kernel .scheduler).Triple (SchedulerIdle (S := S)) (call.program cfg)
      fun _ => SchedulerIdle := by
  cases call with
  | schedulerStart => exact schedulerStart_triple
  | schedulerStop => exact schedulerStop_triple
  | executorStart => exact executorStart_triple
  | executorStop => exact executorStop_triple
  | engineStart => exact engineStart_triple
  | engineStop => exact engineStop_triple

theorem kept_renderIdle (i : ThreadId) :
    (renderContract cfg kernel i).Kept (renderIdle (S := S) i) := by
  cases i with
  | scheduler => exact kept_idle
  | audio => exact kept_true
  | client => exact kept_true
  | worker n => exact kept_true

/-- A call that leaves the rendering state alone. -/
theorem outsideCall_triple {i : ThreadId} {p : Prog (EngineState S) Unit}
    (hp : p.Preserves renderView) :
    (renderContract cfg kernel i).Triple (fun _ => True) p fun _ _ => True :=
  triple_frame ⟨kept_true, fun _ _ _ _ => trivial⟩ hp

variable [Zero S]

theorem schedulerCall_triple (call : SchedulerCall) :
    (renderContract cfg kernel .scheduler).Triple (Running (S := S)) (call.program cfg)
      fun _ => Running := by
  have hstable := renderContract_stable cfg kernel (S := S) .scheduler
  cases call with
  | handleCommand command => exact handleCommand_triple command
  | readCommand command => exact readCommand_triple command
  | readCommands passes => exact readCommands_triple passes
  | collectFinishedJobs passes => exact collectFinishedJobs_triple passes
  | feedAudioQueue => exact triple_frame framed_schedulerAt (Scheduler.feedAudioQueue_renderView cfg)
  | updateBackgroundAdmission =>
    exact triple_frame framed_schedulerAt (Scheduler.updateBackgroundAdmission_renderView cfg)
  | scheduleRenderJobs => exact scheduleRenderJobs_triple
  | dispatchPendingTiles refuses => exact dispatchPendingTiles_triple refuses
  | pause =>
    exact (triple_frame framed_schedulerAt PlaybackController.pause_renderView).bind hstable
      fun _ => triple_schedulerPure _

theorem call_triple (call : Call S) :
    (renderContract cfg kernel call.thread).Triple (renderIdle call.thread)
      (call.program cfg kernel) fun _ => renderIdle call.thread := by
  cases call with
  | scheduler call =>
    have hstable := renderContract_stable cfg kernel (S := S) .scheduler
    refine readStarted_triple.bind hstable fun started => triple_ite (fun hs => ?_) fun _ =>
      triple_pure kept_idle fun _ _ h => h.1
    exact (schedulerCall_triple call).conseq (fun s _ h => h.1.running (h.2.trans hs))
      fun _ s _ h => h.idle
  | lifecycle call => exact lifecycleCall_triple call
  | post command =>
    exact outsideCall_triple ((Scheduler.post_renderView command).bind fun _ =>
      Prog.preserves_pure _)
  | requestStop => exact outsideCall_triple Engine.requestStop_renderView
  | processBlock output =>
    exact outsideCall_triple
      (callbackView_renderView (recordedCallback_callbackView cfg output))
  | workerLoop worker faults => exact workerLoop_triple faults

end

variable [Zero S]

theorem renderIdle_init (cfg : Config) (i : ThreadId) :
    renderIdle i (EngineState.init cfg : EngineState S) := by
  cases i with
  | scheduler =>
    refine ⟨fun c j _ hj => ?_, rfl, fun _ => ⟨rfl, fun _ => rfl⟩⟩
    cases hj
  | audio => trivial
  | client => trivial
  | worker n => trivial

/-- The rendering discipline of an engine. -/
def renderDiscipline (cfg : Config) (kernel : RenderKernel S) :
    Discipline (engineMachine cfg kernel) where
  inv s := RenderInv cfg kernel s.render
  rely := renderRely
  guar i s s' := ∀ j, j ≠ i → renderRely j s s'
  idle := renderIdle
  rely_refl := renderRely_refl
  rely_trans := renderRely_trans
  compatible hij _ _ hg := hg _ (Ne.symm hij)
  idle_stable {i s s'} h hr hi := kept_renderIdle i s s' h hr hi
  call_safe call s hi h := call_triple call s hi h

variable (cfg : Config) (kernel : RenderKernel S) (moves : List (EngineMove S))

/-- **The discipline holds.** Every run of an engine obeys the rendering discipline. -/
theorem renderDiscipline_sound :
    (renderDiscipline cfg kernel).Sound (engineRun cfg kernel moves) := by
  exact Discipline.Sound.run
    (Discipline.sound_idle (RenderInv.init cfg kernel) (renderIdle_init cfg)) moves

theorem engineRun_renderInv : RenderInv cfg kernel (engineRun cfg kernel moves).state.render :=
  (renderDiscipline_sound cfg kernel moves).inv

variable {cfg kernel moves}

theorem engineRun_schedulerIdle (h : (engineRun cfg kernel moves).thread .scheduler = none) :
    SchedulerIdle (engineRun cfg kernel moves).state := by
  have hs := (renderDiscipline_sound cfg kernel moves).thread .scheduler
  rw [h] at hs
  exact hs

end Anasa
