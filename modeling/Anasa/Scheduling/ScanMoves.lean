import Anasa.Scheduling.CoverageCalls

/-!
# How the calls of the scheduler move the scan

A step of `scheduleRenderJobs` moves it past covered chunks and `stop` takes it back to the start;
every other call leaves it where it is.
-/

namespace Anasa

open Concurrency Contract Prog Scheduler

variable {S : Type} {cfg : Config} {kernel : RenderKernel S}

/-! ## What leaves the scan alone -/

theorem plan_scanView {α : Type} {p : Prog (EngineState S) α} (hp : p.Preserves planOf) :
    p.Preserves scanView :=
  hp.mono fun _ _ h => congrArg (fun plan : Plan =>
    (plan.history.scanSteps, plan.sched.timelineScanCursorInChunks)) h

theorem publishing_scanView {α : Type} {p : Prog (EngineState S) α}
    (hp : p.Preserves publishingView) : p.Preserves scanView := plan_scanView (publishing_planOf hp)

theorem handleCommand_scanView (command : Command) :
    (handleCommand cfg command : Prog (EngineState S) Unit).Preserves scanView := by
  have hdirty : (setClassificationsDirty : Prog (EngineState S) Unit).Preserves scanView :=
    preserves_modify fun _ => rfl
  have hbegin : ∀ target suspend, (beginAudioGeneration target suspend :
      Prog (EngineState S) Unit).Preserves scanView := fun target suspend =>
    publishing_scanView (beginAudioGeneration_publishingView target suspend)
  rcases command with ⟨type, firstFrame, lastFrame⟩
  cases type with
  | play => exact preserves_atomically_bind (fun _ => rfl) fun _ =>
      preserves_ite hdirty (preserves_pure _)
  | pause => exact preserves_atomically_bind (fun _ => rfl) fun _ =>
      preserves_ite hdirty (preserves_pure _)
  | seek => exact (hbegin _ _).bind fun _ => hdirty
  | setViewport => exact preserves_modify fun _ => rfl
  | edit =>
    have hversions : (invalidateVersions cfg firstFrame lastFrame :
        Prog (EngineState S) Unit).Preserves scanView :=
      preserves_forEach fun _ _ => preserves_modify_bind (fun _ => rfl) fun _ =>
        preserves_modify fun _ => rfl
    exact preserves_modify_bind (fun _ => rfl) fun _ => hversions.bind fun _ =>
      (publishing_scanView (PlaybackProtocol.currentFrame_publishingView cfg)).bind fun _ =>
        preserves_read_bind fun _ => (hbegin _ _).bind fun _ => preserves_modify fun _ => rfl
  | stop => exact preserves_modify_bind (fun _ => rfl) fun _ => preserves_modify fun _ => rfl

theorem feedAudioQueue_scanView (cfg : Config) :
    (feedAudioQueue cfg : Prog (EngineState S) Unit).Preserves scanView := by
  refine (publishing_scanView (PlaybackProtocol.currentFrame_publishingView cfg)).bind fun _ =>
    preserves_ite ?_ ?_
  · exact (publishing_scanView (TimelineAudioPublisher.reset_publishingView _)).bind fun _ =>
      preserves_atomically_bind (fun _ => rfl) fun _ =>
        preserves_ite (preserves_modify fun _ => rfl) (preserves_pure _)
  · exact publishing_scanView <| preserves_read_bind fun _ =>
      (TimelineAudioPublisher.publish_publishingView cfg _ _).bind fun _ =>
        (readyLeadBlocks_publishingView cfg).bind fun _ => preserves_read_bind fun _ =>
          PlaybackController.startIfReady_publishingView cfg _ _

theorem updateBackgroundAdmission_scanView (cfg : Config) :
    (updateBackgroundAdmission cfg : Prog (EngineState S) Unit).Preserves scanView :=
  preserves_read_bind fun _ => preserves_ite (preserves_modify fun _ => rfl)
    ((publishing_scanView (readyLeadBlocks_publishingView cfg)).bind fun _ =>
      preserves_modify fun _ => rfl)

theorem dispatchPendingTiles_scanView (refuses : ℕ → Bool) :
    (dispatchPendingTiles cfg refuses : Prog (EngineState S) Unit).Preserves scanView :=
  (dispatchPendingTiles_dispatchView cfg refuses).mono fun s s' h => by
    simp only [dispatchView, Prod.mk.injEq] at h
    simp only [scanView, h]

variable [Zero S]

/-- Every step of the loop but the one that schedules. -/
theorem step_scanView (refuses : ℕ → Bool) {phase : LoopPhase} (hphase : phase ≠ .scheduleRenderJobs) :
    (SchedulerLoop.step cfg refuses phase : Prog (EngineState S) Unit).Preserves scanView := by
  have henter : ∀ phase, (SchedulerLoop.enter phase : Prog (EngineState S) Unit).Preserves
      scanView := fun phase => preserves_modify fun _ => rfl
  have hshutdown : (shutdownRequested : Prog (EngineState S) Bool).Preserves scanView :=
    publishing_scanView shutdownRequested_publishingView
  have hunless : ∀ phase, (SchedulerLoop.enterUnlessShutdown phase :
      Prog (EngineState S) Unit).Preserves scanView := fun phase =>
    hshutdown.bind fun _ => preserves_ite (henter _) (henter _)
  cases phase with
  | stopped => exact preserves_pure _
  | condition => exact hunless _
  | readCommands =>
    refine preserves_read_bind fun front => ?_
    cases front with
    | none => exact henter _
    | some command =>
      exact preserves_modify_bind (fun _ => rfl) fun _ => (handleCommand_scanView command).bind
        fun _ => hshutdown.bind fun _ => preserves_ite (henter _) (preserves_pure _)
  | breakCheck => exact hunless _
  | collectFinishedJobs =>
    exact preserves_atomically_bind (fun _ => rfl) fun _ => preserves_ite (henter _) (preserves_pure _)
  | feedAudioQueue => exact (feedAudioQueue_scanView cfg).bind fun _ => henter _
  | updateBackgroundAdmission =>
    exact (updateBackgroundAdmission_scanView cfg).bind fun _ => henter _
  | scheduleRenderJobs => exact absurd rfl hphase
  | dispatchPendingTiles =>
    exact (dispatchPendingTiles_scanView refuses).bind fun _ => henter _
  | pause => exact preserves_atomically_bind (fun _ => rfl) fun _ => henter _
  | returned => exact preserves_pure _

omit [Zero S] in
theorem schedulerStart_scanView :
    (Scheduler.start cfg : Prog (EngineState S) Unit).Preserves scanView := by
  refine preserves_read_bind fun _ => preserves_ite ?_ (preserves_pure _)
  refine preserves_modify_bind (fun _ => rfl) fun _ => preserves_modify_bind
    (fun _ => rfl) fun _ => preserves_modify_bind (fun _ => rfl) fun _ => ?_
  exact (publishing_scanView (PlaybackProtocol.currentFrame_publishingView cfg)).bind fun frame =>
    (publishing_scanView (TimelineAudioPublisher.reset_publishingView frame)).bind fun _ =>
      preserves_modify fun _ => rfl

omit [Zero S] in
theorem engineStart_scanView :
    (Engine.start cfg : Prog (EngineState S) Unit).Preserves scanView := by
  refine preserves_read_bind fun _ => preserves_ite ?_ (preserves_pure _)
  refine preserves_modify_bind (fun _ => rfl) fun _ => preserves_modify_bind
    (fun _ => rfl) fun _ => preserves_modify_bind (fun _ => rfl) fun _ => ?_
  exact (plan_scanView (worker_planOf Executor.start_workerView)).bind fun _ =>
    schedulerStart_scanView.bind fun _ => preserves_modify fun _ => rfl

omit [Zero S] in
theorem startLoop_scanView {start : Prog (EngineState S) Unit} (hstart : start.Preserves scanView) :
    (Owner.startLoop start).Preserves scanView := by
  refine preserves_read_bind fun _ => preserves_ite ?_ (preserves_pure _)
  exact hstart.bind fun _ => preserves_read_bind fun _ =>
    preserves_ite (preserves_modify fun _ => rfl) (preserves_pure _)

/-! ## Calls -/

/-- While the others leave the view alone, every access moves the scan by `ScanMoves`. -/
def MovesScan (cfg : Config) {α : Type} (p : Prog (EngineState S) α) : Prop :=
  (alone coverageOf (ScanMoves cfg)).Triple (fun _ => True) p fun _ _ => True

omit [Zero S] in
theorem movesScan_of_preserves {α : Type} {p : Prog (EngineState S) α}
    (hp : p.Preserves scanView) : MovesScan cfg p :=
  triple_of_preserves hp kept_true fun _ _ h _ _ => ⟨.of_view h, trivial, trivial⟩

omit [Zero S] in
theorem MovesScan.bind {α β : Type} {p : Prog (EngineState S) α} {g : α → Prog (EngineState S) β}
    (hp : MovesScan cfg p) (hg : ∀ a, MovesScan cfg (g a)) : MovesScan cfg (p >>= g) :=
  Triple.bind alone_stable hp hg

omit [Zero S] in
theorem MovesScan.read_bind {α β : Type} {q : EngineState S → α} {g : α → Prog (EngineState S) β}
    (hg : ∀ a, MovesScan cfg (g a)) : MovesScan cfg (.read q >>= g) :=
  (movesScan_of_preserves (preserves_read q)).bind hg

omit [Zero S] in
theorem schedulerStop_movesScan :
    MovesScan cfg (Scheduler.stop cfg : Prog (EngineState S) Unit) := by
  have hplanning : ∀ {p : Prog (EngineState S) Unit}, p.Preserves pendingView → MovesScan cfg p :=
    fun hp => movesScan_of_preserves (planning_scanView (pending_planning hp))
  have hcommands : ∀ n, (dropCommands n : Prog (EngineState S) Unit).Preserves scanView := by
    intro n
    induction n with
    | zero => exact preserves_pure _
    | succ n ih => exact preserves_modify_bind (fun _ => rfl) fun _ => ih
  have hreset : (PlaybackController.resetPlayRequest : Prog (EngineState S) Unit).Preserves
      scanView := preserves_modify fun _ => rfl
  have hrequest : ∀ f : EngineState S → EngineState S, (∀ s, scanView (f s) = scanView s) →
      MovesScan cfg (.modify f) := fun _ hf => movesScan_of_preserves (preserves_modify hf)
  refine MovesScan.read_bind fun _ => triple_ite (fun _ => ?_)
    fun _ => movesScan_of_preserves (preserves_pure _)
  refine MovesScan.bind (hrequest _ fun _ => rfl) fun _ => MovesScan.read_bind fun n =>
    (hplanning (dropPendingTiles_pendingView n)).bind fun _ => MovesScan.read_bind fun commands =>
      (movesScan_of_preserves (hcommands commands)).bind fun _ =>
        (hplanning (cancelAll_pendingView cfg)).bind fun _ =>
          (movesScan_of_preserves hreset).bind fun _ => ?_
  exact triple_modify kept_true kept_true fun _ _ _ => ⟨.inr (.inr ⟨rfl, rfl⟩), trivial, trivial⟩

omit [Zero S] in
theorem finishStop_movesScan :
    MovesScan cfg (Owner.finishStop cfg : Prog (EngineState S) Unit) := by
  have hcleanUp : ∀ scope, MovesScan cfg (Owner.cleanUp cfg scope : Prog (EngineState S) Unit) := by
    intro scope
    cases scope with
    | scheduler => exact schedulerStop_movesScan
    | engine =>
      exact schedulerStop_movesScan.bind fun _ =>
        (movesScan_of_preserves (plan_scanView (worker_planOf Executor.stop_workerView))).bind
          fun _ => movesScan_of_preserves (preserves_modify fun _ => rfl)
  refine MovesScan.read_bind fun loop => triple_ite (fun _ => ?_)
    fun _ => movesScan_of_preserves (preserves_pure _)
  rcases loop.stopping with - | scope
  · exact movesScan_of_preserves (preserves_pure _)
  · exact (hcleanUp scope).bind fun _ => movesScan_of_preserves (preserves_modify fun _ => rfl)

/-- A step of the loop in another phase. -/
theorem otherStep_movesScan (refuses : ℕ → Bool) :
    (alone coverageOf (ScanMoves cfg)).Triple
      (fun s : EngineState S => (coverageOf s).plan.phase ≠ .scheduleRenderJobs)
      (SchedulerLoop.run cfg refuses) fun _ _ => True := by
  have hkept : (alone coverageOf (ScanMoves cfg)).Kept
      fun s : EngineState S => (coverageOf s).plan.phase ≠ .scheduleRenderJobs :=
    kept_alone fun c : Coverage S => c.plan.phase ≠ .scheduleRenderJobs
  have hread : ∀ {α : Type} (q : EngineState S → α), (alone coverageOf (ScanMoves cfg)).Triple
      (fun s => (coverageOf s).plan.phase ≠ .scheduleRenderJobs) (.read q)
      fun _ s => (coverageOf s).plan.phase ≠ .scheduleRenderJobs := fun q =>
    triple_read (fun s => ScanMoves.refl (coverageOf s)) hkept (fun _ => hkept) fun _ _ h => h
  have hphase : (alone coverageOf (ScanMoves cfg)).Triple
      (fun s : EngineState S => (coverageOf s).plan.phase ≠ .scheduleRenderJobs)
      (.read (·.loop.phase)) fun phase _ => phase ≠ .scheduleRenderJobs :=
    triple_read (fun s => ScanMoves.refl (coverageOf s)) hkept (fun _ _ _ h _ _ => h)
      fun _ _ h => h
  refine (hread _).bind alone_stable fun _ => triple_ite (fun _ => hphase.bind alone_stable
    fun phase => Triple.of_pre (fun _ h => h) fun hne => ?_) fun _ => ?_
  · exact (movesScan_of_preserves (step_scanView refuses hne)).conseq (fun _ _ _ => trivial)
      fun _ _ _ h => h
  · exact (movesScan_of_preserves (preserves_pure ())).conseq (fun _ _ _ => trivial)
      fun _ _ _ h => h

/-- Between two calls, in the phase that schedules. -/
theorem beforePass_of_idle {hcfg : cfg.Valid} {s : EngineState S}
    (hi : (planLayer hcfg kernel).discipline.inv s)
    (hidle : (planLayer hcfg kernel).discipline.idle .scheduler s)
    (hphase : s.loop.phase = .scheduleRenderJobs) : BeforePass cfg kernel s := by
  have hplan : PlanIdle cfg (planOf s) := hidle.2 rfl
  have hstarted : s.sched.started = true :=
    hplan.started.mpr fun h => LoopPhase.noConfusion (hphase.symm.trans h)
  exact ⟨hi.1, SchedulerIdle.running hidle.1 hstarted, hi.2,
    AtPhase.planned ⟨hplan, hstarted, hphase⟩ LoopPhase.noConfusion⟩

/-- **Every call** of the scheduler thread, while the others leave the view alone. -/
theorem schedulerCall_movesScan {hcfg : cfg.Valid} (call : SessionCall S)
    (hcall : call.thread = .scheduler) (s : EngineState S)
    (hi : (planLayer hcfg kernel).discipline.inv s)
    (hidle : (planLayer hcfg kernel).discipline.idle .scheduler s) :
    (alone coverageOf (ScanMoves cfg)).Safe (fun _ _ => True) (call.program cfg kernel) s := by
  have hsafe : ∀ {p : Prog (EngineState S) Unit}, MovesScan cfg p →
      (alone coverageOf (ScanMoves cfg)).Safe (fun _ _ => True) p s := fun hp => hp s trivial trivial
  cases call with
  | schedulerLoop refuses =>
    by_cases hphase : s.loop.phase = .scheduleRenderJobs
    · exact (schedulingCall_safe hcfg (beforePass_of_idle hi hidle hphase) refuses).mono
        fun _ _ _ _ => trivial
    · exact otherStep_movesScan refuses s trivial hphase
  | schedulerStart => exact hsafe (movesScan_of_preserves (startLoop_scanView schedulerStart_scanView))
  | engineStart => exact hsafe (movesScan_of_preserves (startLoop_scanView engineStart_scanView))
  | executorStart =>
    exact hsafe (movesScan_of_preserves (plan_scanView (worker_planOf Executor.start_workerView)))
  | executorStop =>
    exact hsafe (movesScan_of_preserves (plan_scanView (worker_planOf Executor.stop_workerView)))
  | requestStop scope => cases hcall
  | finishStop => exact hsafe finishStop_movesScan
  | post command => cases hcall
  | processBlock output => cases hcall
  | workerLoop worker faults => cases hcall

end Anasa
