import Anasa.Scheduling.ControlSteps
import Anasa.Scheduling.PlanLifecycle

/-!
# The control over whole sessions

Starting leaves an empty queue and a fresh history behind, stopping empties the queue before it
lets the next session start, and what the owner does is `OwnerMoves`. So the control is kept in
every run of sessions.
-/

namespace Anasa

open Concurrency Contract

variable {S : Type} {cfg : Config} {kernel : RenderKernel S} {C : Contract (EngineState S)}

/-! ## The loop -/

namespace Scheduler

theorem feedAudioQueue_controlOf (cfg : Config) :
    (feedAudioQueue cfg : Prog (EngineState S) Unit).Preserves controlOf := by
  refine (publishing_controlOf (PlaybackProtocol.currentFrame_publishingView cfg)).bind fun _ =>
    Prog.preserves_ite ?_ ?_
  · refine (publishing_controlOf (TimelineAudioPublisher.reset_publishingView _)).bind fun _ =>
      Prog.preserves_atomically_bind (fun _ => rfl) fun _ =>
        Prog.preserves_ite (Prog.preserves_modify fun _ => rfl) (Prog.preserves_pure _)
  · exact publishing_controlOf <| Prog.preserves_read_bind fun _ =>
      (TimelineAudioPublisher.publish_publishingView cfg _ _).bind fun _ =>
        (readyLeadBlocks_publishingView cfg).bind fun _ => Prog.preserves_read_bind fun _ =>
          PlaybackController.startIfReady_publishingView cfg _ _

theorem updateBackgroundAdmission_controlOf (cfg : Config) :
    (updateBackgroundAdmission cfg : Prog (EngineState S) Unit).Preserves controlOf :=
  Prog.preserves_read_bind fun _ => Prog.preserves_ite (Prog.preserves_modify fun _ => rfl)
    ((publishing_controlOf (readyLeadBlocks_publishingView cfg)).bind fun _ =>
      Prog.preserves_modify fun _ => rfl)

theorem scheduleRenderJobs_playControl [Zero S] (cfg : Config) :
    (scheduleRenderJobs cfg : Prog (EngineState S) Unit).Preserves playControl :=
  (PlaybackProtocol.currentFrame_playControl cfg).bind fun _ =>
    (scheduling_playControl (updateClassifications_schedulingView cfg _)).bind fun _ =>
      scheduling_playControl (scheduleLoops_schedulingView cfg _)

end Scheduler

section

variable (hC : C.Stable)

include hC

/-- A function of the scheduler and the phase after it. -/
theorem enterAfter_control {phase phase' : LoopPhase} {p : Prog (EngineState S) Unit}
    (hp : p.Preserves controlOf) (hphase : phase ≠ .returned ∧ phase ≠ .stopped)
    (hphase' : phase' ≠ .returned ∧ phase' ≠ .stopped) (hstop : ¬ StopPhase phase) :
    (controlContract C .scheduler).Triple (fun s => AtStep phase (controlOf s))
      (p >>= fun _ => SchedulerLoop.enter phase') fun _ s => ControlIdle (controlOf s) := by
  refine (triple_controlFrame (AtStep.kept phase)
    (fun c h => h.not_ended hphase.1 hphase.2) hp).bind (controlContract_stable hC _) fun _ => ?_
  exact enter_control (AtStep.kept phase) hphase'.1 hphase'.2 fun c h =>
    h.enter fun hs => absurd (h.stop_phase hs) hstop

theorem collectFinishedJobs_control :
    (controlContract C .scheduler).Triple
      (fun s : EngineState S => AtStep .collectFinishedJobs (controlOf s))
      (SchedulerLoop.collectFinishedJobs cfg) fun _ s => ControlIdle (controlOf s) := by
  have hkept := AtStep.kept .collectFinishedJobs
  refine Triple.bind (controlContract_stable hC _) (triple_controlStill hkept
    (Prog.preserves_atomically fun s => ?_)) fun popped => triple_ite (fun _ => ?_) fun _ => ?_
  · have heq := Scheduler.collectOne_eq cfg s.render
    show playControl { s with render := (Scheduler.collectOne cfg s.render).2 } = _
    rw [heq]
    rfl
  · exact enter_control hkept (by decide) (by decide) fun c h =>
      h.enter fun hs => absurd hs (h.not_stopHandled (by unfold StopPhase; decide))
  · exact triple_controlPure (Q := fun _ => ControlIdle) ControlIdle.kept fun c h => h.idle

/-- The loop ends: it pauses playback and returns. -/
theorem pause_control :
    (controlContract C .scheduler).Triple (fun s : EngineState S => AtStep .pause (controlOf s))
      (do
        let _ ← PlaybackController.pause
        SchedulerLoop.enter .returned) fun _ s => ControlIdle (controlOf s) := by
  have hkept : (controlContract C .scheduler).Kept fun s : EngineState S =>
      AtStep .pause (controlOf s) ∧ s.shared.playing = false := by
    intro s s' h hr _
    refine ⟨AtStep.kept _ _ _ h.1 hr.1.1, ?_⟩
    rw [Bool.eq_false_iff]
    intro hp
    have hplaying := hr.1.2 hp
    rw [h.2] at hplaying
    cases hplaying
  have hguar : ∀ s s' : EngineState S, s'.loop.stopping = s.loop.stopping →
      s'.sched.started = s.sched.started → ∀ j, j ≠ ThreadId.scheduler → controlRely j s s' := by
    intro s s' hstopping hstarted j hj
    cases j with
    | scheduler => exact absurd rfl hj
    | client =>
      intro hn
      rw [hstopping, hstarted]
      exact ⟨hn, id⟩
    | audio => trivial
    | worker n => trivial
  refine Triple.bind (controlContract_stable hC _) (triple_atomically_rely
    (kept_control (AtStep.kept .pause)) (fun _ => hkept) fun _ s _ hi h => ?_) fun _ => ?_
  · exact ⟨hguar _ _ rfl rfl, { hi with paused := fun _ => rfl }, h, rfl⟩
  · refine triple_modify_rely hkept (kept_control ControlIdle.kept) fun _ s _ hi h => ?_
    exact ⟨hguar _ _ rfl rfl, { hi with paused := fun _ => h.2 },
      h.1.enter fun _ => .inr (.inr rfl)⟩

theorem schedulerLoop_control [Zero S] (refuses : ℕ → Bool) :
    (controlContract C .scheduler).Triple (fun s : EngineState S => ControlIdle (controlOf s))
      (SchedulerLoop.run cfg refuses) fun _ s => ControlIdle (controlOf s) := by
  have hstable := controlContract_stable hC .scheduler
  have hstarted : ∀ started : Bool, OwnerKept fun c => ControlIdle c ∧ c.started = started :=
    fun started => ControlIdle.kept.and fun c c' h hm => hm.started.trans h
  refine (triple_controlRead ControlIdle.kept hstarted fun s h => ⟨h, rfl⟩).bind hstable
    fun started => triple_ite (fun hs => ?_) fun _ => ?_
  · refine (triple_controlRead (hstarted started) (fun phase => AtStep.kept phase)
      fun s h => ?_).bind hstable fun phase => ?_
    · exact h.1.running (h.2.trans hs)
    · have hidle : ∀ phase, (controlContract C .scheduler).Triple
          (fun s : EngineState S => AtStep phase (controlOf s)) (pure ())
          fun _ s => ControlIdle (controlOf s) :=
        fun phase => triple_controlPure (Q := fun _ => ControlIdle) ControlIdle.kept
          fun c h => h.idle
      cases phase with
      | stopped => exact hidle _
      | condition => exact enterUnlessShutdown_control hC (by decide) (by decide)
      | readCommands => exact readCommands_control hC
      | breakCheck => exact enterUnlessShutdown_control hC (by decide) (by decide)
      | collectFinishedJobs => exact collectFinishedJobs_control hC
      | feedAudioQueue =>
        exact enterAfter_control hC (Scheduler.feedAudioQueue_controlOf cfg) (by decide)
          (by decide) (by unfold StopPhase; decide)
      | updateBackgroundAdmission =>
        exact enterAfter_control hC (Scheduler.updateBackgroundAdmission_controlOf cfg)
          (by decide) (by decide) (by unfold StopPhase; decide)
      | scheduleRenderJobs =>
        exact enterAfter_control hC
          (playControl_controlOf (Scheduler.scheduleRenderJobs_playControl cfg)) (by decide)
          (by decide) (by unfold StopPhase; decide)
      | dispatchPendingTiles =>
        exact enterAfter_control hC (scheduling_controlOf (Scheduler.dispatch_schedulingView
          (Scheduler.dispatchPendingTiles_dispatchView cfg refuses))) (by decide) (by decide)
          (by unfold StopPhase; decide)
      | pause => exact pause_control hC
      | returned => exact hidle _
  · exact triple_controlPure (P := fun c => ControlIdle c ∧ c.started = started)
      (Q := fun _ => ControlIdle) ControlIdle.kept fun c h => h.1

/-! ## Starting -/

/-- Nothing runs and nothing is queued. -/
structure Closed (c : Control) : Prop where
  started : c.started = false
  phase_eq : c.loop.phase = .stopped
  commands : c.commands.contents = []

/-- The scheduler is started and its loop does not run yet. -/
structure Opened (c : Control) : Prop extends Looping .stopped c where
  not_stopHandled : ¬ c.StopHandled

omit hC in
theorem Closed.kept : OwnerKept Closed := fun _ _ h hm =>
  ⟨hm.started.trans h.started, hm.phase.trans h.phase_eq,
    (hm.commands (.inl h.started)).trans h.commands⟩

omit hC in
theorem Opened.kept : OwnerKept Opened := fun _ _ h hm =>
  ⟨Looping.kept _ _ _ h.toLooping hm, fun hs => h.not_stopHandled (hm.stopHandled.mp hs)⟩

omit hC in
theorem Closed.idle {c : Control} (h : Closed c) : ControlIdle c where
  running hs := by
    rw [h.started] at hs
    cases hs
  stopped _ := h.commands

theorem schedulerStart_control :
    (controlContract C .scheduler).Triple (fun s : EngineState S => Closed (controlOf s))
      (Scheduler.start cfg) fun _ s => Opened (controlOf s) ∨ Closed (controlOf s) := by
  have hstable := controlContract_stable hC .scheduler
  have hpost : OwnerKept fun c => Opened c ∨ Closed c := Opened.kept.or Closed.kept
  refine Triple.bind hstable (triple_controlStill Closed.kept (Prog.preserves_read _)) fun _ =>
    triple_ite (fun _ => ?_) fun _ => ?_
  · refine Triple.bind hstable (triple_controlModify Closed.kept Closed.kept fun s hi h =>
      ⟨fun hn => ⟨hn, id⟩, { hi with }, { h with }⟩) fun _ => ?_
    refine Triple.bind hstable (triple_controlStill Closed.kept
      (Prog.preserves_modify fun _ => rfl)) fun _ => ?_
    refine Triple.bind hstable (triple_controlStill Closed.kept
      (Prog.preserves_modify fun _ => rfl)) fun _ => ?_
    refine Triple.bind hstable (triple_controlStill Closed.kept
      (PlaybackProtocol.currentFrame_playControl cfg)) fun _ => ?_
    refine Triple.bind hstable (triple_controlStill Closed.kept
      (Prog.preserves_modify fun _ => rfl)) fun _ => ?_
    refine triple_controlModify Closed.kept hpost fun s hi h => ⟨fun hn => ⟨hn, fun _ => rfl⟩, ?_, ?_⟩
    · exact ⟨List.nil_prefix, fun _ hmem => absurd hmem List.not_mem_nil, hi.paused⟩
    · refine .inl ⟨⟨rfl, h.phase_eq, ?_⟩, ?_⟩
      · show [] ++ s.commandQueue.contents = []
        exact h.commands
      · rintro ⟨_, hmem, -⟩
        cases hmem
  · exact triple_controlPure (Q := fun _ c => Opened c ∨ Closed c) hpost fun c h => .inr h

theorem engineStart_control :
    (controlContract C .scheduler).Triple (fun s : EngineState S => Closed (controlOf s))
      (Engine.start cfg) fun _ s => Opened (controlOf s) ∨ Closed (controlOf s) := by
  have hstable := controlContract_stable hC .scheduler
  have hpost : OwnerKept fun c => Opened c ∨ Closed c := Opened.kept.or Closed.kept
  refine Triple.bind hstable (triple_controlStill Closed.kept (Prog.preserves_read _)) fun _ =>
    triple_ite (fun _ => ?_) fun _ => ?_
  · refine Triple.bind hstable (triple_controlStill Closed.kept
      (Prog.preserves_modify fun _ => rfl)) fun _ => ?_
    refine Triple.bind hstable (triple_controlStill Closed.kept
      (Prog.preserves_modify fun _ => rfl)) fun _ => ?_
    refine Triple.bind hstable (triple_controlModify Closed.kept Closed.kept fun s hi h =>
      ⟨fun hn => ⟨hn, id⟩, { hi with paused := fun _ => rfl }, h⟩) fun _ => ?_
    refine Triple.bind hstable (triple_controlStill Closed.kept
      (worker_playControl Executor.start_workerView)) fun _ => ?_
    exact (schedulerStart_control hC).bind hstable fun _ =>
      triple_controlStill hpost (Prog.preserves_modify fun _ => rfl)
  · exact triple_controlPure (Q := fun _ c => Opened c ∨ Closed c) hpost fun c h => .inr h

/-- What `startLoop` knows when it is called. -/
structure BeforeStart (c : Control) : Prop extends ControlIdle c where
  not_started : c.loop.phase = .stopped → c.started = false

omit hC in
theorem BeforeStart.kept : OwnerKept BeforeStart := fun _ _ h hm =>
  ⟨ControlIdle.kept _ _ h.toControlIdle hm,
    fun hphase => hm.started.trans (h.not_started (hm.phase.symm.trans hphase))⟩

theorem startLoop_control {start : Prog (EngineState S) Unit}
    (hstart : (controlContract C .scheduler).Triple (fun s : EngineState S => Closed (controlOf s))
      start fun _ s => Opened (controlOf s) ∨ Closed (controlOf s)) :
    (controlContract C .scheduler).Triple (fun s : EngineState S => BeforeStart (controlOf s))
      (Owner.startLoop start) fun _ s => ControlIdle (controlOf s) := by
  have hstable := controlContract_stable hC .scheduler
  have hbefore : ∀ none : Bool, OwnerKept fun c => BeforeStart c ∧
      (none = true → c.loop.phase = .stopped) :=
    fun none => BeforeStart.kept.and fun c c' h hm hn => hm.phase.trans (h hn)
  have hafter : ∀ started : Bool, OwnerKept fun c => (Opened c ∨ Closed c) ∧ c.started = started :=
    fun started => (Opened.kept.or Closed.kept).and fun c c' h hm => hm.started.trans h
  refine (triple_controlRead BeforeStart.kept hbefore fun s h => ⟨h, fun hn => ?_⟩).bind hstable
    fun none => triple_ite (fun hn => ?_) fun _ => ?_
  · rw [decide_eq_true_eq] at hn
    show s.loop.phase = .stopped
    rw [hn]
  · refine Triple.bind hstable (hstart.conseq (fun s _ h => ?_) fun _ _ _ h => h) fun _ => ?_
    · have hphase := h.2 hn
      have hstarted := h.1.not_started hphase
      exact ⟨hstarted, hphase, h.1.stopped hstarted⟩
    · refine (triple_controlRead (Opened.kept.or Closed.kept) hafter
        fun s h => ⟨h, rfl⟩).bind hstable fun started => triple_ite (fun hs => ?_) fun hs => ?_
      · refine enter_control (hafter started) (by decide) (by decide) fun c h => ?_
        rcases h.1 with hopened | hclosed
        · have hstep : AtStep .condition { c with loop.phase := .condition } :=
            ⟨⟨hopened.started, rfl, hopened.fifo⟩,
              fun hstop => absurd hstop hopened.not_stopHandled,
              fun hstop => absurd hstop hopened.not_stopHandled⟩
          exact hstep.idle
        · rw [hs, hclosed.started] at h
          cases h.2
      · refine triple_controlPure (P := fun c => (Opened c ∨ Closed c) ∧ c.started = started)
          (Q := fun _ => ControlIdle) ControlIdle.kept fun c h => ?_
        rcases h.1 with hopened | hclosed
        · exact absurd (h.2.symm.trans hopened.started) hs
        · exact hclosed.idle
  · exact triple_controlPure (P := fun c => BeforeStart c ∧ (none = true → c.loop.phase = .stopped))
      (Q := fun _ => ControlIdle) ControlIdle.kept fun c h => h.1.toControlIdle

/-! ## Stopping -/

/-- The owner stops the scheduler, whose loop has ended, with at most so many commands queued. -/
structure Emptying (n : ℕ) (c : Control) : Prop where
  ended : c.Ended
  stopping : c.loop.stopping ≠ none
  length_le : c.commands.contents.length ≤ n

omit hC in
theorem Emptying.kept (n : ℕ) : OwnerKept (Emptying n) := by
  intro c c' h hm
  refine ⟨hm.ended.mpr h.ended, ?_, ?_⟩
  · rw [hm.stopping h.stopping]
    exact h.stopping
  · rw [hm.commands (.inr h.stopping)]
    exact h.length_le

theorem dropCommands_control (n : ℕ) :
    (controlContract C .scheduler).Triple (fun s : EngineState S => Emptying n (controlOf s))
      (Scheduler.dropCommands n) fun _ s => Emptying 0 (controlOf s) := by
  induction n with
  | zero => exact triple_controlPure (Q := fun _ => Emptying 0) (Emptying.kept 0) fun c h => h
  | succ n ih =>
    refine Triple.bind (controlContract_stable hC _) (triple_controlModify (Emptying.kept (n + 1))
      (Emptying.kept n) fun s hi h => ⟨fun hn => absurd hn h.stopping, { hi with }, ?_⟩)
      fun _ => ih
    refine ⟨h.ended, h.stopping, ?_⟩
    have hlength : s.commandQueue.contents.length ≤ n + 1 := h.length_le
    show s.commandQueue.pop.contents.length ≤ n
    rw [BoundedFifo.contents_pop, List.length_tail]
    omega

/-- The owner stops the scheduler, whose loop has ended. -/
structure StoppingIdle (c : Control) : Prop extends ControlIdle c where
  ended : c.Ended
  stopping : c.loop.stopping ≠ none

/-- The scheduler has stopped. -/
structure Emptied (c : Control) : Prop extends Emptying 0 c where
  started : c.started = false

omit hC in
theorem StoppingIdle.kept : OwnerKept StoppingIdle := by
  intro c c' h hm
  refine ⟨ControlIdle.kept _ _ h.toControlIdle hm, hm.ended.mpr h.ended, ?_⟩
  rw [hm.stopping h.stopping]
  exact h.stopping

omit hC in
theorem Emptied.kept : OwnerKept Emptied := fun _ _ h hm =>
  ⟨Emptying.kept 0 _ _ h.toEmptying hm, hm.started.trans h.started⟩

theorem schedulerStop_control :
    (controlContract C .scheduler).Triple (fun s : EngineState S => StoppingIdle (controlOf s))
      (Scheduler.stop cfg) fun _ s => Emptied (controlOf s) := by
  have hstable := controlContract_stable hC .scheduler
  have hstarted : ∀ started : Bool, OwnerKept fun c => StoppingIdle c ∧ c.started = started :=
    fun started => StoppingIdle.kept.and fun c c' h hm => hm.started.trans h
  refine (triple_controlRead StoppingIdle.kept hstarted fun s h => ⟨h, rfl⟩).bind hstable
    fun started => triple_ite (fun _ => ?_) fun hs => ?_
  · refine Triple.bind hstable (triple_controlModify (hstarted started) StoppingIdle.kept
      fun s hi h => ⟨fun hn => absurd hn h.1.stopping, { hi with }, ?_⟩) fun _ => ?_
    · refine ⟨⟨fun hrun => ?_, h.1.stopped⟩, h.1.ended, h.1.stopping⟩
      have hstep := h.1.running hrun
      exact ⟨⟨hrun, rfl, hstep.fifo⟩, fun _ => rfl, hstep.stop_phase⟩
    · refine Triple.bind hstable (triple_controlStill StoppingIdle.kept (Prog.preserves_read _))
        fun tiles => ?_
      refine Triple.bind hstable (triple_controlStill StoppingIdle.kept
        (scheduling_playControl
          (pending_schedulingView (Scheduler.dropPendingTiles_pendingView tiles)))) fun _ => ?_
      refine (triple_controlRead StoppingIdle.kept Emptying.kept
        fun s h => ⟨h.ended, h.stopping, le_rfl⟩).bind hstable fun n => ?_
      refine (dropCommands_control hC n).bind hstable fun _ => ?_
      refine Triple.bind hstable (triple_controlStill (Emptying.kept 0)
        (scheduling_playControl (pending_schedulingView (Scheduler.cancelAll_pendingView cfg)))) fun _ => ?_
      refine Triple.bind hstable (triple_controlStill (Emptying.kept 0)
        (Prog.preserves_modify fun _ => rfl)) fun _ => ?_
      exact triple_controlModify (Emptying.kept 0) Emptied.kept fun s hi h =>
        ⟨fun hn => absurd hn h.stopping, { hi with }, ⟨⟨h.ended, h.stopping, h.length_le⟩, rfl⟩⟩
  · refine triple_controlPure (P := fun c => StoppingIdle c ∧ c.started = started)
      (Q := fun _ => Emptied) Emptied.kept fun c h => ?_
    have hstopped : c.started = false := h.2.trans (by simpa using hs)
    refine ⟨⟨h.1.ended, h.1.stopping, ?_⟩, hstopped⟩
    rw [h.1.stopped hstopped]
    exact le_rfl

theorem cleanUp_control (scope : StopScope) :
    (controlContract C .scheduler).Triple (fun s : EngineState S => StoppingIdle (controlOf s))
      (Owner.cleanUp cfg scope) fun _ s => Emptied (controlOf s) := by
  cases scope with
  | scheduler => exact schedulerStop_control hC
  | engine =>
    refine (schedulerStop_control hC).bind (controlContract_stable hC _) fun _ => ?_
    refine Triple.bind (controlContract_stable hC _) (triple_controlStill Emptied.kept
      (worker_playControl Executor.stop_workerView)) fun _ => ?_
    exact triple_controlStill Emptied.kept (Prog.preserves_modify fun _ => rfl)

theorem finishStop_control :
    (controlContract C .scheduler).Triple (fun s : EngineState S => ControlIdle (controlOf s))
      (Owner.finishStop cfg) fun _ s => ControlIdle (controlOf s) := by
  have hstable := controlContract_stable hC .scheduler
  have hread : ∀ loop : LoopState, OwnerKept fun c => ControlIdle c ∧
      c.loop.phase = loop.phase ∧ (loop.stopping ≠ none → c.loop.stopping = loop.stopping) := by
    intro loop c c' h hm
    refine ⟨ControlIdle.kept _ _ h.1 hm, hm.phase.trans h.2.1, fun hn => ?_⟩
    have hstopping := h.2.2 hn
    exact (hm.stopping (hstopping ▸ hn)).trans hstopping
  refine (triple_controlRead ControlIdle.kept hread fun s h => ⟨h, rfl, fun _ => rfl⟩).bind hstable
    fun loop => triple_ite (fun hphase => ?_) fun _ => ?_
  · rcases hstopping : loop.stopping with - | scope
    · exact triple_controlPure (P := fun c => ControlIdle c ∧ c.loop.phase = loop.phase ∧
        (none ≠ none → c.loop.stopping = none))
        (Q := fun _ => ControlIdle) ControlIdle.kept fun c h => h.1
    · refine Triple.bind hstable ((cleanUp_control hC scope).conseq (fun s _ h => ?_)
        fun _ _ _ h => h) fun _ => ?_
      · refine ⟨h.1, ?_, ?_⟩
        · unfold Control.Ended
          rw [h.2.1]
          exact hphase.symm
        · rw [h.2.2 (Option.some_ne_none scope)]
          exact Option.some_ne_none scope
      · refine triple_controlModify Emptied.kept ControlIdle.kept fun s hi h =>
          ⟨fun hn => absurd hn h.stopping, { hi with paused := fun _ => hi.paused h.ended }, ?_⟩
        refine ⟨fun hs => absurd (hs.symm.trans h.started) (by decide), fun _ => ?_⟩
        exact List.length_eq_zero_iff.mp (Nat.le_zero.mp h.length_le)
  · exact triple_controlPure (P := fun c => ControlIdle c ∧ c.loop.phase = loop.phase ∧
      (loop.stopping ≠ none → c.loop.stopping = loop.stopping))
      (Q := fun _ => ControlIdle) ControlIdle.kept fun c h => h.1

end

end Anasa
