import Anasa.Scheduling.PlanDispatch
import Anasa.Scheduling.PlanScheduling

/-!
# The plan in every run

The steps of the loop and the calls of the owner keep the plan, so `PlanInv` holds in every
reachable state, and `PlanIdle` whenever the scheduler is between two calls.
-/

namespace Anasa

open Concurrency Contract PriorityQueue

variable {S : Type} {cfg : Config} {kernel : RenderKernel S}

/-! ## The loop -/

/-- Between two calls of a running scheduler. -/
structure AtPhase (cfg : Config) (phase : LoopPhase) (p : Plan) : Prop where
  idle : PlanIdle cfg p
  started : p.sched.started = true
  phase : p.phase = phase

theorem AtPhase.planned {phase : LoopPhase} {p : Plan} (h : AtPhase cfg phase p)
    (hphase : phase ≠ .returned) : Planned cfg phase p :=
  ⟨⟨h.started, h.phase, h.idle.buffer⟩, fun hpolicy =>
    h.idle.fresh hpolicy (h.phase ▸ hphase) (h.idle.started.mp h.started)⟩

/-- A step of the loop that returns at once. -/
theorem returned_plan (phase : LoopPhase) :
    (planContract cfg kernel).Triple (fun s : EngineState S => AtPhase cfg phase (planOf s))
      (pure () : Prog (EngineState S) Unit) fun _ s => PlanIdle cfg (planOf s) :=
  triple_planPure (Q := fun _ => PlanIdle cfg) fun _ _ h => h.idle

/-- The loop pauses playback and returns. -/
theorem pauseStep_plan :
    (planContract cfg kernel).Triple (fun s : EngineState S => AtPhase cfg .pause (planOf s))
      (PlaybackController.pause >>= fun _ => SchedulerLoop.enter .returned)
      fun _ s => PlanIdle cfg (planOf s) := by
  have hpause : (planContract cfg kernel).Triple
      (fun s : EngineState S => AtPhase cfg .pause (planOf s)) PlaybackController.pause
      fun _ s => InLoop .pause (planOf s) :=
    triple_owned_atomically (AtPhase cfg .pause) (fun _ => InLoop .pause) fun s _ hi h =>
      ⟨.of_eq rfl rfl rfl, { hi with }, h.started, h.phase, h.idle.buffer⟩
  refine hpause.bind (planContract_stable cfg kernel) fun _ => enter_plan fun p h => ?_
  exact {
    buffer := h.buffer
    started := iff_of_true h.started LoopPhase.noConfusion
    fresh := fun _ hphase _ => absurd rfl hphase
    scheduled := fun _ hphase => by cases hphase
    dispatched := fun hphase => by cases hphase }

section

variable [Zero S]

theorem schedulingStep_plan (hcfg : cfg.Valid) :
    (planContract cfg kernel).Triple
      (fun s : EngineState S => AtPhase cfg .scheduleRenderJobs (planOf s))
      (Scheduler.scheduleRenderJobs cfg >>= fun _ => SchedulerLoop.enter .dispatchPendingTiles)
      fun _ s => PlanIdle cfg (planOf s) := by
  refine ((scheduleRenderJobs_plan hcfg).conseq (fun s _ h => AtPhase.planned h (by decide))
    fun _ _ _ h => h).bind (planContract_stable cfg kernel) fun _ =>
      enter_plan (P := fun p => ∃ frame, Scheduled cfg frame p) fun p h => ?_
  obtain ⟨frame, h⟩ := h
  have hfresh : cfg.scheduler.policyType = .priority →
      FreshLabels cfg { p with phase := .dispatchPendingTiles } := fun hpolicy =>
    (h.fresh hpolicy).of_eq rfl rfl rfl rfl rfl rfl rfl fun _ ht => ht
  exact {
    buffer := h.buffer
    started := iff_of_true h.started LoopPhase.noConfusion
    fresh := fun hpolicy _ _ => .inr (hfresh hpolicy)
    scheduled := fun hpolicy _ => hfresh hpolicy
    dispatched := fun hphase => by cases hphase }

theorem step_plan (hcfg : cfg.Valid) (refuses : ℕ → Bool) (phase : LoopPhase) :
    (planContract cfg kernel).Triple (fun s : EngineState S => AtPhase cfg phase (planOf s))
      (SchedulerLoop.step cfg refuses phase) fun _ s => PlanIdle cfg (planOf s) := by
  have hstable := planContract_stable cfg kernel (S := S)
  have hplanned : ∀ {phase : LoopPhase}, phase ≠ .returned → ∀ s : EngineState S,
      PlanInv cfg (planOf s) → AtPhase cfg phase (planOf s) → Planned cfg phase (planOf s) :=
    fun hphase s _ h => h.planned hphase
  cases phase with
  | stopped => exact returned_plan _
  | condition =>
    exact (enterUnlessShutdown_plan (fun p h => h.idle (by decide) (by decide) (by decide))
      fun p h => h.idle (by decide) (by decide) (by decide)).conseq (hplanned (by decide))
      fun _ _ _ h => h
  | readCommands => exact (readCommands_plan hcfg).conseq (hplanned (by decide)) fun _ _ _ h => h
  | breakCheck =>
    exact (enterUnlessShutdown_plan (fun p h => h.idle (by decide) (by decide) (by decide))
      fun p h => h.idle (by decide) (by decide) (by decide)).conseq (hplanned (by decide))
      fun _ _ _ h => h
  | collectFinishedJobs =>
    exact collectFinishedJobs_plan.conseq (hplanned (by decide)) fun _ _ _ h => h
  | feedAudioQueue =>
    exact (feedAudioQueue_plan.bind hstable fun _ => enter_plan fun p h =>
      h.idle (by decide) (by decide) (by decide)).conseq (hplanned (by decide)) fun _ _ _ h => h
  | updateBackgroundAdmission =>
    exact ((updateBackgroundAdmission_plan _).bind hstable fun _ => enter_plan fun p h =>
      h.idle (by decide) (by decide) (by decide)).conseq (hplanned (by decide)) fun _ _ _ h => h
  | scheduleRenderJobs => exact schedulingStep_plan hcfg
  | dispatchPendingTiles =>
    refine ((dispatchPendingTiles_plan refuses).bind hstable fun _ =>
      enter_plan fun p h => h.idle).conseq (fun s _ h => ⟨?_, fun hpolicy => ?_⟩) fun _ _ _ h => h
    · exact ⟨h.started, h.phase, h.idle.buffer⟩
    · exact h.idle.scheduled hpolicy h.phase
  | pause => exact pauseStep_plan
  | returned => exact returned_plan _

theorem schedulerLoop_plan (hcfg : cfg.Valid) (refuses : ℕ → Bool) :
    (planContract cfg kernel).Triple (fun s : EngineState S => PlanIdle cfg (planOf s))
      (SchedulerLoop.run cfg refuses) fun _ s => PlanIdle cfg (planOf s) := by
  have hstable := planContract_stable cfg kernel (S := S)
  refine Triple.bind hstable (triple_planRead (PlanIdle cfg)
    (fun started p => PlanIdle cfg p ∧ p.sched.started = started) fun s _ _ h => ⟨h, rfl⟩)
    fun started => triple_ite (fun hs => ?_) fun _ => ?_
  · refine Triple.bind hstable ((triple_planRead
      (fun p => PlanIdle cfg p ∧ p.sched.started = started)
      (fun phase p => (PlanIdle cfg p ∧ p.sched.started = started) ∧ p.phase = phase)
      fun s _ _ h => ⟨h, rfl⟩)) fun phase => ?_
    exact (step_plan hcfg refuses phase).conseq (fun s _ h => ⟨h.1.1, h.1.2.trans hs, h.2⟩)
      fun _ _ _ h => h
  · exact triple_planPure (P := fun p => PlanIdle cfg p ∧ p.sched.started = started)
      (Q := fun _ => PlanIdle cfg) fun _ _ h => h.1

end

/-! ## Starting -/

/-- There is no thread, and nothing is left of the last session. -/
structure Halted (p : Plan) : Prop where
  started : p.sched.started = false
  phase : p.phase = .stopped
  buffer : p.buffer = []
  pendingTiles : p.pendingTiles = []
  activeJobs : ∀ c, p.activeJobs c = none

/-- The scheduler is started, and the loop not yet entered. -/
structure Starting (p : Plan) : Prop where
  started : p.sched.started = true
  buffer : p.buffer = []
  pendingTiles : p.pendingTiles = []
  dirty : p.sched.pendingClassificationsDirty = true

/-- Between two calls, with nothing started. -/
theorem PlanIdle.of_stopped {p : Plan} (hbuffer : p.buffer = []) (hstarted : p.sched.started = false)
    (hphase : p.phase = .stopped) : PlanIdle cfg p where
  buffer := hbuffer
  started := iff_of_false (by simp [hstarted]) (not_not.mpr hphase)
  fresh _ _ h := absurd hphase h
  scheduled _ h := by rw [hphase] at h; cases h
  dispatched h := by rw [hphase] at h; cases h

theorem Starting.idle {p : Plan} (h : Starting p) :
    PlanIdle cfg { p with phase := .condition } where
  buffer := h.buffer
  started := iff_of_true h.started LoopPhase.noConfusion
  fresh _ _ _ := .inl h.dirty
  scheduled _ hphase := by cases hphase
  dispatched _ t ht := by
    rw [show p.pendingTiles = [] from h.pendingTiles] at ht
    exact absurd ht List.not_mem_nil

/-- The scheduler resets what it remembers of the last session. -/
def resetSession (s : EngineState S) : EngineState S :=
  { s with
    sched := { s.sched with
      backgroundAllowed := true
      pendingClassificationsDirty := true
      lastClassifiedPlayheadChunk := -1
      lastClassifiedUrgentChunkEnd := -1 }
    schedulingHistory := s.schedulingHistory.observe .reset }

theorem schedulerStart_plan :
    (planContract cfg kernel).Triple (fun s : EngineState S => Halted (planOf s))
      (Scheduler.start cfg) fun _ s => Starting (planOf s) := by
  have hstable := planContract_stable cfg kernel (S := S)
  have hrequest : (planContract cfg kernel).Triple (fun s : EngineState S => Halted (planOf s))
      PlaybackController.resetPlayRequest fun _ s => Halted (planOf s) :=
    triple_planModify Halted Halted (fun _ => ⟨rfl, rfl, rfl⟩) fun s _ hi h =>
      ⟨{ hi with }, { h with }⟩
  have hreset : (planContract cfg kernel).Triple (fun s : EngineState S => Halted (planOf s))
      (.modify resetSession) fun _ s =>
        Halted (planOf s) ∧ (planOf s).sched.pendingClassificationsDirty = true :=
    triple_planModify Halted (fun p => Halted p ∧ p.sched.pendingClassificationsDirty = true)
      (fun _ => ⟨rfl, rfl, rfl⟩) fun s _ hi h =>
        ⟨{ hi with gate := rfl, fifo := fun _ => rfl }, { h with }, rfl⟩
  refine Triple.bind hstable (triple_planRead Halted
    (fun started p => Halted p ∧ started = false) fun s _ _ h => ⟨h, h.started⟩)
    fun started => triple_ite (fun _ => ?_) fun hs => ?_
  · refine Triple.conseq ?_ (fun s _ h => h.1) fun _ _ _ h => h
    refine triple_planFrame_bind (Prog.preserves_modify fun _ => rfl) fun _ =>
      hrequest.bind hstable fun _ => hreset.bind hstable fun _ => ?_
    refine triple_planFrame_bind (P := fun p => Halted p ∧ p.sched.pendingClassificationsDirty =
      true) (publishing_planOf (PlaybackProtocol.currentFrame_publishingView cfg)) fun frame =>
        triple_planFrame_bind (P := fun p => Halted p ∧ p.sched.pendingClassificationsDirty = true)
          (publishing_planOf (TimelineAudioPublisher.reset_publishingView frame)) fun _ => ?_
    refine triple_planModify (fun p => Halted p ∧ p.sched.pendingClassificationsDirty = true)
      Starting (fun _ => ⟨rfl, rfl, rfl⟩) fun s _ hi h => ⟨?_, ?_⟩
    · refine { hi with registered := fun c j hj => ?_, firstJob_le := le_rfl }
      have hj' : s.render.activeJobs c = some j := hj
      rw [show s.render.activeJobs c = none from h.1.activeJobs c] at hj'
      cases hj'
    · exact ⟨rfl, h.1.buffer, h.1.pendingTiles, h.2⟩
  · exact triple_planPure (P := fun p => Halted p ∧ started = false) (Q := fun _ => Starting)
      fun p _ h => absurd h.2 (by simpa using hs)

theorem engineStart_plan :
    (planContract cfg kernel).Triple (fun s : EngineState S => Halted (planOf s))
      (Engine.start cfg) fun _ s => Starting (planOf s) ∨ Halted (planOf s) := by
  refine triple_planFrame_bind (Prog.preserves_read _) fun _ => triple_ite (fun _ => ?_) fun _ =>
    triple_planPure (Q := fun _ p => Starting p ∨ Halted p) fun _ _ h => .inr h
  refine triple_planFrame_bind (Prog.preserves_modify fun _ => rfl) fun _ =>
    triple_planFrame_bind (Prog.preserves_modify fun _ => rfl) fun _ =>
      triple_planFrame_bind (Prog.preserves_modify fun _ => rfl) fun _ =>
        triple_planFrame_bind (worker_planOf Executor.start_workerView) fun _ => ?_
  exact schedulerStart_plan.bind (planContract_stable cfg kernel) fun _ =>
    triple_planModify Starting (fun p => Starting p ∨ Halted p) (fun _ => ⟨rfl, rfl, rfl⟩)
      fun s _ hi h => ⟨{ hi with }, .inl { h with }⟩

/-- What `startLoop` knows when it is called. -/
structure BetweenCalls (cfg : Config) (p : Plan) : Prop where
  idle : PlanIdle cfg p
  stopped : p.sched.started = false → p.pendingTiles = [] ∧ ∀ c, p.activeJobs c = none

theorem startLoop_plan {start : Prog (EngineState S) Unit}
    (hstart : (planContract cfg kernel).Triple (fun s : EngineState S => Halted (planOf s)) start
      fun _ s => Starting (planOf s) ∨ Halted (planOf s)) :
    (planContract cfg kernel).Triple (fun s : EngineState S => BetweenCalls cfg (planOf s))
      (Owner.startLoop start) fun _ s => PlanIdle cfg (planOf s) := by
  have hstable := planContract_stable cfg kernel (S := S)
  refine Triple.bind hstable (triple_planRead (BetweenCalls cfg)
    (fun none p => BetweenCalls cfg p ∧ (none = true → p.phase = .stopped))
    fun s _ _ h => ⟨h, fun hn => ?_⟩) fun none => triple_ite (fun hn => ?_) fun _ => ?_
  · rw [decide_eq_true_eq] at hn
    show s.loop.phase = .stopped
    rw [hn]
  · refine Triple.bind hstable (hstart.conseq (fun s _ h => ?_) fun _ _ _ h => h) fun _ => ?_
    · have hphase := h.2 hn
      have hstarted : (planOf s).sched.started = false := by
        have hiff := h.1.idle.started
        rw [hphase] at hiff
        simpa using hiff
      exact ⟨hstarted, hphase, h.1.idle.buffer, (h.1.stopped hstarted).1,
        (h.1.stopped hstarted).2⟩
    · refine Triple.bind hstable (triple_planRead (fun p => Starting p ∨ Halted p)
        (fun started p => (Starting p ∨ Halted p) ∧ p.sched.started = started)
        fun s _ _ h => ⟨h, rfl⟩) fun started => triple_ite (fun hs => ?_) fun hs => ?_
      · refine enter_plan (P := fun p => (Starting p ∨ Halted p) ∧ p.sched.started = started)
          fun p h => ?_
        rcases h.1 with hstarting | hhalted
        · exact hstarting.idle
        · rw [hs, hhalted.started] at h
          cases h.2
      · refine triple_planPure (P := fun p => (Starting p ∨ Halted p) ∧ p.sched.started = started)
          (Q := fun _ => PlanIdle cfg) fun p _ h => ?_
        rcases h.1 with hstarting | hhalted
        · exact absurd (h.2.symm.trans hstarting.started) hs
        · exact .of_stopped hhalted.buffer hhalted.started hhalted.phase
  · exact triple_planPure (P := fun p => BetweenCalls cfg p ∧ (none = true → p.phase = .stopped))
      (Q := fun _ => PlanIdle cfg) fun _ _ h => h.1.idle

/-! ## Stopping -/

/-- The scheduler stops, with at most so many pending tiles left. -/
structure Dropping (n : ℕ) (p : Plan) : Prop where
  buffer : p.buffer = []
  length_le : p.pendingTiles.length ≤ n

theorem dropPendingTile_planOf (s : EngineState S) :
    planOf { s with render := Scheduler.dropPendingTile s.render } =
      { planOf s with pendingTiles := (planOf s).pendingTiles.tail } := by
  have horigins := Scheduler.dropPendingTile_origins s.render
  rw [Scheduler.dropPendingTile_eq]
  simp only [planOf, horigins]

theorem dropPendingTiles_plan (n : ℕ) :
    (planContract cfg kernel).Triple (fun s : EngineState S => Dropping n (planOf s))
      (Scheduler.dropPendingTiles n) fun _ s => Dropping 0 (planOf s) := by
  induction n with
  | zero => exact triple_planPure (Q := fun _ => Dropping 0) fun _ _ h => h
  | succ n ih =>
    refine Triple.bind (planContract_stable cfg kernel) ?_ fun _ => ih
    refine triple_owned_modify (Dropping (n + 1)) (Dropping n) fun s _ hi h => ?_
    rw [dropPendingTile_planOf]
    have hlength : (planOf s).pendingTiles.length ≤ n + 1 := h.length_le
    refine ⟨.of_subperm ((List.tail_sublist _).append_right _).subperm rfl,
      { hi with queue := hi.queue.pop }, h.buffer, ?_⟩
    simp only [List.length_tail]
    omega

theorem dropCommands_planOf (n : ℕ) :
    (Scheduler.dropCommands n : Prog (EngineState S) Unit).Preserves planOf := by
  induction n with
  | zero => exact Prog.preserves_pure _
  | succ n ih => exact Prog.preserves_modify_bind (fun _ => rfl) fun _ => ih

theorem cancelAll_plan (n : ℕ) :
    (planContract cfg kernel).Triple (fun s : EngineState S => Dropping n (planOf s))
      (Scheduler.cancelAll cfg) fun _ s => Dropping n (planOf s) := by
  refine triple_forEach (planContract_stable cfg kernel) (kept_owned _) fun chunk _ => ?_
  refine triple_owned_modify (Dropping n) (Dropping n) fun s _ hi h => ?_
  have hplan : planOf { s with render := ActiveRenderJobs.cancelAndReset chunk s.render } =
      { planOf s with activeJobs := Function.update (planOf s).activeJobs chunk none } := by
    have horigins := ActiveRenderJobs.cancelAndReset_origins chunk s.render
    have hactive := ActiveRenderJobs.cancelAndReset_activeJobs chunk s.render
    rw [ActiveRenderJobs.cancelAndReset_eq]
    simp only [planOf, horigins, hactive]
  rw [hplan]
  refine ⟨.of_eq rfl rfl rfl, { hi with registered := fun c j hj => ?_ }, h.buffer, h.length_le⟩
  dsimp only at hj
  rw [Function.update_apply] at hj
  split at hj
  · cases hj
  · exact hi.registered c j hj

/-- Nothing runs; the phase may still be the last one of the loop. -/
structure Finished (p : Plan) : Prop where
  buffer : p.buffer = []
  started : p.sched.started = false

theorem Finished.idle {p : Plan} (h : Finished p) : PlanIdle cfg { p with phase := .stopped } :=
  .of_stopped h.buffer h.started rfl

theorem schedulerStop_plan :
    (planContract cfg kernel).Triple (fun s : EngineState S => PlanIdle cfg (planOf s))
      (Scheduler.stop cfg) fun _ s => Finished (planOf s) := by
  have hstable := planContract_stable cfg kernel (S := S)
  refine Triple.bind hstable (triple_planRead (PlanIdle cfg)
    (fun started p => PlanIdle cfg p ∧ p.sched.started = started) fun s _ _ h => ⟨h, rfl⟩)
    fun started => triple_ite (fun _ => ?_) fun hs => ?_
  · refine Triple.conseq ?_ (fun s _ h => h.1) fun _ _ _ h => h
    refine triple_planFrame_bind (Prog.preserves_modify fun _ => rfl) fun _ => ?_
    refine Triple.bind hstable (triple_planRead (PlanIdle cfg) Dropping
      fun s _ _ h => ⟨h.buffer, le_rfl⟩) fun n => ?_
    refine (dropPendingTiles_plan n).bind hstable fun _ =>
      triple_planFrame_bind (Prog.preserves_read _) fun commands =>
        triple_planFrame_bind (dropCommands_planOf commands) fun _ =>
          (cancelAll_plan 0).bind hstable fun _ => ?_
    refine Triple.bind hstable (triple_planModify (Dropping 0) (Dropping 0)
      (fun _ => ⟨rfl, rfl, rfl⟩) fun s _ hi h => ⟨{ hi with }, { h with }⟩) fun _ => ?_
    refine triple_planModify (Dropping 0) Finished (fun _ => ⟨rfl, rfl, rfl⟩)
      fun s _ hi h => ⟨?_, h.buffer, rfl⟩
    have hpending : s.render.pendingTiles = [] :=
      List.length_eq_zero_iff.mp (Nat.le_zero.mp h.length_le)
    have hbuffer : s.render.reclassificationBuffer = [] := h.buffer
    have hle := hi.queue.length_le
    have hqueue : PendingInv cfg s.render.pendingTiles s.render.reclassificationBuffer 0 := by
      rw [hpending, hbuffer]
      exact .nil (by omega) 0
    exact { hi with
      queue := hqueue
      cursor := ⟨le_rfl, lt_of_le_of_lt hi.cursor.1 hi.cursor.2⟩
      gate := rfl
      fifo := fun _ => rfl }
  · exact triple_planPure (P := fun p => PlanIdle cfg p ∧ p.sched.started = started)
      (Q := fun _ => Finished) fun p _ h => ⟨h.1.buffer, h.2.trans (by simpa using hs)⟩

theorem cleanUp_plan (scope : StopScope) :
    (planContract cfg kernel).Triple (fun s : EngineState S => PlanIdle cfg (planOf s))
      (Owner.cleanUp cfg scope) fun _ s => Finished (planOf s) := by
  cases scope with
  | scheduler => exact schedulerStop_plan
  | engine =>
    exact schedulerStop_plan.bind (planContract_stable cfg kernel) fun _ =>
      triple_planFrame_bind (worker_planOf Executor.stop_workerView) fun _ =>
        triple_planFrame (Prog.preserves_modify fun _ => rfl) _

theorem finishStop_plan :
    (planContract cfg kernel).Triple (fun s : EngineState S => PlanIdle cfg (planOf s))
      (Owner.finishStop cfg) fun _ s => PlanIdle cfg (planOf s) := by
  refine triple_planFrame_bind (Prog.preserves_read _) fun loop => triple_ite (fun _ => ?_)
    fun _ => triple_planPure (Q := fun _ => PlanIdle cfg) fun _ _ h => h
  rcases loop.stopping with - | scope
  · exact triple_planPure (Q := fun _ => PlanIdle cfg) fun _ _ h => h
  · exact (cleanUp_plan scope).bind (planContract_stable cfg kernel) fun _ =>
      triple_planModify Finished (PlanIdle cfg) (fun _ => ⟨rfl, rfl, rfl⟩) fun s _ hi h =>
        ⟨hi.enter .stopped, h.idle⟩

/-! ## Every run -/

/-- What the owner stores and posts is not part of the plan. -/
theorem requestStop_planOf (scope : StopScope) :
    (Owner.requestStop scope : Prog (EngineState S) Unit).Preserves planOf := by
  refine Prog.preserves_read_bind fun _ => Prog.preserves_ite ?_ (Prog.preserves_pure _)
  cases scope with
  | scheduler =>
    exact Prog.preserves_read_bind fun _ =>
      Prog.preserves_ite (Prog.preserves_modify fun _ => rfl) (Prog.preserves_pure _)
  | engine =>
    exact Prog.preserves_read_bind fun _ => Prog.preserves_ite
      (Prog.preserves_modify_bind (fun _ => rfl) fun _ => Prog.preserves_modify_bind
        (fun _ => rfl) fun _ => Prog.preserves_modify fun _ => rfl) (Prog.preserves_pure _)

theorem post_planOf (command : Command) :
    (Owner.post command : Prog (EngineState S) Unit).Preserves planOf := by
  refine Prog.preserves_read_bind fun _ => Prog.preserves_ite ?_ (Prog.preserves_pure _)
  refine Prog.Preserves.bind ?_ fun _ => Prog.preserves_pure _
  refine Prog.preserves_read_bind fun _ => Prog.preserves_ite (Prog.preserves_pure _) <|
    Prog.preserves_read_bind fun _ => Prog.preserves_ite (Prog.preserves_pure _) <|
      Prog.preserves_read_bind fun _ => Prog.preserves_ite (Prog.preserves_pure _) <|
        Prog.preserves_atomically fun s => ?_
  dsimp only
  split <;> rfl

variable [Zero S]

theorem PlanInv.init (cfg : AcceptedConfig) :
    PlanInv cfg (planOf (.init cfg : EngineState S)) := by
  have hcfg := cfg.valid
  have hrate := cfg.sampleRate_pos
  have htotal := hcfg.totalFrames_pos
  have hmax := hcfg.maxPendingTiles_ge
  have htiles := tilesPerChunk_eq
  refine {
    queue := .nil (by omega) 0
    viewport := ?_
    cursor := ⟨le_rfl, ?_⟩
    gate := rfl
    fifo := fun _ => rfl
    submissions := fun sub hsub => absurd hsub List.not_mem_nil
    registered := fun c j hj => by cases hj
    firstJob_le := le_rfl }
  · dsimp only [planOf, EngineState.init]
    split <;> omega
  · show (0 : Int) < cfg.chunkCount
    have hcount := hcfg.chunkCount_eq
    simp only [chunkFrames] at hcount
    omega

/-- The plan in the machine of sessions. -/
def planLayer (hcfg : cfg.Valid) (kernel : RenderKernel S) :
    Layer (sessionDiscipline cfg kernel) :=
  Layer.owned (sessionDiscipline cfg kernel) .scheduler planOf (PlanInv cfg) (PlanIdle cfg)
    (PlanStep cfg)
    (fun call hother => by
      cases call with
      | schedulerLoop refuses => exact absurd rfl hother
      | schedulerStart => exact absurd rfl hother
      | engineStart => exact absurd rfl hother
      | executorStart => exact absurd rfl hother
      | executorStop => exact absurd rfl hother
      | requestStop scope => exact requestStop_planOf scope
      | finishStop => exact absurd rfl hother
      | post command => exact post_planOf command
      | processBlock output => exact callback_planOf (recordedCallback_callbackView cfg output)
      | workerLoop worker faults =>
        exact worker_planOf (Executor.workerLoop_workerView cfg kernel faults worker))
    fun call hcall s _ hidle hinv h => by
      have hbetween : BetweenCalls cfg (planOf s) :=
        ⟨h, fun hs => SchedulerIdle.stopped (show SchedulerIdle s from hidle) hs⟩
      cases call with
      | schedulerLoop refuses => exact schedulerLoop_plan hcfg refuses s hinv h
      | schedulerStart =>
        exact startLoop_plan (schedulerStart_plan.conseq (fun _ _ h => h)
          fun _ _ _ h => .inl h) s hinv hbetween
      | engineStart => exact startLoop_plan engineStart_plan s hinv hbetween
      | executorStart =>
        exact triple_planFrame (worker_planOf Executor.start_workerView) (PlanIdle cfg) s hinv h
      | executorStop =>
        exact triple_planFrame (worker_planOf Executor.stop_workerView) (PlanIdle cfg) s hinv h
      | requestStop scope => cases hcall
      | finishStop => exact finishStop_plan s hinv h
      | post command => cases hcall
      | processBlock output => cases hcall
      | workerLoop worker faults => cases hcall

theorem planIdle_init (cfg : Config) : PlanIdle cfg (planOf (.init cfg : EngineState S)) :=
  .of_stopped rfl rfl rfl

variable (cfg : AcceptedConfig) (kernel : RenderKernel S) (moves : List (SessionMove S))

/-- **The plan.** Every run of sessions keeps the plan. -/
theorem planLayer_sound :
    (planLayer cfg.valid kernel).discipline.Sound (sessionRun cfg kernel moves) := by
  have hinit : (planLayer cfg.valid kernel).discipline.Sound
      (Pool.idle (EngineState.init cfg.toConfig)) :=
    ⟨⟨RenderInv.init cfg kernel, PlanInv.init cfg⟩, fun i =>
      ⟨renderIdle_init cfg.toConfig i, fun _ => planIdle_init cfg.toConfig⟩⟩
  exact hinit.run moves

theorem sessionRun_planInv : PlanInv cfg (planOf (sessionRun cfg kernel moves).state) :=
  (planLayer_sound cfg kernel moves).inv.2

variable {cfg kernel moves}

theorem sessionRun_planIdle (h : (sessionRun cfg kernel moves).thread .scheduler = none) :
    PlanIdle cfg (planOf (sessionRun cfg kernel moves).state) := by
  have hs := (planLayer_sound cfg kernel moves).thread .scheduler
  rw [h] at hs
  exact hs.2 rfl

end Anasa
