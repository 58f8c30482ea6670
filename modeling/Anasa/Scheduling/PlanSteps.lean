import Anasa.Rendering.SessionDiscipline
import Anasa.Scheduling.Queue

/-!
# The scheduler keeps its plan

The contract of the plan, and the calls of the scheduler that change no pending tile: commands,
completions, publishing and the gate.
-/

namespace Anasa

open Concurrency Contract PriorityQueue

variable {S : Type} {cfg : Config} {kernel : RenderKernel S}

/-- The rendering contract with the invariant of the plan on top. -/
def planContract (cfg : Config) (kernel : RenderKernel S) : Contract (EngineState S) :=
  (renderContract cfg kernel .scheduler).owning planOf (PlanInv cfg) (PlanStep cfg)

theorem planContract_stable (cfg : Config) (kernel : RenderKernel S) :
    (planContract cfg kernel).Stable := (renderContract_stable cfg kernel .scheduler).owning

/-! ## Steps -/

/-- A step that moves no tile and makes no job. -/
theorem PlanStep.of_eq {p p' : Plan} (hpending : p'.pendingTiles = p.pendingTiles)
    (hbuffer : p'.buffer = p.buffer) (horigins : p'.origins = p.origins) : PlanStep cfg p p' := by
  refine .inl ⟨?_, congrArg Prod.fst horigins⟩
  rw [Plan.waiting, Plan.waiting, hpending, hbuffer]

theorem PlanStep.refl (p : Plan) : PlanStep cfg p p := .of_eq rfl rfl rfl

/-- A step of waiting tiles only. -/
theorem PlanStep.of_subperm {p p' : Plan} (h : p'.waiting.Subperm p.waiting)
    (horigins : p'.origins = p.origins) : PlanStep cfg p p' :=
  .inl ⟨h.elim fun _ hl => ⟨_, hl.1.map _, hl.2.map _⟩, congrArg Prod.fst horigins⟩

/-- An access that moves no tile and makes no job. -/
theorem triple_planModify {f : EngineState S → EngineState S} (P Q : Plan → Prop)
    (hsame : ∀ s, (planOf (f s)).pendingTiles = (planOf s).pendingTiles ∧
      (planOf (f s)).buffer = (planOf s).buffer ∧ (planOf (f s)).origins = (planOf s).origins)
    (h : ∀ s, RenderInv cfg kernel s.render → PlanInv cfg (planOf s) → P (planOf s) →
      PlanInv cfg (planOf (f s)) ∧ Q (planOf (f s))) :
    (planContract cfg kernel).Triple (fun s => P (planOf s)) (.modify f)
      fun _ s => Q (planOf s) :=
  triple_owned_modify P Q fun s hi hp hP =>
    ⟨.of_eq (hsame s).1 (hsame s).2.1 (hsame s).2.2, h s hi hp hP⟩

theorem triple_planFrame {α : Type} {p : Prog (EngineState S) α} (hp : p.Preserves planOf)
    (P : Plan → Prop) :
    (planContract cfg kernel).Triple (fun s => P (planOf s)) p fun _ s => P (planOf s) :=
  triple_owned_frame PlanStep.refl hp P

theorem triple_planFrame_bind {α β : Type} {p : Prog (EngineState S) α}
    {g : α → Prog (EngineState S) β} {P : Plan → Prop} {Q : β → EngineState S → Prop}
    (hp : p.Preserves planOf)
    (hg : ∀ a, (planContract cfg kernel).Triple (fun s => P (planOf s)) (g a) Q) :
    (planContract cfg kernel).Triple (fun s => P (planOf s)) (p >>= g) Q :=
  (triple_planFrame hp P).bind (planContract_stable cfg kernel) hg

theorem triple_planPure {α : Type} {a : α} {P : Plan → Prop} {Q : α → Plan → Prop}
    (h : ∀ p, PlanInv cfg p → P p → Q a p) :
    (planContract cfg kernel).Triple (fun s => P (planOf s)) (pure a : Prog (EngineState S) α)
      fun a s => Q a (planOf s) := triple_owned_pure h

theorem triple_planRead {α : Type} {r : EngineState S → α} (P : Plan → Prop)
    (Q : α → Plan → Prop)
    (h : ∀ s, RenderInv cfg kernel s.render → PlanInv cfg (planOf s) → P (planOf s) →
      Q (r s) (planOf s)) :
    (planContract cfg kernel).Triple (fun s => P (planOf s)) (.read r)
      fun a s => Q a (planOf s) := triple_owned_read PlanStep.refl P Q h

/-- `currentFrame` returns a frame of the timeline or its end. -/
theorem currentFrame_plan (hcfg : cfg.Valid) (P : Plan → Prop) :
    (planContract cfg kernel).Triple (fun s => P (planOf s)) (PlaybackProtocol.currentFrame cfg)
      fun frame s => P (planOf s) ∧ 0 ≤ frame ∧ frame ≤ cfg.totalFrames := by
  have hreturn : ∀ frame : Int, (planContract cfg kernel).Triple (fun s => P (planOf s))
      (pure (clampTimelineBoundary frame cfg.totalFrames) : Prog (EngineState S) Int)
      fun frame s => P (planOf s) ∧ 0 ≤ frame ∧ frame ≤ cfg.totalFrames := fun frame =>
    triple_planPure (Q := fun frame p => P p ∧ 0 ≤ frame ∧ frame ≤ cfg.totalFrames) fun _ _ hP =>
      ⟨hP, clampTimelineBoundary_mem frame hcfg.totalFrames_pos.le⟩
  refine triple_planFrame_bind (Prog.preserves_read _) fun _ =>
    triple_planFrame_bind (Prog.preserves_atomically fun _ => rfl) fun _ =>
      triple_ite (fun _ => ?_) fun _ => ?_
  · exact triple_planFrame_bind (Prog.preserves_read _) hreturn
  · exact triple_planFrame_bind (Prog.preserves_atomically fun _ => rfl) hreturn

/-! ## Knowledge -/

/-- In a step of the loop, between two functions. -/
structure InLoop (phase : LoopPhase) (p : Plan) : Prop where
  started : p.sched.started = true
  phase : p.phase = phase
  buffer : p.buffer = []

/-- The labels are fresh, or the scheduler knows that they may not be. -/
def Tracked (cfg : Config) (p : Plan) : Prop :=
  cfg.scheduler.policyType = .priority →
    p.sched.pendingClassificationsDirty = true ∨ FreshLabels cfg p

/-- In a step of the loop, with the labels tracked. -/
def Planned (cfg : Config) (phase : LoopPhase) (p : Plan) : Prop := InLoop phase p ∧ Tracked cfg p

/-- A label stays right while what it depends on is the same. -/
theorem Labelled.of_eq {sched sched' : SchedulerState} {chunk chunk' : JobId → Int} {frame : Int}
    {t : PendingRenderTile} (h : Labelled cfg sched chunk frame t)
    (hrequested : sched'.playRequested = sched.playRequested)
    (hfirst : sched'.viewportFirstFrame = sched.viewportFirstFrame)
    (hlast : sched'.viewportLastFrame = sched.viewportLastFrame)
    (hchunk : chunk' t.job = chunk t.job) : Labelled cfg sched' chunk' frame t := by
  obtain ⟨f, hsame, hlabel⟩ := h
  refine ⟨f, hsame, ?_⟩
  rw [hchunk, ← hlabel]
  unfold Scheduler.classifyChunk Scheduler.chunkIntersectsViewport
  rw [hrequested, hfirst, hlast]

/-- Labels stay fresh in a step that changes nothing they depend on and adds no tile. -/
theorem FreshLabels.of_eq {p p' : Plan} (h : FreshLabels cfg p)
    (hrequested : p'.sched.playRequested = p.sched.playRequested)
    (hfirst : p'.sched.viewportFirstFrame = p.sched.viewportFirstFrame)
    (hlast : p'.sched.viewportLastFrame = p.sched.viewportLastFrame)
    (hchunk : p'.sched.lastClassifiedPlayheadChunk = p.sched.lastClassifiedPlayheadChunk)
    (hend : p'.sched.lastClassifiedUrgentChunkEnd = p.sched.lastClassifiedUrgentChunkEnd)
    (hplayhead : p'.history.playheadFrame = p.history.playheadFrame)
    (horigins : p'.origins = p.origins) (hwaiting : ∀ t ∈ p'.waiting, t ∈ p.waiting) :
    FreshLabels cfg p' := by
  refine ⟨hplayhead ▸ h.nonneg, hplayhead ▸ h.le_total, ?_, ?_, fun t ht => ?_⟩
  · rw [hchunk, hplayhead, h.chunk]
  · rw [hend, hplayhead, h.urgentEnd]
  · rw [hplayhead]
    exact (h.labelled t (hwaiting t ht)).of_eq hrequested hfirst hlast
      (congrArg (fun o => (o.2 t.job).1) horigins)

/-- Between two calls in a phase before which neither scheduling nor dispatch ends. -/
theorem Planned.idle {phase phase' : LoopPhase} {p : Plan} (h : Planned cfg phase p)
    (h₀ : phase' ≠ .stopped) (h₁ : phase' ≠ .dispatchPendingTiles) (h₂ : phase' ≠ .condition) :
    PlanIdle cfg { p with phase := phase' } where
  buffer := h.1.buffer
  started := iff_of_true h.1.started h₀
  fresh hpolicy _ _ := (h.2 hpolicy).imp_right fun hf =>
    hf.of_eq rfl rfl rfl rfl rfl rfl rfl fun _ ht => ht
  scheduled _ hphase := absurd hphase h₁
  dispatched hphase := absurd hphase h₂

theorem PlanInv.enter {p : Plan} (h : PlanInv cfg p) (phase : LoopPhase) :
    PlanInv cfg { p with phase := phase } := { h with }

/-- The loop goes on with another phase. -/
theorem enter_plan {P : Plan → Prop} {phase : LoopPhase}
    (h : ∀ p, P p → PlanIdle cfg { p with phase := phase }) :
    (planContract cfg kernel).Triple (fun s => P (planOf s)) (SchedulerLoop.enter phase)
      fun _ s => PlanIdle cfg (planOf s) :=
  triple_planModify P (PlanIdle cfg) (fun _ => ⟨rfl, rfl, rfl⟩) fun _ _ hi hP =>
    ⟨hi.enter phase, h _ hP⟩

/-! ## Commands -/

theorem setClassificationsDirty_plan (phase : LoopPhase) :
    (planContract cfg kernel).Triple (fun s => InLoop phase (planOf s))
      Scheduler.setClassificationsDirty fun _ s => Planned cfg phase (planOf s) :=
  triple_planModify (InLoop phase) (Planned cfg phase) (fun _ => ⟨rfl, rfl, rfl⟩) fun _ _ hi h =>
    ⟨{ hi with }, ⟨h.started, h.phase, h.buffer⟩, fun _ => .inl rfl⟩

/-- The flag is set if the play request changed. -/
theorem dirtyIfChanged_plan (phase : LoopPhase) (changed : Bool) :
    (planContract cfg kernel).Triple
      (fun s => InLoop phase (planOf s) ∧ (changed = false → Tracked cfg (planOf s)))
      (if changed then Scheduler.setClassificationsDirty else pure ())
      fun _ s => Planned cfg phase (planOf s) := by
  refine triple_ite (fun _ => ?_) fun hno => ?_
  · exact (setClassificationsDirty_plan phase).conseq (fun _ _ h => h.1) fun _ _ _ h => h
  · exact triple_planPure (P := fun p => InLoop phase p ∧ (changed = false → Tracked cfg p))
      (Q := fun _ => Planned cfg phase) fun _ _ h => ⟨h.1, h.2 (by simpa using hno)⟩

/-- An access that sets the play request and reports a change. -/
theorem playRequest_plan (phase : LoopPhase) (requested : Bool)
    (f : EngineState S → Bool × EngineState S)
    (hplan : ∀ s, planOf (f s).2 =
      { planOf s with sched := { (planOf s).sched with playRequested := requested } })
    (hchanged : ∀ s, (f s).1 = false → s.sched.playRequested = requested) :
    (planContract cfg kernel).Triple (fun s => Planned cfg phase (planOf s)) (.atomically f)
      fun changed s => InLoop phase (planOf s) ∧ (changed = false → Tracked cfg (planOf s)) := by
  refine triple_owned_atomically (Planned cfg phase)
    (fun changed p => InLoop phase p ∧ (changed = false → Tracked cfg p)) fun s _ hi h => ?_
  rw [hplan]
  refine ⟨.of_eq rfl rfl rfl, { hi with }, ⟨h.1.started, h.1.phase, h.1.buffer⟩, fun hno hp => ?_⟩
  exact (h.2 hp).imp_right fun hf =>
    hf.of_eq (hchanged s hno).symm rfl rfl rfl rfl rfl rfl fun _ ht => ht

theorem requestPlay_plan (phase : LoopPhase) :
    (planContract cfg kernel).Triple (fun s => Planned cfg phase (planOf s))
      PlaybackController.requestPlay
      fun changed s => InLoop phase (planOf s) ∧ (changed = false → Tracked cfg (planOf s)) :=
  playRequest_plan phase true _ (fun _ => rfl) fun s h => by simpa using h

theorem pause_plan (phase : LoopPhase) :
    (planContract cfg kernel).Triple (fun s => Planned cfg phase (planOf s))
      PlaybackController.pause
      fun changed s => InLoop phase (planOf s) ∧ (changed = false → Tracked cfg (planOf s)) :=
  playRequest_plan phase false _ (fun _ => rfl) fun _ h => h

theorem invalidateVersions_planOf (cfg : Config) (firstFrame lastFrame : Int) :
    (Scheduler.invalidateVersions cfg firstFrame lastFrame :
      Prog (EngineState S) Unit).Preserves planOf := by
  refine Prog.preserves_forEach fun chunk _ => Prog.preserves_modify_bind (fun _ => rfl) fun _ =>
    Prog.preserves_modify fun s => ?_
  have horigins := ActiveRenderJobs.cancel_origins cfg chunk s.render
  rw [ActiveRenderJobs.cancel_eq]
  simp only [planOf, horigins]

theorem handleCommand_plan (hcfg : cfg.Valid) (phase : LoopPhase) (command : Command) :
    (planContract cfg kernel).Triple (fun s => Planned cfg phase (planOf s))
      (Scheduler.handleCommand cfg command) fun _ s => Planned cfg phase (planOf s) := by
  have hstable := planContract_stable cfg kernel
  rcases command with ⟨type, firstFrame, lastFrame⟩
  cases type with
  | play => exact (requestPlay_plan phase).bind hstable fun changed => dirtyIfChanged_plan phase _
  | pause => exact (pause_plan phase).bind hstable fun changed => dirtyIfChanged_plan phase _
  | seek =>
    refine triple_planFrame_bind
      (publishing_planOf (Scheduler.beginAudioGeneration_publishingView _ _)) fun _ => ?_
    exact (setClassificationsDirty_plan phase).conseq (fun _ _ h => h.1) fun _ _ _ h => h
  | setViewport =>
    refine triple_planModify (Planned cfg phase) (Planned cfg phase) (fun _ => ⟨rfl, rfl, rfl⟩)
      fun s _ hi h => ⟨?_, ⟨h.1.started, h.1.phase, h.1.buffer⟩, fun _ => .inl rfl⟩
    have hfirst := clampTimelineBoundary_mem firstFrame hcfg.totalFrames_pos.le
    have hlast := clampTimelineBoundary_mem (max firstFrame lastFrame) hcfg.totalFrames_pos.le
    refine { hi with viewport := ⟨hfirst.1, ?_, hlast.2⟩ }
    show clampTimelineBoundary _ _ ≤ clampTimelineBoundary _ _
    unfold clampTimelineBoundary
    omega
  | edit =>
    refine triple_planFrame_bind (Prog.preserves_modify fun _ => rfl) fun _ =>
      triple_planFrame_bind (invalidateVersions_planOf cfg _ _) fun _ =>
        triple_planFrame ?_ _
    exact (publishing_planOf (PlaybackProtocol.currentFrame_publishingView cfg)).bind fun _ =>
      Prog.preserves_read_bind fun _ =>
        (publishing_planOf (Scheduler.beginAudioGeneration_publishingView _ _)).bind fun _ =>
          Prog.preserves_modify fun _ => rfl
  | stop =>
    exact triple_planFrame (Prog.preserves_modify_bind (fun _ => rfl) fun _ =>
      Prog.preserves_modify fun _ => rfl) _

theorem readCommands_plan (hcfg : cfg.Valid) :
    (planContract cfg kernel).Triple (fun s => Planned cfg .readCommands (planOf s))
      (SchedulerLoop.readCommands cfg) fun _ s => PlanIdle cfg (planOf s) := by
  have hstable := planContract_stable cfg kernel
  have hstay : ∀ p, Planned cfg .readCommands p → PlanIdle cfg p := fun p h => by
    have hidle : PlanIdle cfg { p with phase := .readCommands } :=
      h.idle (by decide) (by decide) (by decide)
    rwa [← h.1.phase] at hidle
  refine triple_planFrame_bind (Prog.preserves_read _) fun front => ?_
  cases front with
  | none => exact enter_plan fun p h => h.idle (by decide) (by decide) (by decide)
  | some command =>
    refine triple_planFrame_bind (Prog.preserves_modify fun _ => rfl) fun _ =>
      (handleCommand_plan hcfg .readCommands command).bind hstable fun _ =>
        triple_planFrame_bind (publishing_planOf Scheduler.shutdownRequested_publishingView)
          fun _ => triple_ite (fun _ => ?_) fun _ => ?_
    · exact enter_plan fun p h => h.idle (by decide) (by decide) (by decide)
    · exact triple_planPure (Q := fun _ => PlanIdle cfg) fun p _ h => hstay p h

/-- The loop ends, or goes on with the given phase. -/
theorem enterUnlessShutdown_plan {P : Plan → Prop} {phase : LoopPhase}
    (h : ∀ p, P p → PlanIdle cfg { p with phase := phase })
    (hpause : ∀ p, P p → PlanIdle cfg { p with phase := .pause }) :
    (planContract cfg kernel).Triple (fun s => P (planOf s))
      (SchedulerLoop.enterUnlessShutdown phase) fun _ s => PlanIdle cfg (planOf s) :=
  triple_planFrame_bind (publishing_planOf Scheduler.shutdownRequested_publishingView) fun _ =>
    triple_ite (fun _ => enter_plan hpause) fun _ => enter_plan h

/-! ## Completions -/

theorem collectOne_planOf (cfg : Config) (s : EngineState S) :
    planOf { s with render := (Scheduler.collectOne cfg s.render).2 } =
      { planOf s with activeJobs := (Scheduler.collectOne cfg s.render).2.activeJobs } := by
  rw [Scheduler.collectOne_eq]
  rfl

theorem collectFinishedJobs_plan :
    (planContract cfg kernel).Triple
      (fun s : EngineState S => Planned cfg .collectFinishedJobs (planOf s))
      (SchedulerLoop.collectFinishedJobs cfg) fun _ s => PlanIdle cfg (planOf s) := by
  have hcollect : (planContract cfg kernel).Triple
      (fun s : EngineState S => Planned cfg .collectFinishedJobs (planOf s))
      (.atomically fun s => ((Scheduler.collectOne cfg s.render).1,
        { s with render := (Scheduler.collectOne cfg s.render).2 }))
      fun _ s => Planned cfg .collectFinishedJobs (planOf s) := by
    refine triple_owned_atomically _ (fun _ => Planned cfg .collectFinishedJobs)
      fun s _ hi h => ?_
    dsimp only
    rw [collectOne_planOf]
    refine ⟨.of_eq rfl rfl rfl, { hi with registered := fun c j hj => ?_ },
      ⟨h.1.started, h.1.phase, h.1.buffer⟩, fun hp => (h.2 hp).imp_right fun hf =>
        hf.of_eq rfl rfl rfl rfl rfl rfl rfl fun _ ht => ht⟩
    exact hi.registered c j (Scheduler.collectOne_activeJobs hj)
  refine hcollect.bind (planContract_stable cfg kernel) fun _ => triple_ite (fun _ => ?_)
    fun _ => ?_
  · exact enter_plan fun p h => h.idle (by decide) (by decide) (by decide)
  · refine triple_planPure (Q := fun _ => PlanIdle cfg) fun p _ h => ?_
    have hidle : PlanIdle cfg { p with phase := .collectFinishedJobs } :=
      h.idle (by decide) (by decide) (by decide)
    rwa [← h.1.phase] at hidle

/-! ## Publishing and background admission -/

theorem feedAudioQueue_plan :
    (planContract cfg kernel).Triple
      (fun s : EngineState S => Planned cfg .feedAudioQueue (planOf s))
      (Scheduler.feedAudioQueue cfg) fun _ s => Planned cfg .feedAudioQueue (planOf s) := by
  refine triple_planFrame_bind (publishing_planOf
    (PlaybackProtocol.currentFrame_publishingView cfg)) fun frame =>
      triple_ite (fun _ => ?_) fun _ => ?_
  · refine triple_planFrame_bind (publishing_planOf
      (TimelineAudioPublisher.reset_publishingView _)) fun _ => ?_
    exact (pause_plan _).bind (planContract_stable cfg kernel) fun _ => dirtyIfChanged_plan _ _
  · exact triple_planFrame (publishing_planOf <| Prog.preserves_read_bind fun _ =>
      (TimelineAudioPublisher.publish_publishingView cfg _ _).bind fun _ =>
        (Scheduler.readyLeadBlocks_publishingView cfg).bind fun _ => Prog.preserves_read_bind
          fun _ => PlaybackController.startIfReady_publishingView cfg _ _) _

/-- What the gate allows after an observation. -/
theorem heldBack_observe (lead : Int) (earlier : List GateObservation) :
    BackgroundRenderGate.observe cfg lead (!heldBack cfg earlier) =
      !heldBack cfg (.lead lead :: earlier) := by
  have hlead : heldBack cfg (.lead lead :: earlier) =
      (lead < cfg.scheduler.lowWaterBlocks ||
        (lead < cfg.scheduler.highWaterBlocks && heldBack cfg earlier)) := rfl
  rw [hlead, BackgroundRenderGate.observe]
  split
  · rename_i hlow
    simp [hlow]
  · rename_i hlow
    split
    · rename_i hhigh
      simp [hlow, not_lt.mpr hhigh]
    · rename_i hhigh
      simp [hlow, not_le.mp hhigh]

theorem updateBackgroundAdmission_plan (phase : LoopPhase) :
    (planContract cfg kernel).Triple (fun s : EngineState S => Planned cfg phase (planOf s))
      (Scheduler.updateBackgroundAdmission cfg) fun _ s => Planned cfg phase (planOf s) := by
  have hsame : ∀ p : Plan, ∀ allowed observations, Planned cfg phase p →
      Planned cfg phase { p with
        sched := { p.sched with backgroundAllowed := allowed }
        history := { p.history with observations } } := fun p _ _ h =>
    ⟨⟨h.1.started, h.1.phase, h.1.buffer⟩, fun hp => (h.2 hp).imp_right fun hf =>
      hf.of_eq rfl rfl rfl rfl rfl rfl rfl fun _ ht => ht⟩
  refine Triple.bind (planContract_stable cfg kernel) (triple_planRead (r := Scheduler.gateResets cfg)
    (Planned cfg phase) (fun resets p => Planned cfg phase p ∧
      (resets = false → cfg.scheduler.policyType ≠ .fifo)) fun s _ _ h => ⟨h, fun hr hp => ?_⟩)
    fun resets => triple_ite (fun _ => ?_) fun hno => ?_
  · simp [Scheduler.gateResets, hp] at hr
  · refine triple_planModify (fun p => Planned cfg phase p ∧ _) (Planned cfg phase)
      (fun _ => ⟨rfl, rfl, rfl⟩) fun s _ hi h => ⟨?_, hsame _ _ _ h.1⟩
    exact { hi with gate := rfl, fifo := fun _ => rfl }
  · refine triple_planFrame_bind (P := fun p => Planned cfg phase p ∧ _)
      (publishing_planOf (Scheduler.readyLeadBlocks_publishingView cfg)) fun lead => ?_
    refine triple_planModify (fun p => Planned cfg phase p ∧ _) (Planned cfg phase)
      (fun _ => ⟨rfl, rfl, rfl⟩) fun s _ hi h => ⟨?_, hsame _ _ _ h.1⟩
    have hgate : s.sched.backgroundAllowed = !heldBack cfg s.schedulingHistory.observations :=
      hi.gate
    refine { hi with gate := ?_, fifo := fun hp => absurd hp (h.2 (by simpa using hno)) }
    show BackgroundRenderGate.observe cfg lead s.sched.backgroundAllowed = _
    rw [hgate]
    exact heldBack_observe lead _

end Anasa
