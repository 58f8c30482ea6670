import Anasa.Scheduling.CoverageLoops

/-!
# Calls of `scheduleRenderJobs` among other threads

A call that starts in a reachable state, while no other thread cancels a job: when it returns, the
view `coverageOf` is the one that a pass with nobody around leaves behind, for a playhead of the
timeline.
-/

namespace Anasa

open Concurrency Contract Pool Prog Scheduler

variable {S : Type} [Zero S] {cfg : Config} {kernel : RenderKernel S} {s : EngineState S}

/-! ## The scan among other threads -/

/-- How an access moves the scan: not at all, past a chunk that is covered, or back to the start. -/
def ScanMoves (cfg : Config) (c c' : Coverage S) : Prop :=
  c'.plan.history.scanSteps = c.plan.history.scanSteps ∧
      c'.plan.sched.timelineScanCursorInChunks = c.plan.sched.timelineScanCursorInChunks ∨
    (∃ step, c'.plan.history.scanSteps = step :: c.plan.history.scanSteps ∧
      Passes cfg.chunkCount c.plan.sched.timelineScanCursorInChunks [step]
        c'.plan.sched.timelineScanCursorInChunks ∧ c'.Covers cfg step.chunk) ∨
    c'.plan.history.scanSteps = [] ∧ c'.plan.sched.timelineScanCursorInChunks = 0

omit [Zero S] in
theorem ScanMoves.refl (c : Coverage S) : ScanMoves cfg c c := .inl ⟨rfl, rfl⟩

/-- What the scan alone moves. -/
def scanView (s : EngineState S) : List ScanStep × Int :=
  (s.schedulingHistory.scanSteps, s.sched.timelineScanCursorInChunks)

omit [Zero S] in
theorem ScanMoves.of_view {s s' : EngineState S} (h : scanView s' = scanView s) :
    ScanMoves cfg (coverageOf s) (coverageOf s') :=
  .inl ⟨congrArg Prod.fst h, congrArg Prod.snd h⟩

omit [Zero S] in
/-- A program that leaves the scan where it is. -/
theorem scanMoves_steps {α : Type} {p : Prog (EngineState S) α} (hp : p.Preserves scanView)
    (s : EngineState S) : p.Steps (fun s s' => ScanMoves cfg (coverageOf s) (coverageOf s')) s :=
  hp.steps (fun _ _ h => .of_view h) s

omit [Zero S] in
theorem planning_scanView {α : Type} {p : Prog (EngineState S) α}
    (hp : p.Preserves planningView) : p.Preserves scanView :=
  hp.mono fun s s' h => by
    have hsched : s.sched = s'.sched := congrArg Prod.fst h
    have hhistory : s.schedulingHistory = s'.schedulingHistory := congrArg Prod.snd h
    unfold scanView
    rw [hsched, hhistory]

/-- Each step of the scan passes a covered chunk. -/
theorem scanTimeline_steps (hcfg : cfg.Valid) {frame : Int}
    (h : Ready cfg kernel (Scheduled cfg frame) s) (n : ℕ) :
    (scanTimeline cfg frame n).Steps
      (fun s s' => ScanMoves cfg (coverageOf s) (coverageOf s')) s := by
  induction n generalizing s with
  | zero => exact steps_pure _
  | succ n ih =>
    refine steps_read_bind (.refl _) ?_
    dsimp only
    split
    · exact steps_pure _
    · rename_i hroom
      have hready := h.scheduleChunk hcfg s.sched.timelineScanCursorInChunks
      obtain ⟨step, hstep⟩ := scanStep hcfg h (by simpa using hroom)
      refine (scanMoves_steps (planning_scanView (scheduleChunk_planning cfg _ _)) s).bind ?_
      refine Steps.bind (steps_modify (.inr (.inl ⟨step, ?_, ?_, ?_⟩))) (ih hready.passChunk)
      · have hhistory := congrArg SchedulingHistory.scanSteps (congrArg Prod.snd
          ((scheduleChunk_planning cfg s.sched.timelineScanCursorInChunks frame).run s))
        exact hstep.history.trans (congrArg (step :: ·) hhistory.symm)
      · have hcursor := congrArg SchedulerState.timelineScanCursorInChunks (congrArg Prod.fst
          ((scheduleChunk_planning cfg s.sched.timelineScanCursorInChunks frame).run s))
        have hpasses := hstep.passes
        exact ⟨hpasses.1.trans hcursor.symm, hpasses.2⟩
      · exact (covered_iff hready.passChunk.render.jobsMade).mp
          (hstep.covered step List.mem_cons_self)

theorem scheduleLoops_steps (hcfg : cfg.Valid) {frame : Int}
    (h : Ready cfg kernel (Scheduled cfg frame) s) :
    (scheduleLoops cfg frame).Steps
      (fun s s' => ScanMoves cfg (coverageOf s) (coverageOf s')) s := by
  have hchunks : ∀ chunks s, (scheduleChunks cfg frame chunks).Steps
      (fun s s' : EngineState S => ScanMoves cfg (coverageOf s) (coverageOf s')) s :=
    fun chunks s => scanMoves_steps (planning_scanView (scheduleChunks_planning cfg frame chunks)) s
  have hready := h.scheduleChunks hcfg (urgentLoopChunks cfg s.sched frame)
  refine steps_read_bind (.refl _) ((hchunks _ s).bind (steps_read_bind (.refl _) ?_))
  exact (hchunks _ _).bind (scanTimeline_steps hcfg (hready.scheduleChunks hcfg _) _)

/-! ## The playhead -/

omit [Zero S] in
/-- `currentFrame` returns a frame of the timeline or its end, and leaves the view alone. -/
theorem currentFrame_alone (hcfg : cfg.Valid) {G : Coverage S → Coverage S → Prop}
    (hG : ∀ c, G c c) (P : Coverage S → Prop) :
    (alone coverageOf G).Triple (fun s => P (coverageOf s)) (PlaybackProtocol.currentFrame cfg)
      fun frame s => P (coverageOf s) ∧ 0 ≤ frame ∧ frame ≤ cfg.totalFrames := by
  have hread : ∀ {α β : Type} {p : Prog (EngineState S) α} {g : α → Prog (EngineState S) β}
      {Q : β → EngineState S → Prop}, p.Preserves coverageOf →
      (∀ a, (alone coverageOf G).Triple (fun s => P (coverageOf s)) (g a) Q) →
      (alone coverageOf G).Triple (fun s => P (coverageOf s)) (p >>= g) Q := fun hp hg =>
    (triple_alone_frame hG hp P).bind alone_stable hg
  have hreturn : ∀ frame : Int, (alone coverageOf G).Triple (fun s => P (coverageOf s))
      (Pure.pure (clampTimelineBoundary frame cfg.totalFrames))
      fun frame s => P (coverageOf s) ∧ 0 ≤ frame ∧ frame ≤ cfg.totalFrames := fun frame =>
    triple_pure (kept_alone fun c => P c ∧ 0 ≤ clampTimelineBoundary frame cfg.totalFrames ∧
      clampTimelineBoundary frame cfg.totalFrames ≤ cfg.totalFrames) fun _ _ hP =>
      ⟨hP, clampTimelineBoundary_mem frame hcfg.totalFrames_pos.le⟩
  refine hread (preserves_read _) fun _ => hread (preserves_atomically fun _ => rfl) fun _ =>
    triple_ite (fun _ => ?_) fun _ => ?_
  · exact hread (preserves_read _) hreturn
  · exact hread (preserves_atomically fun _ => rfl) hreturn

/-! ## The call -/

/-- The state after a pass for a frame with nobody around. -/
def afterPass (cfg : Config) (frame : Int) (s : EngineState S) : EngineState S :=
  ((updateClassifications cfg frame >>= fun _ => scheduleLoops cfg frame).run s).2

/-- The view after a pass for a frame of the timeline, with the loop gone on. -/
def AfterPass (cfg : Config) (s : EngineState S) (c : Coverage S) : Prop :=
  ∃ frame, (0 ≤ frame ∧ frame ≤ cfg.totalFrames) ∧
    c = { coverageOf (afterPass cfg frame s) with plan.phase := .dispatchPendingTiles }

/-- A scheduler about to make a pass. -/
abbrev BeforePass (cfg : Config) (kernel : RenderKernel S) : EngineState S → Prop :=
  Ready cfg kernel (Planned cfg .scheduleRenderJobs)

omit [Zero S] in
theorem BeforePass.updated {frame : Int} (h : BeforePass cfg kernel s)
    (hframe : 0 ≤ frame ∧ frame ≤ cfg.totalFrames) :
    Ready cfg kernel (Scheduled cfg frame) ((updateClassifications cfg frame).run s).2 :=
  h.run (updateClassifications_triple frame) (updateClassifications_plan hframe.1 hframe.2)

omit [Zero S] in
theorem updateClassifications_scanView (cfg : Config) (frame : Int) :
    (updateClassifications cfg frame : Prog (EngineState S) Unit).Preserves scanView :=
  preserves_read_bind fun _ => preserves_ite
    (preserves_modify_bind (fun _ => rfl) fun _ => preserves_modify fun _ => rfl)
    (preserves_modify fun _ => rfl)

/-- A pass for a frame, from a state with the view of `s`. -/
theorem pass_safe (hcfg : cfg.Valid) {frame : Int} (h : BeforePass cfg kernel s)
    (hframe : 0 ≤ frame ∧ frame ≤ cfg.totalFrames) :
    (alone coverageOf (ScanMoves cfg)).Triple (fun s' => coverageOf s' = coverageOf s)
      (updateClassifications cfg frame >>= fun _ => scheduleLoops cfg frame)
      fun _ s' => coverageOf s' = coverageOf (afterPass cfg frame s) := by
  intro s' _ hs
  have hupdated := h.updated hframe
  refine (Safe.of_isolated ?_ ?_ hs).mono fun _ _ _ hpost => hpost.2
  · exact (updateClassifications_isolated frame).bind (scheduleLoops_isolated hcfg hupdated)
  · exact (scanMoves_steps (updateClassifications_scanView cfg frame) s).bind
      (scheduleLoops_steps hcfg hupdated)

/-- What a pass does with the scan. -/
structure Coverage.Scans (cfg : Config) (c c' : Coverage S) (steps : List ScanStep) : Prop where
  history : c'.plan.history.scanSteps = steps ++ c.plan.history.scanSteps
  length_le : (steps.length : Int) ≤
    min cfg.chunkCount (cfg.scheduler.maxPendingTiles / tilesPerChunk)
  passes : Passes cfg.chunkCount c.plan.sched.timelineScanCursorInChunks steps
    c'.plan.sched.timelineScanCursorInChunks
  pending_le : ∀ step ∈ steps, (step.pending : Int) ≤
    cfg.scheduler.maxPendingTiles - cfg.scheduler.urgentReservedTiles
  covered : ∀ step ∈ steps, c'.Covers cfg step.chunk

/-- Chunks are covered as their classes at the playhead demand, or the queue had no room for
them. -/
structure Coverage.MeetsDemand (cfg : Config) (c : Coverage S) : Prop where
  urgent : ∀ chunk, classOf cfg c.plan.sched chunk c.plan.history.playheadFrame = .urgent →
    c.Covers cfg chunk ∨ ¬ChunkFits cfg c.liveUrgent
  visible : ∀ chunk, 0 ≤ chunk ∧ chunk < cfg.chunkCount →
    classOf cfg c.plan.sched chunk c.plan.history.playheadFrame ≠ .urgent →
    chunkIntersectsViewport cfg c.plan.sched chunk = true →
    c.Covers cfg chunk ∨
      pendingTileLimit cfg .background < c.plan.pendingTiles.length + tilesPerChunk

/-- **A pass.** -/
theorem afterPass_result (hcfg : cfg.Valid) {frame : Int} (h : BeforePass cfg kernel s)
    (hframe : 0 ≤ frame ∧ frame ≤ cfg.totalFrames) :
    (∃ steps, (coverageOf s).Scans cfg (coverageOf (afterPass cfg frame s)) steps) ∧
      (cfg.scheduler.policyType = .priority →
        (coverageOf (afterPass cfg frame s)).MeetsDemand cfg) := by
  have hupdated := h.updated hframe
  have hview := (updateClassifications_scanView cfg frame).run s
  have hrun : afterPass cfg frame s =
      ((scheduleLoops cfg frame).run ((updateClassifications cfg frame).run s).2).2 := by
    unfold afterPass
    rw [run_bind]
  rw [hrun]
  generalize ((updateClassifications cfg frame).run s).2 = s₁ at hupdated hview ⊢
  have hafter := hupdated.scheduleLoops hcfg
  have hmade := hafter.render.jobsMade
  have hsteady := (scheduleLoops_steady cfg frame).run s₁
  obtain ⟨⟨steps, hlength, hscan⟩, hdemand⟩ := scheduleLoops_result hcfg hupdated
  have hplanning := afterLoops_planning cfg frame s₁
  generalize afterLoops cfg frame s₁ = s₂ at hscan hplanning
  generalize ((scheduleLoops cfg frame).run s₁).2 = s₃ at *
  constructor
  · refine ⟨steps, ?_, ?_, ?_, hscan.pending_le, fun step hstep =>
      (covered_iff hmade).mp (hscan.covered step hstep)⟩
    · have hsteps : s₂.schedulingHistory.scanSteps = s.schedulingHistory.scanSteps :=
        (congrArg (fun v => SchedulingHistory.scanSteps (Prod.snd v)) hplanning).trans
          (congrArg Prod.fst hview)
      exact hscan.history.trans (congrArg (steps ++ ·) hsteps)
    · have hcount := hupdated.plan.cursor
      have hmax := hcfg.maxPendingTiles_ge
      rw [tilesPerChunk_eq] at hlength hmax ⊢
      omega
    · have hcursor : s₂.sched.timelineScanCursorInChunks = s.sched.timelineScanCursorInChunks :=
        (congrArg (fun v => SchedulerState.timelineScanCursorInChunks (Prod.fst v))
          hplanning).trans (congrArg Prod.snd hview)
      have hpasses := hscan.passes
      rwa [hcursor] at hpasses
  · intro hpolicy
    obtain ⟨hurgent, hvisible⟩ := hdemand hpolicy
    have hplayhead : s₃.schedulingHistory.playheadFrame = frame := hafter.at_plan.playhead
    have hclass : ∀ c, classOf cfg s₃.sched c s₃.schedulingHistory.playheadFrame =
        classOf cfg s₁.sched c frame := fun c => by
      rw [hplayhead]
      show classOf cfg (steadyView s₃) c frame = classOf cfg (steadyView s₁) c frame
      rw [hsteady]
    have hviewport : ∀ c, chunkIntersectsViewport cfg s₃.sched c =
        chunkIntersectsViewport cfg s₁.sched c := fun c => by
      show chunkIntersectsViewport cfg (steadyView s₃) c =
        chunkIntersectsViewport cfg (steadyView s₁) c
      rw [hsteady]
    refine ⟨fun c hc => ?_, fun c hrange hc hview => ?_⟩
    · rw [← covered_iff hmade, ← liveUrgentTiles_eq hmade]
      exact hurgent c ((hclass c).symm.trans hc)
    · rw [← covered_iff hmade]
      exact hvisible c hrange (fun h => hc ((hclass c).trans h)) ((hviewport c).symm.trans hview)

/-- **The call.** While no other thread touches the view, a step of the loop in the phase
`scheduleRenderJobs` makes a pass. -/
theorem schedulingCall_safe (hcfg : cfg.Valid) (h : BeforePass cfg kernel s)
    (refuses : ℕ → Bool) :
    (alone coverageOf (ScanMoves cfg)).Safe (fun _ s' => AfterPass cfg s (coverageOf s'))
      (SchedulerLoop.run cfg refuses) s := by
  have hread : ∀ {α : Type} (r : Coverage S → α),
      (alone coverageOf (ScanMoves cfg)).Triple (fun s' => coverageOf s' = coverageOf s)
        (.read fun s' => r (coverageOf s')) fun a s' => coverageOf s' = coverageOf s ∧
          a = r (coverageOf s) := fun r =>
    triple_read (fun s => ScanMoves.refl (coverageOf s)) (kept_alone (· = _))
      (fun a => kept_alone fun c => c = _ ∧ _) fun s' _ hs => ⟨hs, congrArg r hs⟩
  have henter : ∀ frame, 0 ≤ frame ∧ frame ≤ cfg.totalFrames →
      (alone coverageOf (ScanMoves cfg)).Triple
        (fun s' => coverageOf s' = coverageOf (afterPass cfg frame s))
        (SchedulerLoop.enter .dispatchPendingTiles) fun _ s' => AfterPass cfg s (coverageOf s') :=
    fun frame hframe => triple_modify (kept_alone (· = _)) (kept_alone _) fun s' _ hs =>
      ⟨.of_view rfl, trivial, frame, hframe, congrArg (fun c : Coverage S =>
        { c with plan.phase := .dispatchPendingTiles }) hs⟩
  have hstep : (alone coverageOf (ScanMoves cfg)).Triple
      (fun s' => coverageOf s' = coverageOf s)
      (SchedulerLoop.step cfg refuses .scheduleRenderJobs)
      fun _ s' => AfterPass cfg s (coverageOf s') := by
    show (alone coverageOf (ScanMoves cfg)).Triple _
      ((PlaybackProtocol.currentFrame cfg >>= fun frame =>
        updateClassifications cfg frame >>= fun _ => scheduleLoops cfg frame) >>= fun _ =>
          SchedulerLoop.enter .dispatchPendingTiles) _
    rw [bind_assoc]
    refine (currentFrame_alone hcfg .refl (· = coverageOf s)).bind alone_stable fun frame => ?_
    refine Triple.of_pre (fun _ hpre => hpre.2) fun hframe => ?_
    refine Triple.conseq ((pass_safe hcfg h hframe).bind alone_stable fun _ =>
      henter frame hframe) (fun _ _ hpre => hpre.1) fun _ _ _ hpost => hpost
  refine Triple.bind alone_stable (hread fun c => c.plan.sched.started) (fun started =>
    triple_ite (fun _ => ?_) fun hno => ?_) s trivial rfl
  · refine (Triple.bind alone_stable (hread fun c => c.plan.phase) fun phase => ?_).conseq
      (fun _ _ hpre => hpre.1) fun _ _ _ hpost => hpost
    refine Triple.of_pre (fun _ hpre => hpre.2) fun hphase => ?_
    rw [show phase = .scheduleRenderJobs from hphase.trans h.at_plan.1.phase]
    exact hstep.conseq (fun _ _ hpre => hpre.1) fun _ _ _ hpost => hpost
  · refine Triple.of_pre (fun _ hpre => hpre.2) fun hstarted => absurd ?_ hno
    exact hstarted.trans h.at_plan.1.started

end Anasa
