import Anasa.Scheduling.CoverageKept
import Anasa.Scheduling.DispatchOrder
import Anasa.Scheduling.ScanMoves

/-!
# What scheduling covers

The guarantees of `scheduleRenderJobs` in every run of sessions. A call is followed through the
moves of the other threads, which cancel no job meanwhile. A stretch of a run in which nothing is
edited and no job is cancelled keeps what the scan has covered, so a lap covers the timeline.
-/

namespace Anasa

open Concurrency Contract Pool Scheduler

variable {S : Type} [Zero S] {cfg : AcceptedConfig} {kernel : RenderKernel S}

/-! ## Other threads -/

omit [Zero S] in
/-- Jobs keep their flags when none is cancelled. -/
theorem cancelledJob_kept {r r' : RenderState S} (hjobs : JobsKept r.jobs r'.jobs)
    (hmade : r'.jobs.made = r.jobs.made)
    (hnone : NoneCancelled r r') : r'.jobs.cancelledJob = r.jobs.cancelledJob := by
  funext j
  rw [Bool.eq_iff_iff]
  refine ⟨hnone j, fun h => ?_⟩
  simp only [JobTable.cancelledJob, JobTable.flags, Bool.and_eq_true, decide_eq_true_eq] at h ⊢
  exact ⟨hmade ▸ h.1, hjobs.cancelled j h.1 h.2⟩

/-- Another thread that cancels nothing leaves the view alone. -/
theorem coverageOf_of_rely {hcfg : cfg.toConfig.Valid} {s s' : EngineState S}
    (hr : (planLayer hcfg kernel).discipline.rely .scheduler s s')
    (hnone : NoneCancelled s.render s'.render) : coverageOf s' = coverageOf s := by
  obtain ⟨⟨hjobs, hkept, -⟩, hplan⟩ := hr
  have hplan : planOf s' = planOf s := hplan rfl
  have hflags := cancelledJob_kept hjobs hkept.made hnone
  have hlive : liveJob s'.render = liveJob s.render := by
    funext chunk
    rw [liveJob, hkept.activeJobs, hflags]
    rfl
  unfold coverageOf
  rw [hplan, hlive, hkept.versions, hkept.cacheEntries, hflags]

/-! ## Calls -/

/-- A step of the loop in the phase `scheduleRenderJobs`, to its return, while no other thread
cancels a job. -/
structure ScheduleCall (cfg : AcceptedConfig) (kernel : RenderKernel S)
    (moves : List (SessionMove S)) (refuses : ℕ → Bool) (call : List (SessionMove S)) : Prop where
  idle : (sessionRun cfg kernel moves).thread .scheduler = none
  phase : (sessionRun cfg kernel moves).state.loop.phase = .scheduleRenderJobs
  shape : CallMoves (sessionMachine cfg.toConfig kernel) (.schedulerLoop refuses) call
  others : Pool.OthersKeep (sessionMachine cfg.toConfig kernel) .scheduler
    (fun s s' => NoneCancelled s.render s'.render) call (sessionRun cfg kernel moves)
  returned : (sessionRun cfg kernel (moves ++ call)).thread .scheduler = none

theorem sessionRun_append (cfg : Config) (kernel : RenderKernel S)
    (moves more : List (SessionMove S)) : sessionRun cfg kernel (moves ++ more) =
      Pool.run (sessionMachine cfg kernel) more (sessionRun cfg kernel moves) :=
  Pool.run_append ..

variable {moves call : List (SessionMove S)} {refuses : ℕ → Bool}

theorem sessionRun_jobsMade (moves : List (SessionMove S)) :
    JobsMade (sessionRun cfg kernel moves).state.render :=
  (planLayer_sound cfg kernel moves).inv.1.jobsMade

/-- A call makes a pass. -/
theorem ScheduleCall.afterPass (h : ScheduleCall cfg kernel moves refuses call) :
    BeforePass cfg kernel (sessionRun cfg kernel moves).state ∧
      AfterPass cfg (sessionRun cfg kernel moves).state
        (coverageOf (sessionRun cfg kernel (moves ++ call)).state) := by
  have hsound := planLayer_sound cfg kernel moves
  have hidle := hsound.thread .scheduler
  rw [h.idle] at hidle
  have hbefore := beforePass_of_idle hsound.inv hidle h.phase
  refine ⟨hbefore, ?_⟩
  have hothers := hsound.othersKeep (fun s s' _ _ hr hnone => coverageOf_of_rely hr hnone) call
    h.others
  have hpost := Pool.call_post h.idle (schedulingCall_safe cfg.valid hbefore refuses) h.shape hothers
  have hreturned := h.returned
  rw [sessionRun_append] at hreturned ⊢
  unfold InCall at hpost
  rwa [show (Pool.run (sessionMachine cfg.toConfig kernel) call
    (sessionRun cfg kernel moves)).thread ((sessionMachine cfg.toConfig kernel).thread
      (.schedulerLoop refuses)) = none from hreturned] at hpost

theorem ScheduleCall.result (h : ScheduleCall cfg kernel moves refuses call) :
    (∃ steps, (coverageOf (sessionRun cfg kernel moves).state).Scans cfg
        (coverageOf (sessionRun cfg kernel (moves ++ call)).state) steps) ∧
      (cfg.scheduler.policyType = .priority →
        (coverageOf (sessionRun cfg kernel (moves ++ call)).state).MeetsDemand cfg) := by
  obtain ⟨hbefore, frame, hframe, hview⟩ := h.afterPass
  rw [hview]
  obtain ⟨⟨steps, hscan⟩, hdemand⟩ := afterPass_result cfg.valid hbefore hframe
  exact ⟨⟨steps, { hscan with }⟩, fun hpolicy => { hdemand hpolicy with }⟩

/-! ## Stretches of a run -/

/-- Versions grow, and jobs stay cancelled. -/
structure CoverageMono (r r' : RenderState S) : Prop where
  versions_le : ∀ c, r.versions c ≤ r'.versions c
  cancelled : NoneCancelled r' r

omit [Zero S] in
theorem NothingLost.split {r₁ r₂ r₃ : RenderState S} (h : NothingLost r₁ r₃) (h₁ : CoverageMono r₁ r₂)
    (h₂ : CoverageMono r₂ r₃) : NothingLost r₁ r₂ ∧ NothingLost r₂ r₃ := by
  have hversions : r₂.versions = r₁.versions := funext fun c =>
    le_antisymm ((h₂.versions_le c).trans (congrFun h.versions c).le) (h₁.versions_le c)
  exact ⟨⟨hversions, fun j hj => h.cancelled j (h₂.cancelled j hj)⟩,
    ⟨h.versions.trans hversions.symm, fun j hj => h₁.cancelled j (h.cancelled j hj)⟩⟩

omit [Zero S] in
theorem CoverageMono.of_jobsKept {r r' : RenderState S} (hjobs : JobsKept r.jobs r'.jobs)
    (hversions : ∀ c, r.versions c ≤ r'.versions c) : CoverageMono r r' := by
  refine ⟨hversions, fun j hj => ?_⟩
  simp only [JobTable.cancelledJob, JobTable.flags, Bool.and_eq_true, decide_eq_true_eq] at hj ⊢
  exact ⟨hj.1.trans_le hjobs.made_le, hjobs.cancelled j hj.1 hj.2⟩

omit [Zero S] in
theorem CoverageMono.refl (r : RenderState S) : CoverageMono r r := ⟨fun _ => le_rfl, fun _ h => h⟩

omit [Zero S] in
theorem CoverageMono.trans {r₁ r₂ r₃ : RenderState S} (h : CoverageMono r₁ r₂)
    (h' : CoverageMono r₂ r₃) : CoverageMono r₁ r₃ :=
  ⟨fun c => (h.versions_le c).trans (h'.versions_le c), fun j hj => h'.cancelled j (h.cancelled j hj)⟩

/-- Every access of every thread. -/
theorem coverageMono_of_guar {i : ThreadId} {s s' : EngineState S}
    (hi : (coverageLayer cfg.valid kernel).discipline.inv s)
    (hi' : (coverageLayer cfg.valid kernel).discipline.inv s')
    (hg : (coverageLayer cfg.valid kernel).discipline.guar i s s') :
    CoverageMono s.render s'.render := by
  by_cases hs : i = .scheduler
  · subst hs
    have hjobs : renderRely (.worker 0) s s' := hg.1.1 (.worker 0) (by decide)
    exact .of_jobsKept hjobs.1 (hg.2 rfl).versions_le
  · have hr := (coverageLayer cfg.valid kernel).discipline.compatible hs hi hi' hg
    exact .of_jobsKept hr.1.1.1 fun c => (congrFun hr.1.1.2.1.versions c).ge

theorem sessionRun_coverageMono (later : List (SessionMove S)) {p : Pool ThreadId (EngineState S)}
    (hp : (coverageLayer cfg.valid kernel).discipline.Sound p) :
    CoverageMono p.state.render
      (Pool.run (sessionMachine cfg.toConfig kernel) later p).state.render := by
  refine hp.run_guar (R := fun s s' => CoverageMono s.render s'.render) (fun s => .refl s.render)
    ?_ (fun _ _ _ hi hi' hg => coverageMono_of_guar hi hi' hg) later
  exact fun {_ _ _} h h' => h.trans h'

/-- In a quiet stretch the other threads leave the view alone. -/
theorem othersKeep_of_quiet (later : List (SessionMove S)) {p : Pool ThreadId (EngineState S)}
    (hp : (coverageLayer cfg.valid kernel).discipline.Sound p)
    (hquiet : NothingLost p.state.render
      (Pool.run (sessionMachine cfg.toConfig kernel) later p).state.render) :
    Pool.OthersKeep (sessionMachine cfg.toConfig kernel) .scheduler
      (fun s s' => coverageOf s' = coverageOf s) later p := by
  induction later generalizing p with
  | nil => trivial
  | cons m later ih =>
    obtain ⟨hfirst, hrest⟩ := hquiet.split (sessionRun_coverageMono [m] hp)
      (sessionRun_coverageMono later (hp.apply m))
    exact ⟨fun hm => coverageOf_of_rely (hp.apply_rely hm).1 hfirst.cancelled, ih (hp.apply m) hrest⟩

/-- The scan has gone on, or started again since it was reset, past chunks that are covered. -/
def ScansOn (cfg : Config) (s s' : EngineState S) : Prop :=
  ∃ steps, (s'.schedulingHistory.scanSteps = steps ++ s.schedulingHistory.scanSteps ∧
      Passes cfg.chunkCount s.sched.timelineScanCursorInChunks steps
        s'.sched.timelineScanCursorInChunks ∨
    s'.schedulingHistory.scanSteps = steps ∧
      Passes cfg.chunkCount 0 steps s'.sched.timelineScanCursorInChunks) ∧
    ∀ step ∈ steps, Covered cfg s'.render step.chunk

/-- What a quiet stretch of a run does. -/
structure ScanStretch (cfg : Config) (s s' : EngineState S) : Prop where
  mono : CoverageMono s.render s'.render
  kept : NothingLost s.render s'.render → ∀ c, Covered cfg s.render c → Covered cfg s'.render c
  scans : NothingLost s.render s'.render → ScansOn cfg s s'

omit [Zero S] in
theorem ScanStretch.refl (cfg : Config) (s : EngineState S) : ScanStretch cfg s s :=
  ⟨.refl s.render, fun _ _ h => h, fun _ => ⟨[], .inl ⟨rfl, rfl⟩, nofun⟩⟩

omit [Zero S] in
theorem ScanStretch.trans {cfg : Config} {s₁ s₂ s₃ : EngineState S} (h : ScanStretch cfg s₁ s₂)
    (h' : ScanStretch cfg s₂ s₃) : ScanStretch cfg s₁ s₃ := by
  refine ⟨h.mono.trans h'.mono, fun hquiet c hc => ?_, fun hquiet => ?_⟩ <;>
    obtain ⟨hq, hq'⟩ := hquiet.split h.mono h'.mono
  · exact h'.kept hq' c (h.kept hq c hc)
  · obtain ⟨steps, hsteps, hcovered⟩ := h.scans hq
    obtain ⟨steps', hsteps', hcovered'⟩ := h'.scans hq'
    have hboth : ∀ step ∈ steps' ++ steps, Covered cfg s₃.render step.chunk := fun step hmem =>
      (List.mem_append.mp hmem).elim (hcovered' step) fun hold => h'.kept hq' _ (hcovered step hold)
    rcases hsteps' with ⟨hhistory', hpasses'⟩ | hreset
    · refine ⟨steps' ++ steps, ?_, hboth⟩
      rcases hsteps with ⟨hhistory, hpasses⟩ | ⟨hhistory, hpasses⟩
      · refine .inl ⟨?_, hpasses.append hpasses'⟩
        rw [hhistory', hhistory, List.append_assoc]
      · refine .inr ⟨?_, hpasses.append hpasses'⟩
        rw [hhistory', hhistory]
    · exact ⟨steps', .inr hreset, hcovered'⟩

/-- An access of the scheduler thread that moves the scan as it may. -/
theorem scanStretch_of_guar {s s' : EngineState S}
    (hi : (coverageLayer cfg.valid kernel).discipline.inv s)
    (hi' : (coverageLayer cfg.valid kernel).discipline.inv s')
    (hg : (coverageLayer cfg.valid kernel).discipline.guar .scheduler s s')
    (hmoves : ScanMoves cfg (coverageOf s) (coverageOf s')) : ScanStretch cfg s s' := by
  refine ⟨coverageMono_of_guar hi hi' hg, (hg.2 rfl).kept, fun _ => ?_⟩
  rcases hmoves with ⟨hhistory, hcursor⟩ | ⟨step, hhistory, hpasses, hcovers⟩ | ⟨hhistory, hcursor⟩
  · exact ⟨[], .inl ⟨hhistory, hcursor⟩, nofun⟩
  · refine ⟨[step], .inl ⟨hhistory, hpasses⟩, fun step' hmem => ?_⟩
    obtain rfl := List.mem_singleton.mp hmem
    exact (covered_iff hi'.1.1.jobsMade).mpr hcovers
  · exact ⟨[], .inr ⟨hhistory, hcursor⟩, nofun⟩

/-- A step that leaves the view alone. -/
theorem scanStretch_of_view {s s' : EngineState S}
    (hi : (coverageLayer cfg.valid kernel).discipline.inv s)
    (hi' : (coverageLayer cfg.valid kernel).discipline.inv s')
    (hview : coverageOf s' = coverageOf s) : ScanStretch cfg s s' := by
  have hversions : s'.render.versions = s.render.versions := congrArg Coverage.versions hview
  have hcancelled : s'.render.jobs.cancelledJob = s.render.jobs.cancelledJob :=
    congrArg Coverage.cancelled hview
  refine ⟨⟨fun c => (congrFun hversions c).ge, fun j hj => (congrFun hcancelled j).trans hj⟩,
    fun _ c hc => ?_, fun _ => ⟨[], .inl ⟨?_, ?_⟩, nofun⟩⟩
  · rw [covered_iff hi'.1.1.jobsMade, hview]
    exact (covered_iff hi.1.1.jobsMade).mp hc
  · exact congrArg (fun c : Coverage S => c.plan.history.scanSteps) hview
  · exact congrArg (fun c : Coverage S => c.plan.sched.timelineScanCursorInChunks) hview

/-- **A quiet stretch** that starts between two calls of the scheduler. -/
theorem scanStretch_of_quiet (moves later : List (SessionMove S))
    (hidle : (sessionRun cfg kernel moves).thread .scheduler = none)
    (hquiet : NothingLost (sessionRun cfg kernel moves).state.render
      (sessionRun cfg kernel (moves ++ later)).state.render) :
    ScanStretch cfg (sessionRun cfg kernel moves).state
      (sessionRun cfg kernel (moves ++ later)).state := by
  have hsound := coverageLayer_sound cfg kernel moves
  rw [sessionRun_append] at hquiet ⊢
  refine hsound.stretch_guar (i := ThreadId.scheduler) (v := coverageOf) (G := ScanMoves cfg)
    (fun call hcall s hi hthread => schedulerCall_movesScan call hcall s hi.1 hthread.1) ?_
    (fun s => ScanStretch.refl _ s) (fun {_ _ _} h h' => ScanStretch.trans h h')
    (fun s s' hi hi' hg hmoves => scanStretch_of_guar hi hi' hg hmoves)
    (fun s s' hi hi' hview => scanStretch_of_view hi hi' hview) later
    (othersKeep_of_quiet later hsound hquiet)
  unfold InCall
  rw [hidle]
  trivial

/-! ## The scan -/

/-- What the scan of one call does: it passes the chunks from its cursor on, and each of them is
covered when the call returns. -/
structure ScanPass (cfg : Config) (s s' : EngineState S) (steps : List ScanStep) : Prop where
  history : s'.schedulingHistory.scanSteps = steps ++ s.schedulingHistory.scanSteps
  length_le : (steps.length : Int) ≤
    min cfg.chunkCount (cfg.scheduler.maxPendingTiles / tilesPerChunk)
  cursor : s'.sched.timelineScanCursorInChunks =
    (s.sched.timelineScanCursorInChunks + steps.length) % cfg.chunkCount
  cursor_mem : 0 ≤ s'.sched.timelineScanCursorInChunks ∧
    s'.sched.timelineScanCursorInChunks < cfg.chunkCount
  pending_le : ∀ step ∈ steps, (step.pending : Int) ≤
    cfg.scheduler.maxPendingTiles - cfg.scheduler.urgentReservedTiles
  covered : ∀ i : ℕ, i < steps.length →
    Covered cfg s'.render ((s.sched.timelineScanCursorInChunks + i) % cfg.chunkCount)

/-- If the steps since `s` make up a lap, every chunk of the timeline is covered. -/
def LapCovers (cfg : Config) (s s' : EngineState S) : Prop :=
  ∀ steps, s'.schedulingHistory.scanSteps = steps ++ s.schedulingHistory.scanSteps →
    cfg.chunkCount ≤ steps.length →
      ∀ chunk, 0 ≤ chunk ∧ chunk < cfg.chunkCount → Covered cfg s'.render chunk

omit [Zero S] in
/-- The steps of a call and those of a quiet stretch after it make up a lap. -/
theorem lapCovers_of_stretch {cfg : Config} {s₀ s₁ s₂ : EngineState S} {steps : List ScanStep}
    (hcursor : 0 ≤ s₀.sched.timelineScanCursorInChunks ∧
      s₀.sched.timelineScanCursorInChunks < cfg.chunkCount)
    (hhistory : s₁.schedulingHistory.scanSteps = steps ++ s₀.schedulingHistory.scanSteps)
    (hpasses : Passes cfg.chunkCount s₀.sched.timelineScanCursorInChunks steps
      s₁.sched.timelineScanCursorInChunks)
    (hcovered : ∀ step ∈ steps, Covered cfg s₁.render step.chunk)
    (hstretch : ScanStretch cfg s₁ s₂) (hquiet : NothingLost s₁.render s₂.render) :
    LapCovers cfg s₀ s₂ := by
  intro all hall hlap chunk hchunk
  obtain ⟨later, hlater, hcovered'⟩ := hstretch.scans hquiet
  rcases hlater with ⟨hhistory', hpasses'⟩ | ⟨hhistory', hpasses'⟩
  · have hsplit : all = later ++ steps := by
      rw [hhistory', hhistory, ← List.append_assoc] at hall
      exact (List.append_cancel_right hall).symm
    subst hsplit
    obtain ⟨step, hmem, rfl⟩ := (hpasses.append hpasses').lap hcursor hlap hchunk
    exact (List.mem_append.mp hmem).elim (hcovered' step)
      fun hold => hstretch.kept hquiet _ (hcovered step hold)
  · -- The scan has been reset since the call, and has made a lap on its own.
    have hlap' : cfg.chunkCount ≤ (later.length : Int) := by
      rw [← hhistory', hall, List.length_append]
      push_cast
      omega
    obtain ⟨step, hmem, rfl⟩ := hpasses'.lap ⟨le_rfl, lt_of_le_of_lt hcursor.1 hcursor.2⟩ hlap' hchunk
    exact hcovered' step hmem

/-- **The scan.** A call passes covered chunks only, within the limits of the queue; and in a run
that goes on from its return with no edit and no cancellation, the chunks of a lap are all
covered. -/
theorem sessionRun_scanCovers (cfg : AcceptedConfig) (kernel : RenderKernel S)
    (moves : List (SessionMove S)) (refuses : ℕ → Bool) (call : List (SessionMove S))
    (h : ScheduleCall cfg kernel moves refuses call) :
    (∃ steps, ScanPass cfg.toConfig (sessionRun cfg kernel moves).state
        (sessionRun cfg kernel (moves ++ call)).state steps) ∧
      ∀ later, NothingLost (sessionRun cfg kernel (moves ++ call)).state.render
          (sessionRun cfg kernel (moves ++ call ++ later)).state.render →
        LapCovers cfg.toConfig (sessionRun cfg kernel moves).state
          (sessionRun cfg kernel (moves ++ call ++ later)).state := by
  obtain ⟨⟨steps, hscan⟩, -⟩ := h.result
  have hcursor := (sessionRun_planInv cfg kernel moves).cursor
  have hcovered : ∀ step ∈ steps, Covered cfg.toConfig
      (sessionRun cfg kernel (moves ++ call)).state.render step.chunk := fun step hstep =>
    (covered_iff (sessionRun_jobsMade _)).mpr (hscan.covered step hstep)
  obtain ⟨hend, hchunks⟩ := hscan.passes.chunks hcursor
  refine ⟨⟨steps, hscan.history, hscan.length_le, hend,
    (sessionRun_planInv cfg kernel (moves ++ call)).cursor, hscan.pending_le, fun i hi => ?_⟩,
    fun later hquiet => ?_⟩
  · obtain ⟨step, hmem, hchunk⟩ := hchunks i hi
    have hstep := hcovered step hmem
    rwa [hchunk] at hstep
  · exact lapCovers_of_stretch hcursor hscan.history hscan.passes hcovered
      (scanStretch_of_quiet (moves ++ call) later h.returned hquiet) hquiet

/-- The loop about to schedule for the first time. -/
def firstScheduleMoves : List (SessionMove ℤ) := .whole .engineStart :: loopSteps 6 false

theorem scheduleCall_first : ScheduleCall threeChunkConfig (fun _ _ _ => 0) firstScheduleMoves
    (fun _ => false) [.whole (.schedulerLoop fun _ => false)] where
  idle := Option.isNone_iff_eq_none.mp (by decide +kernel)
  phase := by decide +kernel
  shape := .whole
  others := ⟨fun h => absurd rfl h, trivial⟩
  returned := Option.isNone_iff_eq_none.mp (by decide +kernel)

/-- The first call makes a lap. -/
theorem sessionRun_scanCovers_lap :
    LapCovers threeChunkConfig.toConfig
        (sessionRun threeChunkConfig.toConfig (fun _ _ _ => 0) firstScheduleMoves).state
        (sessionRun threeChunkConfig.toConfig (fun _ _ _ => 0)
          (firstScheduleMoves ++ [.whole (.schedulerLoop fun _ => false)] ++ [])).state ∧
      (sessionRun threeChunkConfig.toConfig (fun _ _ _ => 0)
        firstScheduleMoves).state.schedulingHistory.scanSteps = [] ∧
      (sessionRun threeChunkConfig.toConfig (fun _ _ _ => 0)
        (firstScheduleMoves ++ [.whole (.schedulerLoop fun _ => false)])).state.schedulingHistory.scanSteps =
          [⟨2, 24⟩, ⟨1, 24⟩, ⟨0, 24⟩] :=
  ⟨(sessionRun_scanCovers threeChunkConfig (fun _ _ _ => 0) firstScheduleMoves (fun _ => false) _
    scheduleCall_first).2 [] ⟨by rw [List.append_nil], by rw [List.append_nil]; exact fun _ h => h⟩,
    by decide +kernel, by decide +kernel⟩

/-! ## Admission -/

/-- What holds when a call returns: the chunks that are urgent at its playhead, and the others in
the viewport, are covered unless the queue had no room for them. -/
structure AdmissionCovers (cfg : Config) (s : EngineState S) : Prop where
  urgent : ∀ chunk classification,
    classifyChunk cfg s.sched chunk s.schedulingHistory.playheadFrame = .ok classification →
    classification.priority = .urgent → Covered cfg s.render chunk ∨
      cfg.scheduler.maxPendingTiles - tilesPerChunk < liveUrgentTiles s.render
  visible : ∀ chunk classification,
    classifyChunk cfg s.sched chunk s.schedulingHistory.playheadFrame = .ok classification →
    classification.priority ≠ .urgent → chunkIntersectsViewport cfg s.sched chunk = true →
    Covered cfg s.render chunk ∨
      cfg.scheduler.maxPendingTiles - cfg.scheduler.urgentReservedTiles - tilesPerChunk <
        s.render.pendingTiles.length
  /-- The tiles have the classes of their chunks. -/
  labelled : FreshLabels cfg (planOf s)

/-- The queue keeps its limit, and the scheduler admits the eight tiles of a chunk or none of
them, within the limit of their class. -/
structure AdmissionLimits (cfg : Config) (p : Pool ThreadId (EngineState S)) : Prop where
  length_le : (p.state.render.pendingTiles.length : Int) ≤ cfg.scheduler.maxPendingTiles
  admits : PlanStep cfg (planOf p.state) (planOf (p.access .scheduler).state)
  others : ∀ i, i ≠ .scheduler → planOf (p.access i).state = planOf p.state

theorem sessionRun_admissionLimits (cfg : AcceptedConfig) (kernel : RenderKernel S)
    (moves : List (SessionMove S)) :
    AdmissionLimits cfg.toConfig (sessionRun cfg kernel moves) := by
  have hsound := planLayer_sound cfg kernel moves
  refine ⟨?_, ?_, fun i hi => ?_⟩
  · have hle := hsound.inv.2.queue.length_le
    have hpending : (planOf (sessionRun cfg kernel moves).state).pendingTiles =
      (sessionRun cfg kernel moves).state.render.pendingTiles := rfl
    rw [hpending] at hle
    omega
  · rcases hsound.access_guar .scheduler with hsame | hguar
    · rw [hsame]
      exact .refl _
    · exact hguar.2
  · rcases hsound.access_guar i with hsame | hguar
    · rw [hsame]
    · have hother : if i = ThreadId.scheduler then _ else
          planOf ((sessionRun cfg kernel moves).access i).state =
            planOf (sessionRun cfg kernel moves).state := hguar.2
      rwa [if_neg hi] at hother

/-- **Admission.** Under the Priority policy, a call that no other thread disturbs covers the
chunks that their classes at its playhead demand, as far as the queue has room; and in every run
the queue keeps its limits. -/
theorem sessionRun_admissionCovers (cfg : AcceptedConfig) (kernel : RenderKernel S)
    (hpolicy : cfg.scheduler.policyType = .priority) (moves : List (SessionMove S)) :
    (∀ refuses call, ScheduleCall cfg kernel moves refuses call →
        AdmissionCovers cfg.toConfig (sessionRun cfg kernel (moves ++ call)).state) ∧
      AdmissionLimits cfg.toConfig (sessionRun cfg kernel moves) := by
  refine ⟨fun refuses call h => ?_, sessionRun_admissionLimits cfg kernel moves⟩
  have hdemand := h.result.2 hpolicy
  have hmade : JobsMade (sessionRun cfg kernel (moves ++ call)).state.render :=
    sessionRun_jobsMade (moves ++ call)
  obtain ⟨-, frame, -, hview⟩ := h.afterPass
  have hphase : (planOf (sessionRun cfg kernel (moves ++ call)).state).phase =
    .dispatchPendingTiles := congrArg (fun c : Coverage S => c.plan.phase) hview
  have hfresh := (sessionRun_planIdle h.returned).scheduled hpolicy hphase
  set s := (sessionRun cfg kernel (moves ++ call)).state
  have hclass : ∀ {chunk classification}, classifyChunk cfg.toConfig s.sched chunk
      s.schedulingHistory.playheadFrame = .ok classification →
      classOf cfg.toConfig s.sched chunk s.schedulingHistory.playheadFrame =
        classification.priority := fun hc => by
    have heq := (classifyChunk_eq (classifyChunk_mem hc) hfresh.nonneg hfresh.le_total).symm.trans hc
    exact congrArg RenderClassification.priority (Except.ok.inj heq)
  refine ⟨fun chunk classification hc hurgent => ?_, fun chunk classification hc hother hvisible => ?_,
    hfresh⟩
  · rw [covered_iff hmade, liveUrgentTiles_eq hmade]
    refine (hdemand.urgent chunk ((hclass hc).trans hurgent)).imp_right fun hfull => ?_
    unfold ChunkFits at hfull
    omega
  · rw [covered_iff hmade]
    refine (hdemand.visible chunk (classifyChunk_mem hc) (fun h => hother ((hclass hc).symm.trans h))
      hvisible).imp_right fun hfull => ?_
    have hlimit : pendingTileLimit cfg.toConfig .background =
      cfg.scheduler.maxPendingTiles - cfg.scheduler.urgentReservedTiles := rfl
    have hpending : (coverageOf s).plan.pendingTiles = s.render.pendingTiles := rfl
    rw [hpending] at hfull
    omega

/-- After Play, with the executor refusing all tiles. -/
def playedMoves : List (SessionMove ℤ) :=
  [.whole .engineStart, .whole (.post { type := .play })] ++ loopSteps 7 true

theorem scheduleCall_played : ScheduleCall threeChunkConfig (fun _ _ _ => 0) playedMoves
    (fun _ => true) [.whole (.schedulerLoop fun _ => true)] where
  idle := Option.isNone_iff_eq_none.mp (by decide +kernel)
  phase := by decide +kernel
  shape := .whole
  others := ⟨fun h => absurd rfl h, trivial⟩
  returned := Option.isNone_iff_eq_none.mp (by decide +kernel)

/-- The first chunk is urgent. -/
theorem sessionRun_admissionCovers_played :
    AdmissionCovers threeChunkConfig.toConfig (sessionRun threeChunkConfig.toConfig
        (fun _ _ _ => 0) (playedMoves ++ [.whole (.schedulerLoop fun _ => true)])).state ∧
      classOf threeChunkConfig.toConfig (sessionRun threeChunkConfig.toConfig (fun _ _ _ => 0)
        (playedMoves ++ [.whole (.schedulerLoop fun _ => true)])).state.sched 0 0 = .urgent :=
  ⟨(sessionRun_admissionCovers threeChunkConfig _ rfl playedMoves).1 _ _ scheduleCall_played,
    by decide +kernel⟩

end Anasa
