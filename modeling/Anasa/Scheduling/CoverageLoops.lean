import Anasa.Scheduling.CoverageSteps

/-!
# What a pass of scheduling does to coverage

The three loops of `scheduleRenderJobs` with nobody around. The scan covers every chunk that its
cursor moves past. The loop over the urgent chunks covers them all, or leaves the queue with no room
next to live urgent tiles; in the first case nothing is evicted from then on.
-/

namespace Anasa

open Concurrency Contract Prog Scheduler

variable {S : Type} {cfg : Config} {kernel : RenderKernel S} {s : EngineState S}

/-! ## What scheduling leaves alone -/

/-- The members and the history of the scheduler. -/
def planningView (s : EngineState S) : SchedulerState × SchedulingHistory :=
  (s.sched, s.schedulingHistory)

theorem pending_planning {α : Type} {p : Prog (EngineState S) α} (hp : p.Preserves pendingView) :
    p.Preserves planningView :=
  hp.mono fun s s' h => by
    simp only [pendingView, Prod.mk.injEq] at h
    simp only [planningView, h]

variable [Zero S]

theorem scheduleChunk_planning (cfg : Config) (chunk frame : Int) :
    (scheduleChunk cfg chunk frame : Prog (EngineState S) Unit).Preserves planningView := by
  refine preserves_ite (preserves_pure _) (preserves_read_bind fun _ => preserves_ite
    (preserves_pure _) (preserves_read_bind fun version => preserves_read_bind fun _ =>
      preserves_ite (preserves_pure _) (preserves_read_bind fun result => ?_)))
  cases result with
  | error e => exact preserves_pure _
  | ok classification =>
    exact (pending_planning (makeRoomIfUrgent_pendingView cfg _)).bind fun _ => preserves_read_bind fun _ =>
      preserves_ite (preserves_modify fun _ => rfl) (preserves_pure _)

/-! ## The scan -/

/-- From one cursor to another past the chunks of the steps, the latest first. -/
def Passes (chunkCount cursor : Int) : List ScanStep → Int → Prop
  | [], cursor' => cursor' = cursor
  | step :: steps, cursor' =>
    Passes chunkCount cursor steps step.chunk ∧ cursor' = (step.chunk + 1) % chunkCount

theorem Passes.append {n a b c : Int} {old new : List ScanStep} (hold : Passes n a old b)
    (hnew : Passes n b new c) : Passes n a (new ++ old) c := by
  induction new generalizing c with
  | nil =>
    obtain rfl : c = b := hnew
    exact hold
  | cons step new ih => exact ⟨ih hnew.1, hnew.2⟩

/-- The chunks passed are those that follow the cursor. -/
theorem Passes.chunks {n a b : Int} {steps : List ScanStep} (h : Passes n a steps b)
    (ha : 0 ≤ a ∧ a < n) : b = (a + steps.length) % n ∧
      ∀ i : ℕ, i < steps.length → ∃ step ∈ steps, step.chunk = (a + i) % n := by
  induction steps generalizing b with
  | nil =>
    obtain rfl : b = a := h
    refine ⟨?_, fun i hi => absurd hi (Nat.not_lt_zero i)⟩
    rw [List.length_nil, Nat.cast_zero, add_zero, Int.emod_eq_of_lt ha.1 ha.2]
  | cons step steps ih =>
    obtain ⟨hend, hchunks⟩ := ih h.1
    constructor
    · rw [h.2, hend, List.length_cons, Nat.cast_succ, Int.emod_add_emod, add_assoc]
    · intro i hi
      rcases Nat.lt_succ_iff_lt_or_eq.mp hi with hlt | rfl
      · obtain ⟨step', hmem, hchunk⟩ := hchunks i hlt
        exact ⟨step', List.mem_cons_of_mem _ hmem, hchunk⟩
      · exact ⟨step, List.mem_cons_self, hend⟩

/-- A lap passes every chunk. -/
theorem Passes.lap {n a b : Int} {steps : List ScanStep} (h : Passes n a steps b)
    (ha : 0 ≤ a ∧ a < n) (hlap : n ≤ steps.length) {chunk : Int}
    (hchunk : 0 ≤ chunk ∧ chunk < n) : ∃ step ∈ steps, step.chunk = chunk := by
  have hpos : 0 < n := lt_of_le_of_lt ha.1 ha.2
  have hnonneg := Int.emod_nonneg (chunk - a) hpos.ne'
  have hlt := Int.emod_lt_of_pos (chunk - a) hpos
  obtain ⟨step, hmem, hstep⟩ := (h.chunks ha).2 ((chunk - a) % n).toNat (by omega)
  refine ⟨step, hmem, ?_⟩
  rw [hstep, Int.toNat_of_nonneg hnonneg, Int.add_emod_emod, add_sub_cancel,
    Int.emod_eq_of_lt hchunk.1 hchunk.2]

/-- What a number of steps of the scan do. -/
structure ScanResult (cfg : Config) (steps : List ScanStep) (s s' : EngineState S) : Prop where
  history : s'.schedulingHistory.scanSteps = steps ++ s.schedulingHistory.scanSteps
  passes : Passes cfg.chunkCount s.sched.timelineScanCursorInChunks steps
    s'.sched.timelineScanCursorInChunks
  covered : ∀ step ∈ steps, Covered cfg s'.render step.chunk
  pending_le : ∀ step ∈ steps, (step.pending : Int) ≤ pendingTileLimit cfg .background
  kept : ∀ c, Covered cfg s.render c → Covered cfg s'.render c
  liveUrgent : liveUrgentTiles s.render ≤ liveUrgentTiles s'.render
  length_ge : s.render.pendingTiles.length ≤ s'.render.pendingTiles.length

omit [Zero S] in
theorem ScanResult.nil (s : EngineState S) : ScanResult cfg [] s s :=
  ⟨rfl, rfl, nofun, nofun, fun _ h => h, le_rfl, le_rfl⟩

omit [Zero S] in
/-- One step, then more. -/
theorem ScanResult.cons {s₁ s₂ : EngineState S} {step : ScanStep} {steps : List ScanStep}
    (h : ScanResult cfg [step] s s₁) (h' : ScanResult cfg steps s₁ s₂) :
    ScanResult cfg (steps ++ [step]) s s₂ where
  history := by
    rw [h'.history, h.history]
    simp
  passes := h.passes.append h'.passes
  covered step' hmem := by
    rcases List.mem_append.mp hmem with hlater | hfirst
    · exact h'.covered step' hlater
    · exact h'.kept _ (h.covered step' hfirst)
  pending_le step' hmem :=
    (List.mem_append.mp hmem).elim (h'.pending_le step') (h.pending_le step')
  kept c hc := h'.kept c (h.kept c hc)
  liveUrgent := h.liveUrgent.trans h'.liveUrgent
  length_ge := h.length_ge.trans h'.length_ge

omit [Zero S] in
theorem liveUrgentTiles_le_length (r : RenderState S) :
    liveUrgentTiles r ≤ r.pendingTiles.length := List.countP_le_length

/-- While the queue has room for a background chunk, no chunk is refused and none is evicted for
another. -/
theorem scanStep (hcfg : cfg.Valid) {frame : Int} (h : Ready cfg kernel (Scheduled cfg frame) s)
    (hroom : queueIsFull (pendingTileLimit cfg .background) s.render = false) :
    ∃ step, ScanResult cfg [step] s (passChunk cfg
      ((scheduleChunk cfg s.sched.timelineScanCursorInChunks frame).run s).2) := by
  have hcursor : 0 ≤ s.sched.timelineScanCursorInChunks ∧
      s.sched.timelineScanCursorInChunks < cfg.chunkCount := h.plan.cursor
  have hstep := scheduleChunk_step hcfg h hcursor
  have hsched := congrArg Prod.fst
    ((scheduleChunk_planning cfg s.sched.timelineScanCursorInChunks frame).run s)
  have hhistory := congrArg Prod.snd
    ((scheduleChunk_planning cfg s.sched.timelineScanCursorInChunks frame).run s)
  generalize (scheduleChunk cfg s.sched.timelineScanCursorInChunks frame).run s = after at *
  have hfits := not_lt.mp (decide_eq_false_iff_not.mp hroom)
  have hle := hstep.length_le
  have hurgent := liveUrgentTiles_le_length after.2.render
  have hreserved := hcfg.reserved_ge
  have hlimit : pendingTileLimit cfg .background =
      cfg.scheduler.maxPendingTiles - cfg.scheduler.urgentReservedTiles := rfl
  have hpos := tilesPerChunk_eq
  have hlimits : pendingTileLimit cfg .background ≤
      pendingTileLimit cfg (classOf cfg s.sched s.sched.timelineScanCursorInChunks frame) := by
    rw [hlimit, pendingTileLimit]
    split <;> omega
  obtain ⟨hkept, hge⟩ := hstep.calm (.inr (.inr (by
    unfold ChunkFits
    omega)))
  have hcovered : Covered cfg after.2.render s.sched.timelineScanCursorInChunks := by
    rcases hstep.outcome with hcovered | ⟨-, hfull⟩ | ⟨-, -, hfull⟩
    · exact hcovered
    · refine absurd ?_ hfull
      unfold ChunkFits
      omega
    · omega
  refine ⟨⟨s.sched.timelineScanCursorInChunks, after.2.render.pendingTiles.length⟩, ?_, ?_,
    fun step hmem => ?_, fun step hmem => ?_, hkept, hstep.liveUrgent, hge⟩
  · show (⟨after.2.sched.timelineScanCursorInChunks, _⟩ :: after.2.schedulingHistory.scanSteps :
      List ScanStep) = _
    rw [show after.2.schedulingHistory = s.schedulingHistory from hhistory,
      show after.2.sched = s.sched from hsched]
    rfl
  · refine ⟨rfl, ?_⟩
    show (after.2.sched.timelineScanCursorInChunks + 1) % cfg.chunkCount = _
    rw [show after.2.sched = s.sched from hsched]
  · obtain rfl := List.mem_singleton.mp hmem
    exact hcovered
  · obtain rfl := List.mem_singleton.mp hmem
    dsimp only
    omega

/-- **The scan.** -/
theorem scanTimeline_run (hcfg : cfg.Valid) {frame : Int}
    (h : Ready cfg kernel (Scheduled cfg frame) s) (n : ℕ) :
    ∃ steps, steps.length ≤ n ∧ ScanResult cfg steps s ((scanTimeline cfg frame n).run s).2 := by
  induction n generalizing s with
  | zero => exact ⟨[], le_rfl, .nil s⟩
  | succ n ih =>
    rw [scanTimeline_run_succ]
    cases hfull : queueIsFull (pendingTileLimit cfg .background) s.render with
    | true => exact ⟨[], Nat.zero_le _, .nil s⟩
    | false =>
      obtain ⟨step, hstep⟩ := scanStep hcfg h hfull
      obtain ⟨steps, hlength, hrest⟩ := ih (h.scheduleChunk hcfg _).passChunk
      refine ⟨steps ++ [step], ?_, hstep.cons hrest⟩
      rw [List.length_append, List.length_singleton]
      exact Nat.succ_le_succ hlength

/-! ## The loops over urgent and visible chunks -/

/-- The chunks of a list, one after the other. -/
def scheduleChunks (cfg : Config) (frame : Int) (chunks : List Int) : Prog (EngineState S) Unit :=
  .forEach (fun chunk => scheduleChunk cfg chunk frame) chunks

theorem scheduleChunks_run_cons (frame chunk : Int) (chunks : List Int) (s : EngineState S) :
    ((scheduleChunks cfg frame (chunk :: chunks)).run s).2 =
      ((scheduleChunks cfg frame chunks).run ((scheduleChunk cfg chunk frame).run s).2).2 := by
  unfold scheduleChunks
  rw [run_forEach_cons]

theorem scheduleChunks_planning (cfg : Config) (frame : Int) (chunks : List Int) :
    (scheduleChunks cfg frame chunks : Prog (EngineState S) Unit).Preserves planningView :=
  preserves_forEach fun chunk _ => scheduleChunk_planning cfg chunk frame

omit [Zero S] in
theorem planningView_sched {s s' : EngineState S} (h : planningView s' = planningView s) :
    s'.sched = s.sched := congrArg Prod.fst h

/-- Live urgent tiles are never lost. -/
theorem scheduleChunks_liveUrgent (hcfg : cfg.Valid) {frame : Int}
    (h : Ready cfg kernel (Scheduled cfg frame) s) {chunks : List Int}
    (hchunks : ∀ c ∈ chunks, 0 ≤ c ∧ c < cfg.chunkCount) :
    liveUrgentTiles s.render ≤
      liveUrgentTiles ((scheduleChunks cfg frame chunks).run s).2.render := by
  induction chunks generalizing s with
  | nil => exact le_rfl
  | cons chunk chunks ih =>
    rw [scheduleChunks_run_cons]
    exact (scheduleChunk_step hcfg h (hchunks chunk List.mem_cons_self)).liveUrgent.trans
      (ih (h.scheduleChunk hcfg chunk) fun c hc => hchunks c (List.mem_cons_of_mem _ hc))

/-- **Urgent chunks.** A loop over urgent chunks covers them all and keeps those covered that
were, or leaves no room for a chunk next to the live urgent tiles. -/
theorem urgentLoop_run (hcfg : cfg.Valid) {frame : Int}
    (h : Ready cfg kernel (Scheduled cfg frame) s)
    (hpolicy : cfg.scheduler.policyType = .priority) {chunks : List Int}
    (hchunks : ∀ c ∈ chunks, (0 ≤ c ∧ c < cfg.chunkCount) ∧ classOf cfg s.sched c frame = .urgent) :
    (∀ c, classOf cfg s.sched c frame = .urgent → (c ∈ chunks ∨ Covered cfg s.render c) →
        Covered cfg ((scheduleChunks cfg frame chunks).run s).2.render c) ∨
      ¬ChunkFits cfg (liveUrgentTiles ((scheduleChunks cfg frame chunks).run s).2.render) := by
  induction chunks generalizing s with
  | nil => exact .inl fun c _ hc => hc.resolve_left (List.not_mem_nil)
  | cons chunk chunks ih =>
    have hready := h.scheduleChunk hcfg chunk
    have hfirst := hchunks chunk List.mem_cons_self
    have hstep := scheduleChunk_step hcfg h hfirst.1
    have hsched := planningView_sched ((scheduleChunk_planning cfg chunk frame).run s)
    have hrest : ∀ c ∈ chunks, (0 ≤ c ∧ c < cfg.chunkCount) ∧ classOf cfg
        ((scheduleChunk cfg chunk frame).run s).2.sched c frame = .urgent := fun c hc => by
      rw [hsched]
      exact hchunks c (List.mem_cons_of_mem _ hc)
    have hmono := scheduleChunks_liveUrgent hcfg hready fun c hc => (hrest c hc).1
    have hevicts : Evicts cfg (classOf cfg s.sched chunk frame) := ⟨hpolicy, hfirst.2⟩
    rw [scheduleChunks_run_cons]
    rcases hstep.outcome with hcovered | ⟨-, hfull⟩ | ⟨hno, -⟩
    · refine (ih hready hrest).imp_left fun hall c hclass hc => hall c (hsched ▸ hclass) ?_
      rcases hc with hmem | hold
      · rcases List.mem_cons.mp hmem with rfl | hmem
        · exact .inr hcovered
        · exact .inl hmem
      · exact .inr (hstep.urgentKept hpolicy c hclass hold)
    · refine .inr fun hfits => hfull ?_
      unfold ChunkFits at hfits ⊢
      omega
    · exact absurd hevicts hno

/-- What a loop does that need not evict. -/
structure CalmLoop (cfg : Config) (frame : Int) (chunks : List Int) (s s' : EngineState S) :
    Prop where
  kept : ∀ c, Covered cfg s.render c → Covered cfg s'.render c
  length_ge : s.render.pendingTiles.length ≤ s'.render.pendingTiles.length
  outcome : ∀ c ∈ chunks, classOf cfg s.sched c frame ≠ .urgent →
    Covered cfg s'.render c ∨ pendingTileLimit cfg .background <
      s'.render.pendingTiles.length + tilesPerChunk

/-- **Other chunks.** While all urgent chunks are covered, a loop evicts nothing. -/
theorem calmLoop_run (hcfg : cfg.Valid) {frame : Int}
    (h : Ready cfg kernel (Scheduled cfg frame) s) {chunks : List Int}
    (hchunks : ∀ c ∈ chunks, 0 ≤ c ∧ c < cfg.chunkCount)
    (hurgent : ∀ c, 0 ≤ c ∧ c < cfg.chunkCount → classOf cfg s.sched c frame = .urgent →
      Covered cfg s.render c) :
    CalmLoop cfg frame chunks s ((scheduleChunks cfg frame chunks).run s).2 := by
  induction chunks generalizing s with
  | nil => exact ⟨fun _ h => h, le_rfl, nofun⟩
  | cons chunk chunks ih =>
    have hchunk := hchunks chunk List.mem_cons_self
    have hstep := scheduleChunk_step hcfg h hchunk
    have hsched := planningView_sched ((scheduleChunk_planning cfg chunk frame).run s)
    obtain ⟨hkept, hge⟩ := hstep.calm (by
      by_cases hclass : classOf cfg s.sched chunk frame = .urgent
      · exact .inl (hurgent chunk hchunk hclass)
      · exact .inr (.inl fun hevicts => hclass hevicts.2))
    have hrest := ih (h.scheduleChunk hcfg chunk)
      (fun c hc => hchunks c (List.mem_cons_of_mem _ hc))
      fun c hc hclass => hkept c (hurgent c hc (hsched ▸ hclass))
    rw [scheduleChunks_run_cons]
    refine ⟨fun c hc => hrest.kept c (hkept c hc), hge.trans hrest.length_ge, fun c hc hclass => ?_⟩
    rcases List.mem_cons.mp hc with rfl | hc
    · rcases hstep.outcome with hcovered | ⟨hevicts, -⟩ | ⟨-, -, hfull⟩
      · exact .inl (hrest.kept c hcovered)
      · exact absurd hevicts.2 hclass
      · have hlimit : pendingTileLimit cfg (classOf cfg s.sched c frame) =
            pendingTileLimit cfg .background := by
          rw [pendingTileLimit, if_neg hclass]
          rfl
        have hle := hge.trans hrest.length_ge
        refine .inr ?_
        rw [hlimit] at hfull
        omega
    · exact hrest.outcome c hc (hsched ▸ hclass)

/-! ## The whole pass -/

/-- The state after the loops over urgent and visible chunks. -/
def afterLoops (cfg : Config) (frame : Int) (s : EngineState S) : EngineState S :=
  ((scheduleChunks cfg frame (viewportLoopChunks cfg s.sched)).run
    ((scheduleChunks cfg frame (urgentLoopChunks cfg s.sched frame)).run s).2).2

theorem afterLoops_planning (cfg : Config) (frame : Int) (s : EngineState S) :
    planningView (afterLoops cfg frame s) = planningView s :=
  ((scheduleChunks_planning cfg frame _).run _).trans ((scheduleChunks_planning cfg frame _).run s)

theorem scheduleLoops_run (frame : Int) (s : EngineState S) :
    ((scheduleLoops cfg frame).run s).2 =
      ((scanTimeline cfg frame (min cfg.chunkCount
        (cfg.scheduler.maxPendingTiles / tilesPerChunk)).toNat).run (afterLoops cfg frame s)).2 := by
  have hsched := planningView_sched
    ((scheduleChunks_planning cfg frame (urgentLoopChunks cfg s.sched frame)).run s)
  unfold scheduleLoops afterLoops
  rw [run_bind, run_read, run_bind, run_bind, run_read, run_bind]
  unfold scheduleChunks at hsched ⊢
  rw [hsched]

theorem Ready.scheduleChunks (hcfg : cfg.Valid) {frame : Int}
    (h : Ready cfg kernel (Scheduled cfg frame) s) (chunks : List Int) :
    Ready cfg kernel (Scheduled cfg frame) ((Anasa.scheduleChunks cfg frame chunks).run s).2 :=
  (scheduleChunks_isolated hcfg h chunks).2

theorem Ready.scanTimeline (hcfg : cfg.Valid) {frame : Int}
    (h : Ready cfg kernel (Scheduled cfg frame) s) (n : ℕ) :
    Ready cfg kernel (Scheduled cfg frame) ((Scheduler.scanTimeline cfg frame n).run s).2 := by
  induction n generalizing s with
  | zero => exact h
  | succ n ih =>
    rw [scanTimeline_run_succ]
    split
    · exact h
    · exact ih (h.scheduleChunk hcfg _).passChunk

theorem Ready.scheduleLoops (hcfg : cfg.Valid) {frame : Int}
    (h : Ready cfg kernel (Scheduled cfg frame) s) :
    Ready cfg kernel (Scheduled cfg frame) ((Scheduler.scheduleLoops cfg frame).run s).2 := by
  rw [scheduleLoops_run]
  exact ((h.scheduleChunks hcfg _).scheduleChunks hcfg _).scanTimeline hcfg _

/-- The members of the scheduler, the cursor apart. -/
def steadyView (s : EngineState S) : SchedulerState :=
  { s.sched with timelineScanCursorInChunks := 0 }

theorem scheduleLoops_steady (cfg : Config) (frame : Int) :
    (scheduleLoops cfg frame : Prog (EngineState S) Unit).Preserves steadyView := by
  have hplanning : ∀ {p : Prog (EngineState S) Unit}, p.Preserves planningView →
      p.Preserves steadyView := fun hp => hp.mono fun s s' h => by
    have hsched : s.sched = s'.sched := congrArg Prod.fst h
    unfold steadyView
    rw [hsched]
  have hscan : ∀ n, (scanTimeline cfg frame n : Prog (EngineState S) Unit).Preserves
      steadyView := by
    intro n
    induction n with
    | zero => exact preserves_pure _
    | succ n ih =>
      exact preserves_read_bind fun ⟨_, chunk⟩ => preserves_ite (preserves_pure _)
        ((hplanning (scheduleChunk_planning cfg chunk frame)).bind fun _ =>
          preserves_modify_bind (fun _ => rfl) fun _ => ih)
  exact preserves_read_bind fun _ => (hplanning (scheduleChunks_planning cfg frame _)).bind fun _ =>
    preserves_read_bind fun _ => (hplanning (scheduleChunks_planning cfg frame _)).bind fun _ =>
      hscan _

/-- **The loops.** The scan covers what it passes; every urgent chunk is covered, or live urgent
tiles leave no room for one; and every other chunk in the viewport is covered, or the queue has no
room for it. -/
theorem scheduleLoops_result (hcfg : cfg.Valid) {frame : Int}
    (h : Ready cfg kernel (Scheduled cfg frame) s) :
    (∃ steps, steps.length ≤
        (min cfg.chunkCount (cfg.scheduler.maxPendingTiles / tilesPerChunk)).toNat ∧
      ScanResult cfg steps (afterLoops cfg frame s) ((scheduleLoops cfg frame).run s).2) ∧
    (cfg.scheduler.policyType = .priority →
      (∀ c, classOf cfg s.sched c frame = .urgent →
        Covered cfg ((scheduleLoops cfg frame).run s).2.render c ∨
          ¬ChunkFits cfg (liveUrgentTiles ((scheduleLoops cfg frame).run s).2.render)) ∧
      ∀ c, 0 ≤ c ∧ c < cfg.chunkCount → classOf cfg s.sched c frame ≠ .urgent →
        chunkIntersectsViewport cfg s.sched c = true →
        Covered cfg ((scheduleLoops cfg frame).run s).2.render c ∨
          pendingTileLimit cfg .background <
            ((scheduleLoops cfg frame).run s).2.render.pendingTiles.length + tilesPerChunk) := by
  have hmem : ∀ c, classOf cfg s.sched c frame = .urgent → 0 ≤ c ∧ c < cfg.chunkCount :=
    fun c => classOf_urgent_mem hcfg h.at_plan.nonneg
  have hready := h.scheduleChunks hcfg (urgentLoopChunks cfg s.sched frame)
  have hsched := planningView_sched
    ((scheduleChunks_planning cfg frame (urgentLoopChunks cfg s.sched frame)).run s)
  have hvisible : ∀ c ∈ viewportLoopChunks cfg s.sched, 0 ≤ c ∧ c < cfg.chunkCount :=
    fun c hc => ((mem_viewportLoopChunks hcfg h.plan.viewport.1 h.plan.viewport.2.2).mp hc).1
  have hafter : Ready cfg kernel (Scheduled cfg frame) (afterLoops cfg frame s) :=
    hready.scheduleChunks hcfg _
  obtain ⟨steps, hlength, hscan⟩ := scanTimeline_run hcfg hafter
    (min cfg.chunkCount (cfg.scheduler.maxPendingTiles / tilesPerChunk)).toNat
  rw [← scheduleLoops_run] at hscan
  refine ⟨⟨steps, hlength, hscan⟩, fun hpolicy => ?_⟩
  have hurgent : ∀ c ∈ urgentLoopChunks cfg s.sched frame,
      (0 ≤ c ∧ c < cfg.chunkCount) ∧ classOf cfg s.sched c frame = .urgent := fun c hc =>
    ⟨hmem c (mem_urgentLoopChunks.mp hc), mem_urgentLoopChunks.mp hc⟩
  rcases urgentLoop_run hcfg h hpolicy hurgent with hall | hfull
  · have hcalm : CalmLoop cfg frame (viewportLoopChunks cfg s.sched) _ (afterLoops cfg frame s) :=
      calmLoop_run hcfg hready hvisible fun c _ hclass =>
        hall c (hsched ▸ hclass) (.inl (mem_urgentLoopChunks.mpr (hsched ▸ hclass)))
    refine ⟨fun c hclass => .inl (hscan.kept c (hcalm.kept c
      (hall c hclass (.inl (mem_urgentLoopChunks.mpr hclass))))), fun c hc hclass hview => ?_⟩
    have hloop := (mem_viewportLoopChunks hcfg h.plan.viewport.1 h.plan.viewport.2.2).mpr ⟨hc, hview⟩
    refine (hcalm.outcome c hloop (by rw [hsched]; exact hclass)).imp (hscan.kept c) fun hlt => ?_
    have hge := hscan.length_ge
    omega
  · have hmono : ¬ChunkFits cfg (liveUrgentTiles ((scheduleLoops cfg frame).run s).2.render) := by
      have hloop := (scheduleChunks_liveUrgent hcfg hready hvisible).trans hscan.liveUrgent
      intro hfits
      refine hfull ?_
      unfold ChunkFits at hfits ⊢
      omega
    refine ⟨fun c _ => .inr hmono, fun c _ _ _ => .inr ?_⟩
    have hle := liveUrgentTiles_le_length ((scheduleLoops cfg frame).run s).2.render
    have hreserved := hcfg.reserved_ge
    have hpos := tilesPerChunk_eq
    have hlimit : pendingTileLimit cfg .background =
      cfg.scheduler.maxPendingTiles - cfg.scheduler.urgentReservedTiles := rfl
    unfold ChunkFits at hmono
    omega

end Anasa
