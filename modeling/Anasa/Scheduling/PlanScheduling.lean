import Anasa.Scheduling.PlanSteps

/-!
# Scheduling keeps the plan

After `updateClassifications` every waiting tile has the class and the deadline of the playhead of
the pass. Making room moves tiles through the buffer and drops some; admission adds the tiles of
one job, classified for that playhead.
-/

namespace Anasa

open Concurrency Contract PriorityQueue Scheduler

variable {S : Type} {cfg : Config} {kernel : RenderKernel S}

/-! ## Refreshing -/

/-- Under the priority policy every waiting tile is labelled for the frame. -/
def LabelledFor (cfg : Config) (frame : Int) (p : Plan) : Prop :=
  InLoop .scheduleRenderJobs p ∧ (cfg.scheduler.policyType = .priority →
    ∀ t ∈ p.waiting, Labelled cfg p.sched p.chunk frame t)

/-- The waiting tiles belong to jobs that have been made. -/
theorem RenderInv.waiting_lt {s : EngineState S} (hi : RenderInv cfg kernel s.render)
    {t : PendingRenderTile} (ht : t ∈ (planOf s).waiting) : t.job < s.render.jobs.made := by
  refine hi.tiles.job_lt t.task (List.mem_append_left _ (List.mem_append_left _ ?_))
  rcases List.mem_append.mp ht with h | h
  · exact List.mem_append_left _ (List.mem_map_of_mem h)
  · exact List.mem_append_right _ (List.mem_map_of_mem h)

/-- A tile that is classified again is labelled. -/
theorem reclassify_labelled {s : EngineState S} (hi : RenderInv cfg kernel s.render)
    {frame : Int} (h₀ : 0 ≤ frame) (h₁ : frame ≤ cfg.totalFrames) {t : PendingRenderTile}
    (ht : t.job < s.render.jobs.made) :
    Labelled cfg (planOf s).sched (planOf s).chunk frame (reclassify cfg s frame t) := by
  have hjob := (@reclassify_key cfg S s frame t).2.1
  have hclassify : classifyChunk cfg s.sched (s.render.jobs.job t.job).chunk frame = _ :=
    classifyChunk_eq (hi.jobs.chunk_mem t.job ht) h₀ h₁
  refine ⟨frame, SamePlayhead.refl h₀ h₁, ?_⟩
  rw [hjob]
  show classifyChunk cfg s.sched (s.render.jobs.job t.job).chunk frame = _
  unfold reclassify
  rw [hclassify]

theorem refreshPendingClassifications_plan {frame : Int} (h₀ : 0 ≤ frame)
    (h₁ : frame ≤ cfg.totalFrames) :
    (planContract cfg kernel).Triple
      (fun s : EngineState S => InLoop .scheduleRenderJobs (planOf s))
      (refreshPendingClassifications cfg frame) fun _ s => LabelledFor cfg frame (planOf s) := by
  refine triple_owned_modify (InLoop .scheduleRenderJobs) (LabelledFor cfg frame)
    fun s hi hp h => ?_
  have hbuffer : s.render.reclassificationBuffer = [] := h.buffer
  have hqueue : PendingInv cfg s.render.pendingTiles [] s.render.nextTileSequence :=
    hbuffer ▸ hp.queue
  have hperm := pushAllPending_perm cfg (s.render.pendingTiles.map (reclassify cfg s frame)) []
  refine ⟨.inl ⟨?_, rfl⟩, { hp with queue := ?_ }, ⟨h.started, h.phase, rfl⟩,
    fun _ t ht => ?_⟩
  · show ((pushAllPending cfg _ [] ++ []).map PendingRenderTile.key).Subperm
      ((s.render.pendingTiles ++ s.render.reclassificationBuffer).map PendingRenderTile.key)
    rw [hbuffer, List.append_nil, List.append_nil]
    exact (refresh_keys s frame).subperm
  · exact hqueue.refresh (fun t => (reclassify_key s frame t).2.2)
      (fun t => (reclassify_key s frame t).2.1) (reclassify_uniform s frame)
  · have ht' : t ∈ pushAllPending cfg (s.render.pendingTiles.map (reclassify cfg s frame)) [] ++ [] :=
      ht
    rw [List.append_nil, hperm.mem_iff, List.append_nil] at ht'
    obtain ⟨t₀, hmem, rfl⟩ := List.mem_map.mp ht'
    exact reclassify_labelled hi h₀ h₁ (hi.waiting_lt (List.mem_append_left _ hmem))

/-- In a pass of `scheduleRenderJobs` for a frame, with tiles set aside; `R` holds of the
scheduler. -/
structure Planning (cfg : Config) (frame : Int) (R : SchedulerState → Prop)
    (buffer : List PendingRenderTile) (p : Plan) : Prop where
  started : p.sched.started = true
  phase : p.phase = .scheduleRenderJobs
  buffer : p.buffer = buffer
  playhead : p.history.playheadFrame = frame
  nonneg : 0 ≤ frame
  le_total : frame ≤ cfg.totalFrames
  fresh : cfg.scheduler.policyType = .priority → FreshLabels cfg p
  extra : R p.sched

/-- In a pass for a frame, between two chunks. -/
abbrev Scheduled (cfg : Config) (frame : Int) : Plan → Prop :=
  Planning cfg frame (fun _ => True) []

/-- In a pass for a frame, with the classification of a chunk. -/
abbrev Classified (cfg : Config) (frame chunk : Int) (classification : RenderClassification) :
    Plan → Prop :=
  Planning cfg frame (fun sched => classifyChunk cfg sched chunk frame = .ok classification) []

/-- What the refresh must leave behind, refreshing or not. -/
theorem updateClassifications_plan {frame : Int} (h₀ : 0 ≤ frame) (h₁ : frame ≤ cfg.totalFrames) :
    (planContract cfg kernel).Triple
      (fun s : EngineState S => Planned cfg .scheduleRenderJobs (planOf s))
      (updateClassifications cfg frame)
      fun _ s => Scheduled cfg frame (planOf s) := by
  have hstable := planContract_stable cfg kernel (S := S)
  have hrecord : (planContract cfg kernel).Triple
      (fun s : EngineState S => LabelledFor cfg frame (planOf s))
      (.modify fun s => { s with
        sched := { s.sched with
          pendingClassificationsDirty := false
          lastClassifiedPlayheadChunk := playheadChunk cfg frame
          lastClassifiedUrgentChunkEnd := urgentChunkEnd cfg frame }
        schedulingHistory.playheadFrame := frame })
      fun _ s => Scheduled cfg frame (planOf s) := by
    refine triple_planModify (LabelledFor cfg frame) (Scheduled cfg frame)
      (fun _ => ⟨rfl, rfl, rfl⟩) fun s _ hp h => ⟨{ hp with }, ?_⟩
    exact ⟨h.1.started, h.1.phase, h.1.buffer, rfl, h₀, h₁, fun hpolicy =>
      ⟨h₀, h₁, rfl, rfl, fun t ht => (h.2 hpolicy t ht).of_eq rfl rfl rfl rfl⟩, trivial⟩
  refine Triple.bind hstable (triple_planRead (Planned cfg .scheduleRenderJobs)
    (fun changed p => Planned cfg .scheduleRenderJobs p ∧
      (changed = false → cfg.scheduler.policyType = .priority →
        classificationChanged cfg frame p.sched = false))
    fun s _ _ h => ⟨h, fun hno hpolicy => ?_⟩) fun changed => triple_ite (fun _ => ?_) fun hno => ?_
  · simp only [hpolicy, decide_true, Bool.true_and] at hno
    exact hno
  · refine Triple.bind hstable ?_ fun _ => hrecord
    exact (refreshPendingClassifications_plan h₀ h₁).conseq (fun _ _ h => h.1.1) fun _ _ _ h => h
  · refine hrecord.conseq (fun s _ h => ⟨h.1.1, fun hpolicy t ht => ?_⟩) fun _ _ _ h => h
    have hsame := h.2 (by simpa using hno) hpolicy
    simp only [classificationChanged, Bool.or_eq_false_iff, bne_eq_false_iff_eq] at hsame
    obtain ⟨⟨hdirty, hchunk⟩, hend⟩ := hsame
    rcases h.1.2 hpolicy with hd | hfresh
    · rw [hdirty] at hd
      cases hd
    · obtain ⟨f, hf, hlabel⟩ := hfresh.labelled t ht
      exact ⟨f, hf.trans (hfresh.chunk.symm.trans hchunk.symm)
        (hfresh.urgentEnd.symm.trans hend.symm), hlabel⟩

/-! ## Making room -/

section

variable {frame : Int} {R : SchedulerState → Prop} {buffer : List PendingRenderTile}

/-- Tiles move between the queue and the buffer, or leave. -/
theorem Planning.move {p p' : Plan} (h : Planning cfg frame R buffer p)
    {buffer' : List PendingRenderTile} (hsched : p'.sched = p.sched) (hphase : p'.phase = p.phase)
    (hhistory : p'.history = p.history) (horigins : p'.origins = p.origins)
    (hbuffer : p'.buffer = buffer') (hwaiting : ∀ t ∈ p'.waiting, t ∈ p.waiting) :
    Planning cfg frame R buffer' p' where
  started := hsched ▸ h.started
  phase := hphase ▸ h.phase
  buffer := hbuffer
  playhead := hhistory ▸ h.playhead
  nonneg := h.nonneg
  le_total := h.le_total
  fresh hp := (h.fresh hp).of_eq (by rw [hsched]) (by rw [hsched]) (by rw [hsched])
    (by rw [hsched]) (by rw [hsched]) (by rw [hhistory]) horigins hwaiting
  extra := hsched ▸ h.extra

theorem tileIsCancelled_plan (P : Plan → Prop) (tile : PendingRenderTile) :
    (planContract cfg kernel).Triple (fun s : EngineState S => P (planOf s))
      (tileIsCancelled tile) fun _ s => P (planOf s) :=
  triple_planFrame (Prog.preserves_read _) P

theorem retireTile_planOf (tile : PendingRenderTile) (s : EngineState S) :
    planOf { s with render := retireTile cfg tile s.render } =
      { planOf s with
        buffer := (planOf s).buffer.tail
        activeJobs := (retireTile cfg tile s.render).activeJobs } := by
  rw [retireTile_eq]
  simp only [planOf, JobTable.countDown_origins]

theorem retireOrKeep_plan (tile : PendingRenderTile) (rest : List PendingRenderTile) :
    (planContract cfg kernel).Triple
      (fun s : EngineState S => Planning cfg frame R (tile :: rest) (planOf s))
      (retireOrKeep cfg tile) fun _ s => Planning cfg frame R rest (planOf s) := by
  refine (tileIsCancelled_plan _ tile).bind (planContract_stable cfg kernel) fun _ =>
    triple_ite (fun _ => ?_) fun _ => ?_
  · refine triple_owned_modify (Planning cfg frame R (tile :: rest)) (Planning cfg frame R rest)
      fun s _ hp h => ?_
    rw [retireTile_planOf]
    have hqueue := hp.queue
    have hsub : ((planOf s).pendingTiles ++ (planOf s).buffer.tail).Sublist (planOf s).waiting :=
      (List.tail_sublist _).append_left _
    rw [h.buffer] at hqueue
    refine ⟨.of_subperm hsub.subperm rfl, { hp with queue := ?_, registered := fun c j hj => ?_ },
      h.move rfl rfl rfl rfl ?_ hsub.subset⟩
    · rw [h.buffer]
      exact hqueue.retire
    · exact hp.registered c j (retireTile_activeJobs hj)
    · rw [h.buffer]
      rfl
  · refine triple_owned_modify (Planning cfg frame R (tile :: rest)) (Planning cfg frame R rest)
      fun s _ hp h => ?_
    have hqueue := hp.queue
    have hbuffer : s.render.reclassificationBuffer = tile :: rest := h.buffer
    rw [h.buffer] at hqueue
    have hplan : planOf { s with render := keepTile cfg tile s.render } =
        { planOf s with
          pendingTiles := pushPending cfg tile (planOf s).pendingTiles
          buffer := rest } := by
      simp only [planOf, keepTile, hbuffer, List.tail_cons]
    rw [hplan]
    have hperm : (pushPending cfg tile (planOf s).pendingTiles ++ rest).Perm (planOf s).waiting := by
      rw [Plan.waiting, h.buffer]
      exact PendingInv.keep_perm tile
    exact ⟨.of_subperm hperm.subperm rfl, { hp with queue := hqueue.keep },
      h.move rfl rfl rfl rfl rfl hperm.subset⟩

theorem makeRoomForUrgentChunk_plan :
    (planContract cfg kernel).Triple
      (fun s : EngineState S => Planning cfg frame R [] (planOf s))
      (makeRoomForUrgentChunk cfg) fun _ s => Planning cfg frame R [] (planOf s) := by
  have hstable := planContract_stable cfg kernel (S := S)
  have hloop : ∀ tiles, (planContract cfg kernel).Triple
      (fun s : EngineState S => Planning cfg frame R tiles (planOf s))
      (.forEach (retireOrKeep cfg) tiles) fun _ s => Planning cfg frame R [] (planOf s) := by
    intro tiles
    induction tiles with
    | nil => exact triple_planPure (Q := fun _ => Planning cfg frame R []) fun _ _ h => h
    | cons tile rest ih => exact (retireOrKeep_plan tile rest).bind hstable fun _ => ih
  have haside : (planContract cfg kernel).Triple
      (fun s : EngineState S => Planning cfg frame R [] (planOf s))
      (.atomically fun s =>
        (s.render.pendingTiles, { s with render := { s.render with
          reclassificationBuffer := s.render.pendingTiles
          pendingTiles := [] } }))
      fun tiles s => Planning cfg frame R tiles (planOf s) := by
    refine triple_owned_atomically _ (Planning cfg frame R) fun s _ hp h => ?_
    have hbuffer : s.render.reclassificationBuffer = [] := h.buffer
    have hqueue : PendingInv cfg s.render.pendingTiles [] s.render.nextTileSequence :=
      hbuffer ▸ hp.queue
    have hwaiting : (planOf s).waiting = s.render.pendingTiles := by
      rw [Plan.waiting, h.buffer, List.append_nil]
      rfl
    refine ⟨.of_subperm ?_ rfl, { hp with queue := hqueue.take },
      h.move rfl rfl rfl rfl rfl fun t ht => ?_⟩
    · rw [hwaiting]
      exact List.Subperm.refl _
    · rw [hwaiting]
      exact ht
  exact haside.bind hstable fun tiles =>
    (triple_planFrame (worker_planOf (countRetained_workerView tiles)) _).bind hstable fun _ =>
      (triple_planFrame (worker_planOf (evictJobs_workerView cfg _ _ _)) _).bind hstable fun _ =>
      hloop tiles

theorem makeRoomIfUrgent_plan (priority : RenderPriority) :
    (planContract cfg kernel).Triple
      (fun s : EngineState S => Planning cfg frame R [] (planOf s))
      (makeRoomIfUrgent cfg priority) fun _ s => Planning cfg frame R [] (planOf s) :=
  triple_ite
    (fun _ => triple_planFrame_bind (Prog.preserves_read _) fun _ => triple_ite
      (fun _ => makeRoomForUrgentChunk_plan)
      fun _ => triple_planPure (Q := fun _ => Planning cfg frame R []) fun _ _ h => h)
    fun _ => triple_planPure (Q := fun _ => Planning cfg frame R []) fun _ _ h => h

/-! ## Admission -/

theorem pendingTileLimit_le (hcfg : cfg.Valid) (priority : RenderPriority) :
    pendingTileLimit cfg priority ≤ cfg.scheduler.maxPendingTiles := by
  have hreserved := hcfg.reserved_ge
  have htiles := tilesPerChunk_eq
  unfold pendingTileLimit
  split <;> omega

/-- The queue has room for a chunk of the priority. -/
def Room (cfg : Config) (priority : RenderPriority) (p : Plan) : Prop :=
  (p.pendingTiles.length : Int) + tilesPerChunk ≤ pendingTileLimit cfg priority

variable [Zero S]

/-- The plan after a chunk of the timeline is admitted. -/
theorem admitChunk_planOf {chunk : Int} (hchunk : 0 ≤ chunk ∧ chunk < cfg.chunkCount)
    (version : Int) (classification : RenderClassification) (s : EngineState S) :
    planOf { s with render := admitChunk cfg chunk version classification s.render } =
      { planOf s with
        pendingTiles := pushAllPending cfg
          (newTiles (planOf s).made classification (planOf s).nextTileSequence)
          (planOf s).pendingTiles
        nextTileSequence := (planOf s).nextTileSequence + tilesPerChunk
        activeJobs := Function.update (planOf s).activeJobs chunk (some (planOf s).made)
        origins := ((planOf s).made + 1,
          Function.update (planOf s).origins.2 (planOf s).made (chunk, version)) } := by
  have horigins := ActiveRenderJobs.cancel_origins cfg chunk s.render
  have heq := ActiveRenderJobs.cancel_eq cfg chunk s.render
  have hmade : (ActiveRenderJobs.cancel cfg chunk s.render).jobs.made = s.render.jobs.made :=
    congrArg Prod.fst horigins
  unfold admitChunk ActiveRenderJobs.create
  rw [if_neg (by omega)]
  dsimp only [planOf]
  rw [JobTable.add_origins, horigins, hmade, heq]
  rfl

/-- A job made now, for a chunk classified for the pass, keeps the labels fresh. -/
theorem Planning.admit {frame : Int} {chunk version : Int} {classification : RenderClassification}
    {p p' : Plan}
    (h : Classified cfg frame chunk classification p) (hlt : ∀ t ∈ p.waiting, t.job < p.made)
    (hsched : p'.sched = p.sched)
    (hphase : p'.phase = p.phase) (hbuffer : p'.buffer = p.buffer)
    (hhistory : p'.history = p.history)
    (horigins : p'.origins =
      (p.made + 1, Function.update p.origins.2 p.made (chunk, version)))
    (hpending : p'.pendingTiles.Perm (newTiles p.made classification p.nextTileSequence ++
      p.pendingTiles)) : Scheduled cfg frame p' where
  started := hsched ▸ h.started
  phase := hphase ▸ h.phase
  buffer := hbuffer ▸ h.buffer
  playhead := hhistory ▸ h.playhead
  nonneg := h.nonneg
  le_total := h.le_total
  extra := trivial
  fresh hpolicy := by
    have hfresh := h.fresh hpolicy
    have hchunk : ∀ j, p'.chunk j =
        (Function.update p.origins.2 p.made (chunk, version) j).1 := fun j => by
      rw [Plan.chunk, horigins]
    refine ⟨hhistory ▸ hfresh.nonneg, hhistory ▸ hfresh.le_total, ?_, ?_, fun t ht => ?_⟩
    · rw [hsched, hhistory, hfresh.chunk]
    · rw [hsched, hhistory, hfresh.urgentEnd]
    · rw [Plan.waiting, hbuffer, h.buffer, List.append_nil, hpending.mem_iff] at ht
      rw [hhistory, hsched]
      rcases List.mem_append.mp ht with hnew | hold
      · obtain ⟨hjob, hclass, -, -⟩ := mem_newTiles hnew
        rw [h.playhead]
        refine ⟨frame, SamePlayhead.refl h.nonneg h.le_total, ?_⟩
        rw [hchunk, hjob, Function.update_self, hclass]
        exact h.extra
      · have hmem : t ∈ p.waiting := List.mem_append_left _ hold
        refine (hfresh.labelled t hmem).of_eq rfl rfl rfl ?_
        rw [hchunk, Function.update_of_ne (hlt t hmem).ne]
        rfl

theorem admitIfRoom_plan (hcfg : cfg.Valid) {frame chunk : Int} (version : Int)
    (classification : RenderClassification) :
    (planContract cfg kernel).Triple
      (fun s : EngineState S => Classified cfg frame chunk classification (planOf s))
      (admitIfRoom cfg chunk version classification)
      fun _ s => Scheduled cfg frame (planOf s) := by
  have hstable := planContract_stable cfg kernel (S := S)
  refine Triple.bind hstable (triple_planRead _ (fun full p => Classified cfg frame chunk classification p ∧
    (full = false → Room cfg classification.priority p)) fun s _ _ h => ⟨h, fun hroom => ?_⟩)
    fun full => triple_ite (fun hno => ?_) fun _ => ?_
  · simpa [Room, queueIsFull, planOf] using hroom
  · obtain rfl : full = false := by simpa using hno
    refine triple_owned_modify (fun p => Classified cfg frame chunk classification p ∧
      (false = false → Room cfg classification.priority p))
      (Scheduled cfg frame) fun s hi hp h => ?_
    obtain ⟨hplanning, hroom⟩ := h
    have hlimit := pendingTileLimit_le hcfg classification.priority
    have hroom' : ((planOf s).pendingTiles.length : Int) + tilesPerChunk ≤
        pendingTileLimit cfg classification.priority := hroom rfl
    have hqueue := hp.queue
    rw [hplanning.buffer] at hqueue
    have hlt : ∀ t ∈ (planOf s).waiting, t.job < (planOf s).made := fun t ht => hi.waiting_lt ht
    have hperm := pushAllPending_perm cfg
      (newTiles (planOf s).made classification (planOf s).nextTileSequence) (planOf s).pendingTiles
    rw [admitChunk_planOf (classifyChunk_mem hplanning.extra)]
    refine ⟨.inr ⟨classification, rfl, hplanning.buffer, hplanning.buffer, hperm, hroom'⟩,
      { hp with queue := ?_, registered := fun c j hj => ?_, firstJob_le := ?_ },
      hplanning.admit hlt rfl rfl rfl rfl rfl hperm⟩
    · rw [hplanning.buffer]
      exact hqueue.admit (fun t ht => (hlt t (List.mem_append_left _ ht)).ne) classification
        (hroom'.trans hlimit)
    · dsimp only at hj
      rw [Function.update_apply] at hj
      split at hj
      · obtain rfl := Option.some.inj hj
        exact hp.firstJob_le
      · exact hp.registered c j hj
    · exact hp.firstJob_le.trans (Nat.le_succ _)
  · exact triple_planPure (P := fun p => Classified cfg frame chunk classification p ∧
      (full = false → Room cfg classification.priority p))
      (Q := fun _ => Scheduled cfg frame) fun _ _ h => { h.1 with extra := trivial }

theorem scheduleChunk_plan (hcfg : cfg.Valid) (chunk frame : Int) :
    (planContract cfg kernel).Triple
      (fun s : EngineState S => Scheduled cfg frame (planOf s))
      (scheduleChunk cfg chunk frame)
      fun _ s => Scheduled cfg frame (planOf s) := by
  have hstable := planContract_stable cfg kernel (S := S)
  have hreturn : ∀ P : Plan → Prop, (∀ p, P p → Scheduled cfg frame p) →
      (planContract cfg kernel).Triple (fun s : EngineState S => P (planOf s))
        (pure () : Prog (EngineState S) Unit)
        fun _ s => Scheduled cfg frame (planOf s) := fun P h =>
    triple_planPure (Q := fun _ => Scheduled cfg frame) fun p _ => h p
  refine triple_ite (fun _ => hreturn _ fun _ h => h) fun _ =>
    triple_planFrame_bind (Prog.preserves_read _) fun _ => triple_ite
      (fun _ => hreturn _ fun _ h => h) fun _ =>
        triple_planFrame_bind (Prog.preserves_read _) fun version =>
          triple_planFrame_bind (Prog.preserves_read _) fun _ => triple_ite
            (fun _ => hreturn _ fun _ h => h) fun _ => ?_
  refine Triple.bind hstable (triple_planRead _ (fun result p =>
    Planning cfg frame (fun sched => classifyChunk cfg sched chunk frame = result) [] p)
    fun s _ _ h => { h with extra := rfl }) fun result => ?_
  cases result with
  | error e => exact hreturn _ fun p h => { h with extra := trivial }
  | ok classification =>
    exact (makeRoomIfUrgent_plan classification.priority).bind hstable fun _ =>
      admitIfRoom_plan hcfg version classification

theorem scanTimeline_plan (hcfg : cfg.Valid) (frame : Int) (n : ℕ) :
    (planContract cfg kernel).Triple
      (fun s : EngineState S => Scheduled cfg frame (planOf s))
      (scanTimeline cfg frame n)
      fun _ s => Scheduled cfg frame (planOf s) := by
  have hstable := planContract_stable cfg kernel (S := S)
  induction n with
  | zero => exact triple_planPure (Q := fun _ => Scheduled cfg frame) fun _ _ h => h
  | succ n ih =>
    refine triple_planFrame_bind (Prog.preserves_read _) fun ⟨_, chunk⟩ => triple_ite
      (fun _ => triple_planPure (Q := fun _ => Scheduled cfg frame)
        fun _ _ h => h) fun _ => ?_
    refine (scheduleChunk_plan hcfg _ _).bind hstable fun _ => Triple.bind hstable ?_ fun _ => ih
    refine triple_planModify (Scheduled cfg frame)
      (Scheduled cfg frame) (fun _ => ⟨rfl, rfl, rfl⟩) fun s _ hp h => ⟨?_, ?_⟩
    · have hpos : 0 < cfg.chunkCount := lt_of_le_of_lt hp.cursor.1 hp.cursor.2
      exact { hp with cursor := ⟨Int.emod_nonneg _ hpos.ne', Int.emod_lt_of_pos _ hpos⟩ }
    · exact { h with
        fresh := fun hpolicy => (h.fresh hpolicy).of_eq rfl rfl rfl rfl rfl rfl rfl fun _ ht => ht }

theorem scheduleLoops_plan (hcfg : cfg.Valid) (frame : Int) :
    (planContract cfg kernel).Triple
      (fun s : EngineState S => Scheduled cfg frame (planOf s))
      (scheduleLoops cfg frame)
      fun _ s => Scheduled cfg frame (planOf s) := by
  have hstable := planContract_stable cfg kernel (S := S)
  have hchunks : ∀ chunks, (planContract cfg kernel).Triple
      (fun s : EngineState S => Scheduled cfg frame (planOf s))
      (.forEach (fun chunk => scheduleChunk cfg chunk frame) chunks)
      fun _ s => Scheduled cfg frame (planOf s) := fun chunks =>
    triple_forEach hstable (kept_owned _) fun chunk _ => scheduleChunk_plan hcfg chunk frame
  exact triple_planFrame_bind (Prog.preserves_read _) fun _ => (hchunks _).bind hstable fun _ =>
    triple_planFrame_bind (Prog.preserves_read _) fun _ => (hchunks _).bind hstable fun _ =>
      scanTimeline_plan hcfg frame _

/-- **Scheduling.** Afterwards every label is fresh. -/
theorem scheduleRenderJobs_plan (hcfg : cfg.Valid) :
    (planContract cfg kernel).Triple
      (fun s : EngineState S => Planned cfg .scheduleRenderJobs (planOf s))
      (scheduleRenderJobs cfg)
      fun _ s => ∃ frame, Scheduled cfg frame (planOf s) := by
  have hstable := planContract_stable cfg kernel (S := S)
  refine (currentFrame_plan hcfg _).bind hstable fun frame => ?_
  refine Triple.of_pre (φ := 0 ≤ frame ∧ frame ≤ cfg.totalFrames) (fun s h => h.2) fun hframe => ?_
  refine Triple.conseq ?_ (fun s _ h => h.1) fun _ _ _ h => ⟨frame, h⟩
  exact (updateClassifications_plan hframe.1 hframe.2).bind hstable fun _ =>
    scheduleLoops_plan hcfg frame

end

end Anasa
