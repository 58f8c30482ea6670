import Anasa.Scheduling.WorkKept

/-!
# Coverage in quiet stretches

Every access of the scheduler thread is a step of `WorkKept`: this is `workLayer`. So it keeps
covered chunks covered while nothing is edited and no job is cancelled: this is `coverageLayer`.
-/

namespace Anasa

open Concurrency Contract Scheduler

variable {S : Type} {cfg : Config} {kernel : RenderKernel S} {r r' : RenderState S}

/-! ## The scheduler thread -/

variable [Zero S]

/-- The scheduler may run the program at any time. -/
abbrev KeepsWork (hcfg : cfg.Valid) (kernel : RenderKernel S) {α : Type}
    (p : Prog (EngineState S) α) : Prop :=
  ((planLayer hcfg kernel).discipline.contract .scheduler).Guarantees
    (fun s s' => WorkKept cfg s.render s'.render) p

variable {hcfg : cfg.Valid}

theorem keepsWork_of_registry {α : Type} {p : Prog (EngineState S) α}
    (hp : p.Preserves fun s => registryOf s.render) : KeepsWork hcfg kernel p :=
  guarantees_of_preserves hp fun _ _ hi h => .of_registry hi.1 h

theorem keepsWork_of_render {α : Type} {p : Prog (EngineState S) α}
    (hp : p.Preserves renderView) : KeepsWork hcfg kernel p :=
  keepsWork_of_registry (hp.mono fun _ _ h => congrArg (fun v => registryOf v.1) h)

omit [Zero S] in
theorem worker_registry {α : Type} {p : Prog (EngineState S) α} (hp : p.Preserves workerView) :
    p.Preserves fun s => registryOf s.render :=
  hp.mono fun s s' h => by
    simp only [workerView, contentView, Prod.mk.injEq] at h
    simp only [registryOf, h]

theorem KeepsWork.bind {α β : Type} {p : Prog (EngineState S) α}
    {g : α → Prog (EngineState S) β} (hp : KeepsWork hcfg kernel p)
    (hg : ∀ a, KeepsWork hcfg kernel (g a)) : KeepsWork hcfg kernel (p >>= g) :=
  Guarantees.bind ((planLayer hcfg kernel).discipline.contract_stable .scheduler) hp hg

theorem KeepsWork.read_bind {α β : Type} {q : EngineState S → α}
    {g : α → Prog (EngineState S) β} (hg : ∀ a, KeepsWork hcfg kernel (g a)) :
    KeepsWork hcfg kernel (.read q >>= g) :=
  (keepsWork_of_registry (Prog.preserves_read q)).bind hg

theorem KeepsWork.modify_bind {β : Type} {f : EngineState S → EngineState S}
    {g : Unit → Prog (EngineState S) β}
    (hf : ∀ s, registryOf (f s).render = registryOf s.render)
    (hg : ∀ a, KeepsWork hcfg kernel (g a)) : KeepsWork hcfg kernel (.modify f >>= g) :=
  (keepsWork_of_registry (Prog.preserves_modify hf)).bind hg

theorem KeepsWork.forEach {α : Type} {f : α → Prog (EngineState S) Unit} {xs : List α}
    (h : ∀ x ∈ xs, KeepsWork hcfg kernel (f x)) : KeepsWork hcfg kernel (.forEach f xs) :=
  guarantees_forEach ((planLayer hcfg kernel).discipline.contract_stable .scheduler) h

/-! ### Commands -/

theorem invalidateVersions_keepsWork (firstFrame lastFrame : Int) :
    KeepsWork hcfg kernel (invalidateVersions cfg firstFrame lastFrame) := by
  refine KeepsWork.forEach fun chunk _ =>
    KeepsWork.bind ?_ fun _ => keepsWork_of_registry ?_
  · exact guarantees_modify fun s hi => bumpVersion_workKept hi.1 chunk
  · refine Prog.preserves_modify fun s => ?_
    have horigins := ActiveRenderJobs.cancel_origins cfg chunk s.render
    dsimp only [registryOf]
    rw [horigins, ActiveRenderJobs.cancel_eq]

theorem handleCommand_keepsWork (command : Command) :
    KeepsWork hcfg kernel (handleCommand cfg command) := by
  have hdirty : KeepsWork hcfg kernel (setClassificationsDirty : Prog (EngineState S) Unit) :=
    keepsWork_of_render setClassificationsDirty_renderView
  rcases command with ⟨type, firstFrame, lastFrame⟩
  cases type with
  | play =>
    exact (keepsWork_of_render PlaybackController.requestPlay_renderView).bind fun _ =>
      Guarantees.ite (fun _ => hdirty) fun _ => guarantees_pure _
  | pause =>
    exact (keepsWork_of_render PlaybackController.pause_renderView).bind fun _ =>
      Guarantees.ite (fun _ => hdirty) fun _ => guarantees_pure _
  | seek =>
    exact (keepsWork_of_render (preserves_renderView
      (beginAudioGeneration_publishingView _ _))).bind fun _ => hdirty
  | setViewport => exact keepsWork_of_registry (Prog.preserves_modify fun _ => rfl)
  | edit =>
    refine KeepsWork.modify_bind (fun _ => rfl) fun _ =>
      (invalidateVersions_keepsWork _ _).bind fun _ =>
        keepsWork_of_render (preserves_renderView ?_)
    exact (PlaybackProtocol.currentFrame_publishingView cfg).bind fun _ =>
      Prog.preserves_read_bind fun _ => (beginAudioGeneration_publishingView _ _).bind fun _ =>
        Prog.preserves_modify fun _ => rfl
  | stop =>
    exact KeepsWork.modify_bind (fun _ => rfl) fun _ =>
      keepsWork_of_registry (Prog.preserves_modify fun _ => rfl)

/-! ### Making room

What makes room covers no chunk, so the chunk that needs it is not covered afterwards. -/

/-- Accesses that neither lose work nor cover a chunk. -/
abbrev CoversNothing (hcfg : cfg.Valid) (kernel : RenderKernel S) {α : Type}
    (p : Prog (EngineState S) α) : Prop :=
  ((planLayer hcfg kernel).discipline.contract .scheduler).Guarantees
    (fun s s' => WorkKept cfg s.render s'.render ∧ Uncovers cfg s.render s'.render) p

theorem CoversNothing.bind {α β : Type} {p : Prog (EngineState S) α}
    {g : α → Prog (EngineState S) β} (hp : CoversNothing hcfg kernel p)
    (hg : ∀ a, CoversNothing hcfg kernel (g a)) : CoversNothing hcfg kernel (p >>= g) :=
  Guarantees.bind ((planLayer hcfg kernel).discipline.contract_stable .scheduler) hp hg

theorem coversNothing_read {α : Type} (q : EngineState S → α) : CoversNothing hcfg kernel (.read q) :=
  guarantees_of_preserves (Prog.preserves_read (v := id) q) fun s s' _ h => by
    cases (show s' = s from h)
    exact ⟨.refl s.render, .refl s.render⟩

theorem countRetained_coversNothing (tiles : List PendingRenderTile) :
    CoversNothing hcfg kernel (countRetained tiles) := by
  induction tiles with
  | nil => exact guarantees_pure _
  | cons tile tiles ih =>
    exact (coversNothing_read _).bind fun _ => ih.bind fun _ => guarantees_pure _

theorem evictJobs_coversNothing (buffer : List PendingRenderTile) (retained : Int)
    (tiles : List PendingRenderTile) :
    CoversNothing hcfg kernel (evictJobs cfg buffer retained tiles) := by
  induction tiles generalizing retained with
  | nil => exact guarantees_pure _
  | cons tile tiles ih =>
    have hcancel : CoversNothing hcfg kernel (cancelJob tile.job : Prog (EngineState S) Unit) :=
      guarantees_modify fun s hi => by
        refine ⟨.of_registry hi.1 ?_, cancel_uncovers s.render tile.job⟩
        simp only [registryOf, JobTable.cancel_origins]
    exact Guarantees.ite (fun _ => Guarantees.ite (fun _ => ih _) fun _ => (coversNothing_read _).bind
      fun _ => Guarantees.ite (fun _ => ih _) fun _ => hcancel.bind fun _ => ih _)
        fun _ => guarantees_pure _

theorem retireOrKeep_coversNothing (tile : PendingRenderTile) :
    CoversNothing hcfg kernel (retireOrKeep cfg tile) := by
  have hstable := ((planLayer hcfg kernel).discipline.contract_stable .scheduler).guaranteeing
    (G := fun s s' => WorkKept cfg s.render s'.render ∧ Uncovers cfg s.render s'.render)
  have hkept : (((planLayer hcfg kernel).discipline.contract .scheduler).guaranteeing
      fun s s' => WorkKept cfg s.render s'.render ∧ Uncovers cfg s.render s'.render).Kept fun s =>
        tile.job < s.render.jobs.made → (s.render.jobs.job tile.job).cancelled = true := by
    rintro s s' h ⟨-, hr, -⟩ - hlt
    have hmade : s'.render.jobs.made = s.render.jobs.made := hr.1.2.1.made
    exact hr.1.1.cancelled _ (hmade ▸ hlt) (h (hmade ▸ hlt))
  refine Triple.bind hstable (triple_read (fun s => ⟨.refl s.render, .refl s.render⟩) kept_true
    (Q := fun cancelled s => cancelled = true → tile.job < s.render.jobs.made →
      (s.render.jobs.job tile.job).cancelled = true) (fun cancelled s s' h hr hi hc =>
        hkept s s' (h hc) hr hi) fun s _ _ hc _ => hc) fun cancelled => triple_ite (fun hc => ?_)
      fun _ => ?_
  · refine (triple_modify_rely hkept kept_true fun _ s hr _ h =>
      ⟨⟨?_, retireTile_uncovers tile s.render⟩, trivial, trivial⟩).conseq
        (fun _ _ h => h hc) fun _ _ _ h => h
    exact retireTile_workKept hr.2.2.1 h
  · have hkeep : CoversNothing hcfg kernel (.modify fun s : EngineState S =>
        { s with render := keepTile cfg tile s.render }) :=
      guarantees_modify fun _ hi => ⟨.of_registry hi.1 rfl, .of_registry rfl rfl⟩
    exact hkeep.conseq (fun _ _ _ => trivial) fun _ _ _ h => h

theorem makeRoomForUrgentChunk_coversNothing :
    CoversNothing hcfg kernel (makeRoomForUrgentChunk cfg) := by
  have haside : CoversNothing hcfg kernel (.atomically fun s : EngineState S =>
      (s.render.pendingTiles, { s with render := { s.render with
        reclassificationBuffer := s.render.pendingTiles
        pendingTiles := [] } })) :=
    guarantees_atomically fun _ hi => ⟨.of_registry hi.1 rfl, .of_registry rfl rfl⟩
  exact haside.bind fun tiles =>
    (countRetained_coversNothing tiles).bind fun _ => (evictJobs_coversNothing _ _ _).bind fun _ =>
      guarantees_forEach ((planLayer hcfg kernel).discipline.contract_stable .scheduler)
        fun tile _ => retireOrKeep_coversNothing tile

theorem makeRoomIfUrgent_coversNothing (priority : RenderPriority) :
    CoversNothing hcfg kernel (makeRoomIfUrgent cfg priority : Prog (EngineState S) Unit) :=
  Guarantees.ite (fun _ => (coversNothing_read _).bind fun _ =>
    Guarantees.ite (fun _ => makeRoomForUrgentChunk_coversNothing) fun _ => guarantees_pure _)
    fun _ => guarantees_pure _

/-! ### Scheduling and dispatch -/

theorem scheduleChunk_keepsWork (chunk frame : Int) :
    KeepsWork hcfg kernel (scheduleChunk cfg chunk frame) := by
  have hstable := ((planLayer hcfg kernel).discipline.contract_stable .scheduler).guaranteeing
    (G := fun s s' => WorkKept cfg s.render s'.render)
  have hrefl : ∀ s : EngineState S, WorkKept cfg s.render s.render := fun s => .refl s.render
  have hcache : (((planLayer hcfg kernel).discipline.contract .scheduler).guaranteeing
      fun s s' => WorkKept cfg s.render s'.render).Kept fun s =>
        ¬cacheIsCurrent cfg chunk s.render = true := by
    rintro s s' h ⟨-, hr, -⟩ -
    unfold cacheIsCurrent RenderCache.findCurrent at h ⊢
    rwa [hr.1.2.1.cacheEntries, hr.1.2.1.versions]
  have hversion : ∀ version, (((planLayer hcfg kernel).discipline.contract .scheduler).guaranteeing
      fun s s' => WorkKept cfg s.render s'.render).Kept fun s =>
        ¬cacheIsCurrent cfg chunk s.render = true ∧ s.render.versions chunk = version :=
    fun version s s' h hr hi =>
      ⟨hcache s s' h.1 hr hi, (congrFun hr.2.1.1.2.1.versions chunk).trans h.2⟩
  have huncovered : ∀ version,
      (((planLayer hcfg kernel).discipline.contract .scheduler).guaranteeing
        fun s s' => WorkKept cfg s.render s'.render).Kept fun s =>
          Uncovered cfg chunk version s.render := by
    rintro version s s' h ⟨-, hr, hi⟩ -
    exact (uncovers_of_rely hi.1 hr.1.1 hr.1.2.1).uncovered h
  refine Guarantees.ite (fun _ => guarantees_pure _) fun hchunk => ?_
  refine Triple.bind hstable (Q := fun current s => ¬current = true →
    ¬cacheIsCurrent cfg chunk s.render = true) (triple_read hrefl kept_true
      (fun current s s' h hr hi hc => hcache s s' (h hc) hr hi) fun s _ _ hc => hc)
    fun current => triple_ite (fun _ => ?_) fun hcurrent => ?_
  · exact triple_pure kept_true fun _ _ _ => trivial
  refine Triple.bind hstable (Q := fun version s => ¬cacheIsCurrent cfg chunk s.render = true ∧
    s.render.versions chunk = version) ((triple_read hrefl hcache hversion
      fun s _ h => ⟨h, rfl⟩).conseq (fun _ _ h => h hcurrent) fun _ _ _ h => h) fun version => ?_
  refine Triple.bind hstable (Q := fun live s => ¬live = true →
    Uncovered cfg chunk version s.render) (triple_read hrefl (hversion version)
      (fun live s s' h hr hi hc => huncovered version s s' (h hc) hr hi) fun s _ h hc => ?_)
    fun live => triple_ite (fun _ => ?_) fun hlive => ?_
  · obtain ⟨hcache, rfl⟩ := h
    exact ⟨fun hcovered => hcovered.elim hcache hc, rfl⟩
  · exact triple_pure kept_true fun _ _ _ => trivial
  refine Triple.bind hstable (Q := fun _ s => Uncovered cfg chunk version s.render)
    ((triple_read hrefl (huncovered version) (fun _ => huncovered version) fun _ _ h => h).conseq
      (fun _ _ h => h hlive) fun _ _ _ h => h) fun result => ?_
  cases result with
  | error e => exact triple_pure kept_true fun _ _ _ => trivial
  | ok classification =>
    refine Triple.bind hstable (Q := fun _ s => Uncovered cfg chunk version s.render)
      ((makeRoomIfUrgent_coversNothing classification.priority).keeps (huncovered version)
        (fun _ _ h => h.1) fun _ _ h => h.2.uncovered) fun _ => ?_
    refine Triple.bind hstable (Q := fun _ s => Uncovered cfg chunk version s.render)
      (triple_read hrefl (huncovered version) (fun _ => huncovered version) fun _ _ h => h)
      fun full => triple_ite (fun _ => ?_) fun _ => triple_pure kept_true fun _ _ _ => trivial
    refine triple_modify_rely (huncovered version) kept_true fun _ s hr _ h =>
      ⟨?_, trivial, trivial⟩
    rw [← h.version]
    exact admitChunk_workKept hr.2.2.1 (by omega) h.covered classification

theorem scheduleRenderJobs_keepsWork :
    KeepsWork hcfg kernel (scheduleRenderJobs cfg) := by
  have hchunks : ∀ frame chunks, KeepsWork hcfg kernel
      (.forEach (fun chunk => scheduleChunk cfg chunk frame) chunks) := fun frame _ =>
    KeepsWork.forEach fun chunk _ => scheduleChunk_keepsWork chunk frame
  have hscan : ∀ frame n, KeepsWork hcfg kernel (scanTimeline cfg frame n) := by
    intro frame n
    induction n with
    | zero => exact guarantees_pure _
    | succ n ih =>
      exact KeepsWork.read_bind fun ⟨_, chunk⟩ => Guarantees.ite (fun _ => guarantees_pure _)
        fun _ => (scheduleChunk_keepsWork chunk frame).bind fun _ =>
          KeepsWork.modify_bind (fun _ => rfl) fun _ => ih
  refine (keepsWork_of_render (preserves_renderView
    (PlaybackProtocol.currentFrame_publishingView cfg))).bind fun frame => ?_
  have hupdate : KeepsWork hcfg kernel
      (updateClassifications cfg frame : Prog (EngineState S) Unit) := by
    refine keepsWork_of_registry (Prog.preserves_read_bind fun _ => Prog.preserves_ite ?_ ?_)
    · exact Prog.preserves_modify_bind (fun _ => rfl) fun _ => Prog.preserves_modify fun _ => rfl
    · exact Prog.preserves_modify fun _ => rfl
  exact hupdate.bind fun _ => KeepsWork.read_bind fun _ => (hchunks frame _).bind fun _ =>
    KeepsWork.read_bind fun _ => (hchunks frame _).bind fun _ => hscan frame _

omit [Zero S] in
theorem dispatchPendingTiles_registry (refuses : ℕ → Bool) :
    (dispatchPendingTiles cfg refuses : Prog (EngineState S) Unit).Preserves
      fun s => registryOf s.render :=
  (dispatchPendingTiles_dispatchView cfg refuses).mono fun s s' h => by
    simp only [dispatchView, schedulingView, contentView, Prod.mk.injEq] at h
    simp only [registryOf, h]

theorem schedulerLoop_keepsWork (refuses : ℕ → Bool) :
    KeepsWork hcfg kernel (SchedulerLoop.run cfg refuses) := by
  have henter : ∀ phase, KeepsWork hcfg kernel
      (SchedulerLoop.enter phase : Prog (EngineState S) Unit) := fun phase =>
    keepsWork_of_registry (Prog.preserves_modify fun _ => rfl)
  have hshutdown : KeepsWork hcfg kernel (shutdownRequested : Prog (EngineState S) Bool) :=
    keepsWork_of_render (preserves_renderView shutdownRequested_publishingView)
  have hunless : ∀ phase, KeepsWork hcfg kernel
      (SchedulerLoop.enterUnlessShutdown phase : Prog (EngineState S) Unit) := fun phase =>
    hshutdown.bind fun _ => Guarantees.ite (fun _ => henter _) fun _ => henter _
  refine KeepsWork.read_bind fun _ => Guarantees.ite (fun _ =>
    KeepsWork.read_bind fun phase => ?_) fun _ => guarantees_pure _
  cases phase with
  | stopped => exact guarantees_pure _
  | condition => exact hunless _
  | readCommands =>
    refine KeepsWork.read_bind fun front => ?_
    cases front with
    | none => exact henter _
    | some command =>
      exact KeepsWork.modify_bind (fun _ => rfl) fun _ =>
        (handleCommand_keepsWork command).bind fun _ => hshutdown.bind fun _ =>
          Guarantees.ite (fun _ => henter _) fun _ => guarantees_pure _
  | breakCheck => exact hunless _
  | collectFinishedJobs =>
    have hcollect : KeepsWork hcfg kernel (.atomically fun s =>
        ((collectOne cfg s.render).1, { s with render := (collectOne cfg s.render).2 })) :=
      guarantees_atomically fun s hi => collectOne_workKept hi.1
    exact hcollect.bind fun _ => Guarantees.ite (fun _ => henter _) fun _ => guarantees_pure _
  | feedAudioQueue =>
    exact (keepsWork_of_render (feedAudioQueue_renderView cfg)).bind fun _ => henter _
  | updateBackgroundAdmission =>
    exact (keepsWork_of_render (updateBackgroundAdmission_renderView cfg)).bind
      fun _ => henter _
  | scheduleRenderJobs => exact scheduleRenderJobs_keepsWork.bind fun _ => henter _
  | dispatchPendingTiles =>
    exact (keepsWork_of_registry (dispatchPendingTiles_registry refuses)).bind
      fun _ => henter _
  | pause =>
    exact (keepsWork_of_render PlaybackController.pause_renderView).bind fun _ => henter _
  | returned => exact guarantees_pure _

/-! ### Starting and stopping -/

omit [Zero S] in
theorem schedulerStart_registry :
    (Scheduler.start cfg : Prog (EngineState S) Unit).Preserves fun s => registryOf s.render := by
  have hpublishing : ∀ {α : Type} {p : Prog (EngineState S) α}, p.Preserves publishingView →
      p.Preserves fun s => registryOf s.render := fun hp =>
    (preserves_renderView hp).mono fun _ _ h => congrArg (fun v => registryOf v.1) h
  refine Prog.preserves_read_bind fun _ => Prog.preserves_ite ?_ (Prog.preserves_pure _)
  refine Prog.preserves_modify_bind (fun _ => rfl) fun _ => Prog.preserves_modify_bind
    (fun _ => rfl) fun _ => Prog.preserves_modify_bind (fun _ => rfl) fun _ => ?_
  exact (hpublishing (PlaybackProtocol.currentFrame_publishingView cfg)).bind fun frame =>
    (hpublishing (TimelineAudioPublisher.reset_publishingView frame)).bind fun _ =>
      Prog.preserves_modify fun _ => rfl

omit [Zero S] in
theorem engineStart_registry :
    (Engine.start cfg : Prog (EngineState S) Unit).Preserves fun s => registryOf s.render := by
  refine Prog.preserves_read_bind fun _ => Prog.preserves_ite ?_ (Prog.preserves_pure _)
  refine Prog.preserves_modify_bind (fun _ => rfl) fun _ => Prog.preserves_modify_bind
    (fun _ => rfl) fun _ => Prog.preserves_modify_bind (fun _ => rfl) fun _ => ?_
  exact (worker_registry Executor.start_workerView).bind fun _ => schedulerStart_registry.bind
    fun _ => Prog.preserves_modify fun _ => rfl

theorem startLoop_keepsWork {start : Prog (EngineState S) Unit}
    (hstart : start.Preserves fun s => registryOf s.render) :
    KeepsWork hcfg kernel (Owner.startLoop start) := by
  refine keepsWork_of_registry (Prog.preserves_read_bind fun _ =>
    Prog.preserves_ite ?_ (Prog.preserves_pure _))
  exact hstart.bind fun _ => Prog.preserves_read_bind fun _ =>
    Prog.preserves_ite (Prog.preserves_modify fun _ => rfl) (Prog.preserves_pure _)

theorem executorStop_keepsWork :
    KeepsWork hcfg kernel (Executor.stop : Prog (EngineState S) Unit) :=
  keepsWork_of_registry (worker_registry Executor.stop_workerView)

theorem schedulerStop_keepsWork : KeepsWork hcfg kernel (Scheduler.stop cfg) := by
  have htiles : ∀ n, (dropPendingTiles n : Prog (EngineState S) Unit).Preserves
      fun s => registryOf s.render := by
    intro n
    induction n with
    | zero => exact Prog.preserves_pure _
    | succ n ih =>
      refine Prog.preserves_modify_bind (fun s => ?_) fun _ => ih
      unfold dropPendingTile
      split
      · rfl
      · dsimp only [registryOf]
        rw [JobTable.cancel_origins]
  have hcancel : KeepsWork hcfg kernel (cancelAll cfg : Prog (EngineState S) Unit) :=
    KeepsWork.forEach fun chunk _ => guarantees_modify fun s hi =>
      cancelAndReset_workKept hi.1 chunk
  refine KeepsWork.read_bind fun _ => Guarantees.ite (fun _ => ?_) fun _ => guarantees_pure _
  exact KeepsWork.modify_bind (fun _ => rfl) fun _ => KeepsWork.read_bind fun n =>
    (keepsWork_of_registry (htiles n)).bind fun _ => KeepsWork.read_bind fun commands =>
      (keepsWork_of_render (dropCommands_renderView commands)).bind fun _ => hcancel.bind fun _ =>
        keepsWork_of_registry (Prog.preserves_modify_bind (fun _ => rfl)
          fun _ => Prog.preserves_modify fun _ => rfl)

theorem finishStop_keepsWork : KeepsWork hcfg kernel (Owner.finishStop cfg) := by
  have hcleanUp : ∀ scope, KeepsWork hcfg kernel
      (Owner.cleanUp cfg scope : Prog (EngineState S) Unit) := by
    intro scope
    cases scope with
    | scheduler => exact schedulerStop_keepsWork
    | engine =>
      exact schedulerStop_keepsWork.bind fun _ => executorStop_keepsWork.bind fun _ =>
        keepsWork_of_registry (Prog.preserves_modify fun _ => rfl)
  refine KeepsWork.read_bind fun loop => Guarantees.ite (fun _ => ?_) fun _ => guarantees_pure _
  rcases loop.stopping with - | scope
  · exact guarantees_pure _
  · exact (hcleanUp scope).bind fun _ =>
      keepsWork_of_registry (Prog.preserves_modify fun _ => rfl)

/-- Every call of the scheduler thread. -/
theorem schedulerCall_keepsWork (call : SessionCall S) (hcall : call.thread = .scheduler) :
    KeepsWork hcfg kernel (call.program cfg kernel) := by
  cases call with
  | schedulerLoop refuses => exact schedulerLoop_keepsWork refuses
  | schedulerStart => exact startLoop_keepsWork schedulerStart_registry
  | engineStart => exact startLoop_keepsWork engineStart_registry
  | executorStart => exact keepsWork_of_registry (worker_registry Executor.start_workerView)
  | executorStop => exact executorStop_keepsWork
  | requestStop scope => cases hcall
  | finishStop => exact finishStop_keepsWork
  | post command => cases hcall
  | processBlock output => cases hcall
  | workerLoop worker faults => cases hcall

/-- What the scheduler thread does to the work that is done, on top of the plan. -/
def workLayer (hcfg : cfg.Valid) (kernel : RenderKernel S) :
    Layer (planLayer hcfg kernel).discipline :=
  Layer.guaranteed (planLayer hcfg kernel).discipline .scheduler
    (fun s s' => WorkKept cfg s.render s'.render) fun call hcall s _ _ =>
      schedulerCall_keepsWork call hcall s trivial trivial

/-- What the scheduler thread does to coverage, on top of the plan. -/
def coverageLayer (hcfg : cfg.Valid) (kernel : RenderKernel S) :
    Layer (planLayer hcfg kernel).discipline :=
  Layer.guaranteed (planLayer hcfg kernel).discipline .scheduler
    (fun s s' => CoverageKept cfg s.render s'.render) fun call hcall s _ _ =>
      ((schedulerCall_keepsWork call hcall).mono fun _ _ hi h => h.coverageKept hi.1) s trivial
        trivial

theorem workLayer_sound (cfg : AcceptedConfig) (kernel : RenderKernel S)
    (moves : List (SessionMove S)) :
    (workLayer cfg.valid kernel).discipline.Sound (sessionRun cfg kernel moves) := by
  have hinit : (workLayer cfg.valid kernel).discipline.Sound
      (Pool.idle (EngineState.init cfg.toConfig)) := by
    have hplan := planLayer_sound cfg kernel []
    exact ⟨⟨hplan.inv, trivial⟩, fun i => ⟨hplan.thread i, trivial⟩⟩
  exact hinit.run moves

theorem coverageLayer_sound (cfg : AcceptedConfig) (kernel : RenderKernel S)
    (moves : List (SessionMove S)) :
    (coverageLayer cfg.valid kernel).discipline.Sound (sessionRun cfg kernel moves) := by
  have hinit : (coverageLayer cfg.valid kernel).discipline.Sound
      (Pool.idle (EngineState.init cfg.toConfig)) := by
    have hplan := planLayer_sound cfg kernel []
    exact ⟨⟨hplan.inv, trivial⟩, fun i => ⟨hplan.thread i, trivial⟩⟩
  exact hinit.run moves

end Anasa
