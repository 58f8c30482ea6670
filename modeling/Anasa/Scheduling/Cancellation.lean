import Anasa.Scheduling.PlanLifecycle

/-!
# What the scheduler cancels under the Fifo policy

While its loop runs, the scheduler makes room for no chunk, so it cancels the registered job of a
chunk only because an Edit has made it obsolete or another job replaces it.
-/

namespace Anasa

open Concurrency Contract Scheduler

variable {S : Type} {cfg : Config} {kernel : RenderKernel S}

/-- The job is cancelled in the step. -/
def NewlyCancelled (s s' : EngineState S) (j : JobId) : Prop :=
  j < s.render.jobs.made ∧ (s.render.jobs.job j).cancelled = false ∧
    (s'.render.jobs.job j).cancelled = true

/-- Why a job is cancelled in the step. -/
inductive CancelReason (s s' : EngineState S) (j : JobId) : Prop where
  /-- Its chunk has been edited since it was made. -/
  | edited
    (version : (s.render.jobs.job j).version < s.render.versions (s.render.jobs.job j).chunk)
  /-- A new job is registered for its chunk. -/
  | recreated (k : JobId) (new : s.render.jobs.made ≤ k)
    (registered : s'.render.activeJobs (s.render.jobs.job j).chunk = some k)
  /-- The executor stops, and drops a task of the job. -/
  | dropped (task : RenderTask) (job : task.job = j)
    (tasks : s.render.executor.renderTasks = task :: s'.render.executor.renderTasks)

/-- The loop of the scheduler has not returned. -/
def LoopRuns (s : EngineState S) : Prop := s.loop.phase ≠ .returned ∧ s.loop.phase ≠ .stopped

/-- While the loop runs, every job that is cancelled is cancelled for a reason. -/
def CancelsWithReason (s s' : EngineState S) : Prop :=
  LoopRuns s → ∀ j, NewlyCancelled s s' j → CancelReason s s' j

/-- The flags of the jobs. -/
def flagsOf (s : EngineState S) : JobId → Bool := fun j => (s.render.jobs.job j).cancelled

/-- A step that sets no flag. -/
theorem CancelsWithReason.of_flags {s s' : EngineState S} (h : flagsOf s' = flagsOf s) :
    CancelsWithReason s s' := by
  rintro - j ⟨-, hno, hyes⟩
  have hsame : (s'.render.jobs.job j).cancelled = (s.render.jobs.job j).cancelled := congrFun h j
  rw [hsame, hno] at hyes
  cases hyes

/-- Cancelling the registered job of a chunk. -/
theorem activeCancel_flags {chunk : Int} {r : RenderState S} {j : JobId}
    (hno : (r.jobs.job j).cancelled = false)
    (hyes : ((ActiveRenderJobs.cancel cfg chunk r).jobs.job j).cancelled = true) :
    r.activeJobs chunk = some j := by
  unfold ActiveRenderJobs.cancel at hyes
  split at hyes
  · rw [hno] at hyes
    cases hyes
  · split at hyes
    · rw [hno] at hyes
      cases hyes
    · rename_i k hk
      simp only [JobTable.cancel_job, hno, Bool.false_or, decide_eq_true_eq] at hyes
      rw [hk, hyes]

variable [Zero S]

section

variable (hcfg : cfg.Valid) (kernel : RenderKernel S)

/-- The reasons for cancellations, on top of the plan. -/
def cancelContract : Contract (EngineState S) :=
  onTop ⟨fun _ => True, fun _ _ => True, CancelsWithReason⟩
    ((planLayer hcfg kernel).discipline.contract .scheduler)

theorem cancelContract_stable : (cancelContract hcfg kernel).Stable :=
  Stable.onTop ⟨fun _ => trivial, fun _ _ => trivial⟩
    ((planLayer hcfg kernel).discipline.contract_stable .scheduler)

/-- The scheduler may run the program at any time. -/
def CancelSafe {α : Type} (p : Prog (EngineState S) α) : Prop :=
  (cancelContract hcfg kernel).Triple (fun _ => True) p fun _ _ => True

end

variable {hcfg : cfg.Valid}

theorem cancelSafe_of_flags {α : Type} {p : Prog (EngineState S) α} (hp : p.Preserves flagsOf) :
    CancelSafe hcfg kernel p :=
  triple_of_preserves hp kept_true fun _ _ h _ _ => ⟨.of_flags h, trivial, trivial⟩

omit [Zero S] in
theorem render_flags {α : Type} {p : Prog (EngineState S) α} (hp : p.Preserves renderView) :
    p.Preserves flagsOf :=
  hp.mono fun s s' h => by
    have hrender : s.render = s'.render := congrArg Prod.fst h
    unfold flagsOf
    rw [hrender]

theorem cancelSafe_of_render {α : Type} {p : Prog (EngineState S) α}
    (hp : p.Preserves renderView) : CancelSafe hcfg kernel p :=
  cancelSafe_of_flags (render_flags hp)

theorem CancelSafe.bind {α β : Type} {p : Prog (EngineState S) α}
    {g : α → Prog (EngineState S) β} (hp : CancelSafe hcfg kernel p)
    (hg : ∀ a, CancelSafe hcfg kernel (g a)) : CancelSafe hcfg kernel (p >>= g) :=
  Triple.bind (cancelContract_stable hcfg kernel) hp hg

theorem CancelSafe.pure {α : Type} (a : α) : CancelSafe hcfg kernel (pure a) :=
  triple_pure kept_true fun _ _ _ => trivial

theorem CancelSafe.ite {α : Type} {c : Prop} [Decidable c] {p q : Prog (EngineState S) α}
    (hp : c → CancelSafe hcfg kernel p) (hq : ¬c → CancelSafe hcfg kernel q) :
    CancelSafe hcfg kernel (if c then p else q) :=
  triple_ite hp hq

theorem CancelSafe.read_bind {α β : Type} {r : EngineState S → α}
    {g : α → Prog (EngineState S) β} (hg : ∀ a, CancelSafe hcfg kernel (g a)) :
    CancelSafe hcfg kernel (.read r >>= g) :=
  (cancelSafe_of_flags (Prog.preserves_read r)).bind hg

theorem CancelSafe.modify_bind {β : Type} {f : EngineState S → EngineState S}
    {g : Unit → Prog (EngineState S) β} (hf : ∀ s, flagsOf (f s) = flagsOf s)
    (hg : ∀ a, CancelSafe hcfg kernel (g a)) : CancelSafe hcfg kernel (.modify f >>= g) :=
  (cancelSafe_of_flags (Prog.preserves_modify hf)).bind hg

/-! ## Commands and completions -/

/-- The job registered for the chunk, if any, is obsolete. -/
def Obsolete (chunk : Int) (s : EngineState S) : Prop :=
  ∀ j, s.render.activeJobs chunk = some j → (s.render.jobs.job j).chunk = chunk ∧
    (s.render.jobs.job j).version < s.render.versions chunk

theorem kept_obsolete (chunk : Int) :
    (cancelContract hcfg kernel).Kept (Obsolete (S := S) chunk) := by
  rintro s s' h ⟨-, hr, -⟩ - j hj
  have hkept := hr.1.2.1
  have horigins : s'.render.jobs.origins = s.render.jobs.origins :=
    congrArg Plan.origins (hr.2 rfl)
  have horigin := congrFun (congrArg Prod.snd horigins) j
  simp only [JobTable.origins, Prod.mk.injEq] at horigin
  rw [hkept.activeJobs] at hj
  rw [hkept.versions, horigin.1, horigin.2]
  exact h j hj

theorem invalidateVersions_cancelSafe (firstFrame lastFrame : Int) :
    CancelSafe hcfg kernel (invalidateVersions cfg firstFrame lastFrame) := by
  have hstable := cancelContract_stable hcfg kernel
  refine triple_forEach hstable kept_true fun chunk _ => ?_
  have hbump : (cancelContract hcfg kernel).Triple (fun _ => True)
      (.modify fun s => { s with render := bumpVersion chunk s.render })
      fun _ => Obsolete chunk := by
    refine triple_modify_rely kept_true (kept_obsolete chunk) fun _ s hr _ _ =>
      ⟨.of_flags rfl, trivial, fun j hj => ?_⟩
    have hi : RenderInv cfg kernel s.render := hr.2.2.1
    obtain ⟨hmade, hchunk⟩ := hi.registration.registered chunk j hj
    have hle := hi.jobs.version_le j hmade
    refine ⟨hchunk, ?_⟩
    rw [hchunk] at hle
    show (s.render.jobs.job j).version < Function.update s.render.versions chunk _ chunk
    rw [Function.update_self]
    omega
  refine hbump.bind hstable fun _ => triple_modify (kept_obsolete chunk) kept_true
    fun s _ h => ⟨fun _ j hj => ?_, trivial, trivial⟩
  obtain ⟨-, hno, hyes⟩ := hj
  obtain ⟨hchunk, hversion⟩ := h j (activeCancel_flags hno hyes)
  refine .edited ?_
  rw [hchunk]
  exact hversion

theorem handleCommand_cancelSafe (command : Command) :
    CancelSafe hcfg kernel (handleCommand cfg command) := by
  have hdirty : CancelSafe hcfg kernel (setClassificationsDirty : Prog (EngineState S) Unit) :=
    cancelSafe_of_render setClassificationsDirty_renderView
  rcases command with ⟨type, firstFrame, lastFrame⟩
  cases type with
  | play =>
    exact (cancelSafe_of_render PlaybackController.requestPlay_renderView).bind fun _ =>
      CancelSafe.ite (fun _ => hdirty) fun _ => CancelSafe.pure _
  | pause =>
    exact (cancelSafe_of_render PlaybackController.pause_renderView).bind fun _ =>
      CancelSafe.ite (fun _ => hdirty) fun _ => CancelSafe.pure _
  | seek =>
    exact (cancelSafe_of_render (preserves_renderView
      (beginAudioGeneration_publishingView _ _))).bind fun _ => hdirty
  | setViewport => exact cancelSafe_of_flags (Prog.preserves_modify fun _ => rfl)
  | edit =>
    refine CancelSafe.modify_bind (fun _ => rfl) fun _ => (invalidateVersions_cancelSafe _ _).bind fun _ =>
      cancelSafe_of_render (preserves_renderView ?_)
    exact (PlaybackProtocol.currentFrame_publishingView cfg).bind fun _ =>
      Prog.preserves_read_bind fun _ => (beginAudioGeneration_publishingView _ _).bind fun _ =>
        Prog.preserves_modify fun _ => rfl
  | stop =>
    exact CancelSafe.modify_bind (fun _ => rfl) fun _ =>
      cancelSafe_of_flags (Prog.preserves_modify fun _ => rfl)

theorem readCommands_cancelSafe : CancelSafe hcfg kernel (SchedulerLoop.readCommands cfg) := by
  have henter : ∀ phase, CancelSafe hcfg kernel
      (SchedulerLoop.enter phase : Prog (EngineState S) Unit) := fun phase =>
    cancelSafe_of_flags (Prog.preserves_modify fun _ => rfl)
  refine CancelSafe.read_bind fun front => ?_
  cases front with
  | none => exact henter _
  | some command =>
    exact CancelSafe.modify_bind (fun _ => rfl) fun _ => (handleCommand_cancelSafe command).bind fun _ =>
      (cancelSafe_of_render (preserves_renderView shutdownRequested_publishingView)).bind fun _ =>
        CancelSafe.ite (fun _ => henter _) fun _ => CancelSafe.pure _

omit [Zero S] in
theorem collectOne_flags (cfg : Config) (s : EngineState S) :
    flagsOf { s with render := (collectOne cfg s.render).2 } = flagsOf s := by
  rw [collectOne_eq]
  rfl

/-! ## Scheduling and dispatch -/

theorem admitChunk_cancels (chunk version : Int) (classification : RenderClassification) :
    CancelSafe hcfg kernel (.modify fun s => { s with
      render := admitChunk cfg chunk version classification s.render }) := by
  refine triple_modify_rely kept_true kept_true fun _ s hr _ _ => ⟨fun _ j hj => ?_, trivial, trivial⟩
  have hi : RenderInv cfg kernel s.render := hr.2.2.1
  obtain ⟨hmade, hno, hyes⟩ := hj
  have hmade' : (ActiveRenderJobs.cancel cfg chunk s.render).jobs.made = s.render.jobs.made :=
    congrArg Prod.fst (ActiveRenderJobs.cancel_origins cfg chunk s.render)
  by_cases hchunk : chunk < 0 ∨ chunk ≥ cfg.chunkCount
  · simp only [admitChunk, ActiveRenderJobs.create, if_pos hchunk, hno, Bool.false_eq_true] at hyes
  · have hnew : (admitChunk cfg chunk version classification s.render).jobs =
        (ActiveRenderJobs.cancel cfg chunk s.render).jobs.add (RenderState.newJob cfg chunk version) ∧
        (admitChunk cfg chunk version classification s.render).activeJobs =
          Function.update (ActiveRenderJobs.cancel cfg chunk s.render).activeJobs chunk
            (some s.render.jobs.made) := by
      simp only [admitChunk, ActiveRenderJobs.create, if_neg hchunk, hmade', and_self]
    dsimp only at hyes
    rw [hnew.1, JobTable.add_job_of_ne _ _ (by rw [hmade']; exact hmade.ne)] at hyes
    have hregistered := activeCancel_flags hno hyes
    refine .recreated s.render.jobs.made le_rfl ?_
    rw [(hi.registration.registered chunk j hregistered).2, hnew.2, Function.update_self]

theorem scheduleChunk_cancelSafe (hfifo : cfg.scheduler.policyType = .fifo) (chunk frame : Int) :
    CancelSafe hcfg kernel (scheduleChunk cfg chunk frame) := by
  refine CancelSafe.ite (fun _ => CancelSafe.pure _) fun _ => CancelSafe.read_bind fun _ =>
    CancelSafe.ite (fun _ => CancelSafe.pure _) fun _ => CancelSafe.read_bind fun version =>
      CancelSafe.read_bind fun _ => CancelSafe.ite (fun _ => CancelSafe.pure _)
        fun _ => CancelSafe.read_bind fun result => ?_
  cases result with
  | error e => exact CancelSafe.pure _
  | ok classification =>
    have hroom : CancelSafe hcfg kernel
        (makeRoomIfUrgent cfg classification.priority : Prog (EngineState S) Unit) :=
      CancelSafe.ite (fun h => by rw [hfifo] at h; cases h.1) fun _ => CancelSafe.pure _
    exact hroom.bind fun _ => CancelSafe.read_bind fun _ =>
      CancelSafe.ite (fun _ => admitChunk_cancels chunk version classification) fun _ => CancelSafe.pure _

theorem scheduleRenderJobs_cancelSafe (hfifo : cfg.scheduler.policyType = .fifo) :
    CancelSafe hcfg kernel (scheduleRenderJobs cfg) := by
  have hstable := cancelContract_stable hcfg kernel
  have hchunks : ∀ frame chunks, CancelSafe hcfg kernel
      (.forEach (fun chunk => scheduleChunk cfg chunk frame) chunks) := fun frame _ =>
    triple_forEach hstable kept_true fun chunk _ => scheduleChunk_cancelSafe hfifo chunk frame
  have hscan : ∀ frame n, CancelSafe hcfg kernel (scanTimeline cfg frame n) := by
    intro frame n
    induction n with
    | zero => exact CancelSafe.pure _
    | succ n ih =>
      exact CancelSafe.read_bind fun ⟨_, chunk⟩ => CancelSafe.ite (fun _ => CancelSafe.pure _) fun _ =>
        (scheduleChunk_cancelSafe hfifo chunk frame).bind fun _ =>
          CancelSafe.modify_bind (fun _ => rfl) fun _ => ih
  refine (cancelSafe_of_render (preserves_renderView
    (PlaybackProtocol.currentFrame_publishingView cfg))).bind fun frame => ?_
  have hupdate : CancelSafe hcfg kernel
      (updateClassifications cfg frame : Prog (EngineState S) Unit) := by
    refine cancelSafe_of_flags (Prog.preserves_read_bind fun _ => Prog.preserves_ite ?_ ?_)
    · exact Prog.preserves_modify_bind (fun _ => rfl) fun _ => Prog.preserves_modify fun _ => rfl
    · exact Prog.preserves_modify fun _ => rfl
  exact hupdate.bind fun _ => CancelSafe.read_bind fun _ => (hchunks frame _).bind fun _ =>
    CancelSafe.read_bind fun _ => (hchunks frame _).bind fun _ => hscan frame _

omit [Zero S] in
theorem dispatchPendingTiles_flags (refuses : ℕ → Bool) :
    (dispatchPendingTiles cfg refuses : Prog (EngineState S) Unit).Preserves flagsOf :=
  (dispatchPendingTiles_dispatchView cfg refuses).mono fun s s' h => by
    simp only [dispatchView, Prod.mk.injEq] at h
    obtain ⟨-, -, -, hjobs, -⟩ := h
    unfold flagsOf
    rw [hjobs]

/-! ## The loop -/

theorem schedulerLoop_cancelSafe (hfifo : cfg.scheduler.policyType = .fifo) (refuses : ℕ → Bool) :
    CancelSafe hcfg kernel (SchedulerLoop.run cfg refuses) := by
  have henter : ∀ phase, CancelSafe hcfg kernel
      (SchedulerLoop.enter phase : Prog (EngineState S) Unit) := fun phase =>
    cancelSafe_of_flags (Prog.preserves_modify fun _ => rfl)
  have hunless : ∀ phase, CancelSafe hcfg kernel
      (SchedulerLoop.enterUnlessShutdown phase : Prog (EngineState S) Unit) := fun phase =>
    (cancelSafe_of_render (preserves_renderView shutdownRequested_publishingView)).bind fun _ =>
      CancelSafe.ite (fun _ => henter _) fun _ => henter _
  refine CancelSafe.read_bind fun _ =>
    CancelSafe.ite (fun _ => CancelSafe.read_bind fun phase => ?_) fun _ => CancelSafe.pure _
  cases phase with
  | stopped => exact CancelSafe.pure _
  | condition => exact hunless _
  | readCommands => exact readCommands_cancelSafe
  | breakCheck => exact hunless _
  | collectFinishedJobs =>
    refine (cancelSafe_of_flags (Prog.preserves_atomically fun s => collectOne_flags cfg s)).bind
      fun _ => CancelSafe.ite (fun _ => henter _) fun _ => CancelSafe.pure _
  | feedAudioQueue =>
    exact (cancelSafe_of_render (feedAudioQueue_renderView cfg)).bind fun _ => henter _
  | updateBackgroundAdmission =>
    exact (cancelSafe_of_render (updateBackgroundAdmission_renderView cfg)).bind fun _ => henter _
  | scheduleRenderJobs => exact (scheduleRenderJobs_cancelSafe hfifo).bind fun _ => henter _
  | dispatchPendingTiles =>
    exact (cancelSafe_of_flags (dispatchPendingTiles_flags refuses)).bind
      fun _ => henter _
  | pause =>
    exact (cancelSafe_of_render PlaybackController.pause_renderView).bind fun _ => henter _
  | returned => exact CancelSafe.pure _

/-! ## Starting -/

omit [Zero S] in
theorem executorStart_flags : (Executor.start : Prog (EngineState S) Unit).Preserves flagsOf := by
  refine Prog.preserves_atomically_bind (fun s => ?_) fun _ =>
    Prog.preserves_ite (Prog.preserves_modify fun _ => rfl) (Prog.preserves_pure _)
  dsimp only
  split <;> rfl

omit [Zero S] in
theorem schedulerStart_flags :
    (Scheduler.start cfg : Prog (EngineState S) Unit).Preserves flagsOf := by
  have hpublishing : ∀ {α : Type} {p : Prog (EngineState S) α}, p.Preserves publishingView →
      p.Preserves flagsOf := fun hp => render_flags (preserves_renderView hp)
  refine Prog.preserves_read_bind fun _ => Prog.preserves_ite ?_ (Prog.preserves_pure _)
  refine Prog.preserves_modify_bind (fun _ => rfl) fun _ => Prog.preserves_modify_bind
    (fun _ => rfl) fun _ => Prog.preserves_modify_bind (fun _ => rfl) fun _ => ?_
  exact (hpublishing (PlaybackProtocol.currentFrame_publishingView cfg)).bind fun frame =>
    (hpublishing (TimelineAudioPublisher.reset_publishingView frame)).bind fun _ =>
      Prog.preserves_modify fun _ => rfl

omit [Zero S] in
theorem engineStart_flags :
    (Engine.start cfg : Prog (EngineState S) Unit).Preserves flagsOf := by
  refine Prog.preserves_read_bind fun _ => Prog.preserves_ite ?_ (Prog.preserves_pure _)
  refine Prog.preserves_modify_bind (fun _ => rfl) fun _ => Prog.preserves_modify_bind
    (fun _ => rfl) fun _ => Prog.preserves_modify_bind (fun _ => rfl) fun _ => ?_
  exact executorStart_flags.bind fun _ => schedulerStart_flags.bind fun _ =>
    Prog.preserves_modify fun _ => rfl

omit [Zero S] in
theorem startLoop_flags {start : Prog (EngineState S) Unit} (hstart : start.Preserves flagsOf) :
    (Owner.startLoop start).Preserves flagsOf := by
  refine Prog.preserves_read_bind fun _ => Prog.preserves_ite ?_ (Prog.preserves_pure _)
  exact hstart.bind fun _ => Prog.preserves_read_bind fun _ =>
    Prog.preserves_ite (Prog.preserves_modify fun _ => rfl) (Prog.preserves_pure _)

/-! ## Stopping -/

theorem executorStop_cancelSafe :
    CancelSafe hcfg kernel (Executor.stop : Prog (EngineState S) Unit) := by
  have hdrop : ∀ n, CancelSafe hcfg kernel (Executor.dropTasks n : Prog (EngineState S) Unit) := by
    intro n
    induction n with
    | zero => exact CancelSafe.pure _
    | succ n ih =>
      have hone : CancelSafe hcfg kernel (.modify fun s : EngineState S =>
          { s with render := Executor.dropTask s.render }) := by
        refine triple_modify kept_true kept_true fun s _ _ => ⟨fun _ j hj => ?_, trivial, trivial⟩
        obtain ⟨-, hno, hyes⟩ := hj
        rcases htasks : s.render.executor.renderTasks with - | ⟨task, rest⟩
        · simp only [Executor.dropTask, htasks, hno, Bool.false_eq_true] at hyes
        · simp only [Executor.dropTask, htasks, JobTable.cancel_job, hno, Bool.false_or,
            decide_eq_true_eq] at hyes
          refine .dropped task hyes.symm ?_
          simp only [Executor.dropTask, htasks]
      exact hone.bind fun _ => ih
  refine (cancelSafe_of_flags (Prog.preserves_atomically fun s => ?_)).bind
    fun ⟨started, queued⟩ => CancelSafe.ite (fun _ => (hdrop queued).bind fun _ =>
      cancelSafe_of_flags (Prog.preserves_modify fun _ => rfl)) fun _ => CancelSafe.pure _
  dsimp only
  split <;> rfl

theorem kept_ended : (cancelContract hcfg kernel).Kept fun s : EngineState S => ¬LoopRuns s := by
  rintro s s' h ⟨-, hr, -⟩ -
  have hphase : s'.loop.phase = s.loop.phase := congrArg Plan.phase (hr.2 rfl)
  unfold LoopRuns
  rwa [hphase]

/-- What runs once the loop has returned may cancel every job. -/
theorem cancels_of_ended {α : Type} {p : Prog (EngineState S) α}
    (hp : p.Preserves fun s => s.loop.phase) :
    (cancelContract hcfg kernel).Triple (fun s => ¬LoopRuns s) p fun _ s => ¬LoopRuns s :=
  triple_of_preserves hp kept_ended fun s s' hphase _ h => by
    refine ⟨fun hl => absurd hl h, trivial, ?_⟩
    unfold LoopRuns
    rwa [hphase]

omit [Zero S] in
theorem schedulerStop_phase :
    (Scheduler.stop cfg : Prog (EngineState S) Unit).Preserves fun s => s.loop.phase := by
  have htile : ∀ {p : Prog (EngineState S) Unit}, p.Preserves pendingView →
      p.Preserves fun s => s.loop.phase := fun hp =>
    (pending_schedulingView hp).mono fun _ _ h => congrArg (fun v => v.2.loop.phase) h
  refine Prog.preserves_read_bind fun _ => Prog.preserves_ite ?_ (Prog.preserves_pure _)
  refine Prog.preserves_modify_bind (fun _ => rfl) fun _ => Prog.preserves_read_bind fun n =>
    (htile (dropPendingTiles_pendingView n)).bind fun _ => Prog.preserves_read_bind fun commands =>
      Prog.Preserves.bind ?_ fun _ => (htile (cancelAll_pendingView cfg)).bind fun _ =>
        Prog.preserves_modify_bind (fun _ => rfl) fun _ => Prog.preserves_modify fun _ => rfl
  exact (dropCommands_planOf commands).mono fun _ _ h => congrArg Plan.phase h

theorem finishStop_cancelSafe : CancelSafe hcfg kernel (Owner.finishStop cfg) := by
  have hstop : (Executor.stop : Prog (EngineState S) Unit).Preserves fun s => s.loop.phase :=
    (worker_planOf Executor.stop_workerView).mono fun _ _ h => congrArg Plan.phase h
  have hcleanUp : ∀ scope, (Owner.cleanUp cfg scope : Prog (EngineState S) Unit).Preserves
      fun s => s.loop.phase := by
    intro scope
    cases scope with
    | scheduler => exact schedulerStop_phase
    | engine =>
      exact schedulerStop_phase.bind fun _ => hstop.bind fun _ =>
        Prog.preserves_modify fun _ => rfl
  have hstable := cancelContract_stable hcfg kernel
  have hread : (cancelContract hcfg kernel).Triple (fun _ => True) (.read (·.loop))
      fun loop s => loop.phase = .stopped ∨ loop.phase = .returned → ¬LoopRuns s := by
    refine triple_read (fun _ => .of_flags rfl) kept_true (fun loop s s' h hr hi hl =>
      kept_ended s s' (h hl) hr hi) fun s _ _ hl hruns => ?_
    rcases hl with hl | hl
    · exact hruns.2 hl
    · exact hruns.1 hl
  refine hread.bind hstable fun loop => triple_ite (fun hl => ?_) fun _ => ?_
  · rcases loop.stopping with - | scope
    · exact triple_pure kept_true fun _ _ _ => trivial
    · refine ((cancels_of_ended (hcleanUp scope)).conseq (fun _ _ h => h hl)
        fun _ _ _ h => h).bind hstable fun _ => ?_
      exact triple_modify kept_ended kept_true fun s _ h =>
        ⟨fun hl => absurd hl h, trivial, trivial⟩
  · exact triple_pure kept_true fun _ _ _ => trivial

/-! ## Every run -/

/-- The cancellations of the scheduler thread under the Fifo policy. -/
def cancelLayer (hcfg : cfg.Valid) (kernel : RenderKernel S)
    (hfifo : cfg.scheduler.policyType = .fifo) : Layer (planLayer hcfg kernel).discipline :=
  Layer.guaranteed (planLayer hcfg kernel).discipline .scheduler CancelsWithReason
    fun call hcall s hi _ => by
      cases call with
      | schedulerLoop refuses => exact schedulerLoop_cancelSafe hfifo refuses s trivial trivial
      | schedulerStart =>
        exact cancelSafe_of_flags (startLoop_flags schedulerStart_flags) s trivial trivial
      | engineStart =>
        exact cancelSafe_of_flags (startLoop_flags engineStart_flags) s trivial trivial
      | executorStart => exact cancelSafe_of_flags executorStart_flags s trivial trivial
      | executorStop => exact executorStop_cancelSafe s trivial trivial
      | requestStop scope => cases hcall
      | finishStop => exact finishStop_cancelSafe s trivial trivial
      | post command => cases hcall
      | processBlock output => cases hcall
      | workerLoop worker faults => cases hcall

/-- **Why the scheduler cancels.** Under the Fifo policy, every access of the scheduler thread while
the loop runs cancels only jobs whose chunks have been edited or get another job, or whose tasks
the executor drops. -/
theorem cancels_with_reason (cfg : AcceptedConfig) (kernel : RenderKernel S)
    (hfifo : cfg.scheduler.policyType = .fifo) (moves : List (SessionMove S)) :
    CancelsWithReason (sessionRun cfg kernel moves).state
      ((sessionRun cfg kernel moves).access .scheduler).state := by
  have hinit : (cancelLayer cfg.valid kernel hfifo).discipline.Sound
      (Pool.idle (EngineState.init cfg.toConfig)) := by
    have hplan := planLayer_sound cfg kernel []
    exact ⟨⟨hplan.inv, trivial⟩, fun i => ⟨hplan.thread i, trivial⟩⟩
  rcases (hinit.run moves).access_guar .scheduler with hsame | hguar
  · exact .of_flags (congrArg flagsOf hsame)
  · exact hguar.2 rfl

end Anasa
