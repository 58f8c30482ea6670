import Anasa.Rendering.SchedulerSafety

/-!
# Dispatch, start and stop obey the rendering contract

Starting and stopping the scheduler and the executor close the session first, so that the tiles
they drop belong to jobs of an older session.
-/

namespace Anasa

open Concurrency Contract

variable {S : Type} {cfg : Config} {kernel : RenderKernel S}

/-! ## Dispatch -/

theorem submitTile_triple (refused : Bool) (tile : PendingRenderTile) :
    (renderContract cfg kernel .scheduler).Triple
      (fun s : EngineState S => Running s ∧ s.render.pendingTiles.head? = some tile)
      (.atomically fun s =>
        let (submitted, r) := Scheduler.submitTile cfg refused tile s.render
        (submitted, Scheduler.afterSubmit tile submitted r s)) fun _ => Running := by
  refine triple_atomically (fun s s' h hr hi => ?_) (fun _ => kept_schedulerAt) fun s hi h => ?_
  · exact ⟨kept_schedulerAt s s' h.1 hr hi, hr.2.1.pendingTiles ▸ h.2⟩
  · have hstep := SchedulerStep.submitTile cfg refused tile s.render
    have heq := Scheduler.submitTile_eq cfg refused tile s.render
    have hrunning : Running
        { s with render := (Scheduler.submitTile cfg refused tile s.render).2 } :=
      h.1.step hi hstep (by rw [heq]) (by rw [heq]) (by rw [heq]; exact fun _ _ hj => hj)
        ((congrArg RenderState.reclassificationBuffer heq).trans h.1.buffer)
    exact ⟨guar_of_schedulerStep hi hstep, hi.submitTile h.2, hrunning.current, hrunning.buffer,
      hrunning.started, trivial⟩

theorem endDispatch_triple (reason : DispatchEnd) :
    (renderContract cfg kernel .scheduler).Triple (Running (S := S))
      (Scheduler.endDispatch reason) fun _ => Running :=
  triple_frame framed_schedulerAt (Prog.preserves_modify fun _ => rfl)

theorem dispatchLoop_triple (refuses : ℕ → Bool) (n : ℕ) :
    (renderContract cfg kernel .scheduler).Triple (Running (S := S))
      (Scheduler.dispatchLoop cfg refuses n) fun _ => Running := by
  have hstable := renderContract_stable cfg kernel (S := S) .scheduler
  induction n with
  | zero => exact endDispatch_triple _
  | succ n ih =>
    have hkept : ∀ top, (renderContract cfg kernel .scheduler).Kept
        fun s : EngineState S => Running s ∧ s.render.pendingTiles.head? = top :=
      fun top s s' h hr hi => ⟨kept_schedulerAt s s' h.1 hr hi, hr.2.1.pendingTiles ▸ h.2⟩
    have hend : ∀ top reason, (renderContract cfg kernel .scheduler).Triple
        (fun s : EngineState S => Running s ∧ s.render.pendingTiles.head? = top)
        (Scheduler.endDispatch reason) fun _ => Running := fun top reason =>
      (endDispatch_triple reason).conseq (fun _ _ h => h.1) fun _ _ _ h => h
    have htop : (renderContract cfg kernel .scheduler).Triple (Running (S := S))
        (.read fun s => (s.render.pendingTiles.head?, Executor.queuedTaskCount s.render))
        fun a s => Running s ∧ s.render.pendingTiles.head? = a.1 :=
      triple_read (guar_refl _) kept_schedulerAt (fun a => hkept a.1) fun s _ h => ⟨h, rfl⟩
    refine htop.bind hstable fun ⟨top, queued⟩ => ?_
    cases top with
    | none => exact hend none _
    | some tile =>
      refine triple_ite (fun _ => ?_) fun _ => hend _ _
      have hgate : ∀ r : EngineState S → Bool, (renderContract cfg kernel .scheduler).Triple
          (fun s : EngineState S => Running s ∧ s.render.pendingTiles.head? = some tile)
          (.read r) fun _ s => Running s ∧ s.render.pendingTiles.head? = some tile :=
        fun r => triple_read (guar_refl _) (hkept _) (fun _ => hkept _) fun _ _ h => h
      refine (hgate _).bind hstable fun _ => triple_ite (fun _ => hend _ _) fun _ => ?_
      exact (submitTile_triple (refuses n) tile).bind hstable fun _ =>
        triple_ite (fun _ => ih) fun _ => endDispatch_triple _

theorem dispatchPendingTiles_triple (refuses : ℕ → Bool) :
    (renderContract cfg kernel .scheduler).Triple (Running (S := S))
      (Scheduler.dispatchPendingTiles cfg refuses) fun _ => Running :=
  (triple_schedulerRead _).bind (renderContract_stable cfg kernel _) fun _ =>
    dispatchLoop_triple refuses _

/-! ## The executor -/

/-- An operation between two calls. -/
theorem SchedulerIdle.step {s s' : EngineState S} (h : SchedulerIdle s)
    (hi : RenderInv cfg kernel s.render) (hstep : SchedulerStep s.render s'.render)
    (hversions : s'.render.versions = s.render.versions)
    (hactive : s'.render.activeJobs = s.render.activeJobs)
    (hbuffer : s'.render.reclassificationBuffer = s.render.reclassificationBuffer)
    (hpending : s'.render.pendingTiles = s.render.pendingTiles)
    (hstarted : s'.sched.started = s.sched.started) : SchedulerIdle s' where
  current := h.current.kept hi.registered_lt hstep.jobs hversions fun c j hj => hactive ▸ hj
  buffer := hbuffer.trans h.buffer
  stopped hs := by
    rw [hpending, hactive]
    exact h.stopped (hstarted ▸ hs)

/-- Between two calls, with no job made since the last session ended. -/
def SessionClosed (s : EngineState S) : Prop :=
  SchedulerIdle s ∧ s.render.history.sessionFirstJob = s.render.jobs.made

theorem kept_sessionClosed :
    (renderContract cfg kernel .scheduler).Kept (SessionClosed (S := S)) :=
  fun s s' h hr hi => ⟨kept_idle s s' h.1 hr hi, by rw [hr.2.1.sessionFirst, hr.2.1.made, h.2]⟩

theorem executorStart_triple :
    (renderContract cfg kernel .scheduler).Triple (SchedulerIdle (S := S)) Executor.start
      fun _ => SchedulerIdle := by
  have hstable := renderContract_stable cfg kernel (S := S) .scheduler
  have hkept : ∀ started : Bool, (renderContract cfg kernel .scheduler).Kept
      fun s : EngineState S => SchedulerIdle s ∧ (started = false → SessionClosed s) :=
    fun started s s' h hr hi => ⟨kept_idle s s' h.1 hr hi,
      fun hs => kept_sessionClosed s s' (h.2 hs) hr hi⟩
  have hopen : (renderContract cfg kernel .scheduler).Triple (SchedulerIdle (S := S))
      (.atomically fun s =>
        (s.render.executor.started,
          if s.render.executor.started then s
          else { s with render := { s.render with
            executor.stopRequested := false
            executor.started := true
            history := s.render.history.endSession s.render.jobs.made } }))
      fun started s => SchedulerIdle s ∧ (started = false → SessionClosed s) := by
    refine triple_atomically kept_idle hkept fun s hi h => ?_
    dsimp only
    split
    · rename_i hs
      exact ⟨guar_refl _ s, hi, h, fun hf => by rw [hs] at hf; cases hf⟩
    · have hstep : SchedulerStep s.render { s.render with
          executor.stopRequested := false
          executor.started := true
          history := s.render.history.endSession s.render.jobs.made } :=
        .of_jobs_eq rfl rfl rfl
      have hidle : SchedulerIdle { s with render := { s.render with
          executor.stopRequested := false
          executor.started := true
          history := s.render.history.endSession s.render.jobs.made } } :=
        h.step hi hstep rfl rfl rfl rfl rfl
      exact ⟨guar_of_schedulerStep hi hstep, { hi.endSession with }, hidle, fun _ => ⟨hidle, rfl⟩⟩
  refine hopen.bind hstable fun started => triple_ite (fun hs => ?_) fun _ =>
    triple_pure kept_idle fun s _ h => h.1
  refine Triple.conseq (P := SessionClosed) (triple_modify kept_sessionClosed kept_idle
    fun s hi h => ?_) (fun s _ h => h.2 (by simpa using hs)) fun _ _ _ h => h
  have hstep : SchedulerStep s.render { s.render with executor.completedJobs := [] } :=
    .of_jobs_eq rfl rfl rfl
  exact ⟨guar_of_schedulerStep hi hstep, hi.clearCompleted h.2,
    h.1.step hi hstep rfl rfl rfl rfl rfl⟩

theorem dropTasks_triple (n : ℕ) :
    (renderContract cfg kernel .scheduler).Triple (SessionClosed (S := S)) (Executor.dropTasks n)
      fun _ => SessionClosed := by
  have hstable := renderContract_stable cfg kernel (S := S) .scheduler
  induction n with
  | zero => exact triple_pure kept_sessionClosed fun _ _ h => h
  | succ n ih =>
    refine Triple.bind hstable ?_ fun _ => ih
    refine triple_schedulerModify kept_sessionClosed kept_sessionClosed fun s hi h => ?_
    have hstep := SchedulerStep.dropTask s.render
    have heq := Executor.dropTask_eq s.render
    refine ⟨hstep, hi.dropTask h.2, h.1.step hi hstep (by rw [heq]) (by rw [heq]) (by rw [heq])
      (by rw [heq]) rfl, ?_⟩
    show (Executor.dropTask s.render).history.sessionFirstJob = (Executor.dropTask s.render).jobs.made
    rw [Executor.dropTask_made, heq]
    exact h.2

theorem executorStop_triple :
    (renderContract cfg kernel .scheduler).Triple (SchedulerIdle (S := S)) Executor.stop
      fun _ => SchedulerIdle := by
  have hstable := renderContract_stable cfg kernel (S := S) .scheduler
  have hkept : ∀ a : Bool × ℕ, (renderContract cfg kernel .scheduler).Kept
      fun s : EngineState S => SchedulerIdle s ∧ (a.1 = true → SessionClosed s) :=
    fun started s s' h hr hi => ⟨kept_idle s s' h.1 hr hi,
      fun hs => kept_sessionClosed s s' (h.2 hs) hr hi⟩
  have hclose : (renderContract cfg kernel .scheduler).Triple (SchedulerIdle (S := S))
      (.atomically fun s =>
        ((s.render.executor.started, s.render.executor.renderTasks.length),
          if s.render.executor.started then
            { s with render := { s.render with
              executor.stopRequested := true
              history := s.render.history.endSession s.render.jobs.made } }
          else s))
      fun a s => SchedulerIdle s ∧ (a.1 = true → SessionClosed s) := by
    refine triple_atomically kept_idle hkept fun s hi h => ?_
    dsimp only
    split
    · have hstep : SchedulerStep s.render { s.render with
          executor.stopRequested := true
          history := s.render.history.endSession s.render.jobs.made } :=
        .of_jobs_eq rfl rfl rfl
      have hidle : SchedulerIdle { s with render := { s.render with
          executor.stopRequested := true
          history := s.render.history.endSession s.render.jobs.made } } :=
        h.step hi hstep rfl rfl rfl rfl rfl
      exact ⟨guar_of_schedulerStep hi hstep, { hi.endSession with }, hidle, fun _ => ⟨hidle, rfl⟩⟩
    · rename_i hs
      exact ⟨guar_refl _ s, hi, h, fun ht => absurd ht hs⟩
  refine hclose.bind hstable fun ⟨started, queued⟩ => triple_ite (fun hs => ?_) fun _ =>
    triple_pure kept_idle fun s _ h => h.1
  refine Triple.conseq (P := SessionClosed) ?_ (fun s _ h => h.2 hs) fun _ _ _ h => h
  refine (dropTasks_triple queued).bind hstable fun _ =>
    triple_modify kept_sessionClosed kept_idle fun s hi h => ?_
  have hstep : SchedulerStep s.render { s.render with executor.started := false } :=
    .of_jobs_eq rfl rfl rfl
  exact ⟨guar_of_schedulerStep hi hstep, { hi with }, h.1.step hi hstep rfl rfl rfl rfl rfl⟩

/-! ## The scheduler -/

theorem framed_idle : Framed cfg kernel .scheduler (SchedulerIdle (S := S)) := by
  refine ⟨kept_idle, fun s s' hv h => ?_⟩
  obtain ⟨hr, hs⟩ := Prod.mk.inj hv
  refine ⟨?_, ?_, fun hstop => ?_⟩ <;> rw [hr]
  · exact h.current
  · exact h.buffer
  · exact h.stopped (hs ▸ hstop)

/-- Between two calls, with the scheduler started or not. -/
def IdleWith (started : Bool) (s : EngineState S) : Prop :=
  SchedulerIdle s ∧ s.sched.started = started

theorem framed_idleWith (started : Bool) :
    Framed cfg kernel .scheduler (IdleWith (S := S) started) where
  kept s s' h hr hi := ⟨kept_idle s s' h.1 hr hi, hr.2.2.trans h.2⟩
  view s s' hv h := ⟨(framed_idle : Framed cfg kernel .scheduler _).view s s' hv h.1,
    (Prod.mk.inj hv).2.trans h.2⟩

theorem readStarted_triple :
    (renderContract cfg kernel .scheduler).Triple (SchedulerIdle (S := S))
      (.read (·.sched.started)) IdleWith :=
  triple_read (guar_refl _) kept_idle (fun started => (framed_idleWith started).kept)
    fun _ _ h => ⟨h, rfl⟩

theorem schedulerStart_triple :
    (renderContract cfg kernel .scheduler).Triple (SchedulerIdle (S := S)) (Scheduler.start cfg)
      fun _ => SchedulerIdle := by
  have hstable := renderContract_stable cfg kernel (S := S) .scheduler
  have hframed : Framed cfg kernel .scheduler (IdleWith (S := S) false) := framed_idleWith false
  refine readStarted_triple.bind hstable fun started => triple_ite (fun hs => ?_) fun _ =>
    triple_pure kept_idle fun s _ h => h.1
  obtain rfl : started = false := by simpa using hs
  refine triple_frame_bind hframed (fun _ => rfl) ?_
  refine (triple_frame hframed PlaybackController.resetPlayRequest_renderView).bind hstable
    fun _ => triple_frame_bind hframed (fun _ => rfl) ?_
  refine (triple_frame hframed
    (preserves_renderView (PlaybackProtocol.currentFrame_publishingView cfg))).bind hstable
      fun frame => (triple_frame hframed (preserves_renderView
        (TimelineAudioPublisher.reset_publishingView frame))).bind hstable fun _ => ?_
  refine triple_modify hframed.kept kept_idle fun s hi h => ?_
  have hnone := (h.1.stopped h.2).2
  have hstep : SchedulerStep s.render
      { s.render with history := s.render.history.beginSession s.render.jobs.made } :=
    .of_jobs_eq rfl rfl rfl
  exact ⟨guar_of_schedulerStep hi hstep, hi.beginSession hnone,
    ⟨h.1.current, h.1.buffer, fun hstop => by cases hstop⟩⟩

/-- The scheduler is stopping: its session is closed, `pending` tiles are queued, and the chunks
with a registered job are among `chunks`. -/
structure Stopping (pending : ℕ → Prop) (chunks : List Int) (s : EngineState S) : Prop where
  running : Running s
  closed : s.render.history.sessionFirstJob = s.render.jobs.made
  pending : pending s.render.pendingTiles.length
  chunks : ∀ c j, s.render.activeJobs c = some j → c ∈ chunks

theorem kept_stopping (pending : ℕ → Prop) (chunks : List Int) :
    (renderContract cfg kernel .scheduler).Kept (Stopping (S := S) pending chunks) :=
  fun s s' h hr hi => ⟨kept_schedulerAt s s' h.running hr hi,
    by rw [hr.2.1.sessionFirst, hr.2.1.made, h.closed], by rw [hr.2.1.pendingTiles]; exact h.pending,
    by rw [hr.2.1.activeJobs]; exact h.chunks⟩

theorem framed_stopping (pending : ℕ → Prop) (chunks : List Int) :
    Framed cfg kernel .scheduler (Stopping (S := S) pending chunks) := by
  refine ⟨kept_stopping pending chunks, fun s s' hv h => ?_⟩
  obtain ⟨hr, hs⟩ := Prod.mk.inj hv
  refine ⟨⟨?_, ?_, hs.trans h.running.started, trivial⟩, ?_, ?_, ?_⟩ <;> rw [hr]
  · exact h.running.current
  · exact h.running.buffer
  · exact h.closed
  · exact h.pending
  · exact h.chunks

theorem dropPendingTiles_triple (n : ℕ) (chunks : List Int) :
    (renderContract cfg kernel .scheduler).Triple (Stopping (S := S) (· = n) chunks)
      (Scheduler.dropPendingTiles n) fun _ => Stopping (· = 0) chunks := by
  have hstable := renderContract_stable cfg kernel (S := S) .scheduler
  induction n with
  | zero => exact triple_pure (kept_stopping _ _) fun _ _ h => h
  | succ n ih =>
    refine Triple.bind hstable ?_ fun _ => ih
    refine triple_schedulerModify (kept_stopping _ _) (kept_stopping _ _) fun s hi h => ?_
    have hstep := SchedulerStep.dropPendingTile s.render
    have heq := Scheduler.dropPendingTile_eq s.render
    refine ⟨hstep, hi.dropPendingTile h.closed, h.running.step hi hstep (by rw [heq]) (by rw [heq])
      (by rw [heq]; exact fun _ _ hj => hj) (by rw [heq]; exact h.running.buffer), ?_, ?_, ?_⟩
    · dsimp only
      rw [Scheduler.dropPendingTile_made, heq]
      exact h.closed
    · have hlen := h.pending
      dsimp only at hlen ⊢
      rw [heq]
      simp only [List.length_tail]
      omega
    · dsimp only
      rw [heq]
      exact h.chunks

theorem cancelAll_triple :
    (renderContract cfg kernel .scheduler).Triple
      (Stopping (S := S) (· = 0) (intRange 0 cfg.chunkCount))
      (Scheduler.cancelAll cfg) fun _ => Stopping (· = 0) [] := by
  have hstable := renderContract_stable cfg kernel (S := S) .scheduler
  unfold Scheduler.cancelAll
  generalize intRange 0 cfg.chunkCount = chunks
  induction chunks with
  | nil => exact triple_pure (kept_stopping _ _) fun _ _ h => h
  | cons chunk rest ih =>
    refine Triple.bind hstable ?_ fun _ => ih
    refine triple_schedulerModify (kept_stopping _ _) (kept_stopping _ _) fun s hi h => ?_
    have hstep := SchedulerStep.cancelAndReset chunk s.render
    have hactive := ActiveRenderJobs.cancelAndReset_activeJobs chunk s.render
    have heq := ActiveRenderJobs.cancelAndReset_eq chunk s.render
    have hmade := ActiveRenderJobs.cancelAndReset_made chunk s.render
    have hsub : ∀ c j, (ActiveRenderJobs.cancelAndReset chunk s.render).activeJobs c = some j →
        s.render.activeJobs c = some j ∧ c ≠ chunk := fun c j hj => by
      rw [hactive, Function.update_apply] at hj
      split at hj
      · cases hj
      · rename_i hne
        exact ⟨hj, hne⟩
    refine ⟨hstep, hi.cancelAndReset chunk, h.running.step hi hstep (by rw [heq]) (by rw [heq])
      (fun c j hj => (hsub c j hj).1) (by rw [heq]; exact h.running.buffer), ?_, ?_, ?_⟩
    · dsimp only
      rw [hmade, heq]
      exact h.closed
    · dsimp only
      rw [heq]
      exact h.pending
    · intro c j hj
      obtain ⟨hj, hne⟩ := hsub c j hj
      exact (List.mem_cons.mp (h.chunks c j hj)).resolve_left hne

theorem schedulerStop_triple :
    (renderContract cfg kernel .scheduler).Triple (SchedulerIdle (S := S)) (Scheduler.stop cfg)
      fun _ => SchedulerIdle := by
  have hstable := renderContract_stable cfg kernel (S := S) .scheduler
  refine readStarted_triple.bind hstable fun started => triple_ite (fun hs => ?_) fun _ =>
    triple_pure kept_idle fun s _ h => h.1
  have hclose : (renderContract cfg kernel .scheduler).Triple (Running (S := S))
      (.modify fun s => { s with
        sched.stopRequested := true
        render.history := s.render.history.endSession s.render.jobs.made })
      fun _ => Stopping (fun _ => True) (intRange 0 cfg.chunkCount) := by
    refine triple_modify kept_schedulerAt (kept_stopping _ _) fun s hi h => ?_
    have hstep : SchedulerStep s.render
        { s.render with history := s.render.history.endSession s.render.jobs.made } :=
      .of_jobs_eq rfl rfl rfl
    refine ⟨guar_of_schedulerStep hi hstep, hi.endSession,
      ⟨h.current, h.buffer, h.started, trivial⟩, rfl, trivial, fun c j hj => ?_⟩
    obtain ⟨hmade, hchunk⟩ := hi.registration.registered c j hj
    exact mem_intRange.mpr (hchunk ▸ hi.jobs.chunk_mem j hmade)
  have hlength : (renderContract cfg kernel .scheduler).Triple
      (Stopping (S := S) (fun _ => True) (intRange 0 cfg.chunkCount))
      (.read (·.render.pendingTiles.length))
      fun n => Stopping (· = n) (intRange 0 cfg.chunkCount) :=
    triple_read (guar_refl _) (kept_stopping _ _) (fun _ => kept_stopping _ _)
      fun s _ h => ⟨h.running, h.closed, rfl, h.chunks⟩
  refine Triple.bind hstable (hclose.conseq (fun s _ h => h.1.running (h.2.trans hs))
    fun _ _ _ h => h) fun _ => ?_
  refine hlength.bind hstable fun n => (dropPendingTiles_triple n _).bind hstable fun _ => ?_
  refine (triple_frame (framed_stopping _ _) (Prog.preserves_read _)).bind hstable fun commands => ?_
  refine (triple_frame (framed_stopping _ _) (Scheduler.dropCommands_renderView commands)).bind hstable
    fun _ => ?_
  refine cancelAll_triple.bind hstable fun _ => ?_
  refine (triple_frame (framed_stopping _ _) PlaybackController.resetPlayRequest_renderView).bind hstable
    fun _ => ?_
  refine triple_modify (kept_stopping _ _) kept_idle fun s hi h => ?_
  refine ⟨guar_of_schedulerStep hi (.of_jobs_eq rfl rfl rfl), { hi with },
    ⟨h.running.current, h.running.buffer, fun _ => ⟨List.length_eq_zero_iff.mp h.pending, ?_⟩⟩⟩
  exact fun c => Option.eq_none_iff_forall_ne_some.mpr fun j hj =>
    List.not_mem_nil (h.chunks c j hj)

/-! ## The engine -/

theorem engineStart_triple :
    (renderContract cfg kernel .scheduler).Triple (SchedulerIdle (S := S)) (Engine.start cfg)
      fun _ => SchedulerIdle := by
  have hstable := renderContract_stable cfg kernel (S := S) .scheduler
  refine (triple_frame framed_idle (Prog.preserves_read _)).bind hstable fun _ =>
    triple_ite (fun _ => ?_) fun _ => triple_pure kept_idle fun _ _ h => h
  refine triple_frame_bind framed_idle (fun _ => rfl) <| triple_frame_bind framed_idle
    (fun _ => rfl) <| triple_frame_bind framed_idle (fun _ => rfl) ?_
  exact executorStart_triple.bind hstable fun _ => schedulerStart_triple.bind hstable
    fun _ => triple_frame framed_idle (Prog.preserves_modify fun _ => rfl)

theorem engineStop_triple :
    (renderContract cfg kernel .scheduler).Triple (SchedulerIdle (S := S)) (Engine.stop cfg)
      fun _ => SchedulerIdle := by
  have hstable := renderContract_stable cfg kernel (S := S) .scheduler
  refine (triple_frame framed_idle (Prog.preserves_read _)).bind hstable fun _ =>
    triple_ite (fun _ => ?_) fun _ => triple_pure kept_idle fun _ _ h => h
  refine triple_frame_bind framed_idle (fun _ => rfl) <| triple_frame_bind framed_idle
    (fun _ => rfl) ?_
  exact schedulerStop_triple.bind hstable fun _ => executorStop_triple.bind hstable
    fun _ => triple_frame framed_idle (Prog.preserves_modify fun _ => rfl)

end Anasa
