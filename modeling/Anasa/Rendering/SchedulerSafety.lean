import Anasa.Rendering.Contract

/-!
# The scheduler obeys the rendering contract

Between two calls the registered jobs that are not cancelled are of the current version, no tile
is set aside, and a stopped scheduler has no pending tile and no registered job. While a call
runs, `SchedulerAt` says how far it is from that: which chunks have a newer version than their
registered job, and which tiles are set aside.
-/

namespace Anasa

open Concurrency Contract

variable {S : Type} {cfg : Config} {kernel : RenderKernel S}

/-! ## Knowledge of the scheduler -/

/-- The registered jobs that are not cancelled are of the current version, but for the chunks
that are `stale`. -/
def CurrentExcept (stale : Int → Prop) (r : RenderState S) : Prop :=
  ∀ c j, ¬stale c → r.activeJobs c = some j → (r.jobs.job j).cancelled = false →
    (r.jobs.job j).version = r.versions c

/-- What the scheduler knows between two calls. -/
structure SchedulerIdle (s : EngineState S) : Prop where
  current : CurrentExcept (fun _ => False) s.render
  buffer : s.render.reclassificationBuffer = []
  stopped : s.sched.started = false →
    s.render.pendingTiles = [] ∧ ∀ c, s.render.activeJobs c = none

/-- What a running scheduler knows within a call: `buffer` is set aside, and `R` holds of the
versions and the cache. -/
structure SchedulerAt (R : (Int → Int) → (Int → CacheEntry S) → Prop) (stale : Int → Prop)
    (buffer : List PendingRenderTile) (s : EngineState S) : Prop where
  current : CurrentExcept stale s.render
  buffer : s.render.reclassificationBuffer = buffer
  started : s.sched.started = true
  extra : R s.render.versions s.render.cacheEntries

/-- A running scheduler between two operations. -/
abbrev Running : EngineState S → Prop := SchedulerAt (fun _ _ => True) (fun _ => False) []

theorem Running.idle {s : EngineState S} (h : Running s) : SchedulerIdle s :=
  ⟨h.current, h.buffer, fun hs => by rw [h.started] at hs; cases hs⟩

theorem SchedulerIdle.running {s : EngineState S} (h : SchedulerIdle s)
    (hs : s.sched.started = true) : Running s := ⟨h.current, h.buffer, hs, trivial⟩

theorem CurrentExcept.kept {stale : Int → Prop} {r r' : RenderState S}
    (h : CurrentExcept stale r) (hmade : ∀ c j, r.activeJobs c = some j → j < r.jobs.made)
    (hjobs : JobsKept r.jobs r'.jobs) (hversions : r'.versions = r.versions)
    (hactive : ∀ c j, r'.activeJobs c = some j → r.activeJobs c = some j) :
    CurrentExcept stale r' := by
  intro c j hc hj hcancel
  have hj' := hactive c j hj
  have hlt := hmade c j hj'
  rw [hjobs.version j hlt, hversions]
  refine h c j hc hj' ?_
  rcases hb : (r.jobs.job j).cancelled with - | -
  · rfl
  · rw [hjobs.cancelled j hlt hb] at hcancel
    cases hcancel

/-- The registered jobs exist. -/
theorem RenderInv.registered_lt {r : RenderState S} (hi : RenderInv cfg kernel r) :
    ∀ c j, r.activeJobs c = some j → j < r.jobs.made :=
  fun c j hj => (hi.registration.registered c j hj).1

/-- Other threads do not change which jobs are current. -/
theorem CurrentExcept.rely {stale : Int → Prop} {s s' : EngineState S}
    (h : CurrentExcept stale s.render) (hr : renderRely .scheduler s s')
    (hi : RenderInv cfg kernel s'.render) : CurrentExcept stale s'.render := by
  obtain ⟨hjobs, hkept, -⟩ := hr
  refine h.kept (fun c j hj => ?_) hjobs hkept.versions fun c j hj => hkept.activeJobs ▸ hj
  rw [← hkept.activeJobs] at hj
  exact hkept.made ▸ hi.registered_lt c j hj

theorem kept_idle : (renderContract cfg kernel .scheduler).Kept (SchedulerIdle (S := S)) := by
  rintro s s' h ⟨hjobs, hkept, hs⟩ hi
  refine ⟨h.current.rely ⟨hjobs, hkept, hs⟩ hi, hkept.buffer.trans h.buffer, fun hstop => ?_⟩
  rw [hkept.pendingTiles, hkept.activeJobs]
  exact h.stopped (hs ▸ hstop)

variable {R : (Int → Int) → (Int → CacheEntry S) → Prop} {stale : Int → Prop}
  {buffer : List PendingRenderTile}

theorem kept_schedulerAt :
    (renderContract cfg kernel .scheduler).Kept (SchedulerAt (S := S) R stale buffer) := by
  rintro s s' h ⟨hjobs, hkept, hs⟩ hi
  refine ⟨h.current.rely ⟨hjobs, hkept, hs⟩ hi, hkept.buffer.trans h.buffer, hs.trans h.started, ?_⟩
  rw [hkept.versions, hkept.cacheEntries]
  exact h.extra

/-! ## Rules -/

/-- An access of the scheduler that changes the rendering state only. -/
theorem triple_schedulerAtomically {α : Type} {P : EngineState S → Prop}
    {Q : α → EngineState S → Prop} {f : RenderState S → α × RenderState S}
    (hP : (renderContract cfg kernel .scheduler).Kept P)
    (hQ : ∀ a, (renderContract cfg kernel .scheduler).Kept (Q a))
    (h : ∀ s, RenderInv cfg kernel s.render → P s → SchedulerStep s.render (f s.render).2 ∧
      RenderInv cfg kernel (f s.render).2 ∧ Q (f s.render).1 { s with render := (f s.render).2 }) :
    (renderContract cfg kernel .scheduler).Triple P
      (.atomically fun s => ((f s.render).1, { s with render := (f s.render).2 })) Q :=
  triple_atomically hP hQ fun s hi hs =>
    let ⟨hstep, hinv, hq⟩ := h s hi hs
    ⟨guar_of_schedulerStep hi hstep, hinv, hq⟩

theorem triple_schedulerModify {P Q : EngineState S → Prop} {f : RenderState S → RenderState S}
    (hP : (renderContract cfg kernel .scheduler).Kept P)
    (hQ : (renderContract cfg kernel .scheduler).Kept Q)
    (h : ∀ s, RenderInv cfg kernel s.render → P s → SchedulerStep s.render (f s.render) ∧
      RenderInv cfg kernel (f s.render) ∧ Q { s with render := f s.render }) :
    (renderContract cfg kernel .scheduler).Triple P
      (.modify fun s => { s with render := f s.render }) fun _ => Q :=
  triple_modify hP hQ fun s hi hs =>
    let ⟨hstep, hinv, hq⟩ := h s hi hs
    ⟨guar_of_schedulerStep hi hstep, hinv, hq⟩

theorem triple_schedulerRead {α : Type} (r : EngineState S → α) :
    (renderContract cfg kernel .scheduler).Triple (SchedulerAt R stale buffer) (.read r)
      fun _ => SchedulerAt R stale buffer :=
  triple_read (guar_refl _) kept_schedulerAt (fun _ => kept_schedulerAt) fun _ _ hs => hs

theorem triple_schedulerPure {α : Type} (a : α) :
    (renderContract cfg kernel .scheduler).Triple (SchedulerAt R stale buffer)
      (pure a : Prog (EngineState S) α) fun _ => SchedulerAt R stale buffer :=
  triple_pure kept_schedulerAt fun _ _ hs => hs

theorem framed_schedulerAt :
    Framed cfg kernel .scheduler (SchedulerAt (S := S) R stale buffer) := by
  refine ⟨kept_schedulerAt, fun s s' hv h => ?_⟩
  obtain ⟨hr, hs⟩ := Prod.mk.inj hv
  refine ⟨?_, ?_, hs.trans h.started, ?_⟩ <;> rw [hr]
  · exact h.current
  · exact h.buffer
  · exact h.extra

/-- An operation that keeps versions, cache and buffer, and registers nothing. -/
theorem SchedulerAt.step {s : EngineState S} {r' : RenderState S}
    (h : SchedulerAt R stale buffer s) (hi : RenderInv cfg kernel s.render)
    (hstep : SchedulerStep s.render r') (hversions : r'.versions = s.render.versions)
    (hcache : r'.cacheEntries = s.render.cacheEntries)
    (hactive : ∀ c j, r'.activeJobs c = some j → s.render.activeJobs c = some j)
    {buffer' : List PendingRenderTile} (hbuffer : r'.reclassificationBuffer = buffer') :
    SchedulerAt R stale buffer' { s with render := r' } :=
  ⟨h.current.kept hi.registered_lt hstep.jobs hversions hactive, hbuffer, h.started,
    show R r'.versions r'.cacheEntries by rw [hversions, hcache]; exact h.extra⟩

/-! ## Edits and commands -/

theorem invalidateVersions_triple (firstFrame lastFrame : Int) :
    (renderContract cfg kernel .scheduler).Triple (Running (S := S))
      (Scheduler.invalidateVersions cfg firstFrame lastFrame) fun _ => Running := by
  have hstable := renderContract_stable cfg kernel (S := S) .scheduler
  refine triple_forEach hstable kept_schedulerAt fun chunk _ => ?_
  have hbump : (renderContract cfg kernel .scheduler).Triple (Running (S := S))
      (.modify fun s => { s with render := Scheduler.bumpVersion chunk s.render })
      fun _ => SchedulerAt (fun _ _ => True) (· = chunk) [] := by
    refine triple_schedulerModify kept_schedulerAt kept_schedulerAt fun s hi h =>
      ⟨.of_jobs_eq rfl rfl rfl, hi.bumpVersion chunk, ⟨fun c j hc hj hcancel => ?_, h.buffer,
        h.started, trivial⟩⟩
    dsimp only [Scheduler.bumpVersion] at hj hcancel ⊢
    rw [Function.update_of_ne hc]
    exact h.current c j not_false hj hcancel
  refine hbump.bind hstable fun _ => ?_
  refine triple_schedulerModify kept_schedulerAt kept_schedulerAt fun s hi h => ?_
  have hstep := SchedulerStep.activeCancel cfg chunk s.render
  have heq := ActiveRenderJobs.cancel_eq cfg chunk s.render
  refine ⟨hstep, hi.activeCancel chunk, ⟨fun c j _ hj hcancel => ?_, by rw [heq]; exact h.buffer,
    h.started, trivial⟩⟩
  dsimp only at hj hcancel ⊢
  rw [heq] at hj
  obtain ⟨hmade, hchunk⟩ := hi.registration.registered c j hj
  by_cases hc : c = chunk
  · -- The registered job of the chunk has just been cancelled.
    have hmem := hi.jobs.chunk_mem j hmade
    subst hc
    unfold ActiveRenderJobs.cancel at hcancel
    rw [if_neg (by omega), hj] at hcancel
    simp [JobTable.cancel_job] at hcancel
  · refine h.current.kept hi.registered_lt hstep.jobs (by rw [heq]) ?_ c j hc ?_ hcancel
    · rw [heq]; exact fun _ _ hk => hk
    · rw [heq]; exact hj

theorem handleCommand_triple (command : Command) :
    (renderContract cfg kernel .scheduler).Triple (Running (S := S))
      (Scheduler.handleCommand cfg command) fun _ => Running := by
  have hstable := renderContract_stable cfg kernel (S := S) .scheduler
  unfold Scheduler.handleCommand
  split
  · exact triple_frame framed_schedulerAt (PlaybackController.requestPlay_renderView.bind fun _ =>
      Prog.preserves_ite Scheduler.setClassificationsDirty_renderView (Prog.preserves_pure _))
  · exact triple_frame framed_schedulerAt (PlaybackController.pause_renderView.bind fun _ =>
      Prog.preserves_ite Scheduler.setClassificationsDirty_renderView (Prog.preserves_pure _))
  · exact triple_frame framed_schedulerAt
      ((preserves_renderView (Scheduler.beginAudioGeneration_publishingView _ _)).bind fun _ =>
        Scheduler.setClassificationsDirty_renderView)
  · exact triple_frame framed_schedulerAt (Prog.preserves_modify fun _ => rfl)
  · refine triple_frame_bind framed_schedulerAt (fun _ => rfl) ?_
    refine (invalidateVersions_triple _ _).bind hstable fun _ => triple_frame framed_schedulerAt ?_
    exact preserves_renderView <| (PlaybackProtocol.currentFrame_publishingView cfg).bind fun _ =>
      Prog.preserves_read_bind fun _ => (Scheduler.beginAudioGeneration_publishingView _ _).bind
        fun _ => Prog.preserves_modify fun _ => rfl
  · exact triple_frame framed_schedulerAt (Prog.preserves_modify_bind (fun _ => rfl) fun _ =>
      Prog.preserves_modify fun _ => rfl)

theorem readCommand_triple (command : Command) :
    (renderContract cfg kernel .scheduler).Triple (Running (S := S))
      (Scheduler.readCommand cfg command) fun _ => Running := by
  have hstable := renderContract_stable cfg kernel (S := S) .scheduler
  refine (triple_schedulerRead _).bind hstable fun _ => triple_ite (fun _ => ?_)
    fun _ => triple_schedulerPure _
  exact triple_frame_bind framed_schedulerAt (fun _ => rfl) (handleCommand_triple command)

theorem readCommands_triple (passes : ℕ) :
    (renderContract cfg kernel .scheduler).Triple (Running (S := S))
      (Scheduler.readCommands cfg passes) fun _ => Running := by
  have hstable := renderContract_stable cfg kernel (S := S) .scheduler
  induction passes with
  | zero => exact triple_schedulerPure _
  | succ n ih =>
    refine (triple_schedulerRead _).bind hstable fun front => ?_
    cases front with
    | none => exact triple_schedulerPure _
    | some command =>
      refine triple_frame_bind framed_schedulerAt (fun _ => rfl) ?_
      refine (handleCommand_triple command).bind hstable fun _ => ?_
      refine (triple_frame framed_schedulerAt
        (preserves_renderView Scheduler.shutdownRequested_publishingView)).bind hstable fun _ => ?_
      exact triple_ite (fun _ => ih) fun _ => triple_schedulerPure _

/-! ## Completions -/

theorem collectOne_triple :
    (renderContract cfg kernel .scheduler).Triple (Running (S := S))
      (.atomically fun s => ((Scheduler.collectOne cfg s.render).1,
        { s with render := (Scheduler.collectOne cfg s.render).2 })) fun _ => Running := by
  refine triple_schedulerAtomically kept_schedulerAt (fun _ => kept_schedulerAt) fun s hi h => ?_
  have hstep := SchedulerStep.collectOne cfg s.render
  have heq := Scheduler.collectOne_eq cfg s.render
  refine ⟨hstep, hi.collectOne, ⟨?_, by rw [heq]; exact h.buffer, h.started, trivial⟩⟩
  exact h.current.kept hi.registered_lt hstep.jobs (by rw [heq])
    fun c j hj => Scheduler.collectOne_activeJobs hj

theorem collectFinishedJobs_triple (passes : ℕ) :
    (renderContract cfg kernel .scheduler).Triple (Running (S := S))
      (Scheduler.collectFinishedJobs cfg passes) fun _ => Running := by
  have hstable := renderContract_stable cfg kernel (S := S) .scheduler
  induction passes with
  | zero => exact triple_schedulerPure _
  | succ n ih =>
    exact collectOne_triple.bind hstable fun _ => triple_ite (fun _ => ih) fun _ =>
      triple_schedulerPure _

/-! ## Making room -/

theorem tileIsCancelled_triple (tile : PendingRenderTile) :
    (renderContract cfg kernel .scheduler).Triple (SchedulerAt (S := S) R stale buffer)
      (Scheduler.tileIsCancelled tile) fun _ => SchedulerAt R stale buffer :=
  triple_schedulerRead _

theorem countRetained_triple (tiles : List PendingRenderTile) :
    (renderContract cfg kernel .scheduler).Triple (SchedulerAt (S := S) R stale buffer)
      (Scheduler.countRetained tiles) fun _ => SchedulerAt R stale buffer := by
  have hstable := renderContract_stable cfg kernel (S := S) .scheduler
  induction tiles with
  | nil => exact triple_schedulerPure _
  | cons tile tiles ih =>
    exact (tileIsCancelled_triple tile).bind hstable fun _ => ih.bind hstable
      fun _ => triple_schedulerPure _

theorem evictJobs_triple (all : List PendingRenderTile) (retained : Int)
    (tiles : List PendingRenderTile) :
    (renderContract cfg kernel .scheduler).Triple (SchedulerAt (S := S) R stale buffer)
      (Scheduler.evictJobs cfg all retained tiles) fun _ => SchedulerAt R stale buffer := by
  have hstable := renderContract_stable cfg kernel (S := S) .scheduler
  induction tiles generalizing retained with
  | nil => exact triple_schedulerPure _
  | cons tile tiles ih =>
    refine triple_ite (fun _ => triple_ite (fun _ => ih retained) fun _ => ?_)
      fun _ => triple_schedulerPure _
    refine (tileIsCancelled_triple tile).bind hstable fun _ =>
      triple_ite (fun _ => ih retained) fun _ => ?_
    refine Triple.bind hstable ?_ fun _ => ih _
    refine triple_schedulerModify kept_schedulerAt kept_schedulerAt
      (f := fun r => { r with jobs := r.jobs.cancel tile.job }) fun s hi h => ?_
    have hstep : SchedulerStep s.render
        { s.render with jobs := s.render.jobs.cancel tile.job } := .of_cancel rfl rfl rfl
    exact ⟨hstep, hi.cancelJob _, h.step hi hstep rfl rfl (fun _ _ hj => hj) h.buffer⟩

theorem retireOrKeep_triple (tile : PendingRenderTile) (rest : List PendingRenderTile) :
    (renderContract cfg kernel .scheduler).Triple (SchedulerAt (S := S) R stale (tile :: rest))
      (Scheduler.retireOrKeep cfg tile) fun _ => SchedulerAt R stale rest := by
  have hstable := renderContract_stable cfg kernel (S := S) .scheduler
  have hcheck : (renderContract cfg kernel .scheduler).Triple
      (SchedulerAt (S := S) R stale (tile :: rest)) (Scheduler.tileIsCancelled tile)
      fun cancelled s => SchedulerAt R stale (tile :: rest) s ∧
        (cancelled = true → (s.render.jobs.job tile.job).cancelled = true) := by
    refine triple_read (guar_refl _) kept_schedulerAt (fun cancelled s s' h hr hi => ?_)
      fun s _ h => ⟨h, fun hc => hc⟩
    have h' := kept_schedulerAt s s' h.1 hr hi
    refine ⟨h', fun hc => hr.1.cancelled _ ?_ (h.2 hc)⟩
    rw [← hr.2.1.made]
    refine hi.tiles.job_lt tile.task (List.mem_append_left _ (List.mem_append_left _
      (List.mem_append_right _ ?_)))
    rw [h'.buffer]
    exact List.mem_cons_self
  refine hcheck.bind hstable fun cancelled => triple_ite (fun hc => ?_) fun _ => ?_
  · refine Triple.conseq (P := fun s => SchedulerAt R stale (tile :: rest) s ∧
      (s.render.jobs.job tile.job).cancelled = true) (triple_schedulerModify ?_ kept_schedulerAt
        fun s hi h => ?_) (fun s _ h => ⟨h.1, h.2 hc⟩) fun _ _ _ h => h
    · intro s s' h hr hi
      have h' := kept_schedulerAt s s' h.1 hr hi
      refine ⟨h', hr.1.cancelled _ ?_ h.2⟩
      rw [← hr.2.1.made]
      refine hi.tiles.job_lt tile.task (List.mem_append_left _ (List.mem_append_left _
        (List.mem_append_right _ ?_)))
      rw [h'.buffer]
      exact List.mem_cons_self
    · have hstep := SchedulerStep.retireTile cfg tile s.render
      have heq := Scheduler.retireTile_eq cfg tile s.render
      exact ⟨hstep, hi.retireTile h.1.buffer h.2, h.1.step hi hstep (by rw [heq]) (by rw [heq])
        (fun c j hj => Scheduler.retireTile_activeJobs hj)
        (by rw [heq]; exact congrArg List.tail h.1.buffer)⟩
  · refine (triple_schedulerModify kept_schedulerAt kept_schedulerAt fun s hi h => ?_).conseq
      (fun s _ h => h.1) fun _ _ _ h => h
    have hstep : SchedulerStep s.render (Scheduler.keepTile cfg tile s.render) :=
      .of_jobs_eq rfl rfl rfl
    exact ⟨hstep, hi.keepTile h.buffer, h.step hi hstep rfl rfl (fun _ _ hj => hj)
      (congrArg List.tail h.buffer)⟩

theorem makeRoomForUrgentChunk_triple :
    (renderContract cfg kernel .scheduler).Triple (SchedulerAt (S := S) R stale [])
      (Scheduler.makeRoomForUrgentChunk cfg) fun _ => SchedulerAt R stale [] := by
  have hstable := renderContract_stable cfg kernel (S := S) .scheduler
  have hloop : ∀ tiles, (renderContract cfg kernel .scheduler).Triple
      (SchedulerAt (S := S) R stale tiles) (.forEach (Scheduler.retireOrKeep cfg) tiles)
      fun _ => SchedulerAt R stale [] := fun tiles => by
    induction tiles with
    | nil => exact triple_schedulerPure _
    | cons tile rest ih => exact (retireOrKeep_triple tile rest).bind hstable fun _ => ih
  have haside : (renderContract cfg kernel .scheduler).Triple (SchedulerAt (S := S) R stale [])
      (.atomically fun s =>
        (s.render.pendingTiles, { s with render := { s.render with
          reclassificationBuffer := s.render.pendingTiles
          pendingTiles := [] } })) fun tiles => SchedulerAt R stale tiles := by
    refine triple_schedulerAtomically (f := fun r => (r.pendingTiles, { r with
      reclassificationBuffer := r.pendingTiles
      pendingTiles := [] })) kept_schedulerAt (fun _ => kept_schedulerAt) fun s hi h => ?_
    have hstep : SchedulerStep s.render { s.render with
        reclassificationBuffer := s.render.pendingTiles
        pendingTiles := [] } := .of_jobs_eq rfl rfl rfl
    exact ⟨hstep, hi.setAside h.buffer, h.step hi hstep rfl rfl (fun _ _ hj => hj) rfl⟩
  exact haside.bind hstable fun tiles => (countRetained_triple _).bind hstable fun _ =>
    (evictJobs_triple _ _ _).bind hstable fun _ => hloop tiles

/-! ## Scheduling -/

theorem reclassify_task (s : EngineState S) (playheadFrame : Int) (tile : PendingRenderTile) :
    (Scheduler.reclassify cfg s playheadFrame tile).task = tile.task := by
  unfold Scheduler.reclassify
  split <;> rfl

theorem makeRoomIfUrgent_triple (priority : RenderPriority) :
    (renderContract cfg kernel .scheduler).Triple (SchedulerAt (S := S) R stale [])
      (Scheduler.makeRoomIfUrgent cfg priority) fun _ => SchedulerAt R stale [] := by
  have hstable := renderContract_stable cfg kernel (S := S) .scheduler
  refine triple_ite (fun _ => ?_) fun _ => triple_schedulerPure _
  exact (triple_schedulerRead _).bind hstable fun _ =>
    triple_ite (fun _ => makeRoomForUrgentChunk_triple) fun _ => triple_schedulerPure _

theorem refreshPendingClassifications_triple (playheadFrame : Int) :
    (renderContract cfg kernel .scheduler).Triple (Running (S := S))
      (Scheduler.refreshPendingClassifications cfg playheadFrame) fun _ => Running := by
  refine triple_modify kept_schedulerAt kept_schedulerAt fun s hi h => ?_
  have hstep : SchedulerStep s.render { s.render with
      pendingTiles := pushAllPending cfg
        (s.render.pendingTiles.map (Scheduler.reclassify cfg s playheadFrame)) []
      reclassificationBuffer := [] } := .of_jobs_eq rfl rfl rfl
  exact ⟨guar_of_schedulerStep hi hstep, hi.refresh (reclassify_task s playheadFrame) h.buffer,
    h.step hi hstep rfl rfl (fun _ _ hj => hj) rfl⟩

theorem updateClassifications_triple (playheadFrame : Int) :
    (renderContract cfg kernel .scheduler).Triple (Running (S := S))
      (Scheduler.updateClassifications cfg playheadFrame) fun _ => Running := by
  have hstable := renderContract_stable cfg kernel (S := S) .scheduler
  refine (triple_schedulerRead _).bind hstable fun _ => triple_ite (fun _ => ?_) fun _ =>
    triple_frame framed_schedulerAt (Prog.preserves_modify fun _ => rfl)
  exact (refreshPendingClassifications_triple playheadFrame).bind hstable fun _ =>
    triple_frame framed_schedulerAt (Prog.preserves_modify fun _ => rfl)

/-- The chunk has the version and is not cached. -/
def MissingChunk (chunk version : Int) (versions : Int → Int)
    (cacheEntries : Int → CacheEntry S) : Prop :=
  version = versions chunk ∧ (cacheEntries chunk).version ≠ versions chunk

variable [Zero S]

theorem admitIfRoom_triple {chunk version : Int} (classification : RenderClassification)
    (h₀ : 0 ≤ chunk) (h₁ : chunk < cfg.chunkCount) :
    (renderContract cfg kernel .scheduler).Triple
      (SchedulerAt (S := S) (MissingChunk chunk version) (fun _ => False) [])
      (Scheduler.admitIfRoom cfg chunk version classification) fun _ => Running := by
  have hstable := renderContract_stable cfg kernel (S := S) .scheduler
  refine (triple_schedulerRead _).bind hstable fun _ => triple_ite (fun _ => ?_) fun _ =>
    triple_pure kept_schedulerAt fun s _ h => ⟨h.current, h.buffer, h.started, trivial⟩
  refine triple_schedulerModify kept_schedulerAt kept_schedulerAt fun s hi h => ?_
  have hstep := SchedulerStep.admitChunk cfg chunk version classification s.render
  refine ⟨hstep, hi.admitChunk h₀ h₁ h.extra.1 h.extra.2, ?_⟩
  unfold Scheduler.admitChunk ActiveRenderJobs.create at hstep ⊢
  rw [if_neg (by omega)] at hstep ⊢
  dsimp only at hstep ⊢
  have heq := ActiveRenderJobs.cancel_eq cfg chunk s.render
  have hcancel := SchedulerStep.activeCancel cfg chunk s.render
  refine ⟨fun c j _ hj hc => ?_, by rw [heq]; exact h.buffer, h.started, trivial⟩
  dsimp only at hj hc ⊢
  rw [Function.update_apply] at hj
  split at hj
  · rename_i hchunk
    obtain rfl := Option.some.inj hj
    rw [JobTable.add_job_made, hchunk, heq]
    exact h.extra.1
  · have hj' : s.render.activeJobs c = some j := by rw [heq] at hj; exact hj
    have hlt := hi.registered_lt c j hj'
    have hne := (hlt.trans_le hcancel.jobs.made_le).ne
    rw [JobTable.add_job_of_ne _ _ hne] at hc ⊢
    exact h.current.kept hi.registered_lt hcancel.jobs (by rw [heq])
      (by rw [heq]; exact fun _ _ hk => hk) c j not_false hj hc

theorem scheduleChunk_triple (chunk playheadFrame : Int) :
    (renderContract cfg kernel .scheduler).Triple (Running (S := S))
      (Scheduler.scheduleChunk cfg chunk playheadFrame) fun _ => Running := by
  have hstable := renderContract_stable cfg kernel (S := S) .scheduler
  refine triple_ite (fun _ => triple_schedulerPure _) fun hrange => ?_
  have h₀ : 0 ≤ chunk := by omega
  have h₁ : chunk < cfg.chunkCount := by omega
  have hweaken : ∀ {R : (Int → Int) → (Int → CacheEntry S) → Prop},
      (renderContract cfg kernel .scheduler).Triple (SchedulerAt R (fun _ => False) [])
        (pure () : Prog (EngineState S) Unit) fun _ => Running :=
    triple_pure kept_schedulerAt fun s _ h => ⟨h.current, h.buffer, h.started, trivial⟩
  have hcached : (renderContract cfg kernel .scheduler).Triple (Running (S := S))
      (.read fun s => Scheduler.cacheIsCurrent cfg chunk s.render)
      fun cached => SchedulerAt (fun versions cacheEntries => cached = false →
        (cacheEntries chunk).version ≠ versions chunk) (fun _ => False) [] := by
    refine triple_read (guar_refl _) kept_schedulerAt (fun _ => kept_schedulerAt)
      fun s _ h => ⟨h.current, h.buffer, h.started, fun hc heq => ?_⟩
    unfold Scheduler.cacheIsCurrent RenderCache.findCurrent at hc
    rw [if_neg hrange, if_neg (not_not.mpr heq)] at hc
    cases hc
  refine hcached.bind hstable fun cached => triple_ite (fun _ => hweaken) fun hc => ?_
  have hversion : (renderContract cfg kernel .scheduler).Triple
      (SchedulerAt (S := S) (fun versions cacheEntries => cached = false →
        (cacheEntries chunk).version ≠ versions chunk) (fun _ => False) [])
      (.read (·.render.versions chunk))
      fun version => SchedulerAt (MissingChunk chunk version) (fun _ => False) [] :=
    triple_read (guar_refl _) kept_schedulerAt (fun _ => kept_schedulerAt)
      fun s _ h => ⟨h.current, h.buffer, h.started, rfl, h.extra (by simpa using hc)⟩
  refine hversion.bind hstable fun version => (triple_schedulerRead _).bind hstable fun _ =>
    triple_ite (fun _ => hweaken) fun _ => (triple_schedulerRead _).bind hstable fun result => ?_
  cases result with
  | error e => exact hweaken
  | ok classification =>
    exact (makeRoomIfUrgent_triple classification.priority).bind hstable fun _ =>
      admitIfRoom_triple classification h₀ h₁

theorem scanTimeline_triple (playheadFrame : Int) (n : ℕ) :
    (renderContract cfg kernel .scheduler).Triple (Running (S := S))
      (Scheduler.scanTimeline cfg playheadFrame n) fun _ => Running := by
  have hstable := renderContract_stable cfg kernel (S := S) .scheduler
  induction n with
  | zero => exact triple_schedulerPure _
  | succ n ih =>
    refine (triple_schedulerRead _).bind hstable fun _ =>
      triple_ite (fun _ => triple_schedulerPure _) fun _ => ?_
    exact (scheduleChunk_triple _ _).bind hstable fun _ =>
      triple_frame_bind framed_schedulerAt (fun _ => rfl) ih

theorem scheduleLoops_triple (playheadFrame : Int) :
    (renderContract cfg kernel .scheduler).Triple (Running (S := S))
      (Scheduler.scheduleLoops cfg playheadFrame) fun _ => Running := by
  have hstable := renderContract_stable cfg kernel (S := S) .scheduler
  have hchunks : ∀ chunks, (renderContract cfg kernel .scheduler).Triple (Running (S := S))
      (.forEach (fun chunk => Scheduler.scheduleChunk cfg chunk playheadFrame) chunks)
      fun _ => Running := fun chunks =>
    triple_forEach hstable kept_schedulerAt fun chunk _ => scheduleChunk_triple chunk playheadFrame
  exact (triple_schedulerRead _).bind hstable fun _ => (hchunks _).bind hstable fun _ =>
    (triple_schedulerRead _).bind hstable fun _ => (hchunks _).bind hstable fun _ =>
      scanTimeline_triple _ _

theorem scheduleRenderJobs_triple :
    (renderContract cfg kernel .scheduler).Triple (Running (S := S))
      (Scheduler.scheduleRenderJobs cfg) fun _ => Running := by
  have hstable := renderContract_stable cfg kernel (S := S) .scheduler
  exact (triple_frame framed_schedulerAt
    (preserves_renderView (PlaybackProtocol.currentFrame_publishingView cfg))).bind
    hstable fun playheadFrame => (updateClassifications_triple playheadFrame).bind hstable
      fun _ => scheduleLoops_triple playheadFrame

end Anasa
