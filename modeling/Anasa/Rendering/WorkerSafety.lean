import Anasa.Rendering.Contract

/-!
# Workers obey the rendering contract

A worker that holds a tile knows which samples of it it has drawn: no other thread writes them.
-/

namespace Anasa

open Concurrency Contract

variable {S : Type} {cfg : Config} {kernel : RenderKernel S} {w : ℕ} {task : RenderTask}

/-- The sample of a job that the kernel gives. -/
def SampleContent (kernel : RenderKernel S) (job : RenderJob S) (c f : Int) : Prop :=
  job.samples.sample c f = kernel c (job.chunk * chunkFrames + f) job.version

/-- The frame lies in the tile of the task. -/
def InTile (task : RenderTask) (f : Int) : Prop :=
  task.tileIndex * tileFrames ≤ f ∧ f < task.tileIndex * tileFrames + tileFrames

/-- The worker holds the tile and has drawn the given samples of it. -/
structure Drawn (kernel : RenderKernel S) (w : ℕ) (task : RenderTask) (done : Int → Int → Prop)
    (s : EngineState S) : Prop where
  made : task.job < s.render.jobs.made
  holds : (w, task) ∈ s.render.executor.rendering
  content : ∀ c f, done c f → InTile task f → SampleContent kernel (s.render.jobs.job task.job) c f

theorem Drawn.mono {done done' : Int → Int → Prop} {s : EngineState S}
    (h : Drawn kernel w task done s) (hd : ∀ c f, done' c f → done c f) :
    Drawn kernel w task done' s :=
  { h with content := fun c f hc => h.content c f (hd c f hc) }

theorem kept_drawn (done : Int → Int → Prop) :
    (renderContract cfg kernel (.worker w)).Kept (Drawn kernel w task done) := by
  rintro s s' h ⟨hjobs, hkept⟩ -
  refine ⟨h.made.trans_le hjobs.made_le, hkept.rendering task h.holds, fun c f hd hf => ?_⟩
  rw [SampleContent, hkept.samples task h.holds c f hf.1 hf.2, hjobs.chunk _ h.made,
    hjobs.version _ h.made]
  exact h.content c f hd hf

/-- An access of the worker that changes the rendering state only. -/
theorem triple_workerModify {P Q : EngineState S → Prop} {f : RenderState S → RenderState S}
    (hP : (renderContract cfg kernel (.worker w)).Kept P)
    (hQ : (renderContract cfg kernel (.worker w)).Kept Q)
    (h : ∀ s, RenderInv cfg kernel s.render → P s → WorkerStep w s.render (f s.render) ∧
      RenderInv cfg kernel (f s.render) ∧ Q { s with render := f s.render }) :
    (renderContract cfg kernel (.worker w)).Triple P
      (.modify fun s => { s with render := f s.render }) fun _ => Q :=
  triple_modify hP hQ fun s hi hs =>
    let ⟨hstep, hinv, hq⟩ := h s hi hs
    ⟨guar_of_workerStep hstep rfl, hinv, hq⟩

theorem triple_workerRead {α : Type} {P : EngineState S → Prop} (r : EngineState S → α)
    (hP : (renderContract cfg kernel (.worker w)).Kept P) :
    (renderContract cfg kernel (.worker w)).Triple P (.read r) fun _ => P :=
  triple_read (guar_refl _) hP (fun _ => hP) fun _ _ hs => hs

/-! ## Rendering a tile -/

variable {done : Int → Int → Prop}

theorem cancelJob_triple :
    (renderContract cfg kernel (.worker w)).Triple (Drawn kernel w task done)
      (cancelJob task.job) fun _ s => Drawn kernel w task done s ∧
        (s.render.jobs.job task.job).cancelled = true := by
  have hkept : (renderContract cfg kernel (.worker w)).Kept fun s =>
      Drawn kernel w task done s ∧ (s.render.jobs.job task.job).cancelled = true :=
    fun s s' h hr hi =>
      ⟨kept_drawn done s s' h.1 hr hi, hr.1.cancelled _ h.1.made h.2⟩
  refine triple_workerModify (kept_drawn done) hkept
    (f := fun r => { r with jobs := r.jobs.cancel task.job }) fun s hi h =>
      ⟨WorkerStep.cancelJob w task.job s.render, hi.cancelJob task.job,
        ⟨h.made, h.holds, fun c f hd hf => ?_⟩, ?_⟩
  · rw [JobTable.cancel_job]
    exact h.content c f hd hf
  · simp [JobTable.cancel_job]

theorem shouldCancel_triple :
    (renderContract cfg kernel (.worker w)).Triple (Drawn kernel w task done)
      (RenderCancellation.shouldCancel task.job) fun _ => Drawn kernel w task done := by
  have hstable := renderContract_stable cfg kernel (S := S) (.worker w)
  have hread : ∀ r : EngineState S → Bool, (renderContract cfg kernel (.worker w)).Triple
      (Drawn kernel w task done) (.read r) fun _ => Drawn kernel w task done :=
    fun r => triple_workerRead r (kept_drawn done)
  have hpure : (renderContract cfg kernel (.worker w)).Triple (Drawn kernel w task done)
      (pure true : Prog (EngineState S) Bool) fun _ => Drawn kernel w task done :=
    triple_pure (kept_drawn done) fun _ _ h => h
  exact (hread _).bind hstable fun _ => triple_ite (fun _ => hpure) fun _ =>
    (hread _).bind hstable fun _ => triple_ite (fun _ => hpure) fun _ => hread _

/-- One sample of a tile. -/
theorem renderSample_triple {c f : Int} (hf : InTile task f) :
    (renderContract cfg kernel (.worker w)).Triple (Drawn kernel w task done)
      (Renderer.renderSample kernel task.job c f) fun _ =>
        Drawn kernel w task fun c' f' => done c' f' ∨ (c' = c ∧ f' = f) := by
  refine triple_modify (kept_drawn done) (kept_drawn _) fun s hi h => ?_
  have hholds : (w, (⟨task.job, task.tileIndex⟩ : RenderTask)) ∈ s.render.executor.rendering :=
    h.holds
  refine ⟨guar_of_workerStep (WorkerStep.setSample hi hholds hf.1 hf.2 _) rfl,
    hi.setSample (RenderInv.mem_outstanding_of_rendering hholds) hf.1 hf.2 c _,
    h.made, h.holds, fun c' f' hd hf' => ?_⟩
  rw [SampleContent, JobTable.setSample_job]
  simp only [if_true]
  by_cases heq : c' = c ∧ f' = f
  · obtain ⟨rfl, rfl⟩ := heq
    rw [AudioBuffer.set_sample_self]
  · rw [AudioBuffer.set_sample_of_ne _ _ (by tauto)]
    exact h.content c' f' (hd.resolve_right heq) hf'

theorem renderChannels_triple {faults : RenderFaults} {f : Int} (hf : InTile task f)
    (cs : List Int) :
    (renderContract cfg kernel (.worker w)).Triple (Drawn kernel w task done)
      (Renderer.renderChannels kernel faults task.job f cs) fun result =>
        Drawn kernel w task fun c' f' => done c' f' ∨ (result = .ok () ∧ c' ∈ cs ∧ f' = f) := by
  have hstable := renderContract_stable cfg kernel (S := S) (.worker w)
  induction cs generalizing done with
  | nil =>
    exact triple_pure (kept_drawn _) fun s _ h => h.mono fun c' f' hd => by simpa using hd
  | cons c cs ih =>
    refine triple_ite (fun _ => ?_) fun _ => ?_
    · exact triple_pure (kept_drawn _) fun s _ h => h.mono fun c' f' hd => by simpa using hd
    · refine (renderSample_triple hf).bind hstable fun _ =>
        ih.conseq (fun _ _ h => h) fun result s _ h => h.mono fun c' f' hd => ?_
      rw [List.mem_cons] at hd
      tauto

theorem renderFrames_triple {faults : RenderFaults} {channelCount first : Int} (fs : List Int)
    (hfs : ∀ f ∈ fs, InTile task f) :
    (renderContract cfg kernel (.worker w)).Triple (Drawn kernel w task done)
      (Renderer.renderFrames channelCount kernel faults task.job first fs) fun result =>
        Drawn kernel w task fun c' f' => done c' f' ∨
          (result = .ok true ∧ c' ∈ intRange 0 channelCount ∧ f' ∈ fs) := by
  have hstable := renderContract_stable cfg kernel (S := S) (.worker w)
  induction fs generalizing done with
  | nil =>
    exact triple_pure (kept_drawn _) fun s _ h => h.mono fun c' f' hd => by simpa using hd
  | cons f fs ih =>
    have hcheck : (renderContract cfg kernel (.worker w)).Triple (Drawn kernel w task done)
        (Renderer.periodicCheck task.job (f - first)) fun _ => Drawn kernel w task done :=
      triple_ite (fun _ => shouldCancel_triple)
        fun _ => triple_pure (kept_drawn done) fun _ _ h => h
    refine hcheck.bind hstable fun cancel => triple_ite (fun _ => ?_) fun _ => ?_
    · refine cancelJob_triple.bind hstable fun _ => ?_
      refine Triple.conseq (triple_pure (kept_drawn _) fun s _ h => h)
        (fun s _ h => h.1.mono fun c' f' hd => ?_) fun _ _ _ h => h
      simpa using hd
    · refine (renderChannels_triple (hfs f List.mem_cons_self) _).bind hstable fun result => ?_
      cases result with
      | error e =>
        exact triple_pure (kept_drawn _) fun s _ h => h.mono fun c' f' hd => by simpa using hd
      | ok u =>
        refine (ih fun f' hf' => hfs f' (List.mem_cons_of_mem _ hf')).conseq (fun _ _ h => h)
          fun result s _ h => h.mono fun c' f' hd => ?_
        rw [List.mem_cons] at hd
        tauto

/-- A tile that is rendered has its content. -/
theorem renderTile_triple {faults : RenderFaults} :
    (renderContract cfg kernel (.worker w)).Triple (Drawn kernel w task fun _ _ => False)
      (renderTile cfg kernel faults task.job task.tileIndex) fun result =>
        Drawn kernel w task fun c' _ =>
          result = .ok true ∧ c' ∈ intRange 0 cfg.audio.channelCount := by
  have hstable := renderContract_stable cfg kernel (S := S) (.worker w)
  have hfail : ∀ result : Except String Bool, result ≠ .ok true →
      (renderContract cfg kernel (.worker w)).Triple (Drawn kernel w task fun _ _ => False)
        (pure result : Prog (EngineState S) _) fun result =>
          Drawn kernel w task fun c' _ =>
            result = .ok true ∧ c' ∈ intRange 0 cfg.audio.channelCount :=
    fun result hne => triple_pure (kept_drawn _) fun s _ h => h.mono fun _ _ hd => hne hd.1
  have hread : (renderContract cfg kernel (.worker w)).Triple (Drawn kernel w task fun _ _ => False)
      (.read fun s : EngineState S => s.render.jobs.job task.job) fun j s =>
        Drawn kernel w task (fun _ _ => False) s ∧
          j.samples.channelCount = cfg.audio.channelCount :=
    triple_read (guar_refl _) (kept_drawn _)
      (fun _ s s' h hr hi => ⟨kept_drawn _ s s' h.1 hr hi, h.2⟩)
      fun s hi h => ⟨h, hi.jobs.channelCount _ h.made⟩
  unfold renderTile Renderer.renderTile
  refine triple_ite (fun _ => hfail _ (by simp)) fun _ => triple_ite (fun _ => hfail _ (by simp))
    fun hindex => hread.bind hstable fun j => ?_
  refine Triple.of_pre (φ := j.samples.channelCount = cfg.audio.channelCount) (fun s h => h.2)
    fun hchannels => Triple.conseq ?_ (fun s _ h => h.1) fun _ _ _ h => h
  rw [hchannels]
  refine triple_ite (fun _ => hfail _ (by simp)) fun _ => triple_ite (fun _ => hfail _ (by simp))
    fun _ => shouldCancel_triple.bind hstable fun _ => triple_ite (fun _ => ?_) fun _ => ?_
  · refine cancelJob_triple.bind hstable fun _ => ?_
    exact (hfail (.ok false) (by simp)).conseq (fun _ _ h => h.1) fun _ _ _ h => h
  have hindex' : task.tileIndex < 8 := by
    have := tilesPerChunk_eq
    omega
  have hrange : ∀ f, f ∈ intRange (task.tileIndex * tileFrames)
      (min (task.tileIndex * tileFrames + tileFrames) chunkFrames) ↔ InTile task f := by
    intro f
    simp only [mem_intRange, InTile, tileFrames, chunkFrames]
    omega
  refine (renderFrames_triple _ fun f hf => (hrange f).mp hf).bind hstable fun result => ?_
  rcases result with e | (_ | _)
  · exact triple_pure (kept_drawn _) fun s _ h => h.mono fun _ _ hd => by simp at hd
  · exact triple_pure (kept_drawn _) fun s _ h => h.mono fun _ _ hd => by simp at hd
  · refine shouldCancel_triple.bind hstable fun _ => triple_ite (fun _ => ?_) fun _ => ?_
    · refine cancelJob_triple.bind hstable fun _ => ?_
      refine Triple.conseq (triple_pure (kept_drawn _) fun s _ h => h)
        (fun s _ h => h.1.mono fun _ _ hd => ?_) fun _ _ _ h => h
      simp at hd
    · refine triple_pure (kept_drawn _) fun s _ h =>
        ⟨h.made, h.holds, fun c f hd hf => h.content c f (.inr ⟨rfl, hd.2, (hrange f).mpr hf⟩) hf⟩

/-! ## The loop of a worker -/

/-- The worker has a completion to queue if it counted the last tile. -/
def HasCompletion (w : ℕ) (j : JobId) (last : Bool) (s : EngineState S) : Prop :=
  last = true → (w, j) ∈ s.render.executor.publishing

theorem kept_hasCompletion (j : JobId) (last : Bool) :
    (renderContract cfg kernel (.worker w)).Kept (HasCompletion (S := S) w j last) :=
  fun _ _ h hr _ hl => hr.2.publishing j (h hl)

theorem finishTile_triple {rendered : Bool} {P : EngineState S → Prop}
    (hP : (renderContract cfg kernel (.worker w)).Kept P)
    (h : ∀ s, RenderInv cfg kernel s.render → P s →
      (w, task) ∈ s.render.executor.rendering ∧
      (rendered = true ∧ TileContent kernel (s.render.jobs.job task.job) task.tileIndex ∨
        (s.render.jobs.job task.job).cancelled = true)) :
    (renderContract cfg kernel (.worker w)).Triple P
      (.atomically fun s =>
        let (last, r) := RenderTaskProcessor.finishTile w task rendered s.render
        (last, { s with render := r }))
      fun last => HasCompletion w task.job last := by
  refine triple_atomically hP (kept_hasCompletion task.job) fun s hi hs => ?_
  obtain ⟨hw, hdone⟩ := h s hi hs
  refine ⟨guar_of_workerStep (WorkerStep.finishTile w task rendered s.render) rfl,
    hi.finishTile hw hdone, fun hlast => ?_⟩
  dsimp only [RenderTaskProcessor.finishTile] at hlast ⊢
  rw [if_pos hlast]
  exact List.mem_cons_self

theorem process_triple {faults : RenderFaults} :
    (renderContract cfg kernel (.worker w)).Triple (Drawn kernel w task fun _ _ => False)
      (RenderTaskProcessor.process cfg kernel faults w task) fun last =>
        HasCompletion w task.job last := by
  have hstable := renderContract_stable cfg kernel (S := S) (.worker w)
  have hcancelled : (renderContract cfg kernel (.worker w)).Triple
      (Drawn kernel w task fun _ _ => False)
      (do
        cancelJob task.job
        .atomically fun s =>
          let (last, r) := RenderTaskProcessor.finishTile w task false s.render
          (last, { s with render := r }))
      fun last => HasCompletion w task.job last :=
    cancelJob_triple.bind hstable fun _ => finishTile_triple
      (fun s s' h hr hi =>
        ⟨kept_drawn _ s s' h.1 hr hi, hr.1.cancelled _ h.1.made h.2⟩)
      fun s _ h => ⟨h.1.holds, .inr h.2⟩
  refine renderTile_triple.bind hstable fun result => ?_
  match result with
  | .error e =>
    exact hcancelled.conseq (fun _ _ h => h.mono fun _ _ hd => by simp at hd) fun _ _ _ h => h
  | .ok false =>
    exact hcancelled.conseq (fun _ _ h => h.mono fun _ _ hd => by simp at hd) fun _ _ _ h => h
  | .ok true =>
    refine finishTile_triple (kept_drawn _) fun s hi h => ⟨h.holds, .inl ⟨rfl, ?_⟩⟩
    intro c f hc₀ hc₁ hf₀ hf₁
    rw [hi.jobs.channelCount _ h.made] at hc₁
    exact h.content c f ⟨rfl, mem_intRange.mpr ⟨hc₀, hc₁⟩⟩ ⟨hf₀, hf₁⟩

/-- **Workers.** A pass of the loop of a worker obeys the rendering contract. -/
theorem workerLoop_triple (faults : RenderFaults) :
    (renderContract cfg kernel (.worker w)).Triple (fun _ => True)
      (Executor.workerLoop cfg kernel faults w) fun _ _ => True := by
  have hstable := renderContract_stable cfg kernel (S := S) (.worker w)
  have htake : (renderContract cfg kernel (.worker w)).Triple (fun _ => True)
      (.atomically fun s => ((Executor.takeTask w s.render).1,
        { s with render := (Executor.takeTask w s.render).2 }))
      fun task s => ∀ t, task = some t → Drawn kernel w t (fun _ _ => False) s := by
    refine triple_atomically kept_true
      (fun task s s' h hr hi t ht => kept_drawn _ s s' (h t ht) hr hi) fun s hi _ => ?_
    refine ⟨guar_of_workerStep (WorkerStep.takeTask w s.render) rfl, hi.takeTask w, ?_⟩
    intro t ht
    have hinv := hi.takeTask w
    have hmem : (w, t) ∈ (Executor.takeTask w s.render).2.executor.rendering := by
      dsimp only [Executor.takeTask] at ht ⊢
      split at ht
      · cases ht
      · rename_i hstop
        rw [if_neg hstop]
        split at ht
        · cases ht
        · cases ht
          exact List.mem_cons_self
    exact ⟨hinv.tiles.job_lt _ (RenderInv.mem_outstanding_of_rendering hmem), hmem,
      fun _ _ hd => hd.elim⟩
  refine htake.bind hstable fun task => ?_
  cases task with
  | none => exact triple_pure kept_true fun _ _ _ => trivial
  | some task =>
    refine Triple.bind hstable (process_triple.conseq (fun _ _ h => h task rfl)
      fun _ _ _ h => h) fun last => triple_ite (fun hlast => ?_) fun _ => ?_
    · refine triple_workerModify (kept_hasCompletion task.job last) kept_true
        (f := Executor.pushCompleted w task.job) fun s hi h =>
          ⟨WorkerStep.pushCompleted w task.job s.render, hi.pushCompleted (h hlast), trivial⟩
    · exact triple_pure kept_true fun _ _ _ => trivial

end Anasa
