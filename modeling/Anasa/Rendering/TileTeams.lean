import Anasa.Rendering.TileChecks

/-!
# The tiles of a chunk

The tiles of a job are rendered in any order, or with their accesses interleaved, by a team: each
leaves the frames of the others alone, so eight tiles that are rendered make up the chunk.
-/

namespace Anasa

open Concurrency RenderCancellation Renderer

variable {S : Type} {cfg : Config} {kernel : RenderKernel S} {task : RenderTask}

/-! ## What a tile leaves alone -/

/-- What rendering a tile leaves alone: the chunk, the version, the count of tiles and the shape of
the job, and the samples outside the tile. -/
def untouchedView (task : RenderTask) (s : EngineState S) :
    Int × Int × Int × Int × Int × (Int → Int → Option S) :=
  let job := s.render.jobs.job task.job
  (job.chunk, job.version, job.tilesRemaining, job.samples.channelCount, job.samples.frameCount,
    fun channel frame => if InTile task frame then none else some (job.samples.sample channel frame))

theorem renderSample_untouched {c f : Int} (hf : InTile task f) :
    (renderSample kernel task.job c f).Preserves (untouchedView task) := by
  refine Prog.preserves_modify fun s => ?_
  simp only [untouchedView, JobTable.setSample_job, if_true, Prod.mk.injEq, true_and]
  refine ⟨rfl, rfl, funext fun c' => funext fun f' => ?_⟩
  by_cases hf' : InTile task f'
  · rw [if_pos hf', if_pos hf']
  · have hne : f' ≠ f := fun heq => hf' (heq ▸ hf)
    rw [if_neg hf', if_neg hf', AudioBuffer.set_sample_of_ne _ _ (.inl hne)]

theorem cancelJob_untouched :
    (cancelJob task.job : Prog (EngineState S) Unit).Preserves (untouchedView task) :=
  Prog.preserves_modify fun s => by simp only [untouchedView, JobTable.cancel_job]

theorem shouldCancel_untouched :
    (shouldCancel task.job : Prog (EngineState S) Bool).Preserves (untouchedView task) :=
  Prog.preserves_read_bind fun _ => Prog.preserves_ite (Prog.preserves_pure _) <|
    Prog.preserves_read_bind fun _ => Prog.preserves_ite (Prog.preserves_pure _)
      (Prog.preserves_read _)

theorem renderChannels_untouched (faults : RenderFaults) {f : Int} (hf : InTile task f)
    (channels : List Int) :
    (renderChannels kernel faults task.job f channels).Preserves (untouchedView task) := by
  induction channels with
  | nil => exact Prog.preserves_pure _
  | cons c rest ih =>
    exact Prog.preserves_ite (Prog.preserves_pure _)
      ((renderSample_untouched hf).bind fun _ => ih)

theorem renderFrames_untouched (faults : RenderFaults) (channelCount first : Int)
    {frames : List Int} (h : ∀ f ∈ frames, InTile task f) :
    (renderFrames channelCount kernel faults task.job first frames).Preserves
      (untouchedView task) := by
  induction frames with
  | nil => exact Prog.preserves_pure _
  | cons f rest ih =>
    have hcheck : (periodicCheck task.job (f - first) : Prog (EngineState S) Bool).Preserves
        (untouchedView task) := Prog.preserves_ite shouldCancel_untouched (Prog.preserves_pure _)
    refine hcheck.bind fun _ => Prog.preserves_ite
      (cancelJob_untouched.bind fun _ => Prog.preserves_pure _) ?_
    refine (renderChannels_untouched faults (h f List.mem_cons_self) _).bind fun result => ?_
    cases result with
    | error e => exact Prog.preserves_pure _
    | ok u => exact ih fun f' hf' => h f' (List.mem_cons_of_mem _ hf')

/-- **Frame of a tile.** No access of `renderTile` changes the chunk, the version, the count of
tiles or a frame outside the tile. -/
theorem renderTile_untouched (faults : RenderFaults) :
    (Renderer.renderTile cfg kernel faults task.job task.tileIndex).Preserves
      (untouchedView task) := by
  have hcancel : ∀ result : Except String Bool, (do
      cancelJob task.job
      return result : Prog (EngineState S) (Except String Bool)).Preserves (untouchedView task) :=
    fun result => cancelJob_untouched.bind fun _ => Prog.preserves_pure _
  refine Prog.preserves_ite (Prog.preserves_pure _) (Prog.preserves_read_bind fun j =>
    Prog.preserves_ite (Prog.preserves_pure _) (Prog.preserves_ite (Prog.preserves_pure _)
      (shouldCancel_untouched.bind fun _ => Prog.preserves_ite (hcancel _) ?_)))
  refine (renderFrames_untouched faults _ _ fun f hf => ?_).bind fun result => ?_
  · obtain ⟨hlo, hhi⟩ := mem_intRange.mp hf
    exact ⟨hlo, lt_of_lt_of_le hhi (min_le_left _ _)⟩
  · match result with
    | .error e => exact Prog.preserves_pure _
    | .ok false => exact Prog.preserves_pure _
    | .ok true =>
      exact shouldCancel_untouched.bind fun _ =>
        Prog.preserves_ite (hcancel _) (Prog.preserves_pure _)

/-- The tiles of a job do not overlap. -/
theorem tileView_of_untouched {job : JobId} {t t' : Int} (hne : t ≠ t') {s s' : EngineState S}
    (h : untouchedView ⟨job, t⟩ s' = untouchedView ⟨job, t⟩ s) :
    tileView ⟨job, t'⟩ s' = tileView ⟨job, t'⟩ s := by
  simp only [untouchedView, Prod.mk.injEq] at h
  obtain ⟨hchunk, hversion, -, hchannels, hframes, hsamples⟩ := h
  simp only [tileView, hchunk, hversion, hchannels, hframes, Prod.mk.injEq, true_and]
  funext c f
  by_cases hf : InTile ⟨job, t'⟩ f
  · have hno : ¬InTile ⟨job, t⟩ f := by
      intro hf'
      have hlo := hf.1
      have hhi := hf.2
      have hlo' := hf'.1
      have hhi' := hf'.2
      simp only [tileFrames] at hlo hhi hlo' hhi'
      omega
    have hsample := congrFun (congrFun hsamples c) f
    rw [if_neg hno, if_neg hno] at hsample
    rw [if_pos hf, if_pos hf, hsample]
  · rw [if_neg hf, if_neg hf]

/-! ## Eight tiles -/

/-- The tiles of a job, rendered together. -/
def tileTeam (cfg : Config) (kernel : RenderKernel S) (job : JobId) (s : EngineState S) :
    Team Int (EngineState S) (Except String Bool) :=
  ⟨s, fun tileIndex => Renderer.renderTile cfg kernel {} job tileIndex⟩

/-- What the others leave alone of a job. -/
def jobView (job : JobId) (s : EngineState S) : Int × Int × AudioBuffer S :=
  let j := s.render.jobs.job job
  (j.chunk, j.version, j.samples)

/-- A tile relies on what is its own and leaves the other tiles alone. -/
def tileContract (job : JobId) (tileIndex : Int) : Contract (EngineState S) where
  inv _ := True
  rely s s' := tileView ⟨job, tileIndex⟩ s' = tileView ⟨job, tileIndex⟩ s
  guar s s' := ∀ t, tileIndex ≠ t → tileView ⟨job, t⟩ s' = tileView ⟨job, t⟩ s

theorem tileContract_compatible (job : JobId) :
    Team.Compatible (tileContract (S := S) job) where
  stable _ := ⟨fun _ => rfl, fun h h' => Eq.trans h' h⟩
  refl _ _ := rfl
  step hij hguar _ := ⟨hguar _ hij, trivial⟩

/-- A tile that is rendered is written. -/
def TilePost (kernel : RenderKernel S) (job : JobId) (s₀ : EngineState S) (tileIndex : Int)
    (result : Except String Bool) (s : EngineState S) : Prop :=
  0 ≤ tileIndex → tileIndex < tilesPerChunk → result = .ok true →
    Written kernel ⟨job, tileIndex⟩ s₀ (FirstFrames ⟨job, tileIndex⟩ s₀ tileFrames) s

variable (kernel) in
theorem tileTeam_sound {job : JobId} {s : EngineState S} (h : CompleteJob cfg job s) :
    (tileTeam cfg kernel job s).Sound (tileContract job) (TilePost kernel job s) := by
  refine ⟨fun _ => trivial, fun t => ?_⟩
  refine Contract.Safe.of_runIn (v := tileView ⟨job, t⟩) (u := untouchedView ⟨job, t⟩)
    (fun _ => trivial) (fun _ _ hr => hr) (fun _ _ hu t' hne => tileView_of_untouched hne hu)
    (renderTile_untouched {}) (fun _ _ _ hv hQ h₀ h₁ ha => (hQ h₀ h₁ ha).of_view hv)
    fun env henv h₀ h₁ hresult => ?_
  have hrun : TileRun cfg kernel ⟨job, t⟩ env s :=
    renderTile_tileRun { h with tileIndex := ⟨h₀, h₁⟩ } henv
  exact hrun.rendered hresult

/-- The steps of the others leave the job alone. -/
def OthersKeep (job : JobId) (moves : List (Team.Move Int (EngineState S))) : Prop :=
  ∀ f, .others f ∈ moves → ∀ s, jobView job (f s) = jobView job s

/-- The complete chunk of a job. -/
def CompleteChunk (kernel : RenderKernel S) (job : JobId) (s₀ s : EngineState S) : Prop :=
  ∀ c f, 0 ≤ c → c < (s₀.render.jobs.job job).samples.channelCount → 0 ≤ f → f < chunkFrames →
    (s.render.jobs.job job).samples.sample c f =
      kernel c ((s₀.render.jobs.job job).chunk * chunkFrames + f) (s₀.render.jobs.job job).version

/-- Whatever the order of their accesses, tiles that are all rendered make up the chunk. -/
theorem tileTeam_complete {job : JobId} {s : EngineState S} (h : CompleteJob cfg job s)
    {moves : List (Team.Move Int (EngineState S))} (hothers : OthersKeep job moves)
    (hrendered : ∀ t, 0 ≤ t → t < tilesPerChunk →
      ((tileTeam cfg kernel job s).run moves).member t = .pure (.ok true)) :
    CompleteChunk kernel job s ((tileTeam cfg kernel job s).run moves).state := by
  have hsound := (tileTeam_sound kernel h).run (tileContract_compatible job) moves
    fun f hf t s' _ => by
      have hview := hothers f hf s'
      simp only [jobView, Prod.mk.injEq] at hview
      obtain ⟨hchunk, hversion, hsamples⟩ := hview
      refine ⟨?_, trivial⟩
      simp only [tileContract, tileView, hchunk, hversion, hsamples]
  intro c f hc₀ hc₁ hf₀ hf₁
  -- The tile of the frame.
  have htile : InTile ⟨job, f / tileFrames⟩ f := by
    show f / 256 * 256 ≤ f ∧ f < f / 256 * 256 + 256
    omega
  have hindex : 0 ≤ f / tileFrames ∧ f / tileFrames < tilesPerChunk := by
    have hf₁' : f < 2048 := hf₁
    show 0 ≤ f / 256 ∧ f / 256 < 8
    omega
  have hwritten := hsound.post (tileContract_compatible job) (hrendered _ hindex.1 hindex.2)
    hindex.1 hindex.2 rfl
  have hcontent := hwritten.content c f htile ⟨mem_intRange.mpr ⟨hc₀, hc₁⟩, htile.2⟩
  rw [SampleContent, hwritten.chunk, hwritten.version] at hcontent
  exact hcontent

/-! ## Under cancellation -/

/-- Rendering the tiles of a job, one in any environment, or all of them together. -/
structure TileRendering (cfg : Config) (kernel : RenderKernel S) (job : JobId)
    (s : EngineState S) : Prop where
  /-- The answers of the checks decide what a tile returns and writes. -/
  tile : ∀ t, 0 ≤ t → t < tilesPerChunk → ∀ env : ℕ → EngineState S → EngineState S,
    (∀ n s, tileView ⟨job, t⟩ (env n s) = tileView ⟨job, t⟩ s) →
      TileRun cfg kernel ⟨job, t⟩ env s
  /-- No access changes a frame outside the tile, the count of tiles, the chunk or the version. -/
  untouched : ∀ t, (Renderer.renderTile cfg kernel {} job t).Preserves
    (untouchedView (S := S) ⟨job, t⟩)
  /-- Eight tiles rendered in any order, or interleaved, are the same complete chunk. -/
  chunk : ∀ moves, OthersKeep job moves →
    (∀ t, 0 ≤ t → t < tilesPerChunk →
      ((tileTeam cfg kernel job s).run moves).member t = .pure (.ok true)) →
        CompleteChunk kernel job s ((tileTeam cfg kernel job s).run moves).state

/-- **Tiles under cancellation.** Whatever the others store between the accesses of `renderTile`, a
tile is rendered whole if no check fires, and else up to the check that fires; and tiles rendered
together make up the chunk. -/
theorem renderTile_underCancellation (kernel : RenderKernel S) {job : JobId} {s : EngineState S}
    (h : CompleteJob cfg job s) : TileRendering cfg kernel job s where
  tile _ h₀ h₁ _ henv := renderTile_tileRun { h with tileIndex := ⟨h₀, h₁⟩ } henv
  untouched _ := renderTile_untouched {}
  chunk _ hothers hrendered := tileTeam_complete h hothers hrendered

/-- One chunk of two channels. -/
def stereoConfig : Config where
  totalFrames := 2048
  audio := { audioBlockFrames := 1024, channelCount := 2 }

theorem renderTile_underCancellation_stereo :
    TileRendering stereoConfig (fun channel frame version => channel + 2 * frame + version) 0
      (.init stereoConfig) :=
  renderTile_underCancellation _ ⟨by decide, by decide, rfl⟩

end Anasa
