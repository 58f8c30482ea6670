import Mathlib.Algebra.Order.Group.Abs
import Anasa.Rendering.Discipline

/-!
# What an Edit invalidates

The kernel draws a sample from the frames around it, so an Edit makes obsolete every chunk with a
frame within the context of an edited frame. `invalidateVersions` computes the range of these
chunks with clamped bounds; `mem_invalidatedChunks` says that it is the right one.
-/

namespace Anasa

open Concurrency

variable {S : Type} {cfg : Config}

/-! ## The halo of an Edit -/

/-- The first frame of the edited range. -/
def editFirst (cfg : Config) (firstFrame : Int) : Int :=
  clampTimelineFrame firstFrame cfg.totalFrames

/-- The last frame of the edited range. -/
def editLast (cfg : Config) (firstFrame lastFrame : Int) : Int :=
  clampTimelineFrame (max (editFirst cfg firstFrame) lastFrame) cfg.totalFrames

/-- The chunk has a frame of the timeline within the context of an edited frame. -/
def InHalo (cfg : Config) (firstFrame lastFrame chunk : Int) : Prop :=
  ∃ t e, 0 ≤ t ∧ t < cfg.totalFrames ∧ frameToChunk t = chunk ∧
    editFirst cfg firstFrame ≤ e ∧ e ≤ editLast cfg firstFrame lastFrame ∧
    |t - e| ≤ cfg.render.contextFrames

variable (cfg) in
theorem editFirst_le_editLast (firstFrame lastFrame : Int) :
    editFirst cfg firstFrame ≤ editLast cfg firstFrame lastFrame := by
  unfold editLast editFirst clampTimelineFrame
  omega

/-- The frames of the halo are those between its clamped bounds. -/
theorem inHalo_iff (hcfg : cfg.Valid) {firstFrame lastFrame chunk : Int} :
    InHalo cfg firstFrame lastFrame chunk ↔ ∃ t, frameToChunk t = chunk ∧
      max 0 (editFirst cfg firstFrame - cfg.render.contextFrames) ≤ t ∧
      t ≤ editLast cfg firstFrame lastFrame + min cfg.render.contextFrames
        (cfg.totalFrames - 1 - editLast cfg firstFrame lastFrame) := by
  have hcontext := hcfg.contextFrames_nonneg
  have hle := editFirst_le_editLast cfg firstFrame lastFrame
  have hfirst := clampTimelineFrame_mem firstFrame hcfg.totalFrames_pos
  have hlast := clampTimelineFrame_mem (max (editFirst cfg firstFrame) lastFrame)
    hcfg.totalFrames_pos
  rw [← editFirst] at hfirst
  rw [← editLast] at hlast
  constructor
  · rintro ⟨t, e, h₀, h₁, hchunk, he₀, he₁, hdist⟩
    rw [abs_le] at hdist
    exact ⟨t, hchunk, by omega, by omega⟩
  · rintro ⟨t, hchunk, h₀, h₁⟩
    -- The edited frame nearest to `t`.
    refine ⟨t, max (editFirst cfg firstFrame) (min t (editLast cfg firstFrame lastFrame)),
      by omega, by omega, hchunk, by omega, by omega, ?_⟩
    rw [abs_le]
    omega

theorem invalidatedChunks_eq (firstFrame lastFrame : Int) :
    Scheduler.invalidatedChunks cfg firstFrame lastFrame =
      intRange (frameToChunk (max 0 (editFirst cfg firstFrame - cfg.render.contextFrames)))
        (frameToChunk (editLast cfg firstFrame lastFrame + min cfg.render.contextFrames
          (cfg.totalFrames - 1 - editLast cfg firstFrame lastFrame)) + 1) := rfl

/-- **The invalidated chunks are those of the halo.** -/
theorem mem_invalidatedChunks (hcfg : cfg.Valid) {firstFrame lastFrame chunk : Int} :
    chunk ∈ Scheduler.invalidatedChunks cfg firstFrame lastFrame ↔
      InHalo cfg firstFrame lastFrame chunk := by
  have hcontext := hcfg.contextFrames_nonneg
  have hle := editFirst_le_editLast cfg firstFrame lastFrame
  have hlast := clampTimelineFrame_mem (max (editFirst cfg firstFrame) lastFrame)
    hcfg.totalFrames_pos
  rw [← editLast] at hlast
  rw [inHalo_iff hcfg, invalidatedChunks_eq, mem_intRange]
  unfold frameToChunk chunkFrames
  constructor
  · rintro ⟨h₀, h₁⟩
    -- The first frame of the chunk, or the first frame of the halo when that comes later.
    exact ⟨max (chunk * 2048) (max 0 (editFirst cfg firstFrame - cfg.render.contextFrames)),
      by omega, by omega, by omega⟩
  · rintro ⟨t, rfl, h₀, h₁⟩
    omega

theorem InHalo.chunk_mem (hcfg : cfg.Valid) {firstFrame lastFrame chunk : Int}
    (h : InHalo cfg firstFrame lastFrame chunk) : 0 ≤ chunk ∧ chunk < cfg.chunkCount := by
  obtain ⟨t, -, h₀, h₁, rfl, -⟩ := h
  rw [hcfg.chunkCount_eq]
  unfold frameToChunk chunkFrames
  omega

/-! ## The effect of an Edit -/

/-- What the invalidation of the given chunks changes. -/
structure Invalidates (cfg : Config) (chunks : List Int) (r r' : RenderState S) : Prop where
  versions : ∀ c, r'.versions c = r.versions c + if c ∈ chunks then 1 else 0
  activeJobs : r'.activeJobs = r.activeJobs
  cacheEntries : r'.cacheEntries = r.cacheEntries
  cancelled : ∀ j, (r'.jobs.job j).cancelled = true ↔ (r.jobs.job j).cancelled = true ∨
    ∃ c ∈ chunks, (0 ≤ c ∧ c < cfg.chunkCount) ∧ r.activeJobs c = some j

theorem ActiveRenderJobs.cancel_cancelled (cfg : Config) (chunk : Int) (r : RenderState S)
    (j : JobId) :
    ((ActiveRenderJobs.cancel cfg chunk r).jobs.job j).cancelled = true ↔
      (r.jobs.job j).cancelled = true ∨
        (0 ≤ chunk ∧ chunk < cfg.chunkCount) ∧ r.activeJobs chunk = some j := by
  unfold ActiveRenderJobs.cancel
  split
  · constructor
    · exact Or.inl
    · rintro (h | ⟨h, -⟩)
      · exact h
      · omega
  · have hrange : 0 ≤ chunk ∧ chunk < cfg.chunkCount := by omega
    rcases hactive : r.activeJobs chunk with - | k
    · simp
    · simp only [JobTable.cancel_job, Bool.or_eq_true, decide_eq_true_eq, hrange, and_self,
        true_and, Option.some.injEq]
      rw [eq_comm (a := j)]

variable (cfg) in
/-- One chunk after the other. -/
theorem invalidates_forEach (chunks : List Int) (hnodup : chunks.Nodup) (s : EngineState S) :
    ∃ r', ((Prog.forEach (fun chunk => do
        .modify fun s => { s with render := Scheduler.bumpVersion chunk s.render }
        .modify fun s => { s with render := ActiveRenderJobs.cancel cfg chunk s.render })
      chunks).run s).2 = { s with render := r' } ∧ Invalidates cfg chunks s.render r' := by
  induction chunks generalizing s with
  | nil => exact ⟨_, rfl, by simp, rfl, rfl, by simp⟩
  | cons chunk rest ih =>
    obtain ⟨hnot, hrest⟩ := List.nodup_cons.mp hnodup
    obtain ⟨r', hrun, h⟩ := ih hrest { s with
      render := ActiveRenderJobs.cancel cfg chunk (Scheduler.bumpVersion chunk s.render) }
    have heq := ActiveRenderJobs.cancel_eq cfg chunk (Scheduler.bumpVersion chunk s.render)
    refine ⟨r', ?_, fun c => ?_, ?_, ?_, fun j => ?_⟩
    · rw [Prog.run_forEach_cons]
      exact hrun
    · have hversion := h.versions c
      rw [heq] at hversion
      rw [hversion]
      simp only [Scheduler.bumpVersion, Function.update_apply, List.mem_cons]
      by_cases hc : c = chunk
      · subst hc
        simp [hnot]
      · simp [hc]
    · rw [h.activeJobs, heq]
      rfl
    · rw [h.cacheEntries, heq]
      rfl
    · rw [h.cancelled]
      simp only [ActiveRenderJobs.cancel_cancelled, List.mem_cons, exists_eq_or_imp]
      rw [heq]
      exact or_assoc

/-- What an Edit does to the rendering state. -/
theorem edit_invalidates (s : EngineState S) (firstFrame lastFrame : Int) :
    Invalidates cfg (Scheduler.invalidatedChunks cfg firstFrame lastFrame) s.render
      ((Scheduler.handleCommand cfg ⟨.edit, firstFrame, lastFrame⟩).run s).2.render := by
  obtain ⟨r', hrun, h⟩ := invalidates_forEach cfg
    (Scheduler.invalidatedChunks cfg firstFrame lastFrame) (nodup_intRange _ _)
    { s with history.editing := true }
  have hafter : (do
      let targetFrame ← PlaybackProtocol.currentFrame cfg
      let suspendPlayback ← .read (PlaybackController.shouldRebufferOnEdit cfg)
      Scheduler.beginAudioGeneration targetFrame suspendPlayback
      .modify fun s => { s with history.editing := false } :
        Prog (EngineState S) Unit).Preserves renderView :=
    preserves_renderView <| (PlaybackProtocol.currentFrame_publishingView cfg).bind fun _ =>
      Prog.preserves_read_bind fun _ => (Scheduler.beginAudioGeneration_publishingView _ _).bind
        fun _ => Prog.preserves_modify fun _ => rfl
  have hrender := (Prod.mk.inj (hafter.run { s with history.editing := true, render := r' })).1
  simp only [Scheduler.handleCommand, Prog.run_bind, Prog.run_modify,
    Scheduler.invalidateVersions] at hrender hrun ⊢
  rw [hrun]
  rw [hrender]
  exact h

/-- **An Edit invalidates exactly its halo.** In every reachable state, an Edit raises the version
of a chunk of the halo by one, so that nothing current is cached of it, and cancels its registered
job; of every other chunk it changes neither the version nor the cache nor the registered job. -/
theorem engineRun_edit_invalidatesHalo [Zero S] (cfg : AcceptedConfig) (kernel : RenderKernel S)
    (moves : List (EngineMove S)) (firstFrame lastFrame chunk : Int) :
    let s := (engineRun cfg.toConfig kernel moves).state
    let s' := ((Scheduler.handleCommand cfg.toConfig ⟨.edit, firstFrame, lastFrame⟩).run s).2
    (s'.render.versions chunk = s.render.versions chunk + 1 ↔
        InHalo cfg firstFrame lastFrame chunk) ∧
      (InHalo cfg firstFrame lastFrame chunk →
        RenderCache.findCurrent cfg s'.render chunk = none ∧
        s'.render.activeJobs chunk = s.render.activeJobs chunk ∧
        ∀ j, s.render.activeJobs chunk = some j → (s'.render.jobs.job j).cancelled = true) ∧
      (¬InHalo cfg firstFrame lastFrame chunk →
        s'.render.versions chunk = s.render.versions chunk ∧
        RenderCache.findCurrent cfg s'.render chunk = RenderCache.findCurrent cfg s.render chunk ∧
        s'.render.activeJobs chunk = s.render.activeJobs chunk ∧
        ∀ j, s.render.activeJobs chunk = some j →
          (s'.render.jobs.job j).cancelled = (s.render.jobs.job j).cancelled) := by
  intro s s'
  have hi : RenderInv cfg kernel s.render := engineRun_renderInv cfg.toConfig kernel moves
  have h : Invalidates cfg _ s.render s'.render := edit_invalidates s firstFrame lastFrame
  have hversion := h.versions chunk
  simp only [← mem_invalidatedChunks cfg.valid]
  refine ⟨?_, fun hin => ⟨?_, by rw [h.activeJobs], fun j hj => ?_⟩, fun hout =>
    ⟨?_, ?_, by rw [h.activeJobs], fun j hj => ?_⟩⟩
  · rw [hversion]
    split
    · exact iff_of_true rfl ‹_›
    · exact iff_of_false (by omega) ‹_›
  · -- The entry is not newer than the version before the Edit.
    have hle := hi.cache.version_le chunk
    unfold RenderCache.findCurrent
    rw [h.cacheEntries, hversion, if_pos hin]
    split
    · rfl
    · exact if_pos (by omega)
  · exact (h.cancelled j).mpr (.inr ⟨chunk, hin,
      ((mem_invalidatedChunks cfg.valid).mp hin).chunk_mem cfg.valid, hj⟩)
  · rw [hversion, if_neg hout, add_zero]
  · unfold RenderCache.findCurrent
    rw [h.cacheEntries, hversion, if_neg hout, add_zero]
  · -- A job is registered for its own chunk only.
    rw [Bool.eq_iff_iff, h.cancelled]
    refine or_iff_left ?_
    rintro ⟨c, hc, -, hj'⟩
    have hchunk := (hi.registration.registered chunk j hj).2
    have hchunk' := (hi.registration.registered c j hj').2
    exact hout (hchunk.symm.trans hchunk' ▸ hc)

end Anasa
