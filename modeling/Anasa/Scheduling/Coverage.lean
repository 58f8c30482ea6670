import Anasa.Concurrency.Isolation
import Anasa.Scheduling.EvictionGuarantees

/-!
# Coverage

A chunk is *covered* if it is current in the cache or has a live job of its current version.
`coverageOf` is the view of the state that coverage and admission depend on. Workers count down the
tiles of jobs while the scheduler plans, and so decide whether a cancelled job is still registered;
the view has the registered jobs that are live. On it `scheduleRenderJobs` is isolated.
-/

namespace Anasa

open Concurrency Scheduler

variable {S : Type} {cfg : Config}

/-- The chunk is current in the cache, or has a live job of its current version. -/
def Covered (cfg : Config) (r : RenderState S) (chunk : Int) : Prop :=
  cacheIsCurrent cfg chunk r = true ∨
    ActiveRenderJobs.hasCurrent cfg r chunk (r.versions chunk) = true

/-- The job has been made, and cancelled since. -/
def JobTable.cancelledJob (jobs : JobTable S) (j : JobId) : Bool :=
  decide (j < jobs.made) && jobs.flags j

/-- The registered job of a chunk, unless it is cancelled. -/
def liveJob (r : RenderState S) (chunk : Int) : Option JobId :=
  (r.activeJobs chunk).filter fun j => !r.jobs.cancelledJob j

/-- What coverage and admission depend on; the active jobs of the plan are the live ones. -/
structure Coverage (S : Type) where
  plan : Plan
  versions : Int → Int
  cacheEntries : Int → CacheEntry S
  cancelled : JobId → Bool

def coverageOf (s : EngineState S) : Coverage S where
  plan := { planOf s with activeJobs := liveJob s.render }
  versions := s.render.versions
  cacheEntries := s.render.cacheEntries
  cancelled := s.render.jobs.cancelledJob

namespace Coverage

variable (c : Coverage S)

/-- What it is to be covered, for the view. -/
def Covers (cfg : Config) (chunk : Int) : Prop :=
  (0 ≤ chunk ∧ chunk < cfg.chunkCount) ∧
    ((c.cacheEntries chunk).version = c.versions chunk ∨
      ∃ j, c.plan.activeJobs chunk = some j ∧ (c.plan.origins.2 j).2 = c.versions chunk)

/-- The pending tiles that are live and urgent. -/
def liveUrgent : ℕ :=
  c.plan.pendingTiles.countP fun t =>
    !c.cancelled t.job && decide (t.classification.priority = .urgent)

/-- Cancel a job that has been made. -/
def cancelJob (j : JobId) : Coverage S :=
  { c with
    plan.activeJobs := fun chunk => (c.plan.activeJobs chunk).filter fun k => decide (k ≠ j)
    cancelled := fun k => c.cancelled k || decide (k = j) }

/-- The job is the live one of the chunk. -/
def replaces (chunk : Int) (j : JobId) : Bool :=
  decide (c.plan.activeJobs chunk = some j) && decide (j < c.plan.made)

/-- Make and register a job for a chunk. -/
def admitChunk (cfg : Config) (chunk version : Int) (classification : RenderClassification) :
    Coverage S :=
  { c with
    plan := { c.plan with
      pendingTiles := pushAllPending cfg
        (newTiles c.plan.made classification c.plan.nextTileSequence) c.plan.pendingTiles
      nextTileSequence := c.plan.nextTileSequence + tilesPerChunk
      activeJobs := Function.update (fun chunk' => (c.plan.activeJobs chunk').filter
        fun j => !c.replaces chunk j) chunk (some c.plan.made)
      origins := (c.plan.made + 1,
        Function.update c.plan.origins.2 c.plan.made (chunk, version)) }
    cancelled := fun j => c.cancelled j || c.replaces chunk j }

end Coverage

/-! ## What the view says -/

section

variable {r : RenderState S} {s s' : EngineState S}

/-- The jobs that are registered or wait have been made. -/
structure JobsMade (r : RenderState S) : Prop where
  registered : ∀ c j, r.activeJobs c = some j → j < r.jobs.made
  waiting : ∀ t ∈ r.pendingTiles ++ r.reclassificationBuffer, t.job < r.jobs.made

theorem RenderInv.jobsMade {kernel : RenderKernel S} (h : RenderInv cfg kernel s.render) :
    JobsMade s.render := ⟨h.registered_lt, fun _ ht => h.waiting_lt ht⟩

theorem cancelledJob_of_lt {jobs : JobTable S} {j : JobId} (h : j < jobs.made) :
    jobs.cancelledJob j = (jobs.job j).cancelled := by
  simp [JobTable.cancelledJob, JobTable.flags, h]

theorem liveJob_eq_some (h : JobsMade r) {chunk : Int} {j : JobId} :
    liveJob r chunk = some j ↔ r.activeJobs chunk = some j ∧ (r.jobs.job j).cancelled = false := by
  rw [liveJob, Option.filter_eq_some_iff]
  refine and_congr_right fun hj => ?_
  rw [cancelledJob_of_lt (h.registered chunk j hj), Bool.not_eq_true']

theorem JobsMade.live_lt (h : JobsMade r) {chunk : Int} {j : JobId}
    (hj : liveJob r chunk = some j) : j < r.jobs.made :=
  h.registered chunk j ((liveJob_eq_some h).mp hj).1

/-- Whether a chunk has a live job of a version. -/
theorem hasCurrent_iff {chunk : Int} (h : ∀ j, liveJob r chunk = some j → j < r.jobs.made)
    (version : Int) : ActiveRenderJobs.hasCurrent cfg r chunk version = true ↔
      (0 ≤ chunk ∧ chunk < cfg.chunkCount) ∧ ∃ j, liveJob r chunk = some j ∧
        (r.jobs.job j).version = version := by
  unfold ActiveRenderJobs.hasCurrent
  split
  · simp only [Bool.false_eq_true, false_iff]
    omega
  · rename_i hrange
    rw [and_iff_right (by omega)]
    unfold liveJob at h ⊢
    rcases hj : r.activeJobs chunk with - | j
    · simp
    · cases hc : r.jobs.cancelledJob j with
      | true =>
        have hflag := hc
        simp only [JobTable.cancelledJob, JobTable.flags, Bool.and_eq_true] at hflag
        simp [hc, hflag.2]
      | false =>
        rw [hj, Option.filter_some_pos (by simp [hc])] at h
        rw [Option.filter_some_pos (by simp [hc])]
        rw [cancelledJob_of_lt (h j rfl)] at hc
        simp [hc]

/-- A chunk is covered as the view says. -/
theorem covered_iff (h : JobsMade s.render) {chunk : Int} :
    Covered cfg s.render chunk ↔ (coverageOf s).Covers cfg chunk := by
  have hcache : cacheIsCurrent cfg chunk s.render = true ↔ (0 ≤ chunk ∧ chunk < cfg.chunkCount) ∧
      (s.render.cacheEntries chunk).version = s.render.versions chunk := by
    unfold cacheIsCurrent RenderCache.findCurrent
    split
    · simp only [Option.isSome_none, Bool.false_eq_true, false_iff]
      omega
    · split
      · rename_i hne
        simpa using fun _ _ => hne
      · rename_i hrange heq
        simp only [Option.isSome_some, true_iff]
        exact ⟨by omega, not_not.mp heq⟩
  have hjob : ActiveRenderJobs.hasCurrent cfg s.render chunk (s.render.versions chunk) = true ↔ _ :=
    hasCurrent_iff (fun _ hj => h.live_lt hj) (s.render.versions chunk)
  unfold Covered
  rw [hcache, hjob, ← and_or_left]
  rfl

theorem liveUrgentTiles_eq (h : JobsMade s.render) :
    liveUrgentTiles s.render = (coverageOf s).liveUrgent := by
  refine List.countP_congr fun t ht => ?_
  have hlt := h.waiting t (List.mem_append_left _ ht)
  rw [show (coverageOf s).cancelled t.job = _ from cancelledJob_of_lt hlt]
  rfl

/-- Cancelling a job that has been made. -/
theorem coverageOf_cancelJob {j : JobId} (h : j < s.render.jobs.made) :
    coverageOf { s with render.jobs := s.render.jobs.cancel j } = (coverageOf s).cancelJob j := by
  have hflag : ∀ k, (s.render.jobs.cancel j).cancelledJob k =
      (s.render.jobs.cancelledJob k || decide (k = j)) := fun k => by
    rw [JobTable.cancelledJob, JobTable.flags, JobTable.cancel_job, JobTable.cancel_made,
      JobTable.cancelledJob, JobTable.flags]
    by_cases hk : k = j
    · simp [hk, h]
    · simp [hk]
  simp only [coverageOf, Coverage.cancelJob, planOf, JobTable.cancel_origins, Coverage.mk.injEq,
    Plan.mk.injEq, true_and, and_true]
  refine ⟨funext fun chunk => ?_, funext hflag⟩
  simp only [liveJob, hflag, Option.filter_filter]
  congr 1
  funext k
  simp

/-- Retiring a tile of a cancelled job unregisters no live one. -/
theorem liveJob_retireTile {tile : PendingRenderTile} (hlt : tile.job < r.jobs.made)
    (hcancelled : (r.jobs.job tile.job).cancelled = true) (chunk : Int) :
    liveJob (retireTile cfg tile r) chunk = liveJob r chunk := by
  have hflags : ∀ j, (retireTile cfg tile r).jobs.cancelledJob j = r.jobs.cancelledJob j := by
    intro j
    rw [JobTable.cancelledJob, retireTile_flags, retireTile_eq]
    rfl
  simp only [liveJob, hflags]
  unfold retireTile ActiveRenderJobs.finish
  dsimp only
  split
  · split
    · rfl
    · split
      · rfl
      · rename_i hregistered
        have hregistered := not_not.mp hregistered
        dsimp only at hregistered ⊢
        rw [Function.update_apply]
        split
        · rename_i heq
          rw [heq, hregistered, Option.filter_none, Option.filter_some_neg]
          simp [cancelledJob_of_lt hlt, hcancelled]
        · rfl
  · rfl

/-- Cancelling the registered job of a chunk. -/
theorem activeCancel_cancelledJob {chunk : Int} (hchunk : 0 ≤ chunk ∧ chunk < cfg.chunkCount)
    (j : JobId) : (ActiveRenderJobs.cancel cfg chunk r).jobs.cancelledJob j =
      (r.jobs.cancelledJob j || decide (liveJob r chunk = some j) && decide (j < r.jobs.made)) := by
  unfold ActiveRenderJobs.cancel liveJob
  rw [if_neg (by omega)]
  rcases r.activeJobs chunk with - | k
  · simp
  · dsimp only
    have hflag : (r.jobs.cancel k).cancelledJob j =
        (decide (j < r.jobs.made) && (r.jobs.flags j || decide (j = k))) := by
      rw [JobTable.cancelledJob, JobTable.flags, JobTable.cancel_job, JobTable.cancel_made]
      rfl
    rw [hflag, JobTable.cancelledJob]
    by_cases hk : j = k
    · subst hk
      simp only [Option.filter_some_eq_some, JobTable.cancelledJob]
      cases r.jobs.flags j <;> cases decide (j < r.jobs.made) <;> simp
    · have hne : k ≠ j := fun h => hk h.symm
      simp [hk, hne]

theorem admitChunk_eq [Zero S] {chunk : Int} (hchunk : 0 ≤ chunk ∧ chunk < cfg.chunkCount)
    (version : Int) (classification : RenderClassification) (r : RenderState S) :
    admitChunk cfg chunk version classification r = { r with
      jobs := (ActiveRenderJobs.cancel cfg chunk r).jobs.add
        (RenderState.newJob cfg chunk version)
      activeJobs := Function.update r.activeJobs chunk (some r.jobs.made)
      pendingTiles := pushAllPending cfg (newTiles r.jobs.made classification
        r.nextTileSequence) r.pendingTiles
      nextTileSequence := r.nextTileSequence + tilesPerChunk } := by
  have hmade : (ActiveRenderJobs.cancel cfg chunk r).jobs.made = r.jobs.made :=
    congrArg Prod.fst (ActiveRenderJobs.cancel_origins cfg chunk r)
  unfold admitChunk ActiveRenderJobs.create
  rw [if_neg (by omega)]
  dsimp only
  rw [hmade, ActiveRenderJobs.cancel_eq cfg chunk r]

/-- **Admission** for the view. -/
theorem coverageOf_admitChunk [Zero S] {chunk : Int}
    (hchunk : 0 ≤ chunk ∧ chunk < cfg.chunkCount) (version : Int)
    (classification : RenderClassification) (s : EngineState S) :
    coverageOf { s with render := admitChunk cfg chunk version classification s.render } =
      (coverageOf s).admitChunk cfg chunk version classification := by
  have hmade : (ActiveRenderJobs.cancel cfg chunk s.render).jobs.made = s.render.jobs.made :=
    congrArg Prod.fst (ActiveRenderJobs.cancel_origins cfg chunk s.render)
  have hnew := admitChunk_eq hchunk version classification s.render
  have hcancelled : ∀ j, (admitChunk cfg chunk version classification s.render).jobs.cancelledJob j =
      (s.render.jobs.cancelledJob j || (coverageOf s).replaces chunk j) := by
    intro j
    show _ = (s.render.jobs.cancelledJob j || decide (liveJob s.render chunk = some j) &&
      decide (j < s.render.jobs.made))
    rw [← activeCancel_cancelledJob hchunk, hnew]
    dsimp only
    by_cases hj : j = s.render.jobs.made
    · rw [← hmade] at hj
      subst hj
      rw [cancelledJob_of_lt (Nat.lt_succ_self _), JobTable.add_job_made]
      simp [JobTable.cancelledJob, RenderState.newJob]
    · rw [← hmade] at hj
      simp only [JobTable.cancelledJob, JobTable.flags, JobTable.add_job_of_ne _ _ hj,
        JobTable.add_made]
      congr 2
      exact propext ⟨fun h => lt_of_le_of_ne (Nat.le_of_lt_succ h) hj, fun h => Nat.lt_succ_of_lt h⟩
  have hlive : liveJob (admitChunk cfg chunk version classification s.render) =
      ((coverageOf s).admitChunk cfg chunk version classification).plan.activeJobs := by
    funext chunk'
    simp only [liveJob, hcancelled]
    show _ = Function.update (fun chunk' => (liveJob s.render chunk').filter
      fun j => !(coverageOf s).replaces chunk j) chunk (some s.render.jobs.made) chunk'
    rw [hnew]
    dsimp only
    rw [Function.update_apply, Function.update_apply]
    split
    · rw [Option.filter_some_pos]
      simp [JobTable.cancelledJob, Coverage.replaces, Plan.made, coverageOf, planOf,
        JobTable.origins]
    · rw [liveJob, Option.filter_filter]
      congr 1
      funext j
      rw [Bool.not_or]
  have hplan := admitChunk_planOf hchunk version classification s
  have hversions : (admitChunk cfg chunk version classification s.render).versions =
      s.render.versions := by rw [hnew]
  have hcache : (admitChunk cfg chunk version classification s.render).cacheEntries =
      s.render.cacheEntries := by rw [hnew]
  unfold coverageOf
  dsimp only
  rw [hplan, hlive, hversions, hcache, funext hcancelled]
  rfl

end

end Anasa
