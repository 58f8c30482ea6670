import Anasa.Scheduling.CoverageCalls

/-!
# The scheduler keeps the work that is done

A job leaves the registry cancelled, or for the cache, and a job is made for a chunk that is not
covered. `WorkKept` says so of one step, `CoverageKept` what becomes of covered chunks in it, and
`Uncovers` that it covers no chunk.
-/

namespace Anasa

open Concurrency Contract Scheduler

variable {S : Type} {cfg : Config} {kernel : RenderKernel S} {r r' : RenderState S}

/-- No job is cancelled. -/
def NoneCancelled (r r' : RenderState S) : Prop :=
  ∀ j, r'.jobs.cancelledJob j = true → r.jobs.cancelledJob j = true

/-- Nothing is edited, and no job is cancelled. -/
structure NothingLost (r r' : RenderState S) : Prop where
  versions : r'.versions = r.versions
  cancelled : NoneCancelled r r'

/-- Versions grow, and a quiet step keeps covered chunks covered. -/
structure CoverageKept (cfg : Config) (r r' : RenderState S) : Prop where
  versions_le : ∀ c, r.versions c ≤ r'.versions c
  kept : NothingLost r r' → ∀ c, Covered cfg r c → Covered cfg r' c

/-- The live job of the current version that a chunk has. -/
structure CurrentJob (r : RenderState S) (chunk : Int) (j : JobId) : Prop where
  registered : r.activeJobs chunk = some j
  version : (r.jobs.job j).version = r.versions chunk
  live : (r.jobs.job j).cancelled = false

/-- Make a job of the current version for a chunk that is not covered. -/
structure Admits (cfg : Config) (chunk : Int) (r r' : RenderState S) : Prop where
  chunk_mem : 0 ≤ chunk ∧ chunk < cfg.chunkCount
  uncovered : ¬Covered cfg r chunk
  versions : r'.versions = r.versions
  origins : r'.jobs.origins =
    (r.jobs.made + 1, Function.update r.jobs.origins.2 r.jobs.made (chunk, r.versions chunk))
  current : CurrentJob r' chunk r.jobs.made

/-- The job has been made since, for the chunk. -/
structure MadeFor (r r' : RenderState S) (chunk : Int) (j : JobId) : Prop where
  le : r.jobs.made ≤ j
  lt : j < r'.jobs.made
  chunk_eq : (r'.jobs.job j).chunk = chunk

/-- The work for a chunk is kept unless the chunk is edited or its job is cancelled; jobs are made
for chunks that are not covered, and nothing else covers a chunk. -/
structure WorkKept (cfg : Config) (r r' : RenderState S) : Prop where
  versions_le : ∀ c, r.versions c ≤ r'.versions c
  cached : ∀ c, r'.versions c = r.versions c →
    (r.cacheEntries c).version = r.versions c → (r'.cacheEntries c).version = r'.versions c
  job : ∀ c j, r'.versions c = r.versions c → CurrentJob r c j →
    (r'.jobs.job j).cancelled = false →
    (r'.cacheEntries c).version = r'.versions c ∨ CurrentJob r' c j
  made : r'.jobs.origins = r.jobs.origins ∨ ∃ chunk, Admits cfg chunk r r'
  covers : JobsKept r.jobs r'.jobs → ∀ c, r'.versions c = r.versions c → Covered cfg r' c →
    Covered cfg r c ∨ ∃ j, MadeFor r r' c j

theorem covered_iff_currentJob {chunk : Int} : Covered cfg r chunk ↔
    (0 ≤ chunk ∧ chunk < cfg.chunkCount) ∧
      ((r.cacheEntries chunk).version = r.versions chunk ∨ ∃ j, CurrentJob r chunk j) := by
  unfold Covered cacheIsCurrent RenderCache.findCurrent ActiveRenderJobs.hasCurrent
  by_cases hrange : chunk < 0 ∨ chunk ≥ cfg.chunkCount
  · simp only [if_pos hrange, Option.isSome_none, Bool.false_eq_true, or_self, false_iff]
    omega
  · rw [if_neg hrange, if_neg hrange, and_iff_right (by omega)]
    refine or_congr ?_ ?_
    · split <;> simp_all
    · constructor
      · intro h
        rcases hj : r.activeJobs chunk with - | j <;> rw [hj] at h
        · cases h
        · simp only [Bool.and_eq_true, decide_eq_true_eq, Bool.not_eq_true'] at h
          exact ⟨j, hj, h.1, h.2⟩
      · rintro ⟨j, hj, hversion, hlive⟩
        simp [hj, hversion, hlive]

/-! ## Steps -/

theorem NothingLost.live {j : JobId} (h : NothingLost r r') (hmade : j < r'.jobs.made)
    (hlive : (r.jobs.job j).cancelled = false) : (r'.jobs.job j).cancelled = false := by
  by_contra hno
  have hafter : r'.jobs.cancelledJob j = true := by
    rw [cancelledJob_of_lt hmade]
    exact Bool.eq_true_of_not_eq_false hno
  have hbefore := h.cancelled j hafter
  simp only [JobTable.cancelledJob, JobTable.flags, hlive, Bool.and_false, Bool.false_eq_true]
    at hbefore

theorem WorkKept.refl (r : RenderState S) : WorkKept cfg r r :=
  ⟨fun _ => le_rfl, fun _ _ h => h, fun _ _ _ h _ => .inr h, .inl rfl, fun _ _ _ h => .inl h⟩

theorem WorkKept.made_le (h : WorkKept cfg r r') : r.jobs.made ≤ r'.jobs.made := by
  rcases h.made with h | ⟨chunk, h⟩
  · exact (congrArg Prod.fst h).ge
  · exact (Nat.le_succ _).trans (congrArg Prod.fst h.origins).ge

/-- What becomes of coverage. -/
theorem WorkKept.coverageKept (h : WorkKept cfg r r') (hi : RenderInv cfg kernel r) :
    CoverageKept cfg r r' := by
  refine ⟨h.versions_le, fun hquiet c hc => ?_⟩
  rw [covered_iff_currentJob] at hc ⊢
  have hversion := congrFun hquiet.versions c
  refine ⟨hc.1, hc.2.elim (fun hcached => .inl (h.cached c hversion hcached)) ?_⟩
  rintro ⟨j, hj⟩
  have hlt := (hi.registered_lt c j hj.registered).trans_le h.made_le
  exact (h.job c j hversion hj (hquiet.live hlt hj.live)).imp_right fun h => ⟨j, h⟩

/-- What covers a chunk after a step covered it before. -/
theorem covered_of_step (hi : RenderInv cfg kernel r) (hjobs : JobsKept r.jobs r'.jobs) {c : Int}
    (hversion : r'.versions c = r.versions c)
    (hactive : ∀ j, r'.activeJobs c = some j → r.activeJobs c = some j)
    (hcache : 0 ≤ c ∧ c < cfg.chunkCount → (r'.cacheEntries c).version = r.versions c →
      Covered cfg r c) (hc : Covered cfg r' c) : Covered cfg r c := by
  rw [covered_iff_currentJob, hversion] at hc
  obtain ⟨hrange, hcached | ⟨j, hj⟩⟩ := hc
  · exact hcache hrange hcached
  · have hregistered := hactive j hj.registered
    have hlt := hi.registered_lt c j hregistered
    refine covered_iff_currentJob.mpr ⟨hrange, .inr ⟨j, hregistered, ?_, ?_⟩⟩
    · exact (hjobs.version j hlt).symm.trans (hj.version.trans hversion)
    · exact Bool.eq_false_iff.mpr fun h =>
        Bool.eq_false_iff.mp hj.live (hjobs.cancelled j hlt h)

/-- A step that neither edits nor makes a job: what becomes of current cache entries and of current
jobs, and what it may cover. -/
theorem WorkKept.of_origins (hi : RenderInv cfg kernel r) (hversions : r'.versions = r.versions)
    (horigins : r'.jobs.origins = r.jobs.origins)
    (hcache : ∀ c, (r.cacheEntries c).version = r.versions c →
      (r'.cacheEntries c).version = r.versions c)
    (hjob : ∀ c j, CurrentJob r c j → (r'.jobs.job j).cancelled = false →
      (r'.cacheEntries c).version = r.versions c ∨ r'.activeJobs c = some j)
    (hactive : ∀ c j, r'.activeJobs c = some j → r.activeJobs c = some j)
    (hcovers : ∀ c, 0 ≤ c ∧ c < cfg.chunkCount → (r'.cacheEntries c).version = r.versions c →
      Covered cfg r c) : WorkKept cfg r r' where
  versions_le c := (congrFun hversions c).ge
  cached c _ hc := by
    rw [hversions]
    exact hcache c hc
  job c j _ hj hlive := by
    rw [hversions]
    apply (hjob c j hj hlive).imp_right
    intro hregistered
    have hversion := congrArg Prod.snd (congrFun (congrArg Prod.snd horigins) j)
    exact ⟨hregistered, (hversion.trans hj.version).trans (congrFun hversions c).symm, hlive⟩
  made := .inl horigins
  covers hkept c hversion hc :=
    .inl (covered_of_step hi hkept hversion (hactive c) (hcovers c) hc)

theorem covered_of_cached {c : Int} (hrange : 0 ≤ c ∧ c < cfg.chunkCount)
    (hcached : (r.cacheEntries c).version = r.versions c) : Covered cfg r c :=
  covered_iff_currentJob.mpr ⟨hrange, .inl hcached⟩

/-- What decides coverage, the flags apart. -/
def registryOf (r : RenderState S) :
    (Int → Int) × (Int → CacheEntry S) × (Int → Option JobId) × ℕ × (JobId → Int × Int) :=
  (r.versions, r.cacheEntries, r.activeJobs, r.jobs.origins)

/-- A step that sets flags only. -/
theorem WorkKept.of_registry (hi : RenderInv cfg kernel r) (h : registryOf r' = registryOf r) :
    WorkKept cfg r r' := by
  simp only [registryOf, Prod.mk.injEq] at h
  obtain ⟨hversions, hcache, hactive, horigins⟩ := h
  exact .of_origins hi hversions horigins (fun c hc => hcache ▸ hc)
    (fun c j hj _ => .inr (hactive ▸ hj.registered)) (fun c j hj => hactive ▸ hj)
    fun c hrange hc => covered_of_cached hrange (hcache ▸ hc)

theorem bumpVersion_workKept (hi : RenderInv cfg kernel r) (chunk : Int) :
    WorkKept cfg r (bumpVersion chunk r) where
  versions_le c := by
    show r.versions c ≤ Function.update r.versions chunk (r.versions chunk + 1) c
    by_cases hc : c = chunk
    · rw [hc, Function.update_self]
      omega
    · rw [Function.update_of_ne hc]
  cached c hc hcached := by
    rw [hc]
    exact hcached
  job c j hc hj hlive := by
    apply Or.inr
    refine ⟨hj.registered, ?_, hlive⟩
    rw [hc]
    exact hj.version
  made := .inl rfl
  covers hjobs c hc hcovered := by
    apply Or.inl
    apply covered_of_step hi hjobs hc _ _ hcovered
    · exact fun _ h => h
    · intro hrange hcached
      exact covered_of_cached hrange hcached

theorem cancelAndReset_workKept (hi : RenderInv cfg kernel r) (chunk : Int) :
    WorkKept cfg r (ActiveRenderJobs.cancelAndReset chunk r) := by
  unfold ActiveRenderJobs.cancelAndReset
  split
  · exact .refl r
  · rename_i k hk
    refine .of_origins hi rfl (JobTable.cancel_origins ..) (fun _ h => h)
      (fun c j hj hlive => .inr ?_) (fun c j hj => ?_)
      fun c hrange hcached => covered_of_cached hrange hcached
    · simp only [JobTable.cancel_job, Bool.or_eq_false_iff, decide_eq_false_iff_not] at hlive
      have hne : c ≠ chunk := by
        rintro rfl
        exact hlive.2 (Option.some.inj (hj.registered.symm.trans hk))
      exact (Function.update_of_ne hne ..).trans hj.registered
    · dsimp only at hj
      rw [Function.update_apply] at hj
      split at hj
      · cases hj
      · exact hj

/-! ### Completions and discarded tiles -/

/-- Other jobs stay registered. -/
theorem finish_keeps {c : Int} {j k : JobId} (hne : k ≠ j) (hk : r.activeJobs c = some k) :
    (ActiveRenderJobs.finish cfg j r).2.activeJobs c = some k := by
  unfold ActiveRenderJobs.finish
  dsimp only
  split
  · exact hk
  · split
    · exact hk
    · rename_i hregistered
      refine (Function.update_of_ne (fun h => hne ?_) ..).trans hk
      exact Option.some.inj (hk.symm.trans (h ▸ not_not.mp hregistered))

theorem store_keeps {c chunk version : Int} {samples : AudioBuffer S}
    (hc : (r.cacheEntries c).version = r.versions c) :
    ((RenderCache.store cfg chunk version samples r).2.cacheEntries c).version = r.versions c := by
  unfold RenderCache.store
  split
  · exact hc
  · split
    · exact hc
    · rename_i hfits
      dsimp only
      rw [Function.update_apply]
      split
      · rename_i heq
        rw [heq]
        by_contra hne
        exact hfits (.inl hne)
      · exact hc

/-- A completion that is collected leaves the current jobs registered, or in the cache. -/
theorem collectOne_currentJob (hi : RenderInv cfg kernel r) {c : Int} {k : JobId}
    (hk : CurrentJob r c k) : ((collectOne cfg r).2.cacheEntries c).version = r.versions c ∨
      (collectOne cfg r).2.activeJobs c = some k := by
  unfold collectOne Executor.popCompleted
  rcases r.executor.completedJobs with - | ⟨job, rest⟩
  · exact .inr hk.registered
  · dsimp only
    by_cases hjob : k = job
    · subst hjob
      obtain ⟨hmade, hchunk⟩ := hi.registration.registered c k hk.registered
      have hrange := hi.jobs.chunk_mem k hmade
      rw [hchunk] at hrange
      have hfinish : ActiveRenderJobs.finish cfg k { r with executor.completedJobs := rest } =
          (true, { r with
            executor.completedJobs := rest
            activeJobs := Function.update r.activeJobs c none }) := by
        unfold ActiveRenderJobs.finish
        dsimp only
        rw [hchunk, if_neg (by omega), if_neg (not_not.mpr hk.registered), hk.live]
        rfl
      rw [hfinish]
      simp only [if_true]
      unfold RenderCache.store
      rw [if_neg (by rw [hchunk]; omega), if_neg (by
        simp [hchunk, hk.version, hi.jobs.channelCount k hmade, hi.jobs.frameCount k hmade]), hchunk]
      refine .inl ?_
      dsimp only
      rw [Function.update_self]
      exact hk.version
    · refine .inr ?_
      have hfinish : (ActiveRenderJobs.finish cfg job
          { r with executor.completedJobs := rest }).2.activeJobs c = some k :=
        finish_keeps hjob hk.registered
      split
      · rw [RenderCache.store_activeJobs]
        exact hfinish
      · exact hfinish

theorem collectOne_cache {c : Int} (hc : (r.cacheEntries c).version = r.versions c) :
    ((collectOne cfg r).2.cacheEntries c).version = r.versions c := by
  unfold collectOne Executor.popCompleted
  rcases r.executor.completedJobs with - | ⟨job, rest⟩
  · exact hc
  · dsimp only
    have hfinish := ActiveRenderJobs.finish_eq cfg job { r with executor.completedJobs := rest }
    generalize ActiveRenderJobs.finish cfg job { r with executor.completedJobs := rest } = after
      at hfinish ⊢
    have hcache : after.2.cacheEntries = r.cacheEntries := by rw [hfinish]
    have hversions : after.2.versions = r.versions := by rw [hfinish]
    rw [← hversions, ← hcache] at hc
    split
    · rw [store_keeps hc, hversions]
    · rw [hc, hversions]

/-- What is stored was covered by its job. -/
theorem collectOne_covers {c : Int} (hrange : 0 ≤ c ∧ c < cfg.chunkCount)
    (hc : ((collectOne cfg r).2.cacheEntries c).version = r.versions c) : Covered cfg r c := by
  unfold collectOne Executor.popCompleted at hc
  rcases hcompleted : r.executor.completedJobs with - | ⟨job, rest⟩ <;> rw [hcompleted] at hc
  · exact covered_of_cached hrange hc
  · dsimp only at hc
    have hfinish := ActiveRenderJobs.finish_eq cfg job { r with executor.completedJobs := rest }
    have husable : (ActiveRenderJobs.finish cfg job { r with executor.completedJobs := rest }).1 =
        true → r.activeJobs (r.jobs.job job).chunk = some job ∧
          (r.jobs.job job).cancelled = false :=
      ActiveRenderJobs.finish_usable (r := { r with executor.completedJobs := rest })
    generalize ActiveRenderJobs.finish cfg job { r with executor.completedJobs := rest } = after
      at hc hfinish husable
    have hcache : after.2.cacheEntries = r.cacheEntries := by rw [hfinish]
    have hversions : after.2.versions = r.versions := by rw [hfinish]
    have hjobs : after.2.jobs = r.jobs := by rw [hfinish]
    split at hc
    · rename_i hu
      obtain ⟨hregistered, hlive⟩ := husable hu
      unfold RenderCache.store at hc
      split at hc
      · exact covered_of_cached hrange (hcache ▸ hc)
      · split at hc
        · exact covered_of_cached hrange (hcache ▸ hc)
        · rename_i hfits
          simp only [hjobs, hversions, hcache, not_or, not_not] at hc hfits
          rw [Function.update_apply] at hc
          split at hc
          · rename_i heq
            subst heq
            exact covered_iff_currentJob.mpr ⟨hrange, .inr ⟨job, hregistered, hfits.1, hlive⟩⟩
          · exact covered_of_cached hrange hc
    · exact covered_of_cached hrange (hcache ▸ hc)

theorem collectOne_workKept (hi : RenderInv cfg kernel r) :
    WorkKept cfg r (collectOne cfg r).2 := by
  have heq := collectOne_eq cfg r
  have hjobs : (collectOne cfg r).2.jobs = r.jobs := by rw [heq]
  have hversions : (collectOne cfg r).2.versions = r.versions := by rw [heq]
  exact .of_origins hi hversions (congrArg JobTable.origins hjobs) (fun c hc => collectOne_cache hc)
    (fun c k hk _ => collectOne_currentJob hi hk) (fun c j hj => collectOne_activeJobs hj)
    fun c hrange hc => collectOne_covers hrange hc

/-- Retiring a tile of a job that is cancelled if it has been made. -/
theorem retireTile_workKept (hi : RenderInv cfg kernel r) {tile : PendingRenderTile}
    (hcancelled : tile.job < r.jobs.made → (r.jobs.job tile.job).cancelled = true) :
    WorkKept cfg r (retireTile cfg tile r) := by
  have heq := retireTile_eq cfg tile r
  refine .of_origins hi (by rw [heq]) (by rw [heq]; exact JobTable.countDown_origins ..)
    (fun c hc => by rw [heq]; exact hc) (fun c k hk _ => .inr ?_)
    (fun c j hj => Scheduler.retireTile_activeJobs hj)
    fun c hrange hc => covered_of_cached hrange (by rw [heq] at hc; exact hc)
  have hne : k ≠ tile.job := by
    rintro rfl
    have hc := hcancelled (hi.registered_lt c _ hk.registered)
    rw [hk.live] at hc
    cases hc
  unfold retireTile
  dsimp only
  split
  · exact finish_keeps (r := { r with
      jobs := r.jobs.countDown tile.job
      reclassificationBuffer := r.reclassificationBuffer.tail }) hne hk.registered
  · exact hk.registered

/-- Admitting a chunk that is not covered. -/
theorem admitChunk_admits [Zero S] {chunk : Int} (hchunk : 0 ≤ chunk ∧ chunk < cfg.chunkCount)
    (huncovered : ¬Covered cfg r chunk) (classification : RenderClassification) :
    Admits cfg chunk r (admitChunk cfg chunk (r.versions chunk) classification r) := by
  have heq : admitChunk cfg chunk (r.versions chunk) classification r = _ :=
    admitChunk_eq hchunk (r.versions chunk) classification r
  have horigins := ActiveRenderJobs.cancel_origins cfg chunk r
  have hmade : (ActiveRenderJobs.cancel cfg chunk r).jobs.made = r.jobs.made :=
    congrArg Prod.fst horigins
  have hnew : (admitChunk cfg chunk (r.versions chunk) classification r).jobs.job r.jobs.made =
      RenderState.newJob cfg chunk (r.versions chunk) := by
    rw [heq, ← hmade]
    exact JobTable.add_job_made ..
  refine ⟨hchunk, huncovered, by rw [heq], ?_, ?_, ?_, ?_⟩
  · rw [heq]
    exact (JobTable.add_origins ..).trans (by rw [horigins, hmade]; rfl)
  · rw [heq]
    exact Function.update_self ..
  · rw [hnew, heq]
    rfl
  · rw [hnew]
    rfl

theorem admitChunk_workKept [Zero S] (hi : RenderInv cfg kernel r) {chunk : Int}
    (hchunk : 0 ≤ chunk ∧ chunk < cfg.chunkCount) (huncovered : ¬Covered cfg r chunk)
    (classification : RenderClassification) :
    WorkKept cfg r (admitChunk cfg chunk (r.versions chunk) classification r) := by
  have hadmits := admitChunk_admits hchunk huncovered classification
  have heq : admitChunk cfg chunk (r.versions chunk) classification r = _ :=
    admitChunk_eq hchunk (r.versions chunk) classification r
  constructor
  case versions_le =>
    intro c
    exact (congrFun hadmits.versions c).ge
  case cached =>
    intro c hc hcached
    rw [hc, heq]
    exact hcached
  case job =>
    intro c j hc hj hlive
    apply Or.inr
    have hne : c ≠ chunk := by
      rintro rfl
      exact huncovered (covered_iff_currentJob.mpr ⟨hchunk, .inr ⟨j, hj⟩⟩)
    have hlt := (hi.registered_lt c j hj.registered).ne
    have horigin := congrFun (congrArg Prod.snd hadmits.origins) j
    dsimp only at horigin
    rw [Function.update_of_ne hlt] at horigin
    refine ⟨?_, ?_, hlive⟩
    · rw [heq]
      exact (Function.update_of_ne hne ..).trans hj.registered
    · rw [hc]
      exact (congrArg Prod.snd horigin).trans hj.version
  case made => exact .inr ⟨chunk, hadmits⟩
  case covers =>
    intro hjobs c hc hcovered
    by_cases hne : c = chunk
    · apply Or.inr
      refine ⟨r.jobs.made, le_rfl, ?_, ?_⟩
      · exact (Nat.lt_succ_self _).trans_eq (congrArg Prod.fst hadmits.origins).symm
      · have hnew := congrFun (congrArg Prod.snd hadmits.origins) r.jobs.made
        dsimp only at hnew
        rw [Function.update_self] at hnew
        exact (congrArg Prod.fst hnew).trans hne.symm
    · apply Or.inl
      apply covered_of_step hi hjobs hc _ _ hcovered
      · intro j hj
        rw [heq] at hj
        exact (Function.update_of_ne hne ..).symm.trans hj
      · intro hrange hcached
        rw [heq] at hcached
        exact covered_of_cached hrange hcached

/-! ### What uncovers chunks -/

/-- A step that covers no chunk. -/
structure Uncovers (cfg : Config) (r r' : RenderState S) : Prop where
  versions : r'.versions = r.versions
  covered : ∀ c, Covered cfg r' c → Covered cfg r c

theorem Uncovers.refl (r : RenderState S) : Uncovers cfg r r := ⟨rfl, fun _ h => h⟩

/-- Nothing is stored or registered, and no flag is cleared. -/
theorem Uncovers.of_active (hversions : r'.versions = r.versions)
    (hcache : r'.cacheEntries = r.cacheEntries)
    (hversion : ∀ j, (r'.jobs.job j).version = (r.jobs.job j).version)
    (hactive : ∀ c j, r'.activeJobs c = some j →
      r.activeJobs c = some j ∧ ((r.jobs.job j).cancelled = true →
        (r'.jobs.job j).cancelled = true)) : Uncovers cfg r r' := by
  refine ⟨hversions, fun c hc => ?_⟩
  rw [covered_iff_currentJob, hversions, hcache] at hc
  refine covered_iff_currentJob.mpr ⟨hc.1, hc.2.imp_right ?_⟩
  rintro ⟨j, hj⟩
  obtain ⟨hregistered, hflag⟩ := hactive c j hj.registered
  refine ⟨j, hregistered, ?_, ?_⟩
  · exact (hversion j).symm.trans (hj.version.trans (congrFun hversions c))
  · exact Bool.eq_false_iff.mpr fun h => Bool.eq_false_iff.mp hj.live (hflag h)

theorem cancel_uncovers (r : RenderState S) (j : JobId) :
    Uncovers cfg r { r with jobs := r.jobs.cancel j } := by
  refine .of_active rfl rfl (fun k => ?_) fun c k hk => ⟨hk, fun h => ?_⟩
  · show ((r.jobs.cancel j).job k).version = _
    rw [JobTable.cancel_job]
  · show ((r.jobs.cancel j).job k).cancelled = true
    rw [JobTable.cancel_job, h, Bool.true_or]

theorem retireTile_uncovers (tile : PendingRenderTile) (r : RenderState S) :
    Uncovers cfg r (retireTile cfg tile r) := by
  have heq := retireTile_eq cfg tile r
  refine .of_active (by rw [heq]) (by rw [heq]) (fun j => ?_) fun c j hj =>
    ⟨Scheduler.retireTile_activeJobs hj, fun h => ?_⟩
  · rw [retireTile_job]
  · rw [retireTile_job]
    exact h

theorem Uncovers.of_registry (h : registryOf r' = registryOf r) (hjobs : r'.jobs = r.jobs) :
    Uncovers cfg r r' := by
  simp only [registryOf, Prod.mk.injEq] at h
  exact .of_active h.1 h.2.1 (fun j => by rw [hjobs]) fun c j hj =>
    ⟨h.2.2.1 ▸ hj, fun hc => by rwa [hjobs]⟩

/-- The chunk is not covered, and this is its version. -/
structure Uncovered (cfg : Config) (chunk version : Int) (r : RenderState S) : Prop where
  covered : ¬Covered cfg r chunk
  version : r.versions chunk = version

theorem Uncovers.uncovered {chunk version : Int} (h : Uncovers cfg r r')
    (hr : Uncovered cfg chunk version r) : Uncovered cfg chunk version r' :=
  ⟨fun hc => hr.covered (h.covered chunk hc), h.versions ▸ hr.version⟩

/-- Other threads cover no chunk. -/
theorem uncovers_of_rely (hi : RenderInv cfg kernel r') (hjobs : JobsKept r.jobs r'.jobs)
    (hkept : SchedulerKept r r') : Uncovers cfg r r' := by
  refine ⟨hkept.versions, fun c hc => ?_⟩
  rw [covered_iff_currentJob, hkept.versions, hkept.cacheEntries] at hc
  refine covered_iff_currentJob.mpr ⟨hc.1, hc.2.imp_right ?_⟩
  rintro ⟨j, hj⟩
  have hregistered : r.activeJobs c = some j := hkept.activeJobs ▸ hj.registered
  have hlt : j < r.jobs.made := hkept.made ▸ hi.registered_lt c j hj.registered
  refine ⟨j, hregistered, ?_, ?_⟩
  · exact (hjobs.version j hlt).symm.trans (hj.version.trans (congrFun hkept.versions c))
  · exact Bool.eq_false_iff.mpr fun h =>
      Bool.eq_false_iff.mp hj.live (hjobs.cancelled j hlt h)

end Anasa
