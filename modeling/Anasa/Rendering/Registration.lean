import Anasa.Rendering.Accounting

/-!
# Registered jobs and the cache

1. `JobsInv`: the data of the jobs themselves.
2. `RegistrationInv`: an uncancelled job that is busy, with tiles outstanding or its completion on
   the way, is the registered job of its chunk, and nothing of its version is cached.
3. `CacheInv`: an entry holds what the kernel gives for its version, and versions only grow.
-/

namespace Anasa

variable {S : Type}

/-! ## Jobs -/

structure JobsInv (cfg : Config) (jobs : JobTable S) (versions : Int → Int) : Prop where
  chunk_mem : ∀ j < jobs.made, 0 ≤ (jobs.job j).chunk ∧ (jobs.job j).chunk < cfg.chunkCount
  channelCount : ∀ j < jobs.made, (jobs.job j).samples.channelCount = cfg.audio.channelCount
  frameCount : ∀ j < jobs.made, (jobs.job j).samples.frameCount = chunkFrames
  version_le : ∀ j < jobs.made, (jobs.job j).version ≤ versions (jobs.job j).chunk

namespace JobsInv

variable {cfg : Config} {jobs : JobTable S} {versions : Int → Int}

theorem cancel (h : JobsInv cfg jobs versions) (k : JobId) :
    JobsInv cfg (jobs.cancel k) versions := by
  constructor <;> intro j hj <;> rw [JobTable.cancel_job]
  · exact h.chunk_mem j hj
  · exact h.channelCount j hj
  · exact h.frameCount j hj
  · exact h.version_le j hj

theorem countDown (h : JobsInv cfg jobs versions) (k : JobId) :
    JobsInv cfg (jobs.countDown k) versions := by
  constructor <;> intro j hj <;> rw [JobTable.countDown_job]
  · exact h.chunk_mem j hj
  · exact h.channelCount j hj
  · exact h.frameCount j hj
  · exact h.version_le j hj

theorem setSample (h : JobsInv cfg jobs versions) (k : JobId) (c f : Int) (value : S) :
    JobsInv cfg (jobs.setSample k c f value) versions := by
  constructor <;> intro j hj <;> rw [JobTable.setSample_job]
  · exact h.chunk_mem j hj
  · refine Eq.trans ?_ (h.channelCount j hj)
    dsimp only
    split <;> rfl
  · refine Eq.trans ?_ (h.frameCount j hj)
    dsimp only
    split <;> rfl
  · exact h.version_le j hj

theorem add (h : JobsInv cfg jobs versions) {job : RenderJob S}
    (hchunk : 0 ≤ job.chunk ∧ job.chunk < cfg.chunkCount)
    (hchannels : job.samples.channelCount = cfg.audio.channelCount)
    (hframes : job.samples.frameCount = chunkFrames)
    (hversion : job.version ≤ versions job.chunk) :
    JobsInv cfg (jobs.add job) versions := by
  constructor <;> intro j hj <;> rcases Nat.lt_succ_iff_lt_or_eq.mp hj with hj | rfl
  · exact JobTable.add_job_of_ne jobs job hj.ne ▸ h.chunk_mem j hj
  · exact (JobTable.add_job_made jobs job).symm ▸ hchunk
  · exact JobTable.add_job_of_ne jobs job hj.ne ▸ h.channelCount j hj
  · exact (JobTable.add_job_made jobs job).symm ▸ hchannels
  · exact JobTable.add_job_of_ne jobs job hj.ne ▸ h.frameCount j hj
  · exact (JobTable.add_job_made jobs job).symm ▸ hframes
  · exact JobTable.add_job_of_ne jobs job hj.ne ▸ h.version_le j hj
  · exact (JobTable.add_job_made jobs job).symm ▸ hversion

end JobsInv

/-! ## Registration -/

/-- The job has tiles outstanding, or its completion is being published or waits to be
collected. -/
def Busy (jobs : JobTable S) (publishing : List (ℕ × JobId)) (completed : List JobId)
    (j : JobId) : Prop :=
  (jobs.job j).tilesRemaining ≠ 0 ∨ j ∈ publishing.map Prod.snd ∨ j ∈ completed

structure RegistrationInv (active : Int → Option JobId) (jobs : JobTable S)
    (publishing : List (ℕ × JobId)) (completed : List JobId)
    (cacheEntries : Int → CacheEntry S) (sessionFirst : ℕ) (sessionOpen : Bool) : Prop where
  registered : ∀ c j, active c = some j → j < jobs.made ∧ (jobs.job j).chunk = c
  busy_registered : ∀ j < jobs.made, (jobs.job j).cancelled = false →
    Busy jobs publishing completed j → active (jobs.job j).chunk = some j
  not_cached : ∀ c j, active c = some j → (jobs.job j).cancelled = false →
    (cacheEntries c).version < (jobs.job j).version
  busy : ∀ c j, active c = some j → sessionFirst ≤ j → Busy jobs publishing completed j
  session : sessionOpen = true → ∀ c j, active c = some j → sessionFirst ≤ j

namespace RegistrationInv

variable {active : Int → Option JobId} {jobs : JobTable S}
  {publishing : List (ℕ × JobId)} {completed : List JobId} {cacheEntries : Int → CacheEntry S}
  {sessionFirst : ℕ} {sessionOpen : Bool}

theorem busy_cancel (k j : JobId) :
    Busy (jobs.cancel k) publishing completed j ↔ Busy jobs publishing completed j := by
  unfold Busy
  rw [JobTable.cancel_job]

theorem busy_setSample (k : JobId) (c f : Int) (value : S) (j : JobId) :
    Busy (jobs.setSample k c f value) publishing completed j ↔
      Busy jobs publishing completed j := by
  unfold Busy
  rw [JobTable.setSample_job]

theorem cancel
    (h : RegistrationInv active jobs publishing completed cacheEntries sessionFirst sessionOpen)
    (k : JobId) :
    RegistrationInv active (jobs.cancel k) publishing completed cacheEntries sessionFirst
      sessionOpen where
  registered c j hj := by
    rw [JobTable.cancel_job]
    exact h.registered c j hj
  busy_registered j hj hc hb := by
    rw [JobTable.cancel_job] at hc ⊢
    simp only [Bool.or_eq_false_iff] at hc
    exact h.busy_registered j hj hc.1 ((busy_cancel k j).mp hb)
  not_cached c j hj hc := by
    rw [JobTable.cancel_job] at hc ⊢
    simp only [Bool.or_eq_false_iff] at hc
    exact h.not_cached c j hj hc.1
  busy c j hj hs := (busy_cancel k j).mpr (h.busy c j hj hs)
  session := h.session

theorem setSample
    (h : RegistrationInv active jobs publishing completed cacheEntries sessionFirst sessionOpen)
    (k : JobId) (ch f : Int) (value : S) :
    RegistrationInv active (jobs.setSample k ch f value) publishing completed cacheEntries
      sessionFirst sessionOpen where
  registered c j hj := by
    rw [JobTable.setSample_job]
    exact h.registered c j hj
  busy_registered j hj hc hb := by
    rw [JobTable.setSample_job] at hc ⊢
    exact h.busy_registered j hj hc ((busy_setSample k ch f value j).mp hb)
  not_cached c j hj hc := by
    rw [JobTable.setSample_job] at hc ⊢
    exact h.not_cached c j hj hc
  busy c j hj hs := (busy_setSample k ch f value j).mpr (h.busy c j hj hs)
  session := h.session

/-- Counting a tile; the completion of a last tile is on its way, or its job is unregistered. -/
theorem countDown {k : JobId} {active' : Int → Option JobId} {publishing' : List (ℕ × JobId)}
    (h : RegistrationInv active jobs publishing completed cacheEntries sessionFirst sessionOpen)
    (hactive : ∀ c j, active' c = some j → active c = some j)
    (hpos : (jobs.job k).tilesRemaining ≠ 0)
    (hpub : ∀ j, j ∈ publishing.map Prod.snd → j ∈ publishing'.map Prod.snd)
    (hkept : ∀ j, (jobs.job j).cancelled = false → active (jobs.job j).chunk = some j →
      active' (jobs.job j).chunk = some j)
    (hpub' : ∀ j, j ∈ publishing'.map Prod.snd → j = k ∨ j ∈ publishing.map Prod.snd)
    (hlast : (jobs.job k).tilesRemaining = 1 →
      k ∈ publishing'.map Prod.snd ∨ ∀ c, active' c ≠ some k) :
    RegistrationInv active' (jobs.countDown k) publishing' completed cacheEntries sessionFirst
      sessionOpen where
  registered c j hj := by
    rw [JobTable.countDown_job]
    exact h.registered c j (hactive c j hj)
  busy_registered j hj hc hb := by
    rw [JobTable.countDown_job] at hc ⊢
    refine hkept j hc (h.busy_registered j hj hc ?_)
    rw [Busy, JobTable.countDown_job] at hb
    by_cases hjk : j = k
    · exact .inl (hjk ▸ hpos)
    · rw [if_neg hjk, sub_zero] at hb
      exact hb.imp_right (Or.imp_left fun hmem => (hpub' j hmem).resolve_left hjk)
  not_cached c j hj hc := by
    rw [JobTable.countDown_job] at hc ⊢
    exact h.not_cached c j (hactive c j hj) hc
  busy c j hj hs := by
    have hb := h.busy c j (hactive c j hj) hs
    rw [Busy, JobTable.countDown_job]
    by_cases hjk : j = k
    · subst hjk
      by_cases h₁ : (jobs.job j).tilesRemaining = 1
      · exact .inr (.inl ((hlast h₁).resolve_right fun hno => hno c hj))
      · left
        simp only [if_true]
        omega
    · rw [if_neg hjk, sub_zero]
      exact hb.imp_right (Or.imp_left (hpub j))
  session ho c j hj := h.session ho c j (hactive c j hj)

/-- A completion moves from its worker to the queue. -/
theorem pushCompleted {w : ℕ} {k : JobId}
    (h : RegistrationInv active jobs publishing completed cacheEntries sessionFirst sessionOpen)
    (hw : (w, k) ∈ publishing) :
    RegistrationInv active jobs (publishing.erase (w, k)) (completed ++ [k]) cacheEntries
      sessionFirst sessionOpen := by
  have hbusy : ∀ j, Busy jobs (publishing.erase (w, k)) (completed ++ [k]) j ↔
      Busy jobs publishing completed j := fun j => by
    have hperm := (List.perm_cons_erase hw).map Prod.snd
    unfold Busy
    rw [hperm.mem_iff, List.mem_append, List.mem_singleton, List.map_cons, List.mem_cons]
    tauto
  exact { h with
    busy_registered := fun j hj hc hb => h.busy_registered j hj hc ((hbusy j).mp hb)
    busy := fun c j hj hs => (hbusy j).mpr (h.busy c j hj hs) }

/-- The first completion is collected, with its job unregistered if it was registered. -/
theorem collect {j : JobId} {rest : List JobId} {active' : Int → Option JobId}
    (h : RegistrationInv active jobs publishing (j :: rest) cacheEntries sessionFirst
      sessionOpen)
    (hgone : ¬Busy jobs publishing rest j)
    (hactive : ∀ c k, active' c = some k ↔ active c = some k ∧ k ≠ j) :
    RegistrationInv active' jobs publishing rest cacheEntries sessionFirst sessionOpen := by
  have hbusy : ∀ k, k ≠ j → (Busy jobs publishing rest k ↔ Busy jobs publishing (j :: rest) k) :=
    fun k hk => by simp only [Busy, List.mem_cons, hk, false_or]
  exact {
    registered := fun c k hk => h.registered c k ((hactive c k).mp hk).1
    busy_registered := fun k hk hc hb => by
      have hne : k ≠ j := fun he => hgone (he ▸ hb)
      exact (hactive _ k).mpr ⟨h.busy_registered k hk hc ((hbusy k hne).mp hb), hne⟩
    not_cached := fun c k hk hc => h.not_cached c k ((hactive c k).mp hk).1 hc
    busy := fun c k hk hs => by
      obtain ⟨hk, hne⟩ := (hactive c k).mp hk
      exact (hbusy k hne).mpr (h.busy c k hk hs)
    session := fun ho c k hk => h.session ho c k ((hactive c k).mp hk).1 }

/-- The entry of a chunk without a registered job changes. -/
theorem store {chunk : Int} {entry : CacheEntry S}
    (h : RegistrationInv active jobs publishing completed cacheEntries sessionFirst sessionOpen)
    (hnone : active chunk = none) :
    RegistrationInv active jobs publishing completed
      (Function.update cacheEntries chunk entry) sessionFirst sessionOpen :=
  { h with
    not_cached := fun c j hj hc => by
      have hne : c ≠ chunk := by
        rintro rfl
        rw [hnone] at hj
        cases hj
      rw [Function.update_of_ne hne]
      exact h.not_cached c j hj hc }

/-- The registered job of a chunk is cancelled and unregistered. -/
theorem cancelAndReset {chunk : Int} {k : JobId}
    (h : RegistrationInv active jobs publishing completed cacheEntries sessionFirst sessionOpen)
    (hk : active chunk = some k) :
    RegistrationInv (Function.update active chunk none) (jobs.cancel k) publishing completed
      cacheEntries sessionFirst sessionOpen := by
  have hactive : ∀ c j, Function.update active chunk none c = some j → active c = some j :=
    fun c j hj => by
      by_cases hc : c = chunk
      · rw [hc, Function.update_self] at hj
        cases hj
      · rwa [Function.update_of_ne hc] at hj
  have h' := h.cancel k
  exact {
    registered := fun c j hj => h'.registered c j (hactive c j hj)
    busy_registered := fun j hj hc hb => by
      have hreg := h'.busy_registered j hj hc hb
      rw [Function.update_of_ne, hreg]
      rintro heq
      rw [heq, hk] at hreg
      obtain rfl := Option.some.inj hreg
      rw [JobTable.cancel_job] at hc
      simp at hc
    not_cached := fun c j hj => h'.not_cached c j (hactive c j hj)
    busy := fun c j hj => h'.busy c j (hactive c j hj)
    session := fun ho c j hj => h'.session ho c j (hactive c j hj) }

/-- A new job is registered for a chunk whose old job, if any, is cancelled. -/
theorem add {job : RenderJob S}
    (h : RegistrationInv active jobs publishing completed cacheEntries sessionFirst sessionOpen)
    (hold : ∀ j, active job.chunk = some j → (jobs.job j).cancelled = true)
    (hjob : job.tilesRemaining ≠ 0)
    (hversion : (cacheEntries job.chunk).version < job.version)
    (hsession : sessionFirst ≤ jobs.made) :
    RegistrationInv (Function.update active job.chunk (some jobs.made)) (jobs.add job)
      publishing completed cacheEntries sessionFirst sessionOpen := by
  have hcases : ∀ c j, Function.update active job.chunk (some jobs.made) c = some j →
      (c = job.chunk ∧ j = jobs.made) ∨ (active c = some j ∧ j ≠ jobs.made) := fun c j hj => by
    by_cases hc : c = job.chunk
    · rw [hc, Function.update_self] at hj
      exact .inl ⟨hc, (Option.some.inj hj).symm⟩
    · rw [Function.update_of_ne hc] at hj
      exact .inr ⟨hj, (h.registered c j hj).1.ne⟩
  have hbusy : ∀ j, j ≠ jobs.made →
      (Busy (jobs.add job) publishing completed j ↔ Busy jobs publishing completed j) :=
    fun j hj => by rw [Busy, JobTable.add_job_of_ne _ _ hj, Busy]
  exact {
    registered := fun c j hj => by
      rcases hcases c j hj with ⟨rfl, rfl⟩ | ⟨hj, hne⟩
      · exact ⟨Nat.lt_succ_self _, by rw [JobTable.add_job_made]⟩
      · rw [JobTable.add_job_of_ne _ _ hne]
        exact ⟨Nat.lt_succ_of_lt (h.registered c j hj).1, (h.registered c j hj).2⟩
    busy_registered := fun j hj hc hb => by
      rcases Nat.lt_succ_iff_lt_or_eq.mp hj with hj | rfl
      · rw [JobTable.add_job_of_ne _ _ hj.ne] at hc ⊢
        have hreg := h.busy_registered j hj hc ((hbusy j hj.ne).mp hb)
        rw [Function.update_of_ne, hreg]
        intro heq
        rw [heq] at hreg
        rw [hold j hreg] at hc
        cases hc
      · rw [JobTable.add_job_made, Function.update_self]
    not_cached := fun c j hj hc => by
      rcases hcases c j hj with ⟨rfl, rfl⟩ | ⟨hj, hne⟩
      · rwa [JobTable.add_job_made]
      · rw [JobTable.add_job_of_ne _ _ hne] at hc ⊢
        exact h.not_cached c j hj hc
    busy := fun c j hj hs => by
      rcases hcases c j hj with ⟨rfl, rfl⟩ | ⟨hj, hne⟩
      · left
        rwa [JobTable.add_job_made]
      · exact (hbusy j hne).mpr (h.busy c j hj hs)
    session := fun ho c j hj => by
      rcases hcases c j hj with ⟨rfl, rfl⟩ | ⟨hj, hne⟩
      · exact hsession
      · exact h.session ho c j hj }

/-- A session ends: the jobs made so far belong to no open session. -/
theorem endSession
    (h : RegistrationInv active jobs publishing completed cacheEntries sessionFirst
      sessionOpen) :
    RegistrationInv active jobs publishing completed cacheEntries jobs.made false :=
  { h with
    busy := fun c j hj hs => absurd (h.registered c j hj).1 (Nat.not_lt.mpr hs)
    session := fun ho => by cases ho }

/-- A session begins with no job registered. -/
theorem beginSession
    (h : RegistrationInv active jobs publishing completed cacheEntries sessionFirst sessionOpen)
    (hnone : ∀ c, active c = none) :
    RegistrationInv active jobs publishing completed cacheEntries jobs.made true :=
  { h with
    busy := fun c j hj => by rw [hnone c] at hj; cases hj
    session := fun _ c j hj => by rw [hnone c] at hj; cases hj }

/-- The completions of an older session are discarded. -/
theorem clearCompleted
    (h : RegistrationInv active jobs publishing completed cacheEntries jobs.made sessionOpen) :
    RegistrationInv active jobs publishing [] cacheEntries jobs.made sessionOpen :=
  { h with
    busy_registered := fun j hj hc hb => h.busy_registered j hj hc <| by
      rcases hb with hb | hb | hb
      · exact .inl hb
      · exact .inr (.inl hb)
      · cases hb
    busy := fun c j hj hs => absurd (h.registered c j hj).1 (Nat.not_lt.mpr hs) }

end RegistrationInv

/-! ## Cache -/

/-- The samples of a chunk are what the kernel gives for a version. -/
def ChunkContent (cfg : Config) (kernel : RenderKernel S) (chunk version : Int)
    (samples : AudioBuffer S) : Prop :=
  ∀ c f, 0 ≤ c → c < cfg.audio.channelCount → 0 ≤ f → f < chunkFrames →
    samples.sample c f = kernel c (chunk * chunkFrames + f) version

/-- A job whose tiles are all rendered has the content of its chunk. -/
theorem chunkContent_of_tiles {cfg : Config} {kernel : RenderKernel S} {job : RenderJob S}
    (hchannels : job.samples.channelCount = cfg.audio.channelCount)
    (h : ∀ t, 0 ≤ t → t < tilesPerChunk → TileContent kernel job t) :
    ChunkContent cfg kernel job.chunk job.version job.samples := by
  intro c f hc₀ hc₁ hf₀ hf₁
  simp only [chunkFrames] at hf₁
  refine h (f / tileFrames) ?_ ?_ c f hc₀ (by omega) ?_ ?_ <;>
    simp only [tileFrames, tilesPerChunk_eq] <;> omega

structure CacheInv (cfg : Config) (kernel : RenderKernel S) (cacheEntries : Int → CacheEntry S)
    (versions : Int → Int) (stored : List (Int × Int)) : Prop where
  channelCount : ∀ c, (cacheEntries c).samples.channelCount = cfg.audio.channelCount
  frameCount : ∀ c, (cacheEntries c).samples.frameCount = chunkFrames
  version_le : ∀ c, (cacheEntries c).version ≤ versions c
  versions_pos : ∀ c, 0 < versions c
  content : ∀ c, (cacheEntries c).version ≠ 0 →
    ChunkContent cfg kernel c (cacheEntries c).version (cacheEntries c).samples
  stored_le : ∀ c v, (c, v) ∈ stored → v ≤ (cacheEntries c).version
  stored_nodup : stored.Nodup

namespace CacheInv

variable {cfg : Config} {kernel : RenderKernel S} {cacheEntries : Int → CacheEntry S}
  {versions : Int → Int} {stored : List (Int × Int)}

theorem bump (h : CacheInv cfg kernel cacheEntries versions stored) (chunk : Int) :
    CacheInv cfg kernel cacheEntries (Function.update versions chunk (versions chunk + 1))
      stored :=
  { h with
    version_le := fun c => by
      have := h.version_le c
      rw [Function.update_apply]
      split
      · subst c; omega
      · exact this
    versions_pos := fun c => by
      have := h.versions_pos c
      rw [Function.update_apply]
      split
      · subst c; omega
      · exact this }

/-- A newer version of a chunk is stored. -/
theorem store {chunk version : Int} {samples : AudioBuffer S}
    (h : CacheInv cfg kernel cacheEntries versions stored)
    (hcontent : ChunkContent cfg kernel chunk version samples)
    (hnew : (cacheEntries chunk).version < version) (hle : version ≤ versions chunk) :
    CacheInv cfg kernel
      (Function.update cacheEntries chunk
        ⟨version, RenderCache.copySamples cfg samples (cacheEntries chunk).samples⟩)
      versions ((chunk, version) :: stored) where
  channelCount c := by
    rw [Function.update_apply]
    split
    · exact h.channelCount chunk
    · exact h.channelCount c
  frameCount c := by
    rw [Function.update_apply]
    split
    · exact h.frameCount chunk
    · exact h.frameCount c
  version_le c := by
    rw [Function.update_apply]
    split
    · subst c; exact hle
    · exact h.version_le c
  versions_pos := h.versions_pos
  content c := by
    rw [Function.update_apply]
    split
    · subst c
      intro _ ch f hc₀ hc₁ hf₀ hf₁
      simp only [RenderCache.copySamples, hc₀, hc₁, hf₀, hf₁, and_self, if_true]
      exact hcontent ch f hc₀ hc₁ hf₀ hf₁
    · exact h.content c
  stored_le c v hv := by
    rcases List.mem_cons.mp hv with heq | hv
    · obtain ⟨rfl, rfl⟩ := Prod.mk.inj heq
      rw [Function.update_self]
    · rw [Function.update_apply]
      have := h.stored_le c v hv
      split
      · subst c
        exact this.trans hnew.le
      · exact this
  stored_nodup := List.nodup_cons.mpr
    ⟨fun hmem => (h.stored_le _ _ hmem).not_gt hnew, h.stored_nodup⟩

/-- A current entry holds what the kernel gives for the current version. -/
theorem findCurrent {r : RenderState S} {samples : AudioBuffer S} {chunk : Int}
    (h : CacheInv cfg kernel r.cacheEntries r.versions stored)
    (hfind : RenderCache.findCurrent cfg r chunk = some samples) :
    ChunkContent cfg kernel chunk (r.versions chunk) samples := by
  unfold RenderCache.findCurrent at hfind
  split at hfind
  · cases hfind
  · split at hfind
    · cases hfind
    · rename_i hversion
      rw [not_not] at hversion
      obtain rfl := Option.some.inj hfind
      rw [← hversion]
      exact h.content chunk (hversion.symm ▸ (h.versions_pos chunk).ne')

end CacheInv

end Anasa
