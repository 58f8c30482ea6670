import Mathlib.Data.List.Perm.Basic
import Mathlib.Data.List.Count
import Anasa.Model.Executor

/-!
# Where the tiles of a job are

A tile that is not accounted for is pending, set aside for reclassification, queued in the
executor, or held by a worker that has not yet counted it. `outstanding` lists those places
together; what the invariant says of the counters depends on it up to order only, so moving a
tile from one place to the next is no event.

1. `TilesInv` ties `tilesRemaining` to the tiles outstanding.
2. `ContentInv` says that a tile of an uncancelled job that is not outstanding is rendered.
3. `CompletionInv` says who saw a counter reach zero.
-/

namespace Anasa

variable {S : Type}

def PendingRenderTile.task (tile : PendingRenderTile) : RenderTask := ⟨tile.job, tile.tileIndex⟩

/-- The tiles not yet accounted for. -/
def RenderState.outstanding (r : RenderState S) : List RenderTask :=
  r.pendingTiles.map (·.task) ++ r.reclassificationBuffer.map (·.task) ++
    r.executor.renderTasks ++ r.executor.rendering.map Prod.snd

/-- The tiles of one job. -/
def held (tiles : List RenderTask) (j : JobId) : ℕ := tiles.countP (·.job = j)

theorem held_cons (task : RenderTask) (tiles : List RenderTask) (j : JobId) :
    held (task :: tiles) j = held tiles j + if j = task.job then 1 else 0 := by
  simp only [held, List.countP_cons, decide_eq_true_eq, eq_comm (a := j)]

theorem held_perm {tiles tiles' : List RenderTask} (h : tiles.Perm tiles') (j : JobId) :
    held tiles j = held tiles' j := h.countP_eq _

theorem held_append (tiles tiles' : List RenderTask) (j : JobId) :
    held (tiles ++ tiles') j = held tiles j + held tiles' j := List.countP_append

theorem held_eq_zero {tiles : List RenderTask} {j : JobId} :
    held tiles j = 0 ↔ ∀ task ∈ tiles, task.job ≠ j := by
  simp [held, List.countP_eq_zero]

/-- Every tile of a chunk that is missing from the list is not a tile of the job. -/
theorem notMem_of_held_eq_zero {tiles : List RenderTask} {j : JobId} (h : held tiles j = 0)
    (t : Int) : (⟨j, t⟩ : RenderTask) ∉ tiles :=
  fun hmem => held_eq_zero.mp h _ hmem rfl

/-! ## Counters -/

/-- The counter of a job against its outstanding tiles. A job whose tiles were dropped when a
session ended keeps a larger counter; it is older than the session and cancelled. -/
structure TilesInv (tiles : List RenderTask) (jobs : JobTable S) (sessionFirst : ℕ) : Prop where
  job_lt : ∀ task ∈ tiles, task.job < jobs.made
  index_mem : ∀ task ∈ tiles, 0 ≤ task.tileIndex ∧ task.tileIndex < tilesPerChunk
  nodup : tiles.Nodup
  held_le : ∀ j < jobs.made, (held tiles j : Int) ≤ (jobs.job j).tilesRemaining
  held_eq : ∀ j < jobs.made, (jobs.job j).cancelled = false ∨ sessionFirst ≤ j →
    (held tiles j : Int) = (jobs.job j).tilesRemaining
  session_le : sessionFirst ≤ jobs.made

namespace TilesInv

variable {tiles tiles' : List RenderTask} {jobs : JobTable S} {sessionFirst : ℕ}

theorem perm (h : TilesInv tiles jobs sessionFirst) (hp : tiles.Perm tiles') :
    TilesInv tiles' jobs sessionFirst where
  job_lt task ht := h.job_lt task (hp.mem_iff.mpr ht)
  index_mem task ht := h.index_mem task (hp.mem_iff.mpr ht)
  nodup := hp.nodup_iff.mp h.nodup
  held_le j hj := held_perm hp j ▸ h.held_le j hj
  held_eq j hj hc := held_perm hp j ▸ h.held_eq j hj hc
  session_le := h.session_le

theorem cancel (h : TilesInv tiles jobs sessionFirst) (k : JobId) :
    TilesInv tiles (jobs.cancel k) sessionFirst where
  job_lt := h.job_lt
  index_mem := h.index_mem
  nodup := h.nodup
  held_le j hj := by
    rw [JobTable.cancel_job]
    exact h.held_le j hj
  held_eq j hj hc := by
    rw [JobTable.cancel_job] at hc ⊢
    refine h.held_eq j hj (hc.imp_left fun hc => ?_)
    simp only [Bool.or_eq_false_iff] at hc
    exact hc.1
  session_le := h.session_le

/-- A worker or the scheduler accounts for one tile. -/
theorem countDown {task : RenderTask} (h : TilesInv tiles jobs sessionFirst)
    (hp : tiles.Perm (task :: tiles')) :
    TilesInv tiles' (jobs.countDown task.job) sessionFirst where
  job_lt t ht := h.job_lt t (hp.mem_iff.mpr (List.mem_cons_of_mem _ ht))
  index_mem t ht := h.index_mem t (hp.mem_iff.mpr (List.mem_cons_of_mem _ ht))
  nodup := (List.nodup_cons.mp (hp.nodup_iff.mp h.nodup)).2
  held_le j hj := by
    have hle := h.held_le j hj
    rw [held_perm hp, held_cons] at hle
    rw [JobTable.countDown_job]
    dsimp only
    push_cast at hle
    omega
  held_eq j hj hc := by
    rw [JobTable.countDown_job] at hc ⊢
    have heq := h.held_eq j hj hc
    rw [held_perm hp, held_cons] at heq
    dsimp only
    push_cast at heq
    omega
  session_le := h.session_le

/-- A tile of an older session is dropped and its job cancelled. -/
theorem drop {task : RenderTask} (h : TilesInv tiles jobs sessionFirst)
    (hp : tiles.Perm (task :: tiles')) (hold : task.job < sessionFirst) :
    TilesInv tiles' (jobs.cancel task.job) sessionFirst where
  job_lt t ht := h.job_lt t (hp.mem_iff.mpr (List.mem_cons_of_mem _ ht))
  index_mem t ht := h.index_mem t (hp.mem_iff.mpr (List.mem_cons_of_mem _ ht))
  nodup := (List.nodup_cons.mp (hp.nodup_iff.mp h.nodup)).2
  held_le j hj := by
    have hle := h.held_le j hj
    rw [held_perm hp, held_cons] at hle
    rw [JobTable.cancel_job]
    dsimp only
    push_cast at hle
    omega
  held_eq j hj hc := by
    rw [JobTable.cancel_job] at hc ⊢
    have hne : j ≠ task.job := by
      rintro rfl
      simp only [decide_true, Bool.or_true, Bool.true_eq_false, false_or] at hc
      exact Nat.not_lt.mpr hc hold
    simp only [hne, decide_false, Bool.or_false] at hc
    have heq := h.held_eq j hj hc
    rw [held_perm hp, held_cons, if_neg hne, Nat.add_zero] at heq
    exact heq
  session_le := h.session_le

theorem setSample (h : TilesInv tiles jobs sessionFirst) (k : JobId) (c f : Int) (value : S) :
    TilesInv tiles (jobs.setSample k c f value) sessionFirst where
  job_lt := h.job_lt
  index_mem := h.index_mem
  nodup := h.nodup
  held_le j hj := by
    rw [JobTable.setSample_job]
    exact h.held_le j hj
  held_eq j hj hc := by
    rw [JobTable.setSample_job] at hc ⊢
    exact h.held_eq j hj hc
  session_le := h.session_le

/-- The jobs made so far become jobs of an older session. -/
theorem newSession (h : TilesInv tiles jobs sessionFirst) :
    TilesInv tiles jobs jobs.made where
  job_lt := h.job_lt
  index_mem := h.index_mem
  nodup := h.nodup
  held_le := h.held_le
  held_eq j hj hc := h.held_eq j hj (hc.imp_right fun hle => absurd hj (Nat.not_lt.mpr hle))
  session_le := le_rfl

/-- The tiles of a new job. -/
theorem add (h : TilesInv tiles jobs sessionFirst) (job : RenderJob S) (news : List RenderTask)
    (hjob : ∀ task ∈ news, task.job = jobs.made)
    (hindex : ∀ task ∈ news, 0 ≤ task.tileIndex ∧ task.tileIndex < tilesPerChunk)
    (hnodup : news.Nodup) (hcount : (news.length : Int) = job.tilesRemaining) :
    TilesInv (news ++ tiles) (jobs.add job) sessionFirst := by
  have hold : ∀ j < jobs.made, held news j = 0 := fun j hj =>
    held_eq_zero.mpr fun task ht => by
      rw [hjob task ht]
      exact hj.ne'
  have hnew : held news jobs.made = news.length :=
    List.countP_eq_length.mpr fun task ht => by simpa using hjob task ht
  have hnone : held tiles jobs.made = 0 :=
    held_eq_zero.mpr fun task ht => (h.job_lt task ht).ne
  have hmade : (held (news ++ tiles) jobs.made : Int) =
      ((jobs.add job).job jobs.made).tilesRemaining := by
    rw [held_append, hnew, hnone, JobTable.add_job_made, ← hcount]
    rfl
  exact {
    job_lt := fun task ht => (List.mem_append.mp ht).elim
      (fun ht => by rw [hjob task ht]; exact Nat.lt_succ_self _)
      (fun ht => Nat.lt_succ_of_lt (h.job_lt task ht))
    index_mem := fun task ht => (List.mem_append.mp ht).elim (hindex task) (h.index_mem task)
    nodup := hnodup.append h.nodup fun task h₁ h₂ =>
      (h.job_lt task h₂).ne (hjob task h₁)
    held_le := fun j hj => by
      rcases Nat.lt_succ_iff_lt_or_eq.mp hj with hj | rfl
      · rw [held_append, hold j hj, Nat.zero_add, JobTable.add_job_of_ne _ _ hj.ne]
        exact h.held_le j hj
      · exact hmade.le
    held_eq := fun j hj hc => by
      rcases Nat.lt_succ_iff_lt_or_eq.mp hj with hj | rfl
      · rw [JobTable.add_job_of_ne _ _ hj.ne] at hc ⊢
        rw [held_append, hold j hj, Nat.zero_add]
        exact h.held_eq j hj hc
      · exact hmade
    session_le := Nat.le_succ_of_le h.session_le }

/-- A job with an outstanding tile has a positive counter. -/
theorem remaining_pos (h : TilesInv tiles jobs sessionFirst) {task : RenderTask}
    (ht : task ∈ tiles) : 0 < (jobs.job task.job).tilesRemaining := by
  have hpos : 0 < held tiles task.job := List.countP_pos_iff.mpr ⟨task, ht, by simp⟩
  have := h.held_le task.job (h.job_lt task ht)
  omega

/-- An uncancelled job whose counter is zero has no outstanding tile. -/
theorem held_zero (h : TilesInv tiles jobs sessionFirst) {j : JobId} (hj : j < jobs.made)
    (hc : (jobs.job j).cancelled = false) (hz : (jobs.job j).tilesRemaining = 0) :
    held tiles j = 0 := by
  have := h.held_eq j hj (.inl hc)
  omega

end TilesInv

/-! ## Content -/

/-- The samples of one tile are what the kernel gives for the version of the job. -/
def TileContent (kernel : RenderKernel S) (job : RenderJob S) (t : Int) : Prop :=
  ∀ c f, 0 ≤ c → c < job.samples.channelCount → t * tileFrames ≤ f →
    f < t * tileFrames + tileFrames →
    job.samples.sample c f = kernel c (job.chunk * chunkFrames + f) job.version

/-- A tile of an uncancelled job is outstanding or rendered. -/
def ContentInv (kernel : RenderKernel S) (tiles : List RenderTask) (jobs : JobTable S)
    (rendered : JobId → Int → Bool) : Prop :=
  ∀ j < jobs.made, (jobs.job j).cancelled = false → ∀ t, 0 ≤ t → t < tilesPerChunk →
    (⟨j, t⟩ : RenderTask) ∉ tiles → TileContent kernel (jobs.job j) t ∧ rendered j t = true

namespace ContentInv

variable {kernel : RenderKernel S} {tiles tiles' : List RenderTask} {jobs : JobTable S}
  {rendered : JobId → Int → Bool}

theorem perm (h : ContentInv kernel tiles jobs rendered) (hp : tiles.Perm tiles') :
    ContentInv kernel tiles' jobs rendered :=
  fun j hj hc t h₀ h₁ ht => h j hj hc t h₀ h₁ fun hmem => ht (hp.mem_iff.mp hmem)

theorem cancel (h : ContentInv kernel tiles jobs rendered) (k : JobId) :
    ContentInv kernel tiles (jobs.cancel k) rendered := by
  intro j hj hc t h₀ h₁ ht
  rw [JobTable.cancel_job] at hc ⊢
  simp only [Bool.or_eq_false_iff] at hc
  exact h j hj hc.1 t h₀ h₁ ht

/-- A tile of a cancelled job goes away. -/
theorem remove {task : RenderTask} (h : ContentInv kernel tiles jobs rendered)
    (hp : tiles.Perm (task :: tiles')) (hc : (jobs.job task.job).cancelled = true) :
    ContentInv kernel tiles' jobs rendered := by
  intro j hj hcj t h₀ h₁ ht
  refine h j hj hcj t h₀ h₁ fun hmem => ?_
  rcases List.mem_cons.mp (hp.mem_iff.mp hmem) with rfl | hmem
  · rw [hc] at hcj
    cases hcj
  · exact ht hmem

theorem countDown (h : ContentInv kernel tiles jobs rendered) (k : JobId) :
    ContentInv kernel tiles (jobs.countDown k) rendered := by
  intro j hj hc t h₀ h₁ ht
  rw [JobTable.countDown_job] at hc ⊢
  exact h j hj hc t h₀ h₁ ht

/-- A tile is accounted for as rendered. -/
theorem finish {task : RenderTask} {rendered' : JobId → Int → Bool}
    (h : ContentInv kernel tiles jobs rendered) (hp : tiles.Perm (task :: tiles'))
    (hmono : ∀ j t, rendered j t = true → rendered' j t = true)
    (hdone : TileContent kernel (jobs.job task.job) task.tileIndex)
    (hmark : rendered' task.job task.tileIndex = true) :
    ContentInv kernel tiles' jobs rendered' := by
  intro j hj hc t h₀ h₁ ht
  by_cases htask : (⟨j, t⟩ : RenderTask) = task
  · subst htask
    exact ⟨hdone, hmark⟩
  · have hmem : (⟨j, t⟩ : RenderTask) ∉ tiles := fun hmem =>
      (List.mem_cons.mp (hp.mem_iff.mp hmem)).elim htask ht
    exact (h j hj hc t h₀ h₁ hmem).imp_right (hmono j t)

/-- A worker writes a sample of a tile it holds. -/
theorem setSample {k : JobId} {t f : Int} (h : ContentInv kernel tiles jobs rendered)
    (hk : (⟨k, t⟩ : RenderTask) ∈ tiles) (h₀ : t * tileFrames ≤ f)
    (h₁ : f < t * tileFrames + tileFrames) (c : Int) (value : S) :
    ContentInv kernel tiles (jobs.setSample k c f value) rendered := by
  intro j hj hc u hu₀ hu₁ hu
  rw [JobTable.setSample_job] at hc ⊢
  obtain ⟨hcontent, hmark⟩ := h j hj hc u hu₀ hu₁ hu
  refine ⟨?_, hmark⟩
  by_cases hjk : j = k
  · subst hjk
    have hut : u ≠ t := fun he => hu (he ▸ hk)
    intro c' f' hc₀ hc₁ hf₀ hf₁
    have hff : f' ≠ f := by
      rintro rfl
      simp only [tileFrames] at h₀ h₁ hf₀ hf₁
      omega
    simp only [if_true, AudioBuffer.set_channelCount] at hc₁ ⊢
    rw [AudioBuffer.set_sample_of_ne _ _ (.inl hff)]
    exact hcontent c' f' hc₀ hc₁ hf₀ hf₁
  · simpa only [if_neg hjk] using hcontent

theorem add (h : ContentInv kernel tiles jobs rendered) (job : RenderJob S)
    (news : List RenderTask)
    (hnews : ∀ t, 0 ≤ t → t < tilesPerChunk → (⟨jobs.made, t⟩ : RenderTask) ∈ news) :
    ContentInv kernel (news ++ tiles) (jobs.add job) rendered := by
  intro j hj hc t h₀ h₁ ht
  rcases Nat.lt_succ_iff_lt_or_eq.mp hj with hj | rfl
  · rw [JobTable.add_job_of_ne _ _ hj.ne] at hc ⊢
    exact h j hj hc t h₀ h₁ fun hmem => ht (List.mem_append_right _ hmem)
  · exact absurd (List.mem_append_left _ (hnews t h₀ h₁)) ht

end ContentInv

/-! ## Completions -/

/-- The jobs whose last tile was seen, by the worker about to queue the completion, by a worker
that has queued it, or by the scheduler. -/
def finishedJobs (publishing : List (ℕ × JobId)) (history : RenderHistory) : List JobId :=
  publishing.map Prod.snd ++ history.published.map Prod.fst ++ history.retired

structure CompletionInv (publishing : List (ℕ × JobId)) (completed : List JobId)
    (history : RenderHistory) (jobs : JobTable S) : Prop where
  nodup : (finishedJobs publishing history).Nodup
  mem_iff : ∀ j, j ∈ finishedJobs publishing history ↔
    j < jobs.made ∧ (jobs.job j).tilesRemaining = 0
  completed_nodup : completed.Nodup
  completed_published : ∀ j ∈ completed, j ∈ history.published.map Prod.fst
  retired_cancelled : ∀ j ∈ history.retired, (jobs.job j).cancelled = true
  published_rendered : ∀ j, (j, false) ∈ history.published → ∀ t, 0 ≤ t → t < tilesPerChunk →
    history.rendered j t = true

namespace CompletionInv

variable {publishing : List (ℕ × JobId)} {completed : List JobId} {history : RenderHistory}
  {jobs : JobTable S}

theorem cancel (h : CompletionInv publishing completed history jobs) (k : JobId) :
    CompletionInv publishing completed history (jobs.cancel k) :=
  { h with
    mem_iff := fun j => by
      rw [h.mem_iff j, JobTable.cancel_job, JobTable.cancel_made]
    retired_cancelled := fun j hj => by
      rw [JobTable.cancel_job, h.retired_cancelled j hj, Bool.true_or] }

theorem setSample (h : CompletionInv publishing completed history jobs) (k : JobId) (c f : Int)
    (value : S) : CompletionInv publishing completed history (jobs.setSample k c f value) :=
  { h with
    mem_iff := fun j => by
      rw [h.mem_iff j, JobTable.setSample_job, JobTable.setSample_made]
    retired_cancelled := fun j hj => by
      rw [JobTable.setSample_job, h.retired_cancelled j hj] }

theorem add (h : CompletionInv publishing completed history jobs) {job : RenderJob S}
    (hjob : job.tilesRemaining ≠ 0) :
    CompletionInv publishing completed history (jobs.add job) :=
  { h with
    mem_iff := fun j => by
      rw [h.mem_iff j, JobTable.add_made, Nat.lt_succ_iff_lt_or_eq]
      constructor
      · rintro ⟨hj, hz⟩
        exact ⟨.inl hj, by rwa [JobTable.add_job_of_ne _ _ hj.ne]⟩
      · rintro ⟨hj | rfl, hz⟩
        · exact ⟨hj, by rwa [JobTable.add_job_of_ne _ _ hj.ne] at hz⟩
        · rw [JobTable.add_job_made] at hz
          exact absurd hz hjob
    retired_cancelled := fun j hj => by
      have hmem : j ∈ finishedJobs publishing history := List.mem_append_right _ hj
      rw [JobTable.add_job_of_ne _ _ ((h.mem_iff j).mp hmem).1.ne]
      exact h.retired_cancelled j hj }

/-- Counting a tile that is not the last one. -/
theorem countDown (h : CompletionInv publishing completed history jobs) {k : JobId}
    (hk : (jobs.job k).tilesRemaining ≠ 1) (hpos : 0 < (jobs.job k).tilesRemaining) :
    CompletionInv publishing completed history (jobs.countDown k) :=
  { h with
    mem_iff := fun j => by
      rw [h.mem_iff j, JobTable.countDown_job, JobTable.countDown_made]
      by_cases hjk : j = k
      · subst hjk
        simp only [if_true]
        omega
      · simp only [if_neg hjk, sub_zero]
    retired_cancelled := fun j hj => by
      rw [JobTable.countDown_job, h.retired_cancelled j hj] }

/-- More tiles are marked as rendered. -/
theorem markRendered (h : CompletionInv publishing completed history jobs)
    {rendered' : JobId → Int → Bool}
    (hmono : ∀ j t, history.rendered j t = true → rendered' j t = true) :
    CompletionInv publishing completed { history with rendered := rendered' } jobs :=
  { h with
    published_rendered := fun j hj t h₀ h₁ => hmono j t (h.published_rendered j hj t h₀ h₁) }

theorem session (h : CompletionInv publishing completed history jobs) (first : ℕ) (isOpen : Bool) :
    CompletionInv publishing completed
      { history with sessionFirstJob := first, sessionOpen := isOpen } jobs :=
  { h with }

/-- The job counted to zero is in none of the lists yet. -/
theorem notMem_of_last (h : CompletionInv publishing completed history jobs) {k : JobId}
    (hk : (jobs.job k).tilesRemaining = 1) : k ∉ finishedJobs publishing history :=
  fun hmem => by
    have := ((h.mem_iff k).mp hmem).2
    omega

theorem mem_iff_of_last (h : CompletionInv publishing completed history jobs) {k : JobId}
    (hmade : k < jobs.made) (hk : (jobs.job k).tilesRemaining = 1) (j : JobId) :
    j = k ∨ j ∈ finishedJobs publishing history ↔
      j < (jobs.countDown k).made ∧ ((jobs.countDown k).job j).tilesRemaining = 0 := by
  rw [h.mem_iff j, JobTable.countDown_job, JobTable.countDown_made]
  by_cases hjk : j = k
  · subst hjk
    simp [hmade, hk]
  · simp [hjk]

/-- A worker counts the last tile. -/
theorem publish (h : CompletionInv publishing completed history jobs) {k : JobId} (w : ℕ)
    (hmade : k < jobs.made) (hk : (jobs.job k).tilesRemaining = 1) :
    CompletionInv ((w, k) :: publishing) completed history (jobs.countDown k) :=
  { h with
    nodup := List.nodup_cons.mpr ⟨h.notMem_of_last hk, h.nodup⟩
    mem_iff := fun j => by
      rw [← h.mem_iff_of_last hmade hk j]
      exact List.mem_cons
    retired_cancelled := fun j hj => by
      rw [JobTable.countDown_job, h.retired_cancelled j hj] }

/-- The scheduler discards the last tile. -/
theorem retire (h : CompletionInv publishing completed history jobs) {k : JobId}
    (hmade : k < jobs.made) (hk : (jobs.job k).tilesRemaining = 1)
    (hc : (jobs.job k).cancelled = true) :
    CompletionInv publishing completed { history with retired := k :: history.retired }
      (jobs.countDown k) := by
  have hperm : (finishedJobs publishing { history with retired := k :: history.retired }).Perm
      (k :: finishedJobs publishing history) := List.perm_middle
  exact { h with
    nodup := hperm.nodup_iff.mpr (List.nodup_cons.mpr ⟨h.notMem_of_last hk, h.nodup⟩)
    mem_iff := fun j => by
      rw [← h.mem_iff_of_last hmade hk j, hperm.mem_iff, List.mem_cons]
    retired_cancelled := fun j hj => by
      rw [JobTable.countDown_job]
      rcases List.mem_cons.mp hj with rfl | hj
      · exact hc
      · exact h.retired_cancelled j hj }

/-- A completion waiting in the queue is one of a finished job that no worker still publishes. -/
theorem of_completed (h : CompletionInv publishing completed history jobs) {j : JobId}
    (hj : j ∈ completed) : j < jobs.made ∧ (jobs.job j).tilesRemaining = 0 ∧
      j ∉ publishing.map Prod.snd := by
  have hpub := h.completed_published j hj
  have hfin : j ∈ finishedJobs publishing history :=
    List.mem_append_left _ (List.mem_append_right _ hpub)
  obtain ⟨hmade, hz⟩ := (h.mem_iff j).mp hfin
  refine ⟨hmade, hz, fun hmem => ?_⟩
  have hnodup := (List.nodup_append.mp h.nodup).1
  exact List.disjoint_of_nodup_append hnodup hmem hpub

/-- A worker queues a completion. -/
theorem pushCompleted (h : CompletionInv publishing completed history jobs) {w : ℕ} {k : JobId}
    (hw : (w, k) ∈ publishing)
    (hrendered : (jobs.job k).cancelled = false → ∀ t, 0 ≤ t → t < tilesPerChunk →
      history.rendered k t = true) :
    CompletionInv (publishing.erase (w, k)) (completed ++ [k])
      { history with published := (k, (jobs.job k).cancelled) :: history.published } jobs := by
  have hperm : (finishedJobs publishing history).Perm (finishedJobs (publishing.erase (w, k))
      { history with published := (k, (jobs.job k).cancelled) :: history.published }) := by
    refine ((((List.perm_cons_erase hw).map Prod.snd).append_right _).trans ?_).append_right _
    exact List.perm_middle.symm
  have hpublishing : k ∈ publishing.map Prod.snd := List.mem_map_of_mem (f := Prod.snd) hw
  exact { h with
    nodup := hperm.nodup_iff.mp h.nodup
    mem_iff := fun j => by rw [← hperm.mem_iff, h.mem_iff j]
    completed_nodup := h.completed_nodup.append (List.nodup_singleton k) fun j h₁ h₂ => by
      rw [List.mem_singleton.mp h₂] at h₁
      exact (h.of_completed h₁).2.2 hpublishing
    completed_published := fun j hj => by
      rcases List.mem_append.mp hj with hj | hj
      · exact List.mem_cons_of_mem _ (h.completed_published j hj)
      · rw [List.mem_singleton.mp hj]
        exact List.mem_cons_self
    published_rendered := fun j hj t h₀ h₁ => by
      rcases List.mem_cons.mp hj with heq | hj
      · obtain ⟨rfl, hc⟩ := Prod.mk.inj heq
        exact hrendered hc.symm t h₀ h₁
      · exact h.published_rendered j hj t h₀ h₁ }

/-- Some completions leave the queue. -/
theorem collect {completed' : List JobId} (h : CompletionInv publishing completed history jobs)
    (hsub : completed'.Sublist completed) (stored : List (Int × Int)) :
    CompletionInv publishing completed' { history with stored } jobs :=
  { h with
    completed_nodup := h.completed_nodup.sublist hsub
    completed_published := fun j hj => h.completed_published j (hsub.subset hj) }

end CompletionInv

end Anasa
