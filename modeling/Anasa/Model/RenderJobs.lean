import Mathlib.Logic.Function.Basic
import Anasa.Model.State

/-!
# The render cache and the table of active jobs

`RenderCache` and `ActiveRenderJobs` as functions of the rendering state.
-/

namespace Anasa

variable {S : Type}

namespace JobTable

/-- Change one job. -/
def update (t : JobTable S) (j : JobId) (f : RenderJob S → RenderJob S) : JobTable S :=
  { t with job := Function.update t.job j (f (t.job j)) }

@[simp] theorem update_made (t : JobTable S) (j : JobId) (f : RenderJob S → RenderJob S) :
    (t.update j f).made = t.made := rfl

@[simp] theorem update_job_self (t : JobTable S) (j : JobId) (f : RenderJob S → RenderJob S) :
    (t.update j f).job j = f (t.job j) := Function.update_self ..

theorem update_job (t : JobTable S) (j k : JobId) (f : RenderJob S → RenderJob S) :
    (t.update j f).job k = if k = j then f (t.job j) else t.job k := Function.update_apply ..

/-- `cancelled.store(true)`. -/
def cancel (t : JobTable S) (j : JobId) : JobTable S :=
  t.update j fun job => { job with cancelled := true }

/-- `tilesRemaining.fetch_sub(1)`. -/
def countDown (t : JobTable S) (j : JobId) : JobTable S :=
  t.update j fun job => { job with tilesRemaining := job.tilesRemaining - 1 }

/-- `samples[channel][frame] = value`. -/
def setSample (t : JobTable S) (j : JobId) (channel frame : Int) (value : S) : JobTable S :=
  t.update j fun job => { job with samples := job.samples.set channel frame value }

/-- Add a job. -/
def add (t : JobTable S) (job : RenderJob S) : JobTable S :=
  ⟨t.made + 1, Function.update t.job t.made job⟩

section

variable (t : JobTable S) (j k : JobId) (channel frame : Int) (value : S)

@[simp] theorem cancel_made : (t.cancel j).made = t.made := rfl
@[simp] theorem countDown_made : (t.countDown j).made = t.made := rfl
@[simp] theorem setSample_made : (t.setSample j channel frame value).made = t.made := rfl

/-- A job after a cancellation. -/
theorem cancel_job : (t.cancel j).job k =
    { t.job k with cancelled := (t.job k).cancelled || decide (k = j) } := by
  unfold cancel
  rw [update_job]
  split
  · subst k; simp
  · simp [*]

/-- A job after a countdown. -/
theorem countDown_job : (t.countDown j).job k =
    { t.job k with tilesRemaining := (t.job k).tilesRemaining - if k = j then 1 else 0 } := by
  unfold countDown
  rw [update_job]
  split
  · subst k; simp
  · simp [*]

/-- A job after a sample is written. -/
theorem setSample_job : (t.setSample j channel frame value).job k =
    { t.job k with samples :=
        if k = j then (t.job k).samples.set channel frame value else (t.job k).samples } := by
  unfold setSample
  rw [update_job]
  split
  · subst k; simp
  · simp [*]

/-- The number of jobs, and the chunk and the version each was made for. -/
def origins (t : JobTable S) : ℕ × (JobId → Int × Int) :=
  (t.made, fun k => ((t.job k).chunk, (t.job k).version))

@[simp] theorem cancel_origins : (t.cancel j).origins = t.origins := by
  simp only [origins, cancel_job, cancel_made]

@[simp] theorem countDown_origins : (t.countDown j).origins = t.origins := by
  simp only [origins, countDown_job, countDown_made]

@[simp] theorem setSample_origins : (t.setSample j channel frame value).origins = t.origins := by
  simp only [origins, setSample_job, setSample_made]

@[simp] theorem add_made (job : RenderJob S) : (t.add job).made = t.made + 1 := rfl

@[simp] theorem add_job_made (job : RenderJob S) : (t.add job).job t.made = job :=
  Function.update_self ..

theorem add_job_of_ne (job : RenderJob S) {k : JobId} (h : k ≠ t.made) :
    (t.add job).job k = t.job k := Function.update_of_ne h ..

theorem add_origins (job : RenderJob S) : (t.add job).origins =
    (t.made + 1, Function.update t.origins.2 t.made (job.chunk, job.version)) := by
  refine Prod.ext rfl (funext fun k => ?_)
  by_cases hk : k = t.made
  · subst hk
    simp [origins]
  · simp [origins, add_job_of_ne, hk]

end

end JobTable

/-! ## RenderCache -/

namespace RenderCache

/-- The samples of a chunk if they have its current version. -/
def findCurrent (cfg : Config) (r : RenderState S) (chunk : Int) : Option (AudioBuffer S) :=
  if chunk < 0 ∨ chunk ≥ cfg.chunkCount then none
  else if (r.cacheEntries chunk).version ≠ r.versions chunk then none
  else some (r.cacheEntries chunk).samples

/-- The frames of one chunk copied over the storage of a cache entry. -/
def copySamples (cfg : Config) (source destination : AudioBuffer S) : AudioBuffer S :=
  { destination with
    sample := fun channel frame =>
      if 0 ≤ channel ∧ channel < cfg.audio.channelCount ∧ 0 ≤ frame ∧ frame < chunkFrames then
        source.sample channel frame
      else destination.sample channel frame }

/-- Write a chunk that still has its current version. -/
def store (cfg : Config) (chunk version : Int) (samples : AudioBuffer S) (r : RenderState S) :
    Bool × RenderState S :=
  if chunk < 0 ∨ chunk ≥ cfg.chunkCount then (false, r)
  else if version ≠ r.versions chunk ∨ samples.channelCount ≠ cfg.audio.channelCount ∨
      samples.frameCount ≠ chunkFrames then (false, r)
  else
    (true, { r with
      cacheEntries := Function.update r.cacheEntries chunk
        ⟨version, copySamples cfg samples (r.cacheEntries chunk).samples⟩
      history.stored := (chunk, version) :: r.history.stored })

end RenderCache

/-! ## ActiveRenderJobs -/

namespace ActiveRenderJobs

def hasCurrent (cfg : Config) (r : RenderState S) (chunk version : Int) : Bool :=
  if chunk < 0 ∨ chunk ≥ cfg.chunkCount then false
  else
    match r.activeJobs chunk with
    | none => false
    | some job => (r.jobs.job job).version = version && !(r.jobs.job job).cancelled

/-- Cancel the registered job of a chunk. -/
def cancel (cfg : Config) (chunk : Int) (r : RenderState S) : RenderState S :=
  if chunk < 0 ∨ chunk ≥ cfg.chunkCount then r
  else
    match r.activeJobs chunk with
    | none => r
    | some job => { r with jobs := r.jobs.cancel job }

/-- Register a new job for a chunk. -/
def create [Zero S] (cfg : Config) (chunk version : Int) (r : RenderState S) :
    Except String (JobId × RenderState S) :=
  if chunk < 0 ∨ chunk ≥ cfg.chunkCount then .error "chunk index is outside the timeline"
  else
    let r := cancel cfg chunk r
    let job := r.jobs.made
    .ok (job, { r with
      jobs := r.jobs.add (RenderState.newJob cfg chunk version)
      activeJobs := Function.update r.activeJobs chunk (some job) })

/-- One pass of the loop of `cancelAll`. -/
def cancelAndReset (chunk : Int) (r : RenderState S) : RenderState S :=
  match r.activeJobs chunk with
  | none => r
  | some job =>
    { r with
      jobs := r.jobs.cancel job
      activeJobs := Function.update r.activeJobs chunk none }

/-- Unregister a job; whether it was registered and not cancelled. -/
def finish (cfg : Config) (job : JobId) (r : RenderState S) : Bool × RenderState S :=
  let chunk := (r.jobs.job job).chunk
  if chunk < 0 ∨ chunk ≥ cfg.chunkCount then (false, r)
  else if r.activeJobs chunk ≠ some job then (false, r)
  else
    (!(r.jobs.job job).cancelled,
      { r with activeJobs := Function.update r.activeJobs chunk none })

end ActiveRenderJobs

end Anasa
