import Anasa.Model.Renderer

/-!
# The executor

`Executor` and its workers. What a function does while it holds a mutex is one access, but for the
drain of the task queue in `stop`: it may be interleaved with renderers, which take no mutex, and
is one access for each task.

`stop` does not wait for the workers here. Waiting only removes interleavings, so what holds of
the model's runs holds of the code's; and any number of workers may run.
-/

namespace Anasa

open Concurrency

variable {S : Type}

namespace Executor

/-- Queue a task; `false` if the executor does not accept it. -/
def submit (cfg : Config) (task : RenderTask) (r : RenderState S) :
    Except String (Bool × RenderState S) :=
  if task.tileIndex < 0 ∨ task.tileIndex ≥ tilesPerChunk then
    .error "RenderTask tileIndex is outside the chunk"
  else if !r.executor.started || r.executor.stopRequested then .ok (false, r)
  else if (r.executor.renderTasks.length : Int) ≥ cfg.executor.renderTasksQueueCapacity then
    .ok (false, r)
  else
    .ok (true, { r with executor.renderTasks := r.executor.renderTasks ++ [task] })

def queuedTaskCount (r : RenderState S) : Int := r.executor.renderTasks.length

def workerCount (cfg : Config) : Int := cfg.executor.workerCount

/-- The oldest completion. -/
def popCompleted (r : RenderState S) : Option (JobId × RenderState S) :=
  match r.executor.completedJobs with
  | [] => none
  | job :: rest => some (job, { r with executor.completedJobs := rest })

/-- A worker takes the oldest task; none if there is none or the executor stops. -/
def takeTask (worker : ℕ) (r : RenderState S) : Option RenderTask × RenderState S :=
  if r.executor.stopRequested then (none, r)
  else
    match r.executor.renderTasks with
    | [] => (none, r)
    | task :: rest =>
      (some task, { r with
        executor.renderTasks := rest
        executor.rendering := (worker, task) :: r.executor.rendering })

/-- A worker queues the completion of a job whose last tile it finished. -/
def pushCompleted (worker : ℕ) (job : JobId) (r : RenderState S) : RenderState S :=
  { r with
    executor := { r.executor with
      publishing := r.executor.publishing.erase (worker, job)
      completedJobs := r.executor.completedJobs ++ [job] }
    history.published := (job, (r.jobs.job job).cancelled) :: r.history.published }

/-- One pass of the loop of a worker; with no task to take, the worker waits. -/
def workerLoop (cfg : Config) (kernel : RenderKernel S) (faults : RenderFaults) (worker : ℕ) :
    Prog (EngineState S) Unit := do
  let task ← .atomically fun s =>
    let (task, r) := takeTask worker s.render
    (task, { s with render := r })
  match task with
  | none => return
  | some task =>
    if ← RenderTaskProcessor.process cfg kernel faults worker task then
      .modify fun s => { s with render := pushCompleted worker task.job s.render }


/-- Begin a session of the executor and discard the completions of an older one. -/
def start : Prog (EngineState S) Unit := do
  let started ← .atomically fun s =>
    (s.render.executor.started,
      if s.render.executor.started then s
      else { s with render := { s.render with
        executor.stopRequested := false
        executor.started := true
        history := s.render.history.endSession s.render.jobs.made } })
  if !started then
    .modify fun s => { s with render.executor.completedJobs := [] }

/-- Cancel and remove one task that has not started rendering. -/
def dropTask (r : RenderState S) : RenderState S :=
  match r.executor.renderTasks with
  | [] => r
  | task :: rest => { r with
      jobs := r.jobs.cancel task.job
      executor.renderTasks := rest }

/-- Cancel and remove the tasks that have not started rendering. -/
def dropTasks : ℕ → Prog (EngineState S) Unit
  | 0 => return
  | n + 1 => do
    .modify fun s => { s with render := dropTask s.render }
    dropTasks n

def stop : Prog (EngineState S) Unit := do
  let (started, queued) ← .atomically fun s =>
    ((s.render.executor.started, s.render.executor.renderTasks.length),
      if s.render.executor.started then
        { s with render := { s.render with
          executor.stopRequested := true
          history := s.render.history.endSession s.render.jobs.made } }
      else s)
  if started then
    -- No task is accepted or taken any more, so those queued now are all.
    dropTasks queued
    .modify fun s => { s with render.executor.started := false }

end Executor

end Anasa
