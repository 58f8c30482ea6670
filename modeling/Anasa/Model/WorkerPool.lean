import Anasa.Concurrency.EventSystem
import Anasa.Model.Executor

/-!
# The worker pool

`Executor` with the threads it makes and what they wait for: the mutex of the tasks, its condition
variable, and the joins of `stop`. What a thread does while it holds a mutex is one event, and so
is each wait, notification, thread creation and join between two of them. The tasks and jobs are
those of the rendering state, changed by the functions of `Executor`; a renderer is any
`ITileRenderer`, of which a worker sees whether it rendered the tile.
-/

namespace Anasa

open Concurrency

variable {S : Type}

/-- Where a worker is in `workerLoop`. -/
inductive WorkerPhase where
  /-- Before the predicate of the wait: the loop goes on, or the worker has been woken. -/
  | checking
  /-- Asleep on the condition variable. -/
  | waiting
  /-- Rendering a task, outside the mutex. -/
  | processing (task : RenderTask)
  /-- About to queue the completion of a job. -/
  | publishing (job : JobId)
  /-- The loop has returned, and the thread can be joined. -/
  | exited
  deriving DecidableEq, Repr

/-- Who called `stop`. -/
inductive StopCaller where
  | owner
  /-- `start`, because a thread could not be made. -/
  | start
  deriving DecidableEq, Repr

/-- Where the owner is in `start` or `stop`. -/
inductive OwnerPhase where
  /-- In neither. -/
  | idle
  /-- In `start`, before the completions of an older session are discarded. -/
  | discarding
  /-- In `start`, making the workers. -/
  | spawning
  /-- `start` has failed to make a worker and calls `stop`. -/
  | failing
  /-- In `stop`, before `notify_all`. -/
  | notifying (caller : StopCaller)
  /-- In `stop`, with so many workers joined. -/
  | joining (caller : StopCaller) (joined : ℕ)
  /-- In `stop`, with no worker left. -/
  | finishing (caller : StopCaller)
  deriving DecidableEq, Repr

/-- `stop` has made its request and not yet returned. -/
def OwnerPhase.stopping : OwnerPhase → Bool
  | .notifying _ => true
  | .joining _ _ => true
  | .finishing _ => true
  | _ => false

/-- How the latest call of `start` or `stop` ended. -/
inductive OwnerResult where
  | none
  | started
  | startFailed
  | stopped
  deriving DecidableEq, Repr

/-- History of the tasks since the latest start. -/
structure TaskHistory where
  accepted : List RenderTask := []
  taken : List RenderTask := []
  /-- Tasks processed, the latest first. -/
  processed : List RenderTask := []
  dropped : List RenderTask := []

structure WorkerPool (S : Type) where
  render : RenderState S
  /-- `_workers`. -/
  workers : List WorkerPhase := []
  /-- Tasks that are queued and whose `notify_one` is still to come. -/
  notifications : ℕ := 0
  owner : OwnerPhase := .idle
  result : OwnerResult := .none
  history : TaskHistory := {}

/-- One event of a worker pool. -/
inductive PoolEvent where
  | submit (task : RenderTask)
  /-- The `notify_one` of a submit, which wakes the given worker; `none` if nobody waits. -/
  | notifyOne (woken : Option ℕ)
  | popCompleted
  /-- A worker locks the mutex and looks at the predicate of its wait. -/
  | check (worker : ℕ)
  /-- A worker wakes without a notification. -/
  | wake (worker : ℕ)
  /-- A worker is done with its task; whether the tile was rendered. -/
  | process (worker : ℕ) (rendered : Bool)
  | publish (worker : ℕ)
  | start
  | stop
  /-- The owner goes on in `start` or `stop`; whether a thread could be made. -/
  | owner (made : Bool)
  deriving DecidableEq, Repr

namespace WorkerPool

variable (p : WorkerPool S)

/-- The owner has returned. -/
def endOwner (result : OwnerResult) : WorkerPool S := { p with owner := .idle, result }

/-- A worker goes on in the given phase. -/
def setWorker (worker : ℕ) (phase : WorkerPhase) : WorkerPool S :=
  { p with workers := p.workers.set worker phase }

@[simp] theorem setWorker_workers (worker : ℕ) (phase : WorkerPhase) :
    (p.setWorker worker phase).workers = p.workers.set worker phase := rfl

@[simp] theorem setWorker_render (worker : ℕ) (phase : WorkerPhase) :
    (p.setWorker worker phase).render = p.render := rfl

@[simp] theorem setWorker_notifications (worker : ℕ) (phase : WorkerPhase) :
    (p.setWorker worker phase).notifications = p.notifications := rfl

@[simp] theorem setWorker_owner (worker : ℕ) (phase : WorkerPhase) :
    (p.setWorker worker phase).owner = p.owner := rfl

@[simp] theorem setWorker_history (worker : ℕ) (phase : WorkerPhase) :
    (p.setWorker worker phase).history = p.history := rfl

/-! ## The scheduler -/

/-- A task that the queue accepts is pushed; its notification follows. An invalid task throws. -/
def submit (cfg : Config) (task : RenderTask) : WorkerPool S :=
  match Executor.submit cfg task p.render with
  | .error _ => p
  | .ok (false, _) => p
  | .ok (true, r) => { p with
      render := r
      notifications := p.notifications + 1
      history.accepted := p.history.accepted ++ [task] }

/-- `notify_one` wakes some waiting worker, if there is one. -/
def notifyOne : Option ℕ → Option (WorkerPool S)
  | none =>
    if 0 < p.notifications ∧ WorkerPhase.waiting ∉ p.workers then
      some { p with notifications := p.notifications - 1 }
    else none
  | some worker =>
    if 0 < p.notifications ∧ p.workers[worker]? = some .waiting then
      some { p.setWorker worker .checking with notifications := p.notifications - 1 }
    else none

def popCompleted : WorkerPool S :=
  match Executor.popCompleted p.render with
  | none => p
  | some (_, r) => { p with render := r }

/-! ## Workers -/

/-- The pass of `workerLoop` under the mutex: return, take a task or wait. -/
def check (worker : ℕ) : Option (WorkerPool S) :=
  if p.workers[worker]? = some .checking then
    if p.render.executor.stopRequested then some (p.setWorker worker .exited)
    else
      match Executor.takeTask worker p.render with
      | (none, _) => some (p.setWorker worker .waiting)
      | (some task, r) => some { p.setWorker worker (.processing task) with
          render := r
          history.taken := p.history.taken ++ [task] }
  else none

def wake (worker : ℕ) : Option (WorkerPool S) :=
  if p.workers[worker]? = some .waiting then some (p.setWorker worker .checking) else none

/-- `RenderTaskProcessor::process`, once the renderer has returned or thrown. -/
def process (worker : ℕ) (rendered : Bool) : Option (WorkerPool S) :=
  match p.workers[worker]? with
  | some (.processing task) =>
    -- A refused or failed tile cancels the job, but it is still accounted for.
    let r := if rendered then p.render
      else { p.render with jobs := p.render.jobs.cancel task.job }
    let (last, r) := RenderTaskProcessor.finishTile worker task rendered r
    some { p.setWorker worker (if last then .publishing task.job else .checking) with
      render := r
      history.processed := task :: p.history.processed }
  | _ => none

def publish (worker : ℕ) : Option (WorkerPool S) :=
  match p.workers[worker]? with
  | some (.publishing job) =>
    some { p.setWorker worker .checking with
      render := Executor.pushCompleted worker job p.render }
  | _ => none

/-! ## The owner -/

/-- What `start` does under the mutex. -/
def start : Option (WorkerPool S) :=
  if p.owner = .idle then
    if p.render.executor.started then some (p.endOwner .started)
    else some { p with
      render.executor.stopRequested := false
      render.executor.started := true
      owner := .discarding
      history := {} }
  else none

/-- Cancel and remove every task that has not started rendering. -/
def dropTasks (r : RenderState S) : RenderState S :=
  Nat.iterate Executor.dropTask r.executor.renderTasks.length r

/-- What `stop` does under the mutex when the executor is started. -/
def requestStop (caller : StopCaller) : WorkerPool S :=
  { p with
    render := dropTasks { p.render with executor.stopRequested := true }
    owner := .notifying caller
    history.dropped := p.history.dropped ++ p.render.executor.renderTasks }

def stop : Option (WorkerPool S) :=
  if p.owner = .idle then
    if p.render.executor.started then some (p.requestStop .owner)
    else some (p.endOwner .stopped)
  else none

/-- A worker that `notify_all` finds. -/
def notified : WorkerPhase → WorkerPhase
  | .waiting => .checking
  | phase => phase

/-- The next step of `start` or `stop`. -/
def ownerStep (cfg : Config) (made : Bool) : Option (WorkerPool S) :=
  match p.owner with
  | .idle => none
  | .discarding => some { p with render.executor.completedJobs := [], owner := .spawning }
  | .spawning =>
    if (p.workers.length : Int) < cfg.executor.workerCount then
      if made then some { p with workers := p.workers ++ [.checking] }
      else some { p with owner := .failing }
    else some (p.endOwner .started)
  | .failing => some (p.requestStop .start)
  | .notifying caller =>
    some { p with workers := p.workers.map notified, owner := .joining caller 0 }
  | .joining caller joined =>
    match p.workers[joined]? with
    | none => some { p with workers := [], owner := .finishing caller }
    | some .exited => some { p with owner := .joining caller (joined + 1) }
    -- The owner waits for the worker.
    | some _ => none
  | .finishing caller =>
    let p : WorkerPool S := { p with render.executor.started := false }
    some (p.endOwner (if caller = .owner then .stopped else .startFailed))

end WorkerPool

/-- The events of a worker pool. -/
def poolSystem (cfg : Config) : EventSystem (WorkerPool S) PoolEvent where
  next p
    | .submit task => some (p.submit cfg task)
    | .notifyOne woken => p.notifyOne woken
    | .popCompleted => some p.popCompleted
    | .check worker => p.check worker
    | .wake worker => p.wake worker
    | .process worker rendered => p.process worker rendered
    | .publish worker => p.publish worker
    | .start => p.start
    | .stop => p.stop
    | .owner made => p.ownerStep cfg made

/-- The states of the pool of an executor that has been constructed over the given jobs. -/
def PoolReachable (cfg : Config) (r : RenderState S) (p : WorkerPool S) : Prop :=
  r.executor = {} ∧ (poolSystem cfg).Reaches { render := r } p

end Anasa
