import Anasa.Model.Engine

/-!
# Sessions

The machine of an engine whose scheduler thread runs `schedulerLoop`, one step at a time in the
order of the loop, and whose owner starts and stops it.

1. The *scheduler* thread makes the steps of the loop. The phase says which step comes next.
2. The *client* is the owner: it posts commands, and `stop` stores on its thread what the running
   loop can see before the owner waits for the loop to return. What `stop` does after the wait is
   `finishStop`, on the scheduler thread because the loop has gone. The owner makes one call at a
   time, so it posts nothing while it waits.
3. Callbacks and workers are those of `engineMachine`.
-/

namespace Anasa

open Concurrency

variable {S : Type}

/-! ## The loop of the scheduler -/

namespace SchedulerLoop

/-- The loop goes on with the given phase. -/
def enter (phase : LoopPhase) : Prog (EngineState S) Unit :=
  .modify fun s => { s with loop.phase := phase }

/-- The loop ends if a shutdown is requested. -/
def enterUnlessShutdown (phase : LoopPhase) : Prog (EngineState S) Unit := do
  if ← Scheduler.shutdownRequested then
    enter .pause
  else
    enter phase

/-- One pass of the loop of `readCommands`. -/
def readCommands (cfg : Config) : Prog (EngineState S) Unit := do
  match ← .read (·.commandQueue.front) with
  | none => enter .breakCheck
  | some command =>
    .modify fun s => { s with
      commandQueue := s.commandQueue.pop
      schedulingHistory := s.schedulingHistory.handle command }
    Scheduler.handleCommand cfg command
    if ← Scheduler.shutdownRequested then
      enter .breakCheck

/-- One pass of the loop of `collectFinishedJobs`. -/
def collectFinishedJobs (cfg : Config) : Prog (EngineState S) Unit := do
  let popped ← .atomically fun s =>
    let (popped, r) := Scheduler.collectOne cfg s.render
    (popped, { s with render := r })
  if !popped then
    enter .feedAudioQueue

/-- One step of `schedulerLoop`; `refuses` is for the dispatch. -/
def step [Zero S] (cfg : Config) (refuses : ℕ → Bool) : LoopPhase → Prog (EngineState S) Unit
  | .stopped => return
  | .condition => enterUnlessShutdown .readCommands
  | .readCommands => readCommands cfg
  | .breakCheck => enterUnlessShutdown .collectFinishedJobs
  | .collectFinishedJobs => collectFinishedJobs cfg
  | .feedAudioQueue => do
    Scheduler.feedAudioQueue cfg
    enter .updateBackgroundAdmission
  | .updateBackgroundAdmission => do
    Scheduler.updateBackgroundAdmission cfg
    enter .scheduleRenderJobs
  | .scheduleRenderJobs => do
    Scheduler.scheduleRenderJobs cfg
    enter .dispatchPendingTiles
  | .dispatchPendingTiles => do
    Scheduler.dispatchPendingTiles cfg refuses
    enter .condition
  | .pause => do
    let _ ← PlaybackController.pause
    enter .returned
  | .returned => return

/-- The thread of the scheduler exists only while the scheduler is started. -/
def run [Zero S] (cfg : Config) (refuses : ℕ → Bool) : Prog (EngineState S) Unit := do
  if ← .read (·.sched.started) then
    step cfg refuses (← .read (·.loop.phase))

end SchedulerLoop

/-! ## The owner -/

namespace Owner

/-- `start`, which leaves a running loop behind. -/
def startLoop (start : Prog (EngineState S) Unit) : Prog (EngineState S) Unit := do
  if ← .read fun s => decide (s.loop = {}) then
    start
    if ← .read (·.sched.started) then
      SchedulerLoop.enter .condition

/-- The stores of `stop` before the owner waits for the loop. -/
def requestStop (scope : StopScope) : Prog (EngineState S) Unit := do
  if ← .read (·.loop.stopping.isNone) then
    match scope with
    | .scheduler =>
      if ← .read (·.sched.started) then
        .modify fun s => { s with
          sched.stopRequested := true
          loop.stopping := some .scheduler }
    | .engine =>
      if ← .read (·.engineStarted) then
        .modify fun s => { s with shared.stop := true }
        .modify fun s => { s with shared.playing := false }
        .modify fun s => { s with
          sched.stopRequested := s.sched.stopRequested || s.sched.started
          loop.stopping := some .engine }

/-- What `stop` does after the wait. -/
def cleanUp (cfg : Config) : StopScope → Prog (EngineState S) Unit
  | .scheduler => Scheduler.stop cfg
  | .engine => do
    Scheduler.stop cfg
    Executor.stop
    .modify fun s => { s with engineStarted := false }

/-- `stop` from the return of the loop on. -/
def finishStop (cfg : Config) : Prog (EngineState S) Unit := do
  let loop ← .read (·.loop)
  if loop.phase = .stopped ∨ loop.phase = .returned then
    match loop.stopping with
    | none => return
    | some scope =>
      cleanUp cfg scope
      .modify fun s => { s with loop := {} }

/-- The owner posts nothing while it waits for the loop. -/
def post (command : Command) : Prog (EngineState S) Unit := do
  if ← .read (·.loop.stopping.isNone) then
    let _ ← Scheduler.post command

end Owner

/-! ## Calls and runs -/

inductive SessionCall (S : Type) where
  | schedulerLoop (refuses : ℕ → Bool)
  | schedulerStart
  | engineStart
  | executorStart
  | executorStop
  | requestStop (scope : StopScope)
  | finishStop
  | post (command : Command)
  | processBlock (output : AudioOutputBuffer S)
  | workerLoop (worker : ℕ) (faults : RenderFaults)

namespace SessionCall

def thread : SessionCall S → ThreadId
  | .schedulerLoop _ => .scheduler
  | .schedulerStart => .scheduler
  | .engineStart => .scheduler
  | .executorStart => .scheduler
  | .executorStop => .scheduler
  | .requestStop _ => .client
  | .finishStop => .scheduler
  | .post _ => .client
  | .processBlock _ => .audio
  | .workerLoop worker _ => .worker worker

def program [Zero S] (cfg : Config) (kernel : RenderKernel S) :
    SessionCall S → Prog (EngineState S) Unit
  | .schedulerLoop refuses => SchedulerLoop.run cfg refuses
  | .schedulerStart => Owner.startLoop (Scheduler.start cfg)
  | .engineStart => Owner.startLoop (Engine.start cfg)
  | .executorStart => Executor.start
  | .executorStop => Executor.stop
  | .requestStop scope => Owner.requestStop scope
  | .finishStop => Owner.finishStop cfg
  | .post command => Owner.post command
  | .processBlock output => recordedCallback cfg output
  | .workerLoop worker faults => Executor.workerLoop cfg kernel faults worker

end SessionCall

/-- The threads of an engine with the loop of its scheduler. -/
def sessionMachine [Zero S] (cfg : Config) (kernel : RenderKernel S) :
    Machine ThreadId (SessionCall S) (EngineState S) :=
  ⟨SessionCall.thread, SessionCall.program cfg kernel⟩

abbrev SessionMove (S : Type) := Move ThreadId (SessionCall S)

/-- The pool reached from a constructed engine: every interleaving of accesses. -/
def sessionRun [Zero S] (cfg : Config) (kernel : RenderKernel S) (moves : List (SessionMove S)) :
    Pool ThreadId (EngineState S) :=
  Pool.run (sessionMachine cfg kernel) moves (Pool.idle (.init cfg))

end Anasa
