import Anasa.Concurrency.Pool
import Anasa.Model.AudioBlockProcessor
import Anasa.Model.Scheduler

/-!
# The engine and its threads

`Engine`, and the machine whose runs the theorems are about: the threads of an engine and the
calls they make.

1. The *scheduler* thread makes the calls of `schedulerLoop`, one after the other. Starting and
   stopping a component belongs to the same thread here, since `stop` joins the loop before it
   touches what the loop owns; what `Engine::stop` stores before the join is `requestStop`.
2. The *audio* thread makes callbacks.
3. The *client* posts commands and requests the stop of the engine.
4. *Workers* make passes of their loop.
-/

namespace Anasa

open Concurrency

variable {S : Type}

namespace Engine

/-- `AudioSimulator::start` only adds the audio thread. -/
def start (cfg : Config) : Prog (EngineState S) Unit := do
  if !(← .read (·.engineStarted)) then
    .modify fun s => { s with readyQueue := s.readyQueue.reset }
    .modify fun s => { s with shared.stop := false }
    .modify fun s => { s with shared.playing := false }
    Executor.start
    Scheduler.start cfg
    .modify fun s => { s with engineStarted := true }

/-- The stores of `stop` that the running threads can see before they are joined. -/
def requestStop : Prog (EngineState S) Unit := do
  if ← .read (·.engineStarted) then
    .modify fun s => { s with shared.stop := true }
    .modify fun s => { s with shared.playing := false }
    .modify fun s => { s with sched.stopRequested := true }

def stop (cfg : Config) : Prog (EngineState S) Unit := do
  if ← .read (·.engineStarted) then
    .modify fun s => { s with shared.stop := true }
    .modify fun s => { s with shared.playing := false }
    Scheduler.stop cfg
    Executor.stop
    .modify fun s => { s with engineStarted := false }

end Engine

/-! ## Threads and calls -/

inductive ThreadId where
  | scheduler
  | audio
  | client
  | worker (n : ℕ)
  deriving DecidableEq, Repr

/-- A call of the scheduler loop. -/
inductive SchedulerCall where
  | handleCommand (command : Command)
  /-- Read the given command, if it is the next one. -/
  | readCommand (command : Command)
  | readCommands (passes : ℕ)
  | collectFinishedJobs (passes : ℕ)
  | feedAudioQueue
  | updateBackgroundAdmission
  | scheduleRenderJobs
  | dispatchPendingTiles (refuses : ℕ → Bool)
  /-- What the loop does when it ends. -/
  | pause

/-- A call that starts or stops a component or the engine. -/
inductive LifecycleCall where
  | schedulerStart
  | schedulerStop
  | executorStart
  | executorStop
  | engineStart
  | engineStop
  deriving DecidableEq, Repr

inductive Call (S : Type) where
  | scheduler (call : SchedulerCall)
  | lifecycle (call : LifecycleCall)
  | post (command : Command)
  | requestStop
  | processBlock (output : AudioOutputBuffer S)
  | workerLoop (worker : ℕ) (faults : RenderFaults)

/-- Pass the next command to `handleCommand`, if it is the given one. -/
def Scheduler.readCommand (cfg : Config) (command : Command) : Prog (EngineState S) Unit := do
  if ← .read (·.commandQueue.front == some command) then
    .modify fun s => { s with commandQueue := s.commandQueue.pop }
    Scheduler.handleCommand cfg command

/-- A callback, and a record of its result with the frame it asked for. -/
def recordedCallback [Zero S] (cfg : Config) (output : AudioOutputBuffer S) :
    Prog (EngineState S) Unit := do
  let (result, _) ← AudioBlockProcessor.processBlock cfg output
  .modify fun s => { s with
    history.callbacks :=
      (s.audio.expectedBlockStartFrame - (if result.playing then cfg.audio.audioBlockFrames else 0),
        result) :: s.history.callbacks }

def SchedulerCall.program [Zero S] (cfg : Config) : SchedulerCall → Prog (EngineState S) Unit
  | .handleCommand command => Scheduler.handleCommand cfg command
  | .readCommand command => Scheduler.readCommand cfg command
  | .readCommands passes => Scheduler.readCommands cfg passes
  | .collectFinishedJobs passes => Scheduler.collectFinishedJobs cfg passes
  | .feedAudioQueue => Scheduler.feedAudioQueue cfg
  | .updateBackgroundAdmission => Scheduler.updateBackgroundAdmission cfg
  | .scheduleRenderJobs => Scheduler.scheduleRenderJobs cfg
  | .dispatchPendingTiles refuses => Scheduler.dispatchPendingTiles cfg refuses
  | .pause => do
    let _ ← PlaybackController.pause

def LifecycleCall.program (cfg : Config) : LifecycleCall → Prog (EngineState S) Unit
  | .schedulerStart => Scheduler.start cfg
  | .schedulerStop => Scheduler.stop cfg
  | .executorStart => Executor.start
  | .executorStop => Executor.stop
  | .engineStart => Engine.start cfg
  | .engineStop => Engine.stop cfg

namespace Call

def thread : Call S → ThreadId
  | .scheduler _ => .scheduler
  | .lifecycle _ => .scheduler
  | .post _ => .client
  | .requestStop => .client
  | .processBlock _ => .audio
  | .workerLoop worker _ => .worker worker

/-- The loop of the scheduler exists only while the scheduler is started. -/
def program [Zero S] (cfg : Config) (kernel : RenderKernel S) :
    Call S → Prog (EngineState S) Unit
  | .scheduler call => do
    if ← .read (·.sched.started) then
      call.program cfg
  | .lifecycle call => call.program cfg
  | .post command => do
    let _ ← Scheduler.post command
  | .requestStop => Engine.requestStop
  | .processBlock output => recordedCallback cfg output
  | .workerLoop worker faults => Executor.workerLoop cfg kernel faults worker

end Call

/-- The threads of an engine with their calls. -/
def engineMachine [Zero S] (cfg : Config) (kernel : RenderKernel S) :
    Machine ThreadId (Call S) (EngineState S) :=
  ⟨Call.thread, Call.program cfg kernel⟩

abbrev EnginePool (S : Type) := Pool ThreadId (EngineState S)

abbrev EngineMove (S : Type) := Move ThreadId (Call S)

/-- The pool reached from a constructed engine: every interleaving of accesses. -/
def engineRun [Zero S] (cfg : Config) (kernel : RenderKernel S) (moves : List (EngineMove S)) :
    EnginePool S :=
  Pool.run (engineMachine cfg kernel) moves (Pool.idle (.init cfg))

/-! ## Runs with atomic steps -/

/-- The calls of an engine whose components are started and stopped by the engine only. -/
def Call.engineLevel : Call S → Bool
  | .lifecycle .engineStart => true
  | .lifecycle .engineStop => true
  | .lifecycle _ => false
  | _ => true

/-- A call of an engine whose components are started and stopped by the engine only. -/
abbrev EngineCall (S : Type) := { c : Call S // c.engineLevel = true }

/-- The pool reached from a constructed engine that starts and stops its components itself: every
interleaving of accesses. -/
def engineLevelRun [Zero S] (cfg : Config) (kernel : RenderKernel S)
    (moves : List (Move ThreadId (EngineCall S))) : EnginePool S :=
  Pool.run ((engineMachine cfg kernel).restrict Subtype.val) moves (Pool.idle (.init cfg))

/-- Calls are atomic, but for those of workers. -/
def atomicMove : EngineMove S → Bool
  | .whole call => call.engineLevel
  | .start (.workerLoop _ _) => true
  | .start _ => false
  | .access (.worker _) => true
  | .access _ => false

/-- A step of a run in which scheduler steps and audio callbacks are atomic. -/
abbrev AtomicStep (S : Type) := { m : EngineMove S // atomicMove m = true }

namespace AtomicStep

def engineStart : AtomicStep S := ⟨.whole (.lifecycle .engineStart), rfl⟩

/-- A function of the scheduler as one step. -/
def scheduler (call : SchedulerCall) : AtomicStep S := ⟨.whole (.scheduler call), rfl⟩

/-- A pass of the loop of a worker as one step. -/
def workerLoop (worker : ℕ) (faults : RenderFaults) : AtomicStep S :=
  ⟨.whole (.workerLoop worker faults), rfl⟩

end AtomicStep

/-- The pool reached from a constructed engine by atomic steps. -/
def atomicRun [Zero S] (cfg : Config) (kernel : RenderKernel S) (steps : List (AtomicStep S)) :
    EnginePool S :=
  engineRun cfg kernel (steps.map Subtype.val)

end Anasa
