import Anasa.Model.AudioSimulator
import Anasa.Model.WorkerPool

/-!
# The threads of an engine

`Engine` with every thread that it makes: the workers of its executor, the thread of its scheduler
and the thread of its audio simulator. `start` and `stop` are steps of the owner, which makes one
call at a time, and any thread may fail to be made.

1. The executor is a `WorkerPool` and the simulator an `AudioSimulator`, changed by their functions
   alone. `_sharedState.stop` is the `engineStop` of the simulator, which holds a reference to it.
2. Of the scheduler, what it shares with the other threads is here: its flags, its commands, its
   tasks, and `_sharedState.playing`. Between the commands and the end of a pass it makes any calls
   of the executor, in any order.
-/

namespace Anasa

open Concurrency

variable {S : Type}

/-! ## The thread of the scheduler -/

/-- Where the thread calls `shutdownRequested`. -/
inductive ShutdownCheck where
  /-- The condition of `schedulerLoop`. -/
  | loop
  /-- After a command. -/
  | command
  /-- After `readCommands`. -/
  | commandsRead
  deriving DecidableEq, Repr

/-- Where the thread is in `schedulerLoop`. -/
inductive SchedulerPhase where
  /-- Before the load of `_stopRequested`. -/
  | checkingStop (check : ShutdownCheck)
  /-- Before the load of `_sharedState.stop`. -/
  | checkingEngine (check : ShutdownCheck)
  /-- Before it looks for a command. -/
  | reading
  /-- In the rest of the pass. -/
  | working
  /-- Before the `pause` after the loop. -/
  | pausing
  | returned
  deriving DecidableEq, Repr

structure SchedulerThread where
  /-- `_schedulerThread`, if it is joinable. -/
  thread : Option SchedulerPhase := none
  stopRequested : Bool := false
  started : Bool := false
  commandQueue : BoundedFifo Command

/-- Where a call of `shutdownRequested` leads if it finds one. -/
def ShutdownCheck.found : ShutdownCheck → SchedulerPhase
  | .loop => .pausing
  -- `readCommands` ends, and the loop looks again.
  | .command => .checkingStop .commandsRead
  | .commandsRead => .pausing

/-- Where it leads if it finds none. -/
def ShutdownCheck.notFound : ShutdownCheck → SchedulerPhase
  | .loop => .reading
  | .command => .reading
  | .commandsRead => .working

/-- The command stores `false` in `playing`; an edit does so if playback is to rebuffer. -/
def CommandType.suspends (rebuffer : Bool) : CommandType → Bool
  | .pause => true
  | .seek => true
  | .edit => rebuffer
  | _ => false

/-! ## The engine -/

/-- Where the owner is in `start` or `stop`; the caller says in which. -/
inductive EnginePhase where
  /-- In neither. -/
  | idle
  | executorStart
  /-- In `_executor.start()`. -/
  | inExecutorStart
  | schedulerStart
  | simulatorStart
  /-- In the handler of `start`. -/
  | failed
  | schedulerStop (caller : StopCaller)
  | schedulerJoin (caller : StopCaller)
  | simulatorStop (caller : StopCaller)
  | simulatorJoin (caller : StopCaller)
  | executorStop (caller : StopCaller)
  /-- In `_executor.stop()`. -/
  | inExecutorStop (caller : StopCaller)
  deriving DecidableEq, Repr

/-- History of the commands. -/
structure CommandHistory where
  /-- Commands that `post` has accepted. -/
  posted : List Command := []
  /-- Commands that have left the queue; whether they were handled, or removed by `stop`. -/
  settled : List (Command × Bool) := []

structure LiveEngine (S : Type) where
  executor : WorkerPool S
  scheduler : SchedulerThread
  simulator : AudioSimulator
  /-- `_sharedState.playing`. -/
  playing : Bool := false
  started : Bool := false
  phase : EnginePhase := .idle
  /-- How the latest call of `start` or `stop` ended. -/
  result : OwnerResult := .none
  history : CommandHistory := {}

inductive LiveEvent where
  | start
  | stop
  /-- The owner goes on in `start` or `stop`; whether a thread could be made. -/
  | owner (made : Bool)
  | post (command : Command)
  /-- A worker goes on, or a notification is made. -/
  | worker (event : PoolEvent)
  /-- The thread of the scheduler goes on; whether playback is to rebuffer. -/
  | scheduler (rebuffer : Bool)
  | submit (task : RenderTask)
  | popCompleted
  /-- The scheduler starts playback, or pauses it at the end of the timeline. -/
  | play (playing : Bool)
  /-- The thread of the simulator goes on. -/
  | clock (elapsed : ℕ) (result : AudioProcessResult)

/-- What workers and notifications do. -/
def PoolEvent.ofThread : PoolEvent → Bool
  | .notifyOne _ => true
  | .check _ => true
  | .wake _ => true
  | .process _ _ => true
  | .publish _ => true
  | _ => false

/-- What `metrics` returns; the checksum is left out of the simulator. -/
structure EngineMetrics where
  callbacks : ℤ
  underruns : ℤ
  callbackMaxInUs : ℤ
  deriving DecidableEq, Repr

namespace LiveEngine

variable (e : LiveEngine S)

/-- The owner goes on in the given phase. -/
def enter (phase : EnginePhase) : LiveEngine S := { e with phase }

/-- The owner has returned. -/
def endOwner (result : OwnerResult) : LiveEngine S := { e with phase := .idle, result }

/-- Set `_sharedState.stop` and clear `_sharedState.playing`. -/
def requestStop : LiveEngine S :=
  { e with simulator.engineStop := true, playing := false }

/-! ### Start -/

def start : Option (LiveEngine S) :=
  if e.phase = .idle then
    if e.started then some (e.endOwner .started)
    else some { e with
      simulator.engineStop := false
      playing := false
      phase := .executorStart }
  else none

/-- `_scheduler.start()`. -/
def startScheduler (made : Bool) : LiveEngine S :=
  if e.scheduler.started then e.enter .simulatorStart
  else if made then { e with
    scheduler.thread := some (.checkingStop .loop)
    scheduler.stopRequested := false
    scheduler.started := true
    phase := .simulatorStart }
  else { e with scheduler.stopRequested := true, phase := .failed }

/-- `_audioSimulator.start()`, and what follows it in `start`. -/
def startSimulator (made : Bool) : Option (LiveEngine S) :=
  (e.simulator.start made).map fun simulator =>
    let e : LiveEngine S := { e with simulator }
    if simulator.started then { e with started := true, phase := .idle, result := .started }
    else e.enter .failed

/-! ### Stop -/

def stop : Option (LiveEngine S) :=
  if e.phase = .idle then
    if e.started then some (e.requestStop.enter (.schedulerStop .owner))
    else some (e.endOwner .stopped)
  else none

/-- `_scheduler.stop()` before the join. -/
def stopScheduler (caller : StopCaller) : LiveEngine S :=
  if e.scheduler.started then
    { e with scheduler.stopRequested := true, phase := .schedulerJoin caller }
  else e.enter (.simulatorStop caller)

/-- `_scheduler.stop()` from the join on. -/
def joinScheduler (caller : StopCaller) : Option (LiveEngine S) :=
  if e.scheduler.thread = none ∨ e.scheduler.thread = some .returned then
    some { e with
      scheduler := {
        thread := none
        stopRequested := e.scheduler.stopRequested
        started := false
        commandQueue :=
          Nat.iterate BoundedFifo.pop e.scheduler.commandQueue.contents.length
            e.scheduler.commandQueue }
      phase := .simulatorStop caller
      history.settled :=
        e.history.settled ++ e.scheduler.commandQueue.contents.map fun c => (c, false) }
  -- The owner waits for the thread.
  else none

/-- `_audioSimulator.stop()` before the join. -/
def stopSimulator (caller : StopCaller) : Option (LiveEngine S) :=
  e.simulator.stop.map fun simulator =>
    { e with simulator, phase := if simulator.stopping then .simulatorJoin caller
      else .executorStop caller }

/-- The end of `stop`, or of the handler of `start`. -/
def finish : StopCaller → LiveEngine S
  | .owner => { e with started := false, phase := .idle, result := .stopped }
  | .start => e.endOwner .startFailed

/-! ### The owner -/

/-- The next step of `start` or `stop`. -/
def ownerStep (cfg : Config) (made : Bool) : Option (LiveEngine S) :=
  match e.phase with
  | .idle => none
  | .executorStart =>
    e.executor.start.map fun executor => { e with executor, phase := .inExecutorStart }
  | .inExecutorStart =>
    if e.executor.owner = .idle then
      some (e.enter (if e.executor.result = .started then .schedulerStart else .failed))
    else (e.executor.ownerStep cfg made).map fun executor => { e with executor }
  | .schedulerStart => some (e.startScheduler made)
  | .simulatorStart => e.startSimulator made
  | .failed => some (e.requestStop.enter (.schedulerStop .start))
  | .schedulerStop caller => some (e.stopScheduler caller)
  | .schedulerJoin caller => e.joinScheduler caller
  | .simulatorStop caller => e.stopSimulator caller
  | .simulatorJoin caller =>
    e.simulator.join.map fun simulator => { e with simulator, phase := .executorStop caller }
  | .executorStop caller =>
    e.executor.stop.map fun executor => { e with executor, phase := .inExecutorStop caller }
  | .inExecutorStop caller =>
    if e.executor.owner = .idle then some (e.finish caller)
    else (e.executor.ownerStep cfg made).map fun executor => { e with executor }

/-- `post` queues a command. -/
def accepts : Bool :=
  e.scheduler.started && !e.scheduler.stopRequested && !e.simulator.engineStop

def post (command : Command) : Option (LiveEngine S) :=
  if e.phase = .idle then
    if e.accepts then
      match e.scheduler.commandQueue.pushWith fun _ => command with
      | (true, commandQueue) => some { e with
          scheduler.commandQueue := commandQueue
          history.posted := e.history.posted ++ [command] }
      | (false, _) => some e
    else some e
  else none

/-- `metrics`; `none` if it throws. -/
def metrics : Option EngineMetrics :=
  if e.started then none
  else some ⟨e.simulator.callbacks, e.simulator.underruns, e.simulator.callbackMaxInUs⟩

/-! ### The scheduler -/

/-- The thread of the scheduler goes on in the given phase. -/
def setScheduler (phase : SchedulerPhase) : LiveEngine S :=
  { e with scheduler.thread := some phase }

/-- The command leaves the queue, and `handleCommand` does what the other threads can see. -/
def handleCommand (command : Command) (rebuffer : Bool) : LiveEngine S :=
  let e : LiveEngine S := { e with
    scheduler.commandQueue := e.scheduler.commandQueue.pop
    playing := e.playing && !command.type.suspends rebuffer
    history.settled := e.history.settled ++ [(command, true)] }
  if command.type = .stop then
    { e with simulator.engineStop := true, scheduler.stopRequested := true }
  else e

/-- The next step of `schedulerLoop`. -/
def schedulerStep (rebuffer : Bool) : Option (LiveEngine S) :=
  match e.scheduler.thread with
  | none => none
  | some (.checkingStop check) =>
    some (e.setScheduler
      (if e.scheduler.stopRequested then check.found else .checkingEngine check))
  | some (.checkingEngine check) =>
    some (e.setScheduler (if e.simulator.engineStop then check.found else check.notFound))
  | some .reading =>
    match e.scheduler.commandQueue.front with
    | none => some (e.setScheduler (.checkingStop .commandsRead))
    | some command =>
      some ((e.handleCommand command rebuffer).setScheduler (.checkingStop .command))
  | some .working =>
    -- A submit ends with its notification.
    if e.executor.notifications = 0 then some (e.setScheduler (.checkingStop .loop)) else none
  | some .pausing => some { e.setScheduler .returned with playing := false }
  | some .returned => none

/-- The thread of the scheduler is in the part of a pass that calls the executor, and in no call. -/
def Working : Prop :=
  e.scheduler.thread = some .working ∧ e.executor.notifications = 0

instance : Decidable e.Working := inferInstanceAs (Decidable (_ ∧ _))

end LiveEngine

/-- The events of an engine. -/
def liveSystem (cfg : Config) (period : ℤ) : EventSystem (LiveEngine S) LiveEvent where
  next e
    | .start => e.start
    | .stop => e.stop
    | .owner made => e.ownerStep cfg made
    | .post command => e.post command
    | .worker event =>
      if event.ofThread then
        ((poolSystem cfg).next e.executor event).map fun executor => { e with executor }
      else none
    | .scheduler rebuffer => e.schedulerStep rebuffer
    | .submit task =>
      if e.Working then some { e with executor := e.executor.submit cfg task } else none
    | .popCompleted =>
      if e.Working then some { e with executor := e.executor.popCompleted } else none
    | .play playing => if e.Working then some { e with playing } else none
    | .clock elapsed result =>
      ((simulatorSystem period).next e.simulator ⟨elapsed, .clock result⟩).map
        fun simulator => { e with simulator }

/-- An engine that has been constructed. -/
def LiveEngine.init (cfg : Config) (r : RenderState S) (now : ℤ) : LiveEngine S where
  executor := { render := r }
  scheduler := { commandQueue := .make cfg.scheduler.commandQueueSlots.toNat {} }
  simulator := { now }

/-- The states of an engine from its construction on. -/
def LiveReachable (cfg : Config) (period : ℤ) (e : LiveEngine S) : Prop :=
  ∃ r now, r.executor = {} ∧ (liveSystem cfg period).Reaches (.init cfg r now) e

end Anasa
