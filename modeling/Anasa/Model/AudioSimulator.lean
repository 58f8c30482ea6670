import Anasa.Concurrency.EventSystem
import Anasa.Model.State

/-!
# The audio simulator

`AudioSimulator`: its owner, which starts and stops it, and its thread, a device clock that calls
the processor once for each block period. Each load of a flag, each reading of the clock and each
callback is an event, and time passes before any of them; what an event costs, or how late the
operating system wakes the thread, is not limited. The processor is any `IAudioBlockProcessor`, of
which the simulator sees the result; the checksum of the output is left out.
-/

namespace Anasa

open Concurrency

/-- Where the thread looks for a stop. -/
inductive StopCheck where
  /-- The condition of the outer loop. -/
  | loop
  /-- After it has slept. -/
  | woken
  /-- The condition of the inner loop, which catches up. -/
  | catchUp
  deriving DecidableEq, Repr

/-- Where the thread is in `periodicAudioDeviceClock`. -/
inductive ClockPhase where
  /-- Before the first reading of the clock. -/
  | starting
  /-- Before the load of `_stopRequested`. -/
  | checkingStop (check : StopCheck)
  /-- Before the load of `_engineStop`. -/
  | checkingEngine (check : StopCheck)
  /-- In `sleep_until`. -/
  | sleeping
  /-- Before the reading of the clock that follows. -/
  | reading
  /-- Before a callback. -/
  | calling
  /-- In a callback that began at the given time. -/
  | processing (callbackStart : ℤ)
  | exited
  deriving DecidableEq, Repr

/-- A callback that has returned. -/
structure CallbackRecord where
  result : AudioProcessResult
  durationInUsecs : ℤ
  deriving DecidableEq

/-- History of the simulator. -/
structure ClockHistory where
  /-- When the thread read the clock first. -/
  startTime : ℤ := 0
  /-- When the callbacks of the latest session began, the latest first. -/
  begun : List ℤ := []
  /-- Callbacks that began since a stop was first requested in the latest session. -/
  begunLate : ℕ := 0
  /-- The callbacks of all sessions, the latest first. -/
  returned : List CallbackRecord := []

structure AudioSimulator where
  /-- What the clock shows, in nanoseconds. -/
  now : ℤ := 0
  /-- `_audioThread`, if it is joinable. -/
  thread : Option ClockPhase := none
  nextCallbackTime : ℤ := 0
  /-- `wakeTime`, once the thread has slept. -/
  wakeTime : Option ℤ := none
  stopRequested : Bool := false
  engineStop : Bool := false
  started : Bool := false
  /-- The owner is in `stop`, about to join. -/
  stopping : Bool := false
  callbacks : ℤ := 0
  underruns : ℤ := 0
  callbackMaxInUs : ℤ := 0
  history : ClockHistory := {}

inductive SimulatorAction where
  /-- The owner calls `start`; whether the thread can be made. -/
  | start (made : Bool)
  /-- The owner calls `stop`. -/
  | stop
  /-- The owner joins the thread. -/
  | join
  /-- The engine requests a stop. -/
  | requestEngineStop
  /-- The engine takes it back, before it starts the simulator. -/
  | clearEngineStop
  /-- The thread goes on; what the processor returns, if it was in a callback. -/
  | clock (result : AudioProcessResult)

/-- An event, and how long it took to happen. -/
structure SimulatorEvent where
  elapsed : ℕ
  action : SimulatorAction

namespace AudioSimulator

variable (s : AudioSimulator)

/-- A stop has been requested. -/
def stopFlag : Bool := s.stopRequested || s.engineStop

/-! ## The thread -/

/-- The thread goes on in the given phase. -/
def goOn (phase : ClockPhase) : AudioSimulator := { s with thread := some phase }

/-- A check has found a stop. -/
def leave : StopCheck → AudioSimulator
  | .loop => s.goOn .exited
  | .woken => s.goOn .exited
  | .catchUp => s.goOn (.checkingStop .loop)

/-- A check has found none. -/
def proceed : StopCheck → AudioSimulator
  | .loop => s.goOn .sleeping
  | .woken => s.goOn .reading
  | .catchUp => s.goOn .calling

/-- `audioCallback`, after the processor has returned. -/
def countCallback (result : AudioProcessResult) : AudioSimulator :=
  if !result.playing then s
  else
    let s := { s with callbacks := s.callbacks + 1 }
    if result.underrun then { s with underruns := s.underruns + 1 } else s

/-- The end of a pass of the inner loop. -/
def finishCallback (period callbackStart : ℤ) (result : AudioProcessResult) : AudioSimulator :=
  let callbackDurationInUsecs := (s.now - callbackStart) / 1000
  let s := s.countCallback result
  let s := { s with
    callbackMaxInUs := if s.callbackMaxInUs > callbackDurationInUsecs then s.callbackMaxInUs
      else callbackDurationInUsecs
    nextCallbackTime := s.nextCallbackTime + period
    history.returned := ⟨result, callbackDurationInUsecs⟩ :: s.history.returned }
  -- Catch up on the periods that were missed.
  if ∃ wakeTime ∈ s.wakeTime, s.nextCallbackTime ≤ wakeTime then s.goOn (.checkingStop .catchUp)
  else s.goOn (.checkingStop .loop)

/-- The next step of `periodicAudioDeviceClock`. -/
def clock (period : ℤ) (result : AudioProcessResult) : Option AudioSimulator :=
  match s.thread with
  | none => none
  | some .starting =>
    some { s.goOn (.checkingStop .loop) with
      nextCallbackTime := s.now + period
      history.startTime := s.now }
  | some (.checkingStop check) =>
    some (if s.stopRequested then s.leave check else s.goOn (.checkingEngine check))
  | some (.checkingEngine check) => some (if s.engineStop then s.leave check else s.proceed check)
  | some .sleeping => if s.nextCallbackTime ≤ s.now then some (s.goOn (.checkingStop .woken)) else none
  | some .reading => some { s.goOn .calling with wakeTime := some s.now }
  | some .calling =>
    some { s.goOn (.processing s.now) with
      history.begun := s.now :: s.history.begun
      history.begunLate := s.history.begunLate + if s.stopFlag then 1 else 0 }
  | some (.processing callbackStart) => some (s.finishCallback period callbackStart result)
  | some .exited => none

/-! ## The owner -/

def start (made : Bool) : Option AudioSimulator :=
  if s.stopping then none
  else if s.started then some s
  else
    let s := { s with stopRequested := false }
    if made then some { s.goOn .starting with
      wakeTime := none
      started := true
      history.begun := []
      history.begunLate := 0 }
    else some s

def stop : Option AudioSimulator :=
  if s.stopping then none
  else if !s.started then some s
  else some { s with stopRequested := true, stopping := true }

def join : Option AudioSimulator :=
  if s.stopping then
    match s.thread with
    | none => some { s with started := false, stopping := false }
    | some .exited => some { s with thread := none, started := false, stopping := false }
    -- The owner waits for the thread.
    | some _ => none
  else none

/-! ## Events -/

def act (period : ℤ) : SimulatorAction → Option AudioSimulator
  | .start made => s.start made
  | .stop => s.stop
  | .join => s.join
  | .requestEngineStop => some { s with engineStop := true }
  | .clearEngineStop => if s.started then none else some { s with engineStop := false }
  | .clock result => s.clock period result

/-- Some time passes. -/
def later (elapsed : ℕ) : AudioSimulator := { s with now := s.now + elapsed }

end AudioSimulator

/-- The events of a simulator whose blocks last for the given period. -/
def simulatorSystem (period : ℤ) : EventSystem AudioSimulator SimulatorEvent where
  next s e := (s.later e.elapsed).act period e.action

/-- The states of a simulator from its construction on. -/
def SimulatorReachable (period : ℤ) (s : AudioSimulator) : Prop :=
  ∃ now, (simulatorSystem period).Reaches { now } s

end Anasa
