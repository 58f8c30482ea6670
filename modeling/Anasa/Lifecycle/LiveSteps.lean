import Anasa.Device.ClockInvariant
import Anasa.Execution.PoolSteps
import Anasa.Model.EngineThreads

/-!
# What the events of an engine do

`LiveStep` lists what each event may do, with what it depends on, and `liveSystem_step` says that the
list is complete. An event of a component appears as an event of its own system.
-/

namespace Anasa

open Concurrency LiveEngine

variable {S : Type} {cfg : Config} {period : ℤ}

/-- The owner is in a call of the executor. -/
def EnginePhase.inExecutor : EnginePhase → Bool
  | .inExecutorStart => true
  | .inExecutorStop _ => true
  | _ => false

/-- **What each event may do.** -/
inductive LiveStep (cfg : Config) (period : ℤ) (e : LiveEngine S) : LiveEvent → LiveEngine S → Prop
    where
  | startsAgain (hphase : e.phase = .idle) (hstarted : e.started = true) :
    LiveStep cfg period e .start (e.endOwner .started)
  | starts (hphase : e.phase = .idle) (hstopped : e.started = false) :
    LiveStep cfg period e .start { e with
      simulator.engineStop := false
      playing := false
      phase := .executorStart }
  | stopsAgain (hphase : e.phase = .idle) (hstopped : e.started = false) :
    LiveStep cfg period e .stop (e.endOwner .stopped)
  | stops (hphase : e.phase = .idle) (hstarted : e.started = true) :
    LiveStep cfg period e .stop (e.requestStop.enter (.schedulerStop .owner))
  | callsExecutorStart (made : Bool) (executor : WorkerPool S) (hphase : e.phase = .executorStart)
    (hstep : (poolSystem cfg).next e.executor .start = some executor) :
    LiveStep cfg period e (.owner made) { e with executor, phase := .inExecutorStart }
  | inExecutor (made : Bool) (executor : WorkerPool S) (hphase : e.phase.inExecutor = true)
    (howner : e.executor.owner ≠ .idle)
    (hstep : (poolSystem cfg).next e.executor (.owner made) = some executor) :
    LiveStep cfg period e (.owner made) { e with executor }
  | executorStarted (made : Bool) (hphase : e.phase = .inExecutorStart)
    (howner : e.executor.owner = .idle) (hresult : e.executor.result = .started) :
    LiveStep cfg period e (.owner made) (e.enter .schedulerStart)
  | executorFailed (made : Bool) (hphase : e.phase = .inExecutorStart)
    (howner : e.executor.owner = .idle) (hresult : e.executor.result ≠ .started) :
    LiveStep cfg period e (.owner made) (e.enter .failed)
  | schedulerStarted (made : Bool) (hphase : e.phase = .schedulerStart)
    (hstarted : e.scheduler.started = true) :
    LiveStep cfg period e (.owner made) (e.enter .simulatorStart)
  | schedulerStarts (hphase : e.phase = .schedulerStart) (hstopped : e.scheduler.started = false) :
    LiveStep cfg period e (.owner true) { e with
      scheduler.thread := some (.checkingStop .loop)
      scheduler.stopRequested := false
      scheduler.started := true
      phase := .simulatorStart }
  | schedulerFails (hphase : e.phase = .schedulerStart) (hstopped : e.scheduler.started = false) :
    LiveStep cfg period e (.owner false)
      { e with scheduler.stopRequested := true, phase := .failed }
  | simulatorStarts (made : Bool) (simulator : AudioSimulator) (hphase : e.phase = .simulatorStart)
    (hstep : e.simulator.act period (.start made) = some simulator)
    (hstarted : simulator.started = true) :
    LiveStep cfg period e (.owner made)
      { e with simulator, started := true, phase := .idle, result := .started }
  | simulatorFails (made : Bool) (simulator : AudioSimulator) (hphase : e.phase = .simulatorStart)
    (hstep : e.simulator.act period (.start made) = some simulator)
    (hstopped : simulator.started = false) :
    LiveStep cfg period e (.owner made) { e with simulator, phase := .failed }
  | handlesFailure (made : Bool) (hphase : e.phase = .failed) :
    LiveStep cfg period e (.owner made) (e.requestStop.enter (.schedulerStop .start))
  | stopsScheduler (made : Bool) (caller : StopCaller) (hphase : e.phase = .schedulerStop caller)
    (hstarted : e.scheduler.started = true) :
    LiveStep cfg period e (.owner made)
      { e with scheduler.stopRequested := true, phase := .schedulerJoin caller }
  | skipsScheduler (made : Bool) (caller : StopCaller) (hphase : e.phase = .schedulerStop caller)
    (hstopped : e.scheduler.started = false) :
    LiveStep cfg period e (.owner made) (e.enter (.simulatorStop caller))
  | joinsScheduler (made : Bool) (caller : StopCaller) (hphase : e.phase = .schedulerJoin caller)
    (hthread : e.scheduler.thread = none ∨ e.scheduler.thread = some .returned) :
    LiveStep cfg period e (.owner made) { e with
      scheduler := {
        thread := none
        stopRequested := e.scheduler.stopRequested
        started := false
        commandQueue :=
          Nat.iterate BoundedFifo.pop e.scheduler.commandQueue.contents.length
            e.scheduler.commandQueue }
      phase := .simulatorStop caller
      history.settled :=
        e.history.settled ++ e.scheduler.commandQueue.contents.map fun c => (c, false) }
  | stopsSimulator (made : Bool) (caller : StopCaller) (simulator : AudioSimulator)
    (hphase : e.phase = .simulatorStop caller)
    (hstep : e.simulator.act period .stop = some simulator) :
    LiveStep cfg period e (.owner made) { e with
      simulator
      phase := if simulator.stopping then .simulatorJoin caller else .executorStop caller }
  | joinsSimulator (made : Bool) (caller : StopCaller) (simulator : AudioSimulator)
    (hphase : e.phase = .simulatorJoin caller)
    (hstep : e.simulator.act period .join = some simulator) :
    LiveStep cfg period e (.owner made) { e with simulator, phase := .executorStop caller }
  | callsExecutorStop (made : Bool) (caller : StopCaller) (executor : WorkerPool S)
    (hphase : e.phase = .executorStop caller)
    (hstep : (poolSystem cfg).next e.executor .stop = some executor) :
    LiveStep cfg period e (.owner made) { e with executor, phase := .inExecutorStop caller }
  | finishes (made : Bool) (caller : StopCaller) (hphase : e.phase = .inExecutorStop caller)
    (howner : e.executor.owner = .idle) :
    LiveStep cfg period e (.owner made) (e.finish caller)
  | refusesPost (command : Command) (hphase : e.phase = .idle) :
    LiveStep cfg period e (.post command) e
  | posts (command : Command) (slot : Command) (rest : List Command) (hphase : e.phase = .idle)
    (haccepts : e.accepts = true) (hfree : e.scheduler.commandQueue.free = slot :: rest) :
    LiveStep cfg period e (.post command) { e with
      scheduler.commandQueue := ⟨e.scheduler.commandQueue.contents ++ [command], rest⟩
      history.posted := e.history.posted ++ [command] }
  | worker (event : PoolEvent) (executor : WorkerPool S) (hthread : event.ofThread = true)
    (hstep : (poolSystem cfg).next e.executor event = some executor) :
    LiveStep cfg period e (.worker event) { e with executor }
  | findsStop (rebuffer : Bool) (check : ShutdownCheck)
    (hthread : e.scheduler.thread = some (.checkingStop check) ∨
      e.scheduler.thread = some (.checkingEngine check))
    (hstop : e.scheduler.stopRequested = true ∨ e.simulator.engineStop = true) :
    LiveStep cfg period e (.scheduler rebuffer) (e.setScheduler check.found)
  | checksEngine (rebuffer : Bool) (check : ShutdownCheck)
    (hthread : e.scheduler.thread = some (.checkingStop check))
    (hgoing : e.scheduler.stopRequested = false) :
    LiveStep cfg period e (.scheduler rebuffer) (e.setScheduler (.checkingEngine check))
  | goesOn (rebuffer : Bool) (check : ShutdownCheck)
    (hthread : e.scheduler.thread = some (.checkingEngine check))
    (hgoing : e.simulator.engineStop = false) :
    LiveStep cfg period e (.scheduler rebuffer) (e.setScheduler check.notFound)
  | readsNothing (rebuffer : Bool) (hthread : e.scheduler.thread = some .reading)
    (hnone : e.scheduler.commandQueue.contents = []) :
    LiveStep cfg period e (.scheduler rebuffer) (e.setScheduler (.checkingStop .commandsRead))
  | handlesCommand (rebuffer : Bool) (command : Command) (rest : List Command)
    (hthread : e.scheduler.thread = some .reading)
    (hcommands : e.scheduler.commandQueue.contents = command :: rest) :
    LiveStep cfg period e (.scheduler rebuffer)
      ((e.handleCommand command rebuffer).setScheduler (.checkingStop .command))
  | endsPass (rebuffer : Bool) (hthread : e.scheduler.thread = some .working)
    (hnotified : e.executor.notifications = 0) :
    LiveStep cfg period e (.scheduler rebuffer) (e.setScheduler (.checkingStop .loop))
  | pauses (rebuffer : Bool) (hthread : e.scheduler.thread = some .pausing) :
    LiveStep cfg period e (.scheduler rebuffer) { e.setScheduler .returned with playing := false }
  | submits (task : RenderTask) (executor : WorkerPool S) (hworking : e.Working)
    (hstep : (poolSystem cfg).next e.executor (.submit task) = some executor) :
    LiveStep cfg period e (.submit task) { e with executor }
  | pops (executor : WorkerPool S) (hworking : e.Working)
    (hstep : (poolSystem cfg).next e.executor .popCompleted = some executor) :
    LiveStep cfg period e .popCompleted { e with executor }
  | plays (playing : Bool) (hworking : e.Working) :
    LiveStep cfg period e (.play playing) { e with playing }
  | clock (elapsed : ℕ) (result : AudioProcessResult) (simulator : AudioSimulator)
    (hstep : (simulatorSystem period).next e.simulator ⟨elapsed, .clock result⟩ = some simulator) :
    LiveStep cfg period e (.clock elapsed result) { e with simulator }

variable {e e' : LiveEngine S}

theorem schedulerStep_step {rebuffer : Bool} (h : e.schedulerStep rebuffer = some e') :
    LiveStep cfg period e (.scheduler rebuffer) e' := by
  unfold LiveEngine.schedulerStep at h
  split at h
  · cases h
  · rename_i check hthread
    cases h
    by_cases hstop : e.scheduler.stopRequested = true
    · rw [if_pos hstop]
      exact .findsStop rebuffer check (.inl hthread) (.inl hstop)
    · rw [if_neg hstop]
      exact .checksEngine rebuffer check hthread (Bool.eq_false_iff.mpr hstop)
  · rename_i check hthread
    cases h
    by_cases hstop : e.simulator.engineStop = true
    · rw [if_pos hstop]
      exact .findsStop rebuffer check (.inr hthread) (.inr hstop)
    · rw [if_neg hstop]
      exact .goesOn rebuffer check hthread (Bool.eq_false_iff.mpr hstop)
  · rename_i hthread
    split at h
    · rename_i hnone
      cases h
      exact .readsNothing rebuffer hthread (List.head?_eq_none_iff.mp hnone)
    · rename_i command hcommand
      cases h
      obtain ⟨rest, hcommands⟩ := List.head?_eq_some_iff.mp hcommand
      exact .handlesCommand rebuffer command rest hthread hcommands
  · rename_i hthread
    split at h
    · rename_i hnotified
      cases h
      exact .endsPass rebuffer hthread hnotified
    · cases h
  · rename_i hthread
    cases h
    exact .pauses rebuffer hthread
  · cases h

theorem startScheduler_step {made : Bool} (hphase : e.phase = .schedulerStart) :
    LiveStep cfg period e (.owner made) (e.startScheduler made) := by
  unfold LiveEngine.startScheduler
  by_cases hstarted : e.scheduler.started = true
  · rw [if_pos hstarted]
    exact .schedulerStarted made hphase hstarted
  · rw [if_neg hstarted]
    have hstopped := Bool.eq_false_iff.mpr hstarted
    cases made with
    | true => exact .schedulerStarts hphase hstopped
    | false => exact .schedulerFails hphase hstopped

theorem startSimulator_step {made : Bool} (hphase : e.phase = .simulatorStart)
    (h : e.startSimulator made = some e') : LiveStep cfg period e (.owner made) e' := by
  obtain ⟨simulator, hstart, rfl⟩ := Option.map_eq_some_iff.mp h
  dsimp only
  by_cases hstarted : simulator.started = true
  · rw [if_pos hstarted]
    exact .simulatorStarts made simulator hphase hstart hstarted
  · rw [if_neg hstarted]
    exact .simulatorFails made simulator hphase hstart (Bool.eq_false_iff.mpr hstarted)

theorem stopScheduler_step {made : Bool} {caller : StopCaller}
    (hphase : e.phase = .schedulerStop caller) :
    LiveStep cfg period e (.owner made) (e.stopScheduler caller) := by
  unfold LiveEngine.stopScheduler
  by_cases hstarted : e.scheduler.started = true
  · rw [if_pos hstarted]
    exact .stopsScheduler made caller hphase hstarted
  · rw [if_neg hstarted]
    exact .skipsScheduler made caller hphase (Bool.eq_false_iff.mpr hstarted)

/-- The owner goes on in a call of the executor. -/
theorem inExecutor_step {made : Bool} (hphase : e.phase.inExecutor = true)
    (howner : e.executor.owner ≠ .idle)
    (h : ((e.executor.ownerStep cfg made).map fun executor => { e with executor }) = some e') :
    LiveStep cfg period e (.owner made) e' := by
  obtain ⟨executor, hstep, rfl⟩ := Option.map_eq_some_iff.mp h
  exact .inExecutor made executor hphase howner hstep

theorem liveOwnerStep_step {made : Bool} (h : e.ownerStep cfg made = some e') :
    LiveStep cfg period e (.owner made) e' := by
  unfold LiveEngine.ownerStep at h
  split at h
  · cases h
  · rename_i hphase
    obtain ⟨executor, hstart, rfl⟩ := Option.map_eq_some_iff.mp h
    exact .callsExecutorStart made executor hphase hstart
  · rename_i hphase
    split at h
    · rename_i howner
      cases h
      by_cases hresult : e.executor.result = .started
      · rw [if_pos hresult]
        exact .executorStarted made hphase howner hresult
      · rw [if_neg hresult]
        exact .executorFailed made hphase howner hresult
    · rename_i howner
      exact inExecutor_step (by rw [hphase]; rfl) howner h
  · rename_i hphase
    cases h
    exact startScheduler_step hphase
  · rename_i hphase
    exact startSimulator_step hphase h
  · rename_i hphase
    cases h
    exact .handlesFailure made hphase
  · rename_i caller hphase
    cases h
    exact stopScheduler_step hphase
  · rename_i caller hphase
    unfold LiveEngine.joinScheduler at h
    split at h
    · rename_i hthread
      cases h
      exact .joinsScheduler made caller hphase hthread
    · cases h
  · rename_i caller hphase
    obtain ⟨simulator, hstop, rfl⟩ := Option.map_eq_some_iff.mp h
    exact .stopsSimulator made caller simulator hphase hstop
  · rename_i caller hphase
    obtain ⟨simulator, hjoin, rfl⟩ := Option.map_eq_some_iff.mp h
    exact .joinsSimulator made caller simulator hphase hjoin
  · rename_i caller hphase
    obtain ⟨executor, hstop, rfl⟩ := Option.map_eq_some_iff.mp h
    exact .callsExecutorStop made caller executor hphase hstop
  · rename_i caller hphase
    split at h
    · rename_i howner
      cases h
      exact .finishes made caller hphase howner
    · rename_i howner
      exact inExecutor_step (by rw [hphase]; rfl) howner h

theorem post_step {command : Command} (h : e.post command = some e') :
    LiveStep cfg period e (.post command) e' := by
  unfold LiveEngine.post at h
  split at h
  · rename_i hphase
    split at h
    · rename_i haccepts
      unfold BoundedFifo.pushWith at h
      cases hfree : e.scheduler.commandQueue.free with
      | nil =>
        rw [hfree] at h
        cases h
        exact .refusesPost command hphase
      | cons slot rest =>
        rw [hfree] at h
        cases h
        exact .posts command slot rest hphase haccepts hfree
    · cases h
      exact .refusesPost command hphase
  · cases h

/-- The list is complete. -/
theorem liveSystem_step {event : LiveEvent} (h : (liveSystem cfg period).next e event = some e') :
    LiveStep cfg period e event e' := by
  cases event with
  | start =>
    change e.start = some e' at h
    unfold LiveEngine.start at h
    split at h
    · rename_i hphase
      split at h
      · rename_i hstarted
        cases h
        exact .startsAgain hphase hstarted
      · rename_i hstopped
        cases h
        exact .starts hphase (Bool.eq_false_iff.mpr hstopped)
    · cases h
  | stop =>
    change e.stop = some e' at h
    unfold LiveEngine.stop at h
    split at h
    · rename_i hphase
      split at h
      · rename_i hstarted
        cases h
        exact .stops hphase hstarted
      · rename_i hstopped
        cases h
        exact .stopsAgain hphase (Bool.eq_false_iff.mpr hstopped)
    · cases h
  | owner made => exact liveOwnerStep_step h
  | post command => exact post_step h
  | worker event =>
    change (if event.ofThread = true then _ else none) = some e' at h
    split at h
    · rename_i hthread
      obtain ⟨executor, hstep, rfl⟩ := Option.map_eq_some_iff.mp h
      exact .worker event executor hthread hstep
    · cases h
  | scheduler rebuffer => exact schedulerStep_step h
  | submit task =>
    change (if e.Working then _ else none) = some e' at h
    split at h
    · rename_i hworking
      cases h
      exact .submits task _ hworking rfl
    · cases h
  | popCompleted =>
    change (if e.Working then _ else none) = some e' at h
    split at h
    · rename_i hworking
      cases h
      exact .pops _ hworking rfl
    · cases h
  | play playing =>
    change (if e.Working then _ else none) = some e' at h
    split at h
    · rename_i hworking
      cases h
      exact .plays playing hworking
    · cases h
  | clock elapsed result =>
    obtain ⟨simulator, hstep, rfl⟩ := Option.map_eq_some_iff.mp h
    exact .clock elapsed result simulator hstep

end Anasa
