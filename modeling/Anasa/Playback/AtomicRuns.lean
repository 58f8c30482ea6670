import Anasa.Playback.Callbacks
import Anasa.Rendering.Discipline

/-!
# Runs with atomic steps

In a run whose scheduler steps and callbacks are atomic, both sides of the protocol are at rest
after every step, and `ReadyInv` holds: each call of an engine keeps it, and what the workers do
in between concerns neither the queue nor the content of the cache.
-/

namespace Anasa

open Concurrency

variable {S : Type} {cfg : Config} {kernel : RenderKernel S} {s : EngineState S}

/-! ## Lifecycle -/

namespace Scheduler

variable (cfg) in
theorem start_run (hi : AckInv cfg (cursorView s)) (hrest : CursorRests s)
    (hstopped : s.sched.started = false) :
    ∃ history schedulingHistory, (start cfg).run s = ((), { s with
      sched := { s.sched with
        playRequested := false
        backgroundAllowed := true
        nextFrameToPublish := position s
        stopRequested := false
        started := true
        pendingClassificationsDirty := true
        lastClassifiedPlayheadChunk := -1
        lastClassifiedUrgentChunkEnd := -1 }
      render.history := history
      schedulingHistory := schedulingHistory }) := by
  rw [start, Prog.run_bind, Prog.run_read, Prog.run_ite, if_pos (by simp [hstopped])]
  simp only [Prog.run_bind, Prog.run_modify, PlaybackController.resetPlayRequest]
  rw [PlaybackProtocol.currentFrame_run_rest]
  · exact ⟨_, _, rfl⟩
  · exact hi
  · exact hrest

theorem preserves_queueContentView {α : Type} {p : Prog (EngineState S) α}
    (hp : p.Preserves contentView) : p.Preserves queueContentView :=
  (preserves_readyView hp).mono fun _ _ h => (Prod.mk.inj h).1

variable (cfg) in
theorem stop_queueContentView :
    (stop cfg : Prog (EngineState S) Unit).Preserves queueContentView :=
  Prog.preserves_read_bind fun _ => Prog.preserves_ite
    (Prog.preserves_modify_bind (fun _ => rfl) fun _ => Prog.preserves_read_bind fun tiles =>
      (preserves_queueContentView (dropPendingTiles_contentView tiles)).bind fun _ =>
        Prog.preserves_read_bind fun commands =>
          (preserves_queueContentView (dropCommands_contentView commands)).bind fun _ =>
            (preserves_queueContentView (cancelAll_contentView cfg)).bind fun _ =>
              Prog.preserves_modify_bind (fun _ => rfl) fun _ =>
                Prog.preserves_modify fun _ => rfl)
    (Prog.preserves_pure _)

variable (cfg) in
theorem stop_started (s : EngineState S) : ((stop cfg).run s).2.sched.started = false := by
  rw [stop, Prog.run_bind, Prog.run_read, Prog.run_ite]
  split
  · simp only [Prog.run_bind, Prog.run_modify]
  · rename_i hstopped
    simpa using hstopped

end Scheduler

namespace Engine

/-- The engine starts with an empty queue and publishes from the position of the consumer. -/
theorem start_ready (hcfg : cfg.Valid) (h : ReadyInv cfg kernel s)
    (hi : CursorInv cfg (cursorView s)) (hrest : CursorRests s) :
    ReadyInv cfg kernel ((start cfg).run s).2 := by
  rw [start, Prog.run_bind, Prog.run_read, Prog.run_ite]
  split
  · rename_i hengine
    simp only [Bool.not_eq_true'] at hengine
    have hview := Executor.start_contentView.run { s with
      readyQueue := s.readyQueue.reset
      shared := { s.shared with stop := false, playing := false } }
    simp only [Prog.run_bind, Prog.run_modify]
    generalize (Executor.start.run { s with
      readyQueue := s.readyQueue.reset
      shared := { s.shared with stop := false, playing := false } }).2 = s₁ at hview ⊢
    have haudio := (Prod.mk.inj hview).1
    have hcursor := cursorView_of_audioView haudio
    have hstopped := (started_of_audioView haudio).1.trans (h.stopped hengine)
    obtain ⟨history, schedulingHistory, hrun⟩ := Scheduler.start_run cfg (hcursor ▸ hi.ack)
      (show CursorRests s₁ by rw [CursorRests, hcursor]; exact hrest) hstopped
    rw [hrun]
    have hqueue : s₁.readyQueue = s.readyQueue.reset := by
      have hq := queueView_of_audioView haudio
      simp only [queueView, Prod.mk.injEq] at hq
      exact hq.2.2.2
    have hempty : s₁.readyQueue.contents = [] := by rw [hqueue]; rfl
    refine ⟨⟨?_, (hcursor ▸ hi.ack : AckInv cfg (cursorView s₁)).position_boundary,
      show s₁.readyQueue.All (SlotShape cfg) from hqueue ▸ h.slots.reset,
      show s₁.readyQueue.capacity = _ by rw [hqueue, BoundedFifo.capacity_reset, h.capacity],
      fun hs => by cases hs⟩, fun b hb => ?_⟩
    · show ReadyOrder cfg s₁.shared.generation (position s₁) (position s₁) s₁.readyQueue.contents
      rw [hempty]
      exact .empty hcfg le_rfl
    · rw [show b ∈ s₁.readyQueue.contents ↔ b ∈ [] by rw [hempty]] at hb
      cases hb
  · exact h

theorem stop_ready (h : ReadyInv cfg kernel s) : ReadyInv cfg kernel ((stop cfg).run s).2 := by
  rw [stop, Prog.run_bind, Prog.run_read, Prog.run_ite]
  split
  · simp only [Prog.run_bind, Prog.run_modify]
    have hstop := (Scheduler.stop_queueContentView cfg).run
      { s with shared := { s.shared with stop := true, playing := false } }
    have hstopped := Scheduler.stop_started cfg
      { s with shared := { s.shared with stop := true, playing := false } }
    generalize ((Scheduler.stop cfg).run
      { s with shared := { s.shared with stop := true, playing := false } }).2 = s₁
      at hstop hstopped ⊢
    refine h.of_content ?_ fun _ => ?_
    · exact ((Scheduler.preserves_queueContentView Executor.stop_contentView).run s₁).trans (hstop.trans rfl)
    · have hview := (preserves_audioView Executor.stop_contentView).run s₁
      exact (started_of_audioView hview).1.trans hstopped
  · exact h

end Engine

/-! ## Every call -/

section

variable [Zero S]

theorem schedulerCall_ready (hcfg : cfg.Valid) (h : ReadyInv cfg kernel s)
    (hrender : RenderInv cfg kernel s.render) (hrest : AtRest cfg s) (call : SchedulerCall) :
    ReadyInv cfg kernel ((call.program cfg).run s).2 := by
  have hframe : (PlaybackProtocol.currentFrame cfg : Prog (EngineState S) Int).Preserves
      readyView := Prog.preserves_read_bind fun _ => Prog.preserves_atomically_bind (fun _ => rfl)
    fun _ => Prog.preserves_ite (Prog.preserves_read_bind fun _ => Prog.preserves_pure _)
      (Prog.preserves_atomically_bind (fun _ => rfl) fun _ => Prog.preserves_pure _)
  cases call with
  | handleCommand command => exact Scheduler.handleCommand_ready hcfg h hrest.inv command
  | readCommand command =>
    rw [SchedulerCall.program, Scheduler.readCommand, Prog.run_bind, Prog.run_read, Prog.run_ite]
    split
    · simp only [Prog.run_bind, Prog.run_modify]
      exact Scheduler.handleCommand_ready hcfg
        (s := { s with commandQueue := s.commandQueue.pop }) (h.of_view rfl) hrest.inv command
    · exact h
  | readCommands passes =>
    exact Scheduler.readCommands_ready hcfg passes h hrest.inv hrest.scheduler
  | collectFinishedJobs passes => exact Scheduler.collectFinishedJobs_ready passes h
  | feedAudioQueue =>
    exact Scheduler.feedAudioQueue_ready hcfg h hrender.cache hrest.inv.ack hrest.scheduler
  | updateBackgroundAdmission =>
    exact h.of_view ((Prog.preserves_read_bind fun _ => Prog.preserves_ite
      (Prog.preserves_modify fun _ => rfl) ((hframe.bind fun _ => Prog.preserves_read _).bind
        fun _ => Prog.preserves_modify fun _ => rfl) :
          (Scheduler.updateBackgroundAdmission cfg).Preserves readyView).run s)
  | scheduleRenderJobs =>
    exact h.of_view ((hframe.bind fun frame => preserves_readyView
      ((Scheduler.updateClassifications_contentView cfg frame).bind fun _ =>
        Scheduler.scheduleLoops_contentView cfg frame) :
          (Scheduler.scheduleRenderJobs cfg).Preserves readyView).run s)
  | dispatchPendingTiles refuses =>
    exact h.of_view ((preserves_readyView
      (Scheduler.dispatchPendingTiles_contentView cfg refuses)).run s)
  | pause => exact h.of_view rfl

theorem call_ready (hcfg : cfg.Valid) (h : ReadyInv cfg kernel s)
    (hrender : RenderInv cfg kernel s.render) (hrest : AtRest cfg s) (call : Call S)
    (hcall : call.engineLevel = true) :
    ReadyInv cfg kernel ((call.program cfg kernel).run s).2 := by
  cases call with
  | scheduler call =>
    rw [Call.program, Prog.run_bind, Prog.run_read, Prog.run_ite]
    split
    · exact schedulerCall_ready hcfg h hrender hrest call
    · exact h
  | lifecycle call =>
    cases call with
    | engineStart => exact Engine.start_ready hcfg h hrest.inv hrest.scheduler
    | engineStop => exact Engine.stop_ready h
    | schedulerStart => cases hcall
    | schedulerStop => cases hcall
    | executorStart => cases hcall
    | executorStop => cases hcall
  | post command =>
    exact h.of_view ((preserves_readyView ((Scheduler.post_contentView command).bind fun _ =>
      Prog.preserves_pure _)).run s)
  | requestStop =>
    exact h.of_view ((Prog.preserves_read_bind fun _ => Prog.preserves_ite
      (Prog.preserves_modify_bind (fun _ => rfl) fun _ => Prog.preserves_modify_bind (fun _ => rfl)
        fun _ => Prog.preserves_modify fun _ => rfl) (Prog.preserves_pure _) :
          Engine.requestStop.Preserves readyView).run s)
  | processBlock output =>
    rw [Call.program, recordedCallback, Prog.run_bind]
    exact (processBlock_ready hcfg h hrest output).of_view rfl
  | workerLoop worker faults =>
    exact h.of_view ((preserves_readyView
      (Executor.workerLoop_contentView cfg kernel faults worker)).run s)

end

/-! ## Every run -/

section

variable [Zero S]

/-- Only workers are interrupted. -/
theorem atomicRun_thread (cfg : Config) (kernel : RenderKernel S) (moves : List (EngineMove S))
    (hmoves : ∀ m ∈ moves, atomicMove m = true) {i : ThreadId} (hi : ∀ n, i ≠ .worker n) :
    (engineRun cfg kernel moves).thread i = none := by
  refine Pool.run_thread_idle rfl (fun call hcall => ?_) moves hmoves
  cases call with
  | workerLoop worker faults => exact fun h => hi worker h.symm
  | _ => cases hcall

/-- Both sides of the protocol are at rest after every step. -/
theorem atomicRun_atRest (cfg : AcceptedConfig) (kernel : RenderKernel S)
    (moves : List (EngineMove S)) (hmoves : ∀ m ∈ moves, atomicMove m = true) :
    AtRest cfg (engineRun cfg.toConfig kernel moves).state := by
  have hsound := cursorDiscipline_sound cfg kernel moves
  have hscheduler := hsound.thread .scheduler
  have haudio := hsound.thread .audio
  rw [atomicRun_thread cfg.toConfig kernel moves hmoves (by simp)] at hscheduler haudio
  exact ⟨hsound.inv, hscheduler, haudio⟩

theorem atomicRun_rest (cfg : AcceptedConfig) (kernel : RenderKernel S)
    (steps : List (AtomicStep S)) : AtRest cfg (atomicRun cfg.toConfig kernel steps).state :=
  atomicRun_atRest cfg kernel _ fun m hm => by
    obtain ⟨step, -, rfl⟩ := List.mem_map.mp hm
    exact step.2

/-- The queue is in order after every step. -/
theorem atomicMoves_ready (cfg : AcceptedConfig) (kernel : RenderKernel S)
    (moves : List (EngineMove S)) (hmoves : ∀ m ∈ moves, atomicMove m = true) :
    ReadyInv cfg.toConfig kernel (engineRun cfg.toConfig kernel moves).state := by
  refine (Pool.run_induction (v := readyView) (P := ReadyInv cfg.toConfig kernel)
    (Pool.busyPreserve_idle readyView _) (ReadyInv.init cfg.valid)
    (fun s s' hview h => h.of_view hview) (fun call hcall => ?_)
    (fun moves call hmoves hcall h => ?_) moves hmoves).2
  · cases call with
    | workerLoop worker faults =>
      exact preserves_readyView (Executor.workerLoop_contentView _ kernel faults worker)
    | _ => cases hcall
  · exact call_ready cfg.valid h (engineRun_renderInv cfg.toConfig kernel moves)
      (atomicRun_atRest cfg kernel moves hmoves) call hcall

/-- **The queue is in order** in every state of a run with atomic steps. -/
theorem atomicRun_ready (cfg : AcceptedConfig) (kernel : RenderKernel S)
    (steps : List (AtomicStep S)) :
    ReadyInv cfg.toConfig kernel (atomicRun cfg.toConfig kernel steps).state := by
  refine atomicMoves_ready cfg kernel _ fun m hm => ?_
  obtain ⟨step, -, rfl⟩ := List.mem_map.mp hm
  exact step.2

end

end Anasa
