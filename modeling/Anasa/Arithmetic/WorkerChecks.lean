import Anasa.Arithmetic.PlaybackChecks

/-!
# Workers pass their checks

Rendering a tile and the loop of a worker: the job is one of a chunk of the timeline, so its
frames fit, and its chunk is one of the version table.
-/

namespace Anasa

open Concurrency Prog

variable {S : Type} {cfg : AcceptedConfig}

/-- An access of a worker. -/
theorem agrees_worker {α : Type} {p : Prog (EngineState S) α} (hp : p.Preserves workerView) :
    Agrees cfg (fun _ => True) p (CheckedProg.plain p) := agrees_frames (worker_frameView hp)

theorem RenderCancellation.shouldCancel_agrees (job : JobId) :
    Agrees (S := S) cfg (fun _ => True) (shouldCancel job)
      (Checked.RenderCancellation.shouldCancel cfg job) := by
  refine (agrees_read _).bind fun _ _ => Agree.ite (fun _ => Agree.ret trivial) fun _ =>
    (agrees_read _).bind fun _ _ => Agree.ite (fun _ => Agree.ret trivial) fun _ =>
      Agree.read (fun s hs => ?_) fun _ _ => trivial
  rw [Checked.chunkIndex_eq (hs.jobs job)]
  rfl

namespace Renderer

/-- **The frame of a sample** fits. -/
theorem renderSample_agrees (kernel : RenderKernel S) (job : JobId) (channel : Int) {frame : Int}
    (h₀ : 0 ≤ frame) (h₁ : frame < chunkFrames) :
    Agrees cfg (fun _ => True) (renderSample kernel job channel frame)
      (Checked.Renderer.renderSample kernel job channel frame) := by
  have hcount := cfg.valid.chunkCount_eq
  have htotal := cfg.totalFrames_lt
  simp only [chunkFrames] at hcount h₁
  refine Agree.modify (fun s hs => ?_) fun s hs => hs.of_view ?_
  · obtain ⟨hchunk₀, hchunk₁⟩ := hs.jobs job
    simp (disch := omega) only [chunkFrames, Checked.mul_eq, Checked.add_eq, Checked.require_eq,
      Option.bind_eq_bind, Option.bind_some, Option.pure_def]
  · simp only [frameView, JobTable.setSample_origins]

theorem renderChannels_agrees (kernel : RenderKernel S) (faults : RenderFaults) (job : JobId)
    {frame : Int} (h₀ : 0 ≤ frame) (h₁ : frame < chunkFrames) (channels : List Int) :
    Agrees cfg (fun _ => True) (renderChannels kernel faults job frame channels)
      (Checked.Renderer.renderChannels kernel faults job frame channels) := by
  induction channels with
  | nil => exact Agree.ret trivial
  | cons channel rest ih =>
    exact Agree.ite (fun _ => Agree.ret trivial) fun _ =>
      (renderSample_agrees kernel job channel h₀ h₁).bind fun _ _ => ih

theorem periodicCheck_agrees (job : JobId) {frameInsideTile : Int} (h₀ : 0 ≤ frameInsideTile)
    (h₁ : frameInsideTile < chunkFrames) :
    Agrees (S := S) cfg (fun _ => True) (periodicCheck job frameInsideTile)
      (Checked.Renderer.periodicCheck cfg job frameInsideTile) := by
  simp only [chunkFrames] at h₁
  exact Agree.check (Checked.rem_eq h₀ (by omega) (by decide)) <|
    Agree.ite (fun _ => RenderCancellation.shouldCancel_agrees job) fun _ => Agree.ret trivial

/-- A worker that cancels the job and gives up. -/
theorem cancel_agrees (job : JobId) (result : Except String Bool) :
    Agrees (S := S) cfg (fun _ => True)
      (do
        cancelJob job
        return result)
      (do
        CheckedProg.plain (cancelJob job)
        return result) :=
  (agrees_worker (cancelJob_workerView job)).bind fun _ _ => Agree.ret trivial

theorem renderFrames_agrees (channelCount : Int) (kernel : RenderKernel S) (faults : RenderFaults)
    (job : JobId) {first : Int} (h₀ : 0 ≤ first) {frames : List Int}
    (hframes : ∀ frame ∈ frames, first ≤ frame ∧ frame < chunkFrames) :
    Agrees cfg (fun _ => True) (renderFrames channelCount kernel faults job first frames)
      (Checked.Renderer.renderFrames cfg channelCount kernel faults job first frames) := by
  induction frames with
  | nil => exact Agree.ret trivial
  | cons frame rest ih =>
    obtain ⟨hfirst, hlast⟩ := hframes frame List.mem_cons_self
    have hrest := ih fun f hf => hframes f (List.mem_cons_of_mem _ hf)
    have hbound : frame < 2048 := hlast
    refine Agree.check (Checked.sub_eq (by omega) (by omega)) <|
      (periodicCheck_agrees job (by omega) (by simp only [chunkFrames]; omega)).bind fun _ _ =>
        Agree.ite (fun _ => cancel_agrees job _) fun _ =>
          (renderChannels_agrees kernel faults job (by omega) hlast _).bind fun result _ => ?_
    cases result with
    | error e => exact Agree.ret trivial
    | ok u => exact hrest

theorem renderTile_agrees (kernel : RenderKernel S) (faults : RenderFaults) (job : JobId)
    (tileIndex : Int) :
    Agrees cfg (fun _ => True) (renderTile cfg kernel faults job tileIndex)
      (Checked.Renderer.renderTile cfg kernel faults job tileIndex) := by
  refine Agree.ite (fun _ => Agree.ret trivial) fun htile => (agrees_read _).bind fun j _ =>
    Agree.ite (fun _ => Agree.ret trivial) fun _ => Agree.ite (fun _ => Agree.ret trivial) fun _ =>
      (RenderCancellation.shouldCancel_agrees job).bind fun _ _ =>
        Agree.ite (fun _ => cancel_agrees job _) fun _ => ?_
  have htile₀ : 0 ≤ tileIndex ∧ tileIndex < 8 := by
    rw [tilesPerChunk_eq] at htile
    omega
  refine Agree.check (Checked.mul_eq (by simp only [tileFrames]; omega)
    (by simp only [tileFrames]; omega)) <| Agree.check (Checked.add_eq
      (by simp only [tileFrames]; omega) (by simp only [tileFrames]; omega)) <|
        (renderFrames_agrees _ kernel faults job (by simp only [tileFrames]; omega)
          fun frame hmem => ?_).bind fun result _ => ?_
  · obtain ⟨hfirst, hlast⟩ := mem_intRange.mp hmem
    exact ⟨hfirst, hlast.trans_le (min_le_right _ _)⟩
  · match result with
    | .error e => exact Agree.ret trivial
    | .ok false => exact Agree.ret trivial
    | .ok true =>
      exact (RenderCancellation.shouldCancel_agrees job).bind fun _ _ =>
        Agree.ite (fun _ => cancel_agrees job _) fun _ => Agree.ret trivial

end Renderer

theorem RenderTaskProcessor.process_agrees (kernel : RenderKernel S) (faults : RenderFaults)
    (worker : ℕ) (task : RenderTask) :
    Agrees cfg (fun _ => True) (process cfg kernel faults worker task)
      (Checked.RenderTaskProcessor.process cfg kernel faults worker task) := by
  have hrender : Agrees cfg (fun _ => True)
      (Anasa.renderTile cfg kernel faults task.job task.tileIndex)
      (Checked.renderTile cfg kernel faults task.job task.tileIndex) :=
    Agree.ite (fun _ => Agree.ret trivial) fun _ =>
      Renderer.renderTile_agrees kernel faults task.job task.tileIndex
  have hfailed : Agrees (S := S) cfg (fun _ => True) _ _ :=
    (agrees_worker (cancelJob_workerView task.job)).bind fun _ _ =>
      agrees_worker (finishTile_workerView worker task false)
  refine hrender.bind fun result _ => ?_
  match result with
  | .error e => exact hfailed
  | .ok false => exact hfailed
  | .ok true => exact agrees_worker (finishTile_workerView worker task true)

theorem Executor.workerLoop_agrees (kernel : RenderKernel S) (faults : RenderFaults)
    (worker : ℕ) : Agrees cfg (fun _ => True) (workerLoop cfg kernel faults worker)
      (Checked.Executor.workerLoop cfg kernel faults worker) := by
  refine (agrees_worker (preserves_atomically (takeTask_workerView worker))).bind fun task _ => ?_
  cases task with
  | none => exact Agree.ret trivial
  | some task =>
    exact (RenderTaskProcessor.process_agrees kernel faults worker task).bind fun _ _ =>
      Agree.ite (fun _ => agrees_modify fun _ => rfl) fun _ => Agree.ret trivial

end Anasa
