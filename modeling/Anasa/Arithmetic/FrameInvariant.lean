import Anasa.Arithmetic.FrameBounds
import Anasa.Concurrency.CheckedProgram
import Anasa.Playback.Positions

/-!
# Where frames and chunks stand

`FrameInv` is what every access of every thread keeps: the positions that the threads share are
block boundaries, the chunks that are stored are those of the timeline, and the buffers have the
size of what is copied into them. No access relies on what other threads do.
-/

namespace Anasa

open Concurrency Prog

variable {S : Type}

structure FrameInv (cfg : Config) (s : EngineState S) : Prop where
  target : BlockBoundary cfg s.shared.targetFrame
  cursor : BlockBoundary cfg s.shared.nextUnconsumedFrame
  expected : BlockBoundary cfg s.audio.expectedBlockStartFrame
  next : BlockBoundary cfg s.sched.nextFrameToPublish
  viewportFirst : 0 ≤ s.sched.viewportFirstFrame
  viewportLast : s.sched.viewportLastFrame ≤ cfg.totalFrames
  scan : OnTimeline cfg s.sched.timelineScanCursorInChunks
  jobs : ∀ j, OnTimeline cfg (s.render.jobs.job j).chunk
  cache : ∀ chunk, CacheShape cfg (s.render.cacheEntries chunk).samples
  slots : s.readyQueue.All (SlotShape cfg)
  placed : ∀ b ∈ s.readyQueue.contents, BlockPlaced cfg b

/-- What `FrameInv` is about. -/
def frameView (s : EngineState S) :=
  (s.shared.targetFrame, s.shared.nextUnconsumedFrame, s.audio.expectedBlockStartFrame,
    s.sched.nextFrameToPublish, s.sched.viewportFirstFrame, s.sched.viewportLastFrame,
    s.sched.timelineScanCursorInChunks, s.render.jobs.origins, s.render.cacheEntries, s.readyQueue)

variable {cfg : AcceptedConfig} {s s' : EngineState S}

theorem FrameInv.of_view (h : FrameInv cfg s) (hview : frameView s' = frameView s) :
    FrameInv cfg s' := by
  simp only [frameView, Prod.mk.injEq] at hview
  obtain ⟨htarget, hcursor, hexpected, hnext, hfirst, hlast, hscan, horigins, hcache, hqueue⟩ :=
    hview
  have hchunk : ∀ j, (s'.render.jobs.job j).chunk = (s.render.jobs.job j).chunk := fun j =>
    congrArg (fun origins => (origins.2 j).1) horigins
  exact {
    target := htarget ▸ h.target
    cursor := hcursor ▸ h.cursor
    expected := hexpected ▸ h.expected
    next := hnext ▸ h.next
    viewportFirst := hfirst ▸ h.viewportFirst
    viewportLast := hlast ▸ h.viewportLast
    scan := hscan ▸ h.scan
    jobs := fun j => hchunk j ▸ h.jobs j
    cache := hcache ▸ h.cache
    slots := hqueue ▸ h.slots
    placed := hqueue ▸ h.placed }

theorem blockBoundary_zero : BlockBoundary cfg 0 :=
  ⟨Int.dvd_zero _, le_rfl, cfg.valid.totalFrames_pos.le⟩

theorem onTimeline_zero : OnTimeline cfg 0 := by
  have hcount := cfg.valid.chunkCount_eq
  have htotal := cfg.valid.totalFrames_pos
  simp only [chunkFrames] at hcount
  exact ⟨le_rfl, by omega⟩

theorem FrameInv.init [Zero S] : FrameInv cfg (EngineState.init cfg : EngineState S) where
  target := blockBoundary_zero
  cursor := blockBoundary_zero
  expected := blockBoundary_zero
  next := blockBoundary_zero
  viewportFirst := le_rfl
  viewportLast := by
    have htotal := cfg.valid.totalFrames_pos
    unfold EngineState.init
    dsimp only
    split <;> omega
  scan := onTimeline_zero
  jobs _ := onTimeline_zero
  cache _ := ⟨rfl, rfl⟩
  slots := BoundedFifo.all_make ⟨rfl, rfl⟩
  placed := nofun

/-! ## Programs that leave frames and chunks alone -/

section

variable {α : Type} {p : Prog (EngineState S) α}

theorem keeps_frames (hp : p.Preserves frameView) : p.Keeps (FrameInv cfg) :=
  hp.keeps fun _ _ hview h => h.of_view hview

theorem pending_frameView (hp : p.Preserves pendingView) : p.Preserves frameView :=
  hp.mono fun s s' h => by
    simp only [pendingView, schedulingView, contentView, audioView, Prod.mk.injEq] at h
    simp only [frameView, h]

theorem dispatch_frameView (hp : p.Preserves Scheduler.dispatchView) : p.Preserves frameView :=
  hp.mono fun s s' h => by
    simp only [Scheduler.dispatchView, schedulingView, contentView, audioView,
      Prod.mk.injEq] at h
    simp only [frameView, h]

theorem worker_frameView (hp : p.Preserves workerView) : p.Preserves frameView :=
  pending_frameView (worker_pendingView hp)

end

theorem FrameInv.pop (h : FrameInv cfg s) :
    FrameInv cfg { s with readyQueue := s.readyQueue.pop } :=
  { h with
    slots := h.slots.pop
    placed := fun b hb => h.placed b (List.mem_of_mem_tail (BoundedFifo.contents_pop _ ▸ hb)) }

end Anasa
