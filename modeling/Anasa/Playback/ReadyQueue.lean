import Anasa.Playback.Runs
import Anasa.Rendering.Invariant

/-!
# The ready-audio queue between two calls

`ReadyInv` ties the queue to the position of the consumer, the cursor of the publisher and the
content of the cache: every queued block of the latest generation holds what the kernel gives for
the current version of its chunk. Each call of an engine keeps it.
-/

namespace Anasa

open Concurrency

variable {S : Type}

/-- A slot of the queue has room for a block. -/
def SlotShape (cfg : Config) (b : AudioBlock S) : Prop :=
  b.samples.channelCount = cfg.audio.channelCount ∧
    b.samples.frameCount = cfg.audio.audioBlockFrames

/-- A block holds what the kernel gives for the current version of its chunk, which is cached. -/
structure Published (cfg : Config) (kernel : RenderKernel S) (r : RenderState S)
    (b : AudioBlock S) : Prop where
  frameCount : b.frameCount = cfg.audio.audioBlockFrames
  boundary : BlockBoundary cfg b.firstFrame
  current : (RenderCache.findCurrent cfg r (frameToChunk b.firstFrame)).isSome
  samples : ∀ channel frame, 0 ≤ channel → channel < cfg.audio.channelCount → 0 ≤ frame →
    frame < cfg.audio.audioBlockFrames →
    b.samples.sample channel frame =
      kernel channel (b.firstFrame + frame) (r.versions (frameToChunk b.firstFrame))

/-- The order of the queue and its slots. -/
structure QueueInv (cfg : Config) (s : EngineState S) : Prop where
  order : ReadyOrder cfg s.shared.generation (position s) s.sched.nextFrameToPublish
    s.readyQueue.contents
  last_boundary : BlockBoundary cfg s.sched.nextFrameToPublish
  slots : s.readyQueue.All (SlotShape cfg)
  capacity : s.readyQueue.capacity = cfg.readyQueueCapacity
  stopped : s.engineStarted = false → s.sched.started = false

structure ReadyInv (cfg : Config) (kernel : RenderKernel S) (s : EngineState S) : Prop
    extends QueueInv cfg s where
  blocks : ∀ b ∈ s.readyQueue.contents, b.generation = s.shared.generation →
    Published cfg kernel s.render b

/-- The generation, both cursors and the queue. -/
def queueView (s : EngineState S) :=
  (s.shared.generation, position s, s.sched.nextFrameToPublish, s.readyQueue)

/-- The same with the content of the cache. -/
def queueContentView (s : EngineState S) :=
  (queueView s, s.render.versions, s.render.cacheEntries)

/-- What `ReadyInv` is about. -/
def readyView (s : EngineState S) := (queueContentView s, s.sched.started, s.engineStarted)

variable {cfg : Config} {kernel : RenderKernel S} {s s' : EngineState S}

theorem Published.of_content {r r' : RenderState S} {b : AudioBlock S}
    (h : Published cfg kernel r b) (hversions : r'.versions = r.versions)
    (hcurrent : ∀ chunk, (RenderCache.findCurrent cfg r chunk).isSome →
      (RenderCache.findCurrent cfg r' chunk).isSome) : Published cfg kernel r' b :=
  ⟨h.frameCount, h.boundary, hcurrent _ h.current, hversions ▸ h.samples⟩

theorem QueueInv.of_view (h : QueueInv cfg s) (hview : queueView s' = queueView s)
    (hstopped : s'.engineStarted = false → s'.sched.started = false) : QueueInv cfg s' := by
  simp only [queueView, Prod.mk.injEq] at hview
  obtain ⟨hg, hposition, hlast, hqueue⟩ := hview
  exact ⟨by rw [hg, hposition, hlast, hqueue]; exact h.order, hlast ▸ h.last_boundary,
    hqueue ▸ h.slots, hqueue ▸ h.capacity, hstopped⟩

theorem ReadyInv.of_content (h : ReadyInv cfg kernel s)
    (hview : queueContentView s' = queueContentView s)
    (hstopped : s'.engineStarted = false → s'.sched.started = false) : ReadyInv cfg kernel s' := by
  simp only [queueContentView, Prod.mk.injEq] at hview
  obtain ⟨hqueueView, hversions, hcache⟩ := hview
  refine ⟨h.toQueueInv.of_view hqueueView hstopped, fun b hb hgb => ?_⟩
  simp only [queueView, Prod.mk.injEq] at hqueueView
  obtain ⟨hg, -, -, hqueue⟩ := hqueueView
  refine (h.blocks b (hqueue ▸ hb) (hgb.trans hg)).of_content hversions fun chunk hc => ?_
  unfold RenderCache.findCurrent at hc ⊢
  rwa [hversions, hcache]

theorem ReadyInv.of_view (h : ReadyInv cfg kernel s) (hview : readyView s' = readyView s) :
    ReadyInv cfg kernel s' := by
  simp only [readyView, Prod.mk.injEq] at hview
  obtain ⟨hcontent, hstarted, hengine⟩ := hview
  exact h.of_content hcontent fun hs => hstarted.trans (h.stopped (hengine ▸ hs))

theorem position_of_audioView (h : audioView s = audioView s') : position s = position s' :=
  congrArg CursorState.resolved (cursorView_of_audioView h)

theorem queueView_of_audioView (h : audioView s = audioView s') : queueView s = queueView s' := by
  have hposition := position_of_audioView h
  simp only [audioView, Prod.mk.injEq] at h
  obtain ⟨hshared, -, hqueue, -, -, hlast, -, -⟩ := h
  rw [queueView, queueView, hposition, hshared, hqueue, hlast]

theorem started_of_audioView (h : audioView s = audioView s') :
    s.sched.started = s'.sched.started ∧ s.engineStarted = s'.engineStarted := by
  simp only [audioView, Prod.mk.injEq] at h
  obtain ⟨-, -, -, -, -, -, hstarted, hengine⟩ := h
  exact ⟨hstarted, hengine⟩

theorem preserves_readyView {α : Type} {p : Prog (EngineState S) α}
    (hp : p.Preserves contentView) : p.Preserves readyView := by
  refine hp.mono fun s s' h => ?_
  simp only [contentView, Prod.mk.injEq] at h
  have hstarted := started_of_audioView h.1
  rw [readyView, readyView, queueContentView, queueContentView, queueView_of_audioView h.1, h.2.1,
    h.2.2, hstarted.1, hstarted.2]

theorem ReadyInv.init [Zero S] (hcfg : cfg.Valid) :
    ReadyInv cfg kernel (EngineState.init cfg : EngineState S) :=
  ⟨⟨.empty hcfg le_rfl, ⟨Int.dvd_zero _, le_rfl, hcfg.totalFrames_pos.le⟩,
    BoundedFifo.all_make ⟨rfl, rfl⟩, BoundedFifo.capacity_make _ _, fun _ => rfl⟩, nofun⟩

/-! ## Generations -/

/-- A new generation at `target` makes the queue stale. -/
theorem QueueInv.newGeneration (hcfg : cfg.Valid) (h : QueueInv cfg s) {target : Int}
    (htarget : BlockBoundary cfg target)
    (hg : s'.shared.generation = s.shared.generation + 1) (hposition : position s' = target)
    (hlast : s'.sched.nextFrameToPublish = target) (hqueue : s'.readyQueue = s.readyQueue)
    (hstarted : s'.sched.started = s.sched.started) (hengine : s'.engineStarted = s.engineStarted) :
    ReadyInv cfg kernel s' := by
  refine ⟨⟨?_, hlast ▸ htarget, hqueue ▸ h.slots, hqueue ▸ h.capacity,
    fun hs => hstarted.trans (h.stopped (hengine ▸ hs))⟩, fun b hb hgb => ?_⟩
  · rw [hg, hposition, hlast, hqueue]
    exact h.order.newGeneration hcfg target
  · have := h.order.generation_le b (hqueue ▸ hb)
    omega

/-- The position in a generation that has just begun is its target. -/
theorem position_newGeneration (hi : AckInv cfg (cursorView s))
    (hcursor : s'.shared.audioCursorGeneration = s.shared.audioCursorGeneration)
    (hg : s'.shared.generation = s.shared.generation + 1) :
    position s' = s'.shared.targetFrame := by
  have h₁ : s.shared.audioCursorGeneration ≤ max 1 s.audio.generation := hi.cursor_le
  have h₂ : s.audio.generation ≤ s.shared.generation := hi.audio_le
  have h₃ : 1 ≤ s.shared.generation := hi.generation_pos
  refine if_neg ?_
  simp only [cursorView]
  omega

namespace Scheduler

theorem seek_ready (hcfg : cfg.Valid) (h : QueueInv cfg s) (hi : AckInv cfg (cursorView s))
    {command : Command} (hc : command.type = .seek) :
    ReadyInv cfg kernel ((handleCommand cfg command).run s).2 := by
  simp only [handleCommand, hc, Prog.run_bind, beginAudioGeneration_run, setClassificationsDirty,
    Prog.run_modify]
  exact h.newGeneration hcfg (seek_boundary hcfg command.firstFrame) rfl
    (position_newGeneration hi rfl rfl) rfl rfl rfl rfl

/-- An Edit begins its generation where the consumer is, so nothing queued outlives it. -/
theorem edit_ready (hcfg : cfg.Valid) (h : QueueInv cfg s) (hi : CursorInv cfg (cursorView s))
    {command : Command} (hc : command.type = .edit) :
    ReadyInv cfg kernel ((handleCommand cfg command).run s).2 := by
  have hview := (invalidateVersions_audioView cfg command.firstFrame command.lastFrame).run
    { s with history.editing := true }
  simp only [handleCommand, hc, Prog.run_bind, Prog.run_modify, Prog.run_read]
  generalize ((invalidateVersions cfg command.firstFrame command.lastFrame).run
    { s with history.editing := true }).2 = s₁ at hview ⊢
  have hstarted := started_of_audioView hview
  have hqueue : QueueInv cfg s₁ := h.of_view ((queueView_of_audioView hview).trans rfl) fun hs =>
    hstarted.1.trans (h.stopped (hstarted.2.symm.trans hs))
  have hcursor := cursorView_of_audioView hview
  have hi₁ : AckInv cfg (cursorView s₁) := hcursor ▸ (hi.setFlags _ _).ack
  rw [PlaybackProtocol.currentFrame_run hi₁]
  simp only [beginAudioGeneration_run]
  exact hqueue.newGeneration hcfg hi₁.position_boundary rfl
    (position_newGeneration hi₁ rfl rfl) rfl rfl rfl rfl

/-- Commands that begin no generation. -/
theorem command_readyView {command : Command} (hseek : command.type ≠ .seek)
    (hedit : command.type ≠ .edit) :
    (handleCommand cfg command : Prog (EngineState S) Unit).Preserves readyView := by
  have hdirty : (setClassificationsDirty : Prog (EngineState S) Unit).Preserves readyView :=
    Prog.preserves_modify fun _ => rfl
  rcases command with ⟨type, firstFrame, lastFrame⟩
  cases type with
  | play =>
    exact Prog.preserves_atomically_bind (fun _ => rfl) fun _ =>
      Prog.preserves_ite hdirty (Prog.preserves_pure _)
  | pause =>
    exact Prog.preserves_atomically_bind (fun _ => rfl) fun _ =>
      Prog.preserves_ite hdirty (Prog.preserves_pure _)
  | seek => exact absurd rfl hseek
  | setViewport => exact Prog.preserves_modify fun _ => rfl
  | edit => exact absurd rfl hedit
  | stop => exact Prog.preserves_modify_bind (fun _ => rfl) fun _ => Prog.preserves_modify fun _ => rfl

theorem handleCommand_ready (hcfg : cfg.Valid) (h : ReadyInv cfg kernel s)
    (hi : CursorInv cfg (cursorView s)) (command : Command) :
    ReadyInv cfg kernel ((handleCommand cfg command).run s).2 := by
  by_cases hseek : command.type = .seek
  · exact seek_ready hcfg h.toQueueInv hi.ack hseek
  · by_cases hedit : command.type = .edit
    · exact edit_ready hcfg h.toQueueInv hi hedit
    · exact h.of_view ((command_readyView hseek hedit).run s)

/-- A call of the scheduler that obeys the protocol leaves it at rest. -/
theorem rests_run {α : Type} {p : Prog (EngineState S) α}
    (hp : (cursorContract cfg .scheduler).Triple CursorRests p fun _ => CursorRests)
    (hi : CursorInv cfg (cursorView s)) (hrest : CursorRests s) :
    CursorInv cfg (cursorView (p.run s).2) ∧ CursorRests (p.run s).2 :=
  Contract.Safe.run (cursorRely_refl .scheduler) (hp s hi hrest) hi

theorem shutdownRequested_run (s : EngineState S) :
    (shutdownRequested.run s) = (s.sched.stopRequested || s.shared.stop, s) := by
  rcases h : s.sched.stopRequested <;> simp [shutdownRequested, h]

/-- Between two commands of a batch the scheduler rests. -/
theorem readCommands_ready (hcfg : cfg.Valid) (passes : ℕ) (h : ReadyInv cfg kernel s)
    (hi : CursorInv cfg (cursorView s)) (hrest : CursorRests s) :
    ReadyInv cfg kernel ((readCommands cfg passes).run s).2 := by
  induction passes generalizing s with
  | zero => exact h
  | succ n ih =>
    simp only [readCommands, Prog.run_bind, Prog.run_read]
    rcases s.commandQueue.front with - | command
    · exact h
    · have hpop : ReadyInv cfg kernel { s with commandQueue := s.commandQueue.pop } := h.of_view rfl
      obtain ⟨hi', hrest'⟩ := rests_run (s := { s with commandQueue := s.commandQueue.pop })
        (handleCommand_cursorTriple hcfg command) hi hrest
      have hready := handleCommand_ready hcfg hpop hi command
      simp only [Prog.run_bind, Prog.run_modify, shutdownRequested_run, Prog.run_ite]
      split
      · exact ih hready hi' hrest'
      · exact hready

/-! ## Completions -/

/-- Storing a chunk of the current version leaves what is current current. -/
theorem collectOne_current (r : RenderState S) {chunk : Int}
    (h : (RenderCache.findCurrent cfg r chunk).isSome) :
    (RenderCache.findCurrent cfg (collectOne cfg r).2 chunk).isSome := by
  have hversions : (collectOne cfg r).2.versions = r.versions :=
    (congrArg RenderState.versions (collectOne_eq cfg r)).trans rfl
  have hentry : ∀ c, ((collectOne cfg r).2.cacheEntries c).version = (r.cacheEntries c).version ∨
      ((collectOne cfg r).2.cacheEntries c).version = r.versions c := by
    intro c
    unfold collectOne Executor.popCompleted
    split
    · exact .inl rfl
    · rename_i heq
      split at heq
      · cases heq
      · cases heq
        dsimp only
        rw [ActiveRenderJobs.finish_eq]
        split
        · unfold RenderCache.store
          split
          · exact .inl rfl
          · split
            · exact .inl rfl
            · rename_i hok
              simp only [not_or, not_not] at hok
              dsimp only
              rw [Function.update_apply]
              split
              · rename_i hc
                exact .inr (by rw [hc]; exact hok.1)
              · exact .inl rfl
        · exact .inl rfl
  unfold RenderCache.findCurrent at h ⊢
  split at h
  · cases h
  · split at h
    · cases h
    · rename_i hchunk hversion
      rw [if_neg hchunk, hversions, if_neg]
      · rfl
      · rw [not_not] at hversion ⊢
        exact (hentry chunk).elim (fun h => h.trans hversion) id

theorem collectFinishedJobs_run_succ (n : ℕ) (s : EngineState S) :
    (collectFinishedJobs cfg (n + 1)).run s =
      (if (collectOne cfg s.render).1 then collectFinishedJobs cfg n else pure ()).run
        { s with render := (collectOne cfg s.render).2 } := rfl

theorem collectFinishedJobs_ready (passes : ℕ) (h : ReadyInv cfg kernel s) :
    ReadyInv cfg kernel ((collectFinishedJobs cfg passes).run s).2 := by
  induction passes generalizing s with
  | zero => exact h
  | succ n ih =>
    have hone : ReadyInv cfg kernel { s with render := (collectOne cfg s.render).2 } := by
      refine ⟨h.toQueueInv.of_view rfl h.stopped, fun b hb hg => ?_⟩
      refine (h.blocks b hb hg).of_content ?_ fun chunk hc => collectOne_current s.render hc
      exact (congrArg RenderState.versions (collectOne_eq cfg s.render)).trans rfl
    rw [collectFinishedJobs_run_succ, Prog.run_ite]
    split
    · exact ih hone
    · exact hone

end Scheduler

end Anasa
