import Anasa.Playback.Publishing

/-!
# Callbacks

A callback that runs from start to end follows the latest generation, discards what is stale and
then waits, plays the block at the position of the consumer, or underruns (`processBlock_cases`).
Between two calls the queue is in order, so it plays whenever that block is published.
-/

namespace Anasa

open Concurrency AudioBlockProcessor

variable {S : Type} {cfg : Config} {kernel : RenderKernel S} {s : EngineState S}

/-! ## The four outcomes -/

/-- What one callback does: it has nothing to do, waits, plays a block, or underruns. -/
theorem processBlock_cases [Zero S] (hrest : AtRest cfg s) (output : AudioOutputBuffer S) :
    (¬Heard cfg output s ∧ ∃ silence,
      (processBlock cfg output).run s = (({}, silence), s)) ∨
    Heard cfg output s ∧ ∃ history, history.callbacks = s.history.callbacks ∧
      ((s.shared.playing = false ∨ cfg.totalFrames ≤ position s) ∧
          (processBlock cfg output).run s = (({}, output.fillSilence), cleaned s history) ∨
        s.shared.playing = true ∧ position s < cfg.totalFrames ∧
          ((∃ block, (cleaned s history).readyQueue.front = some block ∧
              isExactBlock cfg s.shared.generation (position s) output.channels.length block =
                true ∧
              (processBlock cfg output).run s =
                (({ playing := true, underrun := false },
                    output.fillSilence.copyBlock cfg.audio.audioBlockFrames block),
                  advanced cfg (cleaned s history) s.shared.generation (position s)
                    (cleaned s history).readyQueue.pop)) ∨
            (∀ block ∈ (cleaned s history).readyQueue.front, isExactBlock cfg
                s.shared.generation (position s) output.channels.length block = false) ∧
              (processBlock cfg output).run s =
                (({ playing := true, underrun := true }, output.fillSilence),
                  advanced cfg (cleaned s history) s.shared.generation (position s)
                    (cleaned s history).readyQueue))) := by
  by_cases hheard : Heard cfg output s
  · refine .inr ⟨hheard, ?_⟩
    obtain ⟨history, hcallbacks, hrun⟩ := processBlock_run hrest hheard
    refine ⟨history, hcallbacks, ?_⟩
    have hlength : output.fillSilence.channels.length = output.channels.length := by
      simp [AudioOutputBuffer.fillSilence]
    rw [hrun]
    by_cases hwaits : s.shared.playing = false ∨ cfg.totalFrames ≤ position s
    · exact .inl ⟨hwaits, consumeBlock_run_waits (s := cleaned s history) hwaits⟩
    · rw [not_or, Bool.not_eq_false, not_le] at hwaits
      obtain ⟨hplaying, hlt⟩ := hwaits
      refine .inr ⟨hplaying, hlt, ?_⟩
      rw [← hlength]
      rcases hfront : (cleaned s history).readyQueue.front with - | block
      · exact .inr ⟨nofun, consumeBlock_run_underrun (s := cleaned s history) hplaying hlt nofun⟩
      · rcases hexact : isExactBlock cfg s.shared.generation (position s)
          output.fillSilence.channels.length block with - | -
        · have hno : ∀ b ∈ some block, isExactBlock cfg s.shared.generation (position s)
              output.fillSilence.channels.length b = false := by
            rintro b ⟨⟩
            exact hexact
          exact .inr ⟨hno, consumeBlock_run_underrun (s := cleaned s history) hplaying hlt hno⟩
        · exact .inl ⟨block, rfl, hexact, consumeBlock_run_plays (s := cleaned s history) hplaying hlt hexact⟩
  · exact .inl ⟨hheard, processBlock_run_unheard hheard⟩

/-! ## The queue -/

theorem cleaned_position (s : EngineState S) (history : PlaybackHistory) :
    position (cleaned s history) = position s := if_pos rfl

theorem advanced_position (s : EngineState S) (history : PlaybackHistory)
    (queue : BoundedFifo (AudioBlock S)) :
    position (advanced cfg (cleaned s history) s.shared.generation (position s) queue) =
      position s + cfg.audio.audioBlockFrames := if_pos rfl

/-- The stale blocks are gone. -/
theorem ReadyInv.cleaned (h : ReadyInv cfg kernel s) (history : PlaybackHistory) :
    ReadyInv cfg kernel (cleaned s history) := by
  have hsplit := List.takeWhile_append_dropWhile
    (p := isStale s.shared.generation (position s)) (l := s.readyQueue.contents)
  refine ⟨⟨?_, h.last_boundary, h.slots.popWhile _,
    (BoundedFifo.capacity_popWhile _ _).trans h.capacity, h.stopped⟩, fun b hb hg => ?_⟩
  · rw [cleaned_position]
    exact (hsplit.symm ▸ h.order : ReadyOrder cfg _ _ _ (_ ++ _)).drop
      fun b hb => List.mem_takeWhile_imp hb
  · exact h.blocks b ((List.dropWhile_sublist _).subset hb) hg

/-- The consumer moves on, with or without the block at its position. -/
theorem ReadyInv.advanced (hcfg : cfg.Valid) (h : ReadyInv cfg kernel s)
    (hposition : BlockBoundary cfg (position s)) (history : PlaybackHistory)
    {queue : BoundedFifo (AudioBlock S)} (played : List (AudioBlock S))
    (hqueue : (AudioBlockProcessor.cleaned s history).readyQueue.contents =
      played ++ queue.contents)
    (hplayed : ∀ b ∈ played, b.firstFrame = position s)
    (hslots : queue.All (SlotShape cfg))
    (hcapacity : queue.capacity = (AudioBlockProcessor.cleaned s history).readyQueue.capacity) :
    ReadyInv cfg kernel (advanced cfg (AudioBlockProcessor.cleaned s history)
      s.shared.generation (position s) queue) := by
  have hcleaned := h.cleaned history
  have horder := hcleaned.order
  rw [cleaned_position, hqueue] at horder
  refine ⟨⟨?_, h.last_boundary, hslots, hcapacity.trans hcleaned.capacity, h.stopped⟩,
    fun b hb hg => ?_⟩
  · rw [advanced_position]
    refine (horder.advance hcfg hposition.1 h.last_boundary.1).drop fun b hb => ?_
    have hle := horder.generation_le b (List.mem_append_left _ hb)
    have hframe := hplayed b hb
    have hB := hcfg.blockFrames_pos
    simp only [isStale, Bool.or_eq_true, decide_eq_true_eq, Bool.and_eq_true, beq_iff_eq]
    have hle' : b.generation ≤ s.shared.generation := hle
    show b.generation < s.shared.generation ∨ b.generation = s.shared.generation ∧ _
    omega
  · exact hcleaned.blocks b (hqueue ▸ List.mem_append_right _ hb) hg

/-- **Callbacks keep the queue in order.** -/
theorem processBlock_ready [Zero S] (hcfg : cfg.Valid) (h : ReadyInv cfg kernel s)
    (hrest : AtRest cfg s) (output : AudioOutputBuffer S) :
    ReadyInv cfg kernel ((processBlock cfg output).run s).2 := by
  have hposition := hrest.inv.ack.position_boundary
  rcases processBlock_cases hrest output with ⟨-, silence, hrun⟩ | ⟨-, history, -, hcase⟩
  · rw [hrun]
    exact h
  · rcases hcase with ⟨-, hrun⟩ | ⟨-, -, ⟨block, hfront, hexact, hrun⟩ | ⟨-, hrun⟩⟩
    · rw [hrun]
      exact h.cleaned history
    · rw [hrun]
      simp only [isExactBlock, Bool.and_eq_true, beq_iff_eq] at hexact
      refine h.advanced hcfg hposition history [block] ?_ ?_
        (h.cleaned history).slots.pop (BoundedFifo.capacity_pop _)
      · rw [BoundedFifo.contents_pop]
        exact (List.cons_head?_tail hfront).symm
      · intro b hb
        rw [List.mem_singleton.mp hb]
        exact hexact.1.1.1.2
    · rw [hrun]
      exact h.advanced hcfg hposition history [] rfl nofun (h.cleaned history).slots rfl

/-- A callback leaves both sides of the protocol at rest. -/
theorem AtRest.processBlock [Zero S] (hcfg : cfg.Valid) (h : AtRest cfg s)
    (output : AudioOutputBuffer S) : AtRest cfg ((processBlock cfg output).run s).2 := by
  have hsafe := processBlock_triple hcfg output s h.inv h.audio
  obtain ⟨hinv, haudio⟩ := hsafe.run (cursorRely_refl .audio) h.inv
  have hrely := Discipline.Safe.run_rely
    (D := cursorDiscipline cfg (protocolMachine cfg) (protocolCall_triple hcfg))
    (i := .audio) (j := .scheduler) (by simp) hsafe h.inv
  exact ⟨hinv, SchedulerRely.cursorAt hrely h.scheduler, haudio⟩

/-! ## Playing -/

/-- An output as the engine has it: a block for each of its channels, one of them enabled. -/
structure EngineOutput (cfg : Config) (output : AudioOutputBuffer S) : Prop where
  frameCount : output.frameCount = cfg.audio.audioBlockFrames
  channels : (output.channels.length : Int) = cfg.audio.channelCount
  enabled : output.hasOutput = true

theorem EngineOutput.heard (hcfg : cfg.Valid) {output : AudioOutputBuffer S}
    (h : EngineOutput cfg output) (hstop : s.shared.stop = false) : Heard cfg output s :=
  ⟨h.frameCount ▸ hcfg.blockFrames_pos, h.enabled, h.frameCount, hstop⟩

/-- The queue without its stale blocks holds the blocks up to the cursor of the publisher. -/
theorem ReadyInv.cleaned_frames (h : ReadyInv cfg kernel s) (history : PlaybackHistory) :
    (AudioBlockProcessor.cleaned s history).readyQueue.contents.map (·.firstFrame) =
      blocksFrom cfg (position s) s.sched.nextFrameToPublish :=
  (congrArg (List.map _) h.order.dropWhile_eq).trans h.order.fresh

/-- The block at the position of the consumer is the front block, and it is the one expected. -/
theorem ReadyInv.front_exact (hcfg : cfg.Valid) (h : ReadyInv cfg kernel s)
    (hposition : BlockBoundary cfg (position s)) {output : AudioOutputBuffer S}
    (houtput : EngineOutput cfg output) (hlt : position s < s.sched.nextFrameToPublish)
    (history : PlaybackHistory) :
    ∃ block, (AudioBlockProcessor.cleaned s history).readyQueue.front = some block ∧
      isExactBlock cfg s.shared.generation (position s) output.channels.length block = true := by
  have hframes := h.cleaned_frames history
  rw [blocksFrom_cons hcfg hposition.1 h.last_boundary.1 hlt] at hframes
  obtain ⟨block, rest, hcontents, hframe, -⟩ := List.map_eq_cons_iff.mp hframes
  have hmem : block ∈ (AudioBlockProcessor.cleaned s history).readyQueue.contents :=
    hcontents ▸ List.mem_cons_self
  have hfresh : block ∈ freshBlocks s.shared.generation (position s) s.readyQueue.contents :=
    h.order.dropWhile_eq ▸ hmem
  obtain ⟨hqueued, hg, -⟩ := (mem_freshBlocks h.order.generation_le).mp hfresh
  have hpublished := h.blocks block hqueued hg
  obtain ⟨hchannels, hcount⟩ := h.slots.1 block hqueued
  refine ⟨block, by rw [BoundedFifo.front, hcontents]; rfl, ?_⟩
  simp only [isExactBlock, Bool.and_eq_true, beq_iff_eq, decide_eq_true_eq]
  exact ⟨⟨⟨⟨hg, hframe⟩, hpublished.frameCount⟩, hcount.ge⟩,
    hchannels.trans houtput.channels.symm⟩

/-- **A published block is played.** -/
theorem processBlock_plays [Zero S] (hcfg : cfg.Valid) (h : ReadyInv cfg kernel s)
    (hrest : AtRest cfg s) {output : AudioOutputBuffer S} (houtput : EngineOutput cfg output)
    (hstop : s.shared.stop = false) (hplaying : s.shared.playing = true)
    (hlt : position s < s.sched.nextFrameToPublish) :
    ∃ played history queue, history.callbacks = s.history.callbacks ∧
      (processBlock cfg output).run s = (({ playing := true, underrun := false }, played),
        advanced cfg (cleaned s history) s.shared.generation (position s) queue) := by
  have htotal := hlt.trans_le h.last_boundary.2.2
  rcases processBlock_cases hrest output with ⟨hno, -⟩ | ⟨-, history, hcallbacks, hcase⟩
  · exact absurd (houtput.heard hcfg hstop) hno
  · obtain ⟨block, hfront, hexact⟩ :=
      h.front_exact hcfg hrest.inv.ack.position_boundary houtput hlt history
    rcases hcase with ⟨hwaits, -⟩ | ⟨-, -, ⟨block, -, -, hrun⟩ | ⟨hno, -⟩⟩
    · rcases hwaits with hp | hle
      · rw [hp] at hplaying
        cases hplaying
      · omega
    · exact ⟨_, history, _, hcallbacks, hrun⟩
    · rw [hno block hfront] at hexact
      cases hexact

/-- Nothing is played that is not published. -/
theorem processBlock_not_plays [Zero S] (hcfg : cfg.Valid) (h : ReadyInv cfg kernel s)
    (hrest : AtRest cfg s) (output : AudioOutputBuffer S)
    (hle : s.sched.nextFrameToPublish ≤ position s) :
    ((processBlock cfg output).run s).1.1 ≠ { playing := true, underrun := false } := by
  rcases processBlock_cases hrest output with ⟨-, silence, hrun⟩ | ⟨-, history, -, hcase⟩
  · rw [hrun]
    simp
  · rcases hcase with ⟨-, hrun⟩ | ⟨-, -, ⟨block, hfront, -, -⟩ | ⟨-, hrun⟩⟩
    · rw [hrun]
      simp
    · have hframes := h.cleaned_frames history
      rw [blocksFrom_nil hcfg hle, List.map_eq_nil_iff] at hframes
      rw [BoundedFifo.front, hframes] at hfront
      cases hfront
    · rw [hrun]
      simp

end Anasa
