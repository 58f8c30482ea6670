import Anasa.Arithmetic.FrameInvariant
import Anasa.Model.CheckedEngine

/-!
# Playback passes its checks

The protocol of generations and cursors, publishing and the audio callback: each checked program
makes the accesses of the program and does not fail.
-/

namespace Anasa

open Concurrency Prog
open Checked (require_eq)

variable {S : Type} {cfg : AcceptedConfig}

/-- The checked program makes the accesses of the program, which keep `FrameInv`, and does not
fail; its result satisfies `Q`. -/
abbrev Agrees (cfg : AcceptedConfig) {α : Type} (Q : α → Prop) (p : Prog (EngineState S) α)
    (q : CheckedProg (EngineState S) α) : Prop := Agree (FrameInv cfg) Q p q.run

/-- A program that leaves frames and chunks alone needs no check. -/
theorem agrees_frames {α : Type} {p : Prog (EngineState S) α} (hp : p.Preserves frameView) :
    Agrees cfg (fun _ => True) p (CheckedProg.plain p) := Agree.plain (keeps_frames hp)

/-- A read of which nothing is used. -/
theorem agrees_read {α : Type} (r : EngineState S → α) :
    Agrees cfg (fun _ => True) (.read r) (CheckedProg.plain (.read r)) :=
  Agree.plain_read fun _ _ => trivial

/-- An access that leaves frames and chunks alone. -/
theorem agrees_modify {f : EngineState S → EngineState S}
    (hf : ∀ s, frameView (f s) = frameView s) :
    Agrees cfg (fun _ => True) (.modify f) (CheckedProg.plain (.modify f)) :=
  agrees_frames (preserves_modify hf)

theorem agrees_modify_bind {α : Type} {Q : α → Prop} {f : EngineState S → EngineState S}
    {g : Unit → Prog (EngineState S) α} {l : Unit → CheckedProg (EngineState S) α}
    (hf : ∀ s, frameView (f s) = frameView s) (hk : ∀ a, Agrees cfg Q (g a) (l a)) :
    Agrees cfg Q (.modify f >>= g) (CheckedProg.plain (.modify f) >>= l) :=
  (agrees_modify hf).bind fun a _ => hk a

/-! ## The protocol -/

namespace PlaybackProtocol

theorem beginGeneration_keeps {target : Int} (h : BlockBoundary cfg target) (suspend : Bool) :
    (beginGeneration target suspend : Prog (EngineState S) Unit).Keeps (FrameInv cfg) := by
  unfold beginGeneration
  have hrest := (keeps_modify (I := FrameInv cfg) (f := fun s : EngineState S => { s with
      shared.targetFrame := target, history := s.history.targetStored })
    fun _ hs => { hs with target := h }).bind fun _ => keeps_modify (f := fun s => { s with
      shared.generation := s.shared.generation + 1
      history := s.history.generationBegun (s.shared.generation + 1) target }) fun _ hs => { hs with }
  exact keeps_ite ((keeps_modify fun _ hs => { hs with }).bind fun _ => hrest) hrest

theorem beginGeneration_agrees {target : Int} (h : BlockBoundary cfg target) (suspend : Bool) :
    Agrees (S := S) cfg (fun _ => True) (beginGeneration target suspend)
      (Checked.PlaybackProtocol.beginGeneration cfg target suspend) :=
  Agree.check (require_eq h.2) (Agree.plain (beginGeneration_keeps h suspend))

/-- The result of `currentFrame` is a block boundary. -/
theorem currentFrame_agrees : Agrees (S := S) cfg (BlockBoundary cfg) (currentFrame cfg)
    (Checked.PlaybackProtocol.currentFrame cfg) := by
  have hclamp : ∀ frame, BlockBoundary cfg frame → Agrees (S := S) cfg (BlockBoundary cfg)
      (Pure.pure (clampTimelineBoundary frame cfg.totalFrames))
      (CheckedProg.check (Checked.clampTimelineBoundary frame cfg.totalFrames)) :=
    fun frame h => Agree.ret_check (Checked.clampTimelineBoundary_eq cfg.valid.totalFrames_pos)
      (h.clamp.symm ▸ h)
  refine (agrees_read _).bind fun generation _ =>
    (agrees_frames (preserves_atomically fun _ => rfl)).bind fun cursorGeneration _ =>
      Agree.ite (fun _ => ?_) fun _ => ?_
  · exact (Agree.plain_read fun s hs => hs.target).bind hclamp
  · exact (Agree.plain_atomically (fun s hs => { hs with }) fun s hs => hs.cursor).bind hclamp

end PlaybackProtocol

theorem PlaybackController.startIfReady_agrees {lead : Int} (h : 0 ≤ lead) (entire : Bool) :
    Agrees (S := S) cfg (fun _ => True) (startIfReady cfg lead entire)
      (Checked.PlaybackController.startIfReady cfg lead entire) :=
  Agree.check (require_eq h) <| agrees_frames <| preserves_read_bind fun _ => preserves_ite
    (preserves_ite (preserves_modify fun _ => rfl) (preserves_pure _)) (preserves_pure _)

/-! ## Publishing -/

namespace TimelineAudioPublisher

theorem reset_keeps {target : Int} (h : BlockBoundary cfg target) :
    (reset target : Prog (EngineState S) Unit).Keeps (FrameInv cfg) :=
  keeps_modify fun _ hs => { hs with next := h }

theorem reset_agrees {target : Int} (h : BlockBoundary cfg target) :
    Agrees (S := S) cfg (fun _ => True) (reset target)
      (Checked.TimelineAudioPublisher.reset cfg target) :=
  Agree.check (require_eq h.2) <| Agree.check (Checked.blockBoundary_offset h) <|
    Agree.check (require_eq rfl) (Agree.plain (reset_keeps h))

/-- **A pass of the publishing loop** goes from block boundary to block boundary. -/
theorem publishNext_frames (generation : Int) {s : EngineState S} (h : FrameInv cfg s) :
    FrameInv cfg (publishNext cfg generation s).2 := by
  rcases publishNext_cases cfg generation s with
    ⟨samples, slot, free, hlast, -, hfree, heq⟩ | ⟨heq, -⟩
  · have hblock := cfg.valid.blockFrames_pos
    have hslots : (s.readyQueue.pushWith (nextBlock cfg samples generation
        s.sched.nextFrameToPublish)).2.All (SlotShape cfg) := h.slots.pushWith fun _ hslot => hslot
    rw [BoundedFifo.pushWith_of_free hfree] at hslots
    rw [heq]
    refine { h with
      next := h.next.next cfg.valid (by omega)
      slots := hslots
      placed := fun b hb => ?_ }
    rcases List.mem_append.mp hb with hb | hb
    · exact h.placed b hb
    · rw [List.mem_singleton.mp hb]
      exact ⟨h.next, by show s.sched.nextFrameToPublish + _ ≤ _; omega⟩
  · rw [heq]
    exact h

theorem publishLoop_agrees (generation : Int) (n : ℕ) :
    Agrees (S := S) cfg (fun _ => True) (publishLoop cfg generation n)
      (Checked.TimelineAudioPublisher.publishLoop cfg generation n) := by
  induction n with
  | zero => exact Agree.ret trivial
  | succ n ih =>
    exact (Agree.atomically (Q := fun _ => True)
      (fun s hs => Checked.publishNext_eq generation hs.next hs.cache hs.slots)
      (fun s hs => publishNext_frames generation hs) fun _ _ => trivial).bind fun _ _ =>
        Agree.ite (fun _ => ih) fun _ => Agree.ret trivial

theorem publish_agrees {frame : Int} (h : BlockBoundary cfg frame) (generation : Int) :
    Agrees (S := S) cfg (fun _ => True) (publish cfg frame generation)
      (Checked.TimelineAudioPublisher.publish cfg frame generation) := by
  refine Agree.check (require_eq h.2) <| Agree.check (Checked.blockBoundary_offset h) <|
    Agree.check (require_eq rfl) <| Agree.check Checked.chunkCount_eq <|
      Agree.check (require_eq rfl) <| (Agree.plain (keeps_modify fun s hs => ?_)).bind fun _ _ =>
        publishLoop_agrees generation _
  refine { hs with next := ?_ }
  rcases max_choice s.sched.nextFrameToPublish frame with heq | heq
  · exact heq.symm ▸ hs.next
  · exact heq.symm ▸ h

end TimelineAudioPublisher

/-! ## The audio callback -/

namespace AudioBlockProcessor

theorem adoptGeneration_agrees (generation : Int) :
    Agrees (S := S) cfg (fun _ => True) (adoptGeneration cfg generation)
      (Checked.AudioBlockProcessor.adoptGeneration cfg generation) := by
  have htotal := cfg.totalFrames_lt
  refine (Agree.atomically (Q := BlockBoundary cfg) (fun s hs => ?_) (fun s hs => ?_)
    fun s hs => ?_).bind fun frame hframe => ?_
  · have htarget := hs.target
    rw [Checked.alignFrameToAudioBlock_eq htarget.2.1 (by have := htarget.2.2; omega)
      cfg.valid.blockFrames_pos]
    rfl
  · exact { hs with expected := hs.target.align.symm ▸ hs.target }
  · exact hs.target.align.symm ▸ hs.target
  · exact (Agree.plain (keeps_modify fun s hs => { hs with cursor := hframe })).bind fun _ _ =>
      agrees_modify fun _ => rfl

theorem followGeneration_agrees : Agrees (S := S) cfg (fun _ => True) (followGeneration cfg)
    (Checked.AudioBlockProcessor.followGeneration cfg) :=
  (agrees_read _).bind fun generation _ => (agrees_read _).bind fun _ _ =>
    Agree.ite (fun _ => (adoptGeneration_agrees generation).bind fun _ _ => Agree.ret trivial)
      fun _ => Agree.ret trivial

theorem pop_keeps : (.modify fun s : EngineState S => { s with readyQueue := s.readyQueue.pop } :
    Prog (EngineState S) Unit).Keeps (FrameInv cfg) := keeps_modify fun _ hs => hs.pop

theorem discardStaleBlocks_keeps (generation expected : Int) (n : ℕ) :
    (discardStaleBlocks generation expected n :
      Prog (EngineState S) (Option (AudioBlock S))).Keeps (FrameInv cfg) := by
  induction n with
  | zero => exact keeps_pure _
  | succ n ih =>
    refine (keeps_read _).bind fun head => ?_
    cases head with
    | none => exact keeps_pure _
    | some head => exact keeps_ite (pop_keeps.bind fun _ => ih) (keeps_pure _)

theorem playBlock_keeps (generation expected : Int) (output : AudioOutputBuffer S)
    (head : Option (AudioBlock S)) :
    (playBlock cfg generation expected output head).Keeps (FrameInv cfg) := by
  cases head with
  | none => exact keeps_pure _
  | some head => exact keeps_ite (pop_keeps.bind fun _ => keeps_pure _) (keeps_pure _)

/-- The cursor advances to the next boundary. -/
theorem consumeBlock_agrees {expected : Int} (h : BlockBoundary cfg expected) (generation : Int)
    (output : AudioOutputBuffer S) (head : Option (AudioBlock S)) :
    Agrees cfg (fun _ => True) (consumeBlock cfg generation expected output head)
      (Checked.AudioBlockProcessor.consumeBlock cfg generation expected output head) := by
  refine (agrees_read _).bind fun playing _ => Agree.ite (fun _ => Agree.ret trivial) fun _ =>
    Agree.ite (fun _ => Agree.ret trivial) fun hlt =>
      (Agree.plain (playBlock_keeps generation expected output head)).bind fun played _ => ?_
  have htotal := cfg.totalFrames_lt
  have hblock := cfg.valid.blockFrames_pos
  have hnext := h.next cfg.valid (not_le.mp hlt)
  obtain ⟨-, h₀, h₁⟩ := hnext
  exact Agree.check (Checked.add_eq (by omega) (by omega)) <|
    (Agree.plain (keeps_modify fun s hs => { hs with
      expected := h.next cfg.valid (not_le.mp hlt)
      cursor := h.next cfg.valid (not_le.mp hlt) })).bind fun _ _ => Agree.ret trivial

theorem processBlock_agrees [Zero S] (output : AudioOutputBuffer S) :
    Agrees cfg (fun _ => True) (processBlock cfg output)
      (Checked.AudioBlockProcessor.processBlock cfg output) :=
  Agree.ite (fun _ => Agree.ret trivial) fun _ => Agree.ite (fun _ => Agree.ret trivial) fun _ =>
    (agrees_read _).bind fun _ _ => Agree.ite (fun _ => Agree.ret trivial) fun _ =>
      followGeneration_agrees.bind fun generation _ =>
        (Agree.plain_read fun _ hs => hs.expected).bind fun expected hexpected =>
          (agrees_read _).bind fun capacity _ =>
            (Agree.plain (discardStaleBlocks_keeps generation expected capacity)).bind
              fun head _ => consumeBlock_agrees hexpected generation _ head

end AudioBlockProcessor

theorem recordedCallback_agrees [Zero S] (output : AudioOutputBuffer S) :
    Agrees cfg (fun _ => True) (recordedCallback cfg output)
      (Checked.recordedCallback cfg output) :=
  (AudioBlockProcessor.processBlock_agrees output).bind fun ⟨_, _⟩ _ => agrees_modify fun _ => rfl

end Anasa
