import Anasa.Concurrency.Layer
import Anasa.Playback.Publishing

/-!
# Where blocks are published

On top of the protocol of generations and cursors, for every interleaving of accesses: the publisher
stops at block boundaries, every block in the ready-audio queue lies within the timeline, and if the
queue is emptied at every start, the blocks of the latest generation are in order before the
position of the publisher.
-/

namespace Anasa

open Concurrency Contract Prog

variable {S : Type} {cfg : Config}

/-! ## Blocks and positions -/

/-- A block of the timeline. -/
structure BlockPlaced (cfg : Config) (b : AudioBlock S) : Prop where
  boundary : BlockBoundary cfg b.firstFrame
  last_le : b.firstFrame + cfg.audio.audioBlockFrames ≤ cfg.totalFrames

structure PositionInv (cfg : Config) (s : EngineState S) : Prop where
  next_boundary : BlockBoundary cfg s.sched.nextFrameToPublish
  capacity : s.readyQueue.capacity = cfg.readyQueueCapacity
  placed : ∀ b ∈ s.readyQueue.contents, BlockPlaced cfg b
  generation_le : ∀ b ∈ s.readyQueue.contents, b.generation ≤ s.shared.generation

/-- The blocks of the latest generation are in order, before the position of the publisher. -/
structure FeedOrder (s : EngineState S) : Prop where
  lt_next : ∀ b ∈ s.readyQueue.contents, b.generation = s.shared.generation →
    b.firstFrame < s.sched.nextFrameToPublish
  increasing : s.readyQueue.contents.Pairwise fun a b => a.generation = s.shared.generation →
    b.generation = s.shared.generation → a.firstFrame < b.firstFrame

/-- What the scheduler relies on: the callback only takes blocks from the front. -/
structure QueueRely (s s' : EngineState S) : Prop where
  generation : s'.shared.generation = s.shared.generation
  next : s'.sched.nextFrameToPublish = s.sched.nextFrameToPublish
  contents : s'.readyQueue.contents <:+ s.readyQueue.contents

theorem QueueRely.refl (s : EngineState S) : QueueRely s s := ⟨rfl, rfl, List.suffix_rfl⟩

theorem QueueRely.trans {s₁ s₂ s₃ : EngineState S} (h : QueueRely s₁ s₂) (h' : QueueRely s₂ s₃) :
    QueueRely s₁ s₃ :=
  ⟨h'.generation.trans h.generation, h'.next.trans h.next, h'.contents.trans h.contents⟩

/-- What the layer speaks about. -/
def positionView (s : EngineState S) :=
  (s.shared.generation, s.sched.nextFrameToPublish, s.readyQueue)

theorem preserves_positionView {α : Type} {p : Prog (EngineState S) α}
    (hp : p.Preserves audioView) : p.Preserves positionView :=
  hp.mono fun s s' h => by
    simp only [audioView, Prod.mk.injEq] at h
    simp only [positionView, h]

section

variable {s s' : EngineState S}

theorem PositionInv.of_view (h : PositionInv cfg s) (hv : positionView s' = positionView s) :
    PositionInv cfg s' := by
  simp only [positionView, Prod.mk.injEq] at hv
  obtain ⟨hg, hn, hq⟩ := hv
  exact ⟨hn ▸ h.next_boundary, hq ▸ h.capacity, hq ▸ h.placed, hq ▸ hg ▸ h.generation_le⟩

theorem FeedOrder.of_view (h : FeedOrder s) (hv : positionView s' = positionView s) :
    FeedOrder s' := by
  simp only [positionView, Prod.mk.injEq] at hv
  obtain ⟨hg, hn, hq⟩ := hv
  exact ⟨hq ▸ hg ▸ hn ▸ h.lt_next, hq ▸ hg ▸ h.increasing⟩

theorem FeedOrder.rely (h : FeedOrder s) (hr : QueueRely s s') : FeedOrder s' := by
  refine ⟨fun b hb hg => ?_, ?_⟩
  · rw [hr.next]
    exact h.lt_next b (hr.contents.subset hb) (hg.trans hr.generation)
  · rw [hr.generation]
    exact h.increasing.sublist hr.contents.sublist

/-- The publisher moves on. -/
theorem FeedOrder.skip (h : FeedOrder s) {next : Int} (hle : s.sched.nextFrameToPublish ≤ next) :
    FeedOrder { s with sched.nextFrameToPublish := next } :=
  ⟨fun b hb hg => (h.lt_next b hb hg).trans_le hle, h.increasing⟩

/-- The queue has no block of the latest generation. -/
def NoCurrentBlock (s : EngineState S) : Prop :=
  ∀ b ∈ s.readyQueue.contents, b.generation ≠ s.shared.generation

theorem NoCurrentBlock.rely (h : NoCurrentBlock s) (hr : QueueRely s s') : NoCurrentBlock s' :=
  fun b hb hg => h b (hr.contents.subset hb) (hg.trans hr.generation)

/-- Then the publisher may start anywhere. -/
theorem NoCurrentBlock.feedOrder (h : NoCurrentBlock s) (next : Int) :
    FeedOrder { s with sched.nextFrameToPublish := next } := by
  refine ⟨fun b hb hg => absurd hg (h b hb), ?_⟩
  exact List.Pairwise.imp_of_mem (fun {a b} ha _ _ hg => absurd hg (h a ha))
    (List.pairwise_of_forall (R := fun _ _ => True) fun _ _ => trivial)

/-- A block is published. -/
theorem PositionInv.pushed (hcfg : cfg.Valid) (h : PositionInv cfg s)
    (hlast : s.sched.nextFrameToPublish ≤ cfg.totalFrames - cfg.audio.audioBlockFrames)
    {samples : AudioBuffer S} {slot : AudioBlock S} {free : List (AudioBlock S)}
    (hfree : s.readyQueue.free = slot :: free) :
    PositionInv cfg (TimelineAudioPublisher.pushed cfg s
      (TimelineAudioPublisher.nextBlock cfg samples s.shared.generation
        s.sched.nextFrameToPublish slot) free) := by
  have hmem : ∀ {P : AudioBlock S → Prop}, (∀ b ∈ s.readyQueue.contents, P b) →
      P (TimelineAudioPublisher.nextBlock cfg samples s.shared.generation
        s.sched.nextFrameToPublish slot) →
      ∀ b ∈ s.readyQueue.contents ++ [TimelineAudioPublisher.nextBlock cfg samples
        s.shared.generation s.sched.nextFrameToPublish slot], P b := by
    intro P hold hnew b hb
    rcases List.mem_append.mp hb with hb | hb
    · exact hold b hb
    · exact List.mem_singleton.mp hb ▸ hnew
  have hB := hcfg.blockFrames_pos
  refine ⟨h.next_boundary.next hcfg (by omega), ?_, hmem h.placed ⟨h.next_boundary, ?_⟩,
    hmem h.generation_le le_rfl⟩
  · have hcapacity := BoundedFifo.capacity_pushWith (TimelineAudioPublisher.nextBlock cfg samples
      s.shared.generation s.sched.nextFrameToPublish) s.readyQueue
    rw [BoundedFifo.pushWith_of_free hfree] at hcapacity
    exact hcapacity.trans h.capacity
  · show s.sched.nextFrameToPublish + _ ≤ _
    omega

theorem FeedOrder.pushed (hcfg : cfg.Valid) (h : FeedOrder s) {samples : AudioBuffer S}
    {slot : AudioBlock S} {free : List (AudioBlock S)} :
    FeedOrder (TimelineAudioPublisher.pushed cfg s
      (TimelineAudioPublisher.nextBlock cfg samples s.shared.generation
        s.sched.nextFrameToPublish slot) free) := by
  have hB := hcfg.blockFrames_pos
  refine ⟨fun b hb hg => ?_, List.pairwise_append.mpr ⟨h.increasing, List.pairwise_singleton _ _,
    fun a ha b hb ha' _ => ?_⟩⟩
  · show b.firstFrame < s.sched.nextFrameToPublish + cfg.audio.audioBlockFrames
    rcases List.mem_append.mp hb with hb | hb
    · have := h.lt_next b hb hg
      omega
    · rw [List.mem_singleton.mp hb]
      show s.sched.nextFrameToPublish < _
      omega
  · rw [List.mem_singleton.mp hb]
    exact h.lt_next a ha ha'

end

/-! ## The layer -/

def positionRely : ThreadId → EngineState S → EngineState S → Prop
  | .scheduler => QueueRely
  | _ => fun _ _ => True

/-- What the publisher's side and the callback's side owe each other, on top of the protocol. -/
def positionContract (cfg : Config) (i : ThreadId) : Contract (EngineState S) where
  inv := PositionInv cfg
  rely := positionRely i
  guar s s' := i ≠ .scheduler → QueueRely s s'

abbrev placedContract (cfg : Config) (i : ThreadId) : Contract (EngineState S) :=
  (positionContract cfg i).onTop (cursorContract cfg i)

theorem positionRely_refl (i : ThreadId) (s : EngineState S) : positionRely i s s := by
  cases i with
  | scheduler => exact .refl s
  | _ => trivial

theorem positionRely_trans {i : ThreadId} {s₁ s₂ s₃ : EngineState S}
    (h : positionRely i s₁ s₂) (h' : positionRely i s₂ s₃) : positionRely i s₁ s₃ := by
  cases i with
  | scheduler => exact QueueRely.trans h h'
  | _ => trivial

theorem placedContract_stable (cfg : Config) (i : ThreadId) :
    (placedContract cfg i : Contract (EngineState S)).Stable :=
  Stable.onTop ⟨fun {_ s} _ => positionRely_refl i s, positionRely_trans⟩
    (cursorContract_stable cfg i)

/-- A program that leaves the layer alone. -/
theorem triple_positionView {i : ThreadId} {α : Type} {p : Prog (EngineState S) α}
    {P : EngineState S → Prop} (hp : p.Preserves positionView) (hP : (placedContract cfg i).Kept P)
    (hview : ∀ s s', positionView s' = positionView s → P s → P s') :
    (placedContract cfg i).Triple P p fun _ => P := by
  refine triple_of_preserves hp hP fun s s' hv hi hs =>
    ⟨fun _ => ?_, PositionInv.of_view hi hv, hview s s' hv hs⟩
  simp only [positionView, Prod.mk.injEq] at hv
  exact ⟨hv.1, hv.2.1, hv.2.2 ▸ List.suffix_rfl⟩

/-- An access of the scheduler: it owes the others nothing but the invariant. -/
theorem triple_schedulerPosition {α : Type} {P : EngineState S → Prop}
    {Q : α → EngineState S → Prop} {f : EngineState S → α × EngineState S}
    (hP : (placedContract cfg .scheduler).Kept P)
    (hQ : ∀ a, (placedContract cfg .scheduler).Kept (Q a))
    (h : ∀ s, PositionInv cfg s → P s → PositionInv cfg (f s).2 ∧ Q (f s).1 (f s).2) :
    (placedContract cfg .scheduler).Triple P (.atomically f) Q :=
  triple_atomically hP hQ fun s hi hs => ⟨fun hne => absurd rfl hne, h s hi hs⟩

/-! ## The scheduler -/

/-- Between two calls the scheduler knows that the blocks are in order. -/
theorem kept_fed : (placedContract cfg .scheduler).Kept (FeedOrder (S := S)) :=
  fun _ _ h hr _ => h.rely hr.1

theorem triple_fed {α : Type} {p : Prog (EngineState S) α} (hp : p.Preserves positionView) :
    (placedContract cfg .scheduler).Triple FeedOrder p fun _ => FeedOrder :=
  triple_positionView hp kept_fed fun _ _ hv h => h.of_view hv

theorem triple_fed_bind {α β : Type} {p : Prog (EngineState S) α} {g : α → Prog (EngineState S) β}
    {Q : β → EngineState S → Prop} (hp : p.Preserves positionView)
    (hg : ∀ a, (placedContract cfg .scheduler).Triple FeedOrder (g a) Q) :
    (placedContract cfg .scheduler).Triple FeedOrder (p >>= g) Q :=
  (triple_fed hp).bind (placedContract_stable cfg .scheduler) hg

theorem triple_fed_pure {α : Type} (a : α) : (placedContract cfg .scheduler).Triple
    (FeedOrder (S := S)) (Pure.pure a) fun _ => FeedOrder := triple_fed (preserves_pure a)

/-- The publisher is set to a block boundary, where `P` lets it start. -/
theorem reset_placed {P : EngineState S → Prop} (hP : (placedContract cfg .scheduler).Kept P)
    {frame : Int} (hframe : BlockBoundary cfg frame)
    (h : ∀ s, PositionInv cfg s → P s → FeedOrder { s with sched.nextFrameToPublish := frame }) :
    (placedContract cfg .scheduler).Triple P (TimelineAudioPublisher.reset frame)
      fun _ => FeedOrder :=
  triple_modify hP kept_fed fun s hi hs =>
    ⟨fun hne => absurd rfl hne, ⟨hframe, hi.capacity, hi.placed, hi.generation_le⟩, h s hi hs⟩

/-- **`currentFrame` returns a block boundary.** -/
theorem currentFrame_placed {P : EngineState S → Prop}
    (hP : (placedContract cfg .scheduler).Kept P)
    (hview : ∀ s s', positionView s' = positionView s → P s → P s') :
    (placedContract cfg .scheduler).Triple P (PlaybackProtocol.currentFrame cfg)
      fun frame s => BlockBoundary cfg frame ∧ P s := by
  have hstable := placedContract_stable (S := S) cfg .scheduler
  have hkept : ∀ frame, (placedContract cfg .scheduler).Kept fun s : EngineState S =>
      BlockBoundary cfg frame ∧ P s := fun frame s s' h hr hi => ⟨h.1, hP s s' h.2 hr hi⟩
  refine (triple_positionView (preserves_read _) hP hview).bind hstable fun generation =>
    (triple_positionView (preserves_atomically fun _ => rfl) hP hview).bind hstable
      fun cursorGeneration => triple_ite (fun _ => ?_) fun _ => ?_
  · refine Triple.bind hstable (Q := fun frame s =>
      BlockBoundary cfg (clampTimelineBoundary frame cfg.totalFrames) ∧ P s) ?_
      fun frame => triple_pure (hkept _) fun _ _ h => h
    refine triple_read_rely (fun s _ => .refl s) hP (fun _ => hkept _)
      fun s₀ s hr _ hs => ⟨?_, hs⟩
    have hb := (hr.2.2 : CursorInv cfg (cursorView s)).ack.target_boundary
    exact hb.clamp.symm ▸ hb
  · refine Triple.bind hstable (Q := fun frame s =>
      BlockBoundary cfg (clampTimelineBoundary frame cfg.totalFrames) ∧ P s) ?_
      fun frame => triple_pure (hkept _) fun _ _ h => h
    refine triple_atomically_rely hP (fun _ => hkept _) fun s₀ s hr hi hs =>
      ⟨fun _ => ⟨rfl, rfl, List.suffix_rfl⟩, PositionInv.of_view hi rfl, ?_,
        hview s _ rfl hs⟩
    have hb := (hr.2.2 : CursorInv cfg (cursorView s)).ack.cursor_boundary
    exact hb.clamp.symm ▸ hb

/-- `currentFrame`, and what follows at a block boundary. -/
theorem triple_currentFrame_placed {β : Type} {g : Int → Prog (EngineState S) β}
    {Q : β → EngineState S → Prop}
    (hg : ∀ frame, BlockBoundary cfg frame →
      (placedContract cfg .scheduler).Triple FeedOrder (g frame) Q) :
    (placedContract cfg .scheduler).Triple FeedOrder
      (PlaybackProtocol.currentFrame cfg >>= g) Q :=
  (currentFrame_placed kept_fed fun _ _ hv h => h.of_view hv).bind
    (placedContract_stable cfg .scheduler) fun frame s hi hs => hg frame hs.1 s hi hs.2

namespace Scheduler

/-- A generation is begun: no block of it is queued yet. -/
theorem beginAudioGeneration_placed {target : Int} (htarget : BlockBoundary cfg target)
    (suspend : Bool) :
    (placedContract cfg .scheduler).Triple (FeedOrder (S := S))
      (beginAudioGeneration target suspend) fun _ => FeedOrder := by
  have hstable := placedContract_stable (S := S) cfg .scheduler
  have hnone : (placedContract cfg .scheduler).Kept (NoCurrentBlock (S := S)) :=
    fun _ _ h hr _ => h.rely hr.1
  refine Triple.bind hstable (Q := fun _ => NoCurrentBlock) ?_ fun _ =>
    reset_placed hnone htarget fun s _ h => h.feedOrder target
  have hbegin : (placedContract cfg .scheduler).Triple (FeedOrder (S := S)) (do
      .modify fun s =>
        { s with shared.targetFrame := target, history := s.history.targetStored }
      .modify fun s =>
        { s with
          shared.generation := s.shared.generation + 1
          history := s.history.generationBegun (s.shared.generation + 1) target })
      fun _ => NoCurrentBlock := by
    refine triple_fed_bind (preserves_modify fun _ => rfl) fun _ => triple_modify kept_fed hnone
      fun s hi _ => ⟨fun hne => absurd rfl hne, ⟨hi.next_boundary, hi.capacity, hi.placed,
        fun b hb => ?_⟩, fun b hb => ?_⟩
    · have := hi.generation_le b hb
      show b.generation ≤ s.shared.generation + 1
      omega
    · have := hi.generation_le b hb
      show b.generation ≠ s.shared.generation + 1
      omega
  exact triple_ite (fun _ => triple_fed_bind (preserves_modify fun _ => rfl) fun _ => hbegin)
    fun _ => hbegin

theorem handleCommand_placed (hcfg : cfg.Valid) (command : Command) :
    (placedContract cfg .scheduler).Triple (FeedOrder (S := S)) (handleCommand cfg command)
      fun _ => FeedOrder := by
  have hstable := placedContract_stable (S := S) cfg .scheduler
  have hdirty : (setClassificationsDirty : Prog (EngineState S) Unit).Preserves positionView :=
    preserves_modify fun _ => rfl
  rcases command with ⟨type, firstFrame, lastFrame⟩
  cases type with
  | play =>
    exact triple_fed (preserves_atomically_bind (fun _ => rfl) fun _ =>
      preserves_ite hdirty (preserves_pure _))
  | pause =>
    exact triple_fed (preserves_atomically_bind (fun _ => rfl) fun _ =>
      preserves_ite hdirty (preserves_pure _))
  | seek =>
    exact (beginAudioGeneration_placed (seek_boundary hcfg firstFrame) true).bind hstable
      fun _ => triple_fed hdirty
  | setViewport => exact triple_fed (preserves_modify fun _ => rfl)
  | edit =>
    refine triple_fed_bind (preserves_modify fun _ => rfl) fun _ => triple_fed_bind
      (preserves_positionView (invalidateVersions_audioView cfg _ _)) fun _ =>
        triple_currentFrame_placed fun frame hframe => triple_fed_bind (preserves_read _)
          fun suspend => ?_
    exact (beginAudioGeneration_placed hframe suspend).bind hstable fun _ =>
      triple_fed (preserves_modify fun _ => rfl)
  | stop =>
    exact triple_fed (preserves_modify_bind (fun _ => rfl) fun _ =>
      preserves_modify fun _ => rfl)

theorem shutdownRequested_positionView :
    (shutdownRequested : Prog (EngineState S) Bool).Preserves positionView :=
  preserves_read_bind fun _ => preserves_ite (preserves_pure _) (preserves_read _)

theorem readCommands_placed (hcfg : cfg.Valid) (passes : ℕ) :
    (placedContract cfg .scheduler).Triple (FeedOrder (S := S)) (readCommands cfg passes)
      fun _ => FeedOrder := by
  have hstable := placedContract_stable (S := S) cfg .scheduler
  induction passes with
  | zero => exact triple_fed_pure _
  | succ n ih =>
    refine triple_fed_bind (preserves_read _) fun front => ?_
    cases front with
    | none => exact triple_fed_pure _
    | some command =>
      exact triple_fed_bind (preserves_modify fun _ => rfl) fun _ =>
        (handleCommand_placed hcfg command).bind hstable fun _ =>
          triple_fed_bind shutdownRequested_positionView fun _ => triple_ite (fun _ => ih)
            fun _ => triple_fed_pure _

/-- The scheduler publishes for a generation that is the latest one. -/
def FedIn (generation : Int) (s : EngineState S) : Prop :=
  s.shared.generation = generation ∧ FeedOrder s

theorem kept_fedIn {generation : Int} :
    (placedContract cfg .scheduler).Kept (FedIn (S := S) generation) :=
  fun _ _ h hr _ => ⟨hr.1.generation.trans h.1, h.2.rely hr.1⟩

theorem publishLoop_placed (hcfg : cfg.Valid) (generation : Int) (n : ℕ) :
    (placedContract cfg .scheduler).Triple (FedIn (S := S) generation)
      (TimelineAudioPublisher.publishLoop cfg generation n) fun _ => FeedOrder := by
  have hstable := placedContract_stable (S := S) cfg .scheduler
  have hpure : (placedContract cfg .scheduler).Triple (FedIn (S := S) generation)
      (Pure.pure ()) fun _ => FeedOrder := triple_pure kept_fed fun _ _ h => h.2
  induction n with
  | zero => exact hpure
  | succ n ih =>
    refine Triple.bind hstable (Q := fun _ => FedIn generation)
      (triple_schedulerPosition kept_fedIn (fun _ => kept_fedIn) fun s hi hs => ?_)
      fun _ => triple_ite (fun _ => ih) fun _ => hpure
    rcases TimelineAudioPublisher.publishNext_cases cfg generation s with
      ⟨samples, slot, free, hlast, -, hfree, heq⟩ | ⟨heq, -⟩
    · obtain ⟨rfl, hfed⟩ := hs
      rw [heq]
      exact ⟨hi.pushed hcfg hlast hfree, rfl, hfed.pushed hcfg⟩
    · rw [heq]
      exact ⟨hi, hs⟩

theorem publish_placed (hcfg : cfg.Valid) {frame : Int} (hframe : BlockBoundary cfg frame)
    (generation : Int) :
    (placedContract cfg .scheduler).Triple (FedIn (S := S) generation)
      (TimelineAudioPublisher.publish cfg frame generation) fun _ => FeedOrder := by
  have hstable := placedContract_stable (S := S) cfg .scheduler
  refine Triple.bind hstable (Q := fun _ => FedIn generation)
    (triple_modify kept_fedIn kept_fedIn fun s hi hs => ⟨fun hne => absurd rfl hne, ?_, hs.1,
      hs.2.skip (le_max_left _ _)⟩) fun _ => publishLoop_placed hcfg generation _
  refine ⟨?_, hi.capacity, hi.placed, hi.generation_le⟩
  show BlockBoundary cfg (max s.sched.nextFrameToPublish frame)
  rcases le_total s.sched.nextFrameToPublish frame with hle | hle
  · exact (max_eq_right hle).symm ▸ hframe
  · exact (max_eq_left hle).symm ▸ hi.next_boundary

theorem readyLeadBlocks_placed :
    (placedContract cfg .scheduler).Triple (FeedOrder (S := S)) (readyLeadBlocks cfg)
      fun _ => FeedOrder :=
  triple_currentFrame_placed fun _ _ => triple_fed (preserves_read _)

theorem feedAudioQueue_placed (hcfg : cfg.Valid) :
    (placedContract cfg .scheduler).Triple (FeedOrder (S := S)) (feedAudioQueue cfg)
      fun _ => FeedOrder := by
  have hstable := placedContract_stable (S := S) cfg .scheduler
  refine triple_currentFrame_placed fun frame hframe => triple_ite (fun _ => ?_) fun _ => ?_
  · refine Triple.bind hstable (reset_placed kept_fed ⟨hcfg.block_dvd_total,
      hcfg.totalFrames_pos.le, le_rfl⟩ fun s hi hs => hs.skip hi.next_boundary.2.2)
      fun _ => triple_fed (preserves_atomically_bind (fun _ => rfl) fun _ =>
        preserves_ite (preserves_modify fun _ => rfl) (preserves_pure _))
  · refine Triple.bind hstable (triple_read (Q := fun generation => FedIn generation)
      (fun s hne => absurd rfl hne) kept_fed (fun _ => kept_fedIn) fun s _ hs => ⟨rfl, hs⟩)
      fun generation => (publish_placed hcfg hframe generation).bind hstable fun _ =>
        readyLeadBlocks_placed.bind hstable fun lead => triple_fed_bind (preserves_read _)
          fun entire => triple_fed ?_
    exact preserves_read_bind fun _ => preserves_ite (preserves_ite
      (preserves_modify fun _ => rfl) (preserves_pure _)) (preserves_pure _)

/-- The scheduler is about to start on a queue without blocks of the latest generation. -/
def StartFed (s : EngineState S) : Prop := FeedOrder s ∧ NoCurrentBlock s

theorem kept_startFed : (placedContract cfg .scheduler).Kept (StartFed (S := S)) :=
  kept_fed.and fun _ _ h hr _ => h.rely hr.1

theorem StartFed.of_view {s s' : EngineState S} (hv : positionView s' = positionView s)
    (h : StartFed s) : StartFed s' := by
  refine ⟨h.1.of_view hv, ?_⟩
  simp only [positionView, Prod.mk.injEq] at hv
  rw [NoCurrentBlock, hv.1, hv.2.2]
  exact h.2

theorem triple_startFed_bind {α β : Type} {p : Prog (EngineState S) α}
    {g : α → Prog (EngineState S) β} {Q : β → EngineState S → Prop}
    (hp : p.Preserves positionView)
    (hg : ∀ a, (placedContract cfg .scheduler).Triple (StartFed) (g a) Q) :
    (placedContract cfg .scheduler).Triple (StartFed) (p >>= g) Q :=
  (triple_positionView hp kept_startFed fun _ _ => StartFed.of_view).bind
    (placedContract_stable cfg .scheduler) hg

theorem start_placed :
    (placedContract cfg .scheduler).Triple (StartFed (S := S)) (start cfg)
      fun _ => FeedOrder := by
  have hstable := placedContract_stable (S := S) cfg .scheduler
  refine triple_startFed_bind (preserves_read _) fun started => triple_ite (fun _ => ?_) fun _ =>
    triple_pure kept_fed fun _ _ h => h.1
  refine triple_startFed_bind (preserves_modify fun _ => rfl) fun _ =>
    triple_startFed_bind (preserves_modify fun _ => rfl) fun _ =>
      triple_startFed_bind (preserves_modify fun _ => rfl) fun _ =>
        (currentFrame_placed kept_startFed fun _ _ => StartFed.of_view).bind hstable
          fun frame => ?_
  refine Triple.of_pre (fun s h => h.1) fun hframe => ?_
  refine Triple.bind hstable (reset_placed
    (fun s s' h hr hi => ⟨h.1, kept_startFed s s' h.2 hr hi⟩) hframe
    fun s _ h => h.2.2.feedOrder frame) fun _ => triple_fed (preserves_modify fun _ => rfl)

end Scheduler

/-- The engine empties the queue before it starts the scheduler. -/
theorem Engine.start_placed :
    (placedContract cfg .scheduler).Triple (FeedOrder (S := S)) (start cfg)
      fun _ => FeedOrder := by
  have hstable := placedContract_stable (S := S) cfg .scheduler
  refine triple_fed_bind (preserves_read _) fun _ => triple_ite (fun _ => ?_)
    fun _ => triple_fed_pure _
  refine Triple.bind hstable (Q := fun _ => Scheduler.StartFed)
    (triple_modify kept_fed Scheduler.kept_startFed fun s hi _ => ?_) fun _ => ?_
  · refine ⟨fun hne => absurd rfl hne, ⟨hi.next_boundary, ?_, nofun, nofun⟩, ⟨nofun, ?_⟩, nofun⟩
    · exact (BoundedFifo.capacity_reset s.readyQueue).trans hi.capacity
    · exact List.Pairwise.nil
  · refine Scheduler.triple_startFed_bind (preserves_modify fun _ => rfl) fun _ =>
      Scheduler.triple_startFed_bind (preserves_modify fun _ => rfl) fun _ =>
        Scheduler.triple_startFed_bind (preserves_positionView
          (preserves_audioView Executor.start_contentView)) fun _ =>
            Scheduler.start_placed.bind hstable fun _ => triple_fed (preserves_modify fun _ => rfl)

end Anasa
