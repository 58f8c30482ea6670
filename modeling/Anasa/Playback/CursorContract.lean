import Anasa.Concurrency.Pool
import Anasa.Model.AudioBlockProcessor
import Anasa.Model.Engine
import Anasa.Playback.CursorSteps

/-!
# The code obeys the protocol

`cursorView` reads the state of the protocol off an engine state. `cursorContract` lifts the
invariants and what the two sides rely on to engine states, and the triples below say that
`beginGeneration`, `currentFrame` and the callback are made of steps of the protocol.
-/

namespace Anasa

open Concurrency Contract

variable {S : Type} {cfg : Config}

/-- The state of the protocol in an engine state. -/
def cursorView (s : EngineState S) : CursorState where
  generation := s.shared.generation
  target := s.shared.targetFrame
  cursor := s.shared.nextUnconsumedFrame
  cursorGeneration := s.shared.audioCursorGeneration
  audio := s.audio
  history := { s.history with callbacks := [] }

theorem CursorInv.init (hcfg : cfg.Valid) [Zero S] :
    CursorInv cfg (cursorView (EngineState.init cfg : EngineState S)) := by
  have hzero : BlockBoundary cfg 0 := ⟨Int.dvd_zero _, le_rfl, hcfg.totalFrames_pos.le⟩
  exact ⟨{
      generation_pos := le_rfl
      audio_nonneg := le_rfl
      audio_le := Int.zero_le_ofNat 1
      cursor_pos := le_rfl
      cursor_le := le_max_left _ _
      target_boundary := hzero
      cursor_boundary := hzero
      expected_boundary := hzero
      target_eq := fun _ => rfl
      progress := fun _ _ => .inl rfl
      results := nofun
      results_le := nofun
      results_mono := .nil }, {
      stores_seeks := nofun
      audioSeeks_le := le_rfl
      adopting := nofun
      expected_le := fun _ _ _ => le_rfl
      noRewind := fun _ => .nil
      stores_le := nofun
      target_ge := fun _ _ _ => le_rfl }⟩

/-! ## The contract -/

def cursorRely : ThreadId → EngineState S → EngineState S → Prop
  | .scheduler, s, s' => SchedulerRely (cursorView s) (cursorView s')
  | .audio, s, s' => AudioRely (cursorView s) (cursorView s')
  | .client, _, _ => True
  | .worker _, _, _ => True

def cursorContract (cfg : Config) (i : ThreadId) : Contract (EngineState S) where
  inv s := CursorInv cfg (cursorView s)
  rely := cursorRely i
  guar s s' := ∀ j, j ≠ i → cursorRely j s s'

theorem cursorRely_refl (i : ThreadId) (s : EngineState S) : cursorRely i s s := by
  cases i with
  | scheduler => exact .refl _
  | audio => exact .refl _
  | client => trivial
  | worker n => trivial

theorem cursorRely_trans {i : ThreadId} {s₁ s₂ s₃ : EngineState S} (h : cursorRely i s₁ s₂)
    (h' : cursorRely i s₂ s₃) : cursorRely i s₁ s₃ := by
  cases i with
  | scheduler => exact SchedulerRely.trans h h'
  | audio => exact AudioRely.trans h h'
  | client => trivial
  | worker n => trivial

theorem cursorContract_stable (cfg : Config) (i : ThreadId) :
    (cursorContract cfg i : Contract (EngineState S)).Stable :=
  ⟨fun {_ s} _ => cursorRely_refl i s, cursorRely_trans⟩

theorem cursorGuar_of_view {i : ThreadId} {s s' : EngineState S}
    (h : cursorView s' = cursorView s) : (cursorContract cfg i).guar s s' := by
  intro j _
  cases j with
  | scheduler => exact (h ▸ .refl _ : SchedulerRely (cursorView s) (cursorView s'))
  | audio => exact (h ▸ .refl _ : AudioRely (cursorView s) (cursorView s'))
  | client => trivial
  | worker n => trivial

theorem cursorGuar_scheduler {s s' : EngineState S}
    (h : AudioRely (cursorView s) (cursorView s')) : (cursorContract cfg .scheduler).guar s s' := by
  intro j hj
  cases j with
  | scheduler => exact absurd rfl hj
  | audio => exact h
  | client => trivial
  | worker n => trivial

theorem cursorGuar_audio {s s' : EngineState S}
    (h : SchedulerRely (cursorView s) (cursorView s')) : (cursorContract cfg .audio).guar s s' := by
  intro j hj
  cases j with
  | scheduler => exact h
  | audio => exact absurd rfl hj
  | client => trivial
  | worker n => trivial

/-- A program that leaves the protocol alone. -/
theorem triple_outsideCursor {i : ThreadId} {α : Type} {p : Prog (EngineState S) α}
    {K : CursorState → Prop} (hp : p.Preserves cursorView)
    (hK : (cursorContract cfg i).Kept fun s : EngineState S => K (cursorView s)) :
    (cursorContract cfg i).Triple (fun s => K (cursorView s)) p fun _ s => K (cursorView s) :=
  triple_of_preserves hp hK fun _ s' h hi hs =>
    ⟨cursorGuar_of_view h, show CursorInv cfg (cursorView s') from h ▸ hi, h ▸ hs⟩

/-! ## The callback -/

section

variable {generation frame : Int}

theorem kept_audio {K : CursorState → Prop}
    (h : ∀ {c c'}, AudioRely c c' → AckInv cfg c' → K c → K c') :
    (cursorContract cfg .audio).Kept fun s : EngineState S => K (cursorView s) :=
  fun _ _ hs hr hi => h hr hi.ack hs

theorem kept_audioSettled : (cursorContract cfg .audio).Kept
    fun s : EngineState S => AudioSettled (cursorView s) :=
  kept_audio fun hr _ h => hr.settled h

theorem kept_audioFollows : (cursorContract cfg .audio).Kept
    fun s : EngineState S => AudioFollows generation frame (cursorView s) :=
  kept_audio fun hr _ h => hr.follows h

theorem kept_audioFollowsSome : (cursorContract cfg .audio).Kept
    fun s : EngineState S => ∃ frame, AudioFollows generation frame (cursorView s) :=
  fun _ _ ⟨frame, h⟩ hr _ => ⟨frame, hr.follows h⟩

/-- An access of the callback that is a step of the protocol. -/
theorem triple_audioAtomically {α : Type} {P : EngineState S → Prop}
    {Q : α → EngineState S → Prop} {f : EngineState S → α × EngineState S}
    (hP : (cursorContract cfg .audio).Kept P) (hQ : ∀ a, (cursorContract cfg .audio).Kept (Q a))
    (h : ∀ s, CursorInv cfg (cursorView s) → P s →
      CursorInv cfg (cursorView (f s).2) ∧
        SchedulerRely (cursorView s) (cursorView (f s).2) ∧ Q (f s).1 (f s).2) :
    (cursorContract cfg .audio).Triple P (.atomically f) Q :=
  triple_atomically hP hQ fun s hi hs =>
    let ⟨hinv, hrely, hq⟩ := h s hi hs
    ⟨cursorGuar_audio hrely, hinv, hq⟩

theorem triple_audioModify {P Q : EngineState S → Prop} {f : EngineState S → EngineState S}
    (hP : (cursorContract cfg .audio).Kept P) (hQ : (cursorContract cfg .audio).Kept Q)
    (h : ∀ s, CursorInv cfg (cursorView s) → P s →
      CursorInv cfg (cursorView (f s)) ∧ SchedulerRely (cursorView s) (cursorView (f s)) ∧
        Q (f s)) :
    (cursorContract cfg .audio).Triple P (.modify f) fun _ => Q :=
  triple_modify hP hQ fun s hi hs =>
    let ⟨hinv, hrely, hq⟩ := h s hi hs
    ⟨cursorGuar_audio hrely, hinv, hq⟩

end

namespace AudioBlockProcessor

variable {generation frame : Int}

theorem adoptGeneration_triple (hcfg : cfg.Valid) :
    (cursorContract cfg .audio).Triple
      (fun s : EngineState S => AudioLoaded generation (cursorView s) ∧
        s.audio.generation ≠ generation)
      (adoptGeneration cfg generation)
      fun _ s => ∃ frame, AudioFollows generation frame (cursorView s) := by
  have hstable := cursorContract_stable (S := S) cfg .audio
  have hload : (cursorContract cfg .audio).Triple
      (fun s : EngineState S => AudioLoaded generation (cursorView s) ∧
        s.audio.generation ≠ generation)
      (.atomically fun s : EngineState S =>
        let frame := alignFrameToAudioBlock s.shared.targetFrame cfg.audio.audioBlockFrames
        (frame, { s with
          audio := ⟨generation, frame⟩
          history := s.history.targetLoaded }))
      fun frame s => AudioTargetLoaded generation frame (cursorView s) := by
    refine triple_audioAtomically
      (kept_audio (K := fun c => AudioLoaded generation c ∧ c.audio.generation ≠ generation)
        fun hr _ h => ⟨hr.loaded h.1, hr.audio ▸ h.2⟩)
      (fun _ => kept_audio fun hr _ h => hr.targetLoaded h) fun s hi hs => ?_
    dsimp only
    rw [show alignFrameToAudioBlock s.shared.targetFrame cfg.audio.audioBlockFrames =
      s.shared.targetFrame from hi.ack.target_boundary.align]
    exact hi.loadTarget hcfg hs.1 hs.2
  refine hload.bind hstable fun frame => Triple.bind hstable
    (triple_audioModify (Q := fun s => AudioStored generation frame (cursorView s))
      (kept_audio fun hr _ h => hr.targetLoaded h) (kept_audio fun hr _ h => hr.stored h)
      fun s hi hs => hi.storeCursor hs) fun _ => ?_
  refine triple_audioModify (kept_audio fun hr _ h => hr.stored h) kept_audioFollowsSome
    fun s hi hs => ?_
  obtain ⟨hi', hr, hf⟩ := hi.acknowledge hs
  exact ⟨hi', hr, frame, hf⟩

theorem followGeneration_triple (hcfg : cfg.Valid) :
    (cursorContract cfg .audio).Triple (fun s : EngineState S => AudioSettled (cursorView s))
      (followGeneration cfg)
      fun generation s => ∃ frame, AudioFollows generation frame (cursorView s) := by
  have hstable := cursorContract_stable (S := S) cfg .audio
  have hloaded : ∀ generation, (cursorContract cfg .audio).Kept
      fun s : EngineState S => AudioLoaded generation (cursorView s) :=
    fun _ => kept_audio fun hr _ h => hr.loaded h
  refine (triple_read (Q := fun generation s => AudioLoaded generation (cursorView s))
    (fun s => cursorGuar_of_view rfl) kept_audioSettled hloaded
    fun s hi hs => hi.ack.audioLoaded hs).bind hstable fun generation => ?_
  have hown : ∀ own : Int, (cursorContract cfg .audio).Kept
      fun s : EngineState S => AudioLoaded generation (cursorView s) ∧ s.audio.generation = own :=
    fun own => kept_audio (K := fun c => AudioLoaded generation c ∧ c.audio.generation = own)
      fun hr _ h => ⟨hr.loaded h.1, hr.audio ▸ h.2⟩
  refine (triple_read
    (Q := fun own s => AudioLoaded generation (cursorView s) ∧ s.audio.generation = own)
    (fun s => cursorGuar_of_view rfl) (hloaded generation) hown
    fun s _ hs => ⟨hs, rfl⟩).bind hstable fun own => triple_ite (fun hne => ?_) fun heq => ?_
  · refine Triple.bind hstable ((adoptGeneration_triple hcfg).conseq (fun s _ hs => ?_)
      fun _ _ _ h => h) fun _ => triple_pure kept_audioFollowsSome fun _ _ h => h
    exact ⟨hs.1, hs.2 ▸ hne⟩
  · refine triple_pure kept_audioFollowsSome fun s _ hs => ?_
    exact ⟨_, hs.1.follows (hs.2.trans (not_not.mp heq))⟩

theorem discardStaleBlocks_cursorView (generation frame : Int) (n : ℕ) :
    (discardStaleBlocks generation frame n :
      Prog (EngineState S) (Option (AudioBlock S))).Preserves cursorView := by
  induction n with
  | zero => exact Prog.preserves_pure _
  | succ n ih =>
    refine Prog.preserves_read_bind fun head => ?_
    cases head with
    | none => exact Prog.preserves_pure _
    | some head =>
      exact Prog.preserves_ite (Prog.preserves_modify_bind (fun _ => rfl) fun _ => ih)
        (Prog.preserves_pure _)

theorem playBlock_cursorView (generation frame : Int) (output : AudioOutputBuffer S)
    (head : Option (AudioBlock S)) :
    (playBlock cfg generation frame output head).Preserves cursorView := by
  cases head with
  | none => exact Prog.preserves_pure _
  | some head =>
    exact Prog.preserves_ite
      (Prog.preserves_modify_bind (fun _ => rfl) fun _ => Prog.preserves_pure _)
      (Prog.preserves_pure _)

theorem consumeBlock_triple (hcfg : cfg.Valid) (output : AudioOutputBuffer S)
    (head : Option (AudioBlock S)) :
    (cursorContract cfg .audio).Triple
      (fun s : EngineState S => AudioFollows generation frame (cursorView s))
      (consumeBlock cfg generation frame output head)
      fun _ s => AudioSettled (cursorView s) := by
  have hstable := cursorContract_stable (S := S) cfg .audio
  have hsettled : ∀ result : AudioProcessResult × AudioOutputBuffer S,
      (cursorContract cfg .audio).Triple
        (fun s : EngineState S => AudioFollows generation frame (cursorView s)) (pure result)
        fun _ s => AudioSettled (cursorView s) :=
    fun result => triple_pure kept_audioSettled fun s hi hs => hs.settled hi.ack.generation_pos
  refine (triple_outsideCursor (Prog.preserves_read _) kept_audioFollows).bind hstable fun _ =>
    triple_ite (fun _ => hsettled _) fun _ => triple_ite (fun _ => hsettled _) fun hlt => ?_
  refine (triple_outsideCursor (playBlock_cursorView generation frame output head)
    kept_audioFollows).bind hstable fun played => ?_
  refine (triple_audioModify kept_audioFollows kept_audioSettled fun s hi hs => ?_).bind hstable
    fun _ => triple_pure kept_audioSettled fun _ _ h => h
  obtain ⟨hi', hr, hf⟩ := hi.advance hcfg hs (by omega)
  exact ⟨hi', hr, hf.settled hi'.ack.generation_pos⟩

/-- **The callback obeys the protocol.** -/
theorem processBlock_triple [Zero S] (hcfg : cfg.Valid) (output : AudioOutputBuffer S) :
    (cursorContract cfg .audio).Triple (fun s : EngineState S => AudioSettled (cursorView s))
      (processBlock cfg output) fun _ s => AudioSettled (cursorView s) := by
  have hstable := cursorContract_stable (S := S) cfg .audio
  have hnothing : ∀ result : AudioProcessResult × AudioOutputBuffer S,
      (cursorContract cfg .audio).Triple (fun s : EngineState S => AudioSettled (cursorView s))
        (pure result) fun _ s => AudioSettled (cursorView s) :=
    fun result => triple_pure kept_audioSettled fun _ _ h => h
  refine triple_ite (fun _ => hnothing _) fun _ => triple_ite (fun _ => hnothing _) fun _ => ?_
  refine (triple_outsideCursor (Prog.preserves_read _) kept_audioSettled).bind hstable fun _ =>
    triple_ite (fun _ => hnothing _) fun _ => ?_
  refine (followGeneration_triple hcfg).bind hstable fun generation => ?_
  refine (triple_read (Q := fun frame s => AudioFollows generation frame (cursorView s))
    (fun s => cursorGuar_of_view rfl) kept_audioFollowsSome (fun _ => kept_audioFollows)
    fun s _ hs => ?_).bind hstable fun frame => ?_
  · obtain ⟨frame, hf⟩ := hs
    have hframe : s.audio.expectedBlockStartFrame = frame :=
      congrArg AudioState.expectedBlockStartFrame hf.audio
    exact hframe ▸ hf
  · refine (triple_outsideCursor (Prog.preserves_read _) kept_audioFollows).bind hstable
      fun capacity => ?_
    refine (triple_outsideCursor (discardStaleBlocks_cursorView generation frame capacity)
      kept_audioFollows).bind hstable fun head => ?_
    exact consumeBlock_triple hcfg _ head

end AudioBlockProcessor

/-! ## The scheduler -/

section

theorem kept_scheduler {K : CursorState → Prop}
    (h : ∀ {c c'}, SchedulerRely c c' → AckInv cfg c' → K c → K c') :
    (cursorContract cfg .scheduler).Kept fun s : EngineState S => K (cursorView s) :=
  fun _ _ hs hr hi => h hr hi.ack hs

theorem kept_cursorAt {editing : Bool} : (cursorContract cfg .scheduler).Kept
    fun s : EngineState S => CursorAt editing (cursorView s) :=
  kept_scheduler fun hr _ h => hr.cursorAt h

theorem kept_cursorBegun {editing : Bool} : (cursorContract cfg .scheduler).Kept
    fun s : EngineState S => CursorBegun editing (cursorView s) :=
  kept_scheduler fun hr _ h => hr.cursorBegun h

/-- `currentFrame` returns `frame`, in some generation. -/
def FrameFound (cfg : Config) (editing : Bool) (frame : Int) (s : EngineState S) : Prop :=
  ∃ generation, FrameKnown cfg editing generation frame (cursorView s)

theorem kept_frameFound {editing : Bool} {frame : Int} :
    (cursorContract cfg .scheduler).Kept (FrameFound (S := S) cfg editing frame) :=
  fun _ _ ⟨generation, h⟩ hr _ => ⟨generation, hr.frameKnown h⟩

/-- An access of the scheduler that is a step of the protocol. -/
theorem triple_cursorAtomically {α : Type} {P : EngineState S → Prop}
    {Q : α → EngineState S → Prop} {f : EngineState S → α × EngineState S}
    (hP : (cursorContract cfg .scheduler).Kept P)
    (hQ : ∀ a, (cursorContract cfg .scheduler).Kept (Q a))
    (h : ∀ s, CursorInv cfg (cursorView s) → P s →
      CursorInv cfg (cursorView (f s).2) ∧ AudioRely (cursorView s) (cursorView (f s).2) ∧
        Q (f s).1 (f s).2) :
    (cursorContract cfg .scheduler).Triple P (.atomically f) Q :=
  triple_atomically hP hQ fun s hi hs =>
    let ⟨hinv, hrely, hq⟩ := h s hi hs
    ⟨cursorGuar_scheduler hrely, hinv, hq⟩

theorem triple_cursorModify {P Q : EngineState S → Prop} {f : EngineState S → EngineState S}
    (hP : (cursorContract cfg .scheduler).Kept P) (hQ : (cursorContract cfg .scheduler).Kept Q)
    (h : ∀ s, CursorInv cfg (cursorView s) → P s →
      CursorInv cfg (cursorView (f s)) ∧ AudioRely (cursorView s) (cursorView (f s)) ∧ Q (f s)) :
    (cursorContract cfg .scheduler).Triple P (.modify f) fun _ => Q :=
  triple_modify hP hQ fun s hi hs =>
    let ⟨hinv, hrely, hq⟩ := h s hi hs
    ⟨cursorGuar_scheduler hrely, hinv, hq⟩

end

namespace PlaybackProtocol

variable {editing : Bool}

/-- **`currentFrame` obeys the protocol**, and its result is right for the generation. -/
theorem currentFrame_triple (hcfg : cfg.Valid) :
    (cursorContract cfg .scheduler).Triple
      (fun s : EngineState S => CursorAt editing (cursorView s)) (currentFrame cfg)
      fun frame s => FrameFound cfg editing frame s := by
  have hstable := cursorContract_stable (S := S) cfg .scheduler
  have hread : ∀ generation, (cursorContract cfg .scheduler).Kept
      fun s : EngineState S => GenerationRead editing generation (cursorView s) :=
    fun _ => kept_scheduler fun hr _ h => hr.generationRead h
  have hcursor : ∀ generation cursorGeneration, (cursorContract cfg .scheduler).Kept
      fun s : EngineState S =>
        CursorGenerationRead editing generation (cursorGeneration == generation) (cursorView s) :=
    fun _ _ => kept_scheduler fun hr hi h => hr.cursorGenerationRead hi h
  refine Triple.bind hstable (triple_read
    (Q := fun generation s => GenerationRead editing generation (cursorView s))
    (fun s => cursorGuar_of_view rfl) kept_cursorAt hread fun s _ hs => ⟨hs, rfl⟩)
    fun generation => ?_
  refine Triple.bind hstable (triple_cursorAtomically
    (Q := fun cursorGeneration s =>
      CursorGenerationRead editing generation (cursorGeneration == generation) (cursorView s))
    (hread generation) (hcursor generation) fun s hi hs => hi.readCursorGeneration hs)
    fun cursorGeneration => triple_ite (fun hne => ?_) fun heq => ?_
  · have hfalse : (cursorGeneration == generation) = false := beq_eq_false_iff_ne.mpr hne
    have hkept := hcursor generation cursorGeneration
    rw [hfalse] at hkept ⊢
    refine Triple.bind hstable (triple_read
      (Q := fun frame => FrameFound cfg editing (clampTimelineBoundary frame cfg.totalFrames))
      (fun s => cursorGuar_of_view rfl) hkept (fun _ => kept_frameFound)
      fun s hi hs => ⟨generation, hi.target_known hcfg hs⟩) fun frame =>
        triple_pure kept_frameFound fun _ _ h => h
  · have htrue : (cursorGeneration == generation) = true := beq_iff_eq.mpr (not_not.mp heq)
    have hkept := hcursor generation cursorGeneration
    rw [htrue] at hkept ⊢
    refine Triple.bind hstable (triple_cursorAtomically
      (Q := fun frame => FrameFound cfg editing (clampTimelineBoundary frame cfg.totalFrames))
      hkept (fun _ => kept_frameFound) fun s hi hs => ?_) fun frame =>
        triple_pure kept_frameFound fun _ _ h => h
    obtain ⟨hi', hr, hk⟩ := hi.readCursor hcfg hs
    exact ⟨hi', hr, generation, hk⟩

/-- **`beginGeneration` obeys the protocol**, at a target that is a block boundary and, if an Edit
chose it, where the Edit settled. -/
theorem beginGeneration_triple {target : Int} (hb : BlockBoundary cfg target) (suspend : Bool) :
    (cursorContract cfg .scheduler).Triple
      (fun s : EngineState S =>
        CursorAt editing (cursorView s) ∧ EditAt editing target (cursorView s))
      (beginGeneration target suspend)
      fun _ s => CursorBegun editing (cursorView s) := by
  have hstable := cursorContract_stable (S := S) cfg .scheduler
  have hkept : (cursorContract cfg .scheduler).Kept fun s : EngineState S =>
      CursorAt editing (cursorView s) ∧ EditAt editing target (cursorView s) :=
    kept_scheduler (K := fun c => CursorAt editing c ∧ EditAt editing target c)
      fun hr _ h => ⟨hr.cursorAt h.1, hr.editAt h.2⟩
  have hpending : (cursorContract cfg .scheduler).Kept fun s : EngineState S =>
      s.history.targetPending = true ∧ s.history.editing = editing ∧
        s.shared.targetFrame = target :=
    kept_scheduler (K := fun c => c.history.targetPending = true ∧ c.history.editing = editing ∧
        c.target = target)
      fun hr _ h => ⟨hr.targetPending.trans h.1, hr.editing.trans h.2.1, hr.target.trans h.2.2⟩
  have hstore : (cursorContract cfg .scheduler).Triple
      (fun s : EngineState S =>
        CursorAt editing (cursorView s) ∧ EditAt editing target (cursorView s))
      (do
        .modify fun s =>
          { s with shared.targetFrame := target, history := s.history.targetStored }
        .modify fun s =>
          { s with
            shared.generation := s.shared.generation + 1
            history := s.history.generationBegun (s.shared.generation + 1) target })
      fun _ s => CursorBegun editing (cursorView s) := by
    refine Triple.bind hstable (triple_cursorModify
      (Q := fun s => s.history.targetPending = true ∧ s.history.editing = editing ∧
        s.shared.targetFrame = target) hkept hpending fun s hi hs => ?_) fun _ =>
      triple_cursorModify hpending kept_cursorBegun fun s hi hs =>
        hi.beginGeneration hs.1 hs.2.1 hs.2.2
    obtain ⟨hi', hr⟩ := hi.storeTarget hs.1 hb hs.2
    exact ⟨hi', hr, rfl, hs.1.editing_eq, rfl⟩
  refine triple_ite (fun _ => Triple.bind hstable (triple_outsideCursor
    (K := fun c => CursorAt editing c ∧ EditAt editing target c)
    (Prog.preserves_modify fun _ => rfl) hkept) fun _ => hstore) fun _ => hstore

end PlaybackProtocol

end Anasa
