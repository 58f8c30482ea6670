import Mathlib.Data.List.Infix
import Anasa.Playback.Supply

/-!
# Playing to the end

Once `feedAudioQueue` has started playback, and while nothing moves or suspends it, at most
`prebufferBlocks` callbacks between two of its calls, each of which finds the urgent window in the
cache, play the rest of the timeline without an underrun; at its end playback is suspended
(`atomicRun_playsThrough`).

1. What is played is counted by callbacks, the supply by callbacks since the latest
   `feedAudioQueue` (`OnTime`).
2. Every step that is neither leaves what playback depends on alone (`throughView`).
-/

namespace Anasa

open Concurrency AudioBlockProcessor

variable {S : Type}

/-! ## Steps -/

namespace AtomicStep

/-- The step neither moves nor suspends playback, and stops nothing. -/
def Quiet (cfg : Config) : AtomicStep S → Prop
  | ⟨.whole call, _⟩ => call.Quiet cfg
  | _ => True

/-- The scheduler feeds the queue. -/
def isFeed : AtomicStep S → Bool
  | ⟨.whole (.scheduler .feedAudioQueue), _⟩ => true
  | _ => false

def isCallback : AtomicStep S → Bool
  | ⟨.whole (.processBlock _), _⟩ => true
  | _ => false

end AtomicStep

/-- The number of callbacks since the latest `feedAudioQueue`. -/
def sinceFeed (steps : List (AtomicStep S)) : ℕ :=
  (steps.reverse.takeWhile fun step => !step.isFeed).countP AtomicStep.isCallback

/-- Nothing moves or suspends playback, and the scheduler and the renderer keep up with the
callbacks. -/
structure InTime [Zero S] (cfg : Config) (kernel : RenderKernel S)
    (before steps : List (AtomicStep S)) : Prop where
  /-- No Pause, Seek, Edit or Stop is handled, and the engine is not stopped; a batch of commands is
  its commands one by one. Each callback has an output for the engine. -/
  quiet : ∀ step ∈ steps, step.Quiet cfg
  /-- The prebuffer lasts until the queue is fed. -/
  pace : ∀ earlier, earlier <+: steps → (sinceFeed earlier : Int) ≤ cfg.scheduler.prebufferBlocks
  /-- The urgent window is in the cache when the queue is fed. -/
  cached : ∀ earlier step, earlier ++ [step] <+: steps → step.isFeed = true →
    UrgentCached cfg
      ((PlaybackProtocol.currentFrame cfg).run (atomicRun cfg kernel (before ++ earlier)).state).1
      (atomicRun cfg kernel (before ++ earlier)).state

section

variable {steps : List (AtomicStep S)} {step : AtomicStep S}

theorem sinceFeed_feed (h : step.isFeed = true) : sinceFeed (steps ++ [step]) = 0 := by
  rw [sinceFeed, List.reverse_append, List.reverse_singleton, List.singleton_append,
    List.takeWhile_cons_of_neg (by simp [h])]
  rfl

theorem sinceFeed_other (h : step.isFeed = false) :
    sinceFeed (steps ++ [step]) = sinceFeed steps + if step.isCallback then 1 else 0 := by
  rw [sinceFeed, List.reverse_append, List.reverse_singleton, List.singleton_append,
    List.takeWhile_cons_of_pos (by simp [h]), List.countP_cons]
  rfl

end

variable {cfg : Config} {kernel : RenderKernel S} {s s' : EngineState S}

namespace InTime

variable [Zero S] {before steps : List (AtomicStep S)} {step : AtomicStep S}

theorem init (h : InTime cfg kernel before (steps ++ [step])) :
    InTime cfg kernel before steps :=
  ⟨fun other hother => h.quiet other (List.mem_append_left _ hother),
    fun _ hearlier => h.pace _ (hearlier.trans (List.prefix_append _ _)),
    fun _ _ hearlier => h.cached _ _ (hearlier.trans (List.prefix_append _ _))⟩

end InTime

/-! ## What has been played -/

/-- The number of blocks from the frame to the end of the timeline. -/
def blocksLeft (cfg : Config) (frame : Int) : ℕ :=
  ((cfg.totalFrames - frame) / cfg.audio.audioBlockFrames).toNat

/-- The records of so many callbacks: they play what is left from the frame on, block by block, and
then nothing. -/
def playedThrough (cfg : Config) (frame : Int) (n : ℕ) : List (Int × AudioProcessResult) :=
  playedBlocks cfg frame (min n (blocksLeft cfg frame)) ++
    List.replicate (n - blocksLeft cfg frame) (cfg.totalFrames, ({} : AudioProcessResult))

/-- After the callbacks `results`, `since` of which have come since the queue was fed. -/
structure OnTime (cfg : Config) (frame : Int) (before results : List (Int × AudioProcessResult))
    (since : ℕ) (s : EngineState S) : Prop where
  callbacks : s.history.callbacks = results ++ before
  played : results.reverse = playedThrough cfg frame results.length
  position_eq : position s =
    frame + (min results.length (blocksLeft cfg frame) : ℕ) * cfg.audio.audioBlockFrames
  running : s.shared.stop = false
  started : s.engineStarted = true
  loop : s.sched.started = true
  playing : results.length < blocksLeft cfg frame → s.shared.playing = true
  supply : Supplied cfg (cfg.scheduler.prebufferBlocks - since) s
  queue : NoneStale s ∨ Supplied cfg cfg.scheduler.prebufferBlocks s

theorem blocksLeft_mul (hcfg : cfg.Valid) {frame : Int} (h : BlockBoundary cfg frame) :
    frame + blocksLeft cfg frame * cfg.audio.audioBlockFrames = cfg.totalFrames := by
  have hle := h.2.2
  have hblocks := Int.ediv_nonneg (show 0 ≤ cfg.totalFrames - frame by omega)
    hcfg.blockFrames_pos.le
  rw [blocksLeft, Int.toNat_of_nonneg hblocks,
    Int.ediv_mul_cancel (Int.dvd_sub hcfg.block_dvd_total h.1)]
  omega

theorem playedThrough_play {frame : Int} {n : ℕ} (h : n < blocksLeft cfg frame) :
    playedThrough cfg frame (n + 1) = playedThrough cfg frame n ++
      [(frame + n * cfg.audio.audioBlockFrames, { playing := true, underrun := false })] := by
  unfold playedThrough
  rw [min_eq_left h, min_eq_left h.le, Nat.sub_eq_zero_of_le h, Nat.sub_eq_zero_of_le h.le,
    playedBlocks_succ, List.replicate_zero, List.append_nil, List.append_nil]

theorem playedThrough_wait {frame : Int} {n : ℕ} (h : blocksLeft cfg frame ≤ n) :
    playedThrough cfg frame (n + 1) =
      playedThrough cfg frame n ++ [(cfg.totalFrames, ({} : AudioProcessResult))] := by
  unfold playedThrough
  rw [min_eq_right h, min_eq_right (h.trans n.le_succ), Nat.succ_sub h, List.replicate_succ',
    List.append_assoc]

/-- What playback depends on. -/
def throughView (s : EngineState S) :=
  (s.shared, s.readyQueue, s.history.callbacks, s.sched.nextFrameToPublish, s.sched.started,
    s.engineStarted)

theorem throughView_of_audioView (h : audioView s = audioView s') :
    throughView s = throughView s' := by
  simp only [audioView, Prod.mk.injEq] at h
  obtain ⟨hshared, -, hqueue, hhistory, -, hnext, hstarted, hengine⟩ := h
  simp only [throughView, hshared, hqueue, hhistory, hnext, hstarted, hengine]

namespace OnTime

variable {frame : Int} {before results : List (Int × AudioProcessResult)} {since : ℕ}

theorem of_view (h : OnTime cfg frame before results since s)
    (hview : throughView s' = throughView s) : OnTime cfg frame before results since s' := by
  simp only [throughView, Prod.mk.injEq] at hview
  obtain ⟨hshared, hqueue, hcallbacks, hnext, hloop, hengine⟩ := hview
  have hposition : position s' = position s := by
    show (if s'.shared.audioCursorGeneration = s'.shared.generation then
      s'.shared.nextUnconsumedFrame else s'.shared.targetFrame) = _
    rw [hshared]
    rfl
  have hsupplied : ∀ blocks, Supplied cfg blocks s → Supplied cfg blocks s' := by
    intro blocks hs
    unfold Supplied
    rwa [hposition, hnext]
  constructor
  case callbacks => exact hcallbacks.trans h.callbacks
  case played => exact h.played
  case position_eq => exact hposition.trans h.position_eq
  case running => exact hshared ▸ h.running
  case started => exact hengine.trans h.started
  case loop => exact hloop.trans h.loop
  case playing =>
    intro hlt
    rw [hshared]
    exact h.playing hlt
  case supply => exact hsupplied _ h.supply
  case queue =>
    apply h.queue.imp _ (hsupplied _)
    intro hclean
    unfold NoneStale
    rwa [hposition, hshared, hqueue]

/-- Blocks are left before the end of the timeline. -/
theorem lt_iff (hcfg : cfg.Valid) (h : OnTime cfg frame before results since s)
    (hframe : BlockBoundary cfg frame) :
    position s < cfg.totalFrames ↔ results.length < blocksLeft cfg frame := by
  have hleft := blocksLeft_mul hcfg hframe
  rw [h.position_eq]
  constructor
  · intro hlt
    by_contra hle
    rw [min_eq_right (not_lt.mp hle)] at hlt
    omega
  · intro hlt
    rw [min_eq_left hlt.le]
    have := Int.mul_lt_mul_of_pos_right (Int.ofNat_lt.mpr hlt) hcfg.blockFrames_pos
    omega

theorem position_end (hcfg : cfg.Valid) (h : OnTime cfg frame before results since s)
    (hframe : BlockBoundary cfg frame) (hle : blocksLeft cfg frame ≤ results.length) :
    position s = cfg.totalFrames := by
  rw [h.position_eq, min_eq_right hle, blocksLeft_mul hcfg hframe]

/-- **Feeding.** -/
theorem feed (hcfg : cfg.Valid) (h : OnTime cfg frame before results since s)
    (hframe : BlockBoundary cfg frame) (hrest : AtRest cfg s)
    (hready : ReadyInv cfg kernel ((Scheduler.feedAudioQueue cfg).run s).2)
    (hcached : UrgentCached cfg (position s) s) :
    OnTime cfg frame before results 0 ((Scheduler.feedAudioQueue cfg).run s).2 := by
  have hlt := h.lt_iff hcfg hframe
  rcases lt_or_ge (position s) cfg.totalFrames with hbefore | hend
  · rw [Scheduler.feedAudioQueue_run hrest.inv.ack hrest.scheduler hbefore] at hready ⊢
    have hsupplied := Scheduler.fed_supplied hcfg (hready.of_view rfl)
      hrest.inv.ack.position_boundary hbefore hcached h.queue
    have hposition := Scheduler.fed_position cfg s
    obtain ⟨queue, last, heq⟩ := Scheduler.fed_eq cfg s
    constructor
    case callbacks =>
      rw [heq]
      exact h.callbacks
    case played => exact h.played
    case position_eq => exact hposition.trans h.position_eq
    case running =>
      rw [heq]
      exact h.running
    case started =>
      rw [heq]
      exact h.started
    case loop =>
      rw [heq]
      exact h.loop
    case playing =>
      intro hleft
      rw [h.playing hleft]
      rfl
    case supply =>
      rw [Nat.cast_zero, Int.sub_zero]
      exact hsupplied
    case queue => exact .inr hsupplied
  · rw [Scheduler.feedAudioQueue_run_end hrest.inv.ack hrest.scheduler hend]
    exact ⟨h.callbacks, h.played, h.position_eq, h.running, h.started, h.loop,
      fun hleft => absurd (hlt.mpr hleft) (not_lt.mpr hend), .inl le_rfl, .inr (.inl le_rfl)⟩

/-- **A callback** plays the next block, or nothing once all have been played. -/
theorem callback [Zero S] (hcfg : cfg.Valid) (h : OnTime cfg frame before results since s)
    (hframe : BlockBoundary cfg frame) (hready : ReadyInv cfg kernel s) (hrest : AtRest cfg s)
    {output : AudioOutputBuffer S} (houtput : EngineOutput cfg output)
    (hpace : (since + 1 : ℕ) ≤ cfg.scheduler.prebufferBlocks) :
    ∃ result, OnTime cfg frame before (result :: results) (since + 1)
      ((recordedCallback cfg output).run s).2 := by
  have hB := hcfg.blockFrames_pos
  have hlt := h.lt_iff hcfg hframe
  rw [recordedCallback, Prog.run_bind]
  rcases lt_or_ge results.length (blocksLeft cfg frame) with hleft | hnone
  · have hnext := h.supply.lt hcfg (by omega) (hlt.mpr hleft)
    obtain ⟨played, history, hcallbacks, hrun, hclean⟩ := processBlock_next hcfg hready hrest
      houtput h.running (h.playing hleft) hnext
    have hposition : position s = frame + results.length * cfg.audio.audioBlockFrames := by
      rw [h.position_eq, min_eq_left hleft.le]
    rw [hrun]
    generalize (cleaned s history).readyQueue.pop = queue at hclean
    have hadvanced : position (advanced cfg (cleaned s history) s.shared.generation (position s)
        queue) = position s + cfg.audio.audioBlockFrames := advanced_position s history queue
    use (frame + results.length * cfg.audio.audioBlockFrames, { playing := true, underrun := false })
    constructor
    case running => exact h.running
    case started => exact h.started
    case loop => exact h.loop
    case playing => exact fun _ => h.playing hleft
    case queue => exact .inl hclean
    case callbacks =>
      show (position s + cfg.audio.audioBlockFrames - cfg.audio.audioBlockFrames, _) ::
        history.callbacks = _
      rw [hcallbacks, h.callbacks, hposition, Int.add_sub_cancel]
      rfl
    case played => rw [List.reverse_cons, h.played, List.length_cons, playedThrough_play hleft]
    case position_eq =>
      rw [List.length_cons, min_eq_left hleft]
      apply hadvanced.trans
      rw [hposition, Nat.cast_succ, Int.add_mul, Int.one_mul, Int.add_assoc]
    case supply =>
      apply h.supply.imp_right
      intro hsupply
      show position (advanced cfg (cleaned s history) s.shared.generation (position s) queue) + _ ≤
        s.sched.nextFrameToPublish
      rw [hadvanced, Nat.cast_succ, ← Int.sub_sub, Int.sub_mul _ 1, Int.one_mul]
      omega
  · have hend := h.position_end hcfg hframe hnone
    rcases processBlock_cases hrest output with ⟨hno, -⟩ | ⟨-, history, hcallbacks, hcase⟩
    · exact absurd (houtput.heard hcfg h.running) hno
    rcases hcase with ⟨-, hrun⟩ | ⟨-, hbefore, -⟩
    · have hcleaned := cleaned_position s history
      rw [hrun]
      use (cfg.totalFrames, {})
      constructor
      case running => exact h.running
      case started => exact h.started
      case loop => exact h.loop
      case queue => exact .inl (NoneStale.cleaned hready history)
      case playing =>
        intro hleft
        exact absurd (Nat.lt_of_succ_lt hleft) (not_lt.mpr hnone)
      case callbacks =>
        show (position s - 0, _) :: history.callbacks = _
        rw [hcallbacks, h.callbacks, hend, Int.sub_zero]
        rfl
      case played => rw [List.reverse_cons, h.played, List.length_cons, playedThrough_wait hnone]
      case position_eq =>
        rw [List.length_cons, min_eq_right (hnone.trans (Nat.le_succ _)), blocksLeft_mul hcfg hframe]
        exact hcleaned.trans hend
      case supply =>
        have hsupply := h.supply.mono hcfg
          (show cfg.scheduler.prebufferBlocks - (since + 1 : ℕ) ≤ _ by omega)
        apply hsupply.imp_right
        intro hnext
        show position (cleaned s history) + _ ≤ s.sched.nextFrameToPublish
        rwa [hcleaned]
    · omega

end OnTime

/-! ## The other calls -/

theorem preserves_throughView {α : Type} {p : Prog (EngineState S) α}
    (hp : p.Preserves audioView) : p.Preserves throughView :=
  hp.mono fun _ _ => throughView_of_audioView

theorem content_throughView {α : Type} {p : Prog (EngineState S) α}
    (hp : p.Preserves contentView) : p.Preserves throughView :=
  preserves_throughView (preserves_audioView hp)

theorem currentFrame_throughView (cfg : Config) :
    (PlaybackProtocol.currentFrame cfg : Prog (EngineState S) Int).Preserves throughView :=
  Prog.preserves_read_bind fun _ => Prog.preserves_atomically_bind (fun _ => rfl) fun _ =>
    Prog.preserves_ite (Prog.preserves_read_bind fun _ => Prog.preserves_pure _)
      (Prog.preserves_atomically_bind (fun _ => rfl) fun _ => Prog.preserves_pure _)

theorem handleCommand_throughView {command : Command} (h : command.type.quiet = true) :
    (Scheduler.handleCommand cfg command : Prog (EngineState S) Unit).Preserves throughView := by
  unfold Scheduler.handleCommand
  rcases htype : command.type <;> rw [htype] at h <;> try cases h
  · exact Prog.preserves_atomically_bind (fun _ => rfl) fun _ =>
      Prog.preserves_ite (Prog.preserves_modify fun _ => rfl) (Prog.preserves_pure _)
  · exact Prog.preserves_modify fun _ => rfl

/-- A call of the scheduler that does not feed the queue. -/
theorem schedulerCall_throughView [Zero S] {call : SchedulerCall}
    (h : Call.Quiet cfg (.scheduler call : Call S)) (hother : call ≠ .feedAudioQueue) :
    (call.program cfg : Prog (EngineState S) Unit).Preserves throughView := by
  cases call with
  | handleCommand command => exact handleCommand_throughView h
  | readCommand command =>
    exact Prog.preserves_read_bind fun _ => Prog.preserves_ite
      (Prog.preserves_modify_bind (fun _ => rfl) fun _ => handleCommand_throughView h)
      (Prog.preserves_pure _)
  | readCommands passes => exact h.elim
  | collectFinishedJobs passes =>
    exact preserves_throughView (Scheduler.collectFinishedJobs_audioView cfg passes)
  | feedAudioQueue => exact absurd rfl hother
  | updateBackgroundAdmission =>
    have hlead : (Scheduler.readyLeadBlocks cfg : Prog (EngineState S) Int).Preserves throughView :=
      (currentFrame_throughView cfg).bind fun _ => Prog.preserves_read _
    exact Prog.preserves_read_bind fun _ => Prog.preserves_ite
      (Prog.preserves_modify fun _ => rfl) (hlead.bind fun _ => Prog.preserves_modify fun _ => rfl)
  | scheduleRenderJobs =>
    exact (currentFrame_throughView cfg).bind fun frame => content_throughView
      ((Scheduler.updateClassifications_contentView cfg frame).bind fun _ =>
        Scheduler.scheduleLoops_contentView cfg frame)
  | dispatchPendingTiles refuses =>
    exact content_throughView (Scheduler.dispatchPendingTiles_contentView cfg refuses)
  | pause => exact h.elim

namespace OnTime

variable {frame : Int} {before results : List (Int × AudioProcessResult)} {since : ℕ}

/-- **Any other call.** -/
theorem other [Zero S] (h : OnTime cfg frame before results since s) (kernel : RenderKernel S)
    {call : Call S} (hquiet : call.Quiet cfg) (hfeed : call ≠ .scheduler .feedAudioQueue)
    (hcallback : ∀ output, call ≠ .processBlock output) :
    OnTime cfg frame before results since ((call.program cfg kernel).run s).2 := by
  cases call with
  | scheduler call =>
    refine h.of_view ((Prog.preserves_read_bind fun _ => Prog.preserves_ite
      (schedulerCall_throughView hquiet ?_) (Prog.preserves_pure _) :
      ((Call.scheduler call).program cfg kernel).Preserves throughView).run s)
    rintro rfl
    exact hfeed rfl
  | lifecycle call =>
    cases call with
    | engineStart =>
      -- A started engine does not start again.
      refine h.of_view ?_
      show throughView ((Engine.start cfg).run s).2 = _
      rw [Engine.start, Prog.run_bind, Prog.run_read, Prog.run_ite, h.started, if_neg (by simp)]
      rfl
    | _ => exact hquiet.elim
  | post command =>
    exact h.of_view ((content_throughView ((Scheduler.post_contentView command).bind fun _ =>
      Prog.preserves_pure _)).run s)
  | requestStop => exact hquiet.elim
  | processBlock output => exact absurd rfl (hcallback output)
  | workerLoop worker faults =>
    exact h.of_view ((content_throughView
      (Executor.workerLoop_contentView cfg kernel faults worker)).run s)

end OnTime

/-! ## Runs -/

theorem AtomicStep.isFeed_iff {step : AtomicStep S} : step.isFeed = true ↔ step = feedStep := by
  constructor
  · intro h
    obtain ⟨move, hmove⟩ := step
    rcases move with c | i | call
    · cases h
    · cases h
    · cases call with
      | scheduler call =>
        cases call with
        | feedAudioQueue => rfl
        | _ => cases h
      | _ => cases h
  · rintro rfl
    rfl

theorem AtomicStep.exists_callback {step : AtomicStep S} (h : step.isCallback = true) :
    ∃ output, step.1 = .whole (.processBlock output) := by
  obtain ⟨move, hmove⟩ := step
  rcases move with c | i | call
  · cases h
  · cases h
  · cases call with
    | processBlock output => exact ⟨output, rfl⟩
    | _ => cases h

section

variable [Zero S] {frame : Int} {before : List (Int × AudioProcessResult)}

theorem atomicRun_append_singleton (cfg : Config) (kernel : RenderKernel S)
    (steps : List (AtomicStep S)) (step : AtomicStep S) :
    atomicRun cfg kernel (steps ++ [step]) =
      Pool.apply (engineMachine cfg kernel) (atomicRun cfg kernel steps) step.1 := by
  rw [atomicRun, List.map_append, engineRun, Pool.run_append]
  rfl

/-- A step that neither feeds the queue nor is a callback. -/
theorem OnTime.step_other {results : List (Int × AudioProcessResult)} {since : ℕ}
    {steps : List (AtomicStep S)} {step : AtomicStep S}
    (h : OnTime cfg frame before results since (atomicRun cfg kernel steps).state)
    (hquiet : step.Quiet cfg) (hfeed : step.isFeed = false) (hcallback : step.isCallback = false) :
    OnTime cfg frame before results since (atomicRun cfg kernel (steps ++ [step])).state := by
  have hbusy := atomicRun_busyPreserve cfg kernel steps
  rw [atomicRun_append_singleton]
  generalize atomicRun cfg kernel steps = p at h hbusy
  obtain ⟨move, hmove⟩ := step
  cases move with
  | start call =>
    dsimp only [Pool.apply]
    split
    · exact h
    · exact h
  | access i =>
    exact h.of_view (throughView_of_audioView (Prod.mk.inj (hbusy.access i).2).1)
  | whole call =>
    dsimp only [Pool.apply]
    split
    · refine h.other kernel hquiet ?_ ?_
      · rintro rfl
        cases hfeed
      · rintro output rfl
        cases hcallback
    · exact h

/-- **Every step** keeps the scheduler in time. -/
theorem OnTime.step {cfg : AcceptedConfig} {results : List (Int × AudioProcessResult)}
    {steps later : List (AtomicStep S)} {step : AtomicStep S} (hframe : BlockBoundary cfg frame)
    (h : OnTime cfg frame before results (sinceFeed later)
      (atomicRun cfg.toConfig kernel (steps ++ later)).state)
    (hintime : InTime cfg.toConfig kernel steps (later ++ [step])) :
    ∃ results, OnTime cfg frame before results (sinceFeed (later ++ [step]))
      (atomicRun cfg.toConfig kernel (steps ++ (later ++ [step]))).state := by
  have hready := atomicRun_ready cfg kernel (steps ++ later)
  have hrest := atomicRun_rest cfg kernel (steps ++ later)
  have hquiet := hintime.quiet step (List.mem_append_right _ List.mem_cons_self)
  rw [← List.append_assoc]
  by_cases hfeed : step.isFeed = true
  · have hcached := hintime.cached later step List.prefix_rfl hfeed
    rw [PlaybackProtocol.currentFrame_run_rest hrest.inv.ack hrest.scheduler] at hcached
    have hnext := atomicRun_ready cfg kernel (steps ++ later ++ [step])
    rw [sinceFeed_feed hfeed]
    rw [AtomicStep.isFeed_iff] at hfeed
    rw [hfeed, atomicRun_feedStep cfg.toConfig kernel _ h.loop] at hnext ⊢
    exact ⟨results, h.feed cfg.valid hframe hrest hnext hcached⟩
  · rw [Bool.not_eq_true] at hfeed
    by_cases hcallback : step.isCallback = true
    · have hpace := hintime.pace _ List.prefix_rfl
      rw [sinceFeed_other hfeed, if_pos hcallback] at hpace ⊢
      obtain ⟨output, houtput⟩ := AtomicStep.exists_callback hcallback
      obtain ⟨move, hmove⟩ := step
      obtain rfl : move = _ := houtput
      obtain ⟨result, hresult⟩ := h.callback cfg.valid hframe hready hrest hquiet hpace
      refine ⟨result :: results, ?_⟩
      have hidle := atomicRun_thread cfg.toConfig kernel ((steps ++ later).map Subtype.val)
        (fun m hm => by
          obtain ⟨other, -, rfl⟩ := List.mem_map.mp hm
          exact other.2) (i := .audio) (by simp)
      rw [atomicRun_append_singleton]
      dsimp only [Pool.apply]
      rw [if_pos (by rw [atomicRun]; exact Option.isNone_iff_eq_none.mpr hidle)]
      exact hresult
    · rw [Bool.not_eq_true] at hcallback
      rw [sinceFeed_other hfeed, if_neg (by simp [hcallback])]
      exact ⟨results, h.step_other hquiet hfeed hcallback⟩

theorem OnTime.run {cfg : AcceptedConfig} {steps later : List (AtomicStep S)}
    (hframe : BlockBoundary cfg frame)
    (h : OnTime cfg frame before [] 0 (atomicRun cfg.toConfig kernel steps).state)
    (hintime : InTime cfg.toConfig kernel steps later) :
    ∃ results, OnTime cfg frame before results (sinceFeed later)
      (atomicRun cfg.toConfig kernel (steps ++ later)).state := by
  induction later using List.reverseRecOn with
  | nil => exact ⟨[], by rwa [List.append_nil]⟩
  | append_singleton later step ih =>
    obtain ⟨results, hbefore⟩ := ih hintime.init
    exact hbefore.step hframe hintime

end

/-- Playback starts in time. -/
theorem FeedStarts.onTime (hcfg : cfg.Valid) (hstarts : FeedStarts cfg s)
    (h : ReadyInv cfg kernel s) (hrest : AtRest cfg s) :
    OnTime cfg (position s) ((Scheduler.feedAudioQueue cfg).run s).2.history.callbacks [] 0
      ((Scheduler.feedAudioQueue cfg).run s).2 := by
  have hplaying := hstarts.starts
  rcases lt_or_ge (position s) cfg.totalFrames with hlt | hend
  · rw [Scheduler.feedAudioQueue_run hrest.inv.ack hrest.scheduler hlt] at hplaying ⊢
    have hfeeds : Scheduler.startsPlayback cfg s = true := by
      simpa [hstarts.suspended] using hplaying
    have hsupplied := Scheduler.startsPlayback_supplied hcfg hfeeds
    obtain ⟨queue, last, heq⟩ := Scheduler.fed_eq cfg s
    constructor
    case callbacks => rfl
    case played => simp [playedThrough, playedBlocks]
    case position_eq =>
      rw [List.length_nil, Nat.zero_min, Nat.cast_zero, Int.zero_mul, Int.add_zero]
      exact Scheduler.fed_position cfg s
    case running =>
      rw [heq]
      exact hstarts.running
    case started =>
      rw [heq]
      by_contra hno
      have hstopped := h.stopped (by simpa using hno)
      rw [hstarts.started] at hstopped
      cases hstopped
    case loop =>
      rw [heq]
      exact hstarts.started
    case playing => exact fun _ => hplaying
    case supply =>
      rw [Nat.cast_zero, Int.sub_zero]
      exact hsupplied
    case queue => exact .inr hsupplied
  · rw [Scheduler.feedAudioQueue_run_end hrest.inv.ack hrest.scheduler hend] at hplaying
    cases hplaying

/-- From the frame on, callbacks play the timeline to its end. -/
structure PlaysThrough (cfg : Config) (frame : Int) (before : List (Int × AudioProcessResult))
    (s : EngineState S) : Prop where
  /-- Each block is played once, in order and without an underrun, and then nothing. -/
  played : ∃ results, s.history.callbacks = results ++ before ∧
    results.reverse = playedThrough cfg frame results.length
  /-- The next `feedAudioQueue` suspends playback exactly if all has been played. -/
  ends : ((Scheduler.feedAudioQueue cfg).run s).2.shared.playing = true ↔
    s.history.callbacks.length < before.length + blocksLeft cfg frame

theorem OnTime.playsThrough (hcfg : cfg.Valid) {frame : Int} (hframe : BlockBoundary cfg frame)
    {before results : List (Int × AudioProcessResult)} {since : ℕ} (hrest : AtRest cfg s)
    (h : OnTime cfg frame before results since s) : PlaysThrough cfg frame before s := by
  refine ⟨⟨results, h.callbacks, h.played⟩, ?_⟩
  have hlt := h.lt_iff hcfg hframe
  rw [h.callbacks, List.length_append, Nat.add_comm, Nat.add_lt_add_iff_left, ← hlt]
  rcases lt_or_ge (position s) cfg.totalFrames with hbefore | hend
  · rw [Scheduler.feedAudioQueue_run hrest.inv.ack hrest.scheduler hbefore]
    dsimp only
    rw [h.playing (hlt.mp hbefore), Bool.true_or]
    exact iff_of_true rfl hbefore
  · rw [Scheduler.feedAudioQueue_run_end hrest.inv.ack hrest.scheduler hend]
    exact iff_of_false nofun (not_lt.mpr hend)

/-- **Playback does not break off.** Once `feedAudioQueue` has started playback, in every run
without a Pause, Seek, Edit or Stop in which the scheduler and the renderer keep up with the
callbacks, these play the rest of the timeline without an underrun, and at its end playback is
suspended. -/
theorem atomicRun_playsThrough [Zero S] (cfg : AcceptedConfig) (kernel : RenderKernel S)
    (steps : List (AtomicStep S))
    (hstarts : FeedStarts cfg.toConfig (atomicRun cfg.toConfig kernel steps).state)
    (later : List (AtomicStep S))
    (h : InTime cfg.toConfig kernel (steps ++ [feedStep]) later) :
    PlaysThrough cfg.toConfig
      ((PlaybackProtocol.currentFrame cfg.toConfig).run
        (atomicRun cfg.toConfig kernel steps).state).1
      (atomicRun cfg.toConfig kernel (steps ++ [feedStep])).state.history.callbacks
      (atomicRun cfg.toConfig kernel (steps ++ [feedStep] ++ later)).state := by
  have hrest := atomicRun_rest cfg kernel steps
  have hframe := hrest.inv.ack.position_boundary
  have hstep := atomicRun_feedStep cfg.toConfig kernel steps hstarts.started
  have hstart := hstarts.onTime cfg.valid (atomicRun_ready cfg kernel steps) hrest
  rw [← hstep] at hstart
  rw [PlaybackProtocol.currentFrame_run_rest hrest.inv.ack hrest.scheduler]
  obtain ⟨results, hontime⟩ := hstart.run hframe h
  exact hontime.playsThrough cfg.valid hframe (atomicRun_rest cfg kernel _)

/-- An engine whose timeline is two blocks long. -/
def shortConfig : AcceptedConfig where
  totalFrames := 256
  audio := { channelCount := 1 }
  scheduler := { prebufferBlocks := 2 }
  int32 := by decide
  accepted := by decide

/-- A callback for the channel of the engine. -/
def shortCallback : AtomicStep ℤ := ⟨.whole (.processBlock ⟨[some fun _ => 0], 128⟩), rfl⟩

/-- Two callbacks play the timeline, and a third one finds nothing to play. -/
def shortPlayback : List (AtomicStep ℤ) :=
  [shortCallback, feedStep, shortCallback, shortCallback, feedStep]

theorem atomicRun_playsThrough_twoBlocks :
    PlaysThrough shortConfig.toConfig
      ((PlaybackProtocol.currentFrame shortConfig.toConfig).run
        (atomicRun shortConfig.toConfig (fun _ f _ => f) chunkRendered).state).1
      (atomicRun shortConfig.toConfig (fun _ f _ => f)
        (chunkRendered ++ [feedStep])).state.history.callbacks
      (atomicRun shortConfig.toConfig (fun _ f _ => f)
        (chunkRendered ++ [feedStep] ++ shortPlayback)).state ∧
    (atomicRun shortConfig.toConfig (fun _ f _ => f)
        (chunkRendered ++ [feedStep] ++ shortPlayback)).state.history.callbacks =
      [(256, {}), (128, { playing := true }), (0, { playing := true })] := by
  have hstarts : (atomicRun shortConfig.toConfig (fun _ f _ => f)
          chunkRendered).state.sched.started = true ∧
      (atomicRun shortConfig.toConfig (fun _ f _ => f) chunkRendered).state.shared.stop = false ∧
      (atomicRun shortConfig.toConfig (fun _ f _ => f)
          chunkRendered).state.shared.playing = false ∧
      ((Scheduler.feedAudioQueue shortConfig.toConfig).run
        (atomicRun shortConfig.toConfig (fun _ f _ => f)
          chunkRendered).state).2.shared.playing = true := by
    decide +kernel
  have hcached : ∀ earlier ∈ shortPlayback.inits,
      frameToChunk ((PlaybackProtocol.currentFrame shortConfig.toConfig).run
        (atomicRun shortConfig.toConfig (fun _ f _ => f)
          (chunkRendered ++ [feedStep] ++ earlier)).state).1 = 0 ∧
      Scheduler.urgentChunkEnd shortConfig.toConfig
        ((PlaybackProtocol.currentFrame shortConfig.toConfig).run
          (atomicRun shortConfig.toConfig (fun _ f _ => f)
            (chunkRendered ++ [feedStep] ++ earlier)).state).1 = 1 ∧
      Scheduler.cacheIsCurrent shortConfig.toConfig 0
        (atomicRun shortConfig.toConfig (fun _ f _ => f)
          (chunkRendered ++ [feedStep] ++ earlier)).state.render = true := by
    decide +kernel
  have hpace : ∀ earlier ∈ shortPlayback.inits, (sinceFeed earlier : Int) ≤ 2 := by decide
  refine ⟨atomicRun_playsThrough shortConfig (fun _ f _ => f) chunkRendered
    ⟨hstarts.1, hstarts.2.1, hstarts.2.2.1, hstarts.2.2.2⟩ shortPlayback ⟨?_, ?_, ?_⟩, ?_⟩
  · intro step hstep
    have hcallback : shortCallback.Quiet shortConfig.toConfig := ⟨rfl, rfl, rfl⟩
    simp only [shortPlayback, List.mem_cons, List.not_mem_nil, or_false] at hstep
    rcases hstep with rfl | rfl | rfl | rfl | rfl
    · exact hcallback
    · trivial
    · exact hcallback
    · exact hcallback
    · trivial
  · exact fun earlier hearlier => hpace earlier ((List.mem_inits _ _).mpr hearlier)
  · intro earlier step hearlier _ chunk hfirst hlast
    obtain ⟨hchunk, hend, hcurrent⟩ := hcached earlier
      ((List.mem_inits _ _).mpr ((List.prefix_append _ _).trans hearlier))
    rw [hchunk] at hfirst
    rw [hend] at hlast
    obtain rfl : chunk = 0 := by omega
    exact hcurrent
  · decide +kernel

end Anasa
