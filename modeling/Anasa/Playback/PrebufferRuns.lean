import Anasa.Playback.Prebuffer

/-!
# Playing the prebuffer

The machine whose runs the prebuffer survives (`quietMachine`): the threads of an engine without
the commands that move or suspend playback, and with atomic callbacks. Every access of its calls
keeps `PrebufferInv`, so the callbacks after the start of playback play the whole prebuffer
(`quietRun_playsPrebuffer`).
-/

namespace Anasa

open Concurrency Contract AudioBlockProcessor

variable {S : Type}

/-! ## The machine -/

/-- The command neither moves nor suspends playback. -/
def CommandType.quiet : CommandType → Bool
  | .play => true
  | .setViewport => true
  | _ => false

/-- A call that neither moves nor suspends playback nor stops the engine. A batch of commands is
its commands one by one. -/
def Call.Quiet (cfg : Config) : Call S → Prop
  | .scheduler (.handleCommand command) => command.type.quiet = true
  | .scheduler (.readCommand command) => command.type.quiet = true
  | .scheduler (.readCommands _) => False
  | .scheduler .pause => False
  | .scheduler _ => True
  | .lifecycle .engineStart => True
  | .lifecycle _ => False
  | .requestStop => False
  | .processBlock output => EngineOutput cfg output
  | .post _ => True
  | .workerLoop _ _ => True

abbrev QuietCall (cfg : Config) (S : Type) := { call : Call S // call.Quiet cfg }

/-- Callbacks are atomic. -/
def QuietCall.program [Zero S] (cfg : Config) (kernel : RenderKernel S) (call : QuietCall cfg S) :
    Prog (EngineState S) Unit :=
  match call.1 with
  | .processBlock output => .modify fun s => ((recordedCallback cfg output).run s).2
  | call => call.program cfg kernel

def quietMachine [Zero S] (cfg : Config) (kernel : RenderKernel S) :
    Machine ThreadId (QuietCall cfg S) (EngineState S) :=
  ⟨fun call => call.1.thread, QuietCall.program cfg kernel⟩

/-! ## The contract -/

/-- What the callback reads. -/
def playbackView (s : EngineState S) :=
  (s.shared, s.audio, s.readyQueue, s.history, s.engineStarted)

theorem preserves_playbackView {α : Type} {p : Prog (EngineState S) α}
    (hp : p.Preserves contentView) : p.Preserves playbackView :=
  (preserves_audioView hp).mono fun _ _ h => by
    simp only [audioView, Prod.mk.injEq] at h
    simp only [playbackView, Prod.mk.injEq]
    exact ⟨h.1, h.2.1, h.2.2.1, h.2.2.2.1, h.2.2.2.2.2.2.2⟩

theorem undisturbed_of_view {s s' : EngineState S} (h : playbackView s' = playbackView s) :
    Undisturbed s s' := by
  simp only [playbackView, Prod.mk.injEq] at h
  obtain ⟨hshared, haudio, hqueue, hhistory, hstarted⟩ := h
  refine ⟨?_, by rw [hhistory], fun hp => hshared ▸ hp, by rw [hshared], hstarted, [], ?_⟩
  · rw [cursorView, cursorView, hshared, haudio, hhistory]
  · rw [hqueue, List.append_nil]

/-- Every thread goes on while the callback plays `k` blocks from `frame` on. -/
def prebufferContract (cfg : Config) (before : List (Int × AudioProcessResult)) (frame : Int)
    (k : ℕ) : Contract (EngineState S) where
  inv := PrebufferInv cfg before frame k
  rely := Onward before k
  guar := Onward before k

section

variable {cfg : Config} {before : List (Int × AudioProcessResult)} {frame : Int} {k : ℕ}

theorem prebufferContract_stable :
    (prebufferContract cfg before frame k : Contract (EngineState S)).Stable :=
  ⟨fun {_ s} _ => Onward.refl s, Onward.trans⟩

/-- The program keeps the contract from every state. -/
def Quiet (cfg : Config) (before : List (Int × AudioProcessResult)) (frame : Int) (k : ℕ)
    {α : Type} (p : Prog (EngineState S) α) : Prop :=
  (prebufferContract cfg before frame k).Triple (fun _ => True) p fun _ _ => True

namespace Quiet

variable {α β : Type} {p : Prog (EngineState S) α}

theorem bind {g : α → Prog (EngineState S) β} (hp : Quiet cfg before frame k p)
    (hg : ∀ a, Quiet cfg before frame k (g a)) : Quiet cfg before frame k (p >>= g) :=
  Triple.bind prebufferContract_stable hp hg

theorem pure (a : α) :
    Quiet cfg before frame k (Pure.pure a : Prog (EngineState S) α) :=
  triple_pure kept_true fun _ _ _ => trivial

theorem ite {c : Prop} [Decidable c] {q : Prog (EngineState S) α}
    (hp : Quiet cfg before frame k p) (hq : Quiet cfg before frame k q) :
    Quiet cfg before frame k (if c then p else q) :=
  triple_ite (fun _ => hp) fun _ => hq

theorem of_view (hp : p.Preserves playbackView) : Quiet cfg before frame k p :=
  triple_of_preserves hp kept_true fun _ _ h hi _ =>
    ⟨(undisturbed_of_view h).onward, (undisturbed_of_view h).inv hi, trivial⟩

theorem of_content (hp : p.Preserves contentView) : Quiet cfg before frame k p :=
  of_view (preserves_playbackView hp)

theorem modify {f : EngineState S → EngineState S} (h : ∀ s, Undisturbed s (f s)) :
    Quiet cfg before frame k (Prog.modify f) :=
  triple_modify kept_true kept_true fun s hi _ => ⟨(h s).onward, (h s).inv hi, trivial⟩

theorem atomically {f : EngineState S → α × EngineState S} (h : ∀ s, Undisturbed s (f s).2) :
    Quiet cfg before frame k (Prog.atomically f) :=
  triple_atomically kept_true (fun _ => kept_true) fun s hi _ =>
    ⟨(h s).onward, (h s).inv hi, trivial⟩

end Quiet

theorem kept_played : (prebufferContract cfg before frame k : Contract (EngineState S)).Kept
    (PrebufferPlayed before k) := fun _ _ h hr _ => h.onward hr

/-- The part of the state that matters once all blocks have been played. -/
def recordView (s : EngineState S) :=
  (s.history.callbacks, s.shared.generation, s.shared.targetFrame)

/-- Once all blocks have been played, playback may be suspended. -/
theorem triple_played {α : Type} {p : Prog (EngineState S) α} (hp : p.Preserves recordView) :
    (prebufferContract cfg before frame k).Triple (PrebufferPlayed before k) p
      fun _ _ => True := by
  refine (triple_of_preserves hp kept_played fun s s' h hi hs => ?_).conseq (fun _ _ h => h)
    fun _ _ _ _ => trivial
  simp only [recordView, Prod.mk.injEq] at h
  obtain ⟨hcallbacks, hg, ht⟩ := h
  refine ⟨hs.to_onward hcallbacks hg ht, hs.inv hi hcallbacks, ?_⟩
  rw [PrebufferPlayed, hcallbacks]
  exact hs

/-! ## The calls -/

theorem PlaybackHistory.cursorRead_self {h : PlaybackHistory}
    (hflags : h.editing = h.editHasCursor) : h.cursorRead = h := by
  cases h
  cases hflags
  rfl

theorem PlaybackHistory.cursorGenerationRead_self {h : PlaybackHistory}
    (hflags : h.editing = h.editHasCursor) (latest : Bool) :
    h.cursorGenerationRead latest = h := by
  cases h
  cases hflags
  cases latest <;> rfl

/-- Outside an Edit, loading the cursor changes nothing. -/
theorem PrebufferInv.cursorRead {s : EngineState S} (h : PrebufferInv cfg before frame k s)
    (latest : Bool) :
    (PrebufferInv cfg before frame k { s with history := s.history.cursorGenerationRead latest } ∧
      Onward before k s { s with history := s.history.cursorGenerationRead latest }) ∧
    (PrebufferInv cfg before frame k { s with history := s.history.cursorRead } ∧
      Onward before k s { s with history := s.history.cursorRead }) := by
  rcases h.cases with ⟨i, -, hp⟩ | hplayed
  · have hflags : s.history.editing = s.history.editHasCursor :=
      hp.rest.scheduler.editing_eq.trans (hp.rest.scheduler.noCursor rfl).symm
    rw [PlaybackHistory.cursorGenerationRead_self hflags, PlaybackHistory.cursorRead_self hflags]
    exact ⟨⟨h, .refl s⟩, h, .refl s⟩
  · exact ⟨⟨hplayed.inv h rfl, hplayed.to_onward rfl rfl rfl⟩,
      hplayed.inv h rfl, hplayed.to_onward rfl rfl rfl⟩

/-- While blocks are to be played, `currentFrame` returns a frame before the end. -/
theorem currentFrame_prebuffer (hcfg : cfg.Valid)
    (hlast : frame + k * cfg.audio.audioBlockFrames ≤ cfg.totalFrames) :
    (prebufferContract cfg before frame k : Contract (EngineState S)).Triple (fun _ => True)
      (PlaybackProtocol.currentFrame cfg)
      fun result s => cfg.totalFrames ≤ result → PrebufferPlayed before k s := by
  have hC : (prebufferContract cfg before frame k : Contract (EngineState S)).Stable :=
    prebufferContract_stable
  have hclamp : ∀ f, cfg.totalFrames ≤ clampTimelineBoundary f cfg.totalFrames →
      cfg.totalFrames ≤ f := by
    intro f hf
    unfold clampTimelineBoundary at hf
    have := hcfg.totalFrames_pos
    omega
  have hkept : ∀ P : Prop, (prebufferContract cfg before frame k).Kept
      fun s : EngineState S => P → PrebufferPlayed before k s :=
    fun P s s' h hr _ hP => (h hP).onward hr
  refine Triple.bind hC (triple_read Onward.refl kept_true (Q := fun generation s =>
    generation = s.shared.generation) (fun _ _ _ h hr _ => h.trans hr.generation.symm)
    fun _ _ _ => rfl) fun generation => ?_
  refine Triple.bind hC (triple_atomically
    (Q := fun cursorGeneration (s : EngineState S) =>
      (cursorGeneration ≠ generation → cfg.totalFrames ≤ s.shared.targetFrame →
        PrebufferPlayed before k s) ∧
      (cursorGeneration = generation → s.shared.audioCursorGeneration = s.shared.generation ∨
        PrebufferPlayed before k s))
    (fun _ _ h hr _ => h.trans hr.generation.symm) (fun _ s s' h hr _ => ?_)
    fun s hi hg => ?_) fun cursorGeneration => triple_ite (fun hne => ?_) fun heq => ?_
  · refine ⟨fun hne ht => (h.1 hne (hr.target ▸ ht)).onward hr, fun heq => ?_⟩
    rcases h.2 heq with hs | hs
    · exact hr.acknowledged hs
    · exact .inr (hs.onward hr)
  · have hread := (PrebufferInv.cursorRead hi (s.shared.audioCursorGeneration == generation)).1
    refine ⟨hread.2, hread.1, fun hne ht => ?_, fun heq => .inl (heq.trans hg)⟩
    rcases PrebufferInv.cases hi with ⟨i, hik, hp⟩ | hplayed
    · have hposition : position s = s.shared.targetFrame := if_neg fun h => hne (h.trans hg.symm)
      have := hp.position_lt hcfg hlast hik
      have ht' : cfg.totalFrames ≤ s.shared.targetFrame := ht
      omega
    · exact hplayed
  · refine Triple.bind hC (triple_read Onward.refl
      (fun s s' h hr _ => ⟨fun hn ht => (h.1 hn (hr.target ▸ ht)).onward hr, fun he =>
        absurd he hne⟩) (Q := fun f s => cfg.totalFrames ≤ f → PrebufferPlayed before k s)
      (fun f => hkept _) fun s _ h ht => h.1 hne ht) fun f =>
        triple_pure (hkept _) fun s _ h hf => h (hclamp f hf)
  · refine Triple.bind hC (triple_atomically
      (Q := fun f s => cfg.totalFrames ≤ f → PrebufferPlayed before k s)
      (fun s s' h hr _ => ?_) (fun f => hkept _) fun s hi h => ?_) fun f =>
        triple_pure (hkept _) fun s _ h hf => h (hclamp f hf)
    · refine ⟨fun hn => absurd (not_not.mp heq) hn, fun he => ?_⟩
      rcases h.2 he with hs | hs
      · exact hr.acknowledged hs
      · exact .inr (hs.onward hr)
    · have hread := (PrebufferInv.cursorRead hi true).2
      refine ⟨hread.2, hread.1, fun hf => ?_⟩
      rcases PrebufferInv.cases hi with ⟨i, hik, hp⟩ | hplayed
      · rcases h.2 (not_not.mp heq) with hs | hs
        · have hposition : position s = s.shared.nextUnconsumedFrame := if_pos hs
          have := hp.position_lt hcfg hlast hik
          have hf' : cfg.totalFrames ≤ s.shared.nextUnconsumedFrame := hf
          omega
        · exact hs
      · exact hplayed

theorem publish_quiet (nextUnconsumedFrame generation : Int) :
    Quiet cfg before frame k (TimelineAudioPublisher.publish cfg nextUnconsumedFrame generation :
      Prog (EngineState S) Unit) := by
  refine .bind (.of_view (Prog.preserves_modify fun _ => rfl)) fun _ => ?_
  generalize TimelineAudioPublisher.publishPasses cfg = passes
  induction passes with
  | zero => exact .pure _
  | succ passes ih =>
    refine .bind (.atomically fun s => ?_) fun _ => .ite ih (.pure _)
    rcases TimelineAudioPublisher.publishNext_cases cfg generation s with
      ⟨samples, slot, free, -, -, -, heq⟩ | ⟨heq, -⟩
    · rw [heq]
      exact ⟨rfl, rfl, id, rfl, rfl, [_], rfl⟩
    · rw [heq]
      exact undisturbed_of_view rfl

theorem startIfReady_quiet (lead : Int) (entire : Bool) :
    Quiet cfg before frame k
      (PlaybackController.startIfReady cfg lead entire : Prog (EngineState S) Unit) :=
  .bind (.of_view (Prog.preserves_read _)) fun _ =>
    .ite (.ite (.modify fun s => ⟨rfl, rfl, fun _ => rfl, rfl, rfl, [], by simp⟩) (.pure _))
      (.pure _)

theorem currentFrame_quiet (hcfg : cfg.Valid)
    (hlast : frame + k * cfg.audio.audioBlockFrames ≤ cfg.totalFrames) :
    Quiet cfg before frame k (PlaybackProtocol.currentFrame cfg : Prog (EngineState S) Int) :=
  (currentFrame_prebuffer hcfg hlast).conseq (fun _ _ h => h) fun _ _ _ _ => trivial

theorem readyLeadBlocks_quiet (hcfg : cfg.Valid)
    (hlast : frame + k * cfg.audio.audioBlockFrames ≤ cfg.totalFrames) :
    Quiet cfg before frame k (Scheduler.readyLeadBlocks cfg : Prog (EngineState S) Int) :=
  .bind (currentFrame_quiet hcfg hlast) fun _ => .of_view (Prog.preserves_read _)

theorem feedAudioQueue_quiet (hcfg : cfg.Valid)
    (hlast : frame + k * cfg.audio.audioBlockFrames ≤ cfg.totalFrames) :
    Quiet cfg before frame k (Scheduler.feedAudioQueue cfg : Prog (EngineState S) Unit) := by
  have hend : (do
      TimelineAudioPublisher.reset cfg.totalFrames
      if ← PlaybackController.pause then
        Scheduler.setClassificationsDirty : Prog (EngineState S) Unit).Preserves recordView :=
    Prog.preserves_modify_bind (fun _ => rfl) fun _ => Prog.preserves_atomically_bind
      (fun _ => rfl) fun _ => Prog.preserves_ite (Prog.preserves_modify fun _ => rfl)
        (Prog.preserves_pure _)
  have hfeed : ∀ f, Quiet cfg before frame k (do
      let generation ← .read (·.shared.generation)
      TimelineAudioPublisher.publish cfg f generation
      let lead ← Scheduler.readyLeadBlocks cfg
      let entireRemainder ← .read fun s =>
        TimelineAudioPublisher.entireRemainderPublished cfg s.sched.nextFrameToPublish
      PlaybackController.startIfReady cfg lead entireRemainder : Prog (EngineState S) Unit) :=
    fun f => .bind (.of_view (Prog.preserves_read _)) fun generation =>
      .bind (publish_quiet f generation) fun _ => .bind (readyLeadBlocks_quiet hcfg hlast) fun _ =>
        .bind (.of_view (Prog.preserves_read _)) fun _ => startIfReady_quiet _ _
  -- At the end of the timeline all blocks have been played.
  exact Triple.bind prebufferContract_stable (currentFrame_prebuffer hcfg hlast) fun f =>
    triple_ite (fun hf => (triple_played hend).conseq (fun _ _ h => h hf) fun _ _ _ h => h)
      fun _ => (hfeed f).conseq (fun _ _ _ => trivial) fun _ _ _ h => h

theorem handleCommand_quiet {command : Command} (h : command.type.quiet = true) :
    Quiet cfg before frame k
      (Scheduler.handleCommand cfg command : Prog (EngineState S) Unit) := by
  unfold Scheduler.handleCommand
  rcases htype : command.type <;> rw [htype] at h <;> try cases h
  · exact .of_view (Prog.preserves_atomically_bind (fun _ => rfl) fun _ =>
      Prog.preserves_ite (Prog.preserves_modify fun _ => rfl) (Prog.preserves_pure _))
  · exact .of_view (Prog.preserves_modify fun _ => rfl)

theorem collectFinishedJobs_quiet (passes : ℕ) :
    Quiet cfg before frame k
      (Scheduler.collectFinishedJobs cfg passes : Prog (EngineState S) Unit) := by
  induction passes with
  | zero => exact .pure _
  | succ passes ih =>
    exact .bind (.of_view (Prog.preserves_atomically fun _ => rfl)) fun _ => .ite ih (.pure _)

theorem schedulerCall_quiet [Zero S] (hcfg : cfg.Valid)
    (hlast : frame + k * cfg.audio.audioBlockFrames ≤ cfg.totalFrames) {call : SchedulerCall}
    (h : Call.Quiet cfg (.scheduler call : Call S)) :
    Quiet cfg before frame k (call.program cfg : Prog (EngineState S) Unit) := by
  cases call with
  | handleCommand command => exact handleCommand_quiet h
  | readCommand command =>
    exact .bind (.of_view (Prog.preserves_read _)) fun _ => .ite
      (.bind (.of_view (Prog.preserves_modify fun _ => rfl)) fun _ => handleCommand_quiet h)
      (.pure _)
  | readCommands passes => exact h.elim
  | collectFinishedJobs passes => exact collectFinishedJobs_quiet passes
  | feedAudioQueue => exact feedAudioQueue_quiet hcfg hlast
  | updateBackgroundAdmission =>
    exact .bind (.of_view (Prog.preserves_read _)) fun _ => .ite
      (.of_view (Prog.preserves_modify fun _ => rfl))
      (.bind (readyLeadBlocks_quiet hcfg hlast) fun _ =>
        .of_view (Prog.preserves_modify fun _ => rfl))
  | scheduleRenderJobs =>
    exact Quiet.bind (currentFrame_quiet hcfg hlast) fun f => .of_content
      ((Scheduler.updateClassifications_contentView cfg f).bind fun _ =>
        Scheduler.scheduleLoops_contentView cfg f)
  | dispatchPendingTiles refuses =>
    exact .of_content (Scheduler.dispatchPendingTiles_contentView cfg refuses)
  | pause => exact h.elim

/-- A started engine does not start again. -/
theorem engineStart_quiet :
    Quiet cfg before frame k (Engine.start cfg : Prog (EngineState S) Unit) := by
  have hframe : (PlaybackProtocol.currentFrame cfg : Prog (EngineState S) Int).Preserves
      recordView := Prog.preserves_read_bind fun _ => Prog.preserves_atomically_bind (fun _ => rfl)
    fun _ => Prog.preserves_ite (Prog.preserves_read_bind fun _ => Prog.preserves_pure _)
      (Prog.preserves_atomically_bind (fun _ => rfl) fun _ => Prog.preserves_pure _)
  have hscheduler : (Scheduler.start cfg : Prog (EngineState S) Unit).Preserves recordView :=
    Prog.preserves_read_bind fun _ => Prog.preserves_ite
      (Prog.preserves_modify_bind (fun _ => rfl) fun _ =>
        Prog.preserves_modify_bind (fun _ => rfl) fun _ =>
          Prog.preserves_modify_bind (fun _ => rfl) fun _ => hframe.bind fun _ =>
            Prog.preserves_modify_bind (fun _ => rfl) fun _ => Prog.preserves_modify fun _ => rfl)
      (Prog.preserves_pure _)
  have hexecutor : (Executor.start : Prog (EngineState S) Unit).Preserves recordView :=
    (preserves_playbackView Executor.start_contentView).mono fun _ _ h => by
      simp only [playbackView, Prod.mk.injEq] at h
      simp only [recordView, h.1, h.2.2.2.1]
  refine Triple.bind (Q := fun started s => started = false → PrebufferPlayed before k s)
    prebufferContract_stable (triple_read Onward.refl kept_true
      (fun started s s' h hr _ hstarted => (h hstarted).onward hr) fun s hi _ hstarted => ?_)
    fun started => triple_ite (fun hstarted => ?_) fun _ =>
      triple_pure kept_true fun _ _ _ => trivial
  · rcases PrebufferInv.cases hi with ⟨i, -, hp⟩ | hplayed
    · rw [hp.started] at hstarted
      cases hstarted
    · exact hplayed
  · refine (triple_played ?_).conseq (fun _ _ h => h (by simpa using hstarted)) fun _ _ _ h => h
    exact Prog.preserves_modify_bind (fun _ => rfl) fun _ =>
      Prog.preserves_modify_bind (fun _ => rfl) fun _ =>
        Prog.preserves_modify_bind (fun _ => rfl) fun _ => hexecutor.bind fun _ =>
          hscheduler.bind fun _ => Prog.preserves_modify fun _ => rfl

variable (cfg) in
theorem processBlock_recordView [Zero S] (output : AudioOutputBuffer S) :
    (processBlock cfg output).Preserves recordView := by
  have hfollow : (followGeneration cfg : Prog (EngineState S) Int).Preserves recordView :=
    Prog.preserves_read_bind fun _ => Prog.preserves_read_bind fun _ => Prog.preserves_ite
      ((Prog.preserves_atomically_bind (fun _ => rfl) fun _ => Prog.preserves_modify_bind
        (fun _ => rfl) fun _ => Prog.preserves_modify fun _ => rfl).bind
          fun _ => Prog.preserves_pure _) (Prog.preserves_pure _)
  have hdiscard : ∀ generation expected n, (discardStaleBlocks generation expected n :
      Prog (EngineState S) (Option (AudioBlock S))).Preserves recordView := by
    intro generation expected n
    induction n with
    | zero => exact Prog.preserves_pure _
    | succ n ih =>
      refine Prog.preserves_read_bind fun head => ?_
      cases head with
      | none => exact Prog.preserves_pure _
      | some head =>
        exact Prog.preserves_ite (Prog.preserves_modify_bind (fun _ => rfl) fun _ => ih)
          (Prog.preserves_pure _)
  have hplay : ∀ generation expected (output : AudioOutputBuffer S) head,
      (playBlock cfg generation expected output head).Preserves recordView := by
    intro generation expected output head
    cases head with
    | none => exact Prog.preserves_pure _
    | some head =>
      exact Prog.preserves_ite (Prog.preserves_modify_bind (fun _ => rfl) fun _ =>
        Prog.preserves_pure _) (Prog.preserves_pure _)
  exact Prog.preserves_ite (Prog.preserves_pure _) <| Prog.preserves_ite (Prog.preserves_pure _) <|
    Prog.preserves_read_bind fun _ => Prog.preserves_ite (Prog.preserves_pure _) <|
      hfollow.bind fun _ => Prog.preserves_read_bind fun _ => Prog.preserves_read_bind fun _ =>
        (hdiscard _ _ _).bind fun _ => Prog.preserves_read_bind fun _ =>
          Prog.preserves_ite (Prog.preserves_pure _) <| Prog.preserves_ite (Prog.preserves_pure _) <|
            (hplay _ _ _ _).bind fun _ => Prog.preserves_modify_bind (fun _ => rfl) fun _ =>
              Prog.preserves_pure _

theorem playedBlocks_succ (n : ℕ) : playedBlocks cfg frame (n + 1) = playedBlocks cfg frame n ++
    [(frame + n * cfg.audio.audioBlockFrames, { playing := true, underrun := false })] := by
  simp [playedBlocks, List.range_succ]

/-- **A callback plays the next block**, or all have been played before. -/
theorem PrebufferInv.callback [Zero S] (hcfg : cfg.Valid)
    (hlast : BlockBoundary cfg (frame + k * cfg.audio.audioBlockFrames))
    {s : EngineState S} (h : PrebufferInv cfg before frame k s) {output : AudioOutputBuffer S}
    (houtput : EngineOutput cfg output) :
    PrebufferInv cfg before frame k ((recordedCallback cfg output).run s).2 ∧
      Onward before k s ((recordedCallback cfg output).run s).2 := by
  obtain ⟨results, hcallbacks, hplayed, hready⟩ := h
  have hrecord := (processBlock_recordView cfg output).run s
  simp only [recordView, Prod.mk.injEq] at hrecord
  rw [recordedCallback, Prog.run_bind]
  rcases lt_or_ge results.length k with hlt | hle
  · have hmul := Int.mul_lt_mul_of_pos_right (show (results.length : Int) < k by omega)
      hcfg.blockFrames_pos
    obtain ⟨played, s₁, hrun, hsame, hexpected, hg, ht, hacknowledged, hnext⟩ :=
      (hready hlt).processBlock hcfg hlast (by omega) houtput
    rw [hrun]
    refine ⟨⟨_ :: results, congrArg (List.cons _) (hsame.trans hcallbacks), ?_, fun _ => ?_⟩,
      by simp [hsame], hg, ht, fun _ => .inl hacknowledged⟩
    · rw [Nat.min_eq_right hlt.le, List.take_of_length_le (by simpa using hlt.le)] at hplayed
      rw [List.reverse_cons, hplayed, List.length_cons, Nat.min_eq_right hlt, playedBlocks_succ,
        List.take_of_length_le (by simp [playedBlocks]; omega), hexpected]
      simp
    · have hframe : frame + ((results.length + 1 : ℕ) : Int) * cfg.audio.audioBlockFrames =
          frame + results.length * cfg.audio.audioBlockFrames + cfg.audio.audioBlockFrames := by
        push_cast
        ring
      rw [List.length_cons, hframe]
      exact ⟨⟨hnext.rest.inv, hnext.rest.scheduler, hnext.rest.audio⟩, hnext.position_eq,
        hnext.playing, hnext.running, hnext.started, hnext.queue⟩
  · refine ⟨⟨_ :: results, congrArg (List.cons _) (hrecord.1.trans hcallbacks), ?_, fun hlt => ?_⟩,
      ?_, hrecord.2.1, hrecord.2.2, fun _ => .inr ?_⟩
    · rw [List.reverse_cons, List.take_append_of_le_length (by simpa using hle), hplayed,
        Nat.min_eq_left hle, List.length_cons, Nat.min_eq_left (by omega)]
    · rw [List.length_cons] at hlt
      omega
    · simp [hrecord.1]
    · simp only [PrebufferPlayed, Prog.run_modify, List.length_cons, hrecord.1, hcallbacks,
        List.length_append]
      omega

/-- Every call of the machine keeps the contract. -/
theorem quietCall_triple [Zero S] (hcfg : cfg.Valid) (kernel : RenderKernel S)
    (hlast : BlockBoundary cfg (frame + k * cfg.audio.audioBlockFrames)) (call : QuietCall cfg S) :
    Quiet cfg before frame k (call.program cfg kernel) := by
  obtain ⟨call, hcall⟩ := call
  cases call with
  | scheduler call =>
    exact .bind (.of_view (Prog.preserves_read _)) fun _ =>
      .ite (schedulerCall_quiet hcfg hlast.2.2 hcall) (.pure _)
  | lifecycle call =>
    cases call with
    | engineStart => exact engineStart_quiet
    | _ => exact hcall.elim
  | post command =>
    exact .of_content ((Scheduler.post_contentView command).bind fun _ => Prog.preserves_pure _)
  | requestStop => exact hcall.elim
  | processBlock output =>
    exact triple_modify kept_true kept_true fun s hi _ =>
      ⟨(PrebufferInv.callback hcfg hlast hi hcall).2, (PrebufferInv.callback hcfg hlast hi hcall).1,
        trivial⟩
  | workerLoop worker faults =>
    exact .of_content (Executor.workerLoop_contentView cfg kernel faults worker)

/-- The discipline of the machine. -/
def prebufferDiscipline [Zero S] (hcfg : cfg.Valid) (kernel : RenderKernel S)
    (before : List (Int × AudioProcessResult)) (frame : Int) (k : ℕ)
    (hlast : BlockBoundary cfg (frame + k * cfg.audio.audioBlockFrames)) :
    Discipline (quietMachine cfg kernel) where
  inv := PrebufferInv cfg before frame k
  rely _ := Onward before k
  guar _ := Onward before k
  idle _ _ := True
  rely_refl _ := Onward.refl
  rely_trans := Onward.trans
  compatible _ _ _ h := h
  idle_stable _ _ _ := trivial
  call_safe call s hi _ := quietCall_triple hcfg kernel hlast call s hi trivial

end

end Anasa
