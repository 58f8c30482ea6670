import Anasa.Concurrency.Ownership
import Anasa.Playback.Runs

/-!
# Callbacks and any queue

One callback with nobody in between, on a queue with any contents: it follows the generation,
removes the outdated blocks at the front, and then waits, plays the next block or underruns. The
processor may have made any callbacks before, and the others may have stored anything in between.
-/

namespace Anasa

open Concurrency Contract AudioBlockProcessor

variable {S : Type} {cfg : Config}

/-! ## What a callback does -/

/-- The output with the given samples in its first frames. -/
def AudioOutputBuffer.fill (frames : Int) (sample : ℕ → Int → S) (output : AudioOutputBuffer S) :
    AudioOutputBuffer S :=
  { output with channels := output.channels.mapIdx fun channel => Option.map fun destination =>
      fun frame => if 0 ≤ frame ∧ frame < frames then sample channel frame else destination frame }

/-- The frame that the next callback expects. -/
def expectedFrame (s : EngineState S) : Int :=
  if s.audio.generation = s.shared.generation then s.audio.expectedBlockStartFrame
  else s.shared.targetFrame

/-- The block is of an older generation, or of the current one and before the expected frame. -/
def Outdated (s : EngineState S) (block : AudioBlock S) : Prop :=
  block.generation < s.shared.generation ∨
    block.generation = s.shared.generation ∧ block.firstFrame < expectedFrame s

/-- The block is the one that the next callback expects. -/
structure IsExact (cfg : Config) (output : AudioOutputBuffer S) (s : EngineState S)
    (block : AudioBlock S) : Prop where
  generation : block.generation = s.shared.generation
  firstFrame : block.firstFrame = expectedFrame s
  frameCount : block.frameCount = cfg.audio.audioBlockFrames
  storage : cfg.audio.audioBlockFrames ≤ block.samples.frameCount
  channelCount : block.samples.channelCount = output.channels.length

/-- What one callback leaves: its result and output, the queue and the cursor. -/
structure Leaves (result : AudioProcessResult) (output : AudioOutputBuffer S)
    (contents : List (AudioBlock S)) (frame : Int)
    (r : (AudioProcessResult × AudioOutputBuffer S) × EngineState S) : Prop where
  result : r.1.1 = result
  output : r.1.2 = output
  contents : r.2.readyQueue.contents = contents
  cursor : r.2.shared.nextUnconsumedFrame = frame
  expected : r.2.audio.expectedBlockStartFrame = frame

/-- What a callback does with the blocks that are not outdated. -/
structure Consumes [Zero S] (cfg : Config) (output : AudioOutputBuffer S) (s : EngineState S)
    (fresh : List (AudioBlock S))
    (r : (AudioProcessResult × AudioOutputBuffer S) × EngineState S) : Prop where
  waits : s.shared.playing = false ∨ cfg.totalFrames ≤ expectedFrame s →
    Leaves { playing := false, underrun := false }
      (output.fill cfg.audio.audioBlockFrames fun _ _ => 0) fresh (expectedFrame s) r
  plays : s.shared.playing = true → expectedFrame s < cfg.totalFrames →
    ∀ block ∈ fresh.head?, IsExact cfg output s block →
      Leaves { playing := true, underrun := false }
        (output.fill cfg.audio.audioBlockFrames fun channel => block.samples.sample channel)
        fresh.tail (expectedFrame s + cfg.audio.audioBlockFrames) r
  underruns : s.shared.playing = true → expectedFrame s < cfg.totalFrames →
    (∀ block ∈ fresh.head?, ¬IsExact cfg output s block) →
      Leaves { playing := true, underrun := true }
        (output.fill cfg.audio.audioBlockFrames fun _ _ => 0) fresh
        (expectedFrame s + cfg.audio.audioBlockFrames) r

/-- What the callback reads of the others' stores. -/
def othersStore (s : EngineState S) : Bool × Bool × Int × Int :=
  (s.shared.stop, s.shared.playing, s.shared.generation, s.shared.targetFrame)

/-- The outcome of a callback on any queue. -/
structure CallbackOutcome [Zero S] (cfg : Config) (output : AudioOutputBuffer S)
    (s : EngineState S)
    (r : (AudioProcessResult × AudioOutputBuffer S) × EngineState S) : Prop where
  /-- It follows the current generation. -/
  adopted : r.2.audio.generation = s.shared.generation
  /-- It stores nothing but the cursor and its generation. -/
  stored : othersStore r.2 = othersStore s
  /-- It removes the longest prefix of outdated blocks, and then consumes. -/
  removes : ∃ outdated fresh, s.readyQueue.contents = outdated ++ fresh ∧
    (∀ block ∈ outdated, Outdated s block) ∧ (∀ block ∈ fresh.head?, ¬Outdated s block) ∧
      Consumes cfg output s fresh r

/-! ## One callback -/

/-- Between two callbacks, the cursor is the frame that the next one expects. -/
def CursorStored (s : EngineState S) : Prop :=
  s.shared.nextUnconsumedFrame = s.audio.expectedBlockStartFrame

/-- The state once a callback has followed the generation. -/
def adoptedState (s : EngineState S) (tag : Int) (history : PlaybackHistory) : EngineState S :=
  { s with
    audio := ⟨s.shared.generation, expectedFrame s⟩
    shared := { s.shared with
      nextUnconsumedFrame := expectedFrame s
      audioCursorGeneration := tag }
    history }

theorem followGeneration_adopts {s : EngineState S} (hcursor : CursorStored s)
    (htarget : BlockBoundary cfg s.shared.targetFrame) :
    ∃ tag history, (followGeneration cfg).run s =
      (s.shared.generation, adoptedState s tag history) := by
  unfold CursorStored at hcursor
  by_cases hg : s.audio.generation = s.shared.generation
  · refine ⟨s.shared.audioCursorGeneration, s.history, ?_⟩
    have hsame : adoptedState s s.shared.audioCursorGeneration s.history = s := by
      unfold adoptedState expectedFrame
      rw [if_pos hg]
      rcases s with ⟨⟨stop, playing, generation, target, cursor, tag⟩, ⟨own, expected⟩⟩
      simp only at hg hcursor ⊢
      rw [hg, hcursor]
    rw [hsame]
    simp [followGeneration, hg]
  · refine ⟨s.shared.generation, s.history.targetLoaded.cursorStored s.shared.generation
      s.shared.targetFrame, ?_⟩
    simp only [followGeneration, adoptGeneration, Prog.run_bind, Prog.run_read, ne_eq, hg,
      not_false_eq_true, if_true, Prog.run_atomically, Prog.run_modify, Prog.run_pure,
      htarget.align, adoptedState, expectedFrame, if_false]

theorem isStale_iff {s : EngineState S} {block : AudioBlock S} :
    isStale s.shared.generation (expectedFrame s) block = true ↔ Outdated s block := by
  simp only [isStale, Outdated, Bool.or_eq_true, decide_eq_true_eq, Bool.and_eq_true, beq_iff_eq]

theorem isExactBlock_iff {s : EngineState S} {output : AudioOutputBuffer S}
    {block : AudioBlock S} :
    isExactBlock cfg s.shared.generation (expectedFrame s) output.channels.length block = true ↔
      IsExact cfg output s block := by
  simp only [isExactBlock, Bool.and_eq_true, beq_iff_eq, decide_eq_true_eq]
  constructor
  · rintro ⟨⟨⟨⟨hg, hfirst⟩, hcount⟩, hstorage⟩, hchannels⟩
    exact ⟨hg, hfirst, hcount, hstorage, hchannels⟩
  · rintro ⟨hg, hfirst, hcount, hstorage, hchannels⟩
    exact ⟨⟨⟨⟨hg, hfirst⟩, hcount⟩, hstorage⟩, hchannels⟩

section

variable [Zero S] {output : AudioOutputBuffer S} {s : EngineState S}

theorem fillSilence_eq (h : output.frameCount = cfg.audio.audioBlockFrames) :
    output.fillSilence = output.fill cfg.audio.audioBlockFrames fun _ _ => 0 := by
  unfold AudioOutputBuffer.fillSilence AudioOutputBuffer.fill
  rw [h, List.mapIdx_eq_iff.mpr fun i => List.getElem?_map]

theorem copyBlock_fillSilence (h : output.frameCount = cfg.audio.audioBlockFrames)
    (block : AudioBlock S) :
    output.fillSilence.copyBlock cfg.audio.audioBlockFrames block =
      output.fill cfg.audio.audioBlockFrames fun channel => block.samples.sample channel := by
  unfold AudioOutputBuffer.copyBlock AudioOutputBuffer.fillSilence AudioOutputBuffer.fill
  congr 1
  refine List.mapIdx_eq_iff.mpr fun channel => ?_
  rw [List.getElem?_mapIdx, List.getElem?_map, Option.map_map]
  refine congrFun (congrArg _ (funext fun destination => ?_)) _
  cases destination with
  | none => rfl
  | some destination =>
    refine congrArg some (funext fun frame => ?_)
    rw [h]
    by_cases hframe : 0 ≤ frame ∧ frame < cfg.audio.audioBlockFrames
    · simp only [if_pos hframe]
    · simp only [if_neg hframe]

/-- The state a callback consumes in. -/
def freshState (s : EngineState S) (tag : Int) (history : PlaybackHistory) : EngineState S :=
  { adoptedState s tag history with
    readyQueue := s.readyQueue.popWhile (isStale s.shared.generation (expectedFrame s)) }

theorem processBlock_consumes (hheard : Heard cfg output s) (hcursor : CursorStored s)
    (htarget : BlockBoundary cfg s.shared.targetFrame) :
    ∃ tag history, (processBlock cfg output).run s =
      (consumeBlock cfg s.shared.generation (expectedFrame s) output.fillSilence
        (freshState s tag history).readyQueue.front).run (freshState s tag history) := by
  obtain ⟨tag, history, hfollow⟩ := followGeneration_adopts hcursor htarget
  obtain ⟨hcount, houtput, hframes, hstop⟩ := hheard
  refine ⟨tag, history, ?_⟩
  have hdiscard := discardStaleBlocks_run s.shared.generation (expectedFrame s)
    (s := adoptedState s tag history) (s.readyQueue.length_contents_le)
  have hshape : ¬((!output.hasOutput || output.frameCount ≠ cfg.audio.audioBlockFrames) = true) := by
    simp [houtput, hframes]
  rw [processBlock, if_neg (by omega), if_neg hshape]
  simp only [Prog.run_bind, Prog.run_read, hstop, Bool.false_eq_true, if_false, hfollow]
  rw [show (adoptedState s tag history).readyQueue = s.readyQueue from rfl,
    show (adoptedState s tag history).audio.expectedBlockStartFrame = expectedFrame s from rfl,
    hdiscard]
  rfl

variable (cfg output) in
omit [Zero S] in
/-- Consuming leaves the generation and the others' stores alone. -/
theorem consumeBlock_stored (generation frame : Int) (head : Option (AudioBlock S)) :
    (consumeBlock cfg generation frame output head).Preserves fun s : EngineState S =>
      (s.audio.generation, othersStore s) := by
  refine Prog.preserves_read_bind fun _ => Prog.preserves_ite (Prog.preserves_pure _) <|
    Prog.preserves_ite (Prog.preserves_pure _) ?_
  refine Prog.Preserves.bind ?_ fun _ =>
    Prog.preserves_modify_bind (fun _ => rfl) fun _ => Prog.preserves_pure _
  cases head with
  | none => exact Prog.preserves_pure _
  | some head =>
    exact Prog.preserves_ite (Prog.preserves_modify_bind (fun _ => rfl) fun _ =>
      Prog.preserves_pure _) (Prog.preserves_pure _)

theorem consumeBlock_consumes (h : output.frameCount = cfg.audio.audioBlockFrames) (tag : Int)
    (history : PlaybackHistory) :
    Consumes cfg output s (freshState s tag history).readyQueue.contents
      ((consumeBlock cfg s.shared.generation (expectedFrame s) output.fillSilence
        (freshState s tag history).readyQueue.front).run (freshState s tag history)) := by
  have hlength : output.fillSilence.channels.length = output.channels.length := by
    simp [AudioOutputBuffer.fillSilence]
  refine ⟨fun hwaits => ?_, fun hplaying hlt block hblock hexact => ?_,
    fun hplaying hlt hno => ?_⟩
  · rw [consumeBlock_run_waits (s := freshState s tag history) hwaits]
    exact ⟨rfl, fillSilence_eq h, rfl, rfl, rfl⟩
  · have hfront : (freshState s tag history).readyQueue.front = some block := hblock
    have hexact' : isExactBlock cfg s.shared.generation (expectedFrame s)
        output.fillSilence.channels.length block = true := by
      rw [hlength]
      exact isExactBlock_iff.mpr hexact
    rw [hfront, consumeBlock_run_plays (s := freshState s tag history) hplaying hlt hexact']
    exact ⟨rfl, copyBlock_fillSilence h block, BoundedFifo.contents_pop _, rfl, rfl⟩
  · have hno' : ∀ block ∈ (freshState s tag history).readyQueue.front, isExactBlock cfg
        s.shared.generation (expectedFrame s) output.fillSilence.channels.length block = false := by
      intro block hblock
      rw [hlength, ← Bool.not_eq_true, isExactBlock_iff]
      exact hno block hblock
    rw [consumeBlock_run_underrun (s := freshState s tag history) hplaying hlt hno']
    exact ⟨rfl, fillSilence_eq h, rfl, rfl, rfl⟩

/-- **One callback.** What a callback does on any queue. -/
theorem processBlock_outcome (hheard : Heard cfg output s) (hcursor : CursorStored s)
    (htarget : BlockBoundary cfg s.shared.targetFrame) :
    CallbackOutcome cfg output s ((processBlock cfg output).run s) := by
  obtain ⟨tag, history, hrun⟩ := processBlock_consumes hheard hcursor htarget
  rw [hrun]
  have hstored := (consumeBlock_stored cfg output.fillSilence
    s.shared.generation (expectedFrame s) (freshState s tag history).readyQueue.front).run
      (freshState s tag history)
  simp only [Prod.mk.injEq] at hstored
  have hsplit : s.readyQueue.contents =
      s.readyQueue.contents.takeWhile (isStale s.shared.generation (expectedFrame s)) ++
        (freshState s tag history).readyQueue.contents :=
    (List.takeWhile_append_dropWhile).symm
  refine ⟨hstored.1, ?_, _, _, hsplit, fun block hb => ?_, fun block hb => ?_,
    consumeBlock_consumes hheard.2.2.1 tag history⟩
  · exact hstored.2
  · exact isStale_iff.mp (List.mem_takeWhile_imp hb)
  · have hno := List.head?_dropWhile_not (isStale s.shared.generation (expectedFrame s))
      s.readyQueue.contents
    have hhead : (s.readyQueue.contents.dropWhile (isStale s.shared.generation
        (expectedFrame s))).head? = some block := hb
    rw [hhead] at hno
    rw [← isStale_iff]
    simpa using hno

end

/-! ## Callbacks and the others -/

/-- What belongs to the callback: its own state and the cursor. -/
def consumerView (s : EngineState S) : AudioState × Int := (s.audio, s.shared.nextUnconsumedFrame)

/-- The calls around a callback: callbacks, and any step of the others, who leave alone what belongs
to it. -/
inductive HostCall (S : Type) where
  | processBlock (output : AudioOutputBuffer S)
  | others (step : { f : EngineState S → EngineState S // ∀ s, consumerView (f s) = consumerView s })

/-- A callback among others that may do anything. -/
def hostMachine [Zero S] (cfg : Config) : Machine ThreadId (HostCall S) (EngineState S) where
  thread
    | .processBlock _ => .audio
    | .others _ => .scheduler
  program
    | .processBlock output => do
      let _ ← processBlock cfg output
    | .others step => .modify step.1

/-- The pool reached from a constructed engine by callbacks among the steps of the others. -/
def hostRun [Zero S] (cfg : Config) (moves : List (Move ThreadId (HostCall S))) :
    Pool ThreadId (EngineState S) :=
  Pool.run (hostMachine cfg) moves (Pool.idle (.init cfg))

section

variable [Zero S] (cfg : Config)

/-- The contract of the owner of the cursor. -/
abbrev consumerContract : Contract (EngineState S) :=
  ((Discipline.anything (hostMachine cfg)).contract .audio).owning consumerView (fun _ => True)
    fun _ _ => True

variable {cfg}

theorem consumer_frame_bind {α β : Type} {p : Prog (EngineState S) α}
    {g : α → Prog (EngineState S) β} {P : AudioState × Int → Prop} {Q : β → EngineState S → Prop}
    (hp : p.Preserves consumerView)
    (hg : ∀ a, (consumerContract cfg).Triple (fun s => P (consumerView s)) (g a) Q) :
    (consumerContract cfg).Triple (fun s => P (consumerView s)) (p >>= g) Q :=
  Triple.bind (Stable.owning (Discipline.contract_stable _ _))
    (triple_owned_frame (fun _ => trivial) hp P) hg

/-- The cursor of the view is the frame that the next callback expects. -/
def ViewStored (v : AudioState × Int) : Prop := v.2 = v.1.expectedBlockStartFrame

theorem consumer_stable : (consumerContract (S := S) cfg).Stable :=
  Stable.owning (Discipline.contract_stable _ _)

theorem adoptGeneration_stored (generation : Int) :
    (consumerContract cfg).Triple (fun s : EngineState S => ViewStored (consumerView s))
      (adoptGeneration cfg generation) fun _ s => ViewStored (consumerView s) := by
  refine Triple.bind consumer_stable (triple_owned_atomically ViewStored
    (fun frame v => v.1.expectedBlockStartFrame = frame) fun _ _ _ _ => ⟨trivial, trivial, rfl⟩)
    fun frame => ?_
  refine Triple.bind consumer_stable (triple_owned_modify
    (fun v => v.1.expectedBlockStartFrame = frame) ViewStored
    fun s _ _ h => ⟨trivial, trivial, Eq.symm h⟩) fun _ => ?_
  exact triple_owned_frame (fun _ => trivial) (Prog.preserves_modify fun _ => rfl) ViewStored

theorem consumeBlock_storedCursor (generation frame : Int) (output : AudioOutputBuffer S)
    (head : Option (AudioBlock S)) :
    (consumerContract cfg).Triple (fun s : EngineState S => ViewStored (consumerView s))
      (consumeBlock cfg generation frame output head) fun _ s => ViewStored (consumerView s) := by
  have hreturn : ∀ r : AudioProcessResult × AudioOutputBuffer S, (consumerContract cfg).Triple
      (fun s : EngineState S => ViewStored (consumerView s)) (pure r)
      fun _ s => ViewStored (consumerView s) := fun r => triple_owned_pure fun _ _ h => h
  refine consumer_frame_bind (Prog.preserves_read _) fun _ => triple_ite (fun _ => hreturn _)
    fun _ => triple_ite (fun _ => hreturn _) fun _ => ?_
  refine consumer_frame_bind ?_ fun played => ?_
  · exact (playBlock_cursorView generation frame output head).mono fun _ _ h => by
      simp only [cursorView, CursorState.mk.injEq] at h
      simp only [consumerView, h]
  · exact Triple.bind consumer_stable (triple_owned_modify ViewStored ViewStored
      fun s _ _ _ => ⟨trivial, trivial, rfl⟩) fun _ => hreturn _

theorem processBlock_stored (output : AudioOutputBuffer S) :
    (consumerContract cfg).Triple (fun s : EngineState S => ViewStored (consumerView s))
      (processBlock cfg output) fun _ s => ViewStored (consumerView s) := by
  have hreturn : ∀ r : AudioProcessResult × AudioOutputBuffer S, (consumerContract cfg).Triple
      (fun s : EngineState S => ViewStored (consumerView s)) (pure r)
      fun _ s => ViewStored (consumerView s) := fun r => triple_owned_pure fun _ _ h => h
  refine triple_ite (fun _ => hreturn _) fun _ => triple_ite (fun _ => hreturn _) fun _ =>
    consumer_frame_bind (Prog.preserves_read _) fun _ => triple_ite (fun _ => hreturn _) fun _ => ?_
  refine Triple.bind consumer_stable (Q := fun _ s => ViewStored (consumerView s)) ?_
    fun generation => ?_
  · refine consumer_frame_bind (Prog.preserves_read _) fun generation =>
      consumer_frame_bind (Prog.preserves_read _) fun own => triple_ite (fun _ => ?_)
        fun _ => triple_owned_pure fun _ _ h => h
    exact (adoptGeneration_stored generation).bind consumer_stable fun _ =>
      triple_owned_pure fun _ _ h => h
  · refine consumer_frame_bind (Prog.preserves_read _) fun frame =>
      consumer_frame_bind (Prog.preserves_read _) fun capacity => consumer_frame_bind ?_
        fun head => consumeBlock_storedCursor generation frame _ head
    exact (discardStaleBlocks_cursorView generation frame capacity).mono fun _ _ h => by
      simp only [cursorView, CursorState.mk.injEq] at h
      simp only [consumerView, h]

/-- The cursor in the machine of a callback and the others. -/
def consumerLayer (cfg : Config) : Layer (Discipline.anything (hostMachine (S := S) cfg)) :=
  Layer.owned _ .audio consumerView (fun _ => True) ViewStored (fun _ _ => True)
    (fun call hother => by
      cases call with
      | processBlock output => exact absurd rfl hother
      | others step => exact Prog.preserves_modify step.2)
    fun call hcall s _ _ _ h => by
      cases call with
      | processBlock output =>
        exact ((processBlock_stored output).bind consumer_stable fun _ =>
          triple_owned_pure fun _ _ h => h) s trivial h
      | others step => cases hcall

theorem hostRun_cursorStored {moves : List (Move ThreadId (HostCall S))}
    (hidle : (hostRun cfg moves).thread .audio = none) :
    CursorStored (hostRun cfg moves).state := by
  have hinit : (consumerLayer cfg).discipline.Sound (Pool.idle (EngineState.init cfg : EngineState S)) :=
    ⟨⟨trivial, trivial⟩, fun _ => ⟨trivial, fun _ => rfl⟩⟩
  have hthread := (hinit.run moves).thread .audio
  rw [show (Pool.run (hostMachine cfg) moves (Pool.idle (.init cfg))).thread .audio = none
    from hidle] at hthread
  exact hthread.2 rfl

/-- **The callback on any queue.** Whatever the queue and the shared state hold between two
callbacks, the next callback follows the current generation, removes the longest prefix of outdated
blocks, and then waits, plays the next block or underruns. -/
theorem hostRun_callbackOutcome {moves : List (Move ThreadId (HostCall S))}
    (hidle : (hostRun cfg moves).thread .audio = none) {output : AudioOutputBuffer S}
    (hheard : Heard cfg output (hostRun cfg moves).state)
    (htarget : BlockBoundary cfg (hostRun cfg moves).state.shared.targetFrame) :
    CallbackOutcome cfg output (hostRun cfg moves).state
      ((processBlock cfg output).run (hostRun cfg moves).state) :=
  processBlock_outcome hheard (hostRun_cursorStored hidle) htarget

end

/-- Sixteen frames in blocks of four. -/
def sixteenFrameConfig : Config where
  totalFrames := 16
  audio := { audioBlockFrames := 4, channelCount := 1 }

/-- The callback underruns; then a late block, an exact one and one of a future generation are
queued. -/
def lateBlockMoves : List (Move ThreadId (HostCall ℤ)) :=
  [.whole (.others ⟨fun s => { s with shared := { s.shared with playing := true } }, fun _ => rfl⟩),
   .whole (.processBlock ⟨[some fun _ => 0], 4⟩),
   .whole (.others ⟨fun s => { s with
      readyQueue :=
        ⟨[⟨1, 0, 4, ⟨1, 4, fun _ _ => 1⟩⟩, ⟨1, 4, 4, ⟨1, 4, fun _ _ => 2⟩⟩,
          ⟨2, 8, 4, ⟨1, 4, fun _ _ => 3⟩⟩], []⟩ }, fun _ => rfl⟩)]

theorem hostRun_callbackOutcome_late :
    CallbackOutcome sixteenFrameConfig ⟨[some fun _ => 0], 4⟩
      (hostRun sixteenFrameConfig lateBlockMoves).state
      ((processBlock sixteenFrameConfig ⟨[some fun _ => 0], 4⟩).run
        (hostRun sixteenFrameConfig lateBlockMoves).state) :=
  hostRun_callbackOutcome (by decide) (by unfold Heard; decide) (by unfold BlockBoundary; decide)

end Anasa
