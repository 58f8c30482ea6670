import Anasa.Playback.CursorContract

/-!
# The acknowledgement protocol

The machine of the protocol alone: a scheduler thread that calls `beginGeneration` and
`currentFrame` in any order, an audio thread that makes callbacks, and surroundings that switch
playback on and off and put any blocks into the queue, each access interleaved in every way.
-/

namespace Anasa

open Concurrency Contract

variable {S : Type}

inductive ProtocolCall (cfg : Config) (S : Type) where
  | beginGeneration (target : { frame : Int // BlockBoundary cfg frame }) (suspend : Bool)
  | currentFrame
  | processBlock (output : AudioOutputBuffer S)
  | setPlaying (playing : Bool)
  | setStop (stop : Bool)
  | setReadyQueue (queue : BoundedFifo (AudioBlock S))

/-- `currentFrame`, and a record of its result with the latest generation. -/
def recordedCurrentFrame (cfg : Config) : Prog (EngineState S) Unit := do
  let frame ← PlaybackProtocol.currentFrame cfg
  .modify fun s => { s with
    history.currentFrames := (s.shared.generation, frame) :: s.history.currentFrames }

namespace ProtocolCall

variable {cfg : Config}

def thread : ProtocolCall cfg S → ThreadId
  | .beginGeneration _ _ => .scheduler
  | .currentFrame => .scheduler
  | .processBlock _ => .audio
  | .setPlaying _ => .client
  | .setStop _ => .client
  | .setReadyQueue _ => .client

def program [Zero S] : ProtocolCall cfg S → Prog (EngineState S) Unit
  | .beginGeneration target suspend => PlaybackProtocol.beginGeneration target suspend
  | .currentFrame => recordedCurrentFrame cfg
  | .processBlock output => recordedCallback cfg output
  | .setPlaying playing => .modify fun s => { s with shared.playing := playing }
  | .setStop stop => .modify fun s => { s with shared.stop := stop }
  | .setReadyQueue readyQueue => .modify fun s => { s with readyQueue }

end ProtocolCall

def protocolMachine [Zero S] (cfg : Config) :
    Machine ThreadId (ProtocolCall cfg S) (EngineState S) :=
  ⟨ProtocolCall.thread, ProtocolCall.program⟩

/-- The pool reached from a constructed engine: every interleaving of accesses. -/
def protocolRun [Zero S] (cfg : Config) (moves : List (Move ThreadId (ProtocolCall cfg S))) :
    Pool ThreadId (EngineState S) :=
  Pool.run (protocolMachine cfg) moves (Pool.idle (.init cfg))

/-! ## The discipline -/

/-- What a thread knows between two calls. -/
def cursorIdle : ThreadId → EngineState S → Prop
  | .scheduler => fun s => CursorAt false (cursorView s)
  | .audio => fun s => AudioSettled (cursorView s)
  | .client => fun _ => True
  | .worker _ => fun _ => True

section

variable {cfg : Config}

theorem kept_cursorIdle (i : ThreadId) : (cursorContract cfg i).Kept (cursorIdle (S := S) i) := by
  cases i with
  | scheduler => exact kept_cursorAt
  | audio => exact kept_audioSettled
  | client => exact kept_true
  | worker n => exact kept_true

/-- A call that leaves the protocol alone. -/
theorem outsideCursor_triple {i : ThreadId} {p : Prog (EngineState S) Unit}
    (hp : p.Preserves cursorView) :
    (cursorContract cfg i).Triple (cursorIdle i) p fun _ => cursorIdle i := by
  refine triple_of_preserves hp (kept_cursorIdle i) fun s s' h hi hs =>
    ⟨cursorGuar_of_view h, show CursorInv cfg (cursorView s') from h ▸ hi, ?_⟩
  cases i with
  | scheduler => exact (h ▸ hs : CursorAt false (cursorView s'))
  | audio => exact (h ▸ hs : AudioSettled (cursorView s'))
  | client => trivial
  | worker n => trivial

theorem recordedCallback_triple [Zero S] (hcfg : cfg.Valid) (output : AudioOutputBuffer S) :
    (cursorContract cfg .audio).Triple (fun s : EngineState S => AudioSettled (cursorView s))
      (recordedCallback cfg output) fun _ s => AudioSettled (cursorView s) :=
  (AudioBlockProcessor.processBlock_triple hcfg output).bind (cursorContract_stable cfg .audio)
    fun _ => triple_outsideCursor (Prog.preserves_modify fun _ => rfl) kept_audioSettled

theorem recordedCurrentFrame_triple (hcfg : cfg.Valid) :
    (cursorContract cfg .scheduler).Triple
      (fun s : EngineState S => CursorAt false (cursorView s)) (recordedCurrentFrame cfg)
      fun _ s => CursorAt false (cursorView s) := by
  refine (PlaybackProtocol.currentFrame_triple hcfg).bind (cursorContract_stable cfg .scheduler)
    fun frame => triple_cursorModify kept_frameFound kept_cursorAt fun s hi hs => ?_
  obtain ⟨generation, hk⟩ := hs
  have hg : s.shared.generation = generation := hk.read.2
  obtain ⟨hi', hr⟩ := hi.record hk
  rw [hg]
  exact ⟨hi', hr, hk.read.1.targetPending, hk.read.1.editing_eq, hk.read.1.noCursor⟩

theorem protocolCall_triple [Zero S] (hcfg : cfg.Valid) (call : ProtocolCall cfg S) :
    (cursorContract cfg call.thread).Triple (cursorIdle call.thread) call.program
      fun _ => cursorIdle call.thread := by
  cases call with
  | beginGeneration target suspend =>
    exact (PlaybackProtocol.beginGeneration_triple target.2 suspend).conseq
      (fun _ _ hs => ⟨hs, nofun⟩) fun _ _ _ h => h.1
  | currentFrame => exact recordedCurrentFrame_triple hcfg
  | processBlock output => exact recordedCallback_triple hcfg output
  | setPlaying playing => exact outsideCursor_triple (Prog.preserves_modify fun _ => rfl)
  | setStop stop => exact outsideCursor_triple (Prog.preserves_modify fun _ => rfl)
  | setReadyQueue queue => exact outsideCursor_triple (Prog.preserves_modify fun _ => rfl)

theorem cursorIdle_init [Zero S] (i : ThreadId) :
    cursorIdle i (EngineState.init cfg : EngineState S) := by
  cases i with
  | scheduler => exact ⟨rfl, rfl, fun _ => rfl⟩
  | audio => exact ⟨le_rfl, .inl ⟨rfl, rfl, rfl⟩⟩
  | client => trivial
  | worker n => trivial

/-- The discipline of a machine whose calls all obey the protocol. -/
def cursorDiscipline {κ : Type} (cfg : Config) (M : Machine ThreadId κ (EngineState S))
    (h : ∀ c, (cursorContract cfg (M.thread c)).Triple (cursorIdle (M.thread c)) (M.program c)
      fun _ => cursorIdle (M.thread c)) : Discipline M where
  inv s := CursorInv cfg (cursorView s)
  rely := cursorRely
  guar i s s' := ∀ j, j ≠ i → cursorRely j s s'
  idle := cursorIdle
  rely_refl := cursorRely_refl
  rely_trans := cursorRely_trans
  compatible hij _ _ hg := hg _ (Ne.symm hij)
  idle_stable {i s s'} hs hr hi := kept_cursorIdle i s s' hs hr hi
  call_safe c s hi hs := h c s hi hs

end

/-! ## What `currentFrame` returns -/

/-- The results of `currentFrame` are the target of their generation or progress made in it. -/
structure CursorAcknowledged (cfg : Config) (h : PlaybackHistory) : Prop where
  answer : ∀ r ∈ h.currentFrames,
    r.2 = h.generationTarget r.1 ∨
      (∃ j : ℕ, r.2 = h.generationTarget r.1 + j * cfg.audio.audioBlockFrames) ∧
        ∃ st ∈ h.cursorStores, st.generation = r.1 ∧ st.frame = r.2
  boundary : ∀ r ∈ h.currentFrames, BlockBoundary cfg r.2
  /-- Results of one generation do not decrease. -/
  monotone : h.currentFrames.Pairwise fun later earlier =>
    later.1 = earlier.1 → earlier.2 ≤ later.2

/-- **Cursor acknowledgement.** In every interleaving of accesses, `currentFrame` returns the
target of the latest generation or a position that a callback stored in that generation. -/
theorem protocolRun_cursorAcknowledged [Zero S] (cfg : AcceptedConfig)
    (moves : List (Move ThreadId (ProtocolCall cfg.toConfig S))) :
    CursorAcknowledged cfg (protocolRun cfg.toConfig moves).state.history := by
  have hsound := Discipline.Sound.run (Discipline.sound_idle
    (D := cursorDiscipline cfg (protocolMachine cfg.toConfig) (protocolCall_triple cfg.valid))
    (CursorInv.init (S := S) cfg.valid) cursorIdle_init) moves
  have hi : CursorInv cfg (cursorView (protocolRun cfg.toConfig moves).state) := hsound.inv
  exact ⟨fun r hr => (hi.ack.results r hr).2.2, fun r hr => (hi.ack.results r hr).2.1,
    hi.ack.results_mono⟩

end Anasa
