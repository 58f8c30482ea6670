import Anasa.Concurrency.Isolation
import Anasa.Concurrency.Observer
import Anasa.Playback.Edits

/-!
# Snapshots of playback

`Engine::playbackSnapshot` loads four atomics one after the other while every thread goes on, so its
fields may belong to four moments. It loads the generation of the cursor before the cursor, in the
opposite order of the callback that stores them: while no generation begins, the cursor is one of
the generation that the snapshot names (`engineRun_snapshots`).
-/

namespace Anasa

open Concurrency

variable {S : Type} {cfg : Config}

structure PlaybackSnapshot where
  playing : Bool
  generation : Int
  cursorGeneration : Int
  nextUnconsumedFrame : Int
  deriving DecidableEq, Repr

/-- `Engine::playbackSnapshot`. -/
def Engine.playbackSnapshot : Prog (EngineState S) PlaybackSnapshot := do
  let playing ← .read (·.shared.playing)
  let generation ← .read (·.shared.generation)
  let cursorGeneration ← .read (·.shared.audioCursorGeneration)
  let nextUnconsumedFrame ← .read (·.shared.nextUnconsumedFrame)
  return ⟨playing, generation, cursorGeneration, nextUnconsumedFrame⟩

/-- A snapshot that a further thread takes while those of the engine go on. -/
def snapshotAmid [Zero S] (cfg : Config) (kernel : RenderKernel S)
    (schedule : ℕ → List (EngineMove S)) (p : EnginePool S) : PlaybackSnapshot × EnginePool S :=
  Pool.observe (engineMachine cfg kernel) schedule Engine.playbackSnapshot 0 p

/-! ## Time -/

namespace CursorState

/-- What every step of both sides amounts to. -/
structure Later (c c' : CursorState) : Prop where
  generation : c.generation ≤ c'.generation
  cursorGeneration : c.cursorGeneration ≤ c'.cursorGeneration
  pending : c'.generation = c.generation → c'.history.targetPending = false →
    c.history.targetPending = false
  resolved : c'.generation = c.generation → c'.history.targetPending = false →
    c.resolved ≤ c'.resolved

variable {c c' c'' : CursorState}

theorem Later.refl (c : CursorState) : Later c c :=
  ⟨le_rfl, le_rfl, fun _ hp => hp, fun _ _ => le_rfl⟩

theorem Later.trans (h : Later c c') (h' : Later c' c'') : Later c c'' := by
  have hbetween : c''.generation = c.generation → c''.generation = c'.generation ∧
      c'.generation = c.generation := by
    intro hg
    have h₁ := h.generation
    have h₂ := h'.generation
    omega
  constructor
  case generation => exact h.generation.trans h'.generation
  case cursorGeneration => exact h.cursorGeneration.trans h'.cursorGeneration
  case pending =>
    intro hg hp
    obtain ⟨hlast, hfirst⟩ := hbetween hg
    exact h.pending hfirst (h'.pending hlast hp)
  case resolved =>
    intro hg hp
    obtain ⟨hlast, hfirst⟩ := hbetween hg
    exact (h.resolved hfirst (h'.pending hlast hp)).trans (h'.resolved hlast hp)

end CursorState

theorem AudioRely.later {c c' : CursorState} (h : AudioRely c c') : c.Later c' where
  generation := h.generation
  cursorGeneration := h.cursorGeneration.ge
  pending hg hp := (h.target hg hp).1
  resolved hg hp := by
    unfold CursorState.resolved
    rw [h.cursorGeneration, h.cursor, hg, (h.target hg hp).2]

theorem SchedulerRely.later {c c' : CursorState} (h : SchedulerRely c c') : c.Later c' where
  generation := h.generation.ge
  cursorGeneration := h.cursorGeneration
  pending _ hp := h.targetPending.symm.trans hp
  resolved _ hp := h.resolved (h.targetPending.symm.trans hp)

/-! ## One snapshot -/

/-- What a snapshot says of the state in which it is complete. -/
structure SnapshotSound (cfg : Config) (snapshot : PlaybackSnapshot) (s : EngineState S) : Prop where
  boundary : BlockBoundary cfg snapshot.nextUnconsumedFrame
  generation_pos : 1 ≤ snapshot.generation
  generation_le : snapshot.generation ≤ s.shared.generation
  cursorGeneration_pos : 1 ≤ snapshot.cursorGeneration
  cursorGeneration_le : snapshot.cursorGeneration ≤ s.shared.generation
  /-- The cursor of the latest generation, unless the next one is about to begin. -/
  settled : snapshot.cursorGeneration = s.shared.generation → s.history.targetPending = false →
    (cursorView s).Answer cfg snapshot.cursorGeneration snapshot.nextUnconsumedFrame

section

variable [Zero S]

/-- The fields of a snapshot come from four states of one run. -/
theorem snapshotAmid_eq (cfg : Config) (kernel : RenderKernel S)
    (schedule : ℕ → List (EngineMove S)) (p : EnginePool S) : ∃ p₁ p₂ p₃ : EnginePool S,
    p₁ = Pool.run (engineMachine cfg kernel) (schedule 0) p ∧
    p₂ = Pool.run (engineMachine cfg kernel) (schedule 1) p₁ ∧
    p₃ = Pool.run (engineMachine cfg kernel) (schedule 2) p₂ ∧
    snapshotAmid cfg kernel schedule p =
      (⟨p₁.state.shared.playing, p₂.state.shared.generation,
          p₃.state.shared.audioCursorGeneration,
          (Pool.run (engineMachine cfg kernel) (schedule 3) p₃).state.shared.nextUnconsumedFrame⟩,
        Pool.run (engineMachine cfg kernel) (schedule 3) p₃) := by
  refine ⟨_, _, _, rfl, rfl, rfl, ?_⟩
  rw [snapshotAmid, Engine.playbackSnapshot]
  simp only [Pool.observe_read_bind, Pool.observe_pure]

end

/-- What the callbacks and the commands of an engine agree on. -/
abbrev PoolSound [Zero S] (cfg : AcceptedConfig) (kernel : RenderKernel S) (p : EnginePool S) :
    Prop :=
  (cursorDiscipline cfg (engineMachine cfg.toConfig kernel)
    (call_cursorTriple cfg.valid kernel)).Sound p

namespace PoolSound

variable [Zero S] {cfg : AcceptedConfig} {kernel : RenderKernel S} {p : EnginePool S}

/-- Time goes on in every run. -/
theorem later (h : PoolSound cfg kernel p) (moves : List (EngineMove S)) :
    (cursorView p.state).Later
      (cursorView (Pool.run (engineMachine cfg.toConfig kernel) moves p).state) := by
  refine Discipline.Sound.run_guar (R := fun s s' => (cursorView s).Later (cursorView s')) h
    (fun s => .refl _) .trans (fun i s s' _ _ hguar => ?_) moves
  by_cases hi : i = .scheduler
  · have hrely : AudioRely (cursorView s) (cursorView s') := hguar .audio (by simp [hi])
    exact hrely.later
  · have hrely : SchedulerRely (cursorView s) (cursorView s') := hguar .scheduler (Ne.symm hi)
    exact hrely.later

theorem run (h : PoolSound cfg kernel p) (moves : List (EngineMove S)) :
    PoolSound cfg kernel (Pool.run (engineMachine cfg.toConfig kernel) moves p) :=
  Discipline.Sound.run h moves

end PoolSound

/-- What a snapshot says of the pools before and after it. -/
structure Observed [Zero S] (cfg : AcceptedConfig) (kernel : RenderKernel S) (p : EnginePool S)
    (observed : PlaybackSnapshot × EnginePool S) : Prop where
  sound : PoolSound cfg kernel observed.2
  later : (cursorView p.state).Later (cursorView observed.2.state)
  generation_ge : p.state.shared.generation ≤ observed.1.generation
  cursorGeneration_ge : p.state.shared.audioCursorGeneration ≤ observed.1.cursorGeneration
  generation_le : observed.1.generation ≤ observed.2.state.shared.generation
  cursorGeneration_le :
    observed.1.cursorGeneration ≤ observed.2.state.shared.audioCursorGeneration
  cursor_eq : observed.1.nextUnconsumedFrame = observed.2.state.shared.nextUnconsumedFrame

section

variable [Zero S] {cfg : AcceptedConfig} {kernel : RenderKernel S} {p : EnginePool S}

theorem PoolSound.observed (h : PoolSound cfg kernel p) (schedule : ℕ → List (EngineMove S)) :
    Observed cfg kernel p (snapshotAmid cfg.toConfig kernel schedule p) := by
  obtain ⟨p₁, p₂, p₃, h₁, h₂, h₃, heq⟩ :=
    snapshotAmid_eq cfg.toConfig kernel schedule p
  have hsound₁ : PoolSound cfg kernel p₁ := h₁ ▸ h.run (schedule 0)
  have hsound₂ : PoolSound cfg kernel p₂ := h₂ ▸ hsound₁.run (schedule 1)
  have hsound₃ : PoolSound cfg kernel p₃ := h₃ ▸ hsound₂.run (schedule 2)
  have hlater₁ : (cursorView p.state).Later (cursorView p₁.state) := h₁ ▸ h.later (schedule 0)
  have hlater₂ : (cursorView p₁.state).Later (cursorView p₂.state) :=
    h₂ ▸ hsound₁.later (schedule 1)
  have hlater₃ : (cursorView p₂.state).Later (cursorView p₃.state) :=
    h₃ ▸ hsound₂.later (schedule 2)
  have hlast := hsound₃.later (schedule 3)
  rw [heq]
  exact {
    sound := hsound₃.run (schedule 3)
    later := ((hlater₁.trans hlater₂).trans hlater₃).trans hlast
    generation_ge := (hlater₁.trans hlater₂).generation
    cursorGeneration_ge := ((hlater₁.trans hlater₂).trans hlater₃).cursorGeneration
    generation_le := (hlater₃.trans hlast).generation
    cursorGeneration_le := hlast.cursorGeneration
    cursor_eq := rfl }

namespace Observed

variable {observed : PlaybackSnapshot × EnginePool S}

theorem cursorGeneration_le' (h : Observed cfg kernel p observed) :
    observed.2.state.shared.audioCursorGeneration ≤ observed.2.state.shared.generation := by
  have hack := h.sound.inv.ack
  have hcursor := hack.cursor_le
  have haudio := hack.audio_le
  have hpos := hack.generation_pos
  show (cursorView observed.2.state).cursorGeneration ≤ (cursorView observed.2.state).generation
  omega

/-- A snapshot of the latest generation shows its cursor. -/
theorem cursor_resolved (h : Observed cfg kernel p observed)
    (hlatest : observed.1.cursorGeneration = observed.2.state.shared.generation) :
    observed.2.state.shared.audioCursorGeneration = observed.2.state.shared.generation ∧
      (cursorView observed.2.state).resolved = observed.1.nextUnconsumedFrame := by
  have heq : observed.2.state.shared.audioCursorGeneration =
      observed.2.state.shared.generation :=
    le_antisymm h.cursorGeneration_le' (hlatest ▸ h.cursorGeneration_le)
  exact ⟨heq, (if_pos heq).trans h.cursor_eq.symm⟩

theorem snapshotSound (h : Observed cfg kernel p observed) (hp : PoolSound cfg kernel p) :
    SnapshotSound cfg.toConfig observed.1 observed.2.state := by
  have hack := h.sound.inv.ack
  constructor
  case boundary =>
    rw [h.cursor_eq]
    exact hack.cursor_boundary
  case generation_pos => exact hp.inv.ack.generation_pos.trans h.generation_ge
  case generation_le => exact h.generation_le
  case cursorGeneration_pos => exact hp.inv.ack.cursor_pos.trans h.cursorGeneration_ge
  case cursorGeneration_le => exact h.cursorGeneration_le.trans h.cursorGeneration_le'
  case settled =>
    intro hlatest hpending
    rw [hlatest, h.cursor_eq]
    exact hack.progress hpending (h.cursor_resolved hlatest).1

end Observed

/-! ## Snapshots one after the other -/

/-- What two snapshots say, the second one taken after the first one. -/
structure SnapshotsSound (cfg : Config) (o o' : PlaybackSnapshot × EnginePool S) : Prop where
  first : SnapshotSound cfg o.1 o.2.state
  second : SnapshotSound cfg o'.1 o'.2.state
  generation_le : o.1.generation ≤ o'.1.generation
  cursorGeneration_le : o.1.cursorGeneration ≤ o'.1.cursorGeneration
  /-- Playback is not seen to go back while no generation begins. -/
  forward : o.1.cursorGeneration = o'.2.state.shared.generation →
    o'.2.state.history.targetPending = false →
    o.1.nextUnconsumedFrame ≤ o'.1.nextUnconsumedFrame

/-- **Snapshots are sound.** In every interleaving of an engine with a client that takes snapshots,
their generations do not decrease, and while no generation begins, one of the latest generation
shows a position that playback has reached in it, which does not go back. -/
theorem engineRun_snapshots (cfg : AcceptedConfig) (kernel : RenderKernel S)
    (moves : List (EngineMove S)) (schedule schedule' : ℕ → List (EngineMove S)) :
    SnapshotsSound cfg.toConfig
      (snapshotAmid cfg.toConfig kernel schedule (engineRun cfg.toConfig kernel moves))
      (snapshotAmid cfg.toConfig kernel schedule'
        (snapshotAmid cfg.toConfig kernel schedule (engineRun cfg.toConfig kernel moves)).2) := by
  have hsound : PoolSound cfg kernel (engineRun cfg.toConfig kernel moves) :=
    cursorDiscipline_sound cfg kernel moves
  have hobserved := hsound.observed schedule
  generalize snapshotAmid cfg.toConfig kernel schedule (engineRun cfg.toConfig kernel moves) =
    earlier at hobserved
  have hobserved' := hobserved.sound.observed schedule'
  generalize snapshotAmid cfg.toConfig kernel schedule' earlier.2 = later at hobserved'
  constructor
  case first => exact hobserved.snapshotSound hsound
  case second => exact hobserved'.snapshotSound hobserved.sound
  case generation_le => exact hobserved.generation_le.trans hobserved'.generation_ge
  case cursorGeneration_le =>
    exact hobserved.cursorGeneration_le.trans hobserved'.cursorGeneration_ge
  case forward =>
    intro hlatest hpending
    have hlater := hobserved'.later
    have hfirst := hobserved.cursorGeneration_le
    have hbetween := hobserved.cursorGeneration_le'
    have hlast : earlier.2.state.shared.generation ≤ later.2.state.shared.generation :=
      hlater.generation
    have hsame : later.2.state.shared.generation = earlier.2.state.shared.generation := by omega
    have hreached : later.1.cursorGeneration = later.2.state.shared.generation :=
      le_antisymm (hobserved'.cursorGeneration_le.trans hobserved'.cursorGeneration_le')
        (hlatest ▸ hfirst.trans hobserved'.cursorGeneration_ge)
    rw [← (hobserved.cursor_resolved (hlatest.trans hsame)).2,
      ← (hobserved'.cursor_resolved hreached).2]
    exact hlater.resolved hsame hpending

end

end Anasa
