import Anasa.Playback.Frames
import Anasa.Rendering.Frames
import Anasa.Model.Session
import Anasa.Concurrency.Layer

/-!
# The control of the scheduler

The loop of the scheduler and its owner share the command queue, the requests to stop and the
permission to play. `ControlInv` is what holds in every state:

1. the commands handled in the session are a prefix of those accepted, and a Stop is the last of
   them;
2. once the loop has ended nothing plays.

The owner posts only to a running scheduler that it is not stopping (`OwnerMoves`), and the
scheduler stays started until the owner stops it. `ControlIdle` is what the scheduler knows between
two calls: what is queued is what it has accepted and not handled.
-/

namespace Anasa

open Concurrency Contract

variable {S : Type}

namespace Control

variable (c : Control)

/-- The thread of the loop has returned, or there is none. -/
def Ended : Prop := c.loop.phase = .returned ∨ c.loop.phase = .stopped

/-- A Stop was handled in the session. -/
def StopHandled : Prop := ∃ command ∈ c.handled, command.type = .stop

end Control

structure ControlInv (c : Control) (playing : Bool) : Prop where
  handled_prefix : c.handled <+: c.accepted
  stop_last : ∀ command ∈ c.handled.dropLast, command.type ≠ .stop
  paused : c.Ended → playing = false

/-- **The owner.** What the owner may do while the scheduler runs: it posts to a running scheduler
that it is not stopping, and it requests the stop. -/
structure OwnerMoves (c c' : Control) : Prop where
  posted : ∃ posted, c'.commands.contents = c.commands.contents ++ posted ∧
    c'.accepted = c.accepted ++ posted ∧
    (posted ≠ [] → c.started = true ∧ c.loop.stopping = none)
  phase : c'.loop.phase = c.loop.phase
  stopping : c.loop.stopping ≠ none → c'.loop.stopping = c.loop.stopping
  started : c'.started = c.started
  stopRequested : c.stopRequested = true → c'.stopRequested = true
  handled : c'.handled = c.handled

namespace OwnerMoves

variable {c c' c'' : Control}

theorem refl (c : Control) : OwnerMoves c c where
  posted := ⟨[], (List.append_nil _).symm, (List.append_nil _).symm, fun h => absurd rfl h⟩
  phase := rfl
  stopping _ := rfl
  started := rfl
  stopRequested h := h
  handled := rfl

theorem trans (h : OwnerMoves c c') (h' : OwnerMoves c' c'') : OwnerMoves c c'' where
  posted := by
    obtain ⟨first, hcommands, haccepted, hfirst⟩ := h.posted
    obtain ⟨second, hcommands', haccepted', hsecond⟩ := h'.posted
    refine ⟨first ++ second, ?_, ?_, fun hne => ?_⟩
    · rw [hcommands', hcommands, List.append_assoc]
    · rw [haccepted', haccepted, List.append_assoc]
    · by_cases hnil : first = []
      · rw [hnil, List.nil_append] at hne
        obtain ⟨hstarted, hstopping⟩ := hsecond hne
        refine ⟨h.started.symm.trans hstarted, ?_⟩
        by_contra hsome
        exact hsome ((h.stopping hsome).symm.trans hstopping)
      · exact hfirst hnil
  phase := h'.phase.trans h.phase
  stopping hsome := by
    have hsame := h.stopping hsome
    exact (h'.stopping (hsame ▸ hsome)).trans hsame
  started := h'.started.trans h.started
  stopRequested hs := h'.stopRequested (h.stopRequested hs)
  handled := h'.handled.trans h.handled

theorem ended (h : OwnerMoves c c') : c'.Ended ↔ c.Ended := by
  unfold Control.Ended
  rw [h.phase]

theorem stopHandled (h : OwnerMoves c c') : c'.StopHandled ↔ c.StopHandled := by
  unfold Control.StopHandled
  rw [h.handled]

theorem fifo (h : OwnerMoves c c') (hfifo : c.handled ++ c.commands.contents = c.accepted) :
    c'.handled ++ c'.commands.contents = c'.accepted := by
  obtain ⟨posted, hcommands, haccepted, -⟩ := h.posted
  rw [h.handled, hcommands, haccepted, ← hfifo, List.append_assoc]

/-- Nothing is posted to a scheduler that is being stopped or has not started. -/
theorem commands (h : OwnerMoves c c') (hc : c.started = false ∨ c.loop.stopping ≠ none) :
    c'.commands.contents = c.commands.contents := by
  obtain ⟨posted, hcommands, -, hposted⟩ := h.posted
  have hnil : posted = [] := by
    by_contra hne
    obtain ⟨hstarted, hstopping⟩ := hposted hne
    rcases hc with hc | hc
    · rw [hstarted] at hc
      cases hc
    · exact hc hstopping
  rw [hcommands, hnil, List.append_nil]

theorem head? (h : OwnerMoves c c') {command : Command}
    (hhead : c.commands.contents.head? = some command) :
    c'.commands.contents.head? = some command := by
  obtain ⟨posted, hcommands, -⟩ := h.posted
  rw [hcommands, List.head?_append, hhead]
  rfl

end OwnerMoves

/-! ## The contract -/

/-- What a thread relies on of the control. -/
def controlRely : ThreadId → EngineState S → EngineState S → Prop
  | .scheduler, s, s' => OwnerMoves (controlOf s) (controlOf s') ∧
      (s'.shared.playing = true → s.shared.playing = true)
  | .client, s, s' => s.loop.stopping = none →
      s'.loop.stopping = none ∧ (s.sched.started = true → s'.sched.started = true)
  | .audio, _, _ => True
  | .worker _, _, _ => True

/-- The contract of the control on top of another one. -/
def controlContract (C : Contract (EngineState S)) (i : ThreadId) : Contract (EngineState S) :=
  onTop ⟨fun s => ControlInv (controlOf s) s.shared.playing, controlRely i,
    fun s s' => ∀ j, j ≠ i → controlRely j s s'⟩ C

theorem controlRely_refl (i : ThreadId) (s : EngineState S) : controlRely i s s := by
  cases i with
  | scheduler => exact ⟨.refl _, id⟩
  | client => exact fun h => ⟨h, id⟩
  | audio => trivial
  | worker n => trivial

theorem controlRely_trans {i : ThreadId} {s₁ s₂ s₃ : EngineState S} (h : controlRely i s₁ s₂)
    (h' : controlRely i s₂ s₃) : controlRely i s₁ s₃ := by
  cases i with
  | scheduler => exact ⟨h.1.trans h'.1, fun hp => h.2 (h'.2 hp)⟩
  | client =>
    intro hs
    obtain ⟨hs₂, hstarted⟩ := h hs
    obtain ⟨hs₃, hstarted'⟩ := h' hs₂
    exact ⟨hs₃, fun hstart => hstarted' (hstarted hstart)⟩
  | audio => trivial
  | worker n => trivial

/-- The control and the permission to play. -/
def playControl (s : EngineState S) : Control × Bool := (controlOf s, s.shared.playing)

/-- A step that leaves both alone is one that everyone relies on. -/
theorem controlRely_of_view {i : ThreadId} {s s' : EngineState S}
    (h : playControl s' = playControl s) : controlRely i s s' := by
  obtain ⟨hcontrol, hplaying⟩ := Prod.mk.inj h
  cases i with
  | scheduler => exact ⟨hcontrol ▸ .refl _, fun hp => hplaying ▸ hp⟩
  | client =>
    have hloop : s'.loop = s.loop := congrArg Control.loop hcontrol
    have hstarted : s'.sched.started = s.sched.started := congrArg Control.started hcontrol
    intro hs
    rw [hloop, hstarted]
    exact ⟨hs, id⟩
  | audio => trivial
  | worker n => trivial

section

variable {C : Contract (EngineState S)}

theorem controlContract_stable (hC : C.Stable) (i : ThreadId) : (controlContract C i).Stable :=
  Stable.onTop ⟨fun {_ s} _ => controlRely_refl i s, controlRely_trans⟩ hC

/-- A program that leaves the control and the permission to play alone. -/
theorem triple_still {i : ThreadId} {α : Type} {p : Prog (EngineState S) α}
    {P : EngineState S → Prop} (hp : p.Preserves playControl) (hkept : (controlContract C i).Kept P)
    (hP : ∀ s s', playControl s' = playControl s → P s → P s') :
    (controlContract C i).Triple P p fun _ => P := by
  refine triple_of_preserves hp hkept fun s s' h hi hs => ?_
  refine ⟨fun j _ => controlRely_of_view h, ?_, hP s s' h hs⟩
  obtain ⟨hcontrol, hplaying⟩ := Prod.mk.inj h
  show ControlInv (controlOf s') s'.shared.playing
  rw [hcontrol, hplaying]
  exact hi

end

/-! ## Programs that leave the control alone -/

section

variable {α : Type} {p : Prog (EngineState S) α}

theorem publishing_controlOf (hp : p.Preserves publishingView) : p.Preserves controlOf :=
  hp.mono fun s s' h => by
    simp only [publishingView, Prod.mk.injEq, SchedulerState.mk.injEq] at h
    simp only [controlOf, h]

theorem callback_playControl (hp : p.Preserves callbackView) : p.Preserves playControl :=
  hp.mono fun s s' h => by
    simp only [callbackView, Prod.mk.injEq] at h
    simp only [playControl, controlOf, h]

theorem worker_playControl (hp : p.Preserves workerView) : p.Preserves playControl :=
  hp.mono fun s s' h => by
    simp only [workerView, contentView, audioView, Prod.mk.injEq] at h
    simp only [playControl, controlOf, h]

theorem scheduling_playControl (hp : p.Preserves schedulingView) : p.Preserves playControl :=
  hp.mono fun s s' h => by
    simp only [schedulingView, contentView, audioView, Prod.mk.injEq] at h
    simp only [playControl, h]

theorem playControl_controlOf (hp : p.Preserves playControl) : p.Preserves controlOf :=
  hp.mono fun _ _ h => (Prod.mk.inj h).1

end

theorem PlaybackProtocol.currentFrame_playControl (cfg : Config) :
    (currentFrame cfg : Prog (EngineState S) Int).Preserves playControl := by
  refine Prog.preserves_read_bind fun _ => Prog.preserves_atomically_bind (fun _ => rfl) fun _ =>
    Prog.preserves_ite ?_ ?_
  · exact Prog.preserves_read_bind fun _ => Prog.preserves_pure _
  · exact Prog.preserves_atomically_bind (fun _ => rfl) fun _ => Prog.preserves_pure _

theorem Scheduler.invalidateVersions_playControl (cfg : Config) (firstFrame lastFrame : Int) :
    (invalidateVersions cfg firstFrame lastFrame : Prog (EngineState S) Unit).Preserves
      playControl :=
  Prog.preserves_forEach fun _ _ => Prog.preserves_modify_bind (fun _ => rfl) fun _ =>
    Prog.preserves_modify fun _ => rfl

/-! ## Between two calls -/

/-- The phases in which a handled Stop may leave the loop. -/
def StopPhase (phase : LoopPhase) : Prop :=
  phase = .breakCheck ∨ phase = .pause ∨ phase = .returned

/-- The scheduler runs in the given phase, and what is queued is what it has accepted and not
handled. -/
structure Looping (phase : LoopPhase) (c : Control) : Prop where
  started : c.started = true
  phase_eq : c.loop.phase = phase
  fifo : c.handled ++ c.commands.contents = c.accepted

/-- The same before a step of the loop. -/
structure AtStep (phase : LoopPhase) (c : Control) : Prop extends Looping phase c where
  stop_requested : c.StopHandled → c.stopRequested = true
  stop_phase : c.StopHandled → StopPhase phase

/-- What the scheduler knows between two calls. -/
structure ControlIdle (c : Control) : Prop where
  running : c.started = true → AtStep c.loop.phase c
  stopped : c.started = false → c.commands.contents = []

/-- Knowledge of the scheduler that the owner keeps. -/
def OwnerKept (P : Control → Prop) : Prop := ∀ c c', P c → OwnerMoves c c' → P c'

theorem Looping.kept (phase : LoopPhase) : OwnerKept (Looping phase) := fun _ _ h hm =>
  ⟨hm.started.trans h.started, hm.phase.trans h.phase_eq, hm.fifo h.fifo⟩

theorem AtStep.kept (phase : LoopPhase) : OwnerKept (AtStep phase) := fun _ _ h hm =>
  ⟨Looping.kept phase _ _ h.toLooping hm,
    fun hs => hm.stopRequested (h.stop_requested (hm.stopHandled.mp hs)),
    fun hs => h.stop_phase (hm.stopHandled.mp hs)⟩

theorem ControlIdle.kept : OwnerKept ControlIdle := by
  intro c c' h hm
  constructor
  · intro hs
    rw [hm.phase]
    exact AtStep.kept _ _ _ (h.running (hm.started.symm.trans hs)) hm
  · intro hs
    have hstopped := hm.started.symm.trans hs
    rw [hm.commands (.inl hstopped)]
    exact h.stopped hstopped

theorem AtStep.idle {phase : LoopPhase} {c : Control} (h : AtStep phase c) : ControlIdle c where
  running _ := h.phase_eq.symm ▸ h
  stopped hs := by
    rw [h.started] at hs
    cases hs

theorem OwnerKept.and {P Q : Control → Prop} (hP : OwnerKept P) (hQ : OwnerKept Q) :
    OwnerKept fun c => P c ∧ Q c :=
  fun c c' h hm => ⟨hP c c' h.1 hm, hQ c c' h.2 hm⟩

theorem OwnerKept.or {P Q : Control → Prop} (hP : OwnerKept P) (hQ : OwnerKept Q) :
    OwnerKept fun c => P c ∨ Q c :=
  fun c c' h hm => h.imp (hP c c' · hm) (hQ c c' · hm)

end Anasa
