import Anasa.Concurrency.Pool
import Anasa.Rendering.Frames
import Anasa.Rendering.Steps

/-!
# The rendering contract

One contract for each thread: every access keeps `RenderInv`, and a thread guarantees exactly
what the others rely on.
-/

namespace Anasa

open Concurrency

variable {S : Type}

/-- What a thread relies on of the rendering state. -/
def renderRely : ThreadId → EngineState S → EngineState S → Prop
  | .scheduler, s, s' =>
    JobsKept s.render.jobs s'.render.jobs ∧ SchedulerKept s.render s'.render ∧
      s'.sched.started = s.sched.started
  | .worker w, s, s' => JobsKept s.render.jobs s'.render.jobs ∧ WorkerKept w s.render s'.render
  | .audio, _, _ => True
  | .client, _, _ => True

def renderContract (cfg : Config) (kernel : RenderKernel S) (i : ThreadId) :
    Contract (EngineState S) where
  inv s := RenderInv cfg kernel s.render
  rely := renderRely i
  guar s s' := ∀ j, j ≠ i → renderRely j s s'

theorem renderRely_refl (i : ThreadId) (s : EngineState S) : renderRely i s s := by
  cases i with
  | scheduler => exact ⟨JobsKept.refl _, SchedulerKept.refl _, rfl⟩
  | worker w => exact ⟨JobsKept.refl _, WorkerKept.refl _ _⟩
  | audio => trivial
  | client => trivial

theorem renderRely_trans {i : ThreadId} {s₁ s₂ s₃ : EngineState S} (h : renderRely i s₁ s₂)
    (h' : renderRely i s₂ s₃) : renderRely i s₁ s₃ := by
  cases i with
  | scheduler =>
    exact ⟨h.1.trans h'.1, h.2.1.trans h'.2.1, h'.2.2.trans h.2.2⟩
  | worker w => exact ⟨h.1.trans h'.1, h.2.trans h'.2⟩
  | audio => trivial
  | client => trivial

/-- A step that leaves the rendering state alone is one that everyone relies on. -/
theorem renderRely_of_view {i : ThreadId} {s s' : EngineState S}
    (h : renderView s' = renderView s) : renderRely i s s' := by
  obtain ⟨hr, hs⟩ := Prod.mk.inj h
  cases i with
  | scheduler => exact ⟨hr ▸ JobsKept.refl _, hr ▸ SchedulerKept.refl _, hs⟩
  | worker w => exact ⟨hr ▸ JobsKept.refl _, hr ▸ WorkerKept.refl _ _⟩
  | audio => trivial
  | client => trivial

section

variable {cfg : Config} {kernel : RenderKernel S}

theorem renderContract_stable (cfg : Config) (kernel : RenderKernel S) (i : ThreadId) :
    (renderContract cfg kernel i).Stable :=
  ⟨fun {_ s} _ => renderRely_refl i s, renderRely_trans⟩

theorem guar_refl (i : ThreadId) (s : EngineState S) : (renderContract cfg kernel i).guar s s :=
  fun j _ => renderRely_refl j s

theorem guar_of_schedulerStep {s s' : EngineState S} (hi : RenderInv cfg kernel s.render)
    (h : SchedulerStep s.render s'.render) :
    (renderContract cfg kernel .scheduler).guar s s' := by
  intro j hj
  cases j with
  | scheduler => exact absurd rfl hj
  | worker w => exact ⟨h.jobs, h.workerKept hi w⟩
  | audio => trivial
  | client => trivial

theorem guar_of_workerStep {w : ℕ} {s s' : EngineState S} (h : WorkerStep w s.render s'.render)
    (hs : s'.sched.started = s.sched.started) :
    (renderContract cfg kernel (.worker w)).guar s s' := by
  intro j hj
  cases j with
  | scheduler => exact ⟨h.jobs, h.scheduler, hs⟩
  | worker w' => exact ⟨h.jobs, h.others w' fun he => hj (congrArg _ he)⟩
  | audio => trivial
  | client => trivial

/-- Knowledge about the rendering state alone that the other threads keep. -/
structure Framed (cfg : Config) (kernel : RenderKernel S) (i : ThreadId)
    (P : EngineState S → Prop) : Prop where
  kept : (renderContract cfg kernel i).Kept P
  view : ∀ s s', renderView s' = renderView s → P s → P s'

/-- A program that leaves the rendering state alone keeps such knowledge. -/
theorem triple_frame {i : ThreadId} {α : Type} {p : Prog (EngineState S) α}
    {P : EngineState S → Prop} (hP : Framed cfg kernel i P) (hp : p.Preserves renderView) :
    (renderContract cfg kernel i).Triple P p fun _ => P :=
  Contract.triple_of_preserves hp hP.kept fun s s' h hi hs =>
    ⟨fun _ _ => renderRely_of_view h,
      show RenderInv cfg kernel s'.render from (Prod.mk.inj h).1.symm ▸ hi, hP.view s s' h hs⟩

/-- An access that leaves the rendering state alone, and what follows. -/
theorem triple_frame_bind {i : ThreadId} {α : Type} {f : EngineState S → EngineState S}
    {g : Unit → Prog (EngineState S) α} {P : EngineState S → Prop} {Q : α → EngineState S → Prop}
    (hP : Framed cfg kernel i P) (hf : ∀ s, renderView (f s) = renderView s)
    (hg : (renderContract cfg kernel i).Triple P (g ()) Q) :
    (renderContract cfg kernel i).Triple P (.modify f >>= g) Q :=
  (triple_frame hP (Prog.preserves_modify hf)).bind (renderContract_stable cfg kernel i)
    fun _ => hg

end

end Anasa
