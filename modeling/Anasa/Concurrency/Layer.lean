import Anasa.Concurrency.Pool

/-!
# Layers of rely-guarantee reasoning

A second contract of a thread may use what the first one establishes: the proof that a program
obeys `C₂.onTop C₁` may assume, at each access, the invariant of `C₁` and what the other threads
keep by `C₁`. `Safe.and` puts the two safety proofs of one program together. A `Layer` does the
same for a whole discipline; `Layer.discipline` is the discipline of both.
-/

namespace Concurrency

variable {ι κ σ α β : Type}

namespace Contract

variable {C C₁ C₂ : Contract σ}

/-- What `C₂` asks of a thread that is known to obey `C₁`. -/
def onTop (C₂ C₁ : Contract σ) : Contract σ where
  inv := C₂.inv
  rely s s' := C₂.rely s s' ∧ C₁.rely s s' ∧ C₁.inv s'
  guar := C₂.guar

/-- Both contracts. -/
protected def and (C₁ C₂ : Contract σ) : Contract σ where
  inv s := C₁.inv s ∧ C₂.inv s
  rely s s' := C₁.rely s s' ∧ C₂.rely s s'
  guar s s' := C₁.guar s s' ∧ C₂.guar s s'

theorem Stable.onTop (h₂ : C₂.Stable) (h₁ : C₁.Stable) : (C₂.onTop C₁).Stable where
  refl h := ⟨h₂.refl h.1, h₁.refl h.2.1, h.2.2⟩
  trans h h' := ⟨h₂.trans h.1 h'.1, h₁.trans h.2.1 h'.2.1, h'.2.2⟩

/-- **Two layers.** A program that obeys `C₁`, and `C₂` on top of it, obeys both. -/
theorem Safe.and {Q₁ Q₂ : α → σ → Prop} {p : Prog σ α} {s : σ} (h₁ : C₁.Safe Q₁ p s)
    (h₂ : (C₂.onTop C₁).Safe Q₂ p s) :
    (C₁.and C₂).Safe (fun a s => Q₁ a s ∧ Q₂ a s) p s := by
  induction p generalizing s with
  | pure a =>
    exact fun s' hr hi => ⟨h₁ s' hr.1 hi.1, h₂ s' ⟨hr.2, hr.1, hi.1⟩ hi.2⟩
  | access f k ih =>
    intro s' hr hi
    obtain ⟨hg₁, hi₁, hk₁⟩ := h₁ s' hr.1 hi.1
    obtain ⟨hg₂, hi₂, hk₂⟩ := h₂ s' ⟨hr.2, hr.1, hi.1⟩ hi.2
    exact ⟨⟨hg₁, hg₂⟩, ⟨hi₁, hi₂⟩, ih s' hk₁ hk₂⟩

/-- A program that obeys the upper contract on its own. -/
theorem Safe.onTop {Q : α → σ → Prop} {p : Prog σ α} {s : σ} (h : C₂.Safe Q p s) :
    (C₂.onTop C₁).Safe Q p s := by
  induction p generalizing s with
  | pure a => exact fun s' hr hi => h s' hr.1 hi
  | access f k ih =>
    intro s' hr hi
    obtain ⟨hg, hi', hk⟩ := h s' hr.1 hi
    exact ⟨hg, hi', ih s' hk⟩

end Contract

/-! ## Disciplines in layers -/

/-- Invariants, relies and guarantees on top of a discipline. -/
structure Layer {M : Machine ι κ σ} (D : Discipline M) where
  inv : σ → Prop
  rely : ι → σ → σ → Prop
  guar : ι → σ → σ → Prop
  idle : ι → σ → Prop
  rely_refl : ∀ i s, rely i s s
  rely_trans : ∀ {i s₁ s₂ s₃}, rely i s₁ s₂ → rely i s₂ s₃ → rely i s₁ s₃
  compatible : ∀ {i j s s'}, i ≠ j → inv s → inv s' → guar i s s' → rely j s s'
  idle_stable : ∀ {i s s'}, idle i s → rely i s s' → inv s' → idle i s'
  call_safe : ∀ c s, D.inv s → D.idle (M.thread c) s → inv s → idle (M.thread c) s →
    (Contract.onTop ⟨inv, rely (M.thread c), guar (M.thread c)⟩ (D.contract (M.thread c))).Safe
      (fun _ => idle (M.thread c)) (M.program c) s

namespace Layer

variable {M : Machine ι κ σ} {D : Discipline M} (L : Layer D)

/-- The discipline of both layers. -/
def discipline : Discipline M where
  inv s := D.inv s ∧ L.inv s
  rely i s s' := D.rely i s s' ∧ L.rely i s s'
  guar i s s' := D.guar i s s' ∧ L.guar i s s'
  idle i s := D.idle i s ∧ L.idle i s
  rely_refl i s := ⟨D.rely_refl i s, L.rely_refl i s⟩
  rely_trans h h' := ⟨D.rely_trans h.1 h'.1, L.rely_trans h.2 h'.2⟩
  compatible hij hi hi' hg :=
    ⟨D.compatible hij hi.1 hi'.1 hg.1, L.compatible hij hi.2 hi'.2 hg.2⟩
  idle_stable h hr hi := ⟨D.idle_stable h.1 hr.1 hi.1, L.idle_stable h.2 hr.2 hi.2⟩
  call_safe c s hi h :=
    (D.call_safe c s hi.1 h.1).and (L.call_safe c s hi.1 h.1 hi.2 h.2)

end Layer

end Concurrency
