import Anasa.Concurrency.Layer

/-!
# Ownership

A part of the state that only one thread changes. The owner reasons about the view `v` as if it
ran alone: what it knows of `v` needs no proof that the others keep it. `Layer.owned` is the layer
of an invariant of `v`.
-/

namespace Concurrency

variable {ι κ σ τ α β : Type}

namespace Contract

/-- The contract with another rely and guarantee. -/
theorem Safe.weaken {C C' : Contract σ} {Q : α → σ → Prop} {p : Prog σ α} {s : σ}
    (h : C.Safe Q p s) (hinv : ∀ s, C.inv s ↔ C'.inv s) (hrely : ∀ s s', C'.rely s s' → C.rely s s')
    (hguar : ∀ s s', C.guar s s' → C'.guar s s') : C'.Safe Q p s := by
  induction p generalizing s with
  | pure a => exact fun s' hr hi => h s' (hrely s s' hr) ((hinv s').mpr hi)
  | access f k ih =>
    intro s' hr hi
    obtain ⟨hg, hi', hk⟩ := h s' (hrely s s' hr) ((hinv s').mpr hi)
    exact ⟨hguar _ _ hg, (hinv _).mp hi', ih s' hk⟩

/-- What the owner of `v` keeps on top of a contract: an invariant of `v`, and that its accesses
move `v` by `G`. -/
def owning (C : Contract σ) (v : σ → τ) (I : τ → Prop) (G : τ → τ → Prop) : Contract σ :=
  onTop ⟨fun s => I (v s), fun s s' => v s' = v s, fun s s' => G (v s) (v s')⟩ C

section

variable {C : Contract σ} {v : σ → τ} {I : τ → Prop} {G : τ → τ → Prop}

theorem Stable.owning (hC : C.Stable) : (C.owning v I G).Stable :=
  Stable.onTop ⟨fun _ => rfl, fun h h' => h'.trans h⟩ hC

/-- Knowledge about `v`. -/
theorem kept_owned (P : τ → Prop) : (C.owning v I G).Kept fun s => P (v s) := by
  intro s s' hP hr _
  rw [hr.1]
  exact hP

theorem triple_owned_atomically {f : σ → α × σ} (P : τ → Prop) (Q : α → τ → Prop)
    (h : ∀ s, C.inv s → I (v s) → P (v s) →
      G (v s) (v (f s).2) ∧ I (v (f s).2) ∧ Q (f s).1 (v (f s).2)) :
    (C.owning v I G).Triple (fun s => P (v s)) (.atomically f) fun a s => Q a (v s) :=
  triple_atomically_rely (kept_owned P) (fun a => kept_owned (Q a)) fun _ s hr hi hP =>
    h s hr.2.2 hi hP

theorem triple_owned_modify {f : σ → σ} (P Q : τ → Prop)
    (h : ∀ s, C.inv s → I (v s) → P (v s) →
      G (v s) (v (f s)) ∧ I (v (f s)) ∧ Q (v (f s))) :
    (C.owning v I G).Triple (fun s => P (v s)) (.modify f) fun _ s => Q (v s) :=
  triple_modify_rely (kept_owned P) (kept_owned Q) fun _ s hr hi hP => h s hr.2.2 hi hP

theorem triple_owned_read {r : σ → α} (hG : ∀ t, G t t) (P : τ → Prop) (Q : α → τ → Prop)
    (h : ∀ s, C.inv s → I (v s) → P (v s) → Q (r s) (v s)) :
    (C.owning v I G).Triple (fun s => P (v s)) (.read r) fun a s => Q a (v s) :=
  triple_read_rely (fun s => hG (v s)) (kept_owned P) (fun a => kept_owned (Q a))
    fun _ s hr hi hP => h s hr.2.2 hi hP

theorem triple_owned_pure {a : α} {P : τ → Prop} {Q : α → τ → Prop}
    (h : ∀ t, I t → P t → Q a t) :
    (C.owning v I G).Triple (fun s => P (v s)) (pure a : Prog σ α) fun a s => Q a (v s) :=
  triple_pure (kept_owned (Q a)) fun s hi hP => h (v s) hi hP

/-- A program that leaves `v` alone. -/
theorem triple_owned_frame {p : Prog σ α} (hG : ∀ t, G t t) (hp : p.Preserves v) (P : τ → Prop) :
    (C.owning v I G).Triple (fun s => P (v s)) p fun _ s => P (v s) :=
  triple_of_preserves hp (kept_owned P) fun s s' hv hi hP =>
    ⟨show G (v s) (v s') from hv ▸ hG (v s), show I (v s') from hv ▸ hi, hv ▸ hP⟩

end

/-- Every program obeys a contract that asks for nothing. -/
theorem triple_nothing {C : Contract σ} (hinv : ∀ s, C.inv s) (hguar : ∀ s s', C.guar s s')
    (p : Prog σ α) : C.Triple (fun _ => True) p fun _ _ => True := by
  induction p with
  | pure a => exact triple_pure kept_true fun _ _ _ => trivial
  | access f k ih =>
    intro s _ _ s' _ _
    exact ⟨hguar _ _, hinv _, ih s' (f s') (hinv _) trivial⟩

/-! ### Guarantees

Programs each of whose accesses is a step of `G`, whatever the thread knows. -/

/-- On top of a contract, every access is a step of `G`. -/
def guaranteeing (C : Contract σ) (G : σ → σ → Prop) : Contract σ :=
  onTop ⟨fun _ => True, fun _ _ => True, G⟩ C

def Guarantees (C : Contract σ) (G : σ → σ → Prop) (p : Prog σ α) : Prop :=
  (C.guaranteeing G).Triple (fun _ => True) p fun _ _ => True

section

variable {C : Contract σ} {G : σ → σ → Prop}

theorem Stable.guaranteeing (hC : C.Stable) : (C.guaranteeing G).Stable where
  refl h := ⟨trivial, hC.refl h.2.1, h.2.2⟩
  trans h h' := ⟨trivial, hC.trans h.2.1 h'.2.1, h'.2.2⟩

theorem Guarantees.bind (hC : C.Stable) {p : Prog σ α} {g : α → Prog σ β}
    (hp : C.Guarantees G p) (hg : ∀ a, C.Guarantees G (g a)) : C.Guarantees G (p >>= g) :=
  Triple.bind hC.guaranteeing hp hg

theorem guarantees_pure (a : α) : C.Guarantees G (pure a : Prog σ α) :=
  triple_pure kept_true fun _ _ _ => trivial

theorem Guarantees.ite {c : Prop} [Decidable c] {p q : Prog σ α} (hp : c → C.Guarantees G p)
    (hq : ¬c → C.Guarantees G q) : C.Guarantees G (if c then p else q) :=
  triple_ite hp hq

theorem guarantees_atomically {f : σ → α × σ} (h : ∀ s, C.inv s → G s (f s).2) :
    C.Guarantees G (.atomically f) :=
  triple_atomically_rely kept_true (fun _ => kept_true) fun _ s hr _ _ =>
    ⟨h s hr.2.2, trivial, trivial⟩

theorem guarantees_modify {f : σ → σ} (h : ∀ s, C.inv s → G s (f s)) :
    C.Guarantees G (.modify f) :=
  triple_modify_rely kept_true kept_true fun _ s hr _ _ => ⟨h s hr.2.2, trivial, trivial⟩

/-- A program that leaves `v` alone. -/
theorem guarantees_of_preserves {v : σ → τ} {p : Prog σ α} (hp : p.Preserves v)
    (h : ∀ s s', C.inv s → v s' = v s → G s s') : C.Guarantees G p := by
  induction p with
  | pure a => exact guarantees_pure a
  | access f k ih =>
    intro s _ _ s' hr _
    exact ⟨h s' (f s') hr.2.2 (hp s').1, trivial, ih s' (hp s').2 (f s') trivial trivial⟩

/-- A weaker guarantee. -/
theorem Guarantees.mono {G' : σ → σ → Prop} {p : Prog σ α} (hp : C.Guarantees G p)
    (h : ∀ s s', C.inv s → G s s' → G' s s') : C.Guarantees G' p := by
  intro s hi _
  have hsafe := hp s hi trivial
  clear hp
  induction p generalizing s with
  | pure a => exact fun s' hr hi => hsafe s' hr hi
  | access f k ih =>
    intro s' hr hi
    obtain ⟨hg, hi', hk⟩ := hsafe s' hr hi
    exact ⟨h s' (f s') hr.2.2 hg, hi', ih s' (f s') hi' hk⟩

/-- What the other threads and steps of `G` keep. -/
theorem Guarantees.keeps {G' : σ → σ → Prop} {P : σ → Prop} {p : Prog σ α}
    (hp : C.Guarantees G p) (hP : (C.guaranteeing G').Kept P) (hG : ∀ s s', G s s' → G' s s')
    (hstep : ∀ s s', G s s' → P s → P s') : (C.guaranteeing G').Triple P p fun _ => P := by
  intro s hi hs
  have hsafe := hp s hi trivial
  clear hp
  induction p generalizing s with
  | pure a => exact fun s' hr hi' => hP s s' hs hr hi'
  | access f k ih =>
    intro s' hr hi'
    obtain ⟨hg, hi'', hk⟩ := hsafe s' hr hi'
    exact ⟨hG _ _ hg, hi'', ih s' (f s') hi'' (hstep _ _ hg (hP s s' hs hr hi')) hk⟩

theorem guarantees_forEach (hC : C.Stable) {f : β → Prog σ Unit} {xs : List β}
    (h : ∀ x ∈ xs, C.Guarantees G (f x)) : C.Guarantees G (.forEach f xs) :=
  triple_forEach hC.guaranteeing kept_true h

end

end Contract

/-- The discipline that allows every access, for layers that rely on nothing else. -/
def Discipline.anything (M : Machine ι κ σ) : Discipline M where
  inv _ := True
  rely _ _ _ := True
  guar _ _ _ := True
  idle _ _ := True
  rely_refl _ _ := trivial
  rely_trans _ _ := trivial
  compatible _ _ _ _ := trivial
  idle_stable _ _ _ := trivial
  call_safe _ s _ _ := Contract.triple_nothing (fun _ => trivial) (fun _ _ => trivial) _ s trivial
    trivial

namespace Layer

open Contract

variable {M : Machine ι κ σ} [DecidableEq ι]

/-- The layer of an invariant of what one thread owns. -/
def owned (D : Discipline M) (owner : ι) (v : σ → τ) (I J : τ → Prop) (G : τ → τ → Prop)
    (others : ∀ c, M.thread c ≠ owner → (M.program c).Preserves v)
    (calls : ∀ c, M.thread c = owner → ∀ s, D.inv s → D.idle owner s → I (v s) → J (v s) →
      ((D.contract owner).owning v I G).Safe (fun _ s => J (v s)) (M.program c) s) :
    Layer D where
  inv s := I (v s)
  rely i s s' := i = owner → v s' = v s
  guar i s s' := if i = owner then G (v s) (v s') else v s' = v s
  idle i s := i = owner → J (v s)
  rely_refl _ _ _ := rfl
  rely_trans h h' hi := (h' hi).trans (h hi)
  compatible hij _ _ hg hj := by rwa [if_neg (hj ▸ hij)] at hg
  idle_stable h hr _ hi := by
    rw [hr hi]
    exact h hi
  call_safe c s hi hidle hI hJ := by
    by_cases hc : M.thread c = owner
    · refine ((calls c hc s hi (hc ▸ hidle) hI (hJ hc)).mono fun _ _ _ h _ => h).weaken
        (fun _ => Iff.rfl) (fun s s' hr => ⟨hr.1 hc, hc ▸ hr.2⟩) fun s s' hg => ?_
      show if M.thread c = owner then _ else _
      rwa [if_pos hc]
    · refine (triple_of_preserves (others c hc) (P := fun _ => True) kept_true
        (fun s s' hv hi _ => ⟨?_, show I (v s') from hv ▸ hi, trivial⟩) s hI trivial).mono
        fun _ _ _ _ hi => absurd hi hc
      show if M.thread c = owner then _ else _
      rwa [if_neg hc]

omit [DecidableEq ι] in
/-- The layer of a guarantee of one thread that nobody relies on. -/
def guaranteed (D : Discipline M) (owner : ι) (G : σ → σ → Prop)
    (calls : ∀ c, M.thread c = owner → ∀ s, D.inv s → D.idle owner s →
      (onTop ⟨fun _ => True, fun _ _ => True, G⟩ (D.contract owner)).Safe (fun _ _ => True)
        (M.program c) s) :
    Layer D where
  inv _ := True
  rely _ _ _ := True
  guar i s s' := i = owner → G s s'
  idle _ _ := True
  rely_refl _ _ := trivial
  rely_trans _ _ := trivial
  compatible _ _ _ _ := trivial
  idle_stable _ _ _ := trivial
  call_safe c s hi hidle _ _ := by
    by_cases hc : M.thread c = owner
    · exact (calls c hc s hi (hc ▸ hidle)).weaken (fun _ => Iff.rfl) (fun s s' hr => hc ▸ hr)
        fun s s' hg _ => hg
    · exact triple_nothing (fun _ => trivial) (fun _ _ h => absurd h hc) _ s trivial trivial

end Layer

end Concurrency
