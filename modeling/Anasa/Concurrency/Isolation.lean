import Anasa.Concurrency.Ownership

/-!
# Programs that run as if alone

A program is *isolated* with respect to a view `v` of the state if what it reads, and what it does
to `v`, depend on `v` only. While the others leave `v` alone, such a program returns what it returns
with nobody around, and moves `v` as it does then: what is proved of its sequential runs holds.

1. `Isolated` and `Steps` are about the sequential run from one state.
2. `Isolated.safe` is their meaning for a thread among others.
3. `Pool.stretch_post` and `Discipline.Sound.stretch_guar` follow one thread over a stretch of a
   run in which the others leave `v` alone.
-/

namespace Concurrency

variable {ι κ σ τ α β : Type}

namespace Prog

/-- From every state with the view of `s`, each access moves `v` as it does from `s`, and the
program goes on alike. -/
def Isolated (v : σ → τ) : Prog σ α → σ → Prop
  | .pure _, _ => True
  | .access f k, s =>
    (∀ s', v s' = v s → v (f s') = v (f s) ∧ k s' = k s) ∧ (k s).Isolated v (f s)

/-- Every access of the run from `s` is a step of `G`. -/
def Steps (G : σ → σ → Prop) : Prog σ α → σ → Prop
  | .pure _, _ => True
  | .access f k, s => G s (f s) ∧ (k s).Steps G (f s)

variable {v : σ → τ} {G : σ → σ → Prop} {s s' : σ}

/-! ## Isolated programs -/

theorem isolated_pure (a : α) : (Pure.pure a : Prog σ α).Isolated v s := trivial

theorem Isolated.bind {p : Prog σ α} {g : α → Prog σ β} (hp : p.Isolated v s)
    (hg : (g (p.run s).1).Isolated v (p.run s).2) : (p >>= g).Isolated v s := by
  induction p generalizing s with
  | pure a => exact hg
  | access f k ih =>
    refine ⟨fun s' hs => ⟨(hp.1 s' hs).1, ?_⟩, ih _ hp.2 hg⟩
    exact congrArg (· >>= g) (hp.1 s' hs).2

theorem isolated_read {r : σ → α} (h : ∀ s', v s' = v s → r s' = r s) :
    (read r).Isolated v s :=
  ⟨fun s' hs => ⟨hs, congrArg Prog.pure (h s' hs)⟩, trivial⟩

theorem isolated_modify {f : σ → σ} (h : ∀ s', v s' = v s → v (f s') = v (f s)) :
    (modify f).Isolated v s :=
  ⟨fun s' hs => ⟨h s' hs, rfl⟩, trivial⟩

theorem isolated_atomically {f : σ → α × σ}
    (h : ∀ s', v s' = v s → (f s').1 = (f s).1 ∧ v (f s').2 = v (f s).2) :
    (atomically f).Isolated v s :=
  ⟨fun s' hs => ⟨(h s' hs).2, congrArg Prog.pure (h s' hs).1⟩, trivial⟩

theorem isolated_read_bind {r : σ → α} {g : α → Prog σ β} (h : ∀ s', v s' = v s → r s' = r s)
    (hg : (g (r s)).Isolated v s) : (read r >>= g).Isolated v s :=
  (isolated_read h).bind hg

/-- A loop, each pass of which keeps what the next one needs. -/
theorem isolated_forEach {f : α → Prog σ Unit} {J : σ → Prop} {xs : List α}
    (h : ∀ x ∈ xs, ∀ s, J s → (f x).Isolated v s ∧ J ((f x).run s).2) (hs : J s) :
    (forEach f xs).Isolated v s ∧ J ((forEach f xs).run s).2 := by
  induction xs generalizing s with
  | nil => exact ⟨trivial, hs⟩
  | cons x xs ih =>
    obtain ⟨hx, hJ⟩ := h x List.mem_cons_self s hs
    obtain ⟨hrest, hend⟩ := ih (fun y hy => h y (List.mem_cons_of_mem _ hy)) hJ
    rw [run_forEach_cons]
    exact ⟨hx.bind hrest, hend⟩

/-! ## Steps -/

theorem steps_pure (a : α) : (Pure.pure a : Prog σ α).Steps G s := trivial

theorem Steps.bind {p : Prog σ α} {g : α → Prog σ β} (hp : p.Steps G s)
    (hg : (g (p.run s).1).Steps G (p.run s).2) : (p >>= g).Steps G s := by
  induction p generalizing s with
  | pure a => exact hg
  | access f k ih => exact ⟨hp.1, ih _ hp.2 hg⟩

theorem steps_read_bind {r : σ → α} {g : α → Prog σ β} (hG : G s s) (hg : (g (r s)).Steps G s) :
    (read r >>= g).Steps G s := ⟨hG, hg⟩

theorem steps_modify {f : σ → σ} (h : G s (f s)) : (modify f).Steps G s := ⟨h, trivial⟩

/-- A program that leaves `w` alone, when `G` allows every such step. -/
theorem Preserves.steps {w : σ → τ} {p : Prog σ α} (hp : p.Preserves w)
    (hG : ∀ s s', w s' = w s → G s s') (s : σ) : p.Steps G s := by
  induction p generalizing s with
  | pure a => trivial
  | access f k ih => exact ⟨hG _ _ (hp s).1, ih s (hp s).2 _⟩

end Prog

/-! ## Among other threads -/

namespace Contract

/-- The others leave `v` alone, and every access moves `v` by `G`. -/
def alone (v : σ → τ) (G : τ → τ → Prop) : Contract σ where
  inv _ := True
  rely s s' := v s' = v s
  guar s s' := G (v s) (v s')

variable {v : σ → τ} {G : τ → τ → Prop}

theorem alone_stable : (alone v G).Stable := ⟨fun _ => rfl, fun h h' => h'.trans h⟩

/-- What is known of `v` is kept. -/
theorem kept_alone (P : τ → Prop) : (alone v G).Kept fun s => P (v s) := by
  intro s s' hP hr _
  rw [show v s' = v s from hr]
  exact hP

theorem triple_alone_frame {p : Prog σ α} (hG : ∀ t, G t t) (hp : p.Preserves v) (P : τ → Prop) :
    (alone v G).Triple (fun s => P (v s)) p fun _ s => P (v s) :=
  triple_of_preserves hp (kept_alone P) fun s s' hv _ hP =>
    ⟨show G (v s) (v s') from hv ▸ hG (v s), trivial, hv ▸ hP⟩

/-- **Isolation.** Among others that leave `v` alone, an isolated program returns what it returns
alone, and leads to the same `v`. -/
theorem Safe.of_isolated {p : Prog σ α} {s s₁ : σ} (hp : p.Isolated v s)
    (hsteps : p.Steps (fun s s' => G (v s) (v s')) s) (hv : v s₁ = v s) :
    (alone v G).Safe (fun a s' => a = (p.run s).1 ∧ v s' = v (p.run s).2) p s₁ := by
  induction p generalizing s s₁ with
  | pure a => exact fun s' hr _ => ⟨rfl, hr.trans hv⟩
  | access f k ih =>
    intro s' hr _
    have hsame : v s' = v s := hr.trans hv
    obtain ⟨hf, hk⟩ := hp.1 s' hsame
    refine ⟨?_, trivial, ?_⟩
    · show G (v s') (v (f s'))
      rw [hsame, hf]
      exact hsteps.1
    · rw [hk]
      exact ih s hp.2 hsteps.2 hf

/-- What the accesses of a thread amount to, with nobody in between. -/
theorem Safe.run_guar {C : Contract σ} {Q : α → σ → Prop} {p : Prog σ α} {s : σ}
    (h : C.Safe Q p s) (hi : C.inv s) (hrely : ∀ s, C.rely s s) {R : σ → σ → Prop}
    (hrefl : ∀ s, R s s) (htrans : ∀ {s₁ s₂ s₃}, R s₁ s₂ → R s₂ s₃ → R s₁ s₃)
    (hstep : ∀ s s', C.inv s → C.inv s' → C.guar s s' → R s s') : R s (p.run s).2 := by
  induction p generalizing s with
  | pure a => exact hrefl s
  | access f k ih =>
    obtain ⟨hg, hi', hk⟩ := h s (hrely s) hi
    exact htrans (hstep _ _ hi hi' hg) (ih s hk hi')

end Contract

/-! ## Stretches of a run -/

/-- The thread that makes a move. -/
def Move.thread (M : Machine ι κ σ) : Move ι κ → ι
  | .start c => M.thread c
  | .access i => i
  | .whole c => M.thread c

namespace Pool

variable [DecidableEq ι] {M : Machine ι κ σ} {i : ι} {p : Pool ι σ}

/-- Along the moves, those of the threads other than `i` are steps of `E`. -/
def OthersKeep (M : Machine ι κ σ) (i : ι) (E : σ → σ → Prop) :
    List (Move ι κ) → Pool ι σ → Prop
  | [], _ => True
  | m :: ms, p =>
    (m.thread M ≠ i → E p.state (apply M p m).state) ∧ OthersKeep M i E ms (apply M p m)

/-- A move of another thread leaves thread `i` where it is. -/
theorem apply_thread_of_ne {m : Move ι κ} (hm : m.thread M ≠ i) :
    (apply M p m).thread i = p.thread i := by
  cases m with
  | start c =>
    simp only [apply]
    split
    · exact Function.update_of_ne (Ne.symm hm) ..
    · rfl
  | access j =>
    simp only [apply, Pool.access]
    split
    · rfl
    · exact Function.update_of_ne (Ne.symm hm) ..
    · exact Function.update_of_ne (Ne.symm hm) ..
  | whole c =>
    simp only [apply]
    split <;> rfl

/-- The moves of one call: it is made at a stroke, or it is started and its thread makes no other
call afterwards. -/
inductive CallMoves (M : Machine ι κ σ) (c : κ) : List (Move ι κ) → Prop
  | whole : CallMoves M c [.whole c]
  | stepwise {ms : List (Move ι κ)}
    (own : ∀ m ∈ ms, m.thread M = M.thread c → m = .access (M.thread c)) :
    CallMoves M c (.start c :: ms)

open Contract

variable {v : σ → τ} {G : τ → τ → Prop}

/-- Thread `i` is in a call that will end with `K`, or has left it. -/
def InCall (i : ι) (v : σ → τ) (G : τ → τ → Prop) (K : τ → Prop) (p : Pool ι σ) : Prop :=
  match p.thread i with
  | none => K (v p.state)
  | some q => (alone v G).Safe (fun _ s => K (v s)) q p.state

/-- **One call.** Thread `i` makes its accesses, and the others leave `v` alone. -/
theorem stretch_post {K : τ → Prop} (hp : InCall i v G K p) (ms : List (Move ι κ))
    (hown : ∀ m ∈ ms, m.thread M = i → m = .access i)
    (hothers : OthersKeep M i (fun s s' => v s' = v s) ms p) :
    InCall i v G K (run M ms p) := by
  induction ms generalizing p with
  | nil => exact hp
  | cons m ms ih =>
    refine ih ?_ (fun m' hm' => hown m' (List.mem_cons_of_mem _ hm')) hothers.2
    by_cases hm : m.thread M = i
    · rw [hown m List.mem_cons_self hm]
      simp only [InCall, apply, Pool.access] at hp ⊢
      rcases ht : p.thread i with - | q
      · rw [ht] at hp
        simpa only [ht] using hp
      · rw [ht] at hp
        cases q with
        | pure a =>
          simp only [Function.update_self]
          exact hp p.state rfl trivial
        | access f k =>
          simp only [Function.update_self]
          exact (hp p.state rfl trivial).2.2
    · have hv := hothers.1 hm
      simp only [InCall] at hp ⊢
      rw [apply_thread_of_ne hm]
      rcases ht : p.thread i with - | q
      · rw [ht] at hp
        dsimp only at hp ⊢
        rw [hv]
        exact hp
      · rw [ht] at hp
        exact hp.rely alone_stable hv

/-- From its first move on. -/
theorem call_post {K : τ → Prop} {c : κ} {ms : List (Move ι κ)}
    (hidle : p.thread (M.thread c) = none)
    (hsafe : (alone v G).Safe (fun _ s => K (v s)) (M.program c) p.state)
    (hms : CallMoves M c ms)
    (hothers : OthersKeep M (M.thread c) (fun s s' => v s' = v s) ms p) :
    InCall (M.thread c) v G K (run M ms p) := by
  cases hms with
  | whole =>
    simp only [run_cons, run_nil, apply, hidle, Option.isNone_none, if_true, InCall]
    exact (hsafe.run (fun _ => rfl) trivial).2
  | stepwise own =>
    rw [run_cons]
    refine stretch_post (M := M) ?_ _ own hothers.2
    simp only [apply, hidle, Option.isNone_none, if_true, InCall, Function.update_self]
    exact hsafe

end Pool

namespace Discipline

open Contract Pool

variable {M : Machine ι κ σ} {D : Discipline M} [DecidableEq ι] {i : ι} {p : Pool ι σ}
  {v : σ → τ} {G : τ → τ → Prop}

/-- What the other threads do is a step that thread `i` relies on. -/
theorem Sound.apply_rely (hp : D.Sound p) {m : Move ι κ} (hm : m.thread M ≠ i) :
    D.rely i p.state (Pool.apply M p m).state := by
  cases m with
  | start c =>
    simp only [Pool.apply]
    split <;> exact D.rely_refl i _
  | access j =>
    rcases hp.access_guar j with hsame | hguar
    · simp only [Pool.apply, hsame]
      exact D.rely_refl i _
    · exact D.compatible hm hp.inv (hp.apply (M := M) (.access j)).inv hguar
  | whole c =>
    have hidle := hp.thread (M.thread c)
    simp only [Pool.apply]
    rcases ht : p.thread (M.thread c) with - | q
    · rw [ht] at hidle
      simp only [Option.isNone_none, if_true]
      exact Discipline.Safe.run_rely hm (D.call_safe c p.state hp.inv hidle) hp.inv
    · exact D.rely_refl i _

/-- A move keeps a thread in a call that moves `v` by `G`. -/
theorem Sound.inCall_apply (hp : D.Sound p)
    (hcalls : ∀ c, M.thread c = i → ∀ s, D.inv s → D.idle i s →
      (alone v G).Safe (fun _ _ => True) (M.program c) s)
    (hin : InCall i v G (fun _ => True) p) (m : Move ι κ)
    (hothers : m.thread M ≠ i → v (Pool.apply M p m).state = v p.state) :
    InCall i v G (fun _ => True) (Pool.apply M p m) := by
  by_cases hm : m.thread M = i
  · cases m with
    | start c =>
      have hc : M.thread c = i := hm
      have hidle := hp.thread i
      simp only [InCall, Pool.apply] at hin ⊢
      rw [hc]
      rcases ht : p.thread i with - | q
      · rw [ht] at hidle
        simp only [Option.isNone_none, if_true, Function.update_self]
        exact hcalls c hc p.state hp.inv hidle
      · rw [ht] at hin
        simpa only [Option.isNone_some, Bool.false_eq_true, if_false, ht] using hin
    | access j =>
      obtain rfl : j = i := hm
      exact stretch_post (M := M) (p := p) hin [.access j] (fun m hm _ => by simpa using hm)
        ⟨fun h => absurd rfl h, trivial⟩
    | whole c =>
      have hc : M.thread c = i := hm
      simp only [InCall, Pool.apply] at hin ⊢
      rw [hc]
      rcases ht : p.thread i with - | q
      · simp [ht]
      · rw [ht] at hin
        simpa only [Option.isNone_some, Bool.false_eq_true, if_false, ht] using hin
  · exact stretch_post (M := M) (p := p) hin [m]
      (fun m' hm' h => absurd ((List.mem_singleton.mp hm') ▸ h) hm) ⟨hothers, trivial⟩

/-- What the moves of other threads keep of what is known of them. -/
theorem Sound.othersKeep {E E' : σ → σ → Prop}
    (h : ∀ s s', D.inv s → D.inv s' → D.rely i s s' → E s s' → E' s s') (hp : D.Sound p)
    (ms : List (Move ι κ)) (hE : OthersKeep M i E ms p) : OthersKeep M i E' ms p := by
  induction ms generalizing p with
  | nil => trivial
  | cons m ms ih =>
    exact ⟨fun hm => h _ _ hp.inv (hp.apply m).inv (hp.apply_rely hm) (hE.1 hm), ih (hp.apply m) hE.2⟩

variable {R : σ → σ → Prop}

/-- A relation that every guarantee implies is kept by every move. -/
theorem Sound.apply_guar (hp : D.Sound p) (hrefl : ∀ s, R s s)
    (htrans : ∀ {s₁ s₂ s₃}, R s₁ s₂ → R s₂ s₃ → R s₁ s₃)
    (hguar : ∀ j s s', D.inv s → D.inv s' → D.guar j s s' → R s s') (m : Move ι κ) :
    R p.state (Pool.apply M p m).state := by
  cases m with
  | start c =>
    simp only [Pool.apply]
    split <;> exact hrefl _
  | access j =>
    rcases hp.access_guar j with hsame | hg
    · exact hsame.symm ▸ hrefl p.state
    · exact hguar j _ _ hp.inv (hp.apply (M := M) (.access j)).inv hg
  | whole c =>
    have hidle := hp.thread (M.thread c)
    simp only [Pool.apply]
    rcases ht : p.thread (M.thread c) with - | q
    · rw [ht] at hidle
      simp only [Option.isNone_none, if_true]
      exact (D.call_safe c p.state hp.inv hidle).run_guar hp.inv (D.rely_refl _) hrefl htrans
        (hguar (M.thread c))
    · exact hrefl _

/-- By every run. -/
theorem Sound.run_guar (hp : D.Sound p) (hrefl : ∀ s, R s s)
    (htrans : ∀ {s₁ s₂ s₃}, R s₁ s₂ → R s₂ s₃ → R s₁ s₃)
    (hguar : ∀ j s s', D.inv s → D.inv s' → D.guar j s s' → R s s') (ms : List (Move ι κ)) :
    R p.state (Pool.run M ms p).state := by
  induction ms generalizing p with
  | nil => exact hrefl _
  | cons m ms ih => exact htrans (hp.apply_guar hrefl htrans hguar m) (ih (hp.apply m))

/-- What a move does amounts to `R`. -/
theorem Sound.apply_chain (hp : D.Sound p)
    (hcalls : ∀ c, M.thread c = i → ∀ s, D.inv s → D.idle i s →
      (alone v G).Safe (fun _ _ => True) (M.program c) s)
    (hin : InCall i v G (fun _ => True) p) (hrefl : ∀ s, R s s)
    (htrans : ∀ {s₁ s₂ s₃}, R s₁ s₂ → R s₂ s₃ → R s₁ s₃)
    (hown : ∀ s s', D.inv s → D.inv s' → D.guar i s s' → G (v s) (v s') → R s s')
    (hsame : ∀ s s', D.inv s → D.inv s' → v s' = v s → R s s') (m : Move ι κ)
    (hothers : m.thread M ≠ i → v (Pool.apply M p m).state = v p.state) :
    R p.state (Pool.apply M p m).state := by
  have hinv := (hp.apply m).inv
  by_cases hm : m.thread M = i
  · cases m with
    | start c =>
      simp only [Pool.apply]
      split <;> exact hrefl _
    | access j =>
      obtain rfl : j = i := hm
      have hsafe := hp.thread j
      simp only [InCall] at hin
      simp only [Pool.apply, Pool.access] at hinv ⊢
      rcases ht : p.thread j with - | q
      · exact hrefl _
      · rw [ht] at hin hsafe hinv
        cases q with
        | pure a => exact hrefl _
        | access f k =>
          exact hown _ _ hp.inv hinv (hsafe p.state (D.rely_refl j _) hp.inv).1
            (hin p.state rfl trivial).1
    | whole c =>
      have hidle := hp.thread (M.thread c)
      simp only [Pool.apply]
      rcases ht : p.thread (M.thread c) with - | q
      · rw [ht] at hidle
        simp only [Option.isNone_none, if_true]
        have hsafe := D.call_safe c p.state hp.inv hidle
        refine (hsafe.and (hcalls c hm p.state hp.inv (hm ▸ hidle)).onTop).run_guar
          ⟨hp.inv, trivial⟩ (fun s => ⟨D.rely_refl _ s, rfl⟩) hrefl htrans
          fun s s' hi hi' hg => hown s s' hi.1 hi'.1 (hm ▸ hg.1) hg.2
      · exact hrefl _
  · exact hsame _ _ hp.inv hinv (hothers hm)

/-- **Any calls.** If every call of thread `i` moves `v` by `G` while the others leave it alone,
then what these steps amount to is what a stretch of a run does. -/
theorem Sound.stretch_guar (hp : D.Sound p)
    (hcalls : ∀ c, M.thread c = i → ∀ s, D.inv s → D.idle i s →
      (alone v G).Safe (fun _ _ => True) (M.program c) s)
    (hin : InCall i v G (fun _ => True) p) (hrefl : ∀ s, R s s)
    (htrans : ∀ {s₁ s₂ s₃}, R s₁ s₂ → R s₂ s₃ → R s₁ s₃)
    (hown : ∀ s s', D.inv s → D.inv s' → D.guar i s s' → G (v s) (v s') → R s s')
    (hsame : ∀ s s', D.inv s → D.inv s' → v s' = v s → R s s') (ms : List (Move ι κ))
    (hothers : OthersKeep M i (fun s s' => v s' = v s) ms p) :
    R p.state (Pool.run M ms p).state := by
  induction ms generalizing p with
  | nil => exact hrefl _
  | cons m ms ih =>
    exact htrans (hp.apply_chain hcalls hin hrefl htrans hown hsame m hothers.1)
      (ih (hp.apply m) (hp.inCall_apply hcalls hin m hothers.1) hothers.2)

end Discipline

end Concurrency
