import Anasa.Concurrency.Pool

/-!
# Programs in an environment

A program with other threads around it, whatever these do: an environment is a step of the others
before each access. `runIn` is the run of a program in an environment; what an environment and the
accesses of a program leave alone, the run leaves alone. A `Team` is a number of programs that run
together, with the environment a further party.
-/

namespace Concurrency

variable {ι σ τ α β : Type}

namespace Prog

/-- The run of a program with the step `env n` of the others before the access that is made as the
`n`-th one; a point is a state with the number of accesses made. -/
def runIn (env : ℕ → σ → σ) : Prog σ α → σ × ℕ → α × σ × ℕ
  | .pure a, t => (a, t)
  | .access f k, t => (k (env t.2 t.1)).runIn env (f (env t.2 t.1), t.2 + 1)

variable {env : ℕ → σ → σ}

@[simp] theorem runIn_pure (a : α) (t : σ × ℕ) : (Pure.pure a : Prog σ α).runIn env t = (a, t) :=
  rfl

@[simp] theorem runIn_bind (p : Prog σ α) (g : α → Prog σ β) (t : σ × ℕ) :
    (p >>= g).runIn env t = (g (p.runIn env t).1).runIn env (p.runIn env t).2 := by
  induction p generalizing t with
  | pure a => rfl
  | access f k ih => exact ih _ _

@[simp] theorem runIn_read (r : σ → α) (t : σ × ℕ) :
    (read r).runIn env t = (r (env t.2 t.1), (env t.2 t.1, t.2 + 1)) := rfl

@[simp] theorem runIn_modify (f : σ → σ) (t : σ × ℕ) :
    (modify f).runIn env t = ((), (f (env t.2 t.1), t.2 + 1)) := rfl

@[simp] theorem runIn_ite (c : Prop) [Decidable c] (p q : Prog σ α) (t : σ × ℕ) :
    (if c then p else q).runIn env t = if c then p.runIn env t else q.runIn env t := by
  split <;> rfl

/-- What the others and the program leave alone. -/
theorem Preserves.runIn {v : σ → τ} {p : Prog σ α} (hp : p.Preserves v)
    (henv : ∀ n s, v (env n s) = v s) (t : σ × ℕ) : v (p.runIn env t).2.1 = v t.1 := by
  induction p generalizing t with
  | pure a => rfl
  | access f k ih =>
    exact (ih _ (hp _).2 _).trans ((hp _).1.trans (henv _ _))

end Prog

/-! ## Programs in every environment -/

namespace Prog

/-- A run depends on the steps of the others that it meets. -/
theorem runIn_congr (env env' : ℕ → σ → σ) (p : Prog σ α) (s : σ) (n n' : ℕ)
    (h : ∀ j, env (n + j) = env' (n' + j)) :
    (p.runIn env (s, n)).1 = (p.runIn env' (s, n')).1 ∧
      (p.runIn env (s, n)).2.1 = (p.runIn env' (s, n')).2.1 := by
  induction p generalizing s n n' with
  | pure a => exact ⟨rfl, rfl⟩
  | access f k ih =>
    have hfirst : env n = env' n' := h 0
    have hrest := ih (env n s) (f (env n s)) (n + 1) (n' + 1) fun j => by
      rw [Nat.add_right_comm, Nat.add_right_comm n']
      exact h (j + 1)
    simp only [runIn, ← hfirst]
    exact hrest

end Prog

/-- **From runs to contracts.** A program is safe if each of its accesses leaves alone what the
others own, and its runs in the environments that leave alone what it owns end well. -/
theorem Contract.Safe.of_runIn {C : Contract σ} {Q : α → σ → Prop} {v : σ → τ} {p : Prog σ α}
    {s : σ} {ρ : Type} {u : σ → ρ} (hinv : ∀ s, C.inv s) (hrely : ∀ s s', C.rely s s' → v s' = v s)
    (hguar : ∀ s s', u s' = u s → C.guar s s') (hp : p.Preserves u)
    (hQ : ∀ a s s', v s' = v s → Q a s → Q a s')
    (hpost : ∀ env : ℕ → σ → σ, (∀ n s, v (env n s) = v s) →
      Q (p.runIn env (s, 0)).1 (p.runIn env (s, 0)).2.1) : C.Safe Q p s := by
  induction p generalizing s with
  | pure a => exact fun s' hr _ => hQ a s s' (hrely s s' hr) (hpost (fun _ s => s) fun _ _ => rfl)
  | access f k ih =>
    intro s' hr _
    refine ⟨hguar _ _ (hp s').1, hinv _, ih s' (hp s').2 fun env henv => ?_⟩
    classical
    -- The environment that leads to `s'` first.
    have hstep := hpost
      (fun n x => if n = 0 then (if x = s then s' else x) else env (n - 1) x) fun n x => by
        split
        · split
          · rename_i hx
            rw [hx, hrely s s' hr]
          · rfl
        · exact henv _ _
    have hsame := Prog.runIn_congr
      (fun n x => if n = 0 then (if x = s then s' else x) else env (n - 1) x) env (k s') (f s')
      1 0 fun j => by
        funext x
        rw [if_neg (by omega)]
        congr 1
        omega
    simp only [Prog.runIn, if_true] at hstep
    rw [← hsame.1, ← hsame.2]
    exact hstep

/-! ## Teams -/

/-- A shared state and programs that run together. -/
structure Team (ι σ α : Type) where
  state : σ
  member : ι → Prog σ α

namespace Team

/-- A member makes its next access, or the others make a step. -/
inductive Move (ι σ : Type) where
  | access (i : ι)
  | others (f : σ → σ)

variable [DecidableEq ι]

/-- The effect of one move; a member that has finished makes no access. -/
def apply (t : Team ι σ α) : Move ι σ → Team ι σ α
  | .access i =>
    match t.member i with
    | .pure _ => t
    | .access f k => ⟨f t.state, Function.update t.member i (k t.state)⟩
  | .others f => { t with state := f t.state }

def run (t : Team ι σ α) (moves : List (Move ι σ)) : Team ι σ α := moves.foldl apply t

/-- One contract for each member, such that each guarantees what the rest rely on. -/
structure Compatible (C : ι → Contract σ) : Prop where
  stable : ∀ i, (C i).Stable
  refl : ∀ i s, (C i).rely s s
  step : ∀ {i j s s'}, i ≠ j → (C i).guar s s' → (C j).inv s → (C j).rely s s' ∧ (C j).inv s'

/-- The step of the others is one that every member relies on. -/
def Respects (C : ι → Contract σ) (f : σ → σ) : Prop :=
  ∀ i s, (C i).inv s → (C i).rely s (f s) ∧ (C i).inv (f s)

/-- Every member is safe. -/
structure Sound (C : ι → Contract σ) (Q : ι → α → σ → Prop) (t : Team ι σ α) : Prop where
  inv : ∀ i, (C i).inv t.state
  safe : ∀ i, (C i).Safe (Q i) (t.member i) t.state

variable {C : ι → Contract σ} {Q : ι → α → σ → Prop} {t : Team ι σ α}

theorem Sound.apply (hC : Compatible C) (h : t.Sound C Q) (m : Move ι σ)
    (hothers : ∀ f, m = .others f → Respects C f) : (t.apply m).Sound C Q := by
  cases m with
  | others f =>
    have hstep := fun i => hothers f rfl i t.state (h.inv i)
    exact ⟨fun i => (hstep i).2, fun i => (h.safe i).rely (hC.stable i) (hstep i).1⟩
  | access i =>
    rcases hm : t.member i with a | ⟨f, k⟩
    · simpa only [Team.apply, hm] using h
    · have hsafe := h.safe i
      rw [hm] at hsafe
      obtain ⟨hguar, hinv, hnext⟩ := hsafe t.state (hC.refl i _) (h.inv i)
      have hstep : ∀ j, i ≠ j → (C j).rely t.state (f t.state) ∧ (C j).inv (f t.state) :=
        fun j hj => hC.step hj hguar (h.inv j)
      simp only [Team.apply, hm]
      refine ⟨fun j => ?_, fun j => ?_⟩
      · rcases eq_or_ne i j with rfl | hj
        · exact hinv
        · exact (hstep j hj).2
      · rcases eq_or_ne i j with rfl | hj
        · simpa only [Function.update_self] using hnext
        · simpa only [Function.update_of_ne hj.symm] using
            (h.safe j).rely (hC.stable j) (hstep j hj).1

/-- **Soundness of teams.** Every interleaving keeps every member safe. -/
theorem Sound.run (hC : Compatible C) (h : t.Sound C Q) (moves : List (Move ι σ))
    (hothers : ∀ f, .others f ∈ moves → Respects C f) : (t.run moves).Sound C Q := by
  induction moves generalizing t with
  | nil => exact h
  | cons m moves ih =>
    refine ih (h.apply hC m fun f hf => hothers f ?_) fun f hf =>
      hothers f (List.mem_cons_of_mem _ hf)
    rw [hf]
    exact List.mem_cons_self

omit [DecidableEq ι] in
/-- A member that has finished has reached its postcondition. -/
theorem Sound.post (hC : Compatible C) (h : t.Sound C Q) {i : ι} {a : α}
    (hm : t.member i = .pure a) : Q i a t.state := by
  have hsafe := h.safe i
  rw [hm] at hsafe
  exact hsafe t.state (hC.refl i _) (h.inv i)

end Team

end Concurrency
