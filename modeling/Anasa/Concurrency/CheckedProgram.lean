import Anasa.Concurrency.Pool

/-!
# Programs that check themselves

A `CheckedProg` is a program that may fail at any point: where a computation overflows, an index is
out of bounds or an assertion does not hold. `Agree` says that a checked program makes the accesses
of another program and never fails, as long as an invariant holds, and that these accesses keep the
invariant. `Pool.run_monitored` carries it over every interleaving: the machine of the checked
programs, which records a failure, reaches the states of the other machine and records none.
-/

namespace Concurrency

variable {ι κ σ τ α β : Type}

/-- A program that may fail. -/
abbrev CheckedProg (σ α : Type) := OptionT (Prog σ) α

namespace CheckedProg

/-- A computation that may fail. -/
def check (o : Option α) : CheckedProg σ α := OptionT.mk (Pure.pure o)

/-- A program that needs no check. -/
def plain (p : Prog σ α) : CheckedProg σ α := OptionT.lift p

/-- One access that computes a value and the new state; it leaves the state alone if the
computation fails. -/
def atomically (f : σ → Option (α × σ)) : CheckedProg σ α :=
  OptionT.mk (.access (fun s => ((f s).map Prod.snd).getD s) fun s => .pure ((f s).map Prod.fst))

/-- One access that computes the new state. -/
def modify (f : σ → Option σ) : CheckedProg σ Unit := atomically fun s => (f s).map ((), ·)

/-- One access that computes a value. -/
def read (r : σ → Option α) : CheckedProg σ α := atomically fun s => (r s).map (·, s)

/-- The programs `f x` for the members `x` of a list, in order. -/
def forEach (f : α → CheckedProg σ Unit) : List α → CheckedProg σ Unit
  | [] => Pure.pure ()
  | x :: xs => do
    f x
    forEach f xs

end CheckedProg

/-! ## Invariants of accesses -/

namespace Prog

/-- Every access of the program keeps `I`. -/
def Keeps (I : σ → Prop) : Prog σ α → Prop
  | .pure _ => True
  | .access f k => ∀ s, I s → I (f s) ∧ (k s).Keeps I

/-- A program that preserves `v` keeps what depends on `v` only. -/
theorem Preserves.keeps {v : σ → τ} {I : σ → Prop} {p : Prog σ α} (hp : p.Preserves v)
    (h : ∀ s s', v s' = v s → I s → I s') : p.Keeps I := by
  induction p with
  | pure a => trivial
  | access f k ih => exact fun s hs => ⟨h s (f s) (hp s).1 hs, ih s (hp s).2⟩

section

variable {I : σ → Prop}

theorem keeps_pure (a : α) : (Pure.pure a : Prog σ α).Keeps I := trivial

theorem Keeps.bind {p : Prog σ α} (hp : p.Keeps I) {g : α → Prog σ β} (hg : ∀ a, (g a).Keeps I) :
    (p >>= g).Keeps I := by
  induction p with
  | pure a => exact hg a
  | access f k ih => exact fun s hs => ⟨(hp s hs).1, ih s (hp s hs).2⟩

theorem keeps_read (r : σ → α) : (read r).Keeps I := fun _ hs => ⟨hs, trivial⟩

theorem keeps_modify {f : σ → σ} (h : ∀ s, I s → I (f s)) : (modify f).Keeps I :=
  fun s hs => ⟨h s hs, trivial⟩

theorem keeps_ite {c : Prop} [Decidable c] {p q : Prog σ α} (hp : p.Keeps I) (hq : q.Keeps I) :
    (if c then p else q).Keeps I := by
  split
  · exact hp
  · exact hq

end

end Prog

/-! ## Agreement -/

/-- From every state with `I`, the checked program makes the accesses of the program and does not
fail, they keep `I`, and the result satisfies `Q`. -/
inductive Agree (I : σ → Prop) (Q : α → Prop) : Prog σ α → Prog σ (Option α) → Prop where
  | pure {a : α} (h : Q a) : Agree I Q (.pure a) (.pure (some a))
  | access {f g : σ → σ} {k : σ → Prog σ α} {l : σ → Prog σ (Option α)}
    (hg : ∀ s, I s → g s = f s) (hi : ∀ s, I s → I (f s))
    (hk : ∀ s, I s → Agree I Q (k s) (l s)) : Agree I Q (.access f k) (.access g l)

namespace Agree

variable {I : σ → Prop} {Q : α → Prop} {R : β → Prop} {p : Prog σ α} {q : Prog σ (Option α)}

theorem bind' (h : Agree I Q p q) {g : α → Prog σ β} {l : α → CheckedProg σ β}
    (hk : ∀ a, Q a → Agree I R (g a) (l a).run) :
    Agree I R (p >>= g) (OptionT.mk q >>= l).run := by
  induction h with
  | pure h => exact hk _ h
  | access hg hi _ ih => exact .access hg hi ih

theorem bind {q : CheckedProg σ α} (h : Agree I Q p q.run) {g : α → Prog σ β}
    {l : α → CheckedProg σ β} (hk : ∀ a, Q a → Agree I R (g a) (l a).run) :
    Agree I R (p >>= g) (q >>= l).run := h.bind' hk

theorem ret {a : α} (h : Q a) :
    Agree I Q (Pure.pure a : Prog σ α) (Pure.pure a : CheckedProg σ α).run := .pure h

/-- A computation that does not fail. -/
theorem check {o : Option β} {b : β} (ho : o = some b) {l : β → CheckedProg σ α}
    (h : Agree I Q p (l b).run) : Agree I Q p (CheckedProg.check o >>= l).run := by
  subst ho
  exact h

/-- A program that needs no check. -/
theorem plain (hp : p.Keeps I) : Agree I (fun _ => True) p (CheckedProg.plain p).run := by
  induction p with
  | pure a => exact .pure trivial
  | access f k ih =>
    exact .access (fun _ _ => rfl) (fun s hs => (hp s hs).1) fun s hs => ih s (hp s hs).2

theorem atomically {f : σ → α × σ} {g : σ → Option (α × σ)} (hg : ∀ s, I s → g s = some (f s))
    (hi : ∀ s, I s → I (f s).2) (hQ : ∀ s, I s → Q (f s).1) :
    Agree I Q (.atomically f) (CheckedProg.atomically g).run := by
  refine .access (fun s hs => ?_) hi fun s hs => ?_
  · rw [hg s hs]
    rfl
  · rw [hg s hs]
    exact .pure (hQ s hs)

theorem modify {f : σ → σ} {g : σ → Option σ} (hg : ∀ s, I s → g s = some (f s))
    (hi : ∀ s, I s → I (f s)) :
    Agree I (fun _ => True) (.modify f) (CheckedProg.modify g).run :=
  atomically (f := fun s => ((), f s)) (fun s hs => by rw [hg s hs]; rfl) hi fun _ _ => trivial

theorem read {r : σ → α} {g : σ → Option α} (hg : ∀ s, I s → g s = some (r s))
    (hQ : ∀ s, I s → Q (r s)) : Agree I Q (.read r) (CheckedProg.read g).run :=
  atomically (f := fun s => (r s, s)) (fun s hs => by rw [hg s hs]; rfl) (fun _ hs => hs) hQ

/-- A computation that does not fail, at the end of a program. -/
theorem ret_check {o : Option α} {a : α} (ho : o = some a) (h : Q a) :
    Agree I Q (Pure.pure a : Prog σ α) (CheckedProg.check o : CheckedProg σ α).run := by
  subst ho
  exact .pure h

/-- An access that needs no check. -/
theorem plain_atomically {f : σ → α × σ} (hi : ∀ s, I s → I (f s).2) (hQ : ∀ s, I s → Q (f s).1) :
    Agree I Q (.atomically f) (CheckedProg.plain (.atomically f)).run :=
  .access (fun _ _ => rfl) hi fun s hs => .pure (hQ s hs)

/-- A read that needs no check. -/
theorem plain_read {r : σ → α} (hQ : ∀ s, I s → Q (r s)) :
    Agree I Q (.read r) (CheckedProg.plain (.read r)).run :=
  .access (fun _ _ => rfl) (fun _ hs => hs) fun s hs => .pure (hQ s hs)

theorem ite {c : Prop} [Decidable c] {p' : Prog σ α} {q q' : CheckedProg σ α}
    (hp : c → Agree I Q p q.run) (hq : ¬ c → Agree I Q p' q'.run) :
    Agree I Q (if c then p else p') (if c then q else q').run := by
  split
  · exact hp ‹_›
  · exact hq ‹_›

theorem forEach {f : β → Prog σ Unit} {g : β → CheckedProg σ Unit} {xs : List β}
    (h : ∀ x ∈ xs, Agree I (fun _ => True) (f x) (g x).run) :
    Agree I (fun _ => True) (Prog.forEach f xs) (CheckedProg.forEach g xs).run := by
  induction xs with
  | nil => exact .pure trivial
  | cons x xs ih =>
    exact (h x List.mem_cons_self).bind fun _ _ => ih fun y hy => h y (List.mem_cons_of_mem _ hy)

end Agree

/-! ## Machines of checked programs -/

/-- A state, and whether a check has failed. -/
structure Monitored (σ : Type) where
  state : σ
  failed : Bool

namespace Monitored

/-- The checked program as one that records a failure. -/
def program : Prog σ (Option Unit) → Prog (Monitored σ) Unit
  | .pure (some _) => .pure ()
  | .pure none => .modify fun m => { m with failed := true }
  | .access f k =>
    .access (fun m => { m with state := f m.state }) fun m => program (k m.state)

end Monitored

/-- The threads of a machine and what their calls do, with checks. -/
structure CheckedMachine (ι κ σ : Type) where
  thread : κ → ι
  program : κ → CheckedProg σ Unit

/-- The machine that records the failures. -/
def CheckedMachine.monitored (N : CheckedMachine ι κ σ) : Machine ι κ (Monitored σ) :=
  ⟨N.thread, fun c => Monitored.program (N.program c).run⟩

section

variable {I : σ → Prop} {Q : Unit → Prop}

/-- A whole call records no failure. -/
theorem Agree.run_program {p : Prog σ Unit} {q : Prog σ (Option Unit)} (h : Agree I Q p q) {s : σ}
    (hs : I s) :
    (Monitored.program q).run ⟨s, false⟩ = ((), ⟨(p.run s).2, false⟩) ∧ I (p.run s).2 := by
  induction h generalizing s with
  | pure _ => exact ⟨rfl, hs⟩
  | @access f g k l hg hi _ ih =>
    show (Monitored.program (l s)).run ⟨g s, false⟩ = _ ∧ _
    rw [hg s hs]
    exact ih s hs (hi s hs)

/-- The checked pool is in the state of the other one, without a failure. -/
structure Tracks (I : σ → Prop) (p : Pool ι σ) (q : Pool ι (Monitored σ)) : Prop where
  state : q.state = ⟨p.state, false⟩
  inv : I p.state
  thread : ∀ i, (p.thread i = none ∧ q.thread i = none) ∨
    ∃ P R, p.thread i = some P ∧ q.thread i = some (Monitored.program R) ∧
      Agree I (fun _ => True) P R

variable [DecidableEq ι]

theorem Tracks.update {p : Pool ι σ} {q : Pool ι (Monitored σ)} (h : Tracks I p q) {s : σ}
    (hs : I s) (i : ι) {t : Option (Prog σ Unit)} {t' : Option (Prog (Monitored σ) Unit)}
    (ht : (t = none ∧ t' = none) ∨ ∃ P R, t = some P ∧ t' = some (Monitored.program R) ∧
      Agree I (fun _ => True) P R) :
    Tracks I ⟨s, Function.update p.thread i t⟩ ⟨⟨s, false⟩, Function.update q.thread i t'⟩ := by
  refine ⟨rfl, hs, fun j => ?_⟩
  by_cases hj : j = i
  · subst hj
    simpa only [Function.update_self] using ht
  · simpa only [Function.update_of_ne hj] using h.thread j

theorem Tracks.access {p : Pool ι σ} {q : Pool ι (Monitored σ)} (h : Tracks I p q) (i : ι) :
    Tracks I (p.access i) (q.access i) := by
  rcases h.thread i with ⟨hp, hq⟩ | ⟨P, R, hp, hq, hagree⟩
  · unfold Pool.access
    rw [hp, hq]
    exact h
  · unfold Pool.access
    rw [hp, hq, h.state]
    cases hagree with
    | pure _ => exact h.update h.inv i (.inl ⟨rfl, rfl⟩)
    | access hg hi hk =>
      have hnext := h.update (hi _ h.inv) i (.inr ⟨_, _, rfl, rfl, hk _ h.inv⟩)
      dsimp only [Monitored.program]
      rw [hg _ h.inv]
      exact hnext

variable {M : Machine ι κ σ} {N : CheckedMachine ι κ σ}

theorem Tracks.apply (hthread : N.thread = M.thread)
    (hagree : ∀ c, Agree I (fun _ => True) (M.program c) (N.program c).run) {p : Pool ι σ}
    {q : Pool ι (Monitored σ)} (h : Tracks I p q) (m : Move ι κ) :
    Tracks I (Pool.apply M p m) (Pool.apply N.monitored q m) := by
  have hsame : ∀ i, (q.thread i).isNone = (p.thread i).isNone := by
    intro i
    rcases h.thread i with ⟨hp, hq⟩ | ⟨P, R, hp, hq, -⟩
    · rw [hp, hq]
      rfl
    · rw [hp, hq]
      rfl
  cases m with
  | access i => exact h.access i
  | start c =>
    simp only [Pool.apply, CheckedMachine.monitored, hthread, hsame]
    split
    · have hnext := h.update h.inv (M.thread c) (.inr ⟨_, _, rfl, rfl, hagree c⟩)
      rw [← h.state] at hnext
      exact hnext
    · exact h
  | whole c =>
    simp only [Pool.apply, CheckedMachine.monitored, hthread, hsame]
    split
    · obtain ⟨hrun, hinv⟩ := (hagree c).run_program h.inv
      refine ⟨?_, hinv, h.thread⟩
      show ((Monitored.program (N.program c).run).run q.state).2 = _
      rw [h.state, hrun]
    · exact h

/-- **Every interleaving.** If every checked call agrees with the call, the checked machine reaches
the states of the machine, in which the invariant holds, and no check fails. -/
theorem Pool.run_monitored (hthread : N.thread = M.thread)
    (hagree : ∀ c, Agree I (fun _ => True) (M.program c) (N.program c).run) {s : σ} (hs : I s)
    (ms : List (Move ι κ)) :
    (Pool.run N.monitored ms (Pool.idle ⟨s, false⟩)).state =
        ⟨(Pool.run M ms (Pool.idle s)).state, false⟩ ∧
      I (Pool.run M ms (Pool.idle s)).state := by
  have hrun : ∀ (p : Pool ι σ) (q : Pool ι (Monitored σ)), Tracks I p q →
      Tracks I (Pool.run M ms p) (Pool.run N.monitored ms q) := by
    induction ms with
    | nil => exact fun _ _ h => h
    | cons m ms ih => exact fun p q h => ih _ _ (h.apply hthread hagree m)
  have hinit : Tracks I (Pool.idle s : Pool ι σ) (Pool.idle ⟨s, false⟩) :=
    ⟨rfl, hs, fun _ => .inl ⟨rfl, rfl⟩⟩
  exact ⟨(hrun _ _ hinit).state, (hrun _ _ hinit).inv⟩

end

end Concurrency
