import Mathlib.Algebra.Order.Ring.Int
import Mathlib.Data.List.Induction
import Mathlib.Algebra.BigOperators.Group.List.Basic

/-!
# Systems of guarded events

The threads of a system that block one another: a step of a thread is an *event*, and an event may
be disabled, as a join is until the thread has ended. A run is a list of events, each of them
enabled when it happens.

`Inductive` is an invariant of all runs. `Amortized` bounds a run: the events that are counted are
paid by what the others cost and by a rank of the states. If one of them is always enabled until the
system is done, it gets there, whichever of them happens first.
-/

namespace Concurrency

/-- What an event does to a state; `none` if it is disabled there. -/
structure EventSystem (σ ε : Type) where
  next : σ → ε → Option σ

namespace EventSystem

variable {σ ε : Type} (E : EventSystem σ ε)

/-- The state after a list of events; `none` if one of them is disabled when its turn comes. -/
def run : List ε → σ → Option σ
  | [], s => some s
  | e :: es, s => (E.next s e).bind (run es)

/-- The event is enabled. -/
def Enabled (s : σ) (e : ε) : Prop := (E.next s e).isSome

/-- Some run leads from one state to the other. -/
def Reaches (s s' : σ) : Prop := ∃ es, E.run es s = some s'

/-- Every event of the run is of the given kind where it happens. -/
def Steps (E : EventSystem σ ε) (kind : σ → ε → Prop) : List ε → σ → Prop
  | [], _ => True
  | e :: es, s => kind s e ∧ ∀ s', E.next s e = some s' → Steps E kind es s'

variable {E} {s s' s'' : σ} {e : ε} {es : List ε}

theorem run_cons : E.run (e :: es) s = some s'' ↔
    ∃ s', E.next s e = some s' ∧ E.run es s' = some s'' := by
  show (E.next s e).bind (E.run es) = some s'' ↔ _
  exact Option.bind_eq_some_iff

theorem Reaches.refl (s : σ) : E.Reaches s s := ⟨[], rfl⟩

theorem Reaches.head (h : E.next s e = some s') (h' : E.Reaches s' s'') : E.Reaches s s'' := by
  obtain ⟨es, hes⟩ := h'
  exact ⟨e :: es, run_cons.mpr ⟨s', h, hes⟩⟩

/-! ## Invariants -/

/-- Every enabled event keeps the predicate. -/
def Inductive (E : EventSystem σ ε) (I : σ → Prop) : Prop :=
  ∀ s e s', I s → E.next s e = some s' → I s'

/-- What events of a kind keep holds after a run of them. -/
theorem Steps.keeps {kind : σ → ε → Prop} {P : σ → Prop} (h : E.Steps kind es s)
    (hkeeps : ∀ s e s', kind s e → P s → E.next s e = some s' → P s') (hs : P s)
    (hrun : E.run es s = some s') : P s' := by
  induction es generalizing s with
  | nil =>
    cases hrun
    exact hs
  | cons e es ih =>
    obtain ⟨s₁, hfirst, hrest⟩ := run_cons.mp hrun
    exact ih (h.2 s₁ hfirst) (hkeeps s e s₁ h.1 hs hfirst) hrest

/-- Events of one kind, whatever the states. -/
theorem Steps.forall_mem {kind : ε → Prop} (h : E.Steps (fun _ => kind) es s)
    (hrun : E.run es s = some s') : ∀ e ∈ es, kind e := by
  induction es generalizing s with
  | nil => nofun
  | cons e es ih =>
    obtain ⟨s₁, hfirst, hrest⟩ := run_cons.mp hrun
    intro e' he'
    rcases List.mem_cons.mp he' with rfl | hmem
    · exact h.1
    · exact ih (h.2 s₁ hfirst) hrest e' hmem

/-- **Invariants** hold after every run. -/
theorem Inductive.run {I : σ → Prop} (h : E.Inductive I) (hs : I s) (hrun : E.run es s = some s') :
    I s' := by
  induction es generalizing s with
  | nil =>
    cases hrun
    exact hs
  | cons e es ih =>
    obtain ⟨s₁, hfirst, hrest⟩ := run_cons.mp hrun
    exact ih (h s e s₁ hs hfirst) hrest

/-! ## Components -/

section

variable {τ δ : Type} {F : EventSystem τ δ} {I : σ → Prop} {f : σ → τ}

/-- Each event of one system is one event of the other at most, as the map sees it. -/
def Projects (E : EventSystem σ ε) (F : EventSystem τ δ) (I : σ → Prop) (f : σ → τ) : Prop :=
  ∀ s e s', I s → E.next s e = some s' → f s' = f s ∨ ∃ d, F.next (f s) d = some (f s')

/-- **A component** reaches no state that its own system does not. -/
theorem Projects.reaches (h : E.Projects F I f) (hinv : E.Inductive I) (hs : I s)
    (hrun : E.run es s = some s') : F.Reaches (f s) (f s') := by
  induction es generalizing s with
  | nil =>
    cases hrun
    exact .refl _
  | cons e es ih =>
    obtain ⟨s₁, hfirst, hrest⟩ := run_cons.mp hrun
    have hlater := ih (hinv s e s₁ hs hfirst) hrest
    rcases h s e s₁ hs hfirst with hsame | ⟨d, hd⟩
    · rwa [hsame] at hlater
    · exact hlater.head hd

end

/-! ## Ranks -/

/-- How many events of the run are counted where they happen. -/
def count (E : EventSystem σ ε) (counted : σ → ε → Bool) : List ε → σ → ℕ
  | [], _ => 0
  | e :: es, s => (if counted s e then 1 else 0) + (E.next s e).elim 0 (count E counted es)

/-- While `during` holds, an event pays with its cost and with what the rank falls if it is
counted. -/
def Amortized (E : EventSystem σ ε) (I during : σ → Prop) (counted : σ → ε → Bool) (cost : ε → ℕ)
    (rank : σ → ℕ) : Prop :=
  ∀ s e s', I s → during s → E.next s e = some s' →
    (if counted s e then 1 else 0) + rank s' ≤ cost e + rank s

/-- All states of the run but perhaps the last satisfy the predicate. -/
def Throughout (E : EventSystem σ ε) (during : σ → Prop) : List ε → σ → Prop :=
  E.Steps fun s _ => during s

variable {I during : σ → Prop} {counted : σ → ε → Bool} {cost : ε → ℕ} {rank : σ → ℕ}

theorem count_cons (h : E.next s e = some s') :
    E.count counted (e :: es) s = (if counted s e then 1 else 0) + E.count counted es s' := by
  show _ + (E.next s e).elim 0 (E.count counted es) = _
  rw [h]
  rfl

/-- Events that are counted in every state. -/
theorem count_eq_countP (f : ε → Bool) (hrun : E.run es s = some s') :
    E.count (fun _ => f) es s = es.countP f := by
  induction es generalizing s with
  | nil => rfl
  | cons e es ih =>
    obtain ⟨s₁, hfirst, hrest⟩ := run_cons.mp hrun
    rw [count_cons hfirst, List.countP_cons, ih hrest]
    omega

/-- **A bound on runs**: what a run counts is paid by its costs and by the rank it begins with. -/
theorem Amortized.count_le (h : E.Amortized I during counted cost rank) (hinv : E.Inductive I)
    (hs : I s) (hduring : E.Throughout during es s) (hrun : E.run es s = some s') :
    E.count counted es s + rank s' ≤ (es.map cost).sum + rank s := by
  induction es generalizing s with
  | nil =>
    cases hrun
    exact Nat.le_refl _
  | cons e es ih =>
    obtain ⟨s₁, hfirst, hrest⟩ := run_cons.mp hrun
    have hstep := h s e s₁ hs hduring.1 hfirst
    have hlater := ih (hinv s e s₁ hs hfirst) (hduring.2 s₁ hfirst) hrest
    rw [count_cons hfirst, List.map_cons, List.sum_cons]
    omega

/-- **Getting there**: if a counted event that costs nothing is enabled as long as `during` holds,
some run of such events ends it. -/
theorem Amortized.reaches (h : E.Amortized I during counted cost rank) (hinv : E.Inductive I)
    (hfree : ∀ s e, counted s e = true → cost e = 0)
    (henabled : ∀ s, I s → during s → ∃ e, counted s e = true ∧ E.Enabled s e) (hs : I s) :
    ∃ es s', E.Steps (fun s e => counted s e = true) es s ∧ E.run es s = some s' ∧ ¬during s' := by
  induction hn : rank s using Nat.strongRecOn generalizing s with
  | ind n ih =>
    by_cases hd : during s
    · obtain ⟨e, he, hsome⟩ := henabled s hs hd
      obtain ⟨s₁, hfirst⟩ := Option.isSome_iff_exists.mp hsome
      have hlt : rank s₁ < n := by
        have hstep := h s e s₁ hs hd hfirst
        rw [if_pos he, hfree s e he] at hstep
        omega
      obtain ⟨es, s', hes, hrun, hdone⟩ := ih _ hlt (hinv s e s₁ hs hfirst) rfl
      refine ⟨e :: es, s', ⟨he, fun s₂ hs₂ => ?_⟩, run_cons.mpr ⟨s₁, hfirst, hrun⟩, hdone⟩
      obtain rfl := Option.some.inj (hfirst.symm.trans hs₂)
      exact hes
    · exact ⟨[], s, trivial, rfl, hd⟩

end EventSystem

end Concurrency
